import Scanout.Proofs.FrameFailures
import Scanout.Proofs.FramePresents
import Scanout.Proofs.PendingFlip

namespace Scanout

open Custody (givenIn_idle takenIn_idle)

namespace BufferPool

/-- How a pool may grow in a frame, and the framebuffer it then has more: not at all, by the
framebuffer of an entry that had none, or by one entry at the end with or without a framebuffer. -/
inductive Grown (pool : BufferPool) : Option FramebufferId → BufferPool → Prop
  | same : Grown pool none pool
  | framed {index : Nat} {entry : PoolEntry} (framebuffer : FramebufferId) :
      pool.entries[index]? = some entry → entry.framebuffer = none →
      Grown pool (some framebuffer) (pool.withFramebuffer index entry framebuffer)
  | entered (id : Nat) (made : Option FramebufferId) : (∀ entry ∈ pool.entries, entry.id ≠ id) →
      Grown pool made { pool with entries := pool.entries ++ [⟨id, none, made⟩] }

variable {pool wider : BufferPool} {index : Nat} {entry : PoolEntry} {buffer : Buffer}
  {made : Option FramebufferId} {added : List Exchange}

/-- A framebuffer that a pool has stays where it is. -/
theorem Grown.kept {later : BufferPool} (h : pool.Grown made later) {slot : Nat}
    {framebuffer : FramebufferId} (has : pool.framebuffer? slot = some framebuffer) :
    later.framebuffer? slot = some framebuffer := by
  cases h with
  | same => exact has
  | @framed index entry _ he bare =>
    by_cases same : index = slot
    · subst same
      simp [framebuffer?, he, bare] at has
    · simpa [framebuffer?, withFramebuffer, List.getElem?_set_ne same] using has
  | entered id made _ =>
    obtain ⟨entry, he, hf⟩ := Option.bind_eq_some_iff.mp has
    have inside := (List.getElem?_eq_some_iff.mp he).1
    simpa [framebuffer?, List.getElem?_append_left inside] using has

/-- That a pool grew by the framebuffers that were made in some calls, and none was removed. -/
structure GrownBy (pool : BufferPool) (added : List Exchange) (later : BufferPool) : Prop where
  grown : ∃ made, pool.Grown made later ∧ framebuffers.takenIn added = made.toList
  unremoved : framebuffers.givenIn added = []

theorem GrownBy.same (idle : ∀ e ∈ added, framebuffers.Idle e) : pool.GrownBy added pool :=
  ⟨⟨none, .same, takenIn_idle idle⟩, givenIn_idle idle⟩

theorem GrownBy.within {later : BufferPool} (h : pool.GrownBy added later)
    (before after : List Exchange) (hb : ∀ e ∈ before, framebuffers.Idle e)
    (ha : ∀ e ∈ after, framebuffers.Idle e) :
    pool.GrownBy (before ++ (added ++ after)) later := by
  obtain ⟨⟨made, grown, taken⟩, kept⟩ := h
  exact ⟨⟨made, grown, by simp [takenIn_idle hb, takenIn_idle ha, taken]⟩,
    by simp [givenIn_idle hb, givenIn_idle ha, kept]⟩

theorem EnsureRecord.grown {result : Except DisplayError FramebufferId × BufferPool}
    (h : pool.EnsureRecord index entry buffer result added)
    (he : pool.entries[index]? = some entry) : pool.GrownBy added result.2 := by
  cases h with
  | cached => exact .same (List.forall_mem_nil _)
  | failed bare hf => exact ⟨⟨none, .same, hf.takenIn.1⟩, hf.takenIn.2⟩
  | @created framebuffer _ bare hf =>
    exact ⟨⟨some framebuffer, .framed framebuffer he bare, hf.takenIn.1⟩, hf.takenIn.2⟩

/-- The entry of a buffer that was not seen before comes to the end, and may get a framebuffer. -/
theorem EnsureRecord.grown_taken {result : Except DisplayError FramebufferId × BufferPool}
    (h : wider.EnsureRecord index entry buffer result added)
    (he : pool.entryFor buffer = (index, entry, wider)) : pool.GrownBy added result.2 := by
  rcases entryFor_cases he with ⟨rfl, found, -⟩ | ⟨rfl, rfl, rfl, fresh⟩
  · exact h.grown found
  · cases h with
    | cached has => cases has
    | failed _ hf => exact ⟨⟨none, .entered buffer.id none fresh, hf.takenIn.1⟩, hf.takenIn.2⟩
    | @created framebuffer _ _ hf =>
      have last : pool.Grown _ _ := .entered buffer.id (some framebuffer) fresh
      exact ⟨⟨some framebuffer, by simpa [withFramebuffer] using last, hf.takenIn.1⟩,
        hf.takenIn.2⟩

end BufferPool

namespace Pipeline

variable {p q : Pipeline} {pool : BufferPool} {e : DisplayError} {added : List Exchange}

theorem DrawRecord.grown {frame : Nat} {result : Except DisplayError Drawn × BufferPool}
    (h : DrawRecord pool frame result added) : pool.GrownBy added result.2 := by
  cases h with
  | slotEmpty => exact .same (by simp)
  | slotUndrawn => exact .same (by simp [Custody.Idle, framebuffers])
  | slotUnframed fence _ he _ hr =>
    exact (hr.grown he).within [_] [.closed fence] (by simp [Custody.Idle, framebuffers])
      (by simp [Custody.Idle, framebuffers])
  | slotDrawn _ _ he _ hr =>
    simpa using (hr.grown he).within [_] [] (by simp [Custody.Idle, framebuffers]) (by simp)
  | surfaceUndrawn => exact .same (by simp [Custody.Idle, framebuffers])
  | surfaceUnlocked => exact .same (by simp [Custody.Idle, framebuffers])
  | @surfaceUnframed _ buffer _ _ _ _ _ _ fence _ he hr =>
    exact (hr.grown_taken he).within [_, _] [.released buffer, .closed fence]
      (by simp [Custody.Idle, framebuffers]) (by simp [Custody.Idle, framebuffers])
  | surfaceDrawn _ _ he hr =>
    simpa using (hr.grown_taken he).within [_, _] [] (by simp [Custody.Idle, framebuffers])
      (by simp)

/-- What a dropped frame leaves: all as it was, but for the frame's number, what the pool grew by,
and the pending flip, which is still pending or was waited for. -/
structure Dropped (p : Pipeline) (e : DisplayError) (q : Pipeline) (added : List Exchange) :
    Prop where
  state : q = { p with frame := p.frame + 1, pool := q.pool, pendingFlip := q.pendingFlip }
  pool : p.pool.GrownBy added q.pool
  kept : ∀ slot framebuffer, p.pool.framebuffer? slot = some framebuffer →
    q.pool.framebuffer? slot = some framebuffer
  unwaited : e.precedesWait = true → q.pendingFlip = p.pendingFlip ∧ waits added = []
  waited : e.precedesWait = false → q.pendingFlip = none ∧
    waits added = p.pendingFlip.toList.map fun fence => (fence, .ok ())

theorem FinishRecord.waits_settled (h : p.FinishRecord (.ok (), q) added) :
    waits added = p.pendingFlip.toList.map fun fence => (fence, .ok ()) := by
  cases h with
  | idle none => simp [none]
  | waited pending => simp [pending, Exchange.wait?]

/-- A frame that fails with an error that costs one frame only is dropped. -/
theorem FrameRecord.dropped (h : p.FrameRecord (.error e, q) added)
    (perFrame : e.isPerFrame = true) : p.Dropped e q added := by
  cases h with
  | @undrawn pool _ queued drawing hq hd =>
    have idle := fun x hx => Exchange.aside_idle (hq.aside x hx)
    have grown : p.pool.GrownBy (queued ++ drawing) pool := by
      simpa using hd.grown.within queued [] idle (by simp)
    obtain ⟨made, larger, -⟩ := grown.grown
    have early := hd.fails_early
    refine ⟨rfl, grown, fun _ _ => larger.kept, fun _ => ⟨rfl, waits_of_drawn hq hd⟩, ?_⟩
    simp [early]
  | unwaited hq hd hw =>
    -- A wait that fails costs more than the frame.
    obtain ⟨cause, rfl⟩ := hw.fails_waiting
    simp [DisplayError.isPerFrame] at perFrame
  | @committed pool drawn ready _ queued drawing waiting flipping hq hd hw hf =>
    have shown : waits flipping = [] := by
      apply waits_of_stage
      have flipped := hf.stage
      grind
    have idle := fun x hx => Exchange.aside_idle (hq.aside x hx)
    have idly : ∀ x ∈ waiting ++ flipping, framebuffers.Idle x := by
      intro x hx
      rcases List.mem_append.mp hx with hx | hx
      · exact Exchange.aside_idle (hw.aside x hx)
      · exact Exchange.aside_idle (hf.aside x hx)
    have grown := hd.grown.within queued (waiting ++ flipping) idle idly
    obtain ⟨made, larger, -⟩ := grown.grown
    obtain rfl : ready = _ := hw.leaves
    cases hf with
    | refused hc =>
      have late := hc.fails_late
      refine ⟨rfl, grown, fun _ _ => larger.kept, by simp [late], fun _ => ⟨rfl, ?_⟩⟩
      rw [← List.append_assoc, waits_append, waits_of_drawn hq hd, waits_append, shown,
        hw.waits_settled]
      simp

end Pipeline

theorem AnswerRecord.presented_of_error {σ : Type} {renderer : Renderer σ} {waiter : Waiter σ}
    {p : Pipeline} {reply : Reply × Pipeline} {e : DisplayError} {added : List Exchange}
    (h : AnswerRecord p (.present renderer waiter) reply added) (failed : reply.1.error? = some e) :
    reply.1 = .presented (.error e) := by
  cases h with
  | @presented _ _ _ result _ _ =>
    cases result with
    | ok _ => cases failed
    | error _ => exact congrArg _ (congrArg _ (Option.some.inj failed))

/-- A frame that fails with an error that costs one frame only leaves everything as it was for the
next, which is the next by number: what is set up, what is shown and how it counts. The pool keeps
what it has, and may have got one more framebuffer or entry. -/
theorem dropped_frame_keeps {σ : Type} [World σ] (device : Device σ) (allocator : Allocator σ)
    (renderer : Renderer σ) (waiter : Waiter σ) (world : σ) {p q : Pipeline} {e : DisplayError}
    {r : Recorded σ}
    (h : recordCall device allocator p (.present renderer waiter) world =
      ((.presented (.error e), q), r))
    (perFrame : e.isPerFrame = true) : p.Dropped e q r.transcript := by
  have record := recordCall_record device allocator p (.present renderer waiter) world
  rw [h] at record
  cases record with
  | presented hf => exact hf.dropped perFrame

namespace Memory

/-- The world in memory after one frame, where the next commit is rejected. -/
def refusingNext : Memory :=
  { (frames .plain 1).2.world with rejections := 1 }

end Memory

/-- A frame in memory whose commit is rejected after the flip before it was waited for. -/
theorem dropped_frame_keeps_in_memory :
    ∃ p q e r fence, (Memory.frames .plain 1).1 = .ok p ∧ p.pendingFlip = some fence ∧
      Memory.call p (.present MemoryRenderer.plain.renderer Memory.waiter) Memory.refusingNext =
        ((.presented (.error e), q), r) ∧
      e.isPerFrame = true ∧ e.precedesWait = false ∧ p.Dropped e q r.transcript := by
  have checked : ((Memory.frames .plain 1).1.toOption.bind fun p => p.pendingFlip.bind fun _ =>
      (Memory.call p (.present MemoryRenderer.plain.renderer Memory.waiter)
        Memory.refusingNext).1.1.error?.map fun e => e.isPerFrame && !e.precedesWait) =
          some true := by
    decide +kernel
  obtain ⟨p, hp, checked⟩ := Option.bind_eq_some_iff.mp checked
  obtain ⟨fence, hf, checked⟩ := Option.bind_eq_some_iff.mp checked
  obtain ⟨e, failed, dropped⟩ := Option.map_eq_some_iff.mp checked
  obtain ⟨perFrame, late⟩ := Bool.and_eq_true_iff.mp dropped
  have presented := (recordCall_record _ _ p _ _).presented_of_error failed
  have call := pair_of_fst (pair_of_fst presented)
  exact ⟨p, _, e, _, fence, ok_of_toOption hp, hf, call, perFrame, by simpa using late,
    dropped_frame_keeps _ _ _ _ _ call perFrame⟩

end Scanout
