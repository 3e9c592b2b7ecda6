import Mathlib.Algebra.Ring.Parity
import Scanout.Proofs.ShownSlot

namespace Scanout

theorem Pipeline.FrameRecord.frame {p : Pipeline} {result : Except DisplayError Unit × Pipeline}
    {added : List Exchange} (h : p.FrameRecord result added) :
    result.2.frame = p.frame + 1 := by
  cases h with
  | undrawn => rfl
  | unwaited _ _ hw => exact congrArg Pipeline.frame hw.leaves
  | committed _ _ hw hf =>
    have finished := congrArg Pipeline.frame hw.leaves
    cases hf with
    | shown => exact finished
    | refused => exact finished

/-- The number of frames that begin in a stretch of a transcript. -/
def framesBegun (events : List Exchange) : Nat :=
  events.countP (·.beginsFrame)

@[simp] theorem framesBegun_append (events later : List Exchange) :
    framesBegun (events ++ later) = framesBegun events + framesBegun later :=
  List.countP_append

theorem framesBegun_unmarked {events : List Exchange} (h : ∀ e ∈ events, e.isMark = false) :
    framesBegun events = 0 := by
  apply List.countP_eq_zero.mpr
  intro e he
  have unmarked := h e he
  cases e <;> simp_all [Exchange.isMark, Exchange.beginsFrame]

theorem framesBegun_frame {mark : Exchange} {added : List Exchange}
    (hb : mark.beginsFrame = true) (h : ∀ e ∈ added, e.isMark = false) :
    framesBegun (mark :: added) = 1 := by
  have unmarked := framesBegun_unmarked h
  unfold framesBegun at *
  rw [List.countP_cons_of_pos hb, unmarked]

theorem StepRecord.frames {p q : Pipeline} {added : List Exchange} (h : StepRecord p added q) :
    q.frame = p.frame + framesBegun added := by
  cases h with
  | marked _ hb => simp [framesBegun, hb]
  | frame _ hb hf =>
    rw [framesBegun_frame hb hf.unmarked]
    exact hf.frame
  | finish hw =>
    have unmarked : framesBegun added = 0 := by
      apply framesBegun_unmarked
      intro e he
      apply Bool.eq_false_iff.mpr
      intro mark
      have waited := hw.stage e he
      simp [isMark_iff.mp mark] at waited
    have left := congrArg Pipeline.frame hw.leaves
    rw [unmarked]
    exact left
  | timed => rfl

/-- The frame counter counts the frames that begin, shown or not. -/
theorem Steps.frames {p q : Pipeline} {added : List Exchange} (h : Steps p added q) :
    q.frame = p.frame + framesBegun added := by
  induction h with
  | none => rfl
  | more step _ ih =>
    have now := step.frames
    rw [framesBegun_append]
    omega

/-- The two slots of a ring take turns by the number of the frame. -/
theorem BufferPool.slotForFrame_ring {pool : BufferPool}
    (h : pool.entries.length = Pipeline.ringSize) (frame : Nat) :
    pool.slotForFrame frame = frame % 2 := by
  unfold slotForFrame
  rw [h]
  rfl

theorem BufferPool.RingKept.slotForFrame {pool later : BufferPool} (h : pool.RingKept later)
    (frame : Nat) : later.slotForFrame frame = pool.slotForFrame frame := by
  unfold BufferPool.slotForFrame
  rw [h.slots]

/-- Where the renderer is called, the frames begun since some state say into which slot. -/
theorem Steps.at_render {q p' : Pipeline} {past after : List Exchange} {target : RenderTarget}
    {frame : Nat} {answer : Except Failure Fence} (ring : q.pool.surface = .none)
    (h : Steps q (past ++ .rendered target frame answer :: after) p') :
    ∃ given buffer, framesBegun past = given + 1 ∧ frame = q.frame + given ∧
      target = .slot (q.pool.slotForFrame frame) buffer ∧
      p'.pool.buffer? (q.pool.slotForFrame frame) = some buffer := by
  have hm := h.midFrame rfl rfl
  generalize he : Exchange.rendered target frame answer = e at hm
  cases hm with
  | @intro start stop result past sofar later rest mark _ began hm hb hf ended =>
    subst he
    obtain ⟨-, hn, offers⟩ := hf.at_render
    have kept := ringKept_compositional.steps began ring
    have keptOn := ringKept_compositional.frame hf kept.surface
    have keptLast := keptOn.trans (ringKept_compositional.steps ended keptOn.surface)
    have counted := began.frames
    rcases offers with ⟨-, buffer, hbuf, ht⟩ | ⟨surface, hs, -⟩
    · rw [kept.slotForFrame] at hbuf ht
      refine ⟨framesBegun past, buffer, ?_, by omega, ht, ?_⟩
      · rw [framesBegun_append, framesBegun_frame hb hf.unmarked_before]
      · rw [keptLast.buffers, hbuf]
    · simp [kept.surface] at hs

theorem Pipeline.FrameRecord.drawn_before {p : Pipeline}
    {result : Except DisplayError Unit × Pipeline} {sofar later : List Exchange}
    {txn : Transaction} {answer : Except CallError (Option Fence)}
    (h : p.FrameRecord result (sofar ++ .submitted txn answer :: later)) :
    ∀ e ∈ later, e.stage ≠ .render := by
  obtain ⟨pool, drawn, q, queued, drawing, waiting, begun, -, -, -, hf, -⟩ := h.at_commit rfl
  intro e he
  rcases hf.stage e (by simp [he]) with stage | stage <;> simp [stage]

/-- Between a frame that is shown and the next one that is drawn, every frame that is given up
turns the ring once more. -/
theorem Pipeline.FrameRecord.redrawn_iff {p q p' : Pipeline} {result : Except DisplayError Unit}
    {sofar later since after : List Exchange} {txn : Transaction} {outFence : Option Fence}
    {target : RenderTarget} {frame : Nat} {answer : Except Failure Fence}
    (h : p.FrameRecord (result, q) (sofar ++ .submitted txn (.ok outFence) :: later))
    (hs : Steps q (since ++ .rendered target frame answer :: after) p')
    (ring : p.pool.surface = none) (slots : p.pool.entries.length = Pipeline.ringSize)
    (described : p.tables.Describes p.topology) :
    ∃ shown shownBuffer fence slot buffer given,
      .rendered (.slot shown shownBuffer) p.frame (.ok fence) ∈ sofar ∧
      p'.showsSlot txn shown = true ∧ p'.pool.buffer? shown = some shownBuffer ∧
      target = .slot slot buffer ∧ p'.pool.buffer? slot = some buffer ∧
      framesBegun (later ++ since) = given + 1 ∧ (slot = shown ↔ Odd given) := by
  have kept : p.pool.RingKept q.pool := ringKept_compositional.frame h ring
  have keptLast := ringKept_compositional.steps hs kept.surface
  obtain ⟨shownBuffer, fence, hshown, drawn, shows⟩ := h.shows_slot ring described
  obtain ⟨given, buffer, hgiven, hframe, htarget, hbuffer⟩ := hs.at_render kept.surface
  have quiet : framesBegun later = 0 := framesBegun_unmarked fun x hx => h.unmarked x (by simp [hx])
  have counted : q.frame = p.frame + 1 := h.frame
  refine ⟨p.pool.slotForFrame p.frame, shownBuffer, fence, q.pool.slotForFrame frame, buffer,
    given, drawn, ?_, ?_, htarget, hbuffer, ?_, ?_⟩
  · exact Pipeline.showsSlot_later (sameOutput_compositional.steps hs) keptLast shows
  · rw [keptLast.buffers, kept.buffers]
    exact hshown
  · rw [framesBegun_append, quiet, Nat.zero_add]
    exact hgiven
  · -- The counter moved on by one for the frame that is shown and by one for each given up.
    rw [kept.slotForFrame, BufferPool.slotForFrame_ring slots, BufferPool.slotForFrame_ring slots,
      Nat.odd_iff]
    omega

/-- A frame is drawn into the slot that the screen was last told to show exactly if an odd number
of frames was given up since. -/
theorem ring_slot_redrawn_iff {σ : Type} [World σ] (device : Device σ) (allocator : Allocator σ)
    (options : Options) (requests : List (Request σ)) (world : σ) {p : Pipeline} {r : Recorded σ}
    {before between after : List Exchange} {txn : Transaction} {outFence : Option Fence}
    {target : RenderTarget} {frame : Nat} {answer : Except Failure Fence}
    (ring : options.surfaceless = true)
    (h : recordLife device allocator options requests world = (.ok p, r))
    (hr : r.transcript = before ++ .submitted txn (.ok outFence) ::
      (between ++ .rendered target frame answer :: after))
    (last : accepted between = []) :
    (accepted (before ++ .submitted txn (.ok outFence) :: between)).getLast? = some txn ∧
    ∃ shown shownBuffer shownFrame fence slot buffer given,
      .rendered (.slot shown shownBuffer) shownFrame (.ok fence) ∈ frameSoFar before ∧
      p.showsSlot txn shown = true ∧ p.pool.buffer? shown = some shownBuffer ∧
      target = .slot slot buffer ∧ p.pool.buffer? slot = some buffer ∧
      framesBegun between = given + 1 ∧ (slot = shown ↔ Odd given) := by
  refine ⟨by simp [last, Exchange.accepted?], ?_⟩
  have life := recordLife_record device allocator options requests world
  rw [h, hr] at life
  generalize ha : between ++ .rendered target frame answer :: after = tail at life
  generalize hb : Exchange.submitted txn (.ok outFence) = submission at life
  obtain ⟨p₀, p', readying, past, hp, fresh, quiet, rfl, hm⟩ := life.midFrame (by rw [← hb]; rfl)
  cases Except.ok.inj hp
  cases hm with
  | @intro start q result past sofar later rest mark _ began hm hbegin hf ended =>
    subst hb
    have notLater : .rendered target frame answer ∉ later :=
      fun hx => hf.drawn_before _ hx rfl
    obtain ⟨since, rfl, rfl⟩ := split_late ha.symm notLater
    have bare : p₀.pool.surface = none := by
      have surface := fresh.pool.surface
      rw [ring] at surface
      exact Option.isNone_iff_eq_none.mp surface
    have kept := ringKept_compositional.steps began bare
    have described := (sameOutput_compositional.steps began).describes fresh.tables
    obtain ⟨shown, shownBuffer, fence, slot, buffer, given, drawn, redrawn⟩ :=
      hf.redrawn_iff ended kept.surface (kept.slots.trans (fresh.pool.ring ring)) described
    refine ⟨shown, shownBuffer, start.frame, fence, slot, buffer, given, ?_, redrawn⟩
    rw [← List.append_assoc, frameSoFar_mark hm hf.unmarked_before]
    exact drawn

/-- The slot that is drawn into. -/
def Exchange.drawnSlot? : Exchange → Option Nat
  | rendered (.slot slot _) _ _ => some slot
  | _ => none

theorem rendered_of_drawnSlot? {e : Exchange} {slot : Nat} (h : e.drawnSlot? = some slot) :
    ∃ buffer frame answer, e = .rendered (.slot slot buffer) frame answer := by
  unfold Exchange.drawnSlot? at h
  split at h
  next buffer frame answer =>
    cases Option.some.inj h
    exact ⟨buffer, frame, answer, rfl⟩
  next => simp at h

/-- Whether a call is not a wait that failed. -/
def Exchange.waitsWell : Exchange → Bool
  | waited _ (.error _) | gpuWaited _ (.error _) => false
  | _ => true

/-- The second frame in memory is drawn into the slot that is not shown. -/
theorem ring_slot_not_redrawn_in_memory :
    ∃ p before txn outFence between target frame answer after,
      (Memory.frames .plain 2).1 = .ok p ∧
      (Memory.frames .plain 2).2.transcript = before ++ .submitted txn (.ok outFence) ::
        (between ++ .rendered target frame answer :: after) ∧
      accepted between = [] ∧ ∃ shown slot buffer, p.showsSlot txn shown = true ∧
        target = .slot slot buffer ∧ slot ≠ shown := by
  have events : ((Memory.frames .plain 2).1.toOption.bind fun _ =>
      (Memory.frames .plain 2).2.transcript[60]?.bind fun e => e.accepted?.bind fun _ =>
        ((Memory.frames .plain 2).2.transcript.drop 61)[4]?.bind Exchange.drawnSlot?).isSome =
          true := by
    decide +kernel
  have none : accepted (((Memory.frames .plain 2).2.transcript.drop 61).take 4) = [] := by
    decide +kernel
  have one : framesBegun (((Memory.frames .plain 2).2.transcript.drop 61).take 4) = 1 := by
    decide +kernel
  obtain ⟨slot, chosen⟩ := Option.isSome_iff_exists.mp events
  obtain ⟨p, hp, chosen⟩ := Option.bind_eq_some_iff.mp chosen
  obtain ⟨e, he, chosen⟩ := Option.bind_eq_some_iff.mp chosen
  obtain ⟨txn, htxn, chosen⟩ := Option.bind_eq_some_iff.mp chosen
  obtain ⟨x, hx, hslot⟩ := Option.bind_eq_some_iff.mp chosen
  obtain ⟨outFence, rfl⟩ := submitted_of_accepted? htxn
  obtain ⟨buffer, frame, answer, rfl⟩ := rendered_of_drawnSlot? hslot
  have life := ok_of_toOption hp
  have split := split_twice he hx
  unfold Memory.frames at life split none one ⊢
  have lived := pair_of_fst life
  obtain ⟨-, shown, _, _, _, slot', _, given, -, shows, -, ht, -, hgiven, parity⟩ :=
    ring_slot_redrawn_iff _ _ _ _ _ rfl lived split none
  refine ⟨p, _, txn, outFence, _, _, frame, answer, _, life, split, none, shown, slot', _, shows,
    ht, ?_⟩
  rw [one] at hgiven
  intro same
  obtain rfl : given = 0 := by omega
  simpa using parity.mp same

/-- After a frame was given up, the next one in memory is drawn into the slot that is shown, though
every wait goes well. -/
theorem shown_slot_redrawn_in_memory :
    ∃ p before txn outFence between slot buffer frame answer after,
      (Memory.frames (.failingAt .plain 1) 3).1 = .ok p ∧
      (Memory.frames (.failingAt .plain 1) 3).2.transcript =
        before ++ .submitted txn (.ok outFence) ::
          (between ++ .rendered (.slot slot buffer) frame answer :: after) ∧
      (Memory.frames (.failingAt .plain 1) 3).2.transcript.all Exchange.waitsWell = true ∧
      accepted between = [] ∧ p.showsSlot txn slot = true := by
  have events : ((Memory.frames (.failingAt .plain 1) 3).1.toOption.bind fun p =>
      (Memory.frames (.failingAt .plain 1) 3).2.transcript[60]?.bind fun e =>
        e.accepted?.bind fun txn =>
          ((Memory.frames (.failingAt .plain 1) 3).2.transcript.drop 61)[7]?.bind fun x =>
            x.drawnSlot?.map (p.showsSlot txn)) = some true := by
    decide +kernel
  obtain ⟨p, hp, chosen⟩ := Option.bind_eq_some_iff.mp events
  obtain ⟨e, he, chosen⟩ := Option.bind_eq_some_iff.mp chosen
  obtain ⟨txn, htxn, chosen⟩ := Option.bind_eq_some_iff.mp chosen
  obtain ⟨x, hx, chosen⟩ := Option.bind_eq_some_iff.mp chosen
  obtain ⟨slot, hslot, shows⟩ := Option.map_eq_some_iff.mp chosen
  obtain ⟨outFence, rfl⟩ := submitted_of_accepted? htxn
  obtain ⟨buffer, frame, answer, rfl⟩ := rendered_of_drawnSlot? hslot
  refine ⟨p, _, txn, outFence, _, slot, buffer, frame, answer, _, ok_of_toOption hp,
    split_twice he hx, ?_, ?_, shows⟩
  · decide +kernel
  · decide +kernel

end Scanout
