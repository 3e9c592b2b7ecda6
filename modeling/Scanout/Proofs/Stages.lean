import Scanout.Proofs.History

namespace Scanout

/-- The parts of the work on a frame, and what is around it. -/
inductive Stage
  | readying
  | call
  | gpuWait
  | render
  | prepare
  | wait
  | commit
  | handBack
deriving DecidableEq

/-- The part that a call belongs to. -/
def Exchange.stage : Exchange → Stage
  | called _ | polled _ => .call
  | enabled _ _ | resourcesRead _ | connectorRead _ _ | encoderRead _ _ | planesRead _
  | planeRead _ _ | propertiesRead _ _ | nameRead _ _ | allocated _ _ _
  | surfaceCreated _ _ _ => .readying
  | gpuWaited _ _ => .gpuWait
  | rendered _ _ _ => .render
  | locked _ _ | framebufferAdded _ _ _ => .prepare
  | waited _ _ => .wait
  | blobCreated _ _ | submitted _ _ | blobDestroyed _ _ => .commit
  | released _ | freed _ | closed _ | framebufferRemoved _ _ | surfaceDropped _ => .handBack

theorem stage_of_isSetUp {e : Exchange} (h : e.isSetUp = true) :
    e.stage = .readying ∨ e.stage = .handBack := by
  cases e <;> simp_all [Exchange.isSetUp, Exchange.stage]

theorem isMark_iff {e : Exchange} : e.isMark = true ↔ e.stage = .call := by
  cases e <;> simp [Exchange.isMark, Exchange.stage]

theorem FramebufferRecord.stage {layout : Layout} {result : Except DisplayError FramebufferId}
    {added : List Exchange} (h : FramebufferRecord layout result added) :
    ∀ e ∈ added, e.stage = .prepare := by
  cases h <;> simp [Exchange.stage]

theorem BufferPool.EnsureRecord.stage {pool : BufferPool} {index : Nat} {entry : PoolEntry}
    {buffer : Buffer} {result : Except DisplayError FramebufferId × BufferPool}
    {added : List Exchange} (h : pool.EnsureRecord index entry buffer result added) :
    ∀ e ∈ added, e.stage = .prepare := by
  cases h with
  | cached => simp
  | failed _ hf => exact hf.stage
  | created _ hf => exact hf.stage

/-- What a frame is drawn into: the ring's slot for it, or the surface. -/
def BufferPool.Offers (pool : BufferPool) (frame : Nat) (target : RenderTarget) : Prop :=
  (pool.surface = none ∧ ∃ buffer, pool.buffer? (pool.slotForFrame frame) = some buffer ∧
    target = .slot (pool.slotForFrame frame) buffer) ∨
  ∃ surface, pool.surface = some surface ∧ target = .surface surface

theorem BufferPool.buffer?_of_entry {pool : BufferPool} {slot : Nat} {entry : PoolEntry}
    {buffer : Buffer} (he : pool.entries[slot]? = some entry) (hb : entry.buffer = some buffer) :
    pool.buffer? slot = some buffer := by
  simp [buffer?, he, hb]

namespace Pipeline

/-- The calls of a drawing: none, or the renderer's and some more around its buffer. -/
inductive DrawCalls (pool : BufferPool) (frame : Nat) :
    Except DisplayError Drawn → List Exchange → Prop
  | none {e : DisplayError} : DrawCalls pool frame (.error e) []
  | undrawn {target : RenderTarget} {e : DisplayError} (answer : Except Failure Fence)
      {rest : List Exchange} : pool.Offers frame target →
      (∀ x ∈ rest, x.stage = .prepare ∨ x.stage = .handBack) →
      DrawCalls pool frame (.error e) (.rendered target frame answer :: rest)
  | drawn {target : RenderTarget} {drawn : Drawn} {rest : List Exchange} :
      pool.Offers frame target → (∀ x ∈ rest, x.stage = .prepare ∨ x.stage = .handBack) →
      DrawCalls pool frame (.ok drawn) (.rendered target frame (.ok drawn.fence) :: rest)

theorem DrawRecord.calls {pool : BufferPool} {frame : Nat}
    {result : Except DisplayError Drawn × BufferPool} {added : List Exchange}
    (h : DrawRecord pool frame result added) : DrawCalls pool frame result.1 added := by
  cases h with
  | slotEmpty => exact .none
  | slotUndrawn failure hs hb => exact .undrawn _ (.inl ⟨hs, _, hb, rfl⟩) (by simp)
  | slotUnframed fence hs he hb hr =>
    refine .undrawn _ (.inl ⟨hs, _, BufferPool.buffer?_of_entry he hb, rfl⟩) ?_
    have ready := hr.stage
    grind [Exchange.stage]
  | slotDrawn fence hs he hb hr =>
    exact .drawn (.inl ⟨hs, _, BufferPool.buffer?_of_entry he hb, rfl⟩)
      fun x hx => .inl (hr.stage x hx)
  | surfaceUndrawn failure hs => exact .undrawn _ (.inr ⟨_, hs, rfl⟩) (by simp)
  | surfaceUnlocked fence cause hs =>
    exact .undrawn _ (.inr ⟨_, hs, rfl⟩) (by simp [Exchange.stage])
  | surfaceUnframed fence hs _ hr =>
    refine .undrawn _ (.inr ⟨_, hs, rfl⟩) ?_
    have ready := hr.stage
    grind [Exchange.stage]
  | surfaceDrawn fence hs _ hr =>
    refine .drawn (.inr ⟨_, hs, rfl⟩) ?_
    have ready := hr.stage
    grind [Exchange.stage]

theorem DrawCalls.stage {pool : BufferPool} {frame : Nat} {result : Except DisplayError Drawn}
    {added : List Exchange} (h : DrawCalls pool frame result added) :
    ∀ e ∈ added, e.stage = .render ∨ e.stage = .prepare ∨ e.stage = .handBack := by
  cases h with
  | none => simp
  | undrawn _ _ hr => grind [Exchange.stage]
  | drawn _ hr => grind [Exchange.stage]

theorem GpuWaitRecord.stage {pending : Option Fence} {added : List Exchange}
    (h : GpuWaitRecord pending added) : ∀ e ∈ added, e.stage = .gpuWait := by
  cases h <;> simp [Exchange.stage]

theorem FinishRecord.stage {p : Pipeline} {result : Except DisplayError Unit × Pipeline}
    {added : List Exchange} (h : p.FinishRecord result added) :
    ∀ e ∈ added, e.stage = .wait ∨ e.stage = .handBack := by
  cases h <;> simp [Exchange.stage]

end Pipeline

theorem SubmitRecord.stage {topology : Topology} {tables : PropertyCache} {request : CommitRequest}
    {blob : Option UInt64} {outcome : CommitOutcome} {added : List Exchange}
    (h : SubmitRecord topology tables request blob outcome added) :
    ∀ e ∈ added, e.stage = .commit ∨ e.stage = .handBack := by
  cases h <;> simp [Exchange.stage]

theorem CommitRecord.stage {topology : Topology} {tables : PropertyCache} {request : CommitRequest}
    {outcome : CommitOutcome} {added : List Exchange}
    (h : CommitRecord topology tables request outcome added) :
    ∀ e ∈ added, e.stage = .commit ∨ e.stage = .handBack := by
  cases h with
  | flip _ hs => exact hs.stage
  | blobless => simp [Exchange.stage]
  | modeset blob answer _ hs =>
    have inner := hs.stage
    grind [Exchange.stage]

namespace Pipeline

/-- What a drawn frame comes to by the result of its commit. -/
inductive ConcludedBy (p : Pipeline) (drawn : Drawn) :
    Except DisplayError (Option Fence) → Except DisplayError Unit × Pipeline → Prop
  | shown (outFence : Option Fence) (throughput : Throughput) :
      ConcludedBy p drawn (.ok outFence) (.ok (), p.afterFlip drawn outFence throughput)
  | refused (e : DisplayError) : ConcludedBy p drawn (.error e) (.error e, p)

theorem FlipRecord.parts {p : Pipeline} {frame : Nat} {drawn : Drawn}
    {result : Except DisplayError Unit × Pipeline} {added : List Exchange}
    (h : p.FlipRecord frame drawn result added) :
    ∃ outcome committing given,
      CommitRecord p.topology p.tables (p.commitRequest frame drawn) outcome committing ∧
      p.ConcludedBy drawn outcome.result result ∧ (∀ e ∈ given, e.stage = .handBack) ∧
      added = committing ++ given := by
  cases h with
  | shown throughput hc =>
    refine ⟨_, _, _, hc, .shown _ throughput, ?_, rfl⟩
    intro e he
    split at he
    · obtain ⟨buffer, -, rfl⟩ := List.mem_map.mp he
      rfl
    · simp at he
  | refused hc =>
    refine ⟨_, _, _, hc, .refused _, ?_, rfl⟩
    intro e he
    rcases List.mem_append.mp he with he | he
    · obtain ⟨fence, -, rfl⟩ := List.mem_map.mp he
      rfl
    · obtain ⟨buffer, -, rfl⟩ := List.mem_map.mp he
      rfl

theorem FlipRecord.stage {p : Pipeline} {frame : Nat} {drawn : Drawn}
    {result : Except DisplayError Unit × Pipeline} {added : List Exchange}
    (h : p.FlipRecord frame drawn result added) :
    ∀ e ∈ added, e.stage = .commit ∨ e.stage = .handBack := by
  obtain ⟨outcome, committing, given, hc, -, hg, rfl⟩ := h.parts
  intro e he
  rcases List.mem_append.mp he with he | he
  · exact hc.stage e he
  · exact .inr (hg e he)

/-- Up to its wait, a frame has the GPU wait, is drawn, and gives back what came of it in vain. -/
theorem stage_of_drawn {pending : Option Fence} {pool : BufferPool} {frame : Nat}
    {result : Except DisplayError Drawn × BufferPool} {queued drawing : List Exchange}
    (hq : GpuWaitRecord pending queued) (hd : DrawRecord pool frame result drawing) :
    ∀ e ∈ queued ++ drawing, e.stage = .gpuWait ∨ e.stage = .render ∨ e.stage = .prepare ∨
      e.stage = .handBack := by
  intro e he
  rcases List.mem_append.mp he with he | he
  · exact .inl (hq.stage e he)
  · exact .inr (hd.calls.stage e he)

theorem not_commit_of_waited {p : Pipeline} {pending : Option Fence} {pool : BufferPool}
    {frame : Nat} {drawn : Except DisplayError Drawn × BufferPool}
    {result : Except DisplayError Unit × Pipeline} {queued drawing waiting : List Exchange}
    (hq : GpuWaitRecord pending queued) (hd : DrawRecord pool frame drawn drawing)
    (hw : p.FinishRecord result waiting) :
    ∀ e ∈ queued ++ (drawing ++ waiting), e.stage ≠ .commit := by
  have begun := stage_of_drawn hq hd
  have waited := hw.stage
  grind

theorem FrameRecord.stage {p : Pipeline} {result : Except DisplayError Unit × Pipeline}
    {added : List Exchange} (h : p.FrameRecord result added) :
    ∀ e ∈ added, e.stage ≠ .call ∧ e.stage ≠ .readying := by
  cases h with
  | undrawn hq hd =>
    have begun := stage_of_drawn hq hd
    grind
  | unwaited hq hd hw =>
    have begun := stage_of_drawn hq hd
    have waited := hw.stage
    grind [Exchange.stage]
  | committed hq hd hw hf =>
    have begun := stage_of_drawn hq hd
    have waited := hw.stage
    have flipped := hf.stage
    grind

theorem FrameRecord.unmarked {p : Pipeline} {result : Except DisplayError Unit × Pipeline}
    {added : List Exchange} (h : p.FrameRecord result added) : ∀ e ∈ added, e.isMark = false := by
  intro e he
  have stage := (h.stage e he).1
  exact Bool.eq_false_iff.mpr fun hm => stage (isMark_iff.mp hm)

theorem FrameRecord.unmarked_before {p : Pipeline}
    {result : Except DisplayError Unit × Pipeline} {sofar later : List Exchange}
    (h : p.FrameRecord result (sofar ++ later)) : ∀ e ∈ sofar, e.isMark = false :=
  fun e he => h.unmarked e (List.mem_append_left later he)

theorem FrameRecord.parts {p : Pipeline} {result : Except DisplayError Unit × Pipeline}
    {added : List Exchange} (h : p.FrameRecord result added) :
    ∃ queued drawing rest drawn, GpuWaitRecord p.pendingFlip queued ∧
      DrawCalls p.pool p.frame drawn drawing ∧ (∀ e ∈ rest, e.stage ≠ .render) ∧
      added = queued ++ (drawing ++ rest) := by
  cases h with
  | @undrawn pool e queued drawing hq hd =>
    exact ⟨queued, drawing, [], .error e, hq, hd.calls, by simp, by simp⟩
  | @unwaited pool drawn e q queued drawing waiting hq hd hw =>
    refine ⟨queued, drawing, _, .ok drawn, hq, hd.calls, ?_, rfl⟩
    have waited := hw.stage
    grind [Exchange.stage]
  | @committed pool drawn q result queued drawing waiting flipping hq hd hw hf =>
    refine ⟨queued, drawing, _, .ok drawn, hq, hd.calls, ?_, rfl⟩
    have waited := hw.stage
    have flipped := hf.stage
    grind

theorem DrawCalls.at_render {pool : BufferPool} {frame n : Nat} {result : Except DisplayError Drawn}
    {sofar later : List Exchange} {target : RenderTarget} {answer : Except Failure Fence}
    (h : DrawCalls pool frame result (sofar ++ .rendered target n answer :: later)) :
    sofar = [] ∧ n = frame ∧ pool.Offers n target := by
  generalize ha : sofar ++ .rendered target n answer :: later = added at h
  have notReady {rest : List Exchange}
      (ready : ∀ x ∈ rest, x.stage = .prepare ∨ x.stage = .handBack) :
      .rendered target n answer ∉ rest := by
    intro hm
    simpa [Exchange.stage] using ready _ hm
  cases h with
  | none => simp at ha
  | undrawn _ offers ready =>
    obtain ⟨rfl, he, -⟩ := split_head ha.symm (notReady ready)
    obtain ⟨rfl, rfl, -⟩ := by simpa using he
    exact ⟨rfl, rfl, offers⟩
  | drawn offers ready =>
    obtain ⟨rfl, he, -⟩ := split_head ha.symm (notReady ready)
    obtain ⟨rfl, rfl, -⟩ := by simpa using he
    exact ⟨rfl, rfl, offers⟩

/-- The renderer is called with the frame's number, after the GPU was told to wait. -/
theorem FrameRecord.at_render {p : Pipeline} {result : Except DisplayError Unit × Pipeline}
    {sofar later : List Exchange} {target : RenderTarget} {frame : Nat}
    {answer : Except Failure Fence}
    (h : p.FrameRecord result (sofar ++ .rendered target frame answer :: later)) :
    GpuWaitRecord p.pendingFlip sofar ∧ frame = p.frame ∧ p.pool.Offers frame target := by
  obtain ⟨queued, drawing, rest, drawn, hq, hd, quiet, ha⟩ := h.parts
  have notQueued : .rendered target frame answer ∉ queued := by
    intro hm
    simpa [Exchange.stage] using hq.stage _ hm
  have notRest : .rendered target frame answer ∉ rest := by
    intro hm
    simpa [Exchange.stage] using quiet _ hm
  obtain ⟨begun, rfl, hb⟩ := split_late ha.symm notQueued
  obtain ⟨more, rfl, -⟩ := split_early hb notRest
  obtain ⟨rfl, hn, offers⟩ := hd.at_render
  exact ⟨by simpa using hq, hn, offers⟩

/-- A frame comes to its commit drawn and with the pending flip waited for. -/
theorem FrameRecord.at_commit {p : Pipeline} {result : Except DisplayError Unit × Pipeline}
    {sofar later : List Exchange} {e : Exchange}
    (h : p.FrameRecord result (sofar ++ e :: later)) (he : e.stage = .commit) :
    ∃ pool drawn q queued drawing waiting begun, GpuWaitRecord p.pendingFlip queued ∧
      DrawRecord p.pool p.frame (.ok drawn, pool) drawing ∧
      FinishRecord { p with frame := p.frame + 1, pool } (.ok (), q) waiting ∧
      FlipRecord q p.frame drawn result (begun ++ e :: later) ∧
      sofar = queued ++ (drawing ++ (waiting ++ begun)) := by
  generalize ha : sofar ++ e :: later = added at h
  have mem : e ∈ added := by simp [← ha]
  cases h with
  | undrawn hq hd =>
    have begun := stage_of_drawn hq hd
    grind
  | unwaited hq hd hw =>
    have unfinished := not_commit_of_waited hq hd hw
    grind [Exchange.stage]
  | @committed pool drawn q _ queued drawing waiting flipping hq hd hw hf =>
    -- So the commit lies behind the wait, in the flip.
    have notIn : e ∉ queued ++ (drawing ++ waiting) :=
      fun hm => not_commit_of_waited hq hd hw e hm he
    obtain ⟨begun, rfl, rfl⟩ := split_late (by simpa using ha.symm) notIn
    exact ⟨pool, drawn, q, queued, drawing, waiting, begun, hq, hd, hw, hf, by simp⟩

end Pipeline

end Scanout
