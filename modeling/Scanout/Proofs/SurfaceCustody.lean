import Scanout.Proofs.Custody
import Scanout.Proofs.Upkeep

namespace Scanout

open Custody (held_give held_giveSecond held_idle held_skip held_skipAll held_take
  held_trans takenIn_idle)

theorem FramebufferRecord.locks_idle {layout : Layout}
    {result : Except DisplayError FramebufferId} {added : List Exchange}
    (h : FramebufferRecord layout result added) : ∀ e ∈ added, lockedBuffers.Idle e := by
  cases h <;> simp [Custody.Idle, lockedBuffers]

theorem BufferPool.EnsureRecord.locks_idle {pool : BufferPool} {index : Nat} {entry : PoolEntry}
    {buffer : Buffer} {result : Except DisplayError FramebufferId × BufferPool}
    {added : List Exchange} (h : pool.EnsureRecord index entry buffer result added) :
    ∀ e ∈ added, lockedBuffers.Idle e := by
  cases h with
  | cached => simp
  | failed _ hf => exact hf.locks_idle
  | created _ hf => exact hf.locks_idle

theorem SubmitRecord.locks_idle {topology : Topology} {tables : PropertyCache}
    {request : CommitRequest} {blob : Option UInt64} {outcome : CommitOutcome}
    {added : List Exchange} (h : SubmitRecord topology tables request blob outcome added) :
    ∀ e ∈ added, lockedBuffers.Idle e := by
  cases h <;> simp [Custody.Idle, lockedBuffers]

theorem CommitRecord.locks_idle {topology : Topology} {tables : PropertyCache}
    {request : CommitRequest} {outcome : CommitOutcome} {added : List Exchange}
    (h : CommitRecord topology tables request outcome added) :
    ∀ e ∈ added, lockedBuffers.Idle e := by
  cases h with
  | flip _ hs => exact hs.locks_idle
  | blobless => simp [Custody.Idle, lockedBuffers]
  | modeset blob answer _ hs =>
    have inner := hs.locks_idle
    grind [Custody.Idle, lockedBuffers]

/-- A commit that succeeds has one transaction accepted. -/
theorem SubmitRecord.accepted_once {topology : Topology} {tables : PropertyCache}
    {request : CommitRequest} {blob : Option UInt64} {outFence inFence : Option Fence}
    {added : List Exchange}
    (h : SubmitRecord topology tables request blob ⟨.ok outFence, inFence⟩ added) :
    ∃ txn later, added = .submitted txn (.ok outFence) :: later ∧ Scanout.accepted later = [] := by
  cases h with
  | accepted =>
    refine ⟨_, _, rfl, accepted_of_stage ?_⟩
    cases request.inFence <;> simp [Exchange.stage]

theorem CommitRecord.accepted_once {topology : Topology} {tables : PropertyCache}
    {request : CommitRequest} {outFence inFence : Option Fence} {added : List Exchange}
    (h : CommitRecord topology tables request ⟨.ok outFence, inFence⟩ added) :
    ∃ begun txn later, added = begun ++ .submitted txn (.ok outFence) :: later ∧
      accepted begun = [] ∧ accepted later = [] := by
  cases h with
  | flip _ hs =>
    obtain ⟨txn, later, rfl, none⟩ := hs.accepted_once
    exact ⟨[], txn, later, rfl, rfl, none⟩
  | modeset blob answer _ hs =>
    obtain ⟨txn, later, rfl, none⟩ := hs.accepted_once
    exact ⟨[.blobCreated topology.mode (.ok blob)], txn, later ++ [.blobDestroyed blob answer],
      rfl, rfl, by simp [none, Exchange.accepted?]⟩

namespace Pipeline

theorem GpuWaitRecord.locks_idle {pending : Option Fence} {added : List Exchange}
    (h : GpuWaitRecord pending added) : ∀ e ∈ added, lockedBuffers.Idle e := by
  cases h <;> simp [Custody.Idle, lockedBuffers]

theorem FinishRecord.locks_idle {p : Pipeline} {result : Except DisplayError Unit × Pipeline}
    {added : List Exchange} (h : p.FinishRecord result added) :
    ∀ e ∈ added, lockedBuffers.Idle e := by
  cases h <;> simp [Custody.Idle, lockedBuffers]

/-- A drawing that fails gives back what it took. -/
theorem DrawRecord.locks_undrawn {pool pool' : BufferPool} {frame : Nat} {e : DisplayError}
    {added : List Exchange} (h : DrawRecord pool frame (.error e, pool') added) :
    lockedBuffers.held [] added = some [] := by
  cases h with
  | slotEmpty => rfl
  | slotUndrawn => rfl
  | slotUnframed _ _ _ _ hr =>
    exact held_skip ⟨rfl, rfl⟩ (held_skipAll hr.locks_idle (held_skip ⟨rfl, rfl⟩ rfl))
  | surfaceUndrawn => rfl
  | surfaceUnlocked => rfl
  | surfaceUnframed fence _ _ hr =>
    exact held_skip ⟨rfl, rfl⟩ (held_take rfl rfl (held_skipAll hr.locks_idle
      (held_give rfl rfl (held_skip ⟨rfl, rfl⟩ rfl))))

/-- A frame that is drawn onto a surface took one buffer out of it. -/
theorem DrawRecord.locks_drawn {pool pool' : BufferPool} {frame : Nat} {drawn : Drawn}
    {surface : Surface} {added : List Exchange} (hs : pool.surface = some surface)
    (h : DrawRecord pool frame (.ok drawn, pool') added) :
    ∃ buffer, drawn.locked = some buffer ∧ lockedBuffers.takenIn added = [buffer] ∧
      lockedBuffers.held [] added = some [buffer] := by
  cases h with
  | slotDrawn _ bare => simp [hs] at bare
  | @surfaceDrawn _ buffer _ _ _ _ _ _ fence _ _ hr =>
    have quiet := hr.locks_idle
    refine ⟨buffer, rfl, ?_, held_skip ⟨rfl, rfl⟩ (held_take rfl rfl (held_idle quiet))⟩
    rw [Custody.takenIn_cons, Custody.takenIn_cons, takenIn_idle quiet]
    rfl

theorem DrawRecord.unaccepted {pool : BufferPool} {frame : Nat}
    {result : Except DisplayError Drawn × BufferPool} {added : List Exchange}
    (h : DrawRecord pool frame result added) : accepted added = [] := by
  apply accepted_of_stage
  have drawn := h.calls.stage
  grind

theorem GpuWaitRecord.unaccepted {pending : Option Fence} {added : List Exchange}
    (h : GpuWaitRecord pending added) : accepted added = [] := by
  cases h <;> rfl

theorem FinishRecord.unaccepted {p : Pipeline} {result : Except DisplayError Unit × Pipeline}
    {added : List Exchange} (h : p.FinishRecord result added) : accepted added = [] := by
  cases h <;> rfl

/-- What a frame does to the screen. One that fails gives back what it took. One that is shown takes
a buffer out of the surface, and keeps it in exchange for the one shown before. -/
inductive ScreenRecord (onScreen : Option Buffer) :
    Except DisplayError Unit × Pipeline → List Exchange → Prop
  | refused {e : DisplayError} {q : Pipeline} {added : List Exchange} : accepted added = [] →
      q.onScreen = onScreen → lockedBuffers.held [] added = some [] →
      ScreenRecord onScreen (.error e, q) added
  | shown {q : Pipeline} {buffer : Buffer} {txn : Transaction} {outFence : Option Fence}
      {sofar later : List Exchange} : accepted sofar = [] → accepted later = [] →
      q.onScreen = some buffer → lockedBuffers.takenIn sofar = [buffer] →
      lockedBuffers.held [] sofar = some [buffer] → lockedBuffers.takenIn later = [] →
      lockedBuffers.held (buffer :: onScreen.toList) later = some [buffer] →
      ScreenRecord onScreen (.ok (), q) (sofar ++ .submitted txn (.ok outFence) :: later)

theorem held_released (buffers : List Buffer) :
    lockedBuffers.held buffers (buffers.map .released) = some [] := by
  induction buffers with
  | nil => rfl
  | cons buffer rest ih => exact held_give rfl rfl ih

/-- The buffer shown before goes back, and the one shown now is kept. -/
theorem held_exchanged (buffer : Buffer) (onScreen : Option Buffer) :
    lockedBuffers.held (buffer :: onScreen.toList) (onScreen.toList.map .released) =
      some [buffer] := by
  cases onScreen with
  | none => rfl
  | some shown => exact held_giveSecond rfl rfl rfl

theorem takenIn_released (onScreen : Option Buffer) :
    lockedBuffers.takenIn (onScreen.toList.map .released) = [] := by
  cases onScreen <;> rfl

theorem FlipRecord.screen {p : Pipeline} {frame : Nat} {drawn : Drawn} {buffer : Buffer}
    {result : Except DisplayError Unit × Pipeline} {begun added : List Exchange}
    (h : p.FlipRecord frame drawn result added) (locked : drawn.locked = some buffer)
    (none : accepted begun = []) (taken : lockedBuffers.takenIn begun = [buffer])
    (held : lockedBuffers.held [] begun = some [buffer]) :
    ScreenRecord p.onScreen result (begun ++ added) := by
  cases h with
  | @shown outFence inFence committing throughput hc =>
    obtain ⟨submitting, txn, later, rfl, noneBegun, noneLater⟩ := hc.accepted_once
    have quiet := hc.locks_idle
    have quietBegun : ∀ e ∈ submitting, lockedBuffers.Idle e := fun e he => quiet e (by simp [he])
    have quietLater : ∀ e ∈ later, lockedBuffers.Idle e := fun e he => quiet e (by simp [he])
    have given : accepted (p.onScreen.toList.map Exchange.released) = [] :=
      accepted_of_stage (by simp [Exchange.stage])
    have together : begun ++ (submitting ++ .submitted txn (.ok outFence) :: later ++
          if drawn.locked.isSome then p.onScreen.toList.map .released else []) =
        begun ++ submitting ++
          .submitted txn (.ok outFence) :: (later ++ p.onScreen.toList.map .released) := by
      simp [locked]
    rw [together]
    exact .shown (by simp [none, noneBegun]) (by simp [noneLater, given])
      (by simp [afterFlip, locked]) (by simp [taken, takenIn_idle quietBegun])
      (held_trans held (held_idle quietBegun))
      (by simp [takenIn_idle quietLater, takenIn_released])
      (held_skipAll quietLater (held_exchanged buffer p.onScreen))
  | @refused e inFence committing hc =>
    have uncommitted : accepted committing = [] := List.isEmpty_iff.mp hc.accepted_isEmpty
    have quietly : ∀ e ∈ committing ++ inFence.toList.map .closed, lockedBuffers.Idle e := by
      have quiet := hc.locks_idle
      grind [Custody.Idle, lockedBuffers]
    rw [locked]
    refine .refused ?_ rfl (held_trans held ?_)
    · rw [accepted_append, accepted_append, none, uncommitted]
      cases inFence <;> rfl
    · rw [← List.append_assoc]
      exact held_skipAll quietly (held_released [buffer])

theorem FrameRecord.screen {p : Pipeline} {surface : Surface}
    {result : Except DisplayError Unit × Pipeline} {added : List Exchange}
    (hs : p.pool.surface = some surface) (h : p.FrameRecord result added) :
    ScreenRecord p.onScreen result added := by
  cases h with
  | undrawn hq hd =>
    exact .refused (by simp [hq.unaccepted, hd.unaccepted]) rfl
      (held_skipAll hq.locks_idle hd.locks_undrawn)
  | @unwaited pool drawn e q queued drawing waiting hq hd hw =>
    obtain ⟨buffer, locked, -, held⟩ := hd.locks_drawn hs
    have same := congrArg Pipeline.onScreen hw.leaves
    refine .refused ?_ same ?_
    · have given : accepted (.closed drawn.fence :: drawn.locked.toList.map .released) = [] :=
        accepted_of_stage (by simp [Exchange.stage])
      simp only [accepted_append, hq.unaccepted, hd.unaccepted, hw.unaccepted, given,
        List.append_nil]
    · rw [locked]
      exact held_skipAll hq.locks_idle (held_trans held (held_skipAll hw.locks_idle
        (held_skip ⟨rfl, rfl⟩ (held_released [buffer]))))
  | @committed pool drawn q result queued drawing waiting flipping hq hd hw hf =>
    obtain ⟨buffer, locked, taken, held⟩ := hd.locks_drawn hs
    have same := congrArg Pipeline.onScreen hw.leaves
    have none : accepted (queued ++ (drawing ++ waiting)) = [] := by
      simp [hq.unaccepted, hd.unaccepted, hw.unaccepted]
    have only : lockedBuffers.takenIn (queued ++ (drawing ++ waiting)) = [buffer] := by
      simp [takenIn_idle hq.locks_idle, takenIn_idle hw.locks_idle, taken]
    have screen := hf.screen locked none only
      (held_skipAll hq.locks_idle (held_trans held (held_idle hw.locks_idle)))
    rw [same] at screen
    simpa using screen

end Pipeline

theorem BufferPool.EnsureRecord.surface {pool : BufferPool} {index : Nat} {entry : PoolEntry}
    {buffer : Buffer} {result : Except DisplayError FramebufferId × BufferPool}
    {added : List Exchange} (h : pool.EnsureRecord index entry buffer result added) :
    result.2.surface = pool.surface := by
  cases h <;> rfl

/-- The entry of a buffer is the first with its number, or a new one at the end if none has. -/
theorem BufferPool.entryFor_cases {pool wider : BufferPool} {buffer : Buffer} {index : Nat}
    {entry : PoolEntry} (h : pool.entryFor buffer = (index, entry, wider)) :
    (wider = pool ∧ pool.entries[index]? = some entry ∧ entry.id = buffer.id) ∨
      (wider = { pool with entries := pool.entries ++ [entry] } ∧ index = pool.entries.length ∧
        entry = ⟨buffer.id, none, none⟩ ∧ ∀ x ∈ pool.entries, x.id ≠ buffer.id) := by
  unfold entryFor at h
  split at h
  next found hf =>
    obtain ⟨rfl, rfl, rfl⟩ := by simpa using h
    obtain ⟨inside, same, -⟩ := List.findIdx?_eq_some_iff_getElem.mp hf
    exact .inl ⟨rfl, by simp [inside], by simpa [inside] using same⟩
  next hf =>
    obtain ⟨rfl, rfl, rfl⟩ := by simpa using h
    exact .inr ⟨rfl, rfl, rfl, by simpa using hf⟩

theorem BufferPool.entryFor_surface {pool wider : BufferPool} {buffer : Buffer} {index : Nat}
    {entry : PoolEntry} (h : pool.entryFor buffer = (index, entry, wider)) :
    wider.surface = pool.surface := by
  rcases entryFor_cases h with ⟨rfl, -⟩ | ⟨rfl, -⟩ <;> rfl

theorem Pipeline.DrawRecord.surface {pool : BufferPool} {frame : Nat}
    {result : Except DisplayError Drawn × BufferPool} {added : List Exchange}
    (h : DrawRecord pool frame result added) : result.2.surface = pool.surface := by
  cases h with
  | slotEmpty => rfl
  | slotUndrawn => rfl
  | slotUnframed _ _ _ _ hr => exact hr.surface
  | slotDrawn _ _ _ _ hr => exact hr.surface
  | surfaceUndrawn => rfl
  | surfaceUnlocked => rfl
  | surfaceUnframed _ _ he hr => exact hr.surface.trans (BufferPool.entryFor_surface he)
  | surfaceDrawn _ _ he hr => exact hr.surface.trans (BufferPool.entryFor_surface he)

theorem surface_compositional : Compositional fun p q _ => q.pool.surface = p.pool.surface where
  trans h hl := hl.trans h
  idle _ _ _ := rfl
  timed _ _ := rfl
  drawn _ hd := hd.surface
  finish hw := by rw [hw.leaves]
  flip _ hf := by cases hf <;> rfl

end Scanout
