import Scanout.Proofs.Recording

namespace Scanout

variable {σ : Type} [World σ]

/-- Making a framebuffer: what comes of it, and the calls it takes. -/
inductive FramebufferRecord (layout : Layout) :
    Except DisplayError FramebufferId → List Exchange → Prop
  | explicit {modifier : Modifier} (framebuffer : FramebufferId) :
      layout.explicitModifier = some modifier →
      FramebufferRecord layout (.ok framebuffer) [.framebufferAdded layout true (.ok framebuffer)]
  | legacy (answer : Except CallError FramebufferId) :
      layout.explicitModifier = none →
      FramebufferRecord layout (answer.mapError .framebufferCreateFailed)
        [.framebufferAdded layout.singlePlane false answer]
  | fellBack {modifier : Modifier} (cause : CallError) (answer : Except CallError FramebufferId) :
      layout.explicitModifier = some modifier →
      FramebufferRecord layout (answer.mapError .framebufferCreateFailed)
        [.framebufferAdded layout true (.error cause),
          .framebufferAdded layout.singlePlane false answer]

theorem records_createFramebuffer (device : Device σ) (layout : Layout) :
    Records (createFramebuffer device.recorded layout) (createFramebuffer device layout)
      (FramebufferRecord layout) := by
  unfold createFramebuffer
  cases hm : layout.explicitModifier with
  | none =>
    refine records_then (records_watch _ _) ?_
    intro answer
    cases answer with
    | ok framebuffer => exact records_pure (.legacy (.ok framebuffer) hm)
    | error cause => exact records_pure (.legacy (.error cause) hm)
  | some modifier =>
    refine records_then (records_note _) fun _ => ?_
    refine records_then (records_watch _ _) ?_
    intro first
    cases first with
    | ok framebuffer => exact records_pure (.explicit framebuffer hm)
    | error cause =>
      refine records_then (records_note _) fun _ => ?_
      refine records_then (records_watch _ _) ?_
      intro answer
      cases answer with
      | ok framebuffer => exact records_pure (.fellBack cause (.ok framebuffer) hm)
      | error second => exact records_pure (.fellBack cause (.error second) hm)

namespace BufferPool

/-- The pool once the entry at `index` has a framebuffer. -/
def withFramebuffer (pool : BufferPool) (index : Nat) (entry : PoolEntry)
    (framebuffer : FramebufferId) : BufferPool :=
  { pool with entries := pool.entries.set index { entry with framebuffer := some framebuffer } }

/-- Giving an entry of a pool its framebuffer. -/
inductive EnsureRecord (pool : BufferPool) (index : Nat) (entry : PoolEntry) (buffer : Buffer) :
    Except DisplayError FramebufferId × BufferPool → List Exchange → Prop
  | cached {framebuffer : FramebufferId} : entry.framebuffer = some framebuffer →
      EnsureRecord pool index entry buffer (.ok framebuffer, pool) []
  | failed {e : DisplayError} {added : List Exchange} : entry.framebuffer = none →
      FramebufferRecord buffer.layout (.error e) added →
      EnsureRecord pool index entry buffer (.error e, pool) added
  | created {framebuffer : FramebufferId} {added : List Exchange} : entry.framebuffer = none →
      FramebufferRecord buffer.layout (.ok framebuffer) added →
      EnsureRecord pool index entry buffer
        (.ok framebuffer, pool.withFramebuffer index entry framebuffer) added

theorem records_ensureFramebuffer (device : Device σ) (pool : BufferPool) (index : Nat)
    (entry : PoolEntry) (buffer : Buffer) :
    Records (pool.ensureFramebuffer device.recorded index entry buffer)
      (pool.ensureFramebuffer device index entry buffer)
      (EnsureRecord pool index entry buffer) := by
  unfold ensureFramebuffer
  cases he : entry.framebuffer with
  | some framebuffer => exact records_pure (.cached he)
  | none =>
    refine records_bind (records_createFramebuffer device buffer.layout) ?_
    intro result added hc
    cases result with
    | error e => exact records_pure (by simpa using .failed he hc)
    | ok framebuffer =>
      refine records_then (records_note _) fun _ => ?_
      exact records_pure (by simpa using .created he hc)

theorem entry_of_buffer? {pool : BufferPool} {slot : Nat} {buffer : Buffer}
    (h : pool.buffer? slot = some buffer) :
    ∃ entry, pool.entries[slot]? = some entry ∧ entry.buffer = some buffer :=
  Option.bind_eq_some_iff.mp h

theorem records_framebufferForSlot (device : Device σ) {pool : BufferPool} {slot : Nat}
    {entry : PoolEntry} {buffer : Buffer} (he : pool.entries[slot]? = some entry)
    (hb : entry.buffer = some buffer) :
    Records (pool.framebufferForSlot device.recorded slot) (pool.framebufferForSlot device slot)
      (EnsureRecord pool slot entry buffer) := by
  simp only [framebufferForSlot, he, hb]
  exact records_ensureFramebuffer device pool slot entry buffer

omit [World σ] in
theorem records_lockFrontBuffer (allocator : Allocator σ) {pool : BufferPool} {surface : Surface}
    (hs : pool.surface = some surface) :
    Records (pool.lockFrontBuffer allocator.recorded) (pool.lockFrontBuffer allocator)
      (fun result added => ∃ answer, result = answer.mapError .frontBufferUnavailable ∧
        added = [.locked surface answer]) := by
  simp only [lockFrontBuffer, hs]
  refine records_then (records_watch _ _) ?_
  intro answer
  cases answer with
  | ok buffer => exact records_pure ⟨.ok buffer, rfl, rfl⟩
  | error cause => exact records_pure ⟨.error cause, rfl, rfl⟩

theorem records_framebufferFor (device : Device σ) {pool wider : BufferPool} {buffer : Buffer}
    {index : Nat} {entry : PoolEntry} (he : pool.entryFor buffer = (index, entry, wider)) :
    Records (pool.framebufferFor device.recorded buffer) (pool.framebufferFor device buffer)
      (EnsureRecord wider index entry buffer) := by
  simp only [framebufferFor, he]
  exact records_ensureFramebuffer device wider index entry buffer

end BufferPool

namespace Pipeline

open BufferPool (EnsureRecord)

/-- Drawing a frame: what comes of it, the pool afterwards, and the calls it takes. -/
inductive DrawRecord (pool : BufferPool) (frame : Nat) :
    Except DisplayError Drawn × BufferPool → List Exchange → Prop
  | slotEmpty (message : String) : pool.surface = none →
      pool.buffer? (pool.slotForFrame frame) = none →
      DrawRecord pool frame (.error (.frontBufferUnavailable (.other message)), pool) []
  | slotUndrawn {buffer : Buffer} (failure : Failure) : pool.surface = none →
      pool.buffer? (pool.slotForFrame frame) = some buffer →
      DrawRecord pool frame (.error (.renderFailed failure), pool)
        [.rendered (.slot (pool.slotForFrame frame) buffer) frame (.error failure)]
  | slotUnframed {entry : PoolEntry} {buffer : Buffer} {e : DisplayError} {pool' : BufferPool}
      {added : List Exchange} (fence : Fence) : pool.surface = none →
      pool.entries[pool.slotForFrame frame]? = some entry → entry.buffer = some buffer →
      EnsureRecord pool (pool.slotForFrame frame) entry buffer (.error e, pool') added →
      DrawRecord pool frame (.error e, pool')
        (.rendered (.slot (pool.slotForFrame frame) buffer) frame (.ok fence)
          :: (added ++ [.closed fence]))
  | slotDrawn {entry : PoolEntry} {buffer : Buffer} {framebuffer : FramebufferId}
      {pool' : BufferPool} {added : List Exchange} (fence : Fence) : pool.surface = none →
      pool.entries[pool.slotForFrame frame]? = some entry → entry.buffer = some buffer →
      EnsureRecord pool (pool.slotForFrame frame) entry buffer (.ok framebuffer, pool') added →
      DrawRecord pool frame (.ok ⟨fence, framebuffer, none⟩, pool')
        (.rendered (.slot (pool.slotForFrame frame) buffer) frame (.ok fence) :: added)
  | surfaceUndrawn {surface : Surface} (failure : Failure) : pool.surface = some surface →
      DrawRecord pool frame (.error (.renderFailed failure), pool)
        [.rendered (.surface surface) frame (.error failure)]
  | surfaceUnlocked {surface : Surface} (fence : Fence) (cause : CallError) :
      pool.surface = some surface →
      DrawRecord pool frame (.error (.frontBufferUnavailable cause), pool)
        [.rendered (.surface surface) frame (.ok fence), .locked surface (.error cause),
          .closed fence]
  | surfaceUnframed {surface : Surface} {buffer : Buffer} {index : Nat} {entry : PoolEntry}
      {wider pool' : BufferPool} {e : DisplayError} {added : List Exchange} (fence : Fence) :
      pool.surface = some surface → pool.entryFor buffer = (index, entry, wider) →
      EnsureRecord wider index entry buffer (.error e, pool') added →
      DrawRecord pool frame (.error e, pool')
        (.rendered (.surface surface) frame (.ok fence) :: .locked surface (.ok buffer)
          :: (added ++ [.released buffer, .closed fence]))
  | surfaceDrawn {surface : Surface} {buffer : Buffer} {index : Nat} {entry : PoolEntry}
      {wider pool' : BufferPool} {framebuffer : FramebufferId} {added : List Exchange}
      (fence : Fence) : pool.surface = some surface →
      pool.entryFor buffer = (index, entry, wider) →
      EnsureRecord wider index entry buffer (.ok framebuffer, pool') added →
      DrawRecord pool frame (.ok ⟨fence, framebuffer, some buffer⟩, pool')
        (.rendered (.surface surface) frame (.ok fence) :: .locked surface (.ok buffer) :: added)

theorem records_drawInRing (c : Collaborators σ) {pool : BufferPool} (frame : Nat)
    (hp : pool.surface = none) :
    Records (drawInRing c.recorded pool frame) (drawInRing c pool frame)
      (DrawRecord pool frame) := by
  unfold drawInRing
  dsimp only
  cases hb : pool.buffer? (pool.slotForFrame frame) with
  | none => exact records_pure (.slotEmpty _ hp hb)
  | some buffer =>
    obtain ⟨entry, he, hbuf⟩ := BufferPool.entry_of_buffer? hb
    refine records_then (records_watch _ _) ?_
    intro answer
    cases answer with
    | error failure => exact records_pure (.slotUndrawn failure hp hb)
    | ok fence =>
      refine records_bind (BufferPool.records_framebufferForSlot c.device he hbuf) ?_
      rintro ⟨result, pool'⟩ added hr
      cases result with
      | ok framebuffer => exact records_pure (by simpa using .slotDrawn fence hp he hbuf hr)
      | error e =>
        refine records_then (records_closeFence fence) fun _ => ?_
        exact records_pure (by simpa using .slotUnframed fence hp he hbuf hr)

theorem records_drawOnSurface (c : Collaborators σ) {pool : BufferPool} {surface : Surface}
    (frame : Nat) (hp : pool.surface = some surface) :
    Records (drawOnSurface c.recorded pool surface frame) (drawOnSurface c pool surface frame)
      (DrawRecord pool frame) := by
  unfold drawOnSurface
  refine records_then (records_watch _ _) ?_
  intro answer
  cases answer with
  | error failure => exact records_pure (.surfaceUndrawn failure hp)
  | ok fence =>
    refine records_bind (BufferPool.records_lockFrontBuffer c.allocator hp) ?_
    rintro _ _ ⟨locked, rfl, rfl⟩
    cases locked with
    | error cause =>
      refine records_then (records_closeFence fence) fun _ => ?_
      exact records_pure (by simpa using .surfaceUnlocked fence cause hp)
    | ok buffer =>
      cases he : pool.entryFor buffer with
      | mk index found =>
        refine records_bind (BufferPool.records_framebufferFor c.device he) ?_
        rintro ⟨result, pool'⟩ added hr
        cases result with
        | ok framebuffer => exact records_pure (by simpa using .surfaceDrawn fence hp he hr)
        | error e =>
          refine records_then (records_watch (fun _ => .released buffer) _) fun _ => ?_
          refine records_then (records_closeFence fence) fun _ => ?_
          exact records_pure (by simpa using .surfaceUnframed fence hp he hr)

theorem records_draw (c : Collaborators σ) (pool : BufferPool) (frame : Nat) :
    Records (draw c.recorded pool frame) (draw c pool frame) (DrawRecord pool frame) := by
  unfold draw
  cases hp : pool.surface with
  | none => exact records_drawInRing c frame hp
  | some surface => exact records_drawOnSurface c frame hp

end Pipeline

end Scanout
