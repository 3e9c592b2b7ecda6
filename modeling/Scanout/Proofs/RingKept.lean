import Scanout.Proofs.Upkeep

namespace Scanout

open Pipeline (FinishRecord FlipRecord FrameRecord DrawRecord GpuWaitRecord)

namespace BufferPool

/-- The framebuffer that a slot's buffer has so far. -/
def framebuffer? (pool : BufferPool) (slot : Nat) : Option FramebufferId :=
  pool.entries[slot]?.bind (·.framebuffer)

/-- That a ring is still the same: no slot comes or goes, and a framebuffer stays once it is
made. -/
structure RingKept (pool later : BufferPool) : Prop where
  surface : later.surface = none
  slots : later.entries.length = pool.entries.length
  buffers : ∀ slot, later.buffer? slot = pool.buffer? slot
  framebuffers : ∀ slot framebuffer, pool.framebuffer? slot = some framebuffer →
    later.framebuffer? slot = some framebuffer

theorem RingKept.refl {pool : BufferPool} (h : pool.surface = none) : pool.RingKept pool :=
  ⟨h, rfl, fun _ => rfl, fun _ _ hf => hf⟩

theorem RingKept.trans {pool later last : BufferPool} (h : pool.RingKept later)
    (hl : later.RingKept last) : pool.RingKept last where
  surface := hl.surface
  slots := hl.slots.trans h.slots
  buffers slot := (hl.buffers slot).trans (h.buffers slot)
  framebuffers slot framebuffer hf := hl.framebuffers slot framebuffer (h.framebuffers _ _ hf)

theorem framebuffer?_withFramebuffer {pool : BufferPool} {slot : Nat} {entry : PoolEntry}
    (framebuffer : FramebufferId) (he : pool.entries[slot]? = some entry) :
    (pool.withFramebuffer slot entry framebuffer).framebuffer? slot = some framebuffer := by
  obtain ⟨hs, -⟩ := List.getElem?_eq_some_iff.mp he
  simp [framebuffer?, withFramebuffer, hs]

theorem buffer?_withFramebuffer {pool : BufferPool} {index : Nat} {entry : PoolEntry}
    (framebuffer : FramebufferId) (he : pool.entries[index]? = some entry) (slot : Nat) :
    (pool.withFramebuffer index entry framebuffer).buffer? slot = pool.buffer? slot := by
  obtain ⟨inside, hv⟩ := List.getElem?_eq_some_iff.mp he
  by_cases same : index = slot
  · subst same
    simp [buffer?, withFramebuffer, inside, hv]
  · simp [buffer?, withFramebuffer, List.getElem?_set_ne same]

theorem ringKept_withFramebuffer {pool : BufferPool} {slot : Nat} {entry : PoolEntry}
    (framebuffer : FramebufferId) (h : pool.surface = none)
    (he : pool.entries[slot]? = some entry) (bare : entry.framebuffer = none) :
    pool.RingKept (pool.withFramebuffer slot entry framebuffer) := by
  refine ⟨h, by simp [withFramebuffer], buffer?_withFramebuffer framebuffer he, ?_⟩
  intro other made hf
  by_cases same : slot = other
  · subst same
    simp [framebuffer?, he, bare] at hf
  · simpa [framebuffer?, withFramebuffer, List.getElem?_set_ne same] using hf

theorem EnsureRecord.ringKept {pool : BufferPool} {slot : Nat} {entry : PoolEntry}
    {buffer : Buffer} {result : Except DisplayError FramebufferId × BufferPool}
    {added : List Exchange} (h : pool.EnsureRecord slot entry buffer result added)
    (hs : pool.surface = none) (he : pool.entries[slot]? = some entry) :
    pool.RingKept result.2 := by
  cases h with
  | cached => exact .refl hs
  | failed => exact .refl hs
  | @created framebuffer _ bare _ => exact ringKept_withFramebuffer framebuffer hs he bare

theorem EnsureRecord.framebuffer {pool pool' : BufferPool} {slot : Nat} {entry : PoolEntry}
    {buffer : Buffer} {framebuffer : FramebufferId} {added : List Exchange}
    (h : pool.EnsureRecord slot entry buffer (.ok framebuffer, pool') added)
    (he : pool.entries[slot]? = some entry) : pool'.framebuffer? slot = some framebuffer := by
  cases h with
  | cached made => simp [framebuffer?, he, made]
  | created bare _ => exact framebuffer?_withFramebuffer framebuffer he

end BufferPool

theorem Pipeline.DrawRecord.ringKept {pool : BufferPool} {frame : Nat}
    {result : Except DisplayError Drawn × BufferPool} {added : List Exchange}
    (h : DrawRecord pool frame result added) (hs : pool.surface = none) :
    pool.RingKept result.2 := by
  cases h with
  | slotEmpty => exact .refl hs
  | slotUndrawn => exact .refl hs
  | slotUnframed _ _ he _ hr => exact hr.ringKept hs he
  | slotDrawn _ _ he _ hr => exact hr.ringKept hs he
  | surfaceUndrawn _ h => simp [hs] at h
  | surfaceUnlocked _ _ h => simp [hs] at h
  | surfaceUnframed _ h => simp [hs] at h
  | surfaceDrawn _ h => simp [hs] at h

theorem ringKept_compositional :
    Compositional fun p q _ => p.pool.surface = none → p.pool.RingKept q.pool where
  trans h hl hs := (h hs).trans (hl (h hs).surface)
  idle _ _ _ := .refl
  timed _ _ := .refl
  drawn _ hd hs := hd.ringKept hs
  finish hw hs := by
    rw [hw.leaves]
    exact .refl hs
  flip _ hf hs := by cases hf <;> exact .refl hs

end Scanout
