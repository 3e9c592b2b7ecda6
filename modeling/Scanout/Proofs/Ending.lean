import Scanout.Proofs.Life

namespace Scanout

variable {σ : Type} [World σ]

/-- Removing a framebuffer if there is one, whatever comes of it. -/
inductive RemovalRecord (made : Option FramebufferId) : List Exchange → Prop
  | none : made = none → RemovalRecord made []
  | removed {framebuffer : FramebufferId} (answer : Except CallError Unit) :
      made = some framebuffer → RemovalRecord made [.framebufferRemoved framebuffer answer]

theorem records_removeFramebuffer (device : Device σ) (framebuffer : FramebufferId) :
    Records (removeFramebuffer device.recorded framebuffer) (removeFramebuffer device framebuffer)
      (fun _ => RemovalRecord (some framebuffer)) := by
  refine records_then (records_note _) fun _ => ?_
  refine records_then (records_watch _ _) ?_
  intro answer
  cases answer with
  | ok _ => exact records_pure (.removed (.ok ()) rfl)
  | error cause =>
    refine (records_note _).mono ?_
    rintro _ _ rfl
    exact .removed (.error cause) rfl

namespace BufferPool

theorem records_dropEntry (device : Device σ) (allocator : Allocator σ) (entry : PoolEntry) :
    Records (dropEntry device.recorded allocator.recorded entry) (dropEntry device allocator entry)
      (fun _ added => ∃ removing, RemovalRecord entry.framebuffer removing ∧
        added = removing ++ entry.buffer.toList.map .freed) := by
  obtain ⟨id, buffer, framebuffer⟩ := entry
  have freeing : Records (dropEntry device.recorded allocator.recorded ⟨id, buffer, none⟩)
      (dropEntry device allocator ⟨id, buffer, none⟩)
      (fun _ added => added = buffer.toList.map .freed) := by
    cases buffer with
    | none => exact records_pure rfl
    | some buffer => exact records_watch (fun _ => .freed buffer) _
  cases framebuffer with
  | none =>
    refine freeing.mono ?_
    rintro _ _ rfl
    exact ⟨[], .none rfl, rfl⟩
  | some framebuffer =>
    refine records_bind (records_removeFramebuffer device framebuffer) ?_
    intro _ removing hr
    refine freeing.mono ?_
    rintro _ _ rfl
    exact ⟨removing, hr, rfl⟩

/-- Giving up the entries of a pool one by one: the framebuffer, then the buffer if it is owned. -/
inductive DisposalRecord : List PoolEntry → List Exchange → Prop
  | none : DisposalRecord [] []
  | entry {entry : PoolEntry} {entries : List PoolEntry} {removing later : List Exchange} :
      RemovalRecord entry.framebuffer removing → DisposalRecord entries later →
      DisposalRecord (entry :: entries) (removing ++ (entry.buffer.toList.map .freed ++ later))

theorem records_dropEntries (device : Device σ) (allocator : Allocator σ)
    (entries : List PoolEntry) :
    Records (entries.forM (dropEntry device.recorded allocator.recorded))
      (entries.forM (dropEntry device allocator)) (fun _ => DisposalRecord entries) := by
  induction entries with
  | nil => exact records_pure .none
  | cons entry rest ih =>
    refine records_bind (records_dropEntry device allocator entry) ?_
    rintro _ _ ⟨removing, hr, rfl⟩
    refine ih.mono ?_
    intro _ later hl
    simpa using .entry hr hl

theorem DisposalRecord.disposes {entries : List PoolEntry} {added : List Exchange}
    (h : DisposalRecord entries added) : ∀ e ∈ added,
      (∃ framebuffer answer, e = .framebufferRemoved framebuffer answer) ∨
        ∃ buffer, e = .freed buffer := by
  induction h with
  | none => simp
  | @entry entry entries removing later hr _ ih =>
    intro e he
    rcases List.mem_append.mp he with he | he
    · cases hr with
      | none => simp at he
      | removed answer => exact .inl ⟨_, answer, List.mem_singleton.mp he⟩
    · rcases List.mem_append.mp he with he | he
      · obtain ⟨buffer, -, rfl⟩ := List.mem_map.mp he
        exact .inr ⟨buffer, rfl⟩
      · exact ih e he

end BufferPool

namespace Pipeline

/-- Giving a display path up: the buffer on screen, the pending flip, the pool, its surface. -/
inductive EndRecord (p : Pipeline) : List Exchange → Prop
  | intro {disposing : List Exchange} : BufferPool.DisposalRecord p.pool.entries disposing →
      EndRecord p (p.onScreen.toList.map .released ++ (p.pendingFlip.toList.map .closed ++
        (disposing ++ p.pool.surface.toList.map .surfaceDropped)))

theorem records_drop (device : Device σ) (allocator : Allocator σ) (p : Pipeline) :
    Records (p.drop device.recorded allocator.recorded) (p.drop device allocator)
      (fun _ => EndRecord p) := by
  refine records_then (records_release allocator p.onScreen) fun _ => ?_
  refine records_then (records_closeFence? p.pendingFlip) fun _ => ?_
  refine records_bind (BufferPool.records_dropEntries device allocator p.pool.entries) ?_
  intro _ disposing hd
  have ended := EndRecord.intro hd
  cases hs : p.pool.surface with
  | none => exact records_pure (by simpa [hs] using ended)
  | some surface =>
    refine (records_watch (fun _ => .surfaceDropped surface) _).mono ?_
    rintro _ _ rfl
    simpa [hs] using ended

end Pipeline

/-- Giving a display path up, everything being written down. -/
def recordDrop (device : Device σ) (allocator : Allocator σ) (p : Pipeline) (world : σ) :
    Recorded σ :=
  (p.drop device.recorded allocator.recorded ⟨world, []⟩).2

theorem recordDrop_record (device : Device σ) (allocator : Allocator σ) (p : Pipeline)
    (world : σ) : p.EndRecord (recordDrop device allocator p world).transcript :=
  ((Pipeline.records_drop device allocator p).fresh world).2

end Scanout
