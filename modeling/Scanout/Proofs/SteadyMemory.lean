import Scanout.Memory.Display
import Scanout.Memory.Drawing
import Scanout.Proofs.Outline

namespace Scanout

namespace Memory

/-- What decides how collaborators in memory answer. -/
def view (m : Memory) : Nat × UInt32 × List MemorySurface :=
  (m.rejections, m.nextObject, m.surfaces)

theorem view_eq_iff {m m' : Memory} : view m = view m' ↔
    m.rejections = m'.rejections ∧ m.nextObject = m'.nextObject ∧ m.surfaces = m'.surfaces := by
  simp [view]

theorem view_allocator_see (a : MemoryAllocator) (event : MemoryEvent) (m : Memory) :
    view (a.see event m).2 = view m := by
  unfold MemoryAllocator.see
  split <;> rfl

theorem goBy_render (r : MemoryRenderer) (target : RenderTarget) (frame : Nat) :
    GoBy view (r.renderer.render target frame) (r.renderer.render target frame)
      (SameUpTo Fence.anonymous) := by
  intro m m' same
  unfold MemoryRenderer.renderer
  dsimp only
  split
  · exact ⟨.error _, same⟩
  · exact ⟨.ok rfl, same⟩

theorem goBy_lock (a : MemoryAllocator) (surface : Surface) :
    GoBy view (a.lock surface) (a.lock surface) Eq := by
  intro m m' same
  obtain ⟨hr, ho, hs⟩ := view_eq_iff.mp same
  unfold MemoryAllocator.lock
  dsimp only [bind, StateT.bind, get, getThe, MonadStateOf.get, StateT.get, pure]
  rw [← hs]
  cases m.surfaces[surface.id]? with
  | none => exact ⟨rfl, same⟩
  | some s =>
    refine ⟨rfl, ?_⟩
    refine (view_allocator_see a _ _).trans (Eq.trans ?_ (view_allocator_see a _ _).symm)
    exact view_eq_iff.mpr ⟨hr, ho, congrArg (List.set · surface.id _) hs⟩

theorem goBy_addFramebuffer (d : MemoryDisplay) (layout : Layout) (withModifiers : Bool) :
    GoBy view (d.addFramebuffer layout withModifiers) (d.addFramebuffer layout withModifiers)
      Eq := by
  intro m m' same
  obtain ⟨hr, ho, hs⟩ := view_eq_iff.mp same
  unfold MemoryDisplay.addFramebuffer
  cases (if withModifiers then d.rejectsModifierFramebuffers else d.rejectsLegacyFramebuffers) with
  | true => exact ⟨rfl, same⟩
  | false =>
    exact ⟨congrArg (fun id => Except.ok (Handle.mk id)) ho,
      view_eq_iff.mpr ⟨hr, congrArg (· + 1) ho, hs⟩⟩

theorem goBy_createBlob : GoBy view MemoryDisplay.createBlob MemoryDisplay.createBlob Eq := by
  intro m m' same
  obtain ⟨hr, ho, hs⟩ := view_eq_iff.mp same
  exact ⟨congrArg (fun id : UInt32 => Except.ok id.toUInt64) ho,
    view_eq_iff.mpr ⟨hr, congrArg (· + 1) ho, hs⟩⟩

theorem goBy_commit {txn txn' : Transaction} (h : txn.anonymous = txn'.anonymous) :
    GoBy view (MemoryDisplay.commit txn) (MemoryDisplay.commit txn')
      (SameUpTo (Option.map Fence.anonymous)) := by
  intro m m' same
  obtain ⟨hr, ho, hs⟩ := view_eq_iff.mp same
  have asked : txn.anonymous.outFence = txn'.anonymous.outFence := congrArg _ h
  change txn.outFence = txn'.outFence at asked
  have answered (txn : Transaction) (m : Memory) : MemoryDisplay.commit txn m =
      (if 0 < m.rejections then do
        set { m with rejections := m.rejections - 1 }
        see (.rejected (txn.flags.contains .allowModeset))
        return .error .busy
      else do
        see (.commit (txn.flags.contains .allowModeset)
          (txn.assignments.any (·.property == MemoryDisplay.inFenceProperty)) txn.outFence.isSome)
        modify fun m => { m with commits := m.commits ++ [txn] }
        if txn.outFence.isSome then return .ok (some (← newFence)) else return .ok none :
          Act Memory _) m := rfl
  rw [answered, answered, ← hr, asked]
  split
  · exact ⟨.error _, view_eq_iff.mpr ⟨rfl, ho, hs⟩⟩
  · cases txn'.outFence.isSome with
    | true => exact ⟨.ok rfl, same⟩
    | false => exact ⟨.ok rfl, same⟩

/-- Collaborators in memory that do not interrupt are steady. -/
theorem steady (d : MemoryDisplay) (a : MemoryAllocator) (r : MemoryRenderer) :
    Steady ⟨d.device, a.allocator, r.renderer, waiter⟩ (stopAfter none) view where
  log _ _ := rfl
  clock _ := rfl
  close _ _ := rfl
  poll _ := ⟨rfl, rfl⟩
  wait _ _ := ⟨rfl, rfl⟩
  gpuWait _ _ := rfl
  render := goBy_render r
  lock := goBy_lock a
  release buffer := by
    intro m m' same
    refine ⟨rfl, ?_⟩
    exact (view_allocator_see a _ m).trans (same.trans (view_allocator_see a _ m').symm)
  addFramebuffer := goBy_addFramebuffer d
  createBlob _ := goBy_createBlob
  destroy _ := fun _ _ same => ⟨trivial, same⟩
  commit _ _ := goBy_commit

end Memory

end Scanout
