import Scanout.Memory.World

namespace Scanout

structure MemoryAllocator where
  rejectsModifiers : Bool
  rejectsImplicit : Bool
  planes : Nat
  /-- Whether it keeps a log of its own. -/
  ownLog : Bool
deriving DecidableEq, Repr

namespace MemoryAllocator

def plain : MemoryAllocator := ⟨false, false, 1, false⟩

def rejectingModifiers (a : MemoryAllocator) : MemoryAllocator :=
  { a with rejectsModifiers := true }

def rejectingImplicit (a : MemoryAllocator) : MemoryAllocator :=
  { a with rejectsImplicit := true }

def withPlanes (a : MemoryAllocator) (planes : Nat) : MemoryAllocator :=
  { a with planes }

/-- How many buffers a surface has. -/
def surfaceBuffers : Nat := 3

def see (a : MemoryAllocator) (event : MemoryEvent) : Act Memory Unit :=
  if a.ownLog then modify fun m => { m with allocatorEvents := m.allocatorEvents ++ [event] }
  else Memory.see event

/-- The buffer with a number: planes one after the other, four bytes to a pixel. An unknown layout
has no modifier. -/
def buffer (a : MemoryAllocator) (spec : BufferSpec) (modifier : Modifier) (id : Nat) : Buffer :=
  { id
    layout :=
      { width := spec.width, height := spec.height, format := spec.format
        modifier := if modifier = .invalid then none else some modifier
        planes := Vector.ofFn fun (i : Fin 4) =>
          if i.val < a.planes then
            ⟨some (UInt32.ofNat (1000 + 4 * id + i.val)), 4 * spec.width,
              UInt32.ofNat i.val * spec.width * spec.height⟩
          else .absent } }

def modifierOf : Placement → Modifier
  | .explicit modifier => modifier
  | .implicit _ => .invalid

def rejects (a : MemoryAllocator) : Placement → Bool
  | .explicit _ => a.rejectsModifiers
  | .implicit _ => a.rejectsImplicit

/-- Takes a buffer out of a surface, round and round. -/
def lock (a : MemoryAllocator) (surface : Surface) : Act Memory (Except CallError Buffer) := do
  match (← get).surfaces[surface.id]? with
  | none => return .error .noEntry
  | some s =>
    let id := s.locks % surfaceBuffers
    modify fun m =>
      { m with surfaces := m.surfaces.set surface.id { s with locks := s.locks + 1 } }
    a.see (.lock id)
    return .ok (a.buffer s.spec s.modifier id)

def allocator (a : MemoryAllocator) : Allocator Memory where
  allocate spec placement := do
    match placement with
    | .explicit modifier => a.see (.allocExplicit modifier)
    | .implicit _ => a.see .allocImplicit
    if a.rejects placement then return .error .invalidArgument
    else
      let id ← modifyGet fun m => (m.nextBuffer, { m with nextBuffer := m.nextBuffer + 1 })
      return .ok (a.buffer spec (modifierOf placement) id)
  createSurface spec placement := do
    match placement with
    | .explicit modifier => a.see (.surfaceExplicit modifier)
    | .implicit _ => a.see .surfaceImplicit
    if a.rejects placement then return .error .invalidArgument
    else
      modifyGet fun m =>
        (.ok ⟨m.surfaces.length⟩,
          { m with surfaces := m.surfaces ++ [⟨spec, modifierOf placement, 0⟩] })
  lock := a.lock
  release buffer := a.see (.release buffer.id)
  free _ := return
  dropSurface _ := return

end MemoryAllocator

structure MemoryRenderer where
  fences : Bool
  failsAt : Option Nat
deriving DecidableEq, Repr

namespace MemoryRenderer

def plain : MemoryRenderer := ⟨true, none⟩

def withoutFences (r : MemoryRenderer) : MemoryRenderer :=
  { r with fences := false }

def failingAt (r : MemoryRenderer) (frame : Nat) : MemoryRenderer :=
  { r with failsAt := some frame }

def renderer (r : MemoryRenderer) : Renderer Memory where
  nativeFences := r.fences
  waitForScanout _ := do
    Memory.see .gpuWait
    return .ok ()
  render _ frame := do
    if r.failsAt = some frame then return .error (.of "context lost")
    else
      Memory.see (.render frame)
      return .ok (← Memory.newFence)

end MemoryRenderer

/-- Waits for nothing, and says so. -/
def Memory.waiter : Waiter Memory where
  wait _ := do
    Memory.see .wait
    return .ok ()

end Scanout
