import Scanout.Collaborators

namespace Scanout

variable {σ : Type} [World σ]

/-- Obtains something with the wanted modifier. Only the linear one may give way to the driver's
own layout. -/
def placeWithFallback {α : Type} (place : Placement → Act σ (Except CallError α))
    (spec : BufferSpec) (modifier : Modifier) : Act σ (Except DisplayError α) := do
  match ← place (.explicit modifier) with
  | .ok item => return .ok item
  | .error cause =>
    if modifier ≠ .linear then
      return .error (.modifierUnsupported spec.format modifier cause)
    note (.layoutFellBack cause)
    match ← place (.implicit scanoutUsage) with
    | .ok item => return .ok item
    | .error cause =>
      return .error (.bufferAllocationFailed spec.width spec.height spec.format cause)

def allocateBuffer (allocator : Allocator σ) (spec : BufferSpec) (modifier : Modifier) :
    Act σ (Except DisplayError Buffer) :=
  placeWithFallback (allocator.allocate spec) spec modifier

def allocateSurface (allocator : Allocator σ) (spec : BufferSpec) (modifier : Modifier) :
    Act σ (Except DisplayError Surface) :=
  placeWithFallback (allocator.createSurface spec) spec modifier

end Scanout
