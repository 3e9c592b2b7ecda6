import Scanout.Fourcc
import Scanout.Modifier

namespace Scanout

/-- One plane of a buffer in memory. A plane without handle is absent. -/
structure MemoryPlane where
  handle : Option UInt32
  pitch : UInt32
  offset : UInt32
deriving DecidableEq, Repr

def MemoryPlane.absent : MemoryPlane := ⟨none, 0, 0⟩

/-- How a buffer lies in memory, which is what the kernel is told to make a framebuffer of it. -/
structure Layout where
  width : UInt32
  height : UInt32
  format : Fourcc
  modifier : Option Modifier
  planes : Vector MemoryPlane 4
deriving DecidableEq, Repr

namespace Layout

/-- The modifier, unless there is none or it is the linear one. -/
def explicitModifier (layout : Layout) : Option Modifier :=
  layout.modifier.filter (·.raw ≠ 0)

/-- The first plane alone, at offset zero, without a modifier. -/
def singlePlane (layout : Layout) : Layout :=
  { layout with
    modifier := none
    planes := #v[{ layout.planes[0] with offset := 0 }, .absent, .absent, .absent] }

def planeCount (layout : Layout) : Nat :=
  layout.planes.toList.countP (·.handle.isSome)

end Layout

/-- A buffer that can be shown. Its identity lasts as long as the allocation. -/
structure Buffer where
  id : Nat
  layout : Layout
deriving DecidableEq, Repr

/-- A surface of the renderer, which hands out its finished buffers one at a time. -/
structure Surface where
  id : Nat
deriving DecidableEq, Repr

end Scanout
