import Scanout.World

namespace Scanout

inductive Capability
  | universalPlanes
  | atomic
deriving DecidableEq, Repr

/-- The mode-setting calls on an open device. -/
structure Device (σ : Type) where
  enable : Capability → Act σ (Except CallError Unit)
  resources : Act σ (Except CallError Resources)
  connector : ConnectorId → Act σ (Except CallError Connector)
  encoder : EncoderId → Act σ (Except CallError Encoder)
  planes : Act σ (Except CallError (List PlaneId))
  plane : PlaneId → Act σ (Except CallError Plane)
  properties : DisplayObject → Act σ (Except CallError (List (PropertyId × UInt64)))
  propertyName : PropertyId → Act σ (Except CallError String)
  createBlob : Mode → Act σ (Except CallError UInt64)
  destroyBlob : UInt64 → Act σ (Except CallError Unit)
  /-- Makes a framebuffer, with the layout's modifier or without looking at it. -/
  addFramebuffer : Layout → (withModifiers : Bool) → Act σ (Except CallError FramebufferId)
  removeFramebuffer : FramebufferId → Act σ (Except CallError Unit)
  /-- Submits a transaction. Gives the out-fence if one was asked for and written. -/
  commit : Transaction → Act σ (Except CallError (Option Fence))

structure DeviceCandidate where
  path : String
  hasPrimaryNode : Bool
deriving DecidableEq, Repr

/-- Lists, opens and closes display devices, an open device being a `δ`. -/
structure DeviceOpener (σ δ : Type) where
  candidates : Act σ (Except CallError (List DeviceCandidate))
  openAt : String → Act σ (Except CallError δ)
  resources : δ → Act σ (Except CallError Resources)
  close : δ → Act σ Unit

/-- How the memory layout of a buffer is decided: by a modifier, or by the driver for a use. -/
inductive Placement
  | explicit (modifier : Modifier)
  | implicit (usage : UInt32)
deriving DecidableEq, Repr

/-- The use of a buffer that is drawn into. -/
def renderingUsage : UInt32 := 4

/-- The use of a buffer that is drawn into and shown. -/
def scanoutUsage : UInt32 := 1 ||| renderingUsage

structure BufferSpec where
  width : UInt32
  height : UInt32
  format : Fourcc
deriving DecidableEq, Repr

/-- Hands out buffers and renderer surfaces, and takes them back. -/
structure Allocator (σ : Type) where
  allocate : BufferSpec → Placement → Act σ (Except CallError Buffer)
  createSurface : BufferSpec → Placement → Act σ (Except CallError Surface)
  /-- Takes the most recently finished buffer out of a surface. -/
  lock : Surface → Act σ (Except CallError Buffer)
  /-- Gives a locked buffer back to its surface. -/
  release : Buffer → Act σ Unit
  free : Buffer → Act σ Unit
  dropSurface : Surface → Act σ Unit

inductive RenderTarget
  | slot (index : Nat) (buffer : Buffer)
  | surface (surface : Surface)
deriving DecidableEq, Repr

structure Renderer (σ : Type) where
  /-- Whether rendering gives native fences. -/
  nativeFences : Bool
  /-- Makes later GPU work wait for a fence, which stays the caller's. -/
  waitForScanout : Fence → Act σ (Except Failure Unit)
  /-- Draws a frame and gives the fence of its completion. -/
  render : RenderTarget → (frame : Nat) → Act σ (Except Failure Fence)

structure Waiter (σ : Type) where
  wait : Fence → Act σ (Except CallError Unit)

end Scanout
