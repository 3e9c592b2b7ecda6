import Scanout.Pipeline

namespace Scanout

/-- The calls that a display path takes. -/
inductive Entry
  | present
  | run
  | finish
deriving DecidableEq, Repr

/-- One call, as an observer outside the display path sees it: either one that comes in, or one
that goes out to a collaborator, with its answer. -/
inductive Exchange
  | called (entry : Entry)
  | polled (stop : Bool)
  | enabled (capability : Capability) (answer : Except CallError Unit)
  | resourcesRead (answer : Except CallError Resources)
  | connectorRead (connector : ConnectorId) (answer : Except CallError Connector)
  | encoderRead (encoder : EncoderId) (answer : Except CallError Encoder)
  | planesRead (answer : Except CallError (List PlaneId))
  | planeRead (plane : PlaneId) (answer : Except CallError Plane)
  | propertiesRead (object : DisplayObject) (answer : Except CallError (List (PropertyId × UInt64)))
  | nameRead (property : PropertyId) (answer : Except CallError String)
  | blobCreated (mode : Mode) (answer : Except CallError UInt64)
  | blobDestroyed (blob : UInt64) (answer : Except CallError Unit)
  | framebufferAdded (layout : Layout) (withModifiers : Bool)
      (answer : Except CallError FramebufferId)
  | framebufferRemoved (framebuffer : FramebufferId) (answer : Except CallError Unit)
  | submitted (txn : Transaction) (answer : Except CallError (Option Fence))
  | allocated (spec : BufferSpec) (placement : Placement) (answer : Except CallError Buffer)
  | surfaceCreated (spec : BufferSpec) (placement : Placement) (answer : Except CallError Surface)
  | locked (surface : Surface) (answer : Except CallError Buffer)
  | released (buffer : Buffer)
  | freed (buffer : Buffer)
  | surfaceDropped (surface : Surface)
  | gpuWaited (fence : Fence) (answer : Except Failure Unit)
  | rendered (target : RenderTarget) (frame : Nat) (answer : Except Failure Fence)
  | waited (fence : Fence) (answer : Except CallError Unit)
  | closed (fence : Fence)

/-- A world with everything that was seen of it so far. -/
structure Recorded (σ : Type) where
  world : σ
  transcript : List Exchange

namespace Recorded

variable {σ : Type}

/-- Adds what was seen last. -/
def seeing (r : Recorded σ) (e : Exchange) : Recorded σ :=
  { r with transcript := r.transcript ++ [e] }

instance [World σ] : World (Recorded σ) where
  record n r := { r with world := World.record n r.world }
  now r := ((World.now r.world).1, { r with world := (World.now r.world).2 })
  close fence r :=
    { world := World.close fence r.world, transcript := r.transcript ++ [.closed fence] }

/-- Makes a call and writes it down with its answer. -/
def watch {α : Type} (exchange : α → Exchange) (act : Act σ α) : Act (Recorded σ) α :=
  fun r => ((act r.world).1, ⟨(act r.world).2, r.transcript ++ [exchange (act r.world).1]⟩)

end Recorded

variable {σ : Type}

open Recorded (watch)

/-- A device whose calls are written down. -/
def Device.recorded (d : Device σ) : Device (Recorded σ) where
  enable capability := watch (.enabled capability) (d.enable capability)
  resources := watch .resourcesRead d.resources
  connector handle := watch (.connectorRead handle) (d.connector handle)
  encoder handle := watch (.encoderRead handle) (d.encoder handle)
  planes := watch .planesRead d.planes
  plane handle := watch (.planeRead handle) (d.plane handle)
  properties object := watch (.propertiesRead object) (d.properties object)
  propertyName handle := watch (.nameRead handle) (d.propertyName handle)
  createBlob mode := watch (.blobCreated mode) (d.createBlob mode)
  destroyBlob blob := watch (.blobDestroyed blob) (d.destroyBlob blob)
  addFramebuffer layout withModifiers :=
    watch (.framebufferAdded layout withModifiers) (d.addFramebuffer layout withModifiers)
  removeFramebuffer framebuffer :=
    watch (.framebufferRemoved framebuffer) (d.removeFramebuffer framebuffer)
  commit txn := watch (.submitted txn) (d.commit txn)

def Allocator.recorded (a : Allocator σ) : Allocator (Recorded σ) where
  allocate spec placement := watch (.allocated spec placement) (a.allocate spec placement)
  createSurface spec placement :=
    watch (.surfaceCreated spec placement) (a.createSurface spec placement)
  lock surface := watch (.locked surface) (a.lock surface)
  release buffer := watch (fun _ => .released buffer) (a.release buffer)
  free buffer := watch (fun _ => .freed buffer) (a.free buffer)
  dropSurface surface := watch (fun _ => .surfaceDropped surface) (a.dropSurface surface)

def Renderer.recorded (renderer : Renderer σ) : Renderer (Recorded σ) where
  nativeFences := renderer.nativeFences
  waitForScanout fence := watch (.gpuWaited fence) (renderer.waitForScanout fence)
  render target frame := watch (.rendered target frame) (renderer.render target frame)

def Waiter.recorded (waiter : Waiter σ) : Waiter (Recorded σ) where
  wait fence := watch (.waited fence) (waiter.wait fence)

def Collaborators.recorded (c : Collaborators σ) : Collaborators (Recorded σ) where
  device := c.device.recorded
  allocator := c.allocator.recorded
  renderer := c.renderer.recorded
  waiter := c.waiter.recorded

end Scanout
