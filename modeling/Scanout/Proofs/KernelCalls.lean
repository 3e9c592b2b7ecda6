import Scanout.Bench.KernelModel
import Scanout.Memory.Display

namespace Scanout

/-- A call of the kernel with its answer, or what stopped the program. -/
inductive KernelCall
  | capabilitySet (capability : Capability) (answer : Except CallError Unit)
  | resourcesRead (answer : Except CallError Resources)
  | connectorRead (connector : ConnectorId) (answer : Except CallError KernelConnector)
  | encoderRead (encoder : EncoderId) (answer : Except CallError KernelEncoder)
  | planesRead (answer : Except CallError (List PlaneId))
  | planeRead (plane : PlaneId) (answer : Except CallError UInt32)
  | propertiesRead (object : DisplayObject) (answer : Except CallError (List (PropertyId × UInt64)))
  | nameRead (property : PropertyId) (answer : Except CallError (List UInt8))
  | blobCreated (mode : Mode) (answer : Except CallError UInt64)
  | blobDestroyed (blob : UInt32) (answer : Except CallError Unit)
  | framebufferAdded (command : FramebufferCommand) (answer : Except CallError FramebufferId)
  | framebufferRemoved (framebuffer : FramebufferId) (answer : Except CallError Unit)
  | committed (flags : CommitFlags) (request : AtomicRequest)
      (answer : Except CallError Unit × Int)
  | crashed (crash : Crash)

/-- A world with the calls of the kernel that were made in it. -/
structure Traced (σ : Type) where
  world : σ
  calls : List KernelCall

namespace Traced

variable {σ α : Type}

instance [World σ] : World (Traced σ) where
  record n t := { t with world := World.record n t.world }
  now t := ((World.now t.world).1, { t with world := (World.now t.world).2 })
  close fence t := { t with world := World.close fence t.world }

/-- Makes a call and writes it down with its answer. -/
def watch (call : α → KernelCall) (act : Act σ α) : Act (Traced σ) α :=
  fun t => ((act t.world).1, ⟨(act t.world).2, t.calls ++ [call (act t.world).1]⟩)

end Traced

variable {σ : Type}

open Traced (watch)

/-- A kernel whose calls are written down. -/
def Kernel.traced (kernel : Kernel σ) : Kernel (Traced σ) where
  setCapability capability := watch (.capabilitySet capability) (kernel.setCapability capability)
  resources := watch .resourcesRead kernel.resources
  connector handle := watch (.connectorRead handle) (kernel.connector handle)
  encoder handle := watch (.encoderRead handle) (kernel.encoder handle)
  planes := watch .planesRead kernel.planes
  planeMask handle := watch (.planeRead handle) (kernel.planeMask handle)
  properties object := watch (.propertiesRead object) (kernel.properties object)
  propertyName handle := watch (.nameRead handle) (kernel.propertyName handle)
  createBlob mode := watch (.blobCreated mode) (kernel.createBlob mode)
  destroyBlob blob := watch (.blobDestroyed blob) (kernel.destroyBlob blob)
  addFramebuffer command := watch (.framebufferAdded command) (kernel.addFramebuffer command)
  removeFramebuffer framebuffer :=
    watch (.framebufferRemoved framebuffer) (kernel.removeFramebuffer framebuffer)
  commit flags request := watch (.committed flags request) (kernel.commit flags request)
  crash crash := watch (fun _ => .crashed crash) (kernel.crash crash)
  filterCrtcs := kernel.filterCrtcs
  setProperty := kernel.setProperty

open MemoryDisplay (connectorId encoderId) in
/-- The device in memory as the kernel has it, but with other CRTCs. Its encoder and two of its
planes fit the second one. -/
def KernelModel.singleOutput (crtcs : List CrtcId) : KernelModel where
  universalPlanes := none
  atomic := none
  resources := .ok ⟨[connectorId], [encoderId], crtcs⟩
  connectors := [(connectorId, .ok ⟨11, 1, 1, none, [encoderId],
    MemoryDisplay.singleOutput.connector.modes⟩)]
  encoders := [(encoderId, .ok ⟨none, 2⟩)]
  planes := MemoryDisplay.singleOutput.planes.map fun plane =>
    (plane.handle, .ok plane.possible.bits)
  planeList := .ok (MemoryDisplay.singleOutput.planes.map (·.handle))
  properties := MemoryDisplay.singleOutput.properties.map fun (object, properties) =>
    (object, .ok properties)
  propertyNames := MemoryDisplay.propertyNames.map fun (handle, name) => (handle, .ok name)

end Scanout
