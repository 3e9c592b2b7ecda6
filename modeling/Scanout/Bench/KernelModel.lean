import Scanout.Bench.Display

namespace Scanout

abbrev KernelModel := DeviceModel KernelConnector KernelEncoder UInt32

namespace Bench

/-- Makes a framebuffer. A failure shows as number zero. -/
def addCommand (command : FramebufferCommand) : Act Bench (Except CallError FramebufferId) := do
  let result ← newFramebuffer (command.flags != 0)
  see (.framebufferCommand command (result.toOption.elim 0 (·.id)))
  return result

def commitRequest (flags : CommitFlags) (request : AtomicRequest) :
    Act Bench (Except CallError Unit × Int) := do
  let step ← nextCommit
  let ds := (← get).descriptors
  let objects := request.objects.map fun (object, properties) =>
    (object, properties.map fun (property, value) => (property, atomicText ds value))
  match step with
  | .reject cause =>
    see (.atomic flags objects false)
    return (.error cause, -1)
  | .acceptWithoutFence =>
    see (.atomic flags objects true)
    return (.ok (), -1)
  | .accept =>
    see (.atomic flags objects true)
    if request.hasPointer then return (.ok (), (← newOutFence).descriptor)
    else return (.ok (), -1)

/-- Notes that the program stopped. -/
def crashed (crash : Crash) : Act Bench CallError := do
  modify fun b => { b with crash := some crash }
  return .invalidArgument

end Bench

namespace KernelModel

def kernel (model : KernelModel) : Kernel Bench where
  setCapability capability := do
    Bench.say ("cap " ++ capability.word ++ "=1")
    match model.refusal capability with
    | some cause => return .error cause
    | none => return .ok ()
  resources := return model.resources
  connector handle := return answer model.connectors handle
  encoder handle := return answer model.encoders handle
  planes := return model.planeList
  planeMask handle := return answer model.planes handle
  properties object := return answer model.properties object
  propertyName handle := return (answer model.propertyNames handle).map Text.nameField
  createBlob := Bench.createBlob
  destroyBlob blob := Bench.destroyBlob blob.toUInt64
  addFramebuffer := Bench.addCommand
  removeFramebuffer := Bench.removeFramebuffer
  commit := Bench.commitRequest
  crash := Bench.crashed
  filterCrtcs crtcs mask := allowedChecked? mask 0 crtcs
  setProperty := AtomicRequest.set

def device (model : KernelModel) : Device Bench :=
  model.kernel.device

end KernelModel

end Scanout
