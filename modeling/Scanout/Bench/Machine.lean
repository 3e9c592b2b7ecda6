import Scanout.Bench.Gl
import Scanout.Bench.Udev
import Scanout.Program

namespace Scanout

/-- A machine whose kernel, device manager, buffer manager and graphics stack are those of a bench.
Polling its input always comes to the same. -/
def Bench.machine (nodes : NodeModel) (kernel : KernelModel) (gbm : GbmModel) (gl : GlModel)
    (input : PollOutcome) : Machine Bench OpenNode where
  opener := nodes.opener kernel "seat0"
  device _ := kernel.device
  allocator _ := return .ok gbm.allocator
  renderer width height := do
    match gl.createRenderer width height with
    | .error failure => return .error failure
    | .ok gles =>
      modify fun b => { b with gles }
      return .ok gl.renderer
  dropRenderer := Bench.dropRenderer
  waiter := Bench.blockingWaiter
  inputReady := return input.readable

end Scanout
