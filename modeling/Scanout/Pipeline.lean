import Scanout.BufferPool
import Scanout.Output
import Scanout.Submission

namespace Scanout

variable {σ : Type} [World σ]

/-- Everything a display path works with once it is set up. -/
structure Collaborators (σ : Type) where
  device : Device σ
  allocator : Allocator σ
  renderer : Renderer σ
  waiter : Waiter σ

structure Pipeline where
  topology : Topology
  tables : PropertyCache
  pool : BufferPool
  /-- The buffer taken out of the surface for the frame shown last. -/
  onScreen : Option Buffer
  /-- The out-fence of the last accepted commit, until it has been waited for. -/
  pendingFlip : Option Fence
  /-- Whether the next commit still has to set the mode. -/
  allowModeset : Bool
  /-- The number of frames begun. -/
  frame : Nat
  throughput : Throughput
deriving DecidableEq, Repr

namespace Pipeline

def ringSize : Nat := 2

/-- Tells a device what its user understands. Without universal planes the path may still work. -/
def enableCapabilities (device : Device σ) : Act σ (Except DisplayError Unit) := do
  match ← device.enable .universalPlanes with
  | .ok _ => pure ()
  | .error cause => note (.universalPlanesRefused cause)
  match ← device.enable .atomic with
  | .ok _ => return .ok ()
  | .error cause => return .error (.atomicUnsupported cause)

/-- Allocates what the frames of a display path are drawn into. -/
def createPool (allocator : Allocator σ) (topology : Topology) (options : Options) :
    Act σ (Except DisplayError BufferPool) :=
  let spec : BufferSpec := ⟨topology.size.1, topology.size.2, options.format⟩
  if options.surfaceless then BufferPool.surfaceless allocator spec options.modifier ringSize
  else BufferPool.surfaced allocator spec options.modifier

/-- Sets up a display path: capabilities, output, property tables, buffers, in this order. -/
def setUp (device : Device σ) (allocator : Allocator σ) (options : Options) :
    Act σ (Except DisplayError Pipeline) := do
  match ← enableCapabilities device with
  | .error e => return .error e
  | .ok _ =>
    match ← selectOutput device options.mode options.refresh with
    | .error e => return .error e
    | .ok topology =>
      match ← PropertyCache.load device topology with
      | .error e => return .error e
      | .ok tables =>
        match ← createPool allocator topology options with
        | .error e => return .error e
        | .ok pool =>
          let throughput := Throughput.begin (← now)
          return .ok
            { topology, tables, pool, onScreen := none, pendingFlip := none,
              allowModeset := true, frame := 0, throughput }

/-- What a display path lacks for frames that are gated by fences. -/
def fenceGap? (p : Pipeline) (renderer : Renderer σ) : Option String :=
  if !renderer.nativeFences then some "renderer cannot export native fences"
  else if (p.tables.plane.lookup "IN_FENCE_FD").isNone then
    some "plane has no IN_FENCE_FD property"
  else if (p.tables.crtc.lookup "OUT_FENCE_PTR").isNone then
    some "crtc has no OUT_FENCE_PTR property"
  else none

/-- Checks that rendering can gate the flip and that the flip reports when it is done. -/
def checkFences (p : Pipeline) (renderer : Renderer σ) : Except DisplayError Unit :=
  match p.fenceGap? renderer with
  | some reason => .error (.fenceUnsupported reason)
  | none => .ok ()

structure Drawn where
  fence : Fence
  framebuffer : FramebufferId
  /-- The buffer taken out of the surface for it. -/
  locked : Option Buffer
deriving DecidableEq, Repr

/-- Gives a buffer that was taken out of the surface back to it. -/
def release (allocator : Allocator σ) : Option Buffer → Act σ Unit
  | some buffer => allocator.release buffer
  | none => pure ()

/-- Draws a frame into the ring. -/
def drawInRing (c : Collaborators σ) (pool : BufferPool) (frame : Nat) :
    Act σ (Except DisplayError Drawn × BufferPool) := do
  let slot := pool.slotForFrame frame
  match pool.buffer? slot with
  | none =>
    let message := "ring slot " ++ toString slot ++ " is empty"
    return (.error (.frontBufferUnavailable (.other message)), pool)
  | some buffer =>
    match ← c.renderer.render (.slot slot buffer) frame with
    | .error failure => return (.error (.renderFailed failure), pool)
    | .ok fence =>
      match ← pool.framebufferForSlot c.device slot with
      | (.ok framebuffer, pool) => return (.ok ⟨fence, framebuffer, none⟩, pool)
      | (.error e, pool) =>
        closeFence fence
        return (.error e, pool)

/-- Draws a frame onto the surface and takes the finished buffer out of it. -/
def drawOnSurface (c : Collaborators σ) (pool : BufferPool) (surface : Surface) (frame : Nat) :
    Act σ (Except DisplayError Drawn × BufferPool) := do
  match ← c.renderer.render (.surface surface) frame with
  | .error failure => return (.error (.renderFailed failure), pool)
  | .ok fence =>
    match ← pool.lockFrontBuffer c.allocator with
    | .error e =>
      closeFence fence
      return (.error e, pool)
    | .ok buffer =>
      match ← pool.framebufferFor c.device buffer with
      | (.ok framebuffer, pool) => return (.ok ⟨fence, framebuffer, some buffer⟩, pool)
      | (.error e, pool) =>
        c.allocator.release buffer
        closeFence fence
        return (.error e, pool)

def draw (c : Collaborators σ) (pool : BufferPool) (frame : Nat) :
    Act σ (Except DisplayError Drawn × BufferPool) :=
  match pool.surface with
  | none => drawInRing c pool frame
  | some surface => drawOnSurface c pool surface frame

/-- Waits until the last flip is done, and gives its fence up whatever comes of it. -/
def finish (waiter : Waiter σ) (p : Pipeline) : Act σ (Except DisplayError Unit × Pipeline) := do
  match p.pendingFlip with
  | none => return (.ok (), p)
  | some fence =>
    let result ← waiter.wait fence
    closeFence fence
    let p := { p with pendingFlip := none }
    match result with
    | .ok _ => return (.ok (), p)
    | .error cause => return (.error (.fenceWait cause), p)

/-- Gives a drawn frame up that is not shown. Its render fence is closed unless handed over. -/
def discard (allocator : Allocator σ) (drawn : Drawn) (fence : Option Fence) : Act σ Unit := do
  closeFence? fence
  release allocator drawn.locked

/-- Takes note of an accepted commit: the mode is set, the flip is pending, the frame counts, and
the buffer that was shown before goes back to the surface. -/
def flipped (allocator : Allocator σ) (p : Pipeline) (drawn : Drawn) (outFence : Option Fence) :
    Act σ Pipeline := do
  if p.allowModeset then note (.modesetDone p.topology.connectorName)
  let (throughput, report) := p.throughput.frame (← now)
  notes (report.toList.map .throughput)
  let p := { p with allowModeset := false, pendingFlip := outFence, throughput }
  match drawn.locked with
  | none => return p
  | some buffer =>
    release allocator p.onScreen
    return { p with onScreen := some buffer }

/-- Commits a drawn frame. No other flip is pending. -/
def flip (c : Collaborators σ) (p : Pipeline) (frame : Nat) (drawn : Drawn) :
    Act σ (Except DisplayError Unit × Pipeline) := do
  let outcome ← commitFrame c.device p.topology p.tables
    { framebuffer := drawn.framebuffer, frame, inFence := some drawn.fence,
      wantOutFence := true, allowModeset := p.allowModeset }
  match outcome.result with
  | .ok outFence => return (.ok (), ← flipped c.allocator p drawn outFence)
  | .error e =>
    discard c.allocator drawn outcome.inFence
    return (.error e, p)

/-- Lets the GPU wait for the pending flip before it draws again. That this fails is only logged:
the commit waits on the CPU anyway. -/
def queueGpuWait (renderer : Renderer σ) : Option Fence → Act σ Unit
  | none => pure ()
  | some fence => do
    match ← renderer.waitForScanout fence with
    | .ok _ => return
    | .error failure => note (.gpuWaitFailed failure)

/-- Draws and shows one frame. A frame that is given up before the pending flip was waited for
leaves the flip pending. -/
def presentFrame (c : Collaborators σ) (p : Pipeline) :
    Act σ (Except DisplayError Unit × Pipeline) := do
  let frame := p.frame
  let p := { p with frame := frame + 1 }
  queueGpuWait c.renderer p.pendingFlip
  match ← draw c p.pool frame with
  | (.error e, pool) => return (.error e, { p with pool })
  | (.ok drawn, pool) =>
    match ← finish c.waiter { p with pool } with
    | (.error e, p) =>
      discard c.allocator drawn (some drawn.fence)
      return (.error e, p)
    | (.ok _, p) => flip c p frame drawn

inductive LoopEnd
  | done
  | failed (error : DisplayError)
  | unfinished
deriving DecidableEq, Repr

/-- Presents frames until the budget is used up, an interruption comes or a frame fails for good.
Gives up without an end after `patience` frames. -/
def loop (c : Collaborators σ) (interrupted : Act σ Bool) (patience : Nat)
    (budget : Option Nat) (presented : Nat) (p : Pipeline) : Act σ (LoopEnd × Nat × Pipeline) :=
  if budget = some 0 then pure (.done, presented, p)
  else
    match patience with
    | 0 => pure (.unfinished, presented, p)
    | patience + 1 => do
      if ← interrupted then
        note .interrupted
        return (.done, presented, p)
      match ← presentFrame c p with
      | (.ok _, p) => loop c interrupted patience (budget.map (· - 1)) (presented + 1) p
      | (.error e, p) =>
        if e.isPerFrame then
          note (.frameDropped (p.frame - 1) e)
          loop c interrupted patience (budget.map (· - 1)) presented p
        else return (.failed e, presented, p)

/-- Presents frames until `budget` were tried or `interrupted` holds, then waits for the last flip.
Gives the number of frames shown, or nothing if that does not end within `patience` frames. -/
def run (c : Collaborators σ) (interrupted : Act σ Bool) (patience : Nat)
    (budget : Option Nat) (p : Pipeline) :
    Act σ (Option (Except DisplayError Nat) × Pipeline) := do
  match p.checkFences c.renderer with
  | .error e => return (some (.error e), p)
  | .ok _ =>
    let p := { p with throughput := Throughput.begin (← now) }
    match ← loop c interrupted patience budget 0 p with
    | (.unfinished, _, p) => return (none, p)
    | (.failed e, _, p) => return (some (.error e), p)
    | (.done, presented, p) =>
      match ← finish c.waiter p with
      | (.ok _, p) => return (some (.ok presented), p)
      | (.error e, p) => return (some (.error e), p)

/-- Gives a display path up: the buffer on screen goes back to its surface before the pool is
given up. -/
def drop (device : Device σ) (allocator : Allocator σ) (p : Pipeline) : Act σ Unit := do
  release allocator p.onScreen
  closeFence? p.pendingFlip
  p.pool.drop device allocator

end Pipeline

end Scanout
