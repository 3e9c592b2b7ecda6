import Scanout.Collaborators

namespace Scanout

/-- Frames in a full turn of the colour circle. -/
def colorCycle : Nat := 360

structure Color where
  red : Float32
  green : Float32
  blue : Float32
  alpha : Float32

/-- The colour of a frame, which goes round the hues: red to green, to blue, and back. -/
def frameColor (frame : Nat) : Color :=
  let t := (UInt64.ofNat (frame % colorCycle)).toFloat32 / (UInt64.ofNat colorCycle).toFloat32 * 3.0
  if t < 1.0 then ⟨1.0 - t, t, 0.0, 1.0⟩
  else if t < 2.0 then ⟨0.0, 2.0 - t, t - 1.0, 1.0⟩
  else ⟨t - 2.0, 0.0, 3.0 - t, 1.0⟩

/-- A plane of a buffer that was handed out as a descriptor. -/
structure ExportedPlane where
  descriptor : Fence
  offset : UInt32
  pitch : UInt32
deriving DecidableEq, Repr

/-- A buffer handed out for drawing into, plane by plane. -/
structure ExportedBuffer where
  width : UInt32
  height : UInt32
  format : Fourcc
  modifier : Modifier
  planes : List ExportedPlane
deriving DecidableEq, Repr

/-- The size that the viewport has, in whole pixels. -/
structure Viewport where
  width : Int
  height : Int
deriving DecidableEq, Repr

/-- What the renderer needs of the graphics stack below it. -/
structure Graphics (σ : Type) where
  /-- Whether fences can be handed over to other processes and taken in. -/
  nativeFences : Bool
  exportPlane : Buffer → (plane : Nat) → Act σ (Except CallError Fence)
  bind : ExportedBuffer → Act σ (Except Failure Unit)
  /-- Begins a frame in what is bound. -/
  start : Viewport → Act σ (Except Failure Unit)
  clear : Viewport → Color → Act σ (Except Failure Unit)
  /-- Ends a frame and gives the fence of everything drawn so far, if there is a native one. -/
  finish : Act σ (Except Failure (Option Fence))
  importFence : Fence → Act σ (Except Failure Unit)
  await : Fence → Act σ (Except Failure Unit)

/-- The renderer's state: the buffers it has handed out, by slot of the ring. -/
structure GlesRenderer where
  viewport : Viewport
  exports : List (Option ExportedBuffer)
deriving DecidableEq, Repr

namespace GlesRenderer

variable {σ : Type} [World σ]

/-- Sizes are signed in the graphics interface. -/
def sizeLimit : Nat := Nat.pow 2 31

def create (width height : UInt32) : Except Failure GlesRenderer :=
  let tooLarge := NumberError.tooLarge.message
  if sizeLimit ≤ width.toNat then .error ⟨"mode width out of range", [tooLarge]⟩
  else if sizeLimit ≤ height.toNat then .error ⟨"mode height out of range", [tooLarge]⟩
  else .ok ⟨⟨width.toNat, height.toNat⟩, []⟩

/-- Hands out the planes of a buffer from `index` on. When one fails, those before it, `done`, are
closed again. -/
def exportPlanes (g : Graphics σ) (buffer : Buffer) (index : Nat) (done : List ExportedPlane) :
    List MemoryPlane → Act σ (Except Failure (List ExportedPlane))
  | [] => return .ok done
  | plane :: rest => do
    match ← g.exportPlane buffer index with
    | .ok descriptor =>
      exportPlanes g buffer (index + 1) (done ++ [⟨descriptor, plane.offset, plane.pitch⟩]) rest
    | .error cause =>
      done.forM fun plane => closeFence plane.descriptor
      return .error ⟨"error exporting plane " ++ toString index, [cause.message]⟩

/-- Hands a buffer out, as many of its planes as are present. -/
def exportBuffer (g : Graphics σ) (buffer : Buffer) : Act σ (Except Failure ExportedBuffer) := do
  let layout := buffer.layout
  match ← exportPlanes g buffer 0 [] (layout.planes.toList.take layout.planeCount) with
  | .error failure => return .error failure
  | .ok [] => return .error (.of "buffer has no planes")
  | .ok planes =>
    return .ok
      { width := layout.width, height := layout.height, format := layout.format,
        modifier := layout.modifier.getD .invalid, planes }

/-- Keeps a buffer for a slot. Slots in between stay empty. -/
def keep (exports : List (Option ExportedBuffer)) (slot : Nat) (buffer : ExportedBuffer) :
    List (Option ExportedBuffer) :=
  (exports ++ List.replicate (slot + 1 - exports.length) none).set slot (some buffer)

/-- What is handed out for a slot: what it has already, else the buffer given. -/
def slotBuffer (g : Graphics σ) (r : GlesRenderer) (slot : Nat) (buffer : Buffer) :
    Act σ (Except Failure ExportedBuffer × GlesRenderer) := do
  match r.exports[slot]?.join with
  | some exported => return (.ok exported, r)
  | none =>
    match ← exportBuffer g buffer with
    | .error failure => return (.error failure, r)
    | .ok exported =>
      note (.slotExported slot)
      return (.ok exported, { r with exports := keep r.exports slot exported })

/-- Draws a frame into what is bound, and gives the fence of its completion. -/
def drawBound (g : Graphics σ) (viewport : Viewport) (frame : Nat) :
    Act σ (Except Failure Fence) := do
  match ← g.start viewport with
  | .error failure => return .error (failure.within "error starting frame")
  | .ok _ =>
    match ← g.clear viewport (frameColor frame) with
    | .error failure => return .error (failure.within "error clearing frame")
    | .ok _ =>
      match ← g.finish with
      | .error failure => return .error (failure.within "error finishing frame")
      | .ok none => return .error (.of "renderer produced no native fence")
      | .ok (some fence) => return .ok fence

/-- Draws a frame into a slot of the ring, and gives the fence of its completion. -/
def renderSlot (g : Graphics σ) (r : GlesRenderer) (slot : Nat) (buffer : Buffer) (frame : Nat) :
    Act σ (Except Failure Fence × GlesRenderer) := do
  match ← slotBuffer g r slot buffer with
  | (.error failure, r) => return (.error failure, r)
  | (.ok exported, r) =>
    match ← g.bind exported with
    | .error failure => return (.error (failure.within "error binding scanout buffer"), r)
    | .ok _ =>
      let result ← drawBound g r.viewport frame
      return (result, r)

/-- Draws a frame. Only the ring can be drawn into. -/
def render (g : Graphics σ) (r : GlesRenderer) (target : RenderTarget) (frame : Nat) :
    Act σ (Except Failure Fence × GlesRenderer) :=
  match target with
  | .slot slot buffer => renderSlot g r slot buffer frame
  | .surface _ =>
    return (.error (.of "surface rendering is not supported by the GLES renderer"), r)

def waitForScanout (g : Graphics σ) (fence : Fence) : Act σ (Except Failure Unit) := do
  match ← g.importFence fence with
  | .error failure => return .error (failure.within "error importing out-fence")
  | .ok _ =>
    match ← g.await fence with
    | .error failure => return .error (failure.within "error waiting for out-fence")
    | .ok _ => return .ok ()

/-- Gives up a renderer, which closes what it has handed out. -/
def drop (r : GlesRenderer) : Act σ Unit :=
  r.exports.forM fun exported =>
    (exported.toList.flatMap (·.planes)).forM fun plane => closeFence plane.descriptor

end GlesRenderer

end Scanout
