import Scanout.Bench.Gbm
import Scanout.Polling

namespace Scanout

/-- The graphics stack of a bench: what it leaves out, and which steps of its set-up fail, with the
error codes. -/
structure GlModel where
  without : List String
  failures : List (String × Int)
deriving DecidableEq, Repr

namespace GlModel

/-- The words for an error code of the graphics stack. -/
def codeMessages : List (Int × String) :=
  [(0x3001, "EGL is not initialized, or could not be initialized, for the specified EGL display " ++
    "connection."),
  (0x3002, "EGL cannot access a requested resource (for example a context is bound in another " ++
    "thread)."),
  (0x3003, "EGL failed to allocate resources for the requested operation."),
  (0x3004, "An unrecognized attribute or attribute value was passed in the attribute list."),
  (0x3005, "An EGLConfig argument does not name a valid EGL frame buffer configuration."),
  (0x3006, "An EGLContext argument does not name a valid EGL rendering context."),
  (0x3007, "The current surface of the calling thread is a window, pixel buffer or pixmap that " ++
    "is no longer valid."),
  (0x3008, "An EGLDisplay argument does not name a valid EGL display connection."),
  (0x3009, "Arguments are inconsistent (for example, a valid context requires buffers not " ++
    "supplied by a valid surface)."),
  (0x300a, "A NativePixmapType argument does not refer to a valid native pixmap."),
  (0x300b, "A NativeWindowType argument does not refer to a valid native window."),
  (0x300c, "One or more argument values are invalid."),
  (0x300d, "An EGLSurface argument does not name a valid surface (window, pixel buffer or " ++
    "pixmap) configured for GL rendering."),
  (0x300e, "A power management event has occurred. The application must destroy all contexts " ++
    "and reinitialise OpenGL ES state and objects to continue rendering.")]

def codeMessage (code : Int) : String :=
  (codeMessages.lookup code).getD ("An unknown error (" ++ Text.hex code.toNat ++ ")")

/-- The message of a scripted failure, whose number is an error code. -/
def causeMessage (cause : CallError) : String :=
  codeMessage (cause.code?.getD 0)

def has (gl : GlModel) (extension : String) : Bool :=
  !gl.without.contains extension

def nativeFences (gl : GlModel) : Bool :=
  gl.has "EGL_KHR_fence_sync" && gl.has "EGL_ANDROID_native_fence_sync"

/-- A context, or a fence taken in, that could not be made. -/
def creationFailure (message : String) : Failure :=
  ⟨"Context creation failed as one or more requirements could not be met. Try removing some gl " ++
    "attributes or pixel format requirements. Err: " ++ message, [message]⟩

def extensionList (extension : String) : String :=
  "[" ++ Text.quoted extension ++ "]"

def displayFailure? (gl : GlModel) : Option Failure :=
  if gl.failures.any (·.1 == "display")
      || !(gl.has "EGL_KHR_platform_gbm" || gl.has "EGL_MESA_platform_gbm") then
    some (.of "Unable to obtain a valid EGL Display.")
  else
    match gl.failures.lookup "initialize" with
    | some code =>
      some ⟨"Failed to initialize EGL. Err: " ++ codeMessage code, [codeMessage code]⟩
    | none =>
      if gl.has "EGL_EXT_image_dma_buf_import_modifiers" then none
      else
        let message := codeMessage 0
        some ⟨"Display creation failed with error: " ++ message, [message]⟩

/-- What goes wrong in making the drawing context the current one and preparing it. -/
def drawingFailure? (gl : GlModel) : Option Failure :=
  match gl.failures.lookup "make_current" with
  | some code =>
    some ⟨"Failed to active egl context",
      ["`eglMakeCurrent` failed: " ++ codeMessage code, codeMessage code]⟩
  | none =>
    let format := "GL_EXT_texture_format_BGRA8888"
    if !gl.has format then
      some (.of ("None of the following GL extensions is supported by the underlying GL " ++
        "implementation, at least one is required: " ++ extensionList format))
    else if gl.failures.any (·.1 == "compile") then some (.of "Failed to compile Shader")
    else if gl.failures.any (·.1 == "link") then some (.of "Failed to link Program")
    else none

def createRenderer (gl : GlModel) (width height : UInt32) : Except Failure GlesRenderer :=
  match gl.displayFailure? with
  | some failure => .error (failure.within "error creating EGL display")
  | none =>
    match gl.failures.lookup "context" with
    | some code =>
      .error ((creationFailure (codeMessage code)).within "error creating EGL context")
    | none =>
      match gl.drawingFailure? with
      | some failure => .error (failure.within "error creating GLES renderer")
      | none => GlesRenderer.create width height

end GlModel

namespace Bench

/-- The image of an exported buffer, made when it is first wanted. -/
def imageOf (buffer : ExportedBuffer) (firstPlane : Nat) : Act Bench (Except Failure Nat) := do
  match (← get).images.lookup firstPlane with
  | some image => return .ok image
  | none =>
    let refusal ← next .createImage
    let b ← get
    let modifier := if buffer.modifier = .invalid ∨ buffer.modifier = .linear then none
      else some buffer.modifier.raw
    let planes := buffer.planes.map fun p => (b.descriptors.label p.descriptor, p.offset, p.pitch)
    let image := if refusal.isSome then 0 else b.nextImage
    see (.image buffer.width buffer.height buffer.format.value modifier planes image)
    if refusal.isSome then
      return .error ⟨"Failed to convert between dmabuf and EGLImage",
        ["Failed to create `EGLImage` from the buffer"]⟩
    else
      modify fun b => { b with nextImage := b.nextImage + 1 }
      match ← next .completeFramebuffer with
      | some _ =>
        say ("destroy_image " ++ toString image)
        return .error (.of "Failed to bind Framebuffer")
      | none =>
        modify fun b => { b with images := b.images ++ [(firstPlane, image)] }
        return .ok image

def bindBuffer (buffer : ExportedBuffer) : Act Bench (Except Failure Unit) := do
  match ← imageOf buffer ((buffer.planes.map (·.descriptor.descriptor)).headD 0) with
  | .error failure => return .error failure
  | .ok image =>
    modify fun b => { b with boundImage := image }
    return .ok ()

def clearImage (viewport : Viewport) (color : Color) : Act Bench (Except Failure Unit) := do
  see (.draw (← get).boundImage viewport color)
  return .ok ()

/-- Ending a frame goes well here. That no fence comes of it is not a failure. -/
def drawFence (gl : GlModel) : Act Bench (Except Failure (Option Fence)) := do
  if gl.nativeFences && gl.has "GL_OES_EGL_sync" then
    match ← next .createSync with
    | some _ => return .ok none
    | none =>
      match ← next .exportSync with
      | some _ =>
        say "export_fence failed"
        return .ok none
      | none =>
        let n ← modifyGet fun b => (b.drawFences, { b with drawFences := b.drawFences + 1 })
        let label := "gl" ++ toString n
        say ("export_fence " ++ label)
        return .ok (some (← issue label))
  else return .ok none

/-- Tries a call on a fence, and says how it went. -/
def attempt (call : ScriptedCall) (what label : String) : Act Bench (Option CallError) := do
  let refusal ← next call
  say (what ++ " " ++ label ++ (if refusal.isSome then " failed" else ""))
  return refusal

def importFence (gl : GlModel) (fence : Fence) : Act Bench (Except Failure Unit) := do
  if gl.nativeFences then
    match ← attempt .importSync "import_sync" (← labelOf fence) with
    | some cause => return .error (GlModel.creationFailure (GlModel.causeMessage cause))
    | none => return .ok ()
  else
    return .error (.of ("None of the following EGL extensions is supported by the underlying " ++
      "EGL implementation, at least one is required: "
      ++ GlModel.extensionList "EGL_ANDROID_native_fence_sync"))

/-- Hands a fence out and takes it in once more to wait for the copy. -/
def awaitCopy (label : String) : Act Bench Bool := do
  match ← next .exportSync with
  | some _ =>
    say "export_fence failed"
    return false
  | none =>
    say ("export_fence " ++ label)
    match ← attempt .importSync "import_sync" label with
    | some _ => return false
    | none => return (← attempt .waitSync "wait_sync" label).isNone

/-- Makes later drawing wait for a fence that was taken in: on the GPU, for a copy of it, or at
last by blocking. -/
def awaitFence (fence : Fence) : Act Bench (Except Failure Unit) := do
  let label ← labelOf fence
  match ← attempt .waitSync "wait_sync" label with
  | none => return .ok ()
  | some _ =>
    if ← awaitCopy label then return .ok ()
    match ← attempt .clientWait "client_wait" label with
    | none => return .ok ()
    | some _ => return .error (.of "Blocking for a synchronization primitive got interrupted")

end Bench

def GlModel.graphics (gl : GlModel) : Graphics Bench where
  nativeFences := gl.nativeFences
  exportPlane := Bench.exportPlane
  bind := Bench.bindBuffer
  start _ := return .ok ()
  clear := Bench.clearImage
  finish := Bench.drawFence gl
  importFence := Bench.importFence gl
  await := Bench.awaitFence

/-- The renderer that a bench holds, drawing with a graphics stack. -/
def GlModel.renderer (gl : GlModel) : Renderer Bench where
  nativeFences := gl.nativeFences
  waitForScanout := GlesRenderer.waitForScanout gl.graphics
  render target frame := do
    let (result, gles) ← GlesRenderer.render gl.graphics (← get).gles target frame
    modify fun b => { b with gles }
    return result

/-- The fences of a bench are signalled already. -/
def Bench.poller : Poller Bench where
  poll _ _ := return .ready 1 false false

def Bench.blockingWaiter : Waiter Bench :=
  Bench.poller.waiter (fun _ _ => 1) fun _ _ => rfl

def Bench.dropRenderer : Act Bench Unit := do
  (← get).gles.drop
  modify fun b => { b with gles := { b.gles with exports := [] } }

end Scanout
