import Scanout.Bench.World

namespace Scanout

structure AllocatorModel where
  planes : Nat
  surfaceBuffers : Nat
  implicitModifier : Option Modifier
deriving DecidableEq, Repr

namespace AllocatorModel

/-- The layout of a buffer: planes one after the other, four bytes to a pixel. -/
def layout (model : AllocatorModel) (firstHandle : Nat) (spec : BufferSpec)
    (modifier : Option Modifier) : Layout :=
  { width := spec.width, height := spec.height, format := spec.format, modifier
    planes := Vector.ofFn fun (i : Fin 4) =>
      if i.val < model.planes then
        ⟨some (UInt32.ofNat (firstHandle + i.val)), 4 * spec.width,
          UInt32.ofNat i.val * spec.width * spec.height⟩
      else .absent }

def modifierOf (model : AllocatorModel) : Placement → Option Modifier
  | .explicit modifier => some modifier
  | .implicit _ => model.implicitModifier

def buffer (model : AllocatorModel) (spec : BufferSpec) (placement : Placement) (id : Nat) :
    Buffer :=
  ⟨id, model.layout (1000 + 4 * id) spec (model.modifierOf placement)⟩

def scriptOf : Placement → ScriptedCall
  | .explicit _ => .allocateExplicit
  | .implicit _ => .allocateImplicit

def requestText (what : String) (spec : BufferSpec) (placement : Placement) : String :=
  what ++ " " ++ toString spec.width ++ "x" ++ toString spec.height ++ " " ++ spec.format.code
    ++ match placement with
    | .explicit modifier => " modifiers=" ++ toString modifier.raw
    | .implicit usage => " usage=" ++ toString usage

def request (what : String) (spec : BufferSpec) (placement : Placement) :
    Act Bench (Option CallError) := do
  let refusal ← Bench.next (scriptOf placement)
  Bench.say (requestText what spec placement ++ " " ++ Bench.verdict refusal)
  return refusal

end AllocatorModel

namespace Bench

def newSurface (buffers : List Buffer) : Act Bench Surface :=
  modifyGet fun b =>
    let id := b.surfaces.length
    (⟨id⟩, { b with surfaces := b.surfaces ++ [⟨id, buffers, 0⟩] })

/-- Takes the next buffer out of a surface, round and round. -/
def takeBuffer (surface : Surface) : Act Bench (Option Buffer) :=
  modifyGet fun b =>
    match b.surfaces[surface.id]? with
    | none => (none, b)
    | some s =>
      (s.buffers[s.locks % s.buffers.length]?,
        { b with surfaces := b.surfaces.set surface.id { s with locks := s.locks + 1 } })

end Bench

def AllocatorModel.allocator (model : AllocatorModel) : Allocator Bench where
  allocate spec placement := do
    match ← request "alloc" spec placement with
    | some cause => return .error cause
    | none =>
      let id ← modifyGet fun b => (b.nextBuffer, { b with nextBuffer := b.nextBuffer + 1 })
      return .ok (model.buffer spec placement id)
  createSurface spec placement := do
    match ← request "surface" spec placement with
    | some cause => return .error cause
    | none =>
      return .ok (← Bench.newSurface
        ((List.range model.surfaceBuffers).map (model.buffer spec placement)))
  lock surface := do
    match ← Bench.next .lockBuffer with
    | some cause =>
      Bench.say "lock failed"
      return .error cause
    | none =>
      match ← Bench.takeBuffer surface with
      | none => return .error .noEntry
      | some buffer =>
        Bench.say ("lock " ++ toString buffer.id)
        return .ok buffer
  release buffer := Bench.say ("release " ++ toString buffer.id)
  free buffer := Bench.say ("free " ++ toString buffer.id)
  dropSurface _ := Bench.say "drop_surface"

structure RendererModel where
  nativeFences : Bool
  failures : List (Nat × Failure)
  /-- Whether it can wait on the GPU at all. -/
  waits : Bool
deriving DecidableEq, Repr

def RendererModel.renderer (model : RendererModel) : Renderer Bench where
  nativeFences := model.nativeFences
  waitForScanout fence := do
    if model.waits then
      Bench.say ("gpu_wait " ++ (← Bench.labelOf fence))
      match ← Bench.next .queueGpuWait with
      | some cause => return .error (.of cause.message)
      | none => return .ok ()
    else return .ok ()
  render target frame := do
    let place := match target with
      | .slot index _ => "slot " ++ toString index
      | .surface _ => "surface"
    let subject := "render " ++ toString frame ++ " " ++ place
    match model.failures.lookup frame with
    | some failure =>
      Bench.say (subject ++ " failed")
      return .error failure
    | none =>
      Bench.say subject
      return .ok (← Bench.issue ("render" ++ toString frame))

/-- Waits for fences as the script has it. -/
def Bench.waiter : Waiter Bench where
  wait fence := do
    Bench.say ("wait " ++ (← Bench.labelOf fence))
    match ← Bench.next .waitForFence with
    | some cause => return .error cause
    | none => return .ok ()

end Scanout
