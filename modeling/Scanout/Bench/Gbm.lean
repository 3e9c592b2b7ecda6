import Scanout.Bench.Drawing

namespace Scanout

structure GbmModel where
  planes : Nat
  surfaceBuffers : Nat
  implicitModifier : Modifier
deriving DecidableEq, Repr

namespace GbmModel

def layouts (model : GbmModel) : AllocatorModel :=
  ⟨model.planes, model.surfaceBuffers, some model.implicitModifier⟩

/-- Buffer `id`, whose planes have the handles from `id` on. -/
def buffer (model : GbmModel) (spec : BufferSpec) (placement : Placement) (id : Nat) : Buffer :=
  ⟨id, model.layouts.layout id spec (model.layouts.modifierOf placement)⟩

def requestText (what : String) (spec : BufferSpec) (placement : Placement) : String :=
  what ++ " " ++ toString spec.width ++ "x" ++ toString spec.height
    ++ match placement with
    | .explicit modifier => " modifiers=1:" ++ toString modifier.raw
    | .implicit usage => " usage=" ++ toString usage

def request (what : String) (spec : BufferSpec) (placement : Placement) :
    Act Bench (Option CallError) := do
  let refusal ← Bench.next (AllocatorModel.scriptOf placement)
  Bench.say (requestText what spec placement ++ " " ++ Bench.verdict refusal)
  return refusal

/-- The numbers of `count` new buffers, which are ten apart. -/
def newIds (count : Nat) : Act Bench (List Nat) :=
  modifyGet fun b =>
    ((List.range count).map (b.nextBuffer + 10 * ·),
      { b with nextBuffer := b.nextBuffer + 10 * count })

/-- What a surface says that has no finished buffer. -/
def noFreeBuffer : CallError :=
  .custom .wouldBlock "no free front buffer"

def allocator (model : GbmModel) : Allocator Bench where
  allocate spec placement := do
    match ← request "bo" spec placement with
    | some cause => return .error cause
    | none => return .ok (model.buffer spec placement ((← newIds 1).headD 0))
  createSurface spec placement := do
    match ← request "surface" spec placement with
    | some cause => return .error cause
    | none =>
      let ids ← newIds model.surfaceBuffers
      return .ok (← Bench.newSurface (ids.map (model.buffer spec placement)))
  lock surface := do
    match ← Bench.next .lockBuffer with
    | some _ =>
      Bench.say "lock failed"
      return .error noFreeBuffer
    | none =>
      match ← Bench.takeBuffer surface with
      | none => return .error noFreeBuffer
      | some buffer =>
        Bench.say ("lock bo " ++ toString buffer.id)
        return .ok buffer
  release buffer := Bench.say ("release bo " ++ toString buffer.id)
  free buffer := Bench.say ("free bo " ++ toString buffer.id)
  dropSurface _ := Bench.say "drop_surface"

end GbmModel

namespace Bench

/-- Hands a plane of a buffer out as a descriptor. -/
def exportPlane (buffer : Buffer) (plane : Nat) : Act Bench (Except CallError Fence) := do
  let subject := "export bo " ++ toString buffer.id ++ " plane " ++ toString plane
  match ← next .exportPlane with
  | some _ =>
    say (subject ++ " failed")
    return .error (.other "The returned fd is invalid")
  | none =>
    say subject
    return .ok (← issue ("dmabuf" ++ toString buffer.id ++ "." ++ toString plane))

end Bench

end Scanout
