import Scanout.Collaborators

namespace Scanout

inductive MemoryEvent
  | allocExplicit (modifier : Modifier)
  | allocImplicit
  | surfaceExplicit (modifier : Modifier)
  | surfaceImplicit
  | addFramebuffer (layout : Layout) (withModifiers : Bool)
  | removeFramebuffer (framebuffer : FramebufferId)
  | createBlob (blob : UInt64)
  | destroyBlob (blob : UInt64)
  | commit (modeset inFence outFence : Bool)
  | rejected (modeset : Bool)
  | wait
  | gpuWait
  | render (frame : Nat)
  | lock (buffer : Nat)
  | release (buffer : Nat)
deriving DecidableEq, Repr

def MemoryEvent.text : MemoryEvent → String
  | allocExplicit modifier => "alloc_modifiers " ++ toString modifier.raw
  | allocImplicit => "alloc_implicit"
  | surfaceExplicit modifier => "surface_modifiers " ++ toString modifier.raw
  | surfaceImplicit => "surface_implicit"
  | addFramebuffer _ withModifiers => "add_fb" ++ if withModifiers then " with modifiers" else ""
  | removeFramebuffer framebuffer => "remove_fb " ++ toString framebuffer.id
  | createBlob blob => "create_blob " ++ toString blob
  | destroyBlob blob => "destroy_blob " ++ toString blob
  | commit modeset _ _ => "commit" ++ if modeset then " modeset" else ""
  | rejected modeset => "rejected" ++ if modeset then " modeset" else ""
  | wait => "wait"
  | gpuWait => "gpu_wait"
  | render frame => "render " ++ toString frame
  | lock buffer => "lock " ++ toString buffer
  | release buffer => "release " ++ toString buffer

/-- A surface in memory: what its buffers look like, and how often one was taken out. -/
structure MemorySurface where
  spec : BufferSpec
  modifier : Modifier
  locks : Nat
deriving DecidableEq, Repr

/-- The world of collaborators in memory, which changes as they are used. -/
structure Memory where
  notes : List Note
  events : List MemoryEvent
  /-- What an allocator with a log of its own was asked to do. -/
  allocatorEvents : List MemoryEvent
  commits : List Transaction
  /-- How many of the next commits are rejected. -/
  rejections : Nat
  /-- The number of the next blob or framebuffer, which starts over after the last word. -/
  nextObject : UInt32
  added : Nat
  removed : Nat
  nextBuffer : Nat
  surfaces : List MemorySurface
  /-- The number of the next descriptor, and those that are open. -/
  nextDescriptor : Nat
  openDescriptors : List Nat
  opened : List String
  /-- How often the program asked whether to stop. -/
  polls : Nat

namespace Memory

/-- A world where nothing has happened, and that rejects so many commits first. -/
def fresh (rejections : Nat) : Memory where
  notes := []
  events := []
  allocatorEvents := []
  commits := []
  rejections
  nextObject := 500
  added := 0
  removed := 0
  nextBuffer := 100
  surfaces := []
  nextDescriptor := 0
  openDescriptors := []
  opened := []
  polls := 0

instance : World Memory where
  record n m := { m with notes := m.notes ++ [n] }
  now m := (0, m)
  close fence m := { m with openDescriptors := m.openDescriptors.erase fence.descriptor }

def see (event : MemoryEvent) : Act Memory Unit :=
  modify fun m => { m with events := m.events ++ [event] }

def newObject : Act Memory UInt32 :=
  modifyGet fun m => (m.nextObject, { m with nextObject := m.nextObject + 1 })

/-- Opens a descriptor, which is always ready. -/
def newFence : Act Memory Fence :=
  modifyGet fun m =>
    (⟨m.nextDescriptor⟩,
      { m with
        nextDescriptor := m.nextDescriptor + 1
        openDescriptors := m.openDescriptors ++ [m.nextDescriptor] })

/-- Asks whether to stop. From the question after the first `limit` on the answer is yes. -/
def stopAfter (limit : Option Nat) : Act Memory Bool :=
  modifyGet fun m => (limit.any (· ≤ m.polls), { m with polls := m.polls + 1 })

/-- How often was asked whether to stop, since the last time. -/
def takePolls : Act Memory Nat :=
  modifyGet fun m => (m.polls, { m with polls := 0 })

end Memory

end Scanout
