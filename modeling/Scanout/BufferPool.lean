import Scanout.Allocation

namespace Scanout

variable {σ : Type} [World σ]

/-- Makes a framebuffer: first with the layout's modifier if it has one that says anything, then
from the first plane alone. -/
def createFramebuffer (device : Device σ) (layout : Layout) :
    Act σ (Except DisplayError FramebufferId) := do
  let legacy : Act σ (Except DisplayError FramebufferId) := do
    match ← device.addFramebuffer layout.singlePlane false with
    | .ok framebuffer => return .ok framebuffer
    | .error cause => return .error (.framebufferCreateFailed cause)
  match layout.explicitModifier with
  | none => legacy
  | some modifier =>
    note (.modifierUsed modifier)
    match ← device.addFramebuffer layout true with
    | .ok framebuffer => return .ok framebuffer
    | .error cause =>
      note (.modifierRefused cause)
      legacy

/-- Removes a framebuffer. That this fails is only logged. -/
def removeFramebuffer (device : Device σ) (framebuffer : FramebufferId) : Act σ Unit := do
  note (.framebufferRemoving framebuffer)
  match ← device.removeFramebuffer framebuffer with
  | .ok _ => return
  | .error cause => note (.framebufferNotRemoved cause)

/-- What a pool knows of one buffer. A ring owns its buffers; those of a surface are the surface's
and only their framebuffers are kept. -/
structure PoolEntry where
  id : Nat
  buffer : Option Buffer
  framebuffer : Option FramebufferId
deriving DecidableEq, Repr

/-- The buffers shown on one output, with their framebuffers. Without a surface, they are a ring
of the pool's own. -/
structure BufferPool where
  entries : List PoolEntry
  surface : Option Surface
deriving DecidableEq, Repr

namespace BufferPool

/-- Allocates `count` buffers. When one fails, those before it are freed again. -/
def allocateRing (allocator : Allocator σ) (spec : BufferSpec) (modifier : Modifier) :
    Nat → List Buffer → Act σ (Except DisplayError (List Buffer))
  | 0, buffers => return .ok buffers
  | count + 1, buffers => do
    match ← allocateBuffer allocator spec modifier with
    | .ok buffer => allocateRing allocator spec modifier count (buffers ++ [buffer])
    | .error e =>
      buffers.forM allocator.free
      return .error e

def surfaceless (allocator : Allocator σ) (spec : BufferSpec) (modifier : Modifier)
    (count : Nat) : Act σ (Except DisplayError BufferPool) := do
  match ← allocateRing allocator spec modifier count [] with
  | .error e => return .error e
  | .ok buffers => return .ok ⟨buffers.map fun b => ⟨b.id, some b, none⟩, none⟩

def surfaced (allocator : Allocator σ) (spec : BufferSpec) (modifier : Modifier) :
    Act σ (Except DisplayError BufferPool) := do
  match ← allocateSurface allocator spec modifier with
  | .error e => return .error e
  | .ok surface => return .ok ⟨[], some surface⟩

def isSurfaceless (pool : BufferPool) : Bool :=
  pool.surface.isNone

/-- The slot of the ring that shows a frame. -/
def slotForFrame (pool : BufferPool) (frame : Nat) : Nat :=
  frame % max pool.entries.length 1

def buffer? (pool : BufferPool) (slot : Nat) : Option Buffer :=
  pool.entries[slot]?.bind (·.buffer)

def framebufferCount (pool : BufferPool) : Nat :=
  pool.entries.countP (·.framebuffer.isSome)

def lockFrontBuffer (pool : BufferPool) (allocator : Allocator σ) :
    Act σ (Except DisplayError Buffer) := do
  match pool.surface with
  | none =>
    return .error (.frontBufferUnavailable (.custom .unsupported "pool has no surface"))
  | some surface =>
    match ← allocator.lock surface with
    | .ok buffer => return .ok buffer
    | .error cause => return .error (.frontBufferUnavailable cause)

/-- Gives the entry at `index` its framebuffer, made of `buffer` unless it has one already. -/
def ensureFramebuffer (pool : BufferPool) (device : Device σ) (index : Nat) (entry : PoolEntry)
    (buffer : Buffer) : Act σ (Except DisplayError FramebufferId × BufferPool) := do
  match entry.framebuffer with
  | some framebuffer => return (.ok framebuffer, pool)
  | none =>
    match ← createFramebuffer device buffer.layout with
    | .error e => return (.error e, pool)
    | .ok framebuffer =>
      note (.framebufferCreated framebuffer buffer.id)
      let entries := pool.entries.set index { entry with framebuffer := some framebuffer }
      return (.ok framebuffer, { pool with entries })

/-- The framebuffer of the ring buffer in a slot, made when it is first wanted. -/
def framebufferForSlot (pool : BufferPool) (device : Device σ) (slot : Nat) :
    Act σ (Except DisplayError FramebufferId × BufferPool) := do
  match pool.entries[slot]? with
  | none =>
    let message := "no buffer in slot " ++ toString slot
    return (.error (.framebufferCreateFailed (.custom .notFound message)), pool)
  | some entry =>
    match entry.buffer with
    | none =>
      let message := "slot " ++ toString slot ++ " holds no buffer"
      return (.error (.framebufferCreateFailed (.custom .notFound message)), pool)
    | some buffer => pool.ensureFramebuffer device slot entry buffer

/-- The position of a buffer's entry, which is added if there is none. -/
def entryFor (pool : BufferPool) (buffer : Buffer) : Nat × PoolEntry × BufferPool :=
  match pool.entries.findIdx? (·.id == buffer.id) with
  | some index =>
    (index, pool.entries[index]?.getD ⟨buffer.id, none, none⟩, pool)
  | none =>
    let entry : PoolEntry := ⟨buffer.id, none, none⟩
    (pool.entries.length, entry, { pool with entries := pool.entries ++ [entry] })

/-- The framebuffer of a buffer taken out of the surface, made when it is first seen. -/
def framebufferFor (pool : BufferPool) (device : Device σ) (buffer : Buffer) :
    Act σ (Except DisplayError FramebufferId × BufferPool) :=
  let (index, entry, pool) := pool.entryFor buffer
  pool.ensureFramebuffer device index entry buffer

/-- The framebuffer for a frame: that of its slot, or that of a buffer taken out of the surface,
which goes back at once. -/
def framebufferOfFrame (device : Device σ) (allocator : Allocator σ) (frame : Nat)
    (pool : BufferPool) : Act σ (Except DisplayError FramebufferId × BufferPool) := do
  if pool.isSurfaceless then pool.framebufferForSlot device (pool.slotForFrame frame)
  else
    match ← pool.lockFrontBuffer allocator with
    | .error e => return (.error e, pool)
    | .ok buffer =>
      let result ← pool.framebufferFor device buffer
      allocator.release buffer
      return result

def framebuffersOfFrames (device : Device σ) (allocator : Allocator σ) (pool : BufferPool) :
    List Nat → Act σ (List (Except DisplayError FramebufferId) × BufferPool)
  | [] => return ([], pool)
  | frame :: later => do
    let (result, pool) ← framebufferOfFrame device allocator frame pool
    let (results, pool) ← framebuffersOfFrames device allocator pool later
    return (result :: results, pool)

/-- Removes an entry's framebuffer, then frees the buffer it stood for. -/
def dropEntry (device : Device σ) (allocator : Allocator σ) (entry : PoolEntry) :
    Act σ Unit := do
  match entry.framebuffer with
  | some framebuffer => removeFramebuffer device framebuffer
  | none => pure ()
  match entry.buffer with
  | some buffer => allocator.free buffer
  | none => pure ()

/-- Gives up a pool: entry by entry, then the surface. -/
def drop (pool : BufferPool) (device : Device σ) (allocator : Allocator σ) : Act σ Unit := do
  pool.entries.forM (dropEntry device allocator)
  match pool.surface with
  | some surface => allocator.dropSurface surface
  | none => pure ()

end BufferPool

end Scanout
