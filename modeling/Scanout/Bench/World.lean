import Scanout.Gles
import Scanout.Kernel

namespace Scanout

/-- The outcomes of the next calls of one function. A call past the end succeeds. -/
abbrev Script := List (Option CallError)

/-- What becomes of a commit that reaches the device. -/
inductive CommitStep
  | accept
  /-- Accepted, but no out-fence comes back. -/
  | acceptWithoutFence
  | reject (cause : CallError)
deriving DecidableEq, Repr

/-- The functions whose calls can be made to fail in turn. -/
inductive ScriptedCall
  | createBlob
  | destroyBlob
  | addModifierFramebuffer
  | addLegacyFramebuffer
  | removeFramebuffer
  | allocateExplicit
  | allocateImplicit
  | lockBuffer
  | exportPlane
  | queueGpuWait
  | waitForFence
  | createImage
  | completeFramebuffer
  | createSync
  | exportSync
  | importSync
  | waitSync
  | clientWait
deriving DecidableEq, Repr

/-- Descriptors that are open, in the order in which they were opened, and the next number. -/
structure Descriptors where
  opened : List (Nat × String)
  next : Nat
deriving DecidableEq, Repr

namespace Descriptors

def none : Descriptors := ⟨[], 0⟩

/-- Opens a descriptor under a label. Numbers are not used again. -/
def issue (ds : Descriptors) (label : String) : Fence × Descriptors :=
  (⟨ds.next⟩, ⟨ds.opened ++ [(ds.next, label)], ds.next + 1⟩)

def close (ds : Descriptors) (fence : Fence) : Descriptors :=
  { ds with opened := ds.opened.filter (·.1 ≠ fence.descriptor) }

def labels (ds : Descriptors) : List String :=
  ds.opened.map (·.2)

/-- The label of a descriptor, which is empty for one that is closed. -/
def label (ds : Descriptors) (fence : Fence) : String :=
  (ds.opened.lookup fence.descriptor).getD ""

end Descriptors

/-- A clock that stands still, but for steps it makes when a commit reaches the device. The last
step repeats. -/
structure Clock where
  time : Nat
  steps : List Nat
deriving DecidableEq, Repr

def Clock.advance (clock : Clock) : Clock :=
  match clock.steps with
  | [] => clock
  | [step] => ⟨clock.time + step, [step]⟩
  | step :: rest => ⟨clock.time + step, rest⟩

inductive Event
  | line (text : String)
  | framebuffer (layout : Layout) (withModifiers : Bool) (result : Option FramebufferId)
  | commit (flags : CommitFlags) (assignments : List (DisplayObject × PropertyId × String))
      (outFence : Option (CrtcId × PropertyId)) (accepted : Bool)
  | framebufferCommand (command : FramebufferCommand) (result : UInt32)
  | atomic (flags : CommitFlags) (objects : List (UInt32 × List (UInt32 × String)))
      (accepted : Bool)
  | image (width height : UInt32) (format : UInt32) (modifier : Option UInt64)
      (planes : List (String × UInt32 × UInt32)) (result : Nat)
  | draw (image : Nat) (viewport : Viewport) (color : Color)

/-- A renderer surface of a bench: its buffers, and how often one was taken out. -/
structure BenchSurface where
  id : Nat
  buffers : List Buffer
  locks : Nat
deriving DecidableEq, Repr

/-- A bench: collaborators that follow scripts, in one world, with what they saw. -/
structure Bench where
  notes : Array Note
  events : Array Event
  descriptors : Descriptors
  clock : Clock
  scripts : List (ScriptedCall × Script)
  commitSteps : List CommitStep
  /-- The number of the next blob or framebuffer. -/
  nextObject : Nat
  outFences : Nat
  /-- The number of the next buffer. -/
  nextBuffer : Nat
  surfaces : List BenchSurface
  /-- The images made of exported buffers, by the descriptor of their first plane. -/
  images : List (Nat × Nat)
  nextImage : Nat
  boundImage : Nat
  drawFences : Nat
  gles : GlesRenderer
  /-- How often the program asked whether to stop. -/
  polls : Nat
  crash : Option Crash

namespace Bench

def fresh : Bench where
  notes := #[]
  events := #[]
  descriptors := .none
  clock := ⟨0, []⟩
  scripts := []
  commitSteps := []
  nextObject := 500
  outFences := 0
  nextBuffer := 100
  surfaces := []
  images := []
  nextImage := 1
  boundImage := 0
  drawFences := 0
  gles := ⟨⟨0, 0⟩, []⟩
  polls := 0
  crash := none

instance : World Bench where
  record n b := { b with notes := b.notes.push n }
  now b := (b.clock.time, b)
  close fence b := { b with descriptors := b.descriptors.close fence }

def see (event : Event) : Act Bench Unit :=
  modify fun b => { b with events := b.events.push event }

def say (text : String) : Act Bench Unit :=
  see (.line text)

/-- The script of a call, and the scripts without its first step. -/
def takeStep (call : ScriptedCall) :
    List (ScriptedCall × Script) → Option CallError × List (ScriptedCall × Script)
  | [] => (none, [])
  | (other, script) :: rest =>
    if other = call then (script.head?.join, (other, script.tail) :: rest)
    else
      let (step, rest) := takeStep call rest
      (step, (other, script) :: rest)

/-- What the next call of a function fails with, if it fails. -/
def next (call : ScriptedCall) : Act Bench (Option CallError) :=
  modifyGet fun b =>
    let (step, scripts) := takeStep call b.scripts
    (step, { b with scripts })

/-- What becomes of the next commit. The clock moves on. -/
def nextCommit : Act Bench CommitStep :=
  modifyGet fun b =>
    (b.commitSteps.head?.getD .accept,
      { b with commitSteps := b.commitSteps.tail, clock := b.clock.advance })

def issue (label : String) : Act Bench Fence :=
  modifyGet fun b =>
    let (fence, descriptors) := b.descriptors.issue label
    (fence, { b with descriptors })

def newObject : Act Bench Nat :=
  modifyGet fun b => (b.nextObject, { b with nextObject := b.nextObject + 1 })

def newOutFence : Act Bench Fence := do
  let n ← modifyGet fun b => (b.outFences, { b with outFences := b.outFences + 1 })
  issue ("out" ++ toString n)

def labelOf (fence : Fence) : Act Bench String := do
  return (← get).descriptors.label fence

def valueText (ds : Descriptors) : PropertyValue → String
  | .number value => toString value
  | .fence fence => "fence:" ++ ds.label fence

def atomicText (ds : Descriptors) : AtomicValue → String
  | .number value => toString value
  | .fence fence => "fence:" ++ ds.label fence
  | .pointer => "pointer"

/-- Asks whether to stop. From the question after the first `limit` on the answer is yes. -/
def stopAfter (limit : Option Nat) : Act Bench Bool :=
  modifyGet fun b => (limit.any (· ≤ b.polls), { b with polls := b.polls + 1 })

/-- How often was asked whether to stop, since the last time. -/
def takePolls : Act Bench Nat :=
  modifyGet fun b => (b.polls, { b with polls := 0 })

def verdict (failed : Option CallError) : String :=
  if failed.isSome then "failed" else "ok"

end Bench

end Scanout
