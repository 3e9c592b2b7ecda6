import Scanout.Fence
import Scanout.PropertyTable
import Scanout.Topology

namespace Scanout

inductive PropertyValue
  | number (value : UInt64)
  | fence (fence : Fence)
deriving DecidableEq, Repr

structure Assignment where
  object : DisplayObject
  property : PropertyId
  value : PropertyValue
deriving DecidableEq, Repr

structure CommitFlags where
  bits : UInt32
deriving DecidableEq, Repr

namespace CommitFlags

def pageFlipEvent : CommitFlags := ⟨1⟩
def pageFlipAsync : CommitFlags := ⟨2⟩
def testOnly : CommitFlags := ⟨0x100⟩
def nonblock : CommitFlags := ⟨0x200⟩
def allowModeset : CommitFlags := ⟨0x400⟩

/-- The bits that are flags. -/
def known : CommitFlags := ⟨0x703⟩

def union (a b : CommitFlags) : CommitFlags := ⟨a.bits ||| b.bits⟩

def contains (a b : CommitFlags) : Bool := a.bits &&& b.bits == b.bits

def text (flags : CommitFlags) : String :=
  let names := [(pageFlipEvent, "PAGE_FLIP_EVENT"), (pageFlipAsync, "PAGE_FLIP_ASYNC"),
    (testOnly, "TEST_ONLY"), (nonblock, "NONBLOCK"), (allowModeset, "ALLOW_MODESET")]
  let held := (names.filter fun (flag, _) => flags.contains flag).map (·.2)
  "AtomicCommitFlags(" ++ (if held.isEmpty then "0x0" else " | ".intercalate held) ++ ")"

end CommitFlags

/-- Property assignments that take effect together, and where the kernel is to put an out-fence. -/
structure Transaction where
  flags : CommitFlags
  assignments : List Assignment
  outFence : Option (CrtcId × PropertyId)
deriving DecidableEq, Repr

/-- A property that was left out because its object does not have it. -/
structure SkippedProperty where
  object : DisplayObject
  name : String
deriving DecidableEq, Repr

namespace Transaction

def empty (flags : CommitFlags) : Transaction :=
  ⟨flags, [], none⟩

/-- The value first assigned to a property. -/
def get (txn : Transaction) (object : DisplayObject) (property : PropertyId) :
    Option PropertyValue :=
  (txn.assignments.find? fun a => a.object == object && a.property == property).map (·.value)

def add (txn : Transaction) (object : DisplayObject) (property : PropertyId)
    (value : PropertyValue) : Transaction :=
  { txn with assignments := txn.assignments ++ [⟨object, property, value⟩] }

/-- Assigns a property that the commit cannot do without. -/
def set (txn : Transaction) (table : PropertyTable) (name : String) (value : PropertyValue) :
    Except DisplayError Transaction :=
  match table.require name with
  | .ok property => .ok (txn.add table.object property value)
  | .error e => .error e

/-- Assigns a property if the object has it. -/
def setOptional (txn : Transaction) (table : PropertyTable) (name : String)
    (value : PropertyValue) : Transaction × Option SkippedProperty :=
  match table.lookup name with
  | some property => (txn.add table.object property value, none)
  | none => (txn, some ⟨table.object, name⟩)

/-- Asks for an out-fence on a CRTC if its table has the property for it. -/
def requestOutFence (txn : Transaction) (crtc : CrtcId) (table : PropertyTable) :
    Transaction × Option SkippedProperty :=
  match table.lookup "OUT_FENCE_PTR" with
  | some property => ({ txn with outFence := some (crtc, property) }, none)
  | none => (txn, some ⟨table.object, "OUT_FENCE_PTR"⟩)

structure FrameContent where
  framebuffer : FramebufferId
  modeBlob : Option UInt64
  inFence : Option Fence
  wantOutFence : Bool
deriving DecidableEq, Repr

/-- The flags of a frame's commit: it never blocks, and a mode makes it a modeset. -/
def frameFlags (modeBlob : Option UInt64) : CommitFlags :=
  if modeBlob.isSome then CommitFlags.nonblock.union .allowModeset else .nonblock

/-- Binds the connector to the CRTC, which gets the mode and is turned on. -/
def setMode (txn : Transaction) (crtc : CrtcId) (tables : PropertyCache) (blob : UInt64) :
    Except DisplayError Transaction := do
  let txn ← txn.set tables.connector "CRTC_ID" (.number crtc.id.toUInt64)
  let txn ← txn.set tables.crtc "MODE_ID" (.number blob)
  txn.set tables.crtc "ACTIVE" (.number 1)

/-- Puts a framebuffer of the mode's size onto the plane. Source coordinates count in units of
2⁻¹⁶ pixels. -/
def setPlane (txn : Transaction) (topology : Topology) (plane : PropertyTable)
    (framebuffer : FramebufferId) : Except DisplayError Transaction := do
  let w := topology.size.1.toUInt64
  let h := topology.size.2.toUInt64
  let txn ← txn.set plane "FB_ID" (.number framebuffer.id.toUInt64)
  let txn ← txn.set plane "CRTC_ID" (.number topology.crtc.id.toUInt64)
  let txn ← txn.set plane "SRC_X" (.number 0)
  let txn ← txn.set plane "SRC_Y" (.number 0)
  let txn ← txn.set plane "SRC_W" (.number (w <<< 16))
  let txn ← txn.set plane "SRC_H" (.number (h <<< 16))
  let txn ← txn.set plane "CRTC_X" (.number 0)
  let txn ← txn.set plane "CRTC_Y" (.number 0)
  let txn ← txn.set plane "CRTC_W" (.number w)
  txn.set plane "CRTC_H" (.number h)

/-- Adds the fences a frame has and wants, as far as the objects know them. -/
def setFences (txn : Transaction) (topology : Topology) (tables : PropertyCache)
    (content : FrameContent) : Transaction × List SkippedProperty :=
  let (txn, noInFence) :=
    match content.inFence with
    | some fence => txn.setOptional tables.plane "IN_FENCE_FD" (.fence fence)
    | none => (txn, none)
  let (txn, noOutFence) :=
    if content.wantOutFence then txn.requestOutFence topology.crtc tables.crtc else (txn, none)
  (txn, noInFence.toList ++ noOutFence.toList)

/-- The transaction of one frame, with the fence properties it had to leave out. -/
def build (topology : Topology) (tables : PropertyCache) (content : FrameContent) :
    Except DisplayError (Transaction × List SkippedProperty) := do
  let txn := empty (frameFlags content.modeBlob)
  let txn ← match content.modeBlob with
    | some blob => txn.setMode topology.crtc tables blob
    | none => .ok txn
  let txn ← txn.setPlane topology tables.plane content.framebuffer
  return txn.setFences topology tables content

end Transaction

end Scanout
