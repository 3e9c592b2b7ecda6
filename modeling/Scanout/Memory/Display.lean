import Scanout.Memory.World

namespace Scanout

/-- A device in memory: one connector, one encoder, and what can be made to go wrong. -/
structure MemoryDisplay where
  resources : Option Resources
  connector : Connector
  encoderCrtc : Option CrtcId
  encoderMask : UInt32
  planes : List Plane
  properties : List (DisplayObject × List (PropertyId × UInt64))
  brokenProperties : List DisplayObject
  refusesAtomic : Bool
  rejectsModifierFramebuffers : Bool
  rejectsLegacyFramebuffers : Bool
deriving DecidableEq, Repr

namespace MemoryDisplay

def connectorId : ConnectorId := ⟨10⟩
def encoderId : EncoderId := ⟨20⟩
def firstCrtc : CrtcId := ⟨30⟩
def secondCrtc : CrtcId := ⟨31⟩

/-- The properties by number. Those of planes stand first, so that a name that a plane and another
object share means the plane's. -/
def propertyNames : List (PropertyId × String) :=
  [(⟨300⟩, "type"), (⟨301⟩, "FB_ID"), (⟨302⟩, "CRTC_ID"), (⟨303⟩, "SRC_X"), (⟨304⟩, "SRC_Y"),
  (⟨305⟩, "SRC_W"), (⟨306⟩, "SRC_H"), (⟨307⟩, "CRTC_X"), (⟨308⟩, "CRTC_Y"), (⟨309⟩, "CRTC_W"),
  (⟨310⟩, "CRTC_H"), (⟨311⟩, "IN_FENCE_FD"), (⟨101⟩, "CRTC_ID"), (⟨201⟩, "MODE_ID"),
  (⟨202⟩, "ACTIVE"), (⟨203⟩, "OUT_FENCE_PTR")]

def planeType : PropertyId := ⟨300⟩
def inFenceProperty : PropertyId := ⟨311⟩

def propertyCalled (name : String) : Option PropertyId :=
  (propertyNames.find? (·.2 == name)).map (·.1)

def connectorProperties : List (PropertyId × UInt64) := [(⟨101⟩, 0)]

def crtcProperties : List (PropertyId × UInt64) := [(⟨201⟩, 0), (⟨202⟩, 0), (⟨203⟩, 0)]

/-- The properties of a plane of a type: the first twelve of all. -/
def planeProperties (type : UInt64) : List (PropertyId × UInt64) :=
  (propertyNames.take 12).map fun (handle, _) => (handle, if handle = planeType then type else 0)

def mode (width height : UInt16) (refresh : UInt32) (preferred : Bool) : Mode :=
  { name := Text.nameField (toString width ++ "x" ++ toString height)
    width, height, refresh
    clock := width.toUInt32 * height.toUInt32 * refresh / 1000
    type := if preferred then 72 else 64 }

/-- The planes of the device with one output: number, mask of CRTCs, type. -/
def singleOutputPlanes : List (PlaneId × UInt32 × UInt64) :=
  [(⟨40⟩, 1, 1), (⟨41⟩, 2, 0), (⟨42⟩, 2, 1)]

/-- A device with one connected output. Its encoder drives the second CRTC only; the first plane
fits the first CRTC, an overlay and a primary plane fit the second. -/
def singleOutput : MemoryDisplay where
  resources := some ⟨[connectorId], [encoderId], [firstCrtc, secondCrtc]⟩
  connector :=
    { handle := connectorId, name := "HDMI-A-1", state := .connected, currentEncoder := none
      encoders := [encoderId], modes := [mode 1920 1080 60 false, mode 1024 768 60 true] }
  encoderCrtc := none
  encoderMask := 2
  planes := singleOutputPlanes.map fun (handle, mask, _) => ⟨handle, ⟨mask⟩⟩
  properties :=
    [(.connector connectorId, connectorProperties), (.crtc firstCrtc, crtcProperties),
      (.crtc secondCrtc, crtcProperties)]
      ++ singleOutputPlanes.map fun (handle, _, type) => (.plane handle, planeProperties type)
  brokenProperties := []
  refusesAtomic := false
  rejectsModifierFramebuffers := false
  rejectsLegacyFramebuffers := false

/-- The plane at a position of a device with planes of its own. -/
def planeAt (index : Nat) : PlaneId :=
  ⟨UInt32.ofNat (60 + index)⟩

def isPlane : DisplayObject → Bool
  | .plane _ => true
  | _ => false

/-- The device with one output and other planes: whether each fits the first CRTC, and its type. -/
def withPlanes (planes : List (Bool × UInt64)) : MemoryDisplay :=
  { singleOutput with
    planes := planes.mapIdx fun i (first, _) => ⟨planeAt i, ⟨if first then 1 else 2⟩⟩
    properties := singleOutput.properties.filter (fun (object, _) => !isPlane object)
      ++ planes.mapIdx fun i (_, type) => (.plane (planeAt i), planeProperties type) }

def withoutResources (d : MemoryDisplay) : MemoryDisplay :=
  { d with resources := none }

def disconnected (d : MemoryDisplay) : MemoryDisplay :=
  { d with connector := { d.connector with state := .disconnected } }

def withModes (d : MemoryDisplay) (modes : List Mode) : MemoryDisplay :=
  { d with connector := { d.connector with modes } }

/-- Binds the connector's encoder to a CRTC. -/
def withCurrentCrtc (d : MemoryDisplay) (crtc : CrtcId) : MemoryDisplay :=
  { d with
    connector := { d.connector with currentEncoder := some encoderId }
    encoderCrtc := some crtc }

def withEncoderMask (d : MemoryDisplay) (mask : UInt32) : MemoryDisplay :=
  { d with encoderMask := mask }

def withPlaneType (d : MemoryDisplay) (plane : PlaneId) (type : UInt64) : MemoryDisplay :=
  { d with properties := d.properties.map fun (object, properties) =>
      (object, if object = .plane plane then
        properties.map fun (handle, value) => (handle, if handle = planeType then type else value)
      else properties) }

def withBrokenProperties (d : MemoryDisplay) (object : DisplayObject) : MemoryDisplay :=
  { d with brokenProperties := d.brokenProperties ++ [object] }

/-- Takes the property called `name` away from every object. -/
def withoutProperty (d : MemoryDisplay) (name : String) : MemoryDisplay :=
  { d with properties := d.properties.map fun (object, properties) =>
      (object, properties.filter fun (handle, _) => propertyNames.lookup handle != some name) }

def withoutFences (d : MemoryDisplay) : MemoryDisplay :=
  (d.withoutProperty "IN_FENCE_FD").withoutProperty "OUT_FENCE_PTR"

def refusingAtomic (d : MemoryDisplay) : MemoryDisplay :=
  { d with refusesAtomic := true }

def rejectingModifierFramebuffers (d : MemoryDisplay) : MemoryDisplay :=
  { d with rejectsModifierFramebuffers := true }

def rejectingLegacyFramebuffers (d : MemoryDisplay) : MemoryDisplay :=
  { d with rejectsLegacyFramebuffers := true }

def readProperties (d : MemoryDisplay) (object : DisplayObject) :
    Except CallError (List (PropertyId × UInt64)) :=
  if object ∈ d.brokenProperties then .error (.errno 5)
  else
    match d.properties.lookup object with
    | some properties => .ok properties
    | none => .error .noEntry

def createBlob : Act Memory (Except CallError UInt64) := do
  let id := (← Memory.newObject).toUInt64
  Memory.see (.createBlob id)
  return .ok id

def addFramebuffer (d : MemoryDisplay) (layout : Layout) (withModifiers : Bool) :
    Act Memory (Except CallError FramebufferId) := do
  Memory.see (.addFramebuffer layout withModifiers)
  if if withModifiers then d.rejectsModifierFramebuffers else d.rejectsLegacyFramebuffers then
    return .error .invalidArgument
  else
    modify fun m => { m with added := m.added + 1 }
    return .ok ⟨← Memory.newObject⟩

def removeFramebuffer (framebuffer : FramebufferId) : Act Memory (Except CallError Unit) := do
  modify fun m => { m with removed := m.removed + 1 }
  Memory.see (.removeFramebuffer framebuffer)
  return .ok ()

/-- Accepts a transaction, unless some are still to be rejected. -/
def commit (txn : Transaction) : Act Memory (Except CallError (Option Fence)) := do
  let modeset := txn.flags.contains .allowModeset
  let m ← get
  if 0 < m.rejections then
    set { m with rejections := m.rejections - 1 }
    Memory.see (.rejected modeset)
    return .error .busy
  else
    let inFence := txn.assignments.any (·.property == inFenceProperty)
    Memory.see (.commit modeset inFence txn.outFence.isSome)
    modify fun m => { m with commits := m.commits ++ [txn] }
    if txn.outFence.isSome then return .ok (some (← Memory.newFence)) else return .ok none

def device (d : MemoryDisplay) : Device Memory where
  enable capability :=
    return if d.refusesAtomic && capability == .atomic then .error .notSupported else .ok ()
  resources :=
    return match d.resources with
      | some resources => .ok resources
      | none => .error .notSupported
  connector handle :=
    return if handle = d.connector.handle then .ok d.connector else .error .noEntry
  encoder handle :=
    return if handle = encoderId then .ok ⟨handle, d.encoderCrtc, ⟨d.encoderMask⟩⟩
      else .error .noEntry
  planes := return .ok (d.planes.map (·.handle))
  plane handle :=
    return match d.planes.find? (·.handle == handle) with
      | some plane => .ok plane
      | none => .error .noEntry
  properties object := return d.readProperties object
  propertyName handle :=
    return match propertyNames.lookup handle with
      | some name => .ok name
      | none => .error .noEntry
  createBlob _ := createBlob
  destroyBlob blob := do
    Memory.see (.destroyBlob blob)
    return .ok ()
  addFramebuffer := d.addFramebuffer
  removeFramebuffer := removeFramebuffer
  commit := commit

/-- An assignment on one line. Descriptors, which differ between runs, are not written out. -/
def assignmentLine (a : Assignment) : String :=
  let name := (propertyNames.lookup a.property).getD "?"
  let value := match a.value with
    | .number value => toString value
    | .fence _ => "fd"
  a.object.text ++ " " ++ name ++ " = " ++ value

end MemoryDisplay

/-- Paths and the devices behind them. A path without device only has a render node. -/
structure MemoryNodes where
  devices : List (String × Option MemoryDisplay)
deriving DecidableEq, Repr

/-- Opens devices in memory, which are known by their position in the list. -/
def MemoryNodes.opener (nodes : MemoryNodes) : DeviceOpener Memory (Nat × MemoryDisplay) where
  candidates := return .ok (nodes.devices.map fun (path, device) => ⟨path, device.isSome⟩)
  openAt path := do
    modify fun m => { m with opened := m.opened ++ [path] }
    match nodes.devices.zipIdx.find? (·.1.1 == path) with
    | some ((_, some device), index) => return .ok (index, device)
    | some ((_, none), _) => return .error .accessDenied
    | none => return .error .noEntry
  resources device := device.2.device.resources
  close _ := return

end Scanout
