import Scanout.Bench.World

namespace Scanout

/-- What a scripted device answers to queries, which do not change: a `γ` about a connector, an `ε`
about an encoder, a `π` about a plane. -/
structure DeviceModel (γ ε π : Type) where
  universalPlanes : Option CallError
  atomic : Option CallError
  resources : Except CallError Resources
  connectors : List (ConnectorId × Except CallError γ)
  encoders : List (EncoderId × Except CallError ε)
  planes : List (PlaneId × Except CallError π)
  planeList : Except CallError (List PlaneId)
  properties : List (DisplayObject × Except CallError (List (PropertyId × UInt64)))
  propertyNames : List (PropertyId × Except CallError String)

def DeviceModel.refusal {γ ε π : Type} (model : DeviceModel γ ε π) :
    Capability → Option CallError
  | .universalPlanes => model.universalPlanes
  | .atomic => model.atomic

abbrev DisplayModel := DeviceModel Connector Encoder Plane

/-- The answer to a query of something that may not be there. -/
def answer {κ α : Type} [BEq κ] (table : List (κ × Except CallError α)) (key : κ) :
    Except CallError α :=
  (table.lookup key).getD (.error .noEntry)

namespace Bench

def createBlob (mode : Mode) : Act Bench (Except CallError UInt64) := do
  let subject := "create_blob " ++ toString mode.width ++ "x" ++ toString mode.height ++ "@"
    ++ toString mode.refresh
  match ← next .createBlob with
  | some cause =>
    say (subject ++ " failed")
    return .error cause
  | none =>
    let id ← newObject
    say (subject ++ " -> " ++ toString id)
    return .ok (UInt64.ofNat id)

def destroyBlob (blob : UInt64) : Act Bench (Except CallError Unit) := do
  say ("destroy_blob " ++ toString blob)
  match ← next .destroyBlob with
  | some cause => return .error cause
  | none => return .ok ()

/-- The number for a new framebuffer, unless making it fails. -/
def newFramebuffer (withModifiers : Bool) : Act Bench (Except CallError FramebufferId) := do
  match ← next (if withModifiers then .addModifierFramebuffer else .addLegacyFramebuffer) with
  | some cause => return .error cause
  | none => return .ok ⟨UInt32.ofNat (← newObject)⟩

def removeFramebuffer (framebuffer : FramebufferId) : Act Bench (Except CallError Unit) := do
  say ("remove_fb " ++ toString framebuffer.id)
  match ← next .removeFramebuffer with
  | some cause => return .error cause
  | none => return .ok ()

def addFramebuffer (layout : Layout) (withModifiers : Bool) :
    Act Bench (Except CallError FramebufferId) := do
  let result ← newFramebuffer withModifiers
  see (.framebuffer layout withModifiers result.toOption)
  return result

def commit (txn : Transaction) : Act Bench (Except CallError (Option Fence)) := do
  let step ← nextCommit
  let ds := (← get).descriptors
  let assignments := txn.assignments.map fun a => (a.object, a.property, valueText ds a.value)
  let report := Event.commit txn.flags assignments txn.outFence
  match step with
  | .reject cause =>
    see (report false)
    return .error cause
  | .acceptWithoutFence =>
    see (report true)
    return .ok none
  | .accept =>
    see (report true)
    if txn.outFence.isSome then return .ok (some (← newOutFence)) else return .ok none

end Bench

def Capability.word : Capability → String
  | .universalPlanes => "universal_planes"
  | .atomic => "atomic"

def DisplayModel.device (model : DisplayModel) : Device Bench where
  enable capability := do
    Bench.say ("cap " ++ capability.word)
    match model.refusal capability with
    | some cause => return .error cause
    | none => return .ok ()
  resources := return model.resources
  connector handle := return answer model.connectors handle
  encoder handle := return answer model.encoders handle
  planes := return model.planeList
  plane handle := return answer model.planes handle
  properties object := return answer model.properties object
  propertyName handle := return answer model.propertyNames handle
  createBlob := Bench.createBlob
  destroyBlob := Bench.destroyBlob
  addFramebuffer := Bench.addFramebuffer
  removeFramebuffer := Bench.removeFramebuffer
  commit := Bench.commit

structure ListedDevice where
  path : String
  refusal : Option CallError
  model : DisplayModel

structure DeviceList where
  candidates : Except CallError (List DeviceCandidate)
  devices : List ListedDevice

/-- Opens the devices of a list. An open device is known by its entry. -/
def DeviceList.opener (list : DeviceList) : DeviceOpener Bench ListedDevice where
  candidates := do
    Bench.say "enumerate"
    return list.candidates
  openAt path := do
    Bench.say ("open " ++ path)
    match list.devices.find? (·.path == path) with
    | none => return .error .noEntry
    | some device =>
      match device.refusal with
      | some cause => return .error cause
      | none => return .ok device
  resources device := return device.model.resources
  close device := Bench.say ("close " ++ device.path)

end Scanout
