import Scanout.PropertyReading

namespace Scanout

variable {σ : Type} [World σ]

/-- The first connector that has a display. -/
def findConnector (device : Device σ) : List ConnectorId → Act σ (Except DisplayError Connector)
  | [] => return .error .noConnectedDisplay
  | handle :: rest => do
    match ← device.connector handle with
    | .ok connector =>
      if connector.state = .connected then return .ok connector
      else findConnector device rest
    | .error cause =>
      note (.connectorUnreadable handle cause)
      findConnector device rest

/-- A CRTC, where it stands in the device's list, and the encoder between it and the connector. -/
structure CrtcChoice where
  crtc : CrtcId
  index : Nat
  encoder : Option EncoderId
deriving DecidableEq, Repr

/-- The lowest position at or after `index` that a mask allows, with the CRTC there. -/
def firstAllowed (mask : CrtcMask) (index : Nat) : List CrtcId → Option (CrtcId × Nat)
  | [] => none
  | crtc :: rest =>
    if mask.allows index then some (crtc, index) else firstAllowed mask (index + 1) rest

/-- The CRTC that drives the connector already, if the device lists it. -/
def currentCrtc (device : Device σ) (crtcs : List CrtcId) :
    Option EncoderId → Act σ (Option CrtcChoice)
  | none => return none
  | some handle => do
    match ← device.encoder handle with
    | .error cause =>
      note (.encoderUnreadable handle cause)
      return none
    | .ok encoder =>
      match encoder.crtc with
      | none => return none
      | some crtc =>
        match crtcs.idxOf? crtc with
        | some index => return some ⟨crtc, index, some handle⟩
        | none =>
          note (.crtcNotListed crtc)
          return none

/-- The lowest CRTC of the first encoder that can drive any. -/
def reachableCrtc (device : Device σ) (crtcs : List CrtcId) :
    List EncoderId → Act σ (Option CrtcChoice)
  | [] => return none
  | handle :: rest => do
    match ← device.encoder handle with
    | .error cause =>
      note (.encoderUnreadable handle cause)
      reachableCrtc device crtcs rest
    | .ok encoder =>
      match firstAllowed encoder.possible 0 crtcs with
      | some (crtc, index) => return some ⟨crtc, index, some handle⟩
      | none => reachableCrtc device crtcs rest

/-- The CRTC for a connector: the one it has, else the first that one of its encoders can drive. -/
def findCrtc (device : Device σ) (crtcs : List CrtcId) (connector : Connector) :
    Act σ (Except DisplayError CrtcChoice) := do
  match ← currentCrtc device crtcs connector.currentEncoder with
  | some choice => return .ok choice
  | none =>
    match ← reachableCrtc device crtcs connector.encoders with
    | some choice => return .ok choice
    | none => return .error (.noCrtcAvailable connector.handle)

/-- What the property `type` of a primary plane holds. -/
def primaryPlaneType : UInt64 := 1

/-- Whether a plane says that it is a primary one. -/
def isPrimary (device : Device σ) (plane : PlaneId) : Act σ Bool := do
  match ← PropertyTable.load device (.plane plane) with
  | .ok table => return table.value "type" == some primaryPlaneType
  | .error e =>
    note (.planeTypeUnreadable e)
    return false

/-- The first primary plane that fits the CRTC at `index`, else the first that fits at all,
`candidate` standing before the list. -/
def scanPlanes (device : Device σ) (index : Nat) (candidate : Option PlaneId) :
    List PlaneId → Act σ (Option PlaneId)
  | [] => return candidate
  | handle :: rest => do
    match ← device.plane handle with
    | .error cause =>
      note (.planeUnreadable handle cause)
      scanPlanes device index candidate rest
    | .ok plane =>
      if plane.possible.allows index then
        if ← isPrimary device handle then return some handle
        else scanPlanes device index (some (candidate.getD handle)) rest
      else scanPlanes device index candidate rest

/-- The plane to show a picture from on a CRTC. -/
def findPlane (device : Device σ) (crtc : CrtcId) (index : Nat) :
    Act σ (Except DisplayError PlaneId) := do
  match ← device.planes with
  | .error cause =>
    note (.planesUnreadable cause)
    return .error (.noSuitablePlane crtc index)
  | .ok planes =>
    match ← scanPlanes device index none planes with
    | some plane => return .ok plane
    | none => return .error (.noSuitablePlane crtc index)

def missingModeNotes (modes : List Mode) (name : Option String) (refresh : UInt32) : List Note :=
  match name with
  | some name =>
    if modes.any (Mode.isCalled name refresh) then [] else [.modeNotFound name refresh]
  | none => []

def chooseMode (connector : Connector) (name : Option String) (refresh : UInt32) :
    Act σ (Except DisplayError Mode) := do
  notes (missingModeNotes connector.modes name refresh)
  match Mode.pick connector.modes name refresh with
  | none => return .error (.noModeAvailable connector.handle)
  | some choice =>
    if choice.fallback then note (.modeFellBack connector.name)
    return .ok choice.mode

def choosePath (device : Device σ) (crtcs : List CrtcId) (connector : Connector) (mode : Mode) :
    Act σ (Except DisplayError Topology) := do
  match ← findCrtc device crtcs connector with
  | .error e => return .error e
  | .ok choice =>
    match ← findPlane device choice.crtc choice.index with
    | .error e => return .error e
    | .ok plane =>
      let topology : Topology :=
        { connector := connector.handle, connectorName := connector.name, mode,
          crtc := choice.crtc, crtcIndex := choice.index, encoder := choice.encoder, plane }
      note (.outputChosen topology)
      return .ok topology

/-- Selects the display path of a device. Planes are only all listed once the device has been told
that universal planes are understood. -/
def selectOutput (device : Device σ) (mode : Option String) (refresh : UInt32) :
    Act σ (Except DisplayError Topology) := do
  match ← device.resources with
  | .error cause =>
    note (.resourcesUnreadable cause)
    return .error .noConnectedDisplay
  | .ok resources =>
    match ← findConnector device resources.connectors with
    | .error e => return .error e
    | .ok connector =>
      note (.connectorChosen connector.name)
      match ← chooseMode connector mode refresh with
      | .error e => return .error e
      | .ok mode => choosePath device resources.crtcs connector mode

end Scanout
