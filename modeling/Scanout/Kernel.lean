import Scanout.Collaborators

namespace Scanout

structure KernelConnector where
  interface : Nat
  number : Nat
  connection : Nat
  encoder : Option EncoderId
  encoders : List EncoderId
  modes : List Mode
deriving DecidableEq, Repr

/-- An encoder as the kernel describes it, with its own mask of CRTCs. -/
structure KernelEncoder where
  crtc : Option CrtcId
  mask : UInt32
deriving DecidableEq, Repr

/-- What the kernel is told to make a framebuffer of. Absent planes have handle and modifier
zero. -/
structure FramebufferCommand where
  width : UInt32
  height : UInt32
  format : UInt32
  flags : UInt32
  planes : List (UInt32 × UInt32 × UInt32 × UInt64)
deriving DecidableEq, Repr

/-- A value in an atomic request. A pointer is where the kernel writes an out-fence. -/
inductive AtomicValue
  | number (value : UInt64)
  | fence (fence : Fence)
  | pointer
deriving DecidableEq, Repr

/-- Property values by raw object number and property number, both ascending, each once. -/
structure AtomicRequest where
  objects : List (UInt32 × List (UInt32 × AtomicValue))
deriving DecidableEq, Repr

namespace AtomicRequest

/-- Puts a value under a key of an ascending list, replacing the one that is there. -/
def insertSorted {α : Type} (key : UInt32) (value : α) : List (UInt32 × α) → List (UInt32 × α)
  | [] => [(key, value)]
  | (k, v) :: rest =>
    if key < k then (key, value) :: (k, v) :: rest
    else if key = k then (key, value) :: rest
    else (k, v) :: insertSorted key value rest

/-- Sets a property in ascending order. A later value of the same property replaces an earlier
one. -/
def set (request : AtomicRequest) (object property : UInt32) (value : AtomicValue) :
    AtomicRequest :=
  let properties := (request.objects.lookup object).getD []
  ⟨insertSorted object (insertSorted property value properties) request.objects⟩

def ofValue : PropertyValue → AtomicValue
  | .number value => .number value
  | .fence fence => .fence fence

/-- Whether the kernel is given a place for an out-fence. -/
def hasPointer (request : AtomicRequest) : Bool :=
  request.objects.any fun (_, properties) => properties.any fun (_, value) => value == .pointer

end AtomicRequest

/-- Ways in which talking to the kernel stops the program. -/
inductive Crash
  /-- A shift by at least the width of the mask, which more than 32 CRTCs lead to. -/
  | shiftOverflow
  /-- A framebuffer with the modifier of an unknown layout, or one that comes with a modifier and
  without the flag for it, or the other way round. -/
  | unfitModifier
deriving DecidableEq, Repr

/-- The kernel's calls on an open device, and what the library for them does by itself. -/
structure Kernel (σ : Type) where
  setCapability : Capability → Act σ (Except CallError Unit)
  resources : Act σ (Except CallError Resources)
  connector : ConnectorId → Act σ (Except CallError KernelConnector)
  encoder : EncoderId → Act σ (Except CallError KernelEncoder)
  planes : Act σ (Except CallError (List PlaneId))
  planeMask : PlaneId → Act σ (Except CallError UInt32)
  properties : DisplayObject → Act σ (Except CallError (List (PropertyId × UInt64)))
  propertyName : PropertyId → Act σ (Except CallError (List UInt8))
  createBlob : Mode → Act σ (Except CallError UInt64)
  destroyBlob : UInt32 → Act σ (Except CallError Unit)
  addFramebuffer : FramebufferCommand → Act σ (Except CallError FramebufferId)
  removeFramebuffer : FramebufferId → Act σ (Except CallError Unit)
  /-- Submits a request. Also gives what then stands where the out-fence goes, -1 at first. -/
  commit : CommitFlags → AtomicRequest → Act σ (Except CallError Unit × Int)
  crash : Crash → Act σ CallError
  /-- The CRTCs of a list that a mask of the kernel's allows, unless looking for them overflows. -/
  filterCrtcs : List CrtcId → UInt32 → Option (List CrtcId)
  /-- A request with a property of an object set to a value. -/
  setProperty : AtomicRequest → (object property : UInt32) → AtomicValue → AtomicRequest

/-- The names of connector interfaces by number. -/
def interfaceNames : List String :=
  ["Unknown", "VGA", "DVI-I", "DVI-D", "DVI-A", "Composite", "SVIDEO", "LVDS", "Component", "DIN",
  "DP", "HDMI-A", "HDMI-B", "TV", "eDP", "Virtual", "DSI", "DPI", "Writeback", "SPI", "USB"]

namespace KernelConnector

/-- A connector's name: its interface and its number among those of that interface. -/
def name (info : KernelConnector) : String :=
  (interfaceNames[info.interface]?).getD "Unknown" ++ "-" ++ toString info.number

def state (info : KernelConnector) : ConnectorState :=
  if info.connection = 1 then .connected
  else if info.connection = 2 then .disconnected
  else .unknown

end KernelConnector

/-- The bit of a position, unless that lies past the mask: then the shift overflows. -/
def bit? (index : Nat) : Option UInt32 :=
  if index < 32 then some (1 <<< UInt32.ofNat index) else none

/-- The CRTCs of a list whose positions, counted from `index`, a mask has the bits of. Every
position is looked at. -/
def allowedChecked? (mask : UInt32) (index : Nat) : List CrtcId → Option (List CrtcId)
  | [] => some []
  | crtc :: rest => do
    let bit ← bit? index
    let later ← allowedChecked? mask (index + 1) rest
    return if bit &&& mask = 0 then later else crtc :: later

/-- Bits for the positions in a list of CRTCs where an allowed one stands. -/
def maskOf? (crtcs allowed : List CrtcId) : Option CrtcMask :=
  let stands := crtcs.zipIdx.filter (·.1 ∈ allowed)
  (stands.foldlM (fun mask place => (bit? place.2).map (mask ||| ·)) 0).map CrtcMask.mk

/-- The command for a framebuffer with the layout's modifier on each plane that is present. -/
def FramebufferCommand.ofLayout (layout : Layout) (withModifiers : Bool) : FramebufferCommand :=
  let modifier := if withModifiers then (layout.modifier.getD .linear).raw else 0
  { width := layout.width, height := layout.height, format := layout.format.value
    flags := if withModifiers then 2 else 0
    planes := layout.planes.toList.map fun p =>
      (p.handle.getD 0, p.pitch, p.offset, if p.handle.isSome then modifier else 0) }

namespace Kernel

variable {σ : Type} [World σ]

/-- The mask of CRTCs that the display path works with, from the kernel's own. -/
def crtcMask? (kernel : Kernel σ) (crtcs : List CrtcId) (mask : UInt32) : Option CrtcMask :=
  (kernel.filterCrtcs crtcs mask).bind (maskOf? crtcs)

/-- The mask of a device's CRTCs behind the kernel's own mask. -/
def crtcMask (kernel : Kernel σ) (mask : UInt32) : Act σ (Except CallError CrtcMask) := do
  match ← kernel.resources with
  | .error cause => return .error cause
  | .ok resources =>
    match kernel.crtcMask? resources.crtcs mask with
    | some mask => return .ok mask
    | none => return .error (← kernel.crash .shiftOverflow)

def connectorInfo (kernel : Kernel σ) (handle : ConnectorId) :
    Act σ (Except CallError Connector) := do
  match ← kernel.connector handle with
  | .error cause => return .error cause
  | .ok info =>
    return .ok
      { handle, name := info.name, state := info.state, currentEncoder := info.encoder,
        encoders := info.encoders, modes := info.modes }

def encoderInfo (kernel : Kernel σ) (handle : EncoderId) :
    Act σ (Except CallError Encoder) := do
  match ← kernel.encoder handle with
  | .error cause => return .error cause
  | .ok info => return (← kernel.crtcMask info.mask).map (⟨handle, info.crtc, ·⟩)

def planeInfo (kernel : Kernel σ) (handle : PlaneId) : Act σ (Except CallError Plane) := do
  match ← kernel.planeMask handle with
  | .error cause => return .error cause
  | .ok mask => return (← kernel.crtcMask mask).map (⟨handle, ·⟩)

/-- Makes a framebuffer. The flag has to say whether there is a modifier, which has to be one that
the kernel can know. -/
def addLayout (kernel : Kernel σ) (layout : Layout) (withModifiers : Bool) :
    Act σ (Except CallError FramebufferId) := do
  if withModifiers != layout.modifier.isSome || layout.modifier == some .invalid then
    return .error (← kernel.crash .unfitModifier)
  else kernel.addFramebuffer (.ofLayout layout withModifiers)

/-- The request for a transaction: its assignments, then where to put the out-fence. -/
def request (kernel : Kernel σ) (txn : Transaction) : AtomicRequest :=
  let request := txn.assignments.foldl
    (fun request a =>
      kernel.setProperty request a.object.id a.property.id (AtomicRequest.ofValue a.value))
    ⟨[]⟩
  match txn.outFence with
  | some (crtc, property) => kernel.setProperty request crtc.id property.id .pointer
  | none => request

def submit (kernel : Kernel σ) (txn : Transaction) :
    Act σ (Except CallError (Option Fence)) := do
  match ← kernel.commit txn.flags (kernel.request txn) with
  | (.error cause, _) => return .error cause
  | (.ok _, descriptor) =>
    return .ok (if descriptor < 0 then none else some ⟨descriptor.toNat⟩)

def device (kernel : Kernel σ) : Device σ where
  enable := kernel.setCapability
  resources := kernel.resources
  connector := kernel.connectorInfo
  encoder := kernel.encoderInfo
  planes := kernel.planes
  plane := kernel.planeInfo
  properties := kernel.properties
  propertyName handle := do return (← kernel.propertyName handle).map Text.lossy
  createBlob := kernel.createBlob
  destroyBlob blob := kernel.destroyBlob blob.toUInt32
  addFramebuffer := kernel.addLayout
  removeFramebuffer := kernel.removeFramebuffer
  commit := kernel.submit

end Kernel

end Scanout
