import Scanout.Handle
import Scanout.Layout
import Scanout.Mode

namespace Scanout

/-- The objects of a device that can be put together to a display path, in kernel order. -/
structure Resources where
  connectors : List ConnectorId
  encoders : List EncoderId
  crtcs : List CrtcId
deriving DecidableEq, Repr

inductive ConnectorState
  | connected
  | disconnected
  | unknown
deriving DecidableEq, Repr

def ConnectorState.name : ConnectorState → String
  | connected => "Connected"
  | disconnected => "Disconnected"
  | unknown => "Unknown"

structure Connector where
  handle : ConnectorId
  name : String
  state : ConnectorState
  currentEncoder : Option EncoderId
  encoders : List EncoderId
  modes : List Mode
deriving DecidableEq, Repr

/-- A set of positions in the list of CRTCs, bit `i` standing for position `i`. -/
structure CrtcMask where
  bits : UInt32
deriving DecidableEq, Repr

/-- Whether a mask has the bit of a position. Positions past the word have none. -/
def CrtcMask.allows (mask : CrtcMask) (index : Nat) : Bool :=
  index < 32 && mask.bits.toNat.testBit index

structure Encoder where
  handle : EncoderId
  crtc : Option CrtcId
  possible : CrtcMask
deriving DecidableEq, Repr

structure Plane where
  handle : PlaneId
  possible : CrtcMask
deriving DecidableEq, Repr

/-- The display path chosen at setup. It never changes afterwards. -/
structure Topology where
  connector : ConnectorId
  connectorName : String
  mode : Mode
  crtc : CrtcId
  crtcIndex : Nat
  encoder : Option EncoderId
  plane : PlaneId
deriving DecidableEq, Repr

/-- The size of the mode, which every buffer shown on it has. -/
def Topology.size (topology : Topology) : UInt32 × UInt32 :=
  topology.mode.size

/-- What the user asked for. A `refresh` of zero fits any. -/
structure Options where
  mode : Option String
  refresh : UInt32
  format : Fourcc
  modifier : Modifier
  surfaceless : Bool
deriving DecidableEq, Repr

end Scanout
