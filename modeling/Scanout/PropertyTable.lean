import Scanout.DisplayError

namespace Scanout

/-- One property of an object, with the value it had when it was read. -/
structure PropertyEntry where
  name : String
  handle : PropertyId
  value : UInt64
deriving DecidableEq, Repr

/-- The properties of one object, in the order in which the device lists them. -/
structure PropertyTable where
  object : DisplayObject
  entries : List PropertyEntry
deriving DecidableEq, Repr

namespace PropertyTable

def entry? (table : PropertyTable) (name : String) : Option PropertyEntry :=
  table.entries.find? (·.name == name)

def lookup (table : PropertyTable) (name : String) : Option PropertyId :=
  (table.entry? name).map (·.handle)

def value (table : PropertyTable) (name : String) : Option UInt64 :=
  (table.entry? name).map (·.value)

/-- The number of a property that nothing works without. -/
def require (table : PropertyTable) (name : String) : Except DisplayError PropertyId :=
  match table.lookup name with
  | some handle => .ok handle
  | none => .error (.missingProperty table.object name)

end PropertyTable

/-- The property tables of the connector, CRTC and plane of a display path. -/
structure PropertyCache where
  connector : PropertyTable
  crtc : PropertyTable
  plane : PropertyTable
deriving DecidableEq, Repr

end Scanout
