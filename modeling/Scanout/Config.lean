import Scanout.Modifier

namespace Scanout

structure ModeRequest where
  name : String
  refresh : Option UInt32
deriving DecidableEq, Repr

/-- What the configuration file says. Everything may be left out. -/
structure Config where
  device : Option String
  mode : Option ModeRequest
  format : Option String
  modifier : Option ModifierSpec
  surfaced : Bool
  frames : Option UInt64
deriving DecidableEq, Repr

def Config.empty : Config :=
  ⟨none, none, none, none, false, none⟩

end Scanout
