import Scanout.Proofs.FormatCodes
import Scanout.Settings

namespace Scanout

/-- What a line and a file say together, each of which may say nothing: the line comes first. -/
inductive Preferred {α : Type} (line file : Option α) : Option α → Prop
  | line {a : α} : line = some a → Preferred line file (some a)
  | file {a : α} : line = none → file = some a → Preferred line file (some a)
  | neither : line = none → file = none → Preferred line file none

namespace Settings

variable {recognize : UInt32 → Option Fourcc} {line : CommandLine} {config other : Config}
  {s : Settings}

end Settings

end Scanout
