import Scanout.CommandLine
import Scanout.Config
import Scanout.Topology

namespace Scanout

structure Settings where
  device : Option String
  options : Options
  frames : Option UInt64
deriving DecidableEq, Repr

namespace Settings

/-- The mode asked for and its refresh rate, which belong together. -/
def resolveMode (line : CommandLine) (config : Config) : Option String × UInt32 :=
  match line.mode, config.mode with
  | some name, _ => (some name, line.refresh.getD 0)
  | none, some mode => (some mode.name, mode.refresh.getD 0)
  | none, none => (none, 0)

/-- The format asked for. A code that the command line hides is not looked at. -/
def resolveFormat (line : CommandLine) (config : Config)
    (recognize : UInt32 → Option Fourcc := Fourcc.ofListed? Fourcc.listed) :
    Except FormatError Fourcc :=
  match line.format.or config.format with
  | some code => Fourcc.parse code recognize
  | none => .ok .xrgb8888

/-- Puts a command line over a configuration. -/
def resolve (line : CommandLine) (config : Config)
    (recognize : UInt32 → Option Fourcc := Fourcc.ofListed? Fourcc.listed) :
    Except FormatError Settings := do
  let format ← resolveFormat line config recognize
  let (mode, refresh) := resolveMode line config
  let modifier := (line.modifier.or config.modifier).getD .linear
  let options : Options :=
    { mode, refresh, format
      modifier := modifier.toModifier
      surfaceless := !(line.surfaced || config.surfaced) }
  return { device := line.device.or config.device, options, frames := line.frames.or config.frames }

end Settings

end Scanout
