namespace Scanout

/-- The options of the command line, in the order in which the help lists them. -/
inductive Flag
  | config
  | device
  | mode
  | refresh
  | format
  | modifier
  | surfaced
  | frames
  | help
  | version
deriving DecidableEq, Repr

namespace Flag

def all : List Flag :=
  [config, device, mode, refresh, format, modifier, surfaced, frames, help, version]

def long : Flag → String
  | config => "config"
  | device => "device"
  | mode => "mode"
  | refresh => "refresh"
  | format => "format"
  | modifier => "modifier"
  | surfaced => "surfaced"
  | frames => "frames"
  | help => "help"
  | version => "version"

def short? : Flag → Option Char
  | config => some 'c'
  | device => some 'd'
  | mode => some 'm'
  | refresh => some 'r'
  | format => some 'f'
  | modifier => none
  | surfaced => none
  | frames => some 'n'
  | help => some 'h'
  | version => some 'V'

def takesValue : Flag → Bool
  | surfaced | help | version => false
  | _ => true

def valueName : Flag → String
  | config => "CONFIG"
  | device => "DEVICE"
  | mode => "MODE"
  | refresh => "REFRESH"
  | format => "FORMAT"
  | modifier => "MODIFIER"
  | frames => "FRAMES"
  | surfaced | help | version => ""

/-- An option as messages name it. -/
def usage (flag : Flag) : String :=
  "--" ++ flag.long ++ if flag.takesValue then " <" ++ flag.valueName ++ ">" else ""

def about : Flag → String
  | config => "Path to config file (default: `$XDG_CONFIG_HOME/kmsflip/config.kdl`)"
  | device => "Primary DRM node to drive, e.g. `/dev/dri/card0`"
  | mode => "Mode name as listed by the connector, e.g. `1920x1080`"
  | refresh => "Vertical refresh the requested mode must have"
  | format => "Four-character code of the scanout format, e.g. `XR24`"
  | modifier => "Buffer modifier: `linear`, `invalid` or a number"
  | surfaced => "Present from a renderer surface instead of a private buffer ring"
  | frames => "Stop after this many frames"
  | help => "Print help"
  | version => "Print version"

/-- The option with a long name, which has to be written out. -/
def ofLong? (name : List Char) : Option Flag :=
  all.find? (·.long.toList == name)

def ofShort? (letter : Char) : Option Flag :=
  all.find? (·.short? == some letter)

def usageWidth : Nat :=
  (all.map (·.usage.length)).foldl max 0

def helpLine (flag : Flag) : String :=
  let letter := match flag.short? with
    | some c => "  -" ++ String.singleton c ++ ", "
    | none => "      "
  let gap := String.ofList (List.replicate (usageWidth + 2 - flag.usage.length) ' ')
  letter ++ flag.usage ++ gap ++ flag.about ++ "\n"

def helpText : String :=
  "Direct-to-display presentation loop over atomic KMS\n\nUsage: kmsflip [OPTIONS]\n\nOptions:\n"
    ++ String.join (all.map helpLine)

def versionText : String :=
  "kmsflip 0.1.0\n"

end Flag

end Scanout
