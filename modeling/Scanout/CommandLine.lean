import Scanout.CommandLine.Flag
import Scanout.Modifier
import Scanout.Number
import Scanout.Text.Similarity

namespace Scanout

/-- What the command line says. Everything may be left out. -/
structure CommandLine where
  config : Option String
  device : Option String
  mode : Option String
  refresh : Option UInt32
  format : Option String
  modifier : Option ModifierSpec
  surfaced : Bool
  frames : Option UInt64
deriving DecidableEq, Repr

/-- What can be wrong about a command line. Errors that come with a usage line know the options it
is to name. -/
inductive UsageError
  | unknownArgument (written : String) (similar : Option Flag) (named : List Flag)
  | valueMissing (flag : Flag)
  | valueRejected (flag : Flag) (value reason : String)
  | valueUnwanted (flag : Flag) (value : String) (named : List Flag)
  | repeated (flag : Flag)
  | modeMissing (named : List Flag)
deriving DecidableEq, Repr

namespace UsageError

def name : UsageError → String
  | unknownArgument _ _ _ => "UnknownArgument"
  | valueMissing _ => "InvalidValue"
  | valueRejected _ _ _ => "ValueValidation"
  | valueUnwanted _ _ _ => "TooManyValues"
  | repeated _ => "ArgumentConflict"
  | modeMissing _ => "MissingRequiredArgument"

def headline : UsageError → String
  | unknownArgument written _ _ => "error: unexpected argument '" ++ written ++ "' found"
  | valueMissing flag =>
    "error: a value is required for '" ++ flag.usage ++ "' but none was supplied"
  | valueRejected flag value reason =>
    "error: invalid value '" ++ value ++ "' for '" ++ flag.usage ++ "': " ++ reason
  | valueUnwanted flag value _ =>
    "error: unexpected value '" ++ value ++ "' for '" ++ flag.usage
      ++ "' found; no more were expected"
  | repeated flag => "error: the argument '" ++ flag.usage ++ "' cannot be used multiple times"
  | modeMissing _ => "error: the following required arguments were not provided:"

/-- The usage line that names some options, or that there are some. -/
def usageLine (named : List Flag) : String :=
  "\n\nUsage: kmsflip "
    ++ if named.isEmpty then "[OPTIONS]" else " ".intercalate (named.map (·.usage))

def explanation : UsageError → String
  | unknownArgument _ (some flag) named =>
    "\n\n  tip: a similar argument exists: '--" ++ flag.long ++ "'" ++ usageLine named
  | unknownArgument _ none named | valueUnwanted _ _ named => usageLine named
  | valueMissing _ | valueRejected _ _ _ => ""
  | repeated _ => usageLine []
  | modeMissing named => "\n  " ++ Flag.mode.usage ++ usageLine named

def message (e : UsageError) : String :=
  e.headline ++ e.explanation ++ "\n\nFor more information, try '--help'.\n"

end UsageError

/-- Why a command line does not start the program. -/
inductive Halt
  | help
  | version
  | misused (error : UsageError)
deriving DecidableEq, Repr

namespace CommandLine

def empty : CommandLine :=
  ⟨none, none, none, none, none, none, false, none⟩

def readValue {α : Type} (flag : Flag) (value : String) :
    Except NumberError α → Except UsageError α
  | .ok n => .ok n
  | .error e => .error (.valueRejected flag value e.message)

/-- Reads a refresh rate: a whole number first, then one of the right size. -/
def readRefresh (value : String) : Except UsageError UInt32 := do
  let n ← readValue .refresh value (Number.readSigned (Nat.pow 2 63) value.toList)
  if 0 ≤ n ∧ n < UInt32.size then return UInt32.ofNat n.toNat
  else
    let reason := toString n ++ " is not in 0..=" ++ toString (UInt32.size - 1)
    throw (.valueRejected .refresh value reason)

/-- Takes the value of an option in. Paths may not be empty. -/
def store (line : CommandLine) (flag : Flag) (value : String) : Except UsageError CommandLine :=
  match flag with
  | .config =>
    if value.isEmpty then .error (.valueMissing flag) else .ok { line with config := some value }
  | .device =>
    if value.isEmpty then .error (.valueMissing flag) else .ok { line with device := some value }
  | .mode => .ok { line with mode := some value }
  | .refresh => (readRefresh value).map fun n => { line with refresh := some n }
  | .format => .ok { line with format := some value }
  | .modifier =>
    match ModifierSpec.parse? value with
    | some m => .ok { line with modifier := some m }
    | none => .error (.valueRejected flag value (ModifierSpec.complaint value))
  | .frames =>
    (readValue flag value (Number.read 10 UInt64.size value.toList)).map fun n =>
      { line with frames := some (UInt64.ofNat n) }
  | .surfaced => .ok { line with surfaced := true }
  | .help | .version => .ok line

/-- A command line read in part: what it says so far, the options given, and an option whose value
may still follow as the next argument. -/
structure Progress where
  line : CommandLine
  given : List Flag
  pending : Option (Flag × Option String)
deriving DecidableEq, Repr

namespace Progress

/-- Takes an option in, which may be given once. -/
def accept (p : Progress) (flag : Flag) (value : String) : Except UsageError Progress :=
  if p.given.contains flag then .error (.repeated flag)
  else (p.line.store flag value).map fun line => { p with line, given := p.given ++ [flag] }

/-- Takes the pending option in. It is only looked at here, when what follows it is known. -/
def settle (p : Progress) : Except UsageError Progress :=
  match p.pending with
  | none => .ok p
  | some (flag, none) => .error (.valueMissing flag)
  | some (flag, some value) => { p with pending := none }.accept flag value

/-- The options given, with the pending one if there is nothing wrong about it. -/
def named (p : Progress) : List Flag :=
  match p.settle with
  | .ok p => p.given
  | .error _ => p.given

/-- Meets an option, with a value if one is attached to it. -/
def meet (p : Progress) (flag : Flag) (attached : Option String) : Except Halt Progress :=
  let misused {α : Type} : Except UsageError α → Except Halt α := Except.mapError Halt.misused
  match flag.takesValue, attached with
  | false, some value =>
    .error (.misused (.valueUnwanted flag value (p.given.erase flag ++ [flag])))
  | true, none => do return { (← misused p.settle) with pending := some (flag, none) }
  | true, some value => do misused ((← misused p.settle).accept flag value)
  | false, none => do
    let p ← misused p.settle
    match flag with
    | .help => throw .help
    | .version => throw .version
    | flag => misused (p.accept flag "")

/-- The option whose name is most like another, if any is like it at all. -/
def similarFlag (name : List Char) : Option Flag :=
  (Flag.all.foldl
    (fun (best : Option Flag × Float) flag =>
      let s := Text.similarity name flag.long.toList
      if 0.7 < s && best.2 ≤ s then (some flag, s) else best)
    (none, 0)).1

def unknownLong (p : Progress) (name : List Char) : Halt :=
  let similar := similarFlag name
  let others := p.named.filter fun flag => some flag != similar
  .misused (.unknownArgument ("--" ++ String.ofList name) similar (others ++ similar.toList))

def unknownWord (word : String) : Halt :=
  .misused (.unknownArgument word none [])

/-- Reads one argument: a long option, perhaps with its value after an equals sign; a short one,
perhaps with its value right after it; or the value of the option before. -/
def readArgument (p : Progress) (argument : String) : Except Halt Progress :=
  match argument.toList with
  | '-' :: '-' :: body =>
    let name := body.takeWhile (· != '=')
    let attached := match body.drop name.length with
      | _ :: value => some (String.ofList value)
      | [] => none
    match Flag.ofLong? name with
    | some flag => p.meet flag attached
    | none => .error (p.unknownLong name)
  | '-' :: letter :: rest =>
    match Flag.ofShort? letter with
    | none => .error (unknownWord ("-" ++ String.singleton letter))
    | some flag =>
      if !flag.takesValue then p.meet flag none
      else
        match rest with
        | [] => p.meet flag none
        | '=' :: value | value => p.meet flag (some (String.ofList value))
  | _ =>
    match p.pending with
    | some (flag, none) => .ok { p with pending := some (flag, some argument) }
    | _ => .error (unknownWord argument)

/-- Reads arguments. Two dashes end the options, and there is nothing else to follow. -/
def readArguments (p : Progress) : List String → Except Halt Progress
  | [] => p.settle.mapError Halt.misused
  | "--" :: [] => p.settle.mapError Halt.misused
  | "--" :: word :: _ => .error (unknownWord word)
  | argument :: rest => do readArguments (← p.readArgument argument) rest

end Progress

/-- Reads the arguments of the program. A refresh rate needs a mode. -/
def read (arguments : List String) : Except Halt CommandLine := do
  let p ← Progress.readArguments ⟨empty, [], none⟩ arguments
  if p.given.contains .refresh && !p.given.contains .mode then
    throw (.misused (.modeMissing (.mode :: p.given)))
  else return p.line

end CommandLine

end Scanout
