import Scanout.Config.Decode
import Scanout.World

namespace Scanout

inductive FileEntry
  | absent (cause : CallError)
  /-- There is something, but it cannot be read. -/
  | unreadable (cause : CallError)
  | readable (bytes : List UInt8)
deriving DecidableEq, Repr

/-- Where the user's files are: what the environment says, and what the account says. -/
structure UserPlaces where
  home : Option String
  configHome : Option String
  accountHome : Option String
deriving DecidableEq, Repr

def joinPath (directory name : String) : String :=
  if directory.isEmpty || directory.endsWith "/" then directory ++ name
  else directory ++ "/" ++ name

namespace UserPlaces

/-- The home directory. An empty name in the environment is none. -/
def homeDirectory (places : UserPlaces) : Option String :=
  match places.home with
  | some home => if home.isEmpty then places.accountHome else some home
  | none => places.accountHome

/-- The directory of the user's configuration, if it is named by an absolute path; else the usual
one. -/
def configDirectory (places : UserPlaces) (home : String) : String :=
  match places.configHome with
  | some directory => if directory.startsWith "/" then directory else joinPath home ".config"
  | none => joinPath home ".config"

def configPath (places : UserPlaces) : Option String := do
  let home ← places.homeDirectory
  return joinPath (joinPath (places.configDirectory home) "kmsflip") "config.kdl"

end UserPlaces

inductive ConfigFileError
  | unreadable (path : String) (cause : CallError)
  | invalid (path : String) (error : ConfigError)
deriving DecidableEq, Repr

namespace ConfigFileError

def causes : ConfigFileError → List String
  | unreadable _ cause => [cause.message]
  | invalid _ .notADocument => ["error parsing KDL"]
  | invalid _ (.invalid messages) => "error parsing KDL" :: messages

def headline : ConfigFileError → String
  | unreadable path _ => "error reading " ++ Text.quoted path
  | invalid _ _ => "error parsing"

/-- The lines of a report on a chain of causes, each an arrow's length in. -/
def causeLines : List String → List String
  | [] => []
  | [cause] => ["  `-> " ++ cause]
  | cause :: rest => ("  |-> " ++ cause) :: causeLines rest

/-- A report of several lines, the last one ended too. -/
def report (e : ConfigFileError) : String :=
  String.join ((("  x " ++ e.headline) :: causeLines e.causes).map (· ++ "\n"))

end ConfigFileError

def FileEntry.text : FileEntry → Except CallError String
  | absent cause | unreadable cause => .error cause
  | readable bytes =>
    match String.fromUTF8? ⟨bytes.toArray⟩ with
    | some text => .ok text
    | none => .error (.other "stream did not contain valid UTF-8")

namespace Config

def ofFile (path : String) (entry : FileEntry)
    (decode : String → Except ConfigError Config := parse) : Except ConfigFileError Config :=
  match entry.text with
  | .error cause => .error (.unreadable path cause)
  | .ok text =>
    match decode text with
    | .ok config => .ok config
    | .error e => .error (.invalid path e)

variable {σ : Type} [World σ]

/-- Loads the file at a path, and says so. -/
def loadFile (path : String) (entry : FileEntry)
    (decode : String → Except ConfigError Config := parse) :
    Act σ (Except ConfigFileError Config) := do
  match ofFile path entry decode with
  | .ok config =>
    note (.configLoaded path)
    return .ok config
  | .error e => return .error e

/-- Loads the configuration at the path given, or in the usual place, where it may be absent. -/
def load (files : String → FileEntry) (places : UserPlaces) (path : Option String)
    (decode : String → Except ConfigError Config := parse) :
    Act σ (Except ConfigFileError Config) := do
  match path, places.configPath with
  | some path, _ => loadFile path (files path) decode
  | none, some path =>
    match files path with
    | .absent _ =>
      note .configMissing
      return .ok .empty
    | entry => loadFile path entry decode
  | none, none =>
    note .configMissing
    return .ok .empty

end Config

end Scanout
