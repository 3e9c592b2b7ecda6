import Scanout.Journal

namespace Scanout

/-- The system's error number behind a failed operation on a file. -/
def fileError : IO.Error → CallError
  | .alreadyExists _ code _ | .interrupted _ code _ | .noFileOrDirectory _ code _
  | .invalidArgument _ code _ | .permissionDenied _ code _ | .resourceExhausted _ code _
  | .inappropriateType _ code _ | .noSuchThing _ code _ | .otherError code _
  | .resourceBusy code _ | .resourceVanished code _ | .unsupportedOperation code _
  | .hardwareFault code _ | .unsatisfiedConstraints code _ | .illegalOperation code _
  | .protocolError code _ | .timeExpired code _ => .errno code.toNat
  | .unexpectedEof => .other "unexpected end of file"
  | .userError message => .other message

/-- What a path leads to. Nothing is there if a part of the path is missing. -/
def readEntry (path : String) : IO FileEntry := do
  try
    return .readable (← IO.FS.readBinFile path).toList
  catch e =>
    let cause := fileError e
    return if cause = .noEntry || cause = .errno 20 then .absent cause else .unreadable cause

/-- Tries to open a path as a device is opened. -/
def probe (path : String) : IO (Except CallError Unit) := do
  try
    let _ ← IO.FS.Handle.mk path .readWrite
    return .ok ()
  catch e => return .error (fileError e)

def wantedDevice (line : CommandLine) (path : String) (entry : FileEntry) : Option String :=
  line.device.or ((Config.ofFile path entry).toOption.bind (·.device))

/-- Looks up what the program will want to know of the file system: the configuration file, and
whether the device opens. -/
def survey (places : UserPlaces) (arguments : List String) :
    IO (FileEntry × Except CallError Unit) := do
  match CommandLine.read arguments with
  | .error _ => return (.absent .noEntry, .error .noEntry)
  | .ok line =>
    let path := (line.config.or places.configPath).getD ""
    let entry ← readEntry path
    match wantedDevice line path entry with
    | some device => return (entry, ← probe device)
    | none => return (entry, .error .noEntry)

/-- Runs the program with arguments, on what the environment and the file system hold. -/
def runOn (arguments : List String) : IO UInt32 := do
  let places : UserPlaces :=
    { home := ← IO.getEnv "HOME", configHome := ← IO.getEnv "XDG_CONFIG_HOME", accountHome := none }
  let logRules ← IO.getEnv "RUST_LOG"
  let (entry, device) ← survey places arguments
  let around : Surroundings := { files := fun _ => entry, places, logRules }
  let (outcome, _) := Program.start (Journal.machine fun _ => device) around (·.notes)
    Note.hexName arguments 1 Journal.blank
  let outcome := outcome.getD ⟨0, "", ""⟩
  IO.print outcome.output
  IO.eprint outcome.errors
  return UInt32.ofNat outcome.exitCode

end Scanout

def main (arguments : List String) : IO UInt32 :=
  Scanout.runOn arguments
