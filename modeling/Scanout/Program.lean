import Scanout.ConfigFile
import Scanout.Discovery
import Scanout.LogFilter
import Scanout.Pipeline
import Scanout.Settings

namespace Scanout

/-- What a machine offers for presenting, an open device being a `δ`. -/
structure Machine (σ δ : Type) where
  opener : DeviceOpener σ δ
  device : δ → Device σ
  allocator : δ → Act σ (Except CallError (Allocator σ))
  /-- A renderer for buffers of a size. -/
  renderer : (width height : UInt32) → Act σ (Except Failure (Renderer σ))
  dropRenderer : Act σ Unit
  waiter : Waiter σ
  /-- Whether the user has typed something. -/
  inputReady : Act σ (Except CallError Bool)

structure Surroundings where
  files : String → FileEntry
  places : UserPlaces
  /-- Which messages the user wants to see. -/
  logRules : Option String

structure Outcome where
  exitCode : Nat
  output : String
  errors : String
deriving DecidableEq, Repr

def DisplayError.failure (e : DisplayError) : Failure :=
  ⟨e.message, (e.cause?.map (·.message)).toList⟩

namespace Program

variable {σ δ : Type} [World σ]

/-- Whether the user wants the program to stop. A failure to find out is only logged. -/
def interrupted (m : Machine σ δ) : Act σ Bool := do
  match ← m.inputReady with
  | .ok ready => return ready
  | .error cause =>
    note (.inputUnreadable cause)
    return false

/-- Presents frames on a display path that is set up, and gives it up afterwards. -/
def presentOn (m : Machine σ δ) (device : Device σ) (allocator : Allocator σ)
    (frames : Option Nat) (patience : Nat) (p : Pipeline) :
    Act σ (Option (Except Failure Unit)) := do
  match ← m.renderer p.topology.size.1 p.topology.size.2 with
  | .error failure =>
    p.drop device allocator
    return some (.error failure)
  | .ok renderer =>
    note .started
    let c : Collaborators σ := ⟨device, allocator, renderer, m.waiter⟩
    let (result, p) ← p.run c (interrupted m) patience frames
    if let some (.ok presented) := result then note (.finished presented)
    m.dropRenderer
    p.drop device allocator
    return result.map fun r => (r.map fun _ => ()).mapError DisplayError.failure

/-- Sets a display path up on an open device and presents frames on it. -/
def presentWith (m : Machine σ δ) (opened : δ) (settings : Settings) (patience : Nat) :
    Act σ (Option (Except Failure Unit)) := do
  match ← m.allocator opened with
  | .error cause => return some (.error ⟨"error creating GBM device", [cause.message]⟩)
  | .ok allocator =>
    let device := m.device opened
    match ← Pipeline.setUp device allocator settings.options with
    | .error e => return some (.error e.failure)
    | .ok p => presentOn m device allocator (settings.frames.map (·.toNat)) patience p

/-- Presents frames as the settings say. Gives nothing if that does not end within `patience`
frames. -/
def present (m : Machine σ δ) (settings : Settings) (patience : Nat) :
    Act σ (Option (Except Failure Unit)) := do
  match ← m.opener.resolve settings.device with
  | .error e => return some (.error e.failure)
  | .ok opened =>
    let result ← presentWith m opened settings patience
    m.opener.close opened
    return result

/-- The renderer there is only draws into a ring of buffers. -/
def surfacedMessage : String :=
  "surfaced presentation needs a renderer that draws into a GBM surface, the GLES renderer only "
    ++ "draws into surfaceless buffers"

/-- Loads the configuration, settles what is asked for, and presents it. -/
def run (m : Machine σ δ) (around : Surroundings) (line : CommandLine) (patience : Nat) :
    Act σ (Option (Except Failure Unit)) := do
  match ← Config.load around.files around.places line.config with
  | .error e => return some (.error (.of e.report))
  | .ok config =>
    match Settings.resolve line config with
    | .error e => return some (.error (.of e.message))
    | .ok settings =>
      if settings.options.surfaceless then present m settings patience
      else return some (.error (.of surfacedMessage))

def halt : Halt → Outcome
  | .help => ⟨0, Flag.helpText, ""⟩
  | .version => ⟨0, Flag.versionText, ""⟩
  | .misused e => ⟨2, "", e.message⟩

/-- How the program ends with what it has logged. -/
def outcome (log : String) : Except Failure Unit → Outcome
  | .ok _ => ⟨0, log, ""⟩
  | .error failure => ⟨1, log, "Error: " ++ failure.detail ++ "\n"⟩

/-- Runs the program from its arguments to its end. The log is what `noted` reads off the world,
with buffers named by `bufferName`. Gives nothing if it does not end within `patience` frames. -/
def start (m : Machine σ δ) (around : Surroundings) (noted : σ → List Note)
    (bufferName : Nat → String) (arguments : List String) (patience : Nat) :
    Act σ (Option Outcome) := do
  let rules := around.logRules.getD LogFilter.standard
  let complaining (o : Outcome) : Outcome :=
    { o with errors := LogFilter.complaints rules ++ o.errors }
  match CommandLine.read arguments with
  | .error h => return some (complaining (halt h))
  | .ok line =>
    let result ← run m around line patience
    let log := (LogFilter.parse rules).render bufferName (noted (← get))
    return result.map fun r => complaining (outcome log r)

end Program

end Scanout
