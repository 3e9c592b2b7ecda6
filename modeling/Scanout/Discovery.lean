import Scanout.Collaborators

namespace Scanout

variable {σ δ : Type} [World σ]

namespace DeviceOpener

/-- Opens the device at a path that the user gave. It must have mode-setting resources. -/
def openExplicit (opener : DeviceOpener σ δ) (path : String) :
    Act σ (Except DisplayError δ) := do
  match ← opener.openAt path with
  | .error cause => return .error (.deviceNotModesettable path cause)
  | .ok device =>
    match ← opener.resources device with
    | .ok _ =>
      note (.deviceChosen path)
      return .ok device
    | .error cause =>
      if cause.code? = CallError.notSupported.code? then
        note (.deviceNotModesetting path)
      opener.close device
      return .error (.deviceNotModesettable path cause)

/-- Opens a candidate, if it is a usable device. What is not used is closed again. -/
def tryCandidate (opener : DeviceOpener σ δ) (candidate : DeviceCandidate) :
    Act σ (Option δ) := do
  if !candidate.hasPrimaryNode then
    note (.devicePrimaryMissing candidate.path)
    return none
  match ← opener.openAt candidate.path with
  | .error cause =>
    note (.deviceNotOpened candidate.path cause)
    return none
  | .ok device =>
    match ← opener.resources device with
    | .ok _ =>
      note (.deviceChosen candidate.path)
      return some device
    | .error cause =>
      note (.deviceWithoutResources candidate.path cause)
      opener.close device
      return none

/-- The first usable device of a list of candidates. -/
def firstUsable (opener : DeviceOpener σ δ) : List DeviceCandidate → Act σ (Option δ)
  | [] => return none
  | candidate :: rest => do
    match ← opener.tryCandidate candidate with
    | some device => return some device
    | none => opener.firstUsable rest

/-- Opens the device to drive: the one at `path`, or else the first usable one there is. -/
def resolve (opener : DeviceOpener σ δ) (path : Option String) :
    Act σ (Except DisplayError δ) := do
  match path with
  | some path => opener.openExplicit path
  | none =>
    match ← opener.candidates with
    | .error cause =>
      note (.devicesUnreadable cause)
      return .error .noDeviceFound
    | .ok candidates =>
      match ← opener.firstUsable candidates with
      | some device => return .ok device
      | none => return .error .noDeviceFound

end DeviceOpener

end Scanout
