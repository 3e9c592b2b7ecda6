import Scanout.Bench.KernelModel

namespace Scanout

structure ListedGpu where
  node : Option String
  seat : Option String
  gone : Bool
deriving DecidableEq, Repr

/-- A display node in the file system, with the names in its device's directory. -/
structure DisplayNode where
  path : String
  minor : Nat
  directory : Option (List String)
  refusal : Option CallError
  modesetting : Bool
deriving DecidableEq, Repr

structure NodeModel where
  contextFailure : Option CallError
  scanFailure : Option CallError
  gpus : List ListedGpu
  nodes : List DisplayNode
  /-- Whether `/dev/null` stands for the bench's own device. -/
  nullIsDevice : Bool

/-- What is behind an open path. -/
inductive OpenNode
  | display
  | file
deriving DecidableEq, Repr

namespace NodeModel

def bare : NodeModel where
  contextFailure := none
  scanFailure := none
  gpus := []
  nodes := []
  nullIsDevice := true

def nodeAt (model : NodeModel) (path : String) : Option DisplayNode :=
  model.nodes.find? (·.path == path)

/-- What the names of a kind of node begin with. The kind is the minor number in steps of 64. -/
def kindName (minor : Nat) : Option String :=
  ["card", "controlD", "renderD"][minor / 64]?

def directoryOf (model : NodeModel) (minor : Nat) : Option (List String) :=
  (model.nodes.find? fun n => n.minor == minor && n.directory.isSome).bind (·.directory)

/-- The node in a device's directory whose name begins with `start` and which exists. -/
def nodeNamed (model : NodeModel) (directory : List String) (start : String) : Option String :=
  (directory.find? fun name =>
    name.startsWith start && (model.nodeAt ("/dev/dri/" ++ name)).isSome).map ("/dev/dri/" ++ ·)

/-- The kind and the directory of the display node at a path. -/
def describe (model : NodeModel) (path : String) : Option (String × List String) := do
  let node ← model.nodeAt path
  let kind ← kindName node.minor
  return (kind, ← model.directoryOf node.minor)

def primaryOf (model : NodeModel) (path : String) : Option String := do
  let (_, directory) ← model.describe path
  let primary ← model.nodeNamed directory "card"
  let (kind, directory) ← model.describe primary
  model.nodeNamed directory kind

/-- Whether one text comes before another by its bytes, or is the same. -/
def notAfter (a b : String) : Bool :=
  !decide (Text.bytes b < Text.bytes a)

/-- The paths of the graphics cards of a seat, in order. -/
def gpuPaths (model : NodeModel) (seat : String) : List String :=
  let wanted := model.gpus.filter fun gpu => !gpu.gone && gpu.seat.getD "seat0" == seat
  (wanted.filterMap (·.node)).mergeSort notAfter

/-- A found card, by its primary node if it has one. -/
def candidate (model : NodeModel) (path : String) : DeviceCandidate :=
  match model.primaryOf path with
  | some primary => ⟨primary, true⟩
  | none => ⟨path, false⟩

def directories : List String :=
  ["/", "//", ".", "..", "./", "/dev", "/dev/", "/etc", "/etc/", "/proc", "/proc/", "/sys", "/sys/",
  "/tmp", "/tmp/", "/usr", "/usr/"]

def openFile (model : NodeModel) (path : String) : Except CallError OpenNode :=
  if path.toList.contains (Char.ofNat 0) then .error .invalidArgument
  else if path = "/dev/null" then .ok (if model.nullIsDevice then .display else .file)
  else if directories.contains path then .error (.errno 21)
  else if path.startsWith "/dev/null/" then .error (.errno 20)
  else .error .noEntry

def openPath (model : NodeModel) (path : String) : Except CallError OpenNode :=
  match model.nodeAt path with
  | none => model.openFile path
  | some node =>
    match node.refusal with
    | some cause => .error cause
    | none => .ok (if node.modesetting then .display else .file)

/-- Finds and opens devices through the device manager. All display nodes lead to one kernel. -/
def opener (model : NodeModel) (kernel : KernelModel) (seat : String) :
    DeviceOpener Bench OpenNode where
  candidates := do
    match model.contextFailure with
    | some cause => return .error cause
    | none =>
      Bench.say "udev subsystem drm"
      Bench.say "udev sysname card[0-9]*"
      match model.scanFailure with
      | some cause => return .error cause
      | none => return .ok ((model.gpuPaths seat).map model.candidate)
  openAt path := return model.openPath path
  resources
    | .display => kernel.device.resources
    | .file => return .error .noSuchRequest
  close _ := return

end NodeModel

end Scanout
