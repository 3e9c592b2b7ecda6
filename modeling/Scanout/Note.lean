import Scanout.Topology
import Scanout.Transaction
import Scanout.Throughput
import Scanout.Text.Fixed

namespace Scanout

/-- How much a log message matters, the most verbose level first. -/
inductive Level
  | trace
  | debug
  | info
  | warn
  | error
deriving DecidableEq, Repr

namespace Level

def name : Level → String
  | trace => "TRACE"
  | debug => "DEBUG"
  | info => "INFO"
  | warn => "WARN"
  | error => "ERROR"

/-- The rank of a level, the most verbose lowest. -/
def rank : Level → Nat
  | trace => 0
  | debug => 1
  | info => 2
  | warn => 3
  | error => 4

end Level

inductive Component
  | program
  | commandLine
  | configuration
  | renderer
  | presentation
  | buffers
  | commits
  | devices
  | choices
  | outputs
  | properties
deriving DecidableEq, Repr

def Component.target : Component → String
  | program => "kmsflip"
  | commandLine => "kmsflip::cli"
  | configuration => "kmsflip_config"
  | renderer => "kmsflip::backend::gles"
  | presentation => "kmsflip::backend::kms"
  | buffers => "kmsflip::backend::kms::buffers"
  | commits => "kmsflip::backend::kms::commit"
  | devices => "kmsflip::backend::kms::devices"
  | choices => "kmsflip::backend::kms::helpers"
  | outputs => "kmsflip::backend::kms::outputs"
  | properties => "kmsflip::backend::kms::properties"

/-- What the program has to say while it runs. -/
inductive Note
  | universalPlanesRefused (cause : CallError)
  | resourcesUnreadable (cause : CallError)
  | connectorUnreadable (connector : ConnectorId) (cause : CallError)
  | connectorChosen (name : String)
  | modeNotFound (name : String) (refresh : UInt32)
  | modeFellBack (connector : String)
  | crtcNotListed (crtc : CrtcId)
  | encoderUnreadable (encoder : EncoderId) (cause : CallError)
  | planesUnreadable (cause : CallError)
  | planeUnreadable (plane : PlaneId) (cause : CallError)
  | planeTypeUnreadable (error : DisplayError)
  | outputChosen (topology : Topology)
  | propertyUnreadable (object : DisplayObject) (cause : CallError)
  | propertiesRead (object : DisplayObject) (count : Nat)
  | deviceChosen (path : String)
  | deviceNotModesetting (path : String)
  | devicesUnreadable (cause : CallError)
  | devicePrimaryMissing (path : String)
  | deviceNotOpened (path : String) (cause : CallError)
  | deviceWithoutResources (path : String) (cause : CallError)
  | layoutFellBack (cause : CallError)
  | modifierUsed (modifier : Modifier)
  | modifierRefused (cause : CallError)
  | framebufferCreated (framebuffer : FramebufferId) (buffer : Nat)
  | framebufferRemoving (framebuffer : FramebufferId)
  | framebufferNotRemoved (cause : CallError)
  | propertySkipped (skipped : SkippedProperty)
  | committing (frame : Nat) (count : Nat) (flags : CommitFlags)
  | modeBlobNotDestroyed (cause : CallError)
  | gpuWaitFailed (failure : Failure)
  | modesetDone (connector : String)
  | throughput (report : ThroughputReport)
  | interrupted
  | frameDropped (frame : Nat) (error : DisplayError)
  | slotExported (slot : Nat)
  | configMissing
  | configLoaded (path : String)
  | started
  | inputUnreadable (cause : CallError)
  | finished (presented : Nat)
deriving Repr

namespace Note

def level : Note → Level
  | universalPlanesRefused _ | resourcesUnreadable _ | connectorUnreadable _ _
  | modeNotFound _ _ | crtcNotListed _ | encoderUnreadable _ _ | planesUnreadable _
  | planeUnreadable _ _ | propertyUnreadable _ _ | deviceNotModesetting _ | devicesUnreadable _
  | layoutFellBack _ | modifierRefused _ | framebufferNotRemoved _ | propertySkipped _
  | modeBlobNotDestroyed _ | gpuWaitFailed _ | frameDropped _ _ | inputUnreadable _ => .warn
  | connectorChosen _ | modeFellBack _ | planeTypeUnreadable _ | devicePrimaryMissing _
  | deviceNotOpened _ _ | deviceWithoutResources _ _ | framebufferCreated _ _ | modesetDone _
  | slotExported _ | configMissing | configLoaded _ => .debug
  | outputChosen _ | deviceChosen _ | modifierUsed _ | throughput _ | interrupted | started
  | finished _ => .info
  | propertiesRead _ _ | framebufferRemoving _ | committing _ _ _ => .trace

def component : Note → Component
  | universalPlanesRefused _ | gpuWaitFailed _ | modesetDone _ | throughput _ | interrupted
  | frameDropped _ _ => .presentation
  | resourcesUnreadable _ | connectorUnreadable _ _ | connectorChosen _ | modeFellBack _
  | crtcNotListed _ | encoderUnreadable _ _ | planesUnreadable _ | planeUnreadable _ _
  | planeTypeUnreadable _ | outputChosen _ => .outputs
  | modeNotFound _ _ => .choices
  | propertyUnreadable _ _ | propertiesRead _ _ => .properties
  | deviceChosen _ | deviceNotModesetting _ | devicesUnreadable _ | devicePrimaryMissing _
  | deviceNotOpened _ _ | deviceWithoutResources _ _ => .devices
  | layoutFellBack _ | modifierUsed _ | modifierRefused _ | framebufferCreated _ _
  | framebufferRemoving _ | framebufferNotRemoved _ => .buffers
  | propertySkipped _ | committing _ _ _ | modeBlobNotDestroyed _ => .commits
  | slotExported _ => .renderer
  | configMissing => .commandLine
  | configLoaded _ => .configuration
  | started | inputUnreadable _ | finished _ => .program

/-- The chosen display path on one line. -/
def outputLine (topology : Topology) : String :=
  topology.connectorName ++ ": mode " ++ toString topology.mode.width ++ "x"
    ++ toString topology.mode.height ++ "@" ++ toString topology.mode.refresh ++ ", crtc "
    ++ topology.crtc.text ++ " (index " ++ toString topology.crtcIndex ++ "), plane "
    ++ topology.plane.text

/-- The message. Buffers are named by their identity, as `bufferName` writes it. -/
def text (bufferName : Nat → String) : Note → String
  | universalPlanesRefused cause => "error enabling universal planes: " ++ cause.detail
  | resourcesUnreadable cause => "error getting resources: " ++ cause.detail
  | connectorUnreadable connector cause =>
    "error getting connector " ++ connector.text ++ ": " ++ cause.detail
  | connectorChosen name => "using connector " ++ name
  | modeNotFound name refresh =>
    "requested mode " ++ name ++ " (refresh " ++ toString refresh
      ++ ") not found, using default mode"
  | modeFellBack connector => "fell back to the default mode of " ++ connector
  | crtcNotListed crtc => "current crtc " ++ crtc.text ++ " is not in the resource list"
  | encoderUnreadable encoder cause =>
    "error getting encoder " ++ encoder.text ++ ": " ++ cause.detail
  | planesUnreadable cause => "error getting plane handles: " ++ cause.detail
  | planeUnreadable plane cause => "error getting plane " ++ plane.text ++ ": " ++ cause.detail
  | planeTypeUnreadable error => "couldn't read plane type: " ++ error.message
  | outputChosen topology => outputLine topology
  | propertyUnreadable object cause =>
    "error getting property info on " ++ object.text ++ ": " ++ cause.detail
  | propertiesRead object count => object.text ++ ": " ++ toString count ++ " properties"
  | deviceChosen path => "using DRM device " ++ Text.quoted path
  | deviceNotModesetting path => Text.quoted path ++ " does not look like a modeset device"
  | devicesUnreadable cause => "error enumerating DRM devices: " ++ cause.detail
  | devicePrimaryMissing path => Text.quoted path ++ " has no primary node, skipping"
  | deviceNotOpened path cause => "error opening " ++ Text.quoted path ++ ": " ++ cause.detail
  | deviceWithoutResources path cause =>
    Text.quoted path ++ " has no modesetting resources: " ++ cause.detail
  | layoutFellBack cause =>
    "modifiers failed, falling back to implicit layout: " ++ cause.detail
  | modifierUsed modifier => "using modifier " ++ modifier.text
  | modifierRefused cause => "modifiers failed: " ++ cause.detail
  | framebufferCreated framebuffer buffer =>
    "created framebuffer " ++ framebuffer.text ++ " for buffer " ++ bufferName buffer
  | framebufferRemoving framebuffer => "removing framebuffer " ++ framebuffer.text
  | framebufferNotRemoved cause => "error removing framebuffer: " ++ cause.detail
  | propertySkipped skipped =>
    skipped.object.text ++ " has no " ++ skipped.name ++ " property, skipping"
  | committing frame count flags =>
    "frame " ++ toString frame ++ ": committing " ++ toString count ++ " properties, flags "
      ++ flags.text
  | modeBlobNotDestroyed cause => "error destroying mode blob: " ++ cause.detail
  | gpuWaitFailed failure =>
    "error queueing GPU wait for the previous flip: " ++ failure.detail
  | modesetDone connector => "modeset on " ++ connector ++ " done"
  | throughput report =>
    "Rendered " ++ toString report.frames ++ " frames in " ++ Text.twoPlaces report.seconds
      ++ " sec (" ++ Text.twoPlaces report.rate ++ " fps)"
  | interrupted => "user interrupted"
  | frameDropped frame error => "dropping frame " ++ toString frame ++ ": " ++ error.detail
  | slotExported slot => "exported ring slot " ++ toString slot ++ " as dmabuf"
  | configMissing => "no config file, using defaults"
  | configLoaded path => "loaded config from " ++ Text.quoted path
  | started => "press Enter to stop"
  | inputUnreadable cause => "error polling stdin: " ++ cause.detail
  | finished presented => "presented " ++ toString presented ++ " frames"

/-- The messages from a level on, each with its level. -/
def lines (least : Level) (bufferName : Nat → String) (notes : List Note) : List String :=
  (notes.filter fun n => least.rank ≤ n.level.rank).map fun n =>
    n.level.name ++ " " ++ n.text bufferName

def hexName (buffer : Nat) : String :=
  "0x" ++ Text.hex buffer

end Note

end Scanout
