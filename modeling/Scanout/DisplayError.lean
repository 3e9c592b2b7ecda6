import Scanout.CallError
import Scanout.Failure
import Scanout.Fourcc
import Scanout.Handle
import Scanout.Modifier

namespace Scanout

inductive DisplayError
  | deviceNotModesettable (path : String) (cause : CallError)
  | noDeviceFound
  | atomicUnsupported (cause : CallError)
  | noConnectedDisplay
  | noModeAvailable (connector : ConnectorId)
  | noCrtcAvailable (connector : ConnectorId)
  | noSuitablePlane (crtc : CrtcId) (index : Nat)
  | propertyQueryFailed (object : DisplayObject) (cause : CallError)
  | missingProperty (object : DisplayObject) (name : String)
  | modifierUnsupported (format : Fourcc) (modifier : Modifier) (cause : CallError)
  | bufferAllocationFailed (width height : UInt32) (format : Fourcc) (cause : CallError)
  | frontBufferUnavailable (cause : CallError)
  | framebufferCreateFailed (cause : CallError)
  | modeBlobFailed (cause : CallError)
  | commitRejected (cause : CallError)
  | fenceUnsupported (reason : String)
  | fenceWait (cause : CallError)
  | renderFailed (failure : Failure)
deriving DecidableEq, Repr

namespace DisplayError

def name : DisplayError → String
  | deviceNotModesettable _ _ => "DeviceNotModesettable"
  | noDeviceFound => "NoDeviceFound"
  | atomicUnsupported _ => "AtomicUnsupported"
  | noConnectedDisplay => "NoConnectedDisplay"
  | noModeAvailable _ => "NoModeAvailable"
  | noCrtcAvailable _ => "NoCrtcAvailable"
  | noSuitablePlane _ _ => "NoSuitablePlane"
  | propertyQueryFailed _ _ => "PropertyQueryFailed"
  | missingProperty _ _ => "MissingProperty"
  | modifierUnsupported _ _ _ => "ModifierUnsupported"
  | bufferAllocationFailed _ _ _ _ => "BufferAllocationFailed"
  | frontBufferUnavailable _ => "FrontBufferUnavailable"
  | framebufferCreateFailed _ => "FramebufferCreateFailed"
  | modeBlobFailed _ => "ModeBlobFailed"
  | commitRejected _ => "CommitRejected"
  | fenceUnsupported _ => "FenceUnsupported"
  | fenceWait _ => "FenceWait"
  | renderFailed _ => "RenderFailed"

def message : DisplayError → String
  | deviceNotModesettable path _ =>
    Text.quoted path ++ " does not look like a modesetting device"
  | noDeviceFound => "no modesetting-capable DRM device found"
  | atomicUnsupported _ => "no atomic modesetting support"
  | noConnectedDisplay => "no connected display"
  | noModeAvailable connector => "connector " ++ toString connector.id ++ " reports no modes"
  | noCrtcAvailable connector => "no CRTC reachable from connector " ++ toString connector.id
  | noSuitablePlane crtc index =>
    "no plane can be bound to crtc " ++ toString crtc.id ++ " (index " ++ toString index ++ ")"
  | propertyQueryFailed object _ => "error getting properties of " ++ object.text
  | missingProperty object name => object.text ++ " has no " ++ name ++ " property"
  | modifierUnsupported format modifier _ =>
    "modifier " ++ modifier.text ++ " is not supported for " ++ format.text
  | bufferAllocationFailed width height format _ =>
    "error allocating " ++ toString width ++ "x" ++ toString height ++ " " ++ format.text
      ++ " buffer"
  | frontBufferUnavailable _ => "no free front buffer"
  | framebufferCreateFailed _ => "error creating framebuffer"
  | modeBlobFailed _ => "error creating mode blob"
  | commitRejected cause =>
    "atomic commit rejected (errno " ++ toString (cause.code?.getD 0) ++ ")"
  | fenceUnsupported reason => "native fences unsupported: " ++ reason
  | fenceWait _ => "error waiting for fence"
  | renderFailed failure => "error rendering frame: " ++ failure.line

def cause? : DisplayError → Option CallError
  | deviceNotModesettable _ cause => some cause
  | atomicUnsupported cause => some cause
  | propertyQueryFailed _ cause => some cause
  | modifierUnsupported _ _ cause => some cause
  | bufferAllocationFailed _ _ _ cause => some cause
  | frontBufferUnavailable cause => some cause
  | framebufferCreateFailed cause => some cause
  | modeBlobFailed cause => some cause
  | commitRejected cause => some cause
  | fenceWait cause => some cause
  | noDeviceFound | noConnectedDisplay | noModeAvailable _ | noCrtcAvailable _
  | noSuitablePlane _ _ | missingProperty _ _ | fenceUnsupported _ | renderFailed _ => none

/-- Whether an error costs one frame only. The present loop goes on after these. -/
def isPerFrame : DisplayError → Bool
  | frontBufferUnavailable _ | framebufferCreateFailed _ | modeBlobFailed _ | commitRejected _
  | renderFailed _ => true
  | _ => false

def fields : DisplayError → String
  | deviceNotModesettable path cause =>
    " \x7b path: " ++ Text.quoted path ++ ", source: " ++ cause.detail ++ " \x7d"
  | noDeviceFound | noConnectedDisplay => ""
  | noModeAvailable connector | noCrtcAvailable connector => "(" ++ connector.text ++ ")"
  | noSuitablePlane crtc index =>
    " \x7b crtc: " ++ crtc.text ++ ", index: " ++ toString index ++ " \x7d"
  | propertyQueryFailed object cause =>
    " \x7b object: " ++ object.detail ++ ", source: " ++ cause.detail ++ " \x7d"
  | missingProperty object name =>
    " \x7b object: " ++ object.detail ++ ", name: " ++ Text.quoted name ++ " \x7d"
  | modifierUnsupported format modifier cause =>
    " \x7b format: " ++ format.text ++ ", modifier: " ++ modifier.text ++ ", source: "
      ++ cause.detail ++ " \x7d"
  | bufferAllocationFailed width height format cause =>
    " \x7b width: " ++ toString width ++ ", height: " ++ toString height ++ ", format: "
      ++ format.text ++ ", source: " ++ cause.detail ++ " \x7d"
  | atomicUnsupported cause | frontBufferUnavailable cause | framebufferCreateFailed cause
  | modeBlobFailed cause | commitRejected cause | fenceWait cause => "(" ++ cause.detail ++ ")"
  | fenceUnsupported reason => "(" ++ Text.quoted reason ++ ")"
  | renderFailed failure => "(" ++ failure.detail ++ ")"

def detail (error : DisplayError) : String :=
  error.name ++ error.fields

end DisplayError

end Scanout
