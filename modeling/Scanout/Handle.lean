namespace Scanout

/-- What a device numbers. -/
inductive HandleKind
  | connector
  | encoder
  | crtc
  | plane
  | framebuffer
  | property
deriving DecidableEq, Repr

def HandleKind.name : HandleKind → String
  | connector => "connector"
  | encoder => "encoder"
  | crtc => "crtc"
  | plane => "plane"
  | framebuffer => "framebuffer"
  | property => "property"

/-- The number of one object of a kind. Handles of different kinds never mix. -/
structure Handle (kind : HandleKind) where
  id : UInt32
deriving DecidableEq, Repr

abbrev ConnectorId := Handle .connector
abbrev EncoderId := Handle .encoder
abbrev CrtcId := Handle .crtc
abbrev PlaneId := Handle .plane
abbrev FramebufferId := Handle .framebuffer
abbrev PropertyId := Handle .property

/-- How a handle is written in log messages. -/
def Handle.text {kind : HandleKind} (handle : Handle kind) : String :=
  kind.name ++ "::Handle(" ++ toString handle.id ++ ")"

/-- An object that carries atomic properties. -/
inductive DisplayObject
  | connector (handle : ConnectorId)
  | crtc (handle : CrtcId)
  | plane (handle : PlaneId)
deriving DecidableEq, Repr

namespace DisplayObject

def id : DisplayObject → UInt32
  | connector handle => handle.id
  | crtc handle => handle.id
  | plane handle => handle.id

def kind : DisplayObject → HandleKind
  | connector _ => .connector
  | crtc _ => .crtc
  | plane _ => .plane

/-- How an object is written in messages: its kind and its number. -/
def text (object : DisplayObject) : String :=
  object.kind.name ++ " " ++ toString object.id

/-- How an object is written inside an error that is logged whole. -/
def detail : DisplayObject → String
  | connector handle => "Connector(" ++ handle.text ++ ")"
  | crtc handle => "Crtc(" ++ handle.text ++ ")"
  | plane handle => "Plane(" ++ handle.text ++ ")"

end DisplayObject

end Scanout
