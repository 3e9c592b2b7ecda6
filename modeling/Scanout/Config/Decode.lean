import Scanout.Config
import Scanout.Kdl.Document
import Scanout.Text.Quoted

namespace Scanout

/-- Why a text is no configuration: it is no document, or its nodes are not the right ones. -/
inductive ConfigError
  | notADocument
  | invalid (messages : List String)
deriving DecidableEq, Repr

namespace Config

open Kdl (Node Value Literal)

/-- A part of the configuration as far as it could be read, with what is wrong about it. -/
structure Reading (α : Type) where
  value : α
  messages : List String
deriving Repr

/-- What is said about a type in front of a value, given the type that is allowed. -/
def typeMessages (allowed : Option String) (what : String) (value : Value) : List String :=
  match value.type with
  | none => []
  | some t =>
    if allowed = some t then [] else [what ++ ", found " ++ t]

def wrongKind (literal : Literal) : String :=
  "expected string scalar, found " ++ literal.kind

def readText (value : Value) : Reading String :=
  let about := typeMessages none "no type for String" value
  match value.literal with
  | .string s => ⟨s, about⟩
  | other => ⟨"", about ++ [wrongKind other]⟩

def readNumber (bits : Nat) (value : Value) : Reading Nat :=
  let type := "u" ++ toString bits
  let about := typeMessages (some type) (type ++ " or no type for " ++ type) value
  match value.literal with
  | .integer radix digits =>
    match Number.read radix (Nat.pow 2 bits) digits with
    | .ok n => ⟨n, about⟩
    | .error e => ⟨0, about ++ [e.message]⟩
  | other => ⟨0, about ++ [wrongKind other]⟩

def noTypeExpected : String := "no type name expected for this node"

def readModifier (value : Value) : Reading ModifierSpec :=
  let about := if value.type.isSome then [noTypeExpected] else []
  match value.literal with
  | .string s =>
    match ModifierSpec.parse? s with
    | some m => ⟨m, about⟩
    | none => ⟨.linear, about ++ [ModifierSpec.complaint s]⟩
  | _ => ⟨.linear, about ++ ["modifier must be a string"]⟩

/-- A number that may be null, which stands for none. -/
def readOptionalNumber (bits : Nat) (value : Value) : Reading (Option Nat) :=
  match value.literal with
  | .null => ⟨none, (readNumber bits { value with literal := .integer 10 ['0'] }).messages⟩
  | _ =>
    let r := readNumber bits value
    ⟨some r.value, r.messages⟩

def unexpectedNode (name : String) : String :=
  "unexpected node `" ++ Text.asciiOnly name ++ "`"

def unexpectedProperty (name : String) : String :=
  "unexpected property `" ++ Text.asciiOnly name ++ "`"

def duplicateNode (name : String) : String :=
  "duplicate node `" ++ Text.asciiOnly name ++ "`, single node expected"

/-- The outcome of reading a node: a value if all goes on, and what is wrong either way. -/
structure NodeReading (α : Type) where
  value : Option α
  messages : List String
deriving Repr

/-- Reads a property list, where `known` reads the properties there are. One that is not there ends
the reading. -/
def readProperties {α : Type} (known : String → Value → α → Option (Reading α)) (start : α) :
    List (String × Value) → NodeReading α
  | [] => ⟨some start, []⟩
  | (name, value) :: rest =>
    match known name value start with
    | none => ⟨none, [unexpectedProperty name]⟩
    | some r =>
      let more := readProperties known r.value rest
      ⟨more.value, r.messages ++ more.messages⟩

/-- Reads a node of one argument, called `argument` in messages, and properties. -/
def readNode {α : Type} (argument : String) (read : Value → Reading α)
    (known : String → Value → α → Option (Reading α)) (node : Node) : NodeReading α :=
  match node.arguments with
  | [] => ⟨none, ["additional argument `" ++ argument ++ "` is required"]⟩
  | value :: rest =>
    let r := read value
    if !rest.isEmpty then ⟨none, r.messages ++ ["unexpected argument"]⟩
    else
      let ps := readProperties known r.value node.properties
      match ps.value with
      | none => ⟨none, r.messages ++ ps.messages⟩
      | some result =>
        ⟨some result, r.messages ++ ps.messages
          ++ node.children.map fun child => unexpectedNode child.name⟩

/-- A node without properties. -/
def readSimple {α : Type} (read : Value → Reading α) (node : Node) : NodeReading α :=
  readNode node.name read (fun _ _ _ => none) node

def modeProperty (name : String) (value : Value) (mode : ModeRequest) :
    Option (Reading ModeRequest) :=
  if name = "refresh" then
    let r := readOptionalNumber 32 value
    some ⟨{ mode with refresh := r.value.map UInt32.ofNat }, r.messages⟩
  else none

def readMode (node : Node) : NodeReading ModeRequest :=
  let about := if node.type.isSome then [noTypeExpected] else []
  let argument := fun value =>
    let r := readText value
    (⟨⟨r.value, none⟩, r.messages⟩ : Reading ModeRequest)
  let r := readNode "name" argument modeProperty node
  ⟨r.value, about ++ r.messages⟩

def flagMessages (node : Node) : List String :=
  node.arguments.map (fun _ => "unexpected argument")
    ++ node.properties.map (fun (name, _) => unexpectedProperty name)
    ++ node.children.map fun child => unexpectedNode child.name

/-- Reads a node into a configuration. Gives nothing where the reading ends. -/
def readInto (config : Config) (node : Node) : NodeReading Config :=
  match node.name with
  | "device" =>
    let r := readSimple readText node
    ⟨r.value.map fun v => { config with device := some v }, r.messages⟩
  | "format" =>
    let r := readSimple readText node
    ⟨r.value.map fun v => { config with format := some v }, r.messages⟩
  | "modifier" =>
    let r := readSimple readModifier node
    ⟨r.value.map fun v => { config with modifier := some v }, r.messages⟩
  | "frames" =>
    let r := readSimple (readNumber 64) node
    ⟨r.value.map fun v => { config with frames := some (UInt64.ofNat v) }, r.messages⟩
  | "mode" =>
    let r := readMode node
    ⟨r.value.map fun v => { config with mode := some v }, r.messages⟩
  | "surfaced" =>
    ⟨some { config with surfaced := true },
      flagMessages node ++ if config.surfaced then [duplicateNode node.name] else []⟩
  | other => ⟨some config, [unexpectedNode other]⟩

/-- The nodes that may stand only once. -/
def singleNodes : List String := ["device", "mode", "format", "modifier", "frames"]

/-- Reads nodes in order into a configuration, until one ends the reading. A second node of a kind
that may stand only once does. -/
def readNodes (config : Config) (seen : List String) : List Node → Config × List String
  | [] => (config, [])
  | node :: rest =>
    if singleNodes.contains node.name && seen.contains node.name then
      (config, [duplicateNode node.name])
    else
      let r := readInto config node
      match r.value with
      | none => (config, r.messages)
      | some config =>
        let (config, messages) := readNodes config (node.name :: seen) rest
        (config, r.messages ++ messages)

def ofNodes (nodes : List Node) : Except ConfigError Config :=
  match readNodes .empty [] nodes with
  | (config, []) => .ok config
  | (_, messages) => .error (.invalid messages)

def parse (text : String) : Except ConfigError Config :=
  match Kdl.parse? text with
  | none => .error .notADocument
  | some nodes => ofNodes nodes

end Config

end Scanout
