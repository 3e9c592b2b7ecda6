import Scanout.Kdl.Lexeme

namespace Scanout.Kdl

inductive Entry
  | argument (value : Value)
  | property (name : String) (value : Value)
deriving DecidableEq, Repr

def propertyValue (name : String) : Reader Entry
  | '=' :: rest => (value rest).map fun (v, rest) => (.property name v, rest)
  | _ => none

/-- An argument or a property. Only texts and bare names name properties. -/
def item : Reader Entry := fun cs =>
  match text cs with
  | some (s, '=' :: rest) => propertyValue s ('=' :: rest)
  | some (s, rest) => some (.argument ⟨none, .string s⟩, rest)
  | none =>
    match literal cs with
    | some (l, rest) => some (.argument ⟨none, l⟩, rest)
    | none =>
      match bareName cs with
      | some (name, rest) => propertyValue name rest
      | none =>
        match type? cs with
        | some _ => (value cs).map fun (v, rest) => (.argument v, rest)
        | none => none

/-- An entry with the space before it. Nothing is found when it is taken out. -/
def entry : Reader (Option Entry) := fun cs =>
  match nodeSpace? cs with
  | none => none
  | some rest =>
    let rest := skipNodeSpace rest
    match slashdash? rest with
    | some rest => (item rest).map fun (_, rest) => (none, rest)
    | none => (item rest).map fun (e, rest) => (some e, rest)

/-- The entries of a node, at most `fuel`. -/
def entries : Nat → List Char → List Entry × List Char
  | 0, cs => ([], cs)
  | fuel + 1, cs =>
    match entry cs with
    | none => ([], cs)
    | some (found, rest) =>
      let (more, rest) := entries fuel rest
      (found.toList ++ more, rest)

/-- Skips what ends a node. -/
def terminator? (cs : List Char) : Option (List Char) :=
  match cs with
  | [] => some []
  | ';' :: rest => some rest
  | _ => (newline? cs).or (lineComment? cs)

def Entry.argument? : Entry → Option Value
  | argument v => some v
  | property _ _ => none

def propertiesOf (es : List Entry) : List (String × Value) :=
  es.foldl (fun ps e =>
    match e with
    | .property name v => insertProperty name v ps
    | .argument _ => ps) []

/-- The start of a block of children, and whether the block is taken out. -/
def blockStart? (cs : List Char) : Option (Bool × List Char) :=
  let rest := skipNodeSpace cs
  match slashdash? rest with
  | some ('{' :: rest) => some (true, rest)
  | some _ => none
  | none =>
    match rest with
    | '{' :: rest => some (false, rest)
    | _ => none

/-- Nodes up to the end of the text or of a block, the nesting and their number limited by `fuel`.
Each node takes a character at least. -/
def nodes : Nat → Reader (List Node)
  | 0, _ => none
  | fuel + 1, cs =>
    let cs := skipLineSpace cs
    match cs with
    | [] => some ([], [])
    | '}' :: _ => some ([], cs)
    | _ => do
      let hidden := (slashdash? cs).isSome
      let cs := (slashdash? cs).getD cs
      let type := type? cs
      let cs := (type.map (·.2)).getD cs
      let (name, cs) ← name cs
      let (es, cs) := entries cs.length cs
      let (children, cs) ← match blockStart? cs with
        | none => some ([], cs)
        | some (dropped, cs) =>
          match nodes fuel cs with
          | some (inner, '}' :: cs) => some (if dropped then [] else inner, cs)
          | _ => none
      let cs ← terminator? (skipNodeSpace cs)
      let (more, cs) ← nodes fuel cs
      let node := Node.mk (type.map (·.1)) name (es.filterMap Entry.argument?) (propertiesOf es)
        children
      return (if hidden then more else node :: more, cs)

def ofChars? (cs : List Char) : Option (List Node) :=
  match nodes (cs.length + 1) cs with
  | some (ns, []) => some ns
  | _ => none

def parse? (text : String) : Option (List Node) :=
  ofChars? text.toList

end Scanout.Kdl
