namespace Scanout.Kdl

/-- A value as it is written. Integers keep their digits, with a sign if they have one. -/
inductive Literal
  | null
  | boolean (value : Bool)
  | integer (radix : Nat) (digits : List Char)
  | decimal
  | string (value : String)
deriving DecidableEq, Repr

def Literal.kind : Literal → String
  | null => "null"
  | boolean _ => "boolean"
  | integer _ _ => "integer"
  | decimal => "decimal"
  | string _ => "string"

/-- A value with the type that may be put before it. -/
structure Value where
  type : Option String
  literal : Literal
deriving DecidableEq, Repr

/-- A node: arguments in order, properties ascending by name and each once, and child nodes. -/
inductive Node
  | mk (type : Option String) (name : String) (arguments : List Value)
      (properties : List (String × Value)) (children : List Node)
deriving Repr

namespace Node

def type : Node → Option String
  | mk type _ _ _ _ => type

def name : Node → String
  | mk _ name _ _ _ => name

def arguments : Node → List Value
  | mk _ _ arguments _ _ => arguments

def properties : Node → List (String × Value)
  | mk _ _ _ properties _ => properties

def children : Node → List Node
  | mk _ _ _ _ children => children

end Node

/-- Puts a property into an ascending list. A later value replaces an earlier one. -/
def insertProperty (name : String) (value : Value) :
    List (String × Value) → List (String × Value)
  | [] => [(name, value)]
  | (other, old) :: rest =>
    if name = other then (name, value) :: rest
    else if name < other then (name, value) :: (other, old) :: rest
    else (other, old) :: insertProperty name value rest

end Scanout.Kdl
