import Scanout.Note
import Scanout.Number

namespace Scanout

/-- Shows the messages of the targets that begin with a text, from a level on or not at all. -/
structure LogRule where
  target : String
  level : Option Level
deriving DecidableEq, Repr

structure LogFilter where
  rules : List LogRule
deriving DecidableEq, Repr

def Level.ofWord? (word : String) : Option (Option Level) :=
  match word.toLower with
  | "off" => some none
  | "error" => some (some .error)
  | "warn" => some (some .warn)
  | "info" => some (some .info)
  | "debug" => some (some .debug)
  | "trace" => some (some .trace)
  | _ =>
    match Number.read 10 UInt64.size word.toList with
    | .ok n => [none, some .error, some .warn, some .info, some .debug, some .trace][n]?
    | .error _ => none

namespace LogRule

def levelComplaint : String :=
  "error parsing level filter: expected one of \"off\", \"error\", \"warn\", \"info\", \"debug\", "
    ++ "\"trace\", or a number 0-5"

def mayStart (c : Char) : Bool :=
  c.isAlphanum || c == '-' || c == ':' || c == '_' || 0x80 ≤ c.toNat

/-- Reads a rule: a target and its level, a level for every target, or a target that is shown in
full. -/
def parse (text : String) : Except String LogRule :=
  let chars := text.toList
  if !chars.head?.any mayStart then .error "invalid filter directive"
  else
    let target := chars.takeWhile (· != '=')
    match chars.drop target.length with
    | [] =>
      match Level.ofWord? text with
      | some level => .ok ⟨"", level⟩
      | none => .ok ⟨text, some .trace⟩
    | [_] => .ok ⟨String.ofList target, some .trace⟩
    | _ :: word =>
      match Level.ofWord? (String.ofList word) with
      | some level => .ok ⟨String.ofList target, level⟩
      | none => .error levelComplaint

/-- Whether a rule is about a target. -/
def covers (rule : LogRule) (target : String) : Bool :=
  rule.target.toList.isPrefixOf target.toList

end LogRule

namespace LogFilter

def standard : String :=
  "kmsflip=debug,kmsflip_config=debug"

def parts (text : String) : List String :=
  (text.splitOn ",").filter (!·.isEmpty)

/-- Reads rules separated by commas. Without a rule, errors are shown. -/
def parse (text : String) : LogFilter :=
  match (parts text).filterMap fun part => (LogRule.parse part).toOption with
  | [] => ⟨[⟨"", some .error⟩]⟩
  | rules => ⟨rules⟩

/-- What is said about the parts of a list that are no rules. -/
def complaints (text : String) : String :=
  String.join ((parts text).map fun part =>
    match LogRule.parse part with
    | .ok _ => ""
    | .error complaint => "ignoring `" ++ part ++ "`: " ++ complaint ++ "\n")

/-- The rule for a target: of those about it the longest, of equals the last. -/
def ruleFor (filter : LogFilter) (target : String) : Option LogRule :=
  (filter.rules.filter (·.covers target)).foldl
    (fun best rule =>
      match best with
      | some b => if b.target.length ≤ rule.target.length then some rule else some b
      | none => some rule)
    none

def admits (filter : LogFilter) (n : Note) : Bool :=
  match (filter.ruleFor n.component.target).bind (·.level) with
  | some level => level.rank ≤ n.level.rank
  | none => false

/-- The messages that are shown, each on a line with its level and target. -/
def render (filter : LogFilter) (bufferName : Nat → String) (notes : List Note) : String :=
  String.join ((notes.filter filter.admits).map fun n =>
    n.level.name ++ " " ++ n.component.target ++ ": " ++ n.text bufferName ++ "\n")

end LogFilter

end Scanout
