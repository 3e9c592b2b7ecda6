import Scanout.Config.Decode
import Mathlib.Tactic.SplitIfs

namespace Scanout.Config

open Kdl (Node Value Literal)

/-- That a configuration file gives a text for the modifier, as the argument of the node for it in
the document that the file is. -/
def GivesModifier (document : String → Option (List Node)) (file text : String) : Prop :=
  ∃ nodes node value, document file = some nodes ∧ node ∈ nodes ∧ node.name = "modifier" ∧
    node.arguments = [value] ∧ value.literal = .string text

/-- That a node is one for a modifier and has it, in good order, as its only argument. -/
def NamesModifier (node : Node) (spec : ModifierSpec) : Prop :=
  node.name = "modifier" ∧ ∃ value, node.arguments = [value] ∧ readModifier value = ⟨spec, []⟩

section Node

variable {α : Type} {argument : String} {read : Value → Reading α}
  {known : String → Value → α → Option (Reading α)} {node : Node}

end Node

section Into

variable {config config' : Config} {node : Node}

end Into

section Nodes

variable {config config' : Config} {seen : List String} {node : Node} {nodes rest : List Node}

end Nodes

theorem NamesModifier.unique {node : Node} {spec other : ModifierSpec}
    (h : NamesModifier node spec) (ho : NamesModifier node other) : spec = other := by
  obtain ⟨-, value, written, read⟩ := h
  obtain ⟨-, again, rewritten, reread⟩ := ho
  cases written.symm.trans rewritten
  exact congrArg Reading.value (read.symm.trans reread)

namespace ReadsModifier

variable {document : String → Option (List Node)} {decode : String → Except ConfigError Config}
  {file text : String} {config : Config}

end ReadsModifier

end Scanout.Config
