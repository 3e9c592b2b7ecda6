namespace Scanout

/-- Why something outside the display path failed: messages, outermost first. -/
structure Failure where
  message : String
  causes : List String
deriving DecidableEq, Repr

namespace Failure

def of (message : String) : Failure :=
  ⟨message, []⟩

def within (message : String) (failure : Failure) : Failure :=
  ⟨message, failure.message :: failure.causes⟩

def line (failure : Failure) : String :=
  ": ".intercalate (failure.message :: failure.causes)

/-- The lines of a cause, the first after `mark`, the others under it. -/
def indented (mark : String) (cause : String) : String :=
  let rest := "\n" ++ String.ofList (List.replicate mark.length ' ')
  mark ++ rest.intercalate (cause.splitOn "\n")

/-- The causes, numbered unless there is only one. -/
def causeLines : List String → List String
  | [cause] => [indented "    " cause]
  | causes => causes.mapIdx fun i cause =>
      let number := toString i
      indented (String.ofList (List.replicate (5 - number.length) ' ') ++ number ++ ": ") cause

def detail (failure : Failure) : String :=
  match failure.causes with
  | [] => failure.message
  | causes => failure.message ++ "\n\nCaused by:\n" ++ "\n".intercalate (causeLines causes)

end Failure

end Scanout
