import Scanout.CallError

namespace Scanout

/-- A fence: the number of an open descriptor that becomes readable when the work is done. -/
structure Fence where
  descriptor : Nat
deriving DecidableEq, Repr

/-- What one poll of a descriptor answers: a failure, or how many descriptors are ready together
with the events on this one. -/
inductive PollOutcome
  | failed (cause : CallError)
  | ready (count : Nat) (errorEvent invalidEvent : Bool)
deriving DecidableEq, Repr

namespace PollOutcome

/-- Whether a poll may simply be repeated: it was interrupted, or would have blocked. -/
def isInterrupted : CallError → Bool
  | .errno code => code == 4 || code == 11
  | .custom _ _ => false

/-- What a poll says about the fence. An interrupted poll says that it is not ready yet; an error
event counts more than readiness. -/
def readable : PollOutcome → Except CallError Bool
  | failed cause => if isInterrupted cause then .ok false else .error cause
  | ready count errorEvent invalidEvent =>
    if errorEvent || invalidEvent then .error .invalidArgument else .ok (0 < count)

end PollOutcome

end Scanout
