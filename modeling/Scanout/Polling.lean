import Scanout.Collaborators

namespace Scanout

/-- For how long a poll may block. -/
structure TimeLimit where
  seconds : Nat
  nanoseconds : Nat
deriving DecidableEq, Repr

def TimeLimit.ofNanoseconds (time : Nat) : TimeLimit :=
  ⟨time / second, time % second⟩

/-- The call that polls the descriptor of a fence for readability. Without a limit it may block for
ever. -/
structure Poller (σ : Type) where
  poll : Fence → (limit : Option TimeLimit) → Act σ PollOutcome

namespace Poller

variable {σ : Type}

/-- Polls a fence, blocking for at most so many nanoseconds if a time is given. -/
def readable (poller : Poller σ) (fence : Fence) (time : Option Nat) :
    Act σ (Except CallError Bool) := do
  return (← poller.poll fence (time.map .ofNanoseconds)).readable

/-- Whether a fence has signalled, without blocking. -/
def isSignalled (poller : Poller σ) (fence : Fence) : Act σ (Except CallError Bool) :=
  poller.readable fence (some 0)

/-- Waits until a fence has signalled, without a time limit: the first poll that does not ask for
another one decides. Gives nothing if none of `patience` polls did. -/
def wait (poller : Poller σ) (fence : Fence) : (patience : Nat) →
    Act σ (Option (Except CallError Unit))
  | 0 => return none
  | patience + 1 => do
    match ← poller.readable fence none with
    | .error cause => return some (.error cause)
    | .ok true => return some (.ok ())
    | .ok false => wait poller fence patience

/-- Waits for fences by polling them, where every wait is known to end within so many polls. -/
def waiter (poller : Poller σ) (limit : Fence → σ → Nat)
    (ends : ∀ fence world, (poller.wait fence (limit fence world) world).1.isSome) : Waiter σ where
  wait fence := fun world =>
    ((poller.wait fence (limit fence world) world).1.get (ends fence world),
      (poller.wait fence (limit fence world) world).2)

end Poller

end Scanout
