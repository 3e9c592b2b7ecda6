import Scanout.Note

namespace Scanout

/-- A computation that changes a world of type `σ`. -/
abbrev Act (σ α : Type) := StateM σ α

theorem bind_run {σ α β : Type} {act : Act σ α} {next : α → Act σ β} {s s' : σ} {a : α}
    (h : act s = (a, s')) : (act >>= next) s = next a s' := by
  change next (act s).1 (act s).2 = _
  rw [h]

theorem ok_of_toOption {ε α : Type} {x : Except ε α} {a : α} (h : x.toOption = some a) :
    x = .ok a := by
  cases x with
  | error e => cases h
  | ok b => exact congrArg Except.ok (Option.some.inj h)

/-- What the display path needs of every world: a log, a clock, and that descriptors close. -/
class World (σ : Type) where
  record : Note → σ → σ
  now : σ → Nat × σ
  close : Fence → σ → σ

variable {σ : Type} [World σ]

def note (n : Note) : Act σ Unit :=
  modify (World.record n)

def notes : List Note → Act σ Unit
  | [] => pure ()
  | n :: rest => do
    note n
    notes rest

/-- The time in nanoseconds. -/
def now : Act σ Nat :=
  fun s => World.now s

/-- Gives up a fence, which closes its descriptor. -/
def closeFence (fence : Fence) : Act σ Unit :=
  modify (World.close fence)

/-- Gives up a fence if there is one. -/
def closeFence? : Option Fence → Act σ Unit
  | some fence => closeFence fence
  | none => pure ()

end Scanout
