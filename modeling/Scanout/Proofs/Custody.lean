import Mathlib.Data.List.Perm.Basic
import Scanout.Proofs.Stages

namespace Scanout

theorem filterMap_cons_toList {α β : Type} (f : α → Option β) (a : α) (as : List α) :
    (a :: as).filterMap f = (f a).toList ++ as.filterMap f := by
  cases h : f a <;> simp [h]

/-- A kind of thing that is handed out and given back: the exchanges that hand one out, and those
that give one back. -/
structure Custody (α : Type) where
  taken? : Exchange → Option α
  given? : Exchange → Option α

/-- The renderer hands out a fence with a frame, the device with an accepted commit. -/
def fences : Custody Fence where
  taken?
    | .rendered _ _ (.ok fence) => some fence
    | .submitted _ (.ok outFence) => outFence
    | _ => none
  given?
    | .closed fence => some fence
    | _ => none

def lockedBuffers : Custody Buffer where
  taken?
    | .locked _ (.ok buffer) => some buffer
    | _ => none
  given?
    | .released buffer => some buffer
    | _ => none

def framebuffers : Custody FramebufferId where
  taken?
    | .framebufferAdded _ _ (.ok framebuffer) => some framebuffer
    | _ => none
  given?
    | .framebufferRemoved framebuffer _ => some framebuffer
    | _ => none

namespace Custody

section Counting

variable {α : Type} (c : Custody α)

def takenIn (events : List Exchange) : List α :=
  events.filterMap c.taken?

def givenIn (events : List Exchange) : List α :=
  events.filterMap c.given?

def Idle (e : Exchange) : Prop :=
  c.taken? e = none ∧ c.given? e = none

@[simp] theorem takenIn_cons (e : Exchange) (later : List Exchange) :
    c.takenIn (e :: later) = (c.taken? e).toList ++ c.takenIn later :=
  filterMap_cons_toList c.taken? e later

@[simp] theorem givenIn_cons (e : Exchange) (later : List Exchange) :
    c.givenIn (e :: later) = (c.given? e).toList ++ c.givenIn later :=
  filterMap_cons_toList c.given? e later

@[simp] theorem takenIn_append (events later : List Exchange) :
    c.takenIn (events ++ later) = c.takenIn events ++ c.takenIn later :=
  List.filterMap_append

@[simp] theorem givenIn_append (events later : List Exchange) :
    c.givenIn (events ++ later) = c.givenIn events ++ c.givenIn later :=
  List.filterMap_append

end Counting

/-- A call or poll hands nothing out, and gives nothing back. -/
theorem idle_of_mark {e : Exchange} (hm : e.isMark = true) :
    fences.Idle e ∧ lockedBuffers.Idle e ∧ framebuffers.Idle e := by
  cases e <;> simp_all [Exchange.isMark, Idle, fences, lockedBuffers, framebuffers]

theorem idle_of_setUp {events : List Exchange} (h : ∀ e ∈ events, e.isSetUp = true) :
    ∀ e ∈ events, fences.Idle e ∧ lockedBuffers.Idle e ∧ framebuffers.Idle e := by
  intro e he
  have quiet := h e he
  cases e <;> simp_all [Exchange.isSetUp, Idle, fences, lockedBuffers, framebuffers]

section Holding

variable {α : Type} (c : Custody α) [DecidableEq α]

/-- What is held after an exchange. What is not held cannot be given back. -/
def hold (held : List α) (e : Exchange) : Option (List α) :=
  match c.given? e with
  | none => some ((c.taken? e).toList ++ held)
  | some a => if a ∈ held then some ((c.taken? e).toList ++ held.erase a) else none

/-- What is held after a stretch of a transcript, if only what was held was given back. -/
def held (start : List α) (events : List Exchange) : Option (List α) :=
  events.foldlM c.hold start

open scoped List

variable {c} {start mid last : List α} {events later : List Exchange}

omit [DecidableEq α] in
theorem takenIn_idle (quiet : ∀ e ∈ events, c.Idle e) : c.takenIn events = [] :=
  List.filterMap_eq_nil_iff.mpr fun e he => (quiet e he).1

omit [DecidableEq α] in
theorem givenIn_idle (quiet : ∀ e ∈ events, c.Idle e) : c.givenIn events = [] :=
  List.filterMap_eq_nil_iff.mpr fun e he => (quiet e he).2

@[simp] theorem held_nil : c.held start [] = some start := rfl

@[simp] theorem held_cons (e : Exchange) :
    c.held start (e :: later) = (c.hold start e).bind fun kept => c.held kept later := rfl

theorem held_append :
    c.held start (events ++ later) = (c.held start events).bind fun kept => c.held kept later :=
  List.foldlM_append

theorem held_trans (h : c.held start events = some mid) (hl : c.held mid later = some last) :
    c.held start (events ++ later) = some last := by
  rw [held_append, h]
  exact hl

theorem held_split (h : c.held start (events ++ later) = some last) :
    ∃ mid, c.held start events = some mid ∧ c.held mid later = some last :=
  Option.bind_eq_some_iff.mp (held_append.symm.trans h)

theorem held_skip {e : Exchange} (quiet : c.Idle e) (hl : c.held start later = some last) :
    c.held start (e :: later) = some last := by
  obtain ⟨untaken, kept⟩ := quiet
  simpa [hold, untaken, kept] using hl

theorem held_idle (quiet : ∀ e ∈ events, c.Idle e) : c.held start events = some start := by
  induction events with
  | nil => rfl
  | cons e rest ih =>
    have later := ih fun x hx => quiet x (List.mem_cons_of_mem e hx)
    exact held_skip (quiet e List.mem_cons_self) later

theorem held_skipAll (quiet : ∀ e ∈ events, c.Idle e) (hl : c.held start later = some last) :
    c.held start (events ++ later) = some last :=
  held_trans (held_idle quiet) hl

theorem held_take {e : Exchange} {a : α} (taken : c.taken? e = some a) (kept : c.given? e = none)
    (hl : c.held (a :: start) later = some last) : c.held start (e :: later) = some last := by
  simpa [hold, taken, kept] using hl

theorem held_give {e : Exchange} {a : α} (untaken : c.taken? e = none) (given : c.given? e = some a)
    (hl : c.held start later = some last) : c.held (a :: start) (e :: later) = some last := by
  simpa [hold, untaken, given] using hl

/-- The second of two is given back. It need not be told from the first. -/
theorem held_giveSecond {e : Exchange} {a b : α} (untaken : c.taken? e = none)
    (given : c.given? e = some b) (hl : c.held [a] later = some last) :
    c.held [a, b] (e :: later) = some last := by
  have left : [a, b].erase b = [a] := by
    by_cases same : a = b <;> simp [same]
  simpa [hold, untaken, given, left] using hl

theorem hold_beside {e : Exchange} (kept : List α) (h : c.hold start e = some mid) :
    c.hold (start ++ kept) e = some (mid ++ kept) := by
  unfold hold at h ⊢
  split at h
  next => simp [← Option.some.inj h]
  next a _ =>
    split at h
    next member => simp [← Option.some.inj h, member, List.erase_append_left kept member]
    next => simp at h

/-- What is held besides does not matter. -/
theorem held_beside (kept : List α) (h : c.held start events = some last) :
    c.held (start ++ kept) events = some (last ++ kept) := by
  induction events generalizing start with
  | nil => simp [← Option.some.inj h]
  | cons e rest ih =>
    obtain ⟨mid, now, after⟩ := Option.bind_eq_some_iff.mp h
    rw [held_cons, hold_beside kept now]
    exact ih after

theorem hold_perm {e : Exchange} {other : List α} (same : start.Perm other)
    (h : c.hold start e = some mid) : ∃ kept, c.hold other e = some kept ∧ mid.Perm kept := by
  unfold hold at h ⊢
  split at h
  next =>
    obtain rfl := Option.some.inj h
    exact ⟨_, rfl, same.append_left _⟩
  next a _ =>
    split at h
    next member =>
      obtain rfl := Option.some.inj h
      have there : a ∈ other := same.mem_iff.mp member
      exact ⟨_, by simp [there], (same.erase a).append_left _⟩
    next => simp at h

/-- The order of what is held does not matter. -/
theorem held_perm {other : List α} (same : start.Perm other)
    (h : c.held start events = some last) :
    ∃ kept, c.held other events = some kept ∧ last.Perm kept := by
  induction events generalizing start other with
  | nil => exact ⟨other, rfl, Option.some.inj h ▸ same⟩
  | cons e rest ih =>
    obtain ⟨mid, now, after⟩ := Option.bind_eq_some_iff.mp h
    obtain ⟨kept, nowToo, similar⟩ := hold_perm same now
    obtain ⟨end', after, perm⟩ := ih similar after
    exact ⟨end', by rw [held_cons, nowToo]; exact after, perm⟩

theorem held_ungiven (none : c.givenIn events = []) : ∃ last, c.held start events = some last := by
  induction events generalizing start with
  | nil => exact ⟨start, rfl⟩
  | cons e rest ih =>
    rw [givenIn_cons] at none
    obtain ⟨first, others⟩ := List.append_eq_nil_iff.mp none
    have kept : c.given? e = .none := by simpa using first
    obtain ⟨last, hl⟩ : ∃ last, c.held ((c.taken? e).toList ++ start) rest = some last := ih others
    exact ⟨last, by simpa [hold, kept] using hl⟩

theorem hold_balance {e : Exchange} (h : c.hold start e = some mid) :
    (start ++ (c.taken? e).toList).Perm ((c.given? e).toList ++ mid) := by
  unfold hold at h
  split at h
  next kept =>
    obtain rfl := Option.some.inj h
    rw [kept]
    exact List.perm_append_comm
  next a given =>
    split at h
    next member =>
      obtain rfl := Option.some.inj h
      rw [given]
      calc
        start ++ (c.taken? e).toList ~ (c.taken? e).toList ++ start := List.perm_append_comm
        _ ~ (c.taken? e).toList ++ a :: start.erase a := (List.perm_cons_erase member).append_left _
        _ ~ a :: ((c.taken? e).toList ++ start.erase a) := List.perm_middle
    next => simp at h

/-- What was held and what is taken is what is given back and what is held then. -/
theorem held_balance (h : c.held start events = some last) :
    (start ++ c.takenIn events).Perm (c.givenIn events ++ last) := by
  induction events generalizing start with
  | nil =>
    obtain rfl := Option.some.inj h
    simp [takenIn, givenIn]
  | cons e rest ih =>
    obtain ⟨mid, now, after⟩ := Option.bind_eq_some_iff.mp h
    have first := (hold_balance now).append_right (c.takenIn rest)
    have others := (ih after).append_left (c.given? e).toList
    simpa using first.trans (by simpa using others)

/-- Where nothing is taken, what is held in the end was held in the beginning. -/
theorem held_untaken (none : c.takenIn events = []) (h : c.held start events = some last) :
    ∀ a ∈ last, a ∈ start := by
  intro a ha
  have balance := held_balance h
  rw [none, List.append_nil] at balance
  exact balance.mem_iff.mpr (List.mem_append_right _ ha)

end Holding

end Custody

end Scanout
