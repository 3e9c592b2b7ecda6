import Mathlib.Logic.ExistsUnique
import Scanout.Polling

namespace Scanout

namespace PollOutcome

/-- An outcome after which a wait polls again: interrupted, would block, or nothing is ready. -/
inductive Retried : PollOutcome → Prop
  | interrupted : Retried (.failed (.errno 4))
  | wouldBlock : Retried (.failed (.errno 11))
  | idle : Retried (.ready 0 false false)

/-- What a wait ends with after an outcome. Error events count also where something is ready. -/
inductive Decides : PollOutcome → Except CallError Unit → Prop
  | failed {cause : CallError} : cause ≠ .errno 4 → cause ≠ .errno 11 →
      Decides (.failed cause) (.error cause)
  | errorEvent {count : Nat} {invalid : Bool} :
      Decides (.ready count true invalid) (.error .invalidArgument)
  | invalidEvent {count : Nat} {error : Bool} :
      Decides (.ready count error true) (.error .invalidArgument)
  | signalled {count : Nat} : 0 < count → Decides (.ready count false false) (.ok ())

variable {outcome : PollOutcome} {result : Except CallError Unit}

theorem isInterrupted_iff {cause : CallError} :
    isInterrupted cause ↔ cause = .errno 4 ∨ cause = .errno 11 := by
  cases cause with
  | errno code => simp [isInterrupted]
  | custom kind text => simp [isInterrupted]

theorem Retried.readable (h : outcome.Retried) : outcome.readable = .ok false := by
  cases h <;> rfl

theorem Decides.readable (h : outcome.Decides result) :
    outcome.readable = result.map fun _ => true := by
  cases h with
  | @failed cause notInterrupted notBlocked =>
    have final : ¬isInterrupted cause := by
      rw [isInterrupted_iff]
      exact not_or.mpr ⟨notInterrupted, notBlocked⟩
    simp [PollOutcome.readable, final, Except.map]
  | errorEvent => rfl
  | @invalidEvent count error => cases error <;> rfl
  | signalled positive => simp [PollOutcome.readable, positive, Except.map]

/-- Every outcome is of one of the two kinds. -/
theorem retried_or_decides (outcome : PollOutcome) :
    outcome.Retried ∨ ∃ result, outcome.Decides result := by
  cases outcome with
  | failed cause =>
    by_cases again : isInterrupted cause
    · left
      rcases isInterrupted_iff.mp again with rfl | rfl
      · exact .interrupted
      · exact .wouldBlock
    · have other := not_or.mp (mt isInterrupted_iff.mpr again)
      exact .inr ⟨_, .failed other.1 other.2⟩
  | ready count errorEvent invalidEvent =>
    cases errorEvent with
    | true => exact .inr ⟨_, .errorEvent⟩
    | false =>
      cases invalidEvent with
      | true => exact .inr ⟨_, .invalidEvent⟩
      | false =>
        cases count with
        | zero => exact .inl .idle
        | succ count => exact .inr ⟨_, .signalled (Nat.succ_pos count)⟩

theorem Decides.not_retried (h : outcome.Decides result) : ¬outcome.Retried := by
  intro again
  have same := h.readable.symm.trans again.readable
  cases result <;> cases same

theorem Decides.unique {other : Except CallError Unit} (h : outcome.Decides result)
    (ho : outcome.Decides other) : result = other := by
  have same := h.readable.symm.trans ho.readable
  cases result <;> cases other <;> cases same <;> rfl

theorem not_retried_iff : ¬outcome.Retried ↔ ∃! result, outcome.Decides result := by
  constructor
  · intro final
    obtain ⟨result, decided⟩ := outcome.retried_or_decides.resolve_left final
    exact ⟨result, decided, fun other also => also.unique decided⟩
  · rintro ⟨result, decided, -⟩
    exact decided.not_retried

end PollOutcome

namespace Poller

variable {σ : Type} {poller : Poller σ} {fence : Fence} {world after : σ} {k patience : Nat}
  {result : Except CallError Unit}

/-- The world after a fence was polled so many times without a limit. -/
def worldAfter (poller : Poller σ) (fence : Fence) (world : σ) : Nat → σ
  | 0 => world
  | polls + 1 => (poller.poll fence none (poller.worldAfter fence world polls)).2

/-- What the next poll of the fence without a limit then comes to. -/
def outcome (poller : Poller σ) (fence : Fence) (world : σ) (polls : Nat) : PollOutcome :=
  (poller.poll fence none (poller.worldAfter fence world polls)).1

/-- That the polls before poll `k` all ask for another one, and that poll `k` decides. -/
def FirstDecides (poller : Poller σ) (fence : Fence) (world : σ) (k : Nat)
    (result : Except CallError Unit) : Prop :=
  (∀ i < k, (poller.outcome fence world i).Retried) ∧
    (poller.outcome fence world k).Decides result

theorem wait_retried (again : (poller.poll fence none world).1.Retried) (patience : Nat) :
    poller.wait fence (patience + 1) world =
      poller.wait fence patience (poller.poll fence none world).2 := by
  have read : poller.readable fence none world =
      (.ok false, (poller.poll fence none world).2) := by
    rw [← again.readable]
    rfl
  exact bind_run read

theorem wait_decides (decided : (poller.poll fence none world).1.Decides result)
    (patience : Nat) :
    poller.wait fence (patience + 1) world =
      (some result, (poller.poll fence none world).2) := by
  have read : poller.readable fence none world =
      (result.map fun _ => true, (poller.poll fence none world).2) := by
    rw [← decided.readable]
    rfl
  refine (bind_run read).trans ?_
  cases result <;> rfl

/-- Polls that ask for another one leave nothing behind but the world after them. -/
theorem wait_past (again : ∀ i < k, (poller.outcome fence world i).Retried) (patience : Nat) :
    poller.wait fence (k + patience) world =
      poller.wait fence patience (poller.worldAfter fence world k) := by
  induction k generalizing patience with
  | zero => rw [Nat.zero_add, worldAfter]
  | succ k ih =>
    have earlier : ∀ i < k, (poller.outcome fence world i).Retried :=
      fun i before => again i (by omega)
    have last : (poller.outcome fence world k).Retried := again k (by omega)
    rw [show k + 1 + patience = k + (patience + 1) by omega, ih earlier, wait_retried last]
    rfl

theorem wait_unsettled (again : ∀ i < patience, (poller.outcome fence world i).Retried) :
    poller.wait fence patience world = (none, poller.worldAfter fence world patience) :=
  wait_past again 0

theorem FirstDecides.wait (h : poller.FirstDecides fence world k result) (enough : k < patience) :
    poller.wait fence patience world = (some result, poller.worldAfter fence world (k + 1)) := by
  obtain ⟨spare, rfl⟩ := Nat.exists_eq_add_of_lt enough
  rw [show k + spare + 1 = k + (spare + 1) by omega, wait_past h.1, wait_decides h.2]
  rfl

theorem retried_or_firstDecides (poller : Poller σ) (fence : Fence) (world : σ)
    (patience : Nat) :
    (∀ i < patience, (poller.outcome fence world i).Retried) ∨
      ∃ k < patience, ∃ result, poller.FirstDecides fence world k result := by
  induction patience with
  | zero => exact .inl (by omega)
  | succ patience ih =>
    rcases ih with again | ⟨k, before, decides⟩
    · rcases (poller.outcome fence world patience).retried_or_decides with last | ⟨result, last⟩
      · left
        intro i within
        by_cases newest : i = patience
        · exact newest ▸ last
        · exact again i (by omega)
      · exact .inr ⟨patience, by omega, result, again, last⟩
    · exact .inr ⟨k, by omega, decides⟩

theorem wait_eq_some_iff : poller.wait fence patience world = (some result, after) ↔
    ∃ k < patience, poller.FirstDecides fence world k result ∧
      after = poller.worldAfter fence world (k + 1) := by
  constructor
  · intro waited
    rcases retried_or_firstDecides poller fence world patience with again | ⟨k, enough, _, first⟩
    · rw [wait_unsettled again] at waited
      cases waited
    · rw [first.wait enough] at waited
      cases waited
      exact ⟨k, enough, first, rfl⟩
  · rintro ⟨k, enough, first, rfl⟩
    exact first.wait enough

theorem wait_eq_none_iff : poller.wait fence patience world = (none, after) ↔
    (∀ i < patience, (poller.outcome fence world i).Retried) ∧
      after = poller.worldAfter fence world patience := by
  constructor
  · intro waited
    rcases retried_or_firstDecides poller fence world patience with again | ⟨k, enough, _, first⟩
    · rw [wait_unsettled again] at waited
      cases waited
      exact ⟨again, rfl⟩
    · rw [first.wait enough] at waited
      cases waited
  · rintro ⟨again, rfl⟩
    exact wait_unsettled again

/-- Only one poll is the first that decides. -/
theorem FirstDecides.unique {j : Nat} {other : Except CallError Unit}
    (h : poller.FirstDecides fence world k result)
    (ho : poller.FirstDecides fence world j other) : k = j ∧ result = other := by
  rcases Nat.lt_trichotomy k j with less | rfl | more
  · exact absurd (ho.1 k less) h.2.not_retried
  · exact ⟨rfl, h.2.unique ho.2⟩
  · exact absurd (h.1 j more) ho.2.not_retried

theorem waiter_wait_eq {limit : Fence → σ → Nat}
    (ends : ∀ fence world, (poller.wait fence (limit fence world) world).1.isSome) :
    poller.wait fence (limit fence world) world =
      (some ((poller.waiter limit ends).wait fence world).1,
        ((poller.waiter limit ends).wait fence world).2) :=
  Prod.ext (Option.some_get (ends fence world)).symm rfl

/-- A wait that ends gives what the first deciding poll says, however many polls were allowed. -/
theorem waiter_wait_iff {limit : Fence → σ → Nat}
    (ends : ∀ fence world, (poller.wait fence (limit fence world) world).1.isSome) :
    (poller.waiter limit ends).wait fence world = (result, after) ↔
      ∃ k, poller.FirstDecides fence world k result ∧
        after = poller.worldAfter fence world (k + 1) := by
  obtain ⟨k, -, first, done⟩ := wait_eq_some_iff.mp (waiter_wait_eq ends)
  constructor
  · intro waited
    rw [waited] at first done
    exact ⟨k, first, done⟩
  · rintro ⟨j, decides, rfl⟩
    obtain ⟨rfl, same⟩ := first.unique decides
    exact Prod.ext same done

/-- Polls that come to given outcomes, whatever is polled for however long. What was asked for is
written down. -/
def scripted (outcomes : Nat → PollOutcome) : Poller (List (Fence × Option TimeLimit)) where
  poll fence limit := fun asked => (outcomes asked.length, asked ++ [(fence, limit)])

theorem scripted_worldAfter (outcomes : Nat → PollOutcome) (fence : Fence) (polls : Nat) :
    (scripted outcomes).worldAfter fence [] polls = List.replicate polls (fence, none) := by
  induction polls with
  | zero => rfl
  | succ polls ih =>
    rw [worldAfter, ih, List.replicate_succ']
    rfl

theorem scripted_outcome (outcomes : Nat → PollOutcome) (fence : Fence) (polls : Nat) :
    (scripted outcomes).outcome fence [] polls = outcomes polls := by
  rw [outcome, scripted_worldAfter]
  exact congrArg outcomes List.length_replicate

/-- The first poll that neither was interrupted nor would block nor had nothing ready decides a
wait, and it is the last one. Every poll is one of the fence itself, without a time limit. A wait
that has not ended yet has only met polls of the other kind, whichever their number, and one that
ends gives nothing but what that first poll says. -/
theorem wait_settled_by_first {σ : Type} (poller : Poller σ) (fence : Fence) (patience : Nat) :
    (∀ outcome : PollOutcome, ¬outcome.Retried ↔ ∃! result, outcome.Decides result) ∧
    (∀ world result after, poller.wait fence patience world = (some result, after) ↔
      ∃ k < patience, poller.FirstDecides fence world k result ∧
        after = poller.worldAfter fence world (k + 1)) ∧
    (∀ world after, poller.wait fence patience world = (none, after) ↔
      (∀ i < patience, (poller.outcome fence world i).Retried) ∧
        after = poller.worldAfter fence world patience) ∧
    (∀ limit ends world result after,
      (poller.waiter limit ends).wait fence world = (result, after) ↔
        ∃ k, poller.FirstDecides fence world k result ∧
          after = poller.worldAfter fence world (k + 1)) ∧
    (∀ outcomes result asked,
      (scripted outcomes).wait fence patience [] = (some result, asked) ↔
        ∃ k < patience, (∀ i < k, (outcomes i).Retried) ∧ (outcomes k).Decides result ∧
          asked = List.replicate (k + 1) (fence, none)) ∧
    ∀ outcomes asked, (scripted outcomes).wait fence patience [] = (none, asked) ↔
      (∀ i < patience, (outcomes i).Retried) ∧ asked = List.replicate patience (fence, none) := by
  refine ⟨fun _ => PollOutcome.not_retried_iff, fun _ _ _ => wait_eq_some_iff,
    fun _ _ => wait_eq_none_iff, fun _ ends _ _ _ => waiter_wait_iff ends,
    fun outcomes result asked => ?_, fun outcomes asked => ?_⟩
  · simp only [wait_eq_some_iff, FirstDecides, scripted_outcome, scripted_worldAfter, and_assoc]
  · simp only [wait_eq_none_iff, scripted_outcome, scripted_worldAfter]

/-- After an interruption an error event fails a wait, also one of a descriptor that is ready. -/
theorem wait_settled_by_first_interrupted :
    let outcomes (polls : Nat) : PollOutcome :=
      if polls = 0 then .failed (.errno 4) else .ready 1 true false
    ∃ ends, ((scripted outcomes).waiter (fun _ _ => 2) ends).wait ⟨3⟩ [] =
      (.error .invalidArgument, [(⟨3⟩, none), (⟨3⟩, none)]) := by
  intro outcomes
  have ends (fence : Fence) (asked : List (Fence × Option TimeLimit)) :
      ((scripted outcomes).wait fence 2 asked).1.isSome := by
    cases asked <;> rfl
  obtain ⟨-, -, -, waited_iff, -⟩ := wait_settled_by_first (scripted outcomes) ⟨3⟩ 2
  refine ⟨ends, (waited_iff _ ends _ _ _).mpr ⟨1, ⟨fun i before => ?_, ?_⟩, rfl⟩⟩
  · obtain rfl : i = 0 := by omega
    exact .interrupted
  · exact .errorEvent

end Poller

end Scanout
