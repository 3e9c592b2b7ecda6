import Scanout.Proofs.Life
import Scanout.Proofs.RunCourse

namespace Scanout

variable {σ : Type} [World σ] (device : Device σ) (allocator : Allocator σ)

open Recorded (watch)

/-- An actual call on a display path, with the frames that are tried in it. -/
inductive CallCourse (p : Pipeline) (r : Recorded σ) :
    Request σ → List Attempt → Pipeline → Recorded σ → Prop
  | presented {renderer : Renderer σ} {waiter : Waiter σ} {result : Except DisplayError Unit}
      {events : List Exchange} {q : Pipeline} {s : Recorded σ} :
      p.presentFrame (Collaborators.recorded ⟨device, allocator, renderer, waiter⟩) r =
        ((result, q), s) →
      s.transcript = r.transcript ++ events →
      CallCourse p r (.present renderer waiter) [⟨result, events⟩] q s
  | finished {waiter : Waiter σ} {result : Except DisplayError Unit} {q : Pipeline}
      {s : Recorded σ} : p.finish waiter.recorded r = ((result, q), s) →
      CallCourse p r (.finish waiter) [] q s
  | ran {renderer : Renderer σ} {waiter : Waiter σ} {interrupted : Act σ Bool} {patience : Nat}
      {budget : Option Nat} {result : Option (Except DisplayError Nat)} {frames : List Attempt}
      {q : Pipeline} {s : Recorded σ} :
      p.run (Collaborators.recorded ⟨device, allocator, renderer, waiter⟩)
        (watch .polled interrupted) patience budget r = ((result, q), s) →
      p.RunCourse ⟨device, allocator, renderer, waiter⟩ interrupted budget r result frames q s →
      CallCourse p r (.run renderer waiter interrupted patience budget) frames q s

/-- Actual calls one after the other, with all the frames that are tried in them. -/
inductive HistoryCourse :
    Pipeline → Recorded σ → List (Request σ) → List Attempt → Pipeline → Recorded σ → Prop
  | none {p : Pipeline} {r : Recorded σ} : HistoryCourse p r [] [] p r
  | more {p q p' : Pipeline} {r s r' : Recorded σ} {request : Request σ}
      {rest : List (Request σ)} {frames later : List Attempt} :
      CallCourse device allocator p (Recorded.hear request.entry r).2 request frames q s →
      HistoryCourse q s rest later p' r' →
      HistoryCourse p r (request :: rest) (frames ++ later) p' r'

theorem answer_course (p : Pipeline) (request : Request σ) (r : Recorded σ) :
    Ends (request.recorded.answer device.recorded allocator.recorded p) r fun answered s =>
      ∃ frames, CallCourse device allocator p r request frames answered.2 s := by
  cases request with
  | present renderer waiter =>
    refine ends_bind ?_
    rintro ⟨result, q⟩ s presenting
    obtain ⟨events, added, -⟩ :=
      (Pipeline.records_presentFrame ⟨device, allocator, renderer, waiter⟩ p).ended presenting
    exact ends_pure ⟨_, .presented presenting added⟩
  | finish waiter =>
    refine ends_bind ?_
    rintro ⟨result, q⟩ s finishing
    exact ends_pure ⟨_, .finished finishing⟩
  | run renderer waiter interrupted patience budget =>
    refine ends_bind ?_
    rintro ⟨result, q⟩ s running
    obtain ⟨frames, course⟩ := (Pipeline.run_course ⟨device, allocator, renderer, waiter⟩
      interrupted patience budget p r).of_eq running
    exact ends_pure ⟨frames, .ran running course⟩

theorem continueLife_course (p : Pipeline) (requests : List (Request σ)) (r : Recorded σ) :
    Ends (continueLife device allocator p requests) r fun q s =>
      ∃ frames, HistoryCourse device allocator p r requests frames q s := by
  unfold continueLife
  induction requests generalizing p r with
  | nil => exact ends_pure ⟨_, .none⟩
  | cons request rest ih =>
    refine ends_bind ?_
    intro _ heard hearing
    refine ends_bind ?_
    rintro ⟨reply, q⟩ s answering
    obtain ⟨frames, call⟩ := (answer_course device allocator p request heard).of_eq answering
    obtain ⟨later, course⟩ := ih q s
    obtain rfl : (Recorded.hear request.recorded.entry r).2 = heard := congrArg Prod.snd hearing
    rw [Request.entry_recorded] at call
    exact ⟨frames ++ later, .more call course⟩

variable {device allocator}

theorem recordCall_run_iff {renderer : Renderer σ} {waiter : Waiter σ} {interrupted : Act σ Bool}
    {patience : Nat} {budget : Option Nat} {p q : Pipeline} {world : σ}
    {result : Option (Except DisplayError Nat)} {r : Recorded σ} :
    recordCall device allocator p (.run renderer waiter interrupted patience budget) world =
        ((.ran result, q), r) ↔
      p.run (Collaborators.recorded ⟨device, allocator, renderer, waiter⟩)
        (watch .polled interrupted) patience budget ⟨world, []⟩ = ((result, q), r) := by
  have same : recordCall device allocator p (.run renderer waiter interrupted patience budget)
      world =
    let ran := p.run (Collaborators.recorded ⟨device, allocator, renderer, waiter⟩)
      (watch .polled interrupted) patience budget ⟨world, []⟩
    ((.ran ran.1.1, ran.1.2), ran.2) := rfl
  rw [same]
  generalize p.run (Collaborators.recorded ⟨device, allocator, renderer, waiter⟩)
    (watch .polled interrupted) patience budget ⟨world, []⟩ = ran
  obtain ⟨⟨result', q'⟩, r'⟩ := ran
  constructor
  · rintro ⟨⟩
    rfl
  · rintro ⟨⟩
    rfl

theorem recordCall_run_course {renderer : Renderer σ} {waiter : Waiter σ}
    {interrupted : Act σ Bool} {patience : Nat} {budget : Option Nat} {p q : Pipeline} {world : σ}
    {result : Option (Except DisplayError Nat)} {r : Recorded σ}
    (h : recordCall device allocator p (.run renderer waiter interrupted patience budget) world =
      ((.ran result, q), r)) :
    ∃ frames, p.RunCourse ⟨device, allocator, renderer, waiter⟩ interrupted budget ⟨world, []⟩
      result frames q r :=
  (Pipeline.run_course ⟨device, allocator, renderer, waiter⟩ interrupted patience budget p
    ⟨world, []⟩).of_eq (recordCall_run_iff.mp h)

/-- The number of frames that a run gives. -/
def Reply.total? : Reply → Option Nat
  | ran (some (.ok n)) => some n
  | _ => none

theorem Reply.total?_eq_some {reply : Reply} {n : Nat} (h : reply.total? = some n) :
    reply = .ran (some (.ok n)) := by
  unfold total? at h
  split at h
  next => rw [Option.some.inj h]
  next => simp at h

end Scanout
