import Scanout.Proofs.FenceCustody
import Scanout.Proofs.FrameTransaction

namespace Scanout

open Custody (held_balance held_skipAll held_trans idle_of_setUp)

/-- What came with the accepted commits: an out-fence, or none. -/
def flips (events : List Exchange) : List (Option Fence) :=
  events.filterMap fun
    | .submitted _ (.ok outFence) => some outFence
    | _ => none

@[simp] theorem flips_append (events later : List Exchange) :
    flips (events ++ later) = flips events ++ flips later :=
  List.filterMap_append

theorem flips_of_stage {events : List Exchange} (h : ∀ e ∈ events, e.stage ≠ .commit) :
    flips events = [] := by
  apply List.filterMap_eq_nil_iff.mpr
  intro e he
  have uncommitted := h e he
  cases e <;> simp_all [Exchange.stage]

theorem SubmitRecord.flips {topology : Topology} {tables : PropertyCache} {request : CommitRequest}
    {blob : Option UInt64} {outcome : CommitOutcome} {added : List Exchange}
    (h : SubmitRecord topology tables request blob outcome added) :
    Scanout.flips added = outcome.result.toOption.toList := by
  cases h with
  | unbuilt => rfl
  | rejected => rfl
  | accepted => cases request.inFence <;> rfl

theorem CommitRecord.flips {topology : Topology} {tables : PropertyCache} {request : CommitRequest}
    {outcome : CommitOutcome} {added : List Exchange}
    (h : CommitRecord topology tables request outcome added) :
    Scanout.flips added = outcome.result.toOption.toList := by
  cases h with
  | flip _ hs => exact hs.flips
  | blobless => rfl
  | modeset blob answer _ hs =>
    change Scanout.flips ([.blobCreated _ _] ++ (_ ++ [.blobDestroyed _ _])) = _
    rw [flips_append, flips_append, hs.flips]
    exact List.append_nil _

namespace Pipeline

/-- That what is pending came with the commit accepted last. -/
def LastFlip (p q : Pipeline) (added : List Exchange) : Prop :=
  ∀ fence, q.pendingFlip = some fence →
    (flips added).getLast? = some (some fence) ∨ (flips added = [] ∧ p.pendingFlip = some fence)

theorem LastFlip.trans {p q p' : Pipeline} {added later : List Exchange} (h : p.LastFlip q added)
    (hl : q.LastFlip p' later) : p.LastFlip p' (added ++ later) := by
  intro fence pending
  rcases hl fence pending with last | ⟨none, pending⟩
  · exact .inl (by simp [List.getLast?_append, last])
  · rcases h fence pending with last | ⟨noneYet, pending⟩
    · exact .inl (by simp [none, last])
    · exact .inr ⟨by simp [none, noneYet], pending⟩

theorem lastFlip_of_quiet {p q : Pipeline} {added : List Exchange}
    (hp : q.pendingFlip = p.pendingFlip) (h : ∀ e ∈ added, e.stage ≠ .commit) :
    p.LastFlip q added := by
  intro fence pending
  exact .inr ⟨flips_of_stage h, hp.symm.trans pending⟩

theorem FlipRecord.lastFlip {p : Pipeline} {frame : Nat} {drawn : Drawn}
    {result : Except DisplayError Unit × Pipeline} {added : List Exchange}
    (h : p.FlipRecord frame drawn result added) (hp : p.pendingFlip = none) :
    p.LastFlip result.2 added := by
  obtain ⟨outcome, committing, given, hc, hr, hg, rfl⟩ := h.parts
  have giving : flips given = [] := flips_of_stage fun e he => by simp [hg e he]
  intro fence pending
  rw [flips_append, giving, List.append_nil, hc.flips]
  generalize outcome.result = committed at hr
  cases hr with
  | shown outFence throughput =>
    obtain rfl : outFence = some fence := pending
    exact .inl rfl
  | refused e =>
    have pending : p.pendingFlip = some fence := pending
    simp [hp] at pending

end Pipeline

theorem lastFlip_compositional : Compositional Pipeline.LastFlip where
  trans := Pipeline.LastFlip.trans
  idle _ _ h := Pipeline.lastFlip_of_quiet rfl (by grind)
  timed _ _ := Pipeline.lastFlip_of_quiet rfl (by simp)
  drawn hq hd := by
    have begun := Pipeline.stage_of_drawn hq hd
    exact Pipeline.lastFlip_of_quiet rfl (by grind)
  finish hw := by
    intro fence pending
    rw [hw.leaves] at pending
    simp at pending
  flip hp hf := hf.lastFlip hp

theorem flips_of_setUp {events : List Exchange} (h : ∀ e ∈ events, e.isSetUp = true) :
    flips events = [] := by
  apply flips_of_stage
  intro e he
  rcases stage_of_isSetUp (h e he) with stage | stage <;> simp [stage]

theorem Pipeline.balanced_of_setUp (p : Pipeline) {events : List Exchange}
    (h : ∀ e ∈ events, e.isSetUp = true) : p.Balanced p events := by
  refine balanced_of_quiet rfl ?_
  intro e he
  rcases stage_of_isSetUp (h e he) with stage | stage <;> simp [stage]

/-- How fences are tended in a life of a display path, which it lived and then ended. -/
structure FencesTended (p : Pipeline) (lived ending : List Exchange) : Prop where
  /-- The pending flip is open, and no other fence is. -/
  pending : fences.held [] lived = some p.pendingFlip.toList
  last : ∀ fence, p.pendingFlip = some fence → (flips lived).getLast? = some (some fence)
  /-- At a submission all flips were waited for. The frame's own fence is open, and no other is. -/
  submitted : ∀ before txn answer after, lived = before ++ .submitted txn answer :: after →
    issued before = (waits before).map Prod.fst ∧
      ∃ target frame fence, .rendered target frame (.ok fence) ∈ frameSoFar before ∧
        fences.held [] before = some [fence] ∧
        ∀ a ∈ txn.assignments, ∀ attached, a.value = .fence attached → attached = fence
  /-- In the end every fence is closed, and only what was open was closed. -/
  ended : fences.held [] (lived ++ ending) = some []
  once : (fences.takenIn (lived ++ ending)).Perm (fences.givenIn (lived ++ ending))

/-- In any life of a display path, whatever its collaborators answer, every fence is closed exactly
once, and between calls only that of the last flip is open. -/
theorem fences_tended {σ : Type} [World σ] (device : Device σ) (allocator : Allocator σ)
    (options : Options) (requests : List (Request σ)) (world : σ) {p : Pipeline} {r : Recorded σ}
    (h : recordLife device allocator options requests world = (.ok p, r)) :
    FencesTended p r.transcript (recordDrop device allocator p r.world).transcript := by
  obtain ⟨p₀, readying, lived, quiet, fresh, ht, steps⟩ := recordLife_lived h
  have pending := recordLife_fences_held h
  have ended := held_trans pending (recordDrop_record device allocator p r.world).fences_held
  refine ⟨pending, ?_, ?_, ended, by simpa using held_balance ended⟩
  · intro fence hp
    rw [ht, flips_append, flips_of_setUp quiet]
    rcases lastFlip_compositional.steps steps fence hp with last | ⟨-, still⟩
    · exact last
    · simp [fresh.pendingFlip] at still
  · intro before txn answer after hs
    obtain ⟨past, rfl, rfl⟩ := split_readied quiet rfl (ht.symm.trans hs)
    obtain ⟨q, idle, balanced⟩ := steps.settled
    have whole := (p₀.balanced_of_setUp quiet).trans balanced
    obtain ⟨start, pool, drawn, begun, target, -, submitted, rendered, opened⟩ :=
      steps.fences_at_submission readying
    have own : fences.held [] (readying ++ past) = some [drawn.fence] := by
      rw [fresh.pendingFlip] at opened
      exact held_skipAll (fun e he => (idle_of_setUp quiet e he).1) opened
    refine ⟨by simpa [Pipeline.Balanced, fresh.pendingFlip, idle] using whole, target, start.frame,
      drawn.fence, rendered, own, submitted.fence_attached⟩

/-- Three frames in memory of which the second cannot be drawn: two flips, of which one is pending
when the display path is given up. -/
theorem fences_tended_in_memory :
    ∃ p, (Memory.frames (.failingAt .plain 1) 3).1 = .ok p ∧ p.pendingFlip.isSome ∧
      (flips (Memory.frames (.failingAt .plain 1) 3).2.transcript).length = 2 ∧
      FencesTended p (Memory.frames (.failingAt .plain 1) 3).2.transcript
        (recordDrop MemoryDisplay.singleOutput.device MemoryAllocator.plain.allocator p
          (Memory.frames (.failingAt .plain 1) 3).2.world).transcript := by
  have chosen : ((Memory.frames (.failingAt .plain 1) 3).1.toOption.map fun p =>
      p.pendingFlip.isSome) = some true := by
    decide +kernel
  have two : (flips (Memory.frames (.failingAt .plain 1) 3).2.transcript).length = 2 := by
    decide +kernel
  obtain ⟨p, hp, pending⟩ := Option.map_eq_some_iff.mp chosen
  have life := ok_of_toOption hp
  unfold Memory.frames at life two ⊢
  exact ⟨p, life, pending, two, fences_tended _ _ _ _ _ (pair_of_fst life)⟩

end Scanout
