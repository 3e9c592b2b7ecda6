import Scanout.Proofs.Custody
import Scanout.Proofs.Ending
import Scanout.Proofs.FlipBalance

namespace Scanout

open Custody (held_give held_giveSecond held_idle held_skip held_skipAll held_take held_trans
  idle_of_mark idle_of_setUp)

theorem fences_idle_of_prepared {events : List Exchange} (h : ∀ e ∈ events, e.stage = .prepare) :
    ∀ e ∈ events, fences.Idle e := by
  intro e he
  have stage := h e he
  cases e <;> simp_all [Exchange.stage, Custody.Idle, fences]

theorem fences_idle_released (buffers : List Buffer) :
    ∀ e ∈ buffers.map Exchange.released, fences.Idle e := by
  intro e he
  obtain ⟨buffer, -, rfl⟩ := List.mem_map.mp he
  exact ⟨rfl, rfl⟩

namespace Pipeline

theorem GpuWaitRecord.fences_idle {pending : Option Fence} {added : List Exchange}
    (h : GpuWaitRecord pending added) : ∀ e ∈ added, fences.Idle e := by
  cases h <;> simp [Custody.Idle, fences]

/-- A drawing leaves the fence of the frame open if it succeeds, and none otherwise. -/
theorem DrawRecord.fences_held {pool : BufferPool} {frame : Nat} {start : List Fence}
    {result : Except DisplayError Drawn × BufferPool} {added : List Exchange}
    (h : DrawRecord pool frame result added) :
    fences.held start added = some ((result.1.toOption.map Drawn.fence).toList ++ start) := by
  cases h with
  | slotEmpty => rfl
  | slotUndrawn => rfl
  | slotUnframed fence _ _ _ hr =>
    have quiet := fences_idle_of_prepared hr.stage
    exact held_take rfl rfl (held_skipAll quiet (held_give rfl rfl rfl))
  | slotDrawn fence _ _ _ hr =>
    have quiet := fences_idle_of_prepared hr.stage
    exact held_take rfl rfl (held_idle quiet)
  | surfaceUndrawn => rfl
  | surfaceUnlocked fence cause _ =>
    exact held_take rfl rfl (held_skip ⟨rfl, rfl⟩ (held_give rfl rfl rfl))
  | surfaceUnframed fence _ _ hr =>
    have quiet := fences_idle_of_prepared hr.stage
    exact held_take rfl rfl (held_skip ⟨rfl, rfl⟩
      (held_skipAll quiet (held_skip ⟨rfl, rfl⟩ (held_give rfl rfl rfl))))
  | surfaceDrawn fence _ _ hr =>
    have quiet := fences_idle_of_prepared hr.stage
    exact held_take rfl rfl (held_skip ⟨rfl, rfl⟩ (held_idle quiet))

theorem FinishRecord.fences_held {p : Pipeline} {result : Except DisplayError Unit × Pipeline}
    {added : List Exchange} (h : p.FinishRecord result added) :
    fences.held p.pendingFlip.toList added = some [] := by
  cases h with
  | idle hp => simp [hp]
  | waited hp =>
    rw [hp]
    exact held_skip ⟨rfl, rfl⟩ (held_give rfl rfl rfl)
  | failed cause hp =>
    rw [hp]
    exact held_skip ⟨rfl, rfl⟩ (held_give rfl rfl rfl)

/-- Waiting for the pending flip while a drawn frame is in hand. -/
theorem FinishRecord.fences_beside {p : Pipeline} {result : Except DisplayError Unit × Pipeline}
    {added : List Exchange} (drawn : Fence) (h : p.FinishRecord result added) :
    fences.held (drawn :: p.pendingFlip.toList) added = some [drawn] := by
  cases h with
  | idle hp => simp [hp]
  | waited hp =>
    rw [hp]
    exact held_skip ⟨rfl, rfl⟩ (held_giveSecond rfl rfl rfl)
  | failed cause hp =>
    rw [hp]
    exact held_skip ⟨rfl, rfl⟩ (held_giveSecond rfl rfl rfl)

end Pipeline

/-- A submission takes the in-fence for the out-fence, or leaves it as it is. -/
theorem SubmitRecord.fences_held {topology : Topology} {tables : PropertyCache}
    {request : CommitRequest} {blob : Option UInt64} {outcome : CommitOutcome}
    {added : List Exchange}
    (h : SubmitRecord topology tables request blob outcome added) :
    fences.held request.inFence.toList added =
      some (outcome.inFence.toList ++ outcome.result.toOption.join.toList) := by
  cases h with
  | unbuilt => simp [Except.toOption]
  | rejected => exact held_skip ⟨rfl, rfl⟩ (by simp [Except.toOption])
  | accepted outFence =>
    cases outFence with
    | none =>
      cases request.inFence with
      | none => rfl
      | some fence => exact held_skip ⟨rfl, rfl⟩ (held_give rfl rfl rfl)
    | some out =>
      cases request.inFence with
      | none => rfl
      | some fence => exact held_take rfl rfl (held_giveSecond rfl rfl rfl)

/-- The in-fence is handed over with an accepted commit, and with no other. -/
theorem SubmitRecord.inFence {topology : Topology} {tables : PropertyCache}
    {request : CommitRequest} {blob : Option UInt64} {outcome : CommitOutcome}
    {added : List Exchange}
    (h : SubmitRecord topology tables request blob outcome added) :
    outcome.inFence = if outcome.result.isOk then none else request.inFence := by
  cases h <;> rfl

theorem CommitRecord.inFence {topology : Topology} {tables : PropertyCache}
    {request : CommitRequest} {outcome : CommitOutcome} {added : List Exchange}
    (h : CommitRecord topology tables request outcome added) :
    outcome.inFence = if outcome.result.isOk then none else request.inFence := by
  cases h with
  | flip _ hs => exact hs.inFence
  | blobless => rfl
  | modeset _ _ _ hs => exact hs.inFence

theorem CommitRecord.fences_held {topology : Topology} {tables : PropertyCache}
    {request : CommitRequest} {outcome : CommitOutcome} {added : List Exchange}
    (h : CommitRecord topology tables request outcome added) :
    fences.held request.inFence.toList added =
      some (outcome.inFence.toList ++ outcome.result.toOption.join.toList) := by
  cases h with
  | flip _ hs => exact hs.fences_held
  | blobless => exact held_skip ⟨rfl, rfl⟩ (by simp [Except.toOption])
  | modeset blob answer _ hs =>
    exact held_skip ⟨rfl, rfl⟩ (held_trans hs.fences_held (held_skip ⟨rfl, rfl⟩ rfl))

namespace Pipeline

theorem FlipRecord.fences_held {p : Pipeline} {frame : Nat} {drawn : Drawn}
    {result : Except DisplayError Unit × Pipeline} {added : List Exchange}
    (h : p.FlipRecord frame drawn result added) (hp : p.pendingFlip = none) :
    fences.held [drawn.fence] added = some result.2.pendingFlip.toList := by
  cases h with
  | @shown outFence inFence committing throughput hc =>
    obtain rfl : inFence = none := hc.inFence
    refine held_trans hc.fences_held (held_idle ?_)
    cases drawn.locked with
    | none => simp
    | some buffer => exact fences_idle_released p.onScreen.toList
  | @refused e inFence committing hc =>
    obtain rfl : inFence = some drawn.fence := hc.inFence
    rw [hp]
    exact held_trans hc.fences_held
      (held_give rfl rfl (held_idle (fences_idle_released drawn.locked.toList)))

theorem FrameRecord.fences_held {p : Pipeline} {result : Except DisplayError Unit × Pipeline}
    {added : List Exchange} (h : p.FrameRecord result added) :
    fences.held p.pendingFlip.toList added = some result.2.pendingFlip.toList := by
  cases h with
  | undrawn hq hd => exact held_skipAll hq.fences_idle hd.fences_held
  | @unwaited pool drawn e q queued drawing waiting hq hd hw =>
    have idle : q.pendingFlip = none := congrArg Pipeline.pendingFlip hw.leaves
    have waited := hw.fences_beside drawn.fence
    have given : fences.held [drawn.fence]
        (.closed drawn.fence :: drawn.locked.toList.map .released) = some [] :=
      held_give rfl rfl (held_idle (fences_idle_released drawn.locked.toList))
    rw [idle]
    exact held_skipAll hq.fences_idle (held_trans hd.fences_held (held_trans waited given))
  | @committed pool drawn q result queued drawing waiting flipping hq hd hw hf =>
    have idle : q.pendingFlip = none := congrArg Pipeline.pendingFlip hw.leaves
    have waited := hw.fences_beside drawn.fence
    exact held_skipAll hq.fences_idle
      (held_trans hd.fences_held (held_trans waited (hf.fences_held idle)))

/-- At its submission, of all fences that are handed out a frame has its own open and no other. -/
theorem FrameRecord.fences_at_submission {p : Pipeline}
    {result : Except DisplayError Unit × Pipeline} {sofar later : List Exchange}
    {txn : Transaction} {answer : Except CallError (Option Fence)}
    (h : p.FrameRecord result (sofar ++ .submitted txn answer :: later)) :
    ∃ pool drawn begun target, (p.readied pool).SubmittedAs drawn txn begun ∧
      .rendered target p.frame (.ok drawn.fence) ∈ sofar ∧
      fences.held p.pendingFlip.toList sofar = some [drawn.fence] := by
  obtain ⟨pool, drawn, q, queued, drawing, waiting, begun, hq, hd, hw, hf, rfl⟩ :=
    h.at_commit rfl
  obtain rfl : q = p.readied pool := hw.leaves
  obtain ⟨hs, -, -⟩ := hf.at_submit
  have quiet : ∀ e ∈ begun, fences.Idle e := by
    cases hs with
    | flip => simp
    | modeset blob => simp [Custody.Idle, fences]
  have opened : fences.held p.pendingFlip.toList (queued ++ (drawing ++ (waiting ++ begun))) =
      some [drawn.fence] :=
    held_skipAll hq.fences_idle (held_trans hd.fences_held
      (held_trans (hw.fences_beside drawn.fence) (held_idle quiet)))
  have drawnThen := hd.calls
  cases drawnThen with
  | @drawn target _ rest _ _ => exact ⟨pool, drawn, begun, target, hs, by simp, opened⟩

end Pipeline

theorem StepRecord.fences_held {p q : Pipeline} {added : List Exchange}
    (h : StepRecord p added q) :
    fences.held p.pendingFlip.toList added = some q.pendingFlip.toList := by
  cases h with
  | marked hm _ => exact held_skip (idle_of_mark hm).1 rfl
  | frame hm _ hf => exact held_skip (idle_of_mark hm).1 hf.fences_held
  | finish hw =>
    have idle : q.pendingFlip = none := congrArg Pipeline.pendingFlip hw.leaves
    rw [idle]
    exact hw.fences_held
  | timed => rfl

/-- However a display path is used, the pending flip is open and no other fence is. -/
theorem Steps.fences_held {p q : Pipeline} {added : List Exchange} (h : Steps p added q) :
    fences.held p.pendingFlip.toList added = some q.pendingFlip.toList := by
  induction h with
  | none => rfl
  | more step _ ih => exact held_trans step.fences_held ih

theorem Pipeline.EndRecord.fences_held {p : Pipeline} {added : List Exchange}
    (h : p.EndRecord added) : fences.held p.pendingFlip.toList added = some [] := by
  obtain ⟨hd⟩ := h
  have closing : fences.held p.pendingFlip.toList (p.pendingFlip.toList.map .closed) =
      some [] := by
    cases p.pendingFlip with
    | none => rfl
    | some fence => exact held_give rfl rfl rfl
  refine held_skipAll (fences_idle_released p.onScreen.toList)
    (held_trans closing (held_idle ?_))
  intro e he
  rcases List.mem_append.mp he with he | he
  · rcases hd.disposes e he with ⟨framebuffer, answer, rfl⟩ | ⟨buffer, rfl⟩ <;> exact ⟨rfl, rfl⟩
  · obtain ⟨surface, -, rfl⟩ := List.mem_map.mp he
    exact ⟨rfl, rfl⟩

/-- Where a transaction is submitted, the fence that the frame was drawn with is open and no other
is, whatever came before. -/
theorem Steps.fences_at_submission {p q : Pipeline} {before after : List Exchange}
    {txn : Transaction} {answer : Except CallError (Option Fence)} (earlier : List Exchange)
    (h : Steps p (before ++ .submitted txn answer :: after) q) :
    ∃ start pool drawn begun target, p.SameOutput start ∧
      (start.readied pool).SubmittedAs drawn txn begun ∧
      .rendered target start.frame (.ok drawn.fence) ∈ frameSoFar (earlier ++ before) ∧
      fences.held p.pendingFlip.toList before = some [drawn.fence] := by
  have hm := h.midFrame rfl rfl
  generalize he : Exchange.submitted txn answer = e at hm
  cases hm with
  | @intro start stop result past sofar later rest mark _ began hm hb hf _ =>
    subst he
    obtain ⟨pool, drawn, begun, target, hs, rendered, opened⟩ := hf.fences_at_submission
    refine ⟨start, pool, drawn, begun, target, sameOutput_compositional.steps began, hs, ?_, ?_⟩
    · rw [← List.append_assoc, frameSoFar_mark hm hf.unmarked_before]
      exact rendered
    · exact held_trans began.fences_held (held_skip (idle_of_mark hm).1 opened)

/-- Between calls, in any life of a display path, the pending flip is open and no other fence is. -/
theorem recordLife_fences_held {σ : Type} [World σ] {device : Device σ} {allocator : Allocator σ}
    {options : Options} {requests : List (Request σ)} {world : σ} {p : Pipeline} {r : Recorded σ}
    (h : recordLife device allocator options requests world = (.ok p, r)) :
    fences.held [] r.transcript = some p.pendingFlip.toList := by
  obtain ⟨p₀, readying, lived, quiet, fresh, ht, steps⟩ := recordLife_lived h
  have bare : p₀.pendingFlip.toList = [] := by simp [fresh.pendingFlip]
  have used := steps.fences_held
  rw [bare] at used
  rw [ht]
  exact held_skipAll (fun e he => (idle_of_setUp quiet e he).1) used

end Scanout
