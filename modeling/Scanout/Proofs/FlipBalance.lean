import Scanout.Proofs.Upkeep

namespace Scanout

namespace Exchange

/-- The out-fence of an accepted commit. -/
def issued? : Exchange → Option Fence
  | submitted _ (.ok outFence) => outFence
  | _ => none

def wait? : Exchange → Option (Fence × Except CallError Unit)
  | waited fence answer => some (fence, answer)
  | _ => none

end Exchange

/-- The out-fences of the commits that were accepted, in their order. -/
def issued (events : List Exchange) : List Fence :=
  events.filterMap Exchange.issued?

/-- The fences that were waited for, with what came of it. -/
def waits (events : List Exchange) : List (Fence × Except CallError Unit) :=
  events.filterMap Exchange.wait?

/-- The out-fences that were not waited for. -/
def outstanding (events : List Exchange) : List Fence :=
  (issued events).drop (waits events).length

@[simp] theorem issued_append (events later : List Exchange) :
    issued (events ++ later) = issued events ++ issued later :=
  List.filterMap_append

@[simp] theorem issued_cons (e : Exchange) (later : List Exchange) :
    issued (e :: later) = e.issued?.toList ++ issued later := by
  cases he : e.issued? <;> simp [issued, he]

@[simp] theorem issued_nil : issued [] = [] := rfl

@[simp] theorem waits_append (events later : List Exchange) :
    waits (events ++ later) = waits events ++ waits later :=
  List.filterMap_append

@[simp] theorem waits_cons (e : Exchange) (later : List Exchange) :
    waits (e :: later) = e.wait?.toList ++ waits later := by
  cases he : e.wait? <;> simp [waits, he]

@[simp] theorem waits_nil : waits [] = [] := rfl

theorem issued_of_no_submission {events : List Exchange}
    (h : ∀ e ∈ events, e.isSubmission = false) : issued events = [] := by
  apply List.filterMap_eq_nil_iff.mpr
  intro e he
  have hs := h e he
  cases e <;> simp_all [Exchange.isSubmission, Exchange.issued?]

theorem waits_of_stage {events : List Exchange} (h : ∀ e ∈ events, e.stage ≠ .wait) :
    waits events = [] := by
  apply List.filterMap_eq_nil_iff.mpr
  intro e he
  have hs := h e he
  cases e <;> simp_all [Exchange.stage, Exchange.wait?]

theorem issued_of_stage {events : List Exchange} (h : ∀ e ∈ events, e.stage ≠ .commit) :
    issued events = [] :=
  issued_of_no_submission fun e he => not_submission_of_stage (h e he)

theorem SubmitRecord.issued {topology : Topology} {tables : PropertyCache}
    {request : CommitRequest} {blob : Option UInt64} {outcome : CommitOutcome}
    {added : List Exchange} (h : SubmitRecord topology tables request blob outcome added) :
    Scanout.issued added = outcome.result.toOption.join.toList := by
  cases h with
  | unbuilt => rfl
  | rejected => rfl
  | accepted outFence hb =>
    have closing : Scanout.issued (request.inFence.toList.map Exchange.closed) = [] := by
      apply issued_of_stage
      simp [Exchange.stage]
    rw [issued_cons, closing]
    cases outFence <;> rfl

theorem CommitRecord.issued {topology : Topology} {tables : PropertyCache}
    {request : CommitRequest} {outcome : CommitOutcome} {added : List Exchange}
    (h : CommitRecord topology tables request outcome added) :
    Scanout.issued added = outcome.result.toOption.join.toList := by
  cases h with
  | flip _ hs => exact hs.issued
  | blobless => rfl
  | modeset blob answer _ hs =>
    simp [hs.issued, Exchange.issued?]

namespace Pipeline

/-- Fences neither come from nowhere nor get lost: what was pending and what is issued is what is
waited for and what is pending then. -/
def Balanced (p q : Pipeline) (added : List Exchange) : Prop :=
  p.pendingFlip.toList ++ issued added = (waits added).map Prod.fst ++ q.pendingFlip.toList

theorem FlipRecord.balanced {p : Pipeline} {frame : Nat} {drawn : Drawn}
    {result : Except DisplayError Unit × Pipeline} {added : List Exchange}
    (h : p.FlipRecord frame drawn result added) (hp : p.pendingFlip = none) :
    p.Balanced result.2 added := by
  have unwaited : waits added = [] := by
    apply waits_of_stage
    intro e he
    rcases h.stage e he with hs | hs <;> simp [hs]
  obtain ⟨outcome, committing, given, hc, hr, hg, rfl⟩ := h.parts
  have issuing : issued given = [] := by
    apply issued_of_stage
    intro e he
    simp [hg e he]
  unfold Balanced
  rw [unwaited, issued_append, issuing, hc.issued, hp]
  generalize outcome.result = given at hr
  cases hr with
  | shown outFence throughput => simp [afterFlip, Except.toOption]
  | refused e => simp [hp, Except.toOption]

theorem FinishRecord.balanced {p : Pipeline} {result : Except DisplayError Unit × Pipeline}
    {added : List Exchange} (h : p.FinishRecord result added) : p.Balanced result.2 added := by
  cases h with
  | idle hp => simp [Balanced, hp]
  | waited hp => simp [Balanced, hp, Exchange.issued?, Exchange.wait?]
  | failed cause hp => simp [Balanced, hp, Exchange.issued?, Exchange.wait?]

theorem Balanced.trans {p q p' : Pipeline} {added later : List Exchange} (h : p.Balanced q added)
    (hl : q.Balanced p' later) : p.Balanced p' (added ++ later) := by
  unfold Balanced at *
  rw [issued_append, waits_append, ← List.append_assoc, h, List.append_assoc, hl, List.map_append,
    List.append_assoc]

theorem balanced_of_quiet {p q : Pipeline} {added : List Exchange}
    (hp : q.pendingFlip = p.pendingFlip)
    (h : ∀ e ∈ added, e.stage ≠ .wait ∧ e.stage ≠ .commit) : p.Balanced q added := by
  have unwaited := waits_of_stage fun e he => (h e he).1
  have unissued := issued_of_stage fun e he => (h e he).2
  simp [Balanced, hp, unwaited, unissued]

theorem balanced_of_drawn {p : Pipeline} {result : Except DisplayError Drawn} {pool : BufferPool}
    {queued drawing : List Exchange} (hq : GpuWaitRecord p.pendingFlip queued)
    (hd : DrawRecord p.pool p.frame (result, pool) drawing) :
    p.Balanced { p with frame := p.frame + 1, pool } (queued ++ drawing) := by
  have begun := stage_of_drawn hq hd
  exact balanced_of_quiet rfl (by grind)

/-- At the submission of a frame, nothing is pending. -/
theorem FrameRecord.settled {p : Pipeline} {result : Except DisplayError Unit × Pipeline}
    {sofar later : List Exchange} {txn : Transaction} {answer : Except CallError (Option Fence)}
    (h : p.FrameRecord result (sofar ++ .submitted txn answer :: later)) :
    ∃ q, q.pendingFlip = none ∧ p.Balanced q sofar := by
  obtain ⟨pool, drawn, q, queued, drawing, waiting, begun, hq, hd, hw, hf, rfl⟩ :=
    h.at_commit rfl
  have idle : q.pendingFlip = none := congrArg Pipeline.pendingFlip hw.leaves
  have begunQuietly : q.Balanced q begun := by
    obtain ⟨hs, -, -⟩ := hf.at_submit
    cases hs with
    | flip => simp [Balanced]
    | modeset => simp [Balanced, Exchange.issued?, Exchange.wait?]
  rw [← List.append_assoc]
  exact ⟨q, idle, (balanced_of_drawn hq hd).trans (hw.balanced.trans begunQuietly)⟩

end Pipeline

theorem balanced_compositional : Compositional Pipeline.Balanced where
  trans := Pipeline.Balanced.trans
  idle _ _ h := Pipeline.balanced_of_quiet rfl (by grind)
  timed _ _ := Pipeline.balanced_of_quiet rfl (by simp)
  drawn := Pipeline.balanced_of_drawn
  finish hw := hw.balanced
  flip hp hf := hf.balanced hp

/-- Wherever a transaction is submitted, all that was pending or issued was waited for. -/
theorem Steps.settled {p p' : Pipeline} {before after : List Exchange} {txn : Transaction}
    {answer : Except CallError (Option Fence)}
    (h : Steps p (before ++ .submitted txn answer :: after) p') :
    ∃ q, q.pendingFlip = .none ∧ p.Balanced q before := by
  have hm := h.midFrame rfl rfl
  generalize he : Exchange.submitted txn answer = e at hm
  cases hm with
  | @intro start stop result past sofar later rest mark _ began hm _ hf _ =>
    subst he
    obtain ⟨q, idle, framed⟩ := hf.settled
    have called : start.Balanced start [mark] :=
      balanced_compositional.idle start (by simp [isMark_iff.mp hm])
    exact ⟨q, idle, (balanced_compositional.steps began).trans (called.trans framed)⟩

/-- Since setting up issues nothing, the flip that is pending is all that is outstanding. -/
theorem outstanding_of_balanced {p₀ p : Pipeline} {events : List Exchange}
    (h : p₀.Balanced p events) (hp : p₀.pendingFlip = none) :
    outstanding events = p.pendingFlip.toList := by
  have hb : issued events = (waits events).map Prod.fst ++ p.pendingFlip.toList := by
    simpa [Pipeline.Balanced, hp] using h
  have len : (waits events).length = ((waits events).map Prod.fst).length := by simp
  unfold outstanding
  rw [hb, len, List.drop_left]

end Scanout
