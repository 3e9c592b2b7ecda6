import Scanout.Proofs.Stages

namespace Scanout

def Exchange.isSubmission : Exchange → Bool
  | submitted _ _ => true
  | _ => false

/-- The transactions that were submitted and accepted. -/
def Exchange.accepted? : Exchange → Option Transaction
  | submitted txn (.ok _) => some txn
  | _ => none

/-- The transactions that were accepted, in their order. -/
def accepted (events : List Exchange) : List Transaction :=
  events.filterMap Exchange.accepted?

@[simp] theorem accepted_nil : accepted [] = [] := rfl

@[simp] theorem accepted_cons (e : Exchange) (later : List Exchange) :
    accepted (e :: later) = e.accepted?.toList ++ accepted later := by
  cases he : e.accepted? <;> simp [accepted, he]

@[simp] theorem accepted_append (events later : List Exchange) :
    accepted (events ++ later) = accepted events ++ accepted later :=
  List.filterMap_append

theorem not_submission_of_stage {e : Exchange} (h : e.stage ≠ .commit) :
    e.isSubmission = false := by
  cases e <;> simp_all [Exchange.isSubmission, Exchange.stage]

theorem accepted_of_no_submission {events : List Exchange}
    (h : ∀ e ∈ events, e.isSubmission = false) : accepted events = [] := by
  apply List.filterMap_eq_nil_iff.mpr
  intro e he
  have hs := h e he
  cases e <;> simp_all [Exchange.isSubmission, Exchange.accepted?]

theorem accepted_of_stage {events : List Exchange} (h : ∀ e ∈ events, e.stage ≠ .commit) :
    accepted events = [] :=
  accepted_of_no_submission fun e he => not_submission_of_stage (h e he)

theorem accepted_of_setUp {events : List Exchange} (h : ∀ e ∈ events, e.isSetUp = true) :
    accepted events = [] := by
  apply accepted_of_stage
  intro e he
  rcases stage_of_isSetUp (h e he) with stage | stage <;> simp [stage]

theorem accepted?_of_isMark {e : Exchange} (h : e.isMark = true) : e.accepted? = none := by
  cases e <;> simp_all [Exchange.isMark, Exchange.accepted?]

theorem submitted_of_accepted? {e : Exchange} {txn : Transaction} (h : e.accepted? = some txn) :
    ∃ outFence, e = .submitted txn (.ok outFence) := by
  unfold Exchange.accepted? at h
  split at h
  next outFence =>
    cases Option.some.inj h
    exact ⟨outFence, rfl⟩
  next => simp at h

/-- A commit gets a transaction accepted if it succeeds, and only then. -/
theorem SubmitRecord.accepted_isEmpty {topology : Topology} {tables : PropertyCache}
    {request : CommitRequest} {blob : Option UInt64} {outcome : CommitOutcome}
    {added : List Exchange} (h : SubmitRecord topology tables request blob outcome added) :
    (Scanout.accepted added).isEmpty = !outcome.result.isOk := by
  cases h <;> simp [Exchange.accepted?, Except.isOk, Except.toBool]

theorem CommitRecord.accepted_isEmpty {topology : Topology} {tables : PropertyCache}
    {request : CommitRequest} {outcome : CommitOutcome} {added : List Exchange}
    (h : CommitRecord topology tables request outcome added) :
    (Scanout.accepted added).isEmpty = !outcome.result.isOk := by
  cases h with
  | flip _ hs => exact hs.accepted_isEmpty
  | blobless => rfl
  | modeset blob answer _ hs => simp [Exchange.accepted?, hs.accepted_isEmpty]

namespace Pipeline

/-- How a drawn frame comes to its submission: what was done for the commit before, and what is
submitted. -/
inductive SubmittedAs (p : Pipeline) (drawn : Drawn) (txn : Transaction) : List Exchange → Prop
  | flip {skipped : List SkippedProperty} : p.allowModeset = false →
      Transaction.build p.topology p.tables ⟨drawn.framebuffer, none, some drawn.fence, true⟩ =
        .ok (txn, skipped) →
      SubmittedAs p drawn txn []
  | modeset {skipped : List SkippedProperty} (blob : UInt64) : p.allowModeset = true →
      Transaction.build p.topology p.tables
        ⟨drawn.framebuffer, some blob, some drawn.fence, true⟩ = .ok (txn, skipped) →
      SubmittedAs p drawn txn [.blobCreated p.topology.mode (.ok blob)]

theorem SubmittedAs.nothing_accepted {p : Pipeline} {drawn : Drawn} {txn : Transaction}
    {begun : List Exchange} (h : p.SubmittedAs drawn txn begun) : accepted begun = [] := by
  cases h <;> rfl

end Pipeline

variable {topology : Topology} {tables : PropertyCache} {request : CommitRequest}
  {begun later added : List Exchange} {txn : Transaction}
  {answer : Except CallError (Option Fence)}

theorem SubmitRecord.at_submit {blob : Option UInt64} {outcome : CommitOutcome}
    (h : SubmitRecord topology tables request blob outcome
      (begun ++ .submitted txn answer :: later)) :
    begun = [] ∧ (∃ skipped, Transaction.build topology tables
        ⟨request.framebuffer, blob, request.inFence, request.wantOutFence⟩ = .ok (txn, skipped)) ∧
      outcome.result = answer.mapError .commitRejected ∧
      ∀ e ∈ later, e.isSubmission = false := by
  generalize ha : begun ++ .submitted txn answer :: later = added at h
  cases h with
  | unbuilt => simp at ha
  | rejected cause hb =>
    obtain ⟨rfl, he, rfl⟩ := split_head ha.symm (by simp)
    obtain ⟨rfl, rfl⟩ := by simpa using he
    exact ⟨rfl, ⟨_, hb⟩, rfl, by simp⟩
  | accepted outFence hb =>
    obtain ⟨rfl, he, rfl⟩ := split_head ha.symm (by simp)
    obtain ⟨rfl, rfl⟩ := by simpa using he
    exact ⟨rfl, ⟨_, hb⟩, rfl, by simp [Exchange.isSubmission]⟩

/-- What the commit of a frame submits. The mode blob comes first if the mode is to be set. -/
theorem CommitRecord.at_submit {outcome : CommitOutcome}
    (h : CommitRecord topology tables request outcome (begun ++ .submitted txn answer :: later)) :
    ((request.allowModeset = false ∧ begun = [] ∧ ∃ skipped, Transaction.build topology tables
        ⟨request.framebuffer, none, request.inFence, request.wantOutFence⟩ = .ok (txn, skipped)) ∨
      (request.allowModeset = true ∧ ∃ blob, begun = [.blobCreated topology.mode (.ok blob)] ∧
        ∃ skipped, Transaction.build topology tables
          ⟨request.framebuffer, some blob, request.inFence, request.wantOutFence⟩ =
            .ok (txn, skipped))) ∧
      outcome.result = answer.mapError .commitRejected ∧
      ∀ e ∈ later, e.isSubmission = false := by
  generalize ha : begun ++ .submitted txn answer :: later = added at h
  cases h with
  | flip hm hs =>
    subst ha
    obtain ⟨rfl, hb, ho, hl⟩ := hs.at_submit
    exact ⟨.inl ⟨hm, rfl, hb⟩, ho, hl⟩
  | blobless cause =>
    have := split_head ha.symm (by simp)
    simp at this
  | modeset blob given hm hs =>
    have late := split_late (List.singleton_append.trans ha.symm) (by simp)
    obtain ⟨tail, rfl, ht⟩ := late
    obtain ⟨rest, rfl, rfl⟩ := split_early ht (by simp)
    obtain ⟨rfl, hb, ho, hl⟩ := hs.at_submit
    refine ⟨.inr ⟨hm, blob, rfl, hb⟩, ho, ?_⟩
    intro e he
    rcases List.mem_append.mp he with he | he
    · exact hl e he
    · rw [List.mem_singleton.mp he]
      rfl

namespace Pipeline

theorem SubmittedAs.of_commit {p : Pipeline} {frame : Nat} {drawn : Drawn} {outcome : CommitOutcome}
    (h : CommitRecord p.topology p.tables (p.commitRequest frame drawn) outcome
      (begun ++ .submitted txn answer :: later)) : p.SubmittedAs drawn txn begun := by
  obtain ⟨⟨hm, rfl, skipped, hb⟩ | ⟨hm, blob, rfl, skipped, hb⟩, -, -⟩ := h.at_submit
  · exact .flip hm hb
  · exact .modeset blob hm hb

/-- What a frame submits, and what its answer makes of the frame. No other submission follows. -/
theorem FlipRecord.at_submit {p : Pipeline} {frame : Nat} {drawn : Drawn}
    {result : Except DisplayError Unit × Pipeline}
    (h : p.FlipRecord frame drawn result (begun ++ .submitted txn answer :: later)) :
    p.SubmittedAs drawn txn begun ∧
      p.ConcludedBy drawn (answer.mapError .commitRejected) result ∧
      ∀ e ∈ later, e.isSubmission = false := by
  obtain ⟨outcome, committing, given, hc, hr, hg, ha⟩ := h.parts
  have notGiven : .submitted txn answer ∉ given := by
    intro hm
    simpa [Exchange.stage] using hg _ hm
  obtain ⟨rest, rfl, rfl⟩ := split_early ha.symm notGiven
  obtain ⟨-, ho, hl⟩ := hc.at_submit
  refine ⟨.of_commit hc, ho ▸ hr, ?_⟩
  intro e he
  rcases List.mem_append.mp he with he | he
  · exact hl e he
  · exact not_submission_of_stage (by simp [hg e he])

end Pipeline

end Scanout
