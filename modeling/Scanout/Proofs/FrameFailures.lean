import Scanout.Proofs.HistoryCourse
import Scanout.Proofs.Modeset
import Scanout.Proofs.RequiredProperties

namespace Scanout

/-- The errors of a frame that is given up before its transaction is built. -/
def DisplayError.precedesBuild : DisplayError → Bool
  | frontBufferUnavailable _ | framebufferCreateFailed _ | renderFailed _ | fenceWait _
  | modeBlobFailed _ => true
  | _ => false

/-- The errors of a frame that is given up before the pending flip is waited for. -/
def DisplayError.precedesWait : DisplayError → Bool
  | frontBufferUnavailable _ | framebufferCreateFailed _ | renderFailed _ => true
  | _ => false

theorem DisplayError.precedesBuild_of_precedesWait {e : DisplayError} (h : e.precedesWait = true) :
    e.precedesBuild = true := by
  cases e <;> simp_all [precedesWait, precedesBuild]

/-- What becomes of a frame, given what is reported of an output that lacks a property: it fails
with that unless it fails before, and submits nothing. If nothing is lacking, it is not given up
when its transaction is built. -/
inductive Fares {α : Type} : Option DisplayError → Except DisplayError α → List Exchange → Prop
  | lacking {missing e : DisplayError} {events : List Exchange} :
      e = missing ∨ e.precedesBuild = true → (∀ x ∈ events, x.isSubmission = false) →
      Fares (some missing) (.error e) events
  | complete {result : Except DisplayError α} {events : List Exchange} :
      (∀ e, result = .error e → e.precedesBuild = true ∨ ∃ cause, e = .commitRejected cause) →
      Fares none result events

namespace Fares

variable {α : Type} {missing : Option DisplayError} {result : Except DisplayError α}
  {events : List Exchange}

theorem early {e : DisplayError} (he : e.precedesBuild = true)
    (quiet : ∀ x ∈ events, x.isSubmission = false) :
    Fares (α := α) missing (.error e) events := by
  cases missing with
  | none =>
    refine .complete ?_
    rintro _ ⟨⟩
    exact .inl he
  | some missing => exact .lacking (.inr he) quiet

theorem between (before after : List Exchange) (h : Fares missing result events)
    (hb : ∀ x ∈ before, x.isSubmission = false)
    (ha : ∀ x ∈ after, x.isSubmission = false) :
    Fares missing result (before ++ (events ++ after)) := by
  cases h with
  | lacking he quiet =>
    refine .lacking he ?_
    simp only [List.forall_mem_append]
    exact ⟨hb, quiet, ha⟩
  | complete he => exact .complete he

end Fares

variable {topology : Topology} {tables : PropertyCache} {request : CommitRequest}
  {outcome : CommitOutcome} {added : List Exchange}

theorem SubmitRecord.fares {blob : Option UInt64}
    (h : SubmitRecord topology tables request blob outcome added) :
    Fares (tables.missing? blob.isSome) outcome.result added := by
  have built := Transaction.errorOf_build topology tables
    ⟨request.framebuffer, blob, request.inFence, request.wantOutFence⟩
  dsimp only at built
  rw [← built]
  cases h with
  | unbuilt hb =>
    rw [hb]
    exact .lacking (.inl rfl) (by simp)
  | rejected cause hb =>
    rw [hb]
    refine .complete ?_
    rintro _ ⟨⟩
    exact .inr ⟨cause, rfl⟩
  | accepted outFence hb =>
    rw [hb]
    exact .complete (by simp)

theorem CommitRecord.fares (h : CommitRecord topology tables request outcome added) :
    Fares (tables.missing? request.allowModeset) outcome.result added := by
  cases h with
  | flip hm hs =>
    rw [hm]
    exact hs.fares
  | blobless cause => exact .early rfl (by simp [Exchange.isSubmission])
  | modeset blob answer hm hs =>
    rw [hm]
    exact hs.fares.between [_] _ (by simp [Exchange.isSubmission]) (by simp [Exchange.isSubmission])

/-- A commit fails after the pending flip was waited for. -/
theorem SubmitRecord.fails_late {blob : Option UInt64} {e : DisplayError} {inFence : Option Fence}
    (h : SubmitRecord topology tables request blob ⟨.error e, inFence⟩ added) :
    e.precedesWait = false := by
  cases h with
  | unbuilt hb =>
    have lacking := errorOf_eq_some.mpr hb
    rw [Transaction.errorOf_build] at lacking
    obtain ⟨object, name, rfl⟩ := PropertyCache.missing?_named lacking
    rfl
  | rejected => rfl

theorem CommitRecord.fails_late {e : DisplayError} {inFence : Option Fence}
    (h : CommitRecord topology tables request ⟨.error e, inFence⟩ added) :
    e.precedesWait = false := by
  cases h with
  | flip _ hs => exact hs.fails_late
  | blobless => rfl
  | modeset _ _ _ hs => exact hs.fails_late

theorem FramebufferRecord.fails_early {layout : Layout} {e : DisplayError}
    (h : FramebufferRecord layout (.error e) added) : e.precedesWait = true := by
  have refused {answer : Except CallError FramebufferId}
      (he : answer.mapError .framebufferCreateFailed = .error e) : e.precedesWait = true := by
    cases answer with
    | ok framebuffer => cases he
    | error cause =>
      obtain rfl := Except.error.inj he
      rfl
  generalize hr : (Except.error e : Except DisplayError FramebufferId) = result at h
  cases h with
  | explicit => cases hr
  | legacy => exact refused hr.symm
  | fellBack => exact refused hr.symm

theorem BufferPool.EnsureRecord.fails_early {pool pool' : BufferPool} {index : Nat}
    {entry : PoolEntry} {buffer : Buffer} {e : DisplayError}
    (h : pool.EnsureRecord index entry buffer (.error e, pool') added) :
    e.precedesWait = true := by
  cases h with
  | failed _ hf => exact hf.fails_early

namespace Pipeline

/-- What is reported of a display path that lacks a property its next frame needs. -/
def lacks? (p : Pipeline) : Option DisplayError :=
  p.tables.missing? p.allowModeset

variable {p q : Pipeline}

theorem FinishRecord.fails_waiting {e : DisplayError} (h : p.FinishRecord (.error e, q) added) :
    ∃ cause, e = .fenceWait cause := by
  cases h with
  | failed cause => exact ⟨cause, rfl⟩

theorem DrawRecord.fails_early {pool pool' : BufferPool} {frame : Nat} {e : DisplayError}
    (h : DrawRecord pool frame (.error e, pool') added) : e.precedesWait = true := by
  cases h with
  | slotEmpty => rfl
  | slotUndrawn => rfl
  | slotUnframed _ _ _ _ he => exact he.fails_early
  | surfaceUndrawn => rfl
  | surfaceUnlocked => rfl
  | surfaceUnframed _ _ _ he => exact he.fails_early

theorem ConcludedBy.fares {missing : Option DisplayError} {drawn : Drawn}
    {committed : Except DisplayError (Option Fence)} {result : Except DisplayError Unit × Pipeline}
    (hr : p.ConcludedBy drawn committed result) (h : Fares missing committed added) :
    Fares missing result.1 added := by
  cases hr with
  | shown =>
    cases h with
    | complete => exact .complete (by simp)
  | refused e =>
    cases h with
    | lacking he quiet => exact .lacking he quiet
    | complete he =>
      refine .complete ?_
      rintro _ ⟨⟩
      exact he e rfl

theorem FlipRecord.fares {frame : Nat} {drawn : Drawn}
    {result : Except DisplayError Unit × Pipeline} (h : p.FlipRecord frame drawn result added) :
    Fares p.lacks? result.1 added := by
  obtain ⟨outcome, committing, given, hc, hr, back, rfl⟩ := h.parts
  have quiet : ∀ x ∈ given, x.isSubmission = false :=
    fun x hx => not_submission_of_stage (by simp [back x hx])
  exact hr.fares (hc.fares.between [] given (by simp) quiet)

theorem FrameRecord.fares {result : Except DisplayError Unit × Pipeline}
    (h : p.FrameRecord result added) : Fares p.lacks? result.1 added := by
  cases h with
  | undrawn hq hd =>
    have begun := stage_of_drawn hq hd
    have early := DisplayError.precedesBuild_of_precedesWait hd.fails_early
    refine .early early fun x hx => not_submission_of_stage ?_
    grind
  | unwaited hq hd hw =>
    have uncommitted := not_commit_of_waited hq hd hw
    obtain ⟨cause, rfl⟩ := hw.fails_waiting
    refine .early rfl fun x hx => not_submission_of_stage ?_
    grind [Exchange.stage]
  | @committed pool drawn q result queued drawing waiting flipping hq hd hw hf =>
    have quiet : ∀ x ∈ queued ++ (drawing ++ waiting), x.isSubmission = false :=
      fun x hx => not_submission_of_stage (not_commit_of_waited hq hd hw x hx)
    have same : q.lacks? = p.lacks? := by rw [show q = _ from hw.leaves]; rfl
    have fares := hf.fares.between _ [] quiet (by simp)
    rw [same] at fares
    simpa using fares

/-- What a display path lacks for its frames stays the same: only after a frame that lacked nothing
is less needed, the mode being set. -/
theorem FrameRecord.lacks? {result : Except DisplayError Unit × Pipeline}
    (h : p.FrameRecord result added) : result.2.lacks? = p.lacks? := by
  have tables : result.2.tables = p.tables := (sameOutput_compositional.frame h).tables
  have modeset : result.2.allowModeset = (p.allowModeset && (accepted added).isEmpty) :=
    modesetBy_compositional.frame h
  have fares := h.fares
  unfold Pipeline.lacks? at *
  rw [tables, modeset]
  generalize hm : p.tables.missing? p.allowModeset = missing at fares ⊢
  generalize result.1 = outcome at fares
  cases fares with
  | lacking _ quiet => simpa [accepted_of_no_submission quiet] using hm
  | complete =>
    -- A mere flip needs only what a modeset needs too.
    cases (accepted added).isEmpty with
    | true => simpa using hm
    | false => simpa using PropertyCache.missing?_flip hm

end Pipeline

end Scanout
