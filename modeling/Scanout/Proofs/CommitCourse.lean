import Scanout.Proofs.FenceCustody
import Scanout.Proofs.RequiredProperties

namespace Scanout

open Custody (held_give held_idle held_skip held_take held_trans)

/-- The device hands out the blobs of modes, and is told to destroy them. -/
def blobs : Custody UInt64 where
  taken?
    | .blobCreated _ (.ok blob) => some blob
    | _ => none
  given?
    | .blobDestroyed blob _ => some blob
    | _ => none

def Exchange.blobMode? : Exchange → Option Mode
  | blobCreated mode _ => some mode
  | _ => none

/-- The modes that a blob was asked for. -/
def blobModes (events : List Exchange) : List Mode :=
  events.filterMap Exchange.blobMode?

@[simp] theorem blobModes_nil : blobModes [] = [] := rfl

@[simp] theorem blobModes_cons (e : Exchange) (later : List Exchange) :
    blobModes (e :: later) = e.blobMode?.toList ++ blobModes later :=
  filterMap_cons_toList Exchange.blobMode? e later

@[simp] theorem blobModes_append (events later : List Exchange) :
    blobModes (events ++ later) = blobModes events ++ blobModes later :=
  List.filterMap_append

/-- How a commit goes, by the calls it takes and what they answer. -/
structure CommitCourse (topology : Topology) (tables : PropertyCache) (request : CommitRequest)
    (outcome : CommitOutcome) (events : List Exchange) : Prop where
  /-- A blob of the mode is asked for once if the mode is to be set, and else never. -/
  asked : blobModes events = if request.allowModeset then [topology.mode] else []
  /-- A blob that was made is destroyed once, and no other. -/
  destroyed : blobs.held [] events = some []
  destroyedLast : ∀ before blob answer after,
    events = before ++ .blobDestroyed blob answer :: after → after = []
  /-- What is submitted was built as requested, with the blob that was made before. -/
  built : ∀ before txn answer after, events = before ++ .submitted txn answer :: after →
    ∃ blob skipped, blobs.takenIn before = blob.toList ∧ Transaction.build topology tables
      ⟨request.framebuffer, blob, request.inFence, request.wantOutFence⟩ = .ok (txn, skipped)
  atMostOnce : events.countP (·.isSubmission) ≤ 1
  once : events.countP (·.isSubmission) = 1 ↔
    (∀ cause, .blobCreated topology.mode (.error cause) ∉ events) ∧
      tables.missing? request.allowModeset = none
  /-- The result is what the device answered, if it was called. -/
  answered : ∀ answer, outcome.result = answer.mapError .commitRejected ↔
    ∃ txn, .submitted txn answer ∈ events
  blobless : ∀ cause, outcome.result = .error (.modeBlobFailed cause) ↔
    .blobCreated topology.mode (.error cause) ∈ events
  lacking : ∀ object name, outcome.result = .error (.missingProperty object name) ↔
    (∀ cause, .blobCreated topology.mode (.error cause) ∉ events) ∧
      tables.missing? request.allowModeset = some (.missingProperty object name)
  failure : ∀ e, outcome.result = .error e → (∃ cause, e = .modeBlobFailed cause) ∨
    (∃ object name, e = .missingProperty object name) ∨ ∃ cause, e = .commitRejected cause
  kept : ∀ e, outcome.result = .error e →
    outcome.inFence = request.inFence ∧ fences.givenIn events = []
  handedOver : ∀ outFence, outcome.result = .ok outFence →
    outcome.inFence = none ∧ fences.givenIn events = request.inFence.toList
  /-- A fence is only closed when the device has accepted what it went along with. -/
  closedLate : ∀ before fence after, events = before ++ .closed fence :: after →
    ∃ txn outFence, .submitted txn (.ok outFence) ∈ before

variable {topology : Topology} {tables : PropertyCache} {request : CommitRequest}
  {outcome : CommitOutcome} {events : List Exchange} {blob : Option UInt64}

section Blobs

theorem SubmitRecord.blobs_idle (h : SubmitRecord topology tables request blob outcome events) :
    ∀ e ∈ events, blobs.Idle e ∧ e.blobMode? = none := by
  cases h with
  | unbuilt => simp
  | rejected => simp [Custody.Idle, blobs, Exchange.blobMode?]
  | accepted => cases request.inFence <;> simp [Custody.Idle, blobs, Exchange.blobMode?]

theorem SubmitRecord.asks_no_blob
    (h : SubmitRecord topology tables request blob outcome events) : blobModes events = [] :=
  List.filterMap_eq_nil_iff.mpr fun e he => (h.blobs_idle e he).2

theorem CommitRecord.asks_blob (h : CommitRecord topology tables request outcome events) :
    blobModes events = if request.allowModeset then [topology.mode] else [] := by
  cases h with
  | flip flips hs => simp [hs.asks_no_blob, flips]
  | blobless cause sets => simp [Exchange.blobMode?, sets]
  | modeset blob answer sets hs => simp [Exchange.blobMode?, hs.asks_no_blob, sets]

theorem CommitRecord.blobs_held (h : CommitRecord topology tables request outcome events) :
    blobs.held [] events = some [] := by
  cases h with
  | flip _ hs => exact held_idle fun e he => (hs.blobs_idle e he).1
  | blobless => rfl
  | modeset blob answer _ hs =>
    have submitting : blobs.held [blob] _ = some [blob] :=
      held_idle fun e he => (hs.blobs_idle e he).1
    exact held_take rfl rfl (held_trans submitting (held_give rfl rfl rfl))

theorem CommitRecord.destroys_last {before after : List Exchange} {blob : UInt64}
    {answer : Except CallError Unit} (h : CommitRecord topology tables request outcome
      (before ++ .blobDestroyed blob answer :: after)) : after = [] := by
  generalize he : before ++ .blobDestroyed blob answer :: after = events at h
  have undestroyed {created : Option UInt64} {core : List Exchange}
      (hs : SubmitRecord topology tables request created outcome core) :
      .blobDestroyed blob answer ∉ core := by
    intro hm
    simpa [Custody.Idle, blobs] using (hs.blobs_idle _ hm).1
  cases h with
  | flip _ hs => exact absurd (by simp [← he]) (undestroyed hs)
  | blobless =>
    have := split_head he.symm (by simp)
    simp at this
  | modeset created given _ hs =>
    obtain ⟨rest, rfl, ht⟩ := split_late (List.singleton_append.trans he.symm) (by simp)
    obtain ⟨last, rfl, hl⟩ := split_late ht (undestroyed hs)
    obtain ⟨-, -, rfl⟩ := split_head hl (by simp)
    rfl

end Blobs

theorem CommitRecord.built_with_blob {before after : List Exchange} {txn : Transaction}
    {answer : Except CallError (Option Fence)} (h : CommitRecord topology tables request outcome
      (before ++ .submitted txn answer :: after)) :
    ∃ blob skipped, blobs.takenIn before = blob.toList ∧ Transaction.build topology tables
      ⟨request.framebuffer, blob, request.inFence, request.wantOutFence⟩ = .ok (txn, skipped) := by
  obtain ⟨⟨-, rfl, skipped, built⟩ | ⟨-, blob, rfl, skipped, built⟩, -, -⟩ := h.at_submit
  · exact ⟨none, skipped, rfl, built⟩
  · exact ⟨some blob, skipped, rfl, built⟩

/-- The calls that make a blob and destroy it. -/
def Exchange.handlesBlob : Exchange → Bool
  | blobCreated _ (.ok _) | blobDestroyed _ _ => true
  | _ => false

/-- The in-fence is closed once it is handed over. -/
def handover (answer : Except CallError (Option Fence)) (inFence : Option Fence) : List Exchange :=
  if answer.isOk then inFence.toList.map .closed else []

/-- How a commit ends, given what is reported of an output that lacks a property: there is no blob,
or something is lacking, or the device gives its answer. -/
inductive CommitVerdict (mode : Mode) (missing : Option DisplayError) (inFence : Option Fence) :
    Except DisplayError (Option Fence) → List Exchange → Prop
  | blobless (cause : CallError) :
      CommitVerdict mode missing inFence (.error (.modeBlobFailed cause))
        [.blobCreated mode (.error cause)]
  | lacking {object : DisplayObject} {name : String} {around : List Exchange} :
      missing = some (.missingProperty object name) → (∀ e ∈ around, e.handlesBlob) →
      CommitVerdict mode missing inFence (.error (.missingProperty object name)) around
  | answered {txn : Transaction} (answer : Except CallError (Option Fence))
      {opening closing : List Exchange} : missing = none →
      (∀ e ∈ opening, e.handlesBlob) → (∀ e ∈ closing, e.handlesBlob) →
      CommitVerdict mode missing inFence (answer.mapError .commitRejected)
        (opening ++ .submitted txn answer :: (handover answer inFence ++ closing))

theorem SubmitRecord.verdict (h : SubmitRecord topology tables request blob outcome events)
    {opening closing : List Exchange} (before : ∀ e ∈ opening, e.handlesBlob)
    (after : ∀ e ∈ closing, e.handlesBlob) :
    CommitVerdict topology.mode (tables.missing? blob.isSome) request.inFence outcome.result
      (opening ++ (events ++ closing)) := by
  have missing := Transaction.errorOf_build topology tables
    ⟨request.framebuffer, blob, request.inFence, request.wantOutFence⟩
  cases h with
  | unbuilt failed =>
    rw [failed] at missing
    obtain ⟨object, name, rfl⟩ := PropertyCache.missing?_named missing.symm
    exact .lacking missing.symm (List.forall_mem_append.mpr ⟨before, after⟩)
  | @rejected txn _ cause built =>
    rw [built] at missing
    exact .answered (.error cause) missing.symm before after
  | @accepted txn _ outFence built =>
    rw [built] at missing
    exact .answered (.ok outFence) missing.symm before after

theorem CommitRecord.verdict (h : CommitRecord topology tables request outcome events) :
    CommitVerdict topology.mode (tables.missing? request.allowModeset) request.inFence
      outcome.result events := by
  cases h with
  | flip flips hs =>
    have nothing : ∀ e ∈ ([] : List Exchange), e.handlesBlob := by simp
    rw [flips]
    simpa using hs.verdict nothing nothing
  | blobless cause => exact .blobless cause
  | modeset blob answer sets hs =>
    have making : ∀ e ∈ [Exchange.blobCreated topology.mode (.ok blob)], e.handlesBlob := by
      simp [Exchange.handlesBlob]
    have destroying : ∀ e ∈ [Exchange.blobDestroyed blob answer], e.handlesBlob := by
      simp [Exchange.handlesBlob]
    rw [sets]
    exact hs.verdict making destroying

namespace CommitVerdict

variable {mode : Mode} {missing : Option DisplayError} {inFence : Option Fence}
  {result : Except DisplayError (Option Fence)}

theorem absent {around : List Exchange} (handling : ∀ e ∈ around, e.handlesBlob) {e : Exchange}
    (other : e.handlesBlob = false) : e ∉ around := by
  intro he
  simp [handling e he] at other

theorem countP_around {around : List Exchange} (handling : ∀ e ∈ around, e.handlesBlob) :
    around.countP (·.isSubmission) = 0 := by
  apply List.countP_eq_zero.mpr
  intro e he
  have handles := handling e he
  cases e <;> simp_all [Exchange.handlesBlob, Exchange.isSubmission]

theorem fences_around {around : List Exchange} (handling : ∀ e ∈ around, e.handlesBlob) :
    fences.givenIn around = [] := by
  apply List.filterMap_eq_nil_iff.mpr
  intro e he
  have handles := handling e he
  cases e <;> simp_all [Exchange.handlesBlob, fences]

theorem closed_of_handover {answer : Except CallError (Option Fence)} {e : Exchange}
    (he : e ∈ handover answer inFence) : ∃ fence, e = .closed fence := by
  unfold handover at he
  split at he
  · obtain ⟨fence, -, rfl⟩ := List.mem_map.mp he
    exact ⟨fence, rfl⟩
  · simp at he

/-- A call that is neither about a blob nor the closing of a fence is the submission. -/
theorem mem_answered {txn : Transaction} {answer : Except CallError (Option Fence)}
    {opening closing : List Exchange} (before : ∀ e ∈ opening, e.handlesBlob)
    (after : ∀ e ∈ closing, e.handlesBlob) {e : Exchange} (other : e.handlesBlob = false)
    (ungiven : fences.given? e = none) :
    e ∈ opening ++ .submitted txn answer :: (handover answer inFence ++ closing) ↔
      e = .submitted txn answer := by
  have unclosed : e ∉ handover answer inFence := by
    intro he
    obtain ⟨fence, rfl⟩ := closed_of_handover he
    simp [fences] at ungiven
  simp [absent before other, absent after other, unclosed]

theorem countP_answered {txn : Transaction} {answer : Except CallError (Option Fence)}
    {opening closing : List Exchange} (before : ∀ e ∈ opening, e.handlesBlob)
    (after : ∀ e ∈ closing, e.handlesBlob) :
    (opening ++ .submitted txn answer :: (handover answer inFence ++ closing)).countP
      (·.isSubmission) = 1 := by
  have unsubmitting : (handover answer inFence).countP (·.isSubmission) = 0 := by
    apply List.countP_eq_zero.mpr
    intro e he
    obtain ⟨fence, rfl⟩ := closed_of_handover he
    simp [Exchange.isSubmission]
  have submits : (Exchange.submitted txn answer).isSubmission := rfl
  simp [countP_around before, countP_around after, unsubmitting, submits]

theorem blobless_iff (h : CommitVerdict mode missing inFence result events) (cause : CallError) :
    result = .error (.modeBlobFailed cause) ↔ .blobCreated mode (.error cause) ∈ events := by
  cases h with
  | blobless failed => simp [eq_comm]
  | lacking lacks handling =>
    have untried : Exchange.blobCreated mode (.error cause) ∉ events := absent handling rfl
    simp [untried]
  | @answered txn answer _ _ complete before after =>
    rw [mem_answered before after rfl rfl]
    cases answer <;> simp [Except.mapError]

theorem answered_iff (h : CommitVerdict mode missing inFence result events)
    (answer : Except CallError (Option Fence)) :
    result = answer.mapError .commitRejected ↔ ∃ txn, .submitted txn answer ∈ events := by
  cases h with
  | blobless failed => cases answer <;> simp [Except.mapError]
  | lacking lacks handling =>
    have unsubmitted (txn : Transaction) : Exchange.submitted txn answer ∉ events :=
      absent handling rfl
    cases answer <;> simp [Except.mapError, unsubmitted]
  | @answered txn given opening closing complete before after =>
    have only (other : Transaction) : .submitted other answer ∈
        opening ++ .submitted txn given :: (handover given inFence ++ closing) ↔
          Exchange.submitted other answer = .submitted txn given :=
      mem_answered before after rfl rfl
    simp only [only]
    cases given <;> cases answer <;> simp [Except.mapError, eq_comm]

theorem no_blob_failed (h : CommitVerdict mode missing inFence result events)
    (blobbed : ∀ cause, result ≠ .error (.modeBlobFailed cause)) (cause : CallError) :
    .blobCreated mode (.error cause) ∉ events :=
  fun he => blobbed cause ((h.blobless_iff cause).mpr he)

theorem lacking_iff (h : CommitVerdict mode missing inFence result events)
    (object : DisplayObject) (name : String) :
    result = .error (.missingProperty object name) ↔
      (∀ cause, .blobCreated mode (.error cause) ∉ events) ∧
        missing = some (.missingProperty object name) := by
  have tried := h.no_blob_failed
  cases h with
  | blobless failed => simp
  | lacking lacks handling => simp_all
  | @answered txn answer _ _ complete before after =>
    cases answer <;> simp [Except.mapError, complete]

theorem once_iff (h : CommitVerdict mode missing inFence result events) :
    events.countP (·.isSubmission) = 1 ↔
      (∀ cause, .blobCreated mode (.error cause) ∉ events) ∧ missing = none := by
  have tried := h.no_blob_failed
  cases h with
  | blobless failed => simp [Exchange.isSubmission]
  | lacking lacks handling => simp [countP_around handling, lacks]
  | @answered txn answer _ _ complete before after =>
    have blobbed (cause : CallError) : answer.mapError DisplayError.commitRejected ≠
        .error (.modeBlobFailed cause) := by
      cases answer <;> simp [Except.mapError]
    simp only [countP_answered before after, complete, and_true, true_iff]
    exact tried blobbed

theorem at_most_once (h : CommitVerdict mode missing inFence result events) :
    events.countP (·.isSubmission) ≤ 1 := by
  cases h with
  | blobless failed => simp [Exchange.isSubmission]
  | lacking lacks handling => simp [countP_around handling]
  | answered answer complete before after => exact (countP_answered before after).le

theorem failure (h : CommitVerdict mode missing inFence result events) {e : DisplayError}
    (failed : result = .error e) : (∃ cause, e = .modeBlobFailed cause) ∨
      (∃ object name, e = .missingProperty object name) ∨ ∃ cause, e = .commitRejected cause := by
  cases h with
  | blobless cause => exact .inl ⟨cause, by simpa using failed.symm⟩
  | @lacking object name => exact .inr (.inl ⟨object, name, by simpa using failed.symm⟩)
  | @answered txn answer =>
    cases answer with
    | ok => simp [Except.mapError] at failed
    | error cause => exact .inr (.inr ⟨cause, by simpa [Except.mapError] using failed.symm⟩)

theorem fences_given (h : CommitVerdict mode missing inFence result events) :
    fences.givenIn events = if result.isOk then inFence.toList else [] := by
  cases h with
  | blobless failed => rfl
  | lacking lacks handling => simp [fences_around handling, Except.isOk, Except.toBool]
  | @answered txn answer _ _ complete before after =>
    have submission : fences.given? (.submitted txn answer) = none := rfl
    have closing : fences.givenIn (handover answer inFence) =
        if answer.isOk then inFence.toList else [] := by
      cases answer <;> cases inFence <;> rfl
    have same : (answer.mapError DisplayError.commitRejected).isOk = answer.isOk := by
      cases answer <;> rfl
    simp [fences_around before, fences_around after, submission, closing, same]

theorem closed_late {before after : List Exchange} {fence : Fence}
    (h : CommitVerdict mode missing inFence result (before ++ .closed fence :: after)) :
    ∃ txn outFence, .submitted txn (.ok outFence) ∈ before := by
  generalize he : before ++ .closed fence :: after = events at h
  have closes : .closed fence ∈ events := by simp [← he]
  cases h with
  | blobless failed => simp at closes
  | lacking lacks handling => exact absurd closes (absent handling rfl)
  | @answered txn answer opening closing complete opens closed =>
    obtain ⟨rest, rfl, ht⟩ := split_late he.symm (absent opens rfl)
    obtain ⟨later, rfl, hl⟩ := split_late (List.singleton_append.trans ht) (by simp)
    cases answer with
    | ok outFence => exact ⟨txn, outFence, by simp⟩
    | error cause =>
      have unclosed : .closed fence ∉ closing := absent closed rfl
      simp [handover, Except.isOk, Except.toBool] at hl
      simp [hl] at unclosed

end CommitVerdict

section Course

variable {σ : Type} [World σ] (device : Device σ)

theorem CommitRecord.course (h : CommitRecord topology tables request outcome events) :
    CommitCourse topology tables request outcome events := by
  have verdict := h.verdict
  have inFence := h.inFence
  exact {
    asked := h.asks_blob
    destroyed := h.blobs_held
    destroyedLast := by
      rintro before blob answer after rfl
      exact h.destroys_last
    built := by
      rintro before txn answer after rfl
      exact h.built_with_blob
    atMostOnce := verdict.at_most_once
    once := verdict.once_iff
    answered := verdict.answered_iff
    blobless := verdict.blobless_iff
    lacking := verdict.lacking_iff
    failure := fun e failed => verdict.failure failed
    kept := by
      intro e failed
      have given := verdict.fences_given
      rw [failed] at inFence given
      exact ⟨inFence, given⟩
    handedOver := by
      intro outFence succeeded
      have given := verdict.fences_given
      rw [succeeded] at inFence given
      exact ⟨inFence, given⟩
    closedLate := by
      rintro before fence after rfl
      exact verdict.closed_late }

end Course

end Scanout
