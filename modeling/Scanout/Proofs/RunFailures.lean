import Scanout.Proofs.FrameFailures
import Scanout.Proofs.RunTally

namespace Scanout

/-- The errors of a frame that end a run. All others cost it the frame only. -/
def DisplayError.EndsRun (e : DisplayError) : Prop :=
  (∃ cause, e = .fenceWait cause) ∨ ∃ object name, e = .missingProperty object name

/-- How a run ends that tries some frames: refused before the first, with the error of the last, by
its budget or by an interruption and the wait after it, or left off. -/
inductive RunVerdict (budget : Option Nat) (frames : List Attempt) (events : List Exchange) :
    Option (Except DisplayError Nat) → Prop
  | refused (reason : String) : frames = [] → events = [] →
      RunVerdict budget frames events (some (.error (.fenceUnsupported reason)))
  | failed {before : List Attempt} {last : Attempt} {e : DisplayError} :
      frames = before ++ [last] → last.result = .error e → e.EndsRun →
      (∀ a ∈ before, ∀ e, a.result = .error e → ¬e.EndsRun) →
      RunVerdict budget frames events (some (.error e))
  | stopped {result : Except DisplayError Nat} :
      budget = some frames.length ∨ polls events = List.replicate frames.length false ++ [true] →
      (∀ a ∈ frames, ∀ e, a.result = .error e → ¬e.EndsRun) →
      (∀ e, result = .error e → ∃ cause, e = .fenceWait cause) →
      RunVerdict budget frames events (some result)
  | leftOff : (∀ b ∈ budget, frames.length < b) →
      (∀ a ∈ frames, ∀ e, a.result = .error e → ¬e.EndsRun) →
      RunVerdict budget frames events none

theorem not_endsRun_of_isPerFrame {e : DisplayError} (h : e.isPerFrame = true) : ¬e.EndsRun := by
  rintro (⟨cause, rfl⟩ | ⟨object, name, rfl⟩) <;> simp [DisplayError.isPerFrame] at h

namespace Pipeline

variable {p q : Pipeline} {added : List Exchange}

/-- A frame that fails ends a run, or costs it the frame. -/
theorem FrameRecord.endsRun {e : DisplayError} (h : p.FrameRecord (.error e, q) added)
    (fatal : e.isPerFrame = false) : e.EndsRun := by
  have fares := h.fares
  have early (he : e.precedesBuild = true) : e.EndsRun := by
    cases e with
    | fenceWait cause => exact .inl ⟨cause, rfl⟩
    | frontBufferUnavailable | framebufferCreateFailed | renderFailed | modeBlobFailed =>
      simp [DisplayError.isPerFrame] at fatal
    | _ => simp [DisplayError.precedesBuild] at he
  generalize hm : p.lacks? = missing at fares
  generalize hr : (Except.error e : Except DisplayError Unit) = result at fares
  cases fares with
  | lacking he =>
    obtain rfl := Except.error.inj hr
    rcases he with rfl | he
    · exact .inr (PropertyCache.missing?_named hm)
    · exact early he
  | complete he =>
    rcases he e hr.symm with he | ⟨cause, rfl⟩
    · exact early he
    · simp [DisplayError.isPerFrame] at fatal

theorem fenceUnsupported_of_checkFences {σ : Type} {renderer : Renderer σ} {e : DisplayError}
    (h : p.checkFences renderer = .error e) : ∃ reason, e = .fenceUnsupported reason := by
  unfold checkFences at h
  split at h
  next reason _ => exact ⟨reason, (Except.error.inj h).symm⟩
  next => cases h

/-- That a stretch of a history has such frames: they fare as it goes with what is lacking, which
stays the same, and nothing is submitted but in them. -/
structure Faring (p q : Pipeline) (frames : List Attempt) (events : List Exchange) : Prop where
  lacks : q.lacks? = p.lacks?
  fares : ∀ a ∈ frames, Fares p.lacks? a.result a.events
  submits : ∀ x ∈ events, x.isSubmission = true → ∃ a ∈ frames, x ∈ a.events

theorem faring_idle (same : q.lacks? = p.lacks?) (quiet : ∀ x ∈ added, x.isSubmission = false) :
    p.Faring q [] added :=
  ⟨same, by simp, fun x hx hs => by simp [quiet x hx] at hs⟩

theorem Faring.trans {p' : Pipeline} {frames later : List Attempt} {more : List Exchange}
    (h : p.Faring q frames added) (hl : q.Faring p' later more) :
    p.Faring p' (frames ++ later) (added ++ more) := by
  refine ⟨hl.lacks.trans h.lacks, ?_, ?_⟩
  · refine List.forall_mem_append.mpr ⟨h.fares, ?_⟩
    rw [← h.lacks]
    exact hl.fares
  · intro x hx hs
    rcases List.mem_append.mp hx with hx | hx
    · obtain ⟨a, ha, hm⟩ := h.submits x hx hs
      exact ⟨a, List.mem_append_left later ha, hm⟩
    · obtain ⟨a, ha, hm⟩ := hl.submits x hx hs
      exact ⟨a, List.mem_append_right frames ha, hm⟩

theorem FrameRecord.faring {result : Except DisplayError Unit}
    (h : p.FrameRecord (result, q) added) :
    p.Faring q [⟨result, added⟩] added :=
  ⟨h.lacks?, by simpa using h.fares, fun x hx _ => ⟨_, List.mem_singleton_self _, hx⟩⟩

theorem FinishRecord.faring {result : Except DisplayError Unit × Pipeline}
    (h : p.FinishRecord result added) : p.Faring result.2 [] added := by
  refine faring_idle (by rw [h.leaves]; rfl) fun x hx => not_submission_of_stage ?_
  rcases h.stage x hx with hs | hs <;> simp [hs]

theorem FramesRecord.faring {frames : List Attempt} (h : FramesRecord p frames q) :
    p.Faring q frames (frames.flatMap Attempt.asked) := by
  induction h with
  | none => exact faring_idle rfl (by simp)
  | @more p q p' a later hf _ ih =>
    have asked : p.Faring p [] [.polled false] := faring_idle rfl (by simp [Exchange.isSubmission])
    exact (asked.trans hf.faring).trans ih

variable {σ : Type} [World σ] {c : Collaborators σ} {interrupted : Act σ Bool}
  {budget : Option Nat} {r s : Recorded σ} {frames : List Attempt}

theorem LoopCourse.faring {stop : LoopEnd}
    (h : LoopCourse c interrupted budget p r stop frames q s) :
    ∃ added, s.transcript = r.transcript ++ added ∧ p.Faring q frames added := by
  obtain ⟨closing, asked, added, hl⟩ := h.record
  have quiet : q.Faring q [] closing := by
    refine faring_idle rfl ?_
    rcases asked with rfl | rfl <;> simp [Exchange.isSubmission]
  have all := hl.faring.trans quiet
  rw [List.append_nil] at all
  exact ⟨_, added, all⟩

theorem LoopCourse.faring_timed {stop : LoopEnd} {time : Nat} {begun : Recorded σ}
    (clock : now r = (time, begun))
    (h : LoopCourse c interrupted budget { p with throughput := .begin time } begun stop frames
      q s) :
    ∃ added, s.transcript = r.transcript ++ added ∧ p.Faring q frames added := by
  obtain ⟨added, looped, hl⟩ := h.faring
  exact ⟨added, by rw [looped, now_transcript clock], hl.lacks, hl.fares, hl.submits⟩

theorem Faring.finished {q' : Pipeline} {s' : Recorded σ} {result : Except DisplayError Unit}
    (h : ∃ added, s.transcript = r.transcript ++ added ∧ p.Faring q frames added)
    (finishing : finish c.waiter.recorded q s = ((result, q'), s')) :
    ∃ added, s'.transcript = r.transcript ++ added ∧ p.Faring q' frames added := by
  obtain ⟨added, sofar, hl⟩ := h
  obtain ⟨waiting, ended, hw⟩ := (records_finish c.waiter q).ended finishing
  have all := hl.trans hw.faring
  rw [List.append_nil] at all
  exact ⟨added ++ waiting, by rw [ended, sofar, List.append_assoc], all⟩

theorem RunCourse.faring {result : Option (Except DisplayError Nat)}
    (h : p.RunCourse c interrupted budget r result frames q s) :
    ∃ added, s.transcript = r.transcript ++ added ∧ p.Faring q frames added := by
  cases h with
  | refused => exact ⟨[], by simp, faring_idle rfl (by simp)⟩
  | unfinished _ clock course => exact course.faring_timed clock
  | failed _ clock course => exact course.faring_timed clock
  | ended _ clock course finishing => exact Faring.finished (course.faring_timed clock) finishing
  | unwaited _ clock course finishing => exact Faring.finished (course.faring_timed clock) finishing

theorem Turns.record_going (h : Turns c interrupted p r frames q s) :
    ∀ a ∈ frames, ∀ e, a.result = .error e → ¬e.EndsRun := by
  obtain ⟨-, -, going⟩ := h.record
  exact fun a ha e he => not_endsRun_of_isPerFrame (going a ha e he)

/-- A loop that did not fail was stopped by its budget or by an answer. -/
theorem LoopCourse.verdict {time : Nat} {begun : Recorded σ} {q' : Pipeline} {s' : Recorded σ}
    {result : Except DisplayError Unit} (clock : now r = (time, begun))
    (h : LoopCourse c interrupted budget { p with throughput := .begin time } begun .done frames
      q s)
    (finishing : finish c.waiter.recorded q s = ((result, q'), s')) :
    ∃ events, s'.transcript = r.transcript ++ events ∧
      RunVerdict budget frames events (some (result.map fun _ => framesShown frames)) := by
  obtain ⟨-, hl, going, -⟩ := h.done
  obtain ⟨waiting, hw, added⟩ := h.finished clock finishing
  refine ⟨_, added, .stopped ?_ ?_ ?_⟩
  · rw [polls_finished hl hw]
    by_cases spent : budget = some frames.length
    · exact .inl spent
    · exact .inr (by rw [if_neg spent])
  · exact fun a ha e he => not_endsRun_of_isPerFrame (going a ha e he)
  · intro e he
    cases result with
    | ok _ => cases he
    | error cause =>
      obtain rfl := Except.error.inj he
      exact hw.fails_waiting

theorem RunCourse.verdict {result : Option (Except DisplayError Nat)}
    (h : p.RunCourse c interrupted budget r result frames q s) :
    ∃ events, s.transcript = r.transcript ++ events ∧ RunVerdict budget frames events result := by
  cases h with
  | refused hc =>
    obtain ⟨reason, rfl⟩ := fenceUnsupported_of_checkFences hc
    exact ⟨[], by simp, .refused reason rfl rfl⟩
  | unfinished _ clock course =>
    obtain ⟨added, he, -⟩ := course.faring_timed clock
    cases course with
    | unfinished turns more => exact ⟨added, he, .leftOff more turns.record_going⟩
  | failed _ clock course =>
    obtain ⟨added, he, -⟩ := course.faring_timed clock
    cases course with
    | failed turns _ last fatal =>
      obtain ⟨-, hf⟩ := last.record
      exact ⟨added, he, .failed rfl rfl (hf.endsRun fatal) turns.record_going⟩
  | ended _ clock course finishing => exact course.verdict clock finishing
  | unwaited _ clock course finishing => exact course.verdict clock finishing

end Pipeline

/-- That a missing property is all or nothing in a history: it fails all frames in which nothing
else fails before, always the same one, and nothing is submitted, or it fails none. -/
inductive AllOrNothing (frames : List Attempt) (events : List Exchange) : Prop
  | all (object : DisplayObject) (name : String) :
      (∀ a ∈ frames, ∃ e, a.result = .error e ∧
        (e = .missingProperty object name ∨ e.precedesBuild = true)) →
      (∀ x ∈ events, x.isSubmission = false) → AllOrNothing frames events
  | nothing : (∀ a ∈ frames, ∀ object name, a.result ≠ .error (.missingProperty object name)) →
      AllOrNothing frames events

theorem Pipeline.Faring.allOrNothing {p q : Pipeline} {frames : List Attempt}
    {events : List Exchange} (h : p.Faring q frames events) : AllOrNothing frames events := by
  have fares := h.fares
  cases hm : p.lacks? with
  | none =>
    refine .nothing ?_
    intro a ha object name failed
    have fare := fares a ha
    rw [hm, failed] at fare
    cases fare with
    | complete he =>
      rcases he _ rfl with he | ⟨cause, he⟩
      · simp [DisplayError.precedesBuild] at he
      · cases he
  | some missing =>
    obtain ⟨object, name, rfl⟩ := PropertyCache.missing?_named hm
    rw [hm] at fares
    have lacking {a : Attempt} (ha : a ∈ frames) : (∃ e, a.result = .error e ∧
        (e = .missingProperty object name ∨ e.precedesBuild = true)) ∧
        ∀ x ∈ a.events, x.isSubmission = false := by
      have fare := fares a ha
      generalize hr : a.result = result at fare
      cases fare with
      | lacking he quiet => exact ⟨⟨_, rfl, he⟩, quiet⟩
    refine .all object name (fun a ha => (lacking ha).1) ?_
    intro x hx
    apply Bool.eq_false_iff.mpr
    intro hs
    obtain ⟨a, ha, hm⟩ := h.submits x hx hs
    simp [(lacking ha).2 x hm] at hs

section Histories

variable {σ : Type} [World σ] {device : Device σ} {allocator : Allocator σ} {p q : Pipeline}
  {r s : Recorded σ} {frames : List Attempt}

theorem CallCourse.faring {request : Request σ}
    (h : CallCourse device allocator p r request frames q s) :
    ∃ added, s.transcript = r.transcript ++ added ∧ p.Faring q frames added := by
  cases h with
  | presented presenting added =>
    obtain ⟨seen, hs, hf⟩ := (Pipeline.records_presentFrame _ p).ended presenting
    obtain rfl := List.append_cancel_left (hs.symm.trans added)
    exact ⟨seen, added, hf.faring⟩
  | finished finishing =>
    obtain ⟨waiting, added, hw⟩ := (Pipeline.records_finish _ p).ended finishing
    exact ⟨waiting, added, hw.faring⟩
  | ran _ course => exact course.faring

theorem HistoryCourse.faring {requests : List (Request σ)}
    (h : HistoryCourse device allocator p r requests frames q s) :
    ∃ added, s.transcript = r.transcript ++ added ∧ p.Faring q frames added := by
  induction h with
  | none => exact ⟨[], by simp, Pipeline.faring_idle rfl (by simp)⟩
  | @more p q p' r s r' request rest frames later call _ ih =>
    obtain ⟨added, first, hf⟩ := call.faring
    obtain ⟨more, last, hl⟩ := ih
    have called : p.Faring p [] [.called request.entry] :=
      Pipeline.faring_idle rfl (by simp [Exchange.isSubmission])
    refine ⟨_, ?_, (called.trans hf).trans hl⟩
    rw [last, first]
    simp [Recorded.hear, Recorded.seeing]

end Histories

/-- However a display path is used and whatever its collaborators answer, a property that is missing
fails all its frames or none. A run that comes then fails for nothing but that, a wait that fails,
or what it lacks to begin: it drops any other frame that fails, and goes on. -/
theorem missing_property_all_or_nothing {σ : Type} [World σ] (device : Device σ)
    (allocator : Allocator σ) (p : Pipeline) (requests : List (Request σ)) (world : σ)
    {q : Pipeline} {r : Recorded σ}
    (h : continueLife device allocator p requests ⟨world, []⟩ = (q, r)) :
    (∃ frames, HistoryCourse device allocator p ⟨world, []⟩ requests frames q r ∧
      AllOrNothing frames r.transcript ∧
      ∀ a ∈ frames, ∀ object name, a.result = .error (.missingProperty object name) →
        accepted r.transcript = []) ∧
    ∀ renderer waiter interrupted patience budget result q' r',
      recordCall device allocator q (.run renderer waiter interrupted patience budget) r.world =
        ((.ran result, q'), r') →
      ∃ frames, q.RunCourse ⟨device, allocator, renderer, waiter⟩ interrupted budget
          ⟨r.world, []⟩ result frames q' r' ∧
        RunVerdict budget frames r'.transcript result := by
  refine ⟨?_, ?_⟩
  · obtain ⟨frames, course⟩ := (continueLife_course device allocator p requests ⟨world, []⟩).of_eq h
    obtain ⟨added, he, faring⟩ := course.faring
    obtain rfl : r.transcript = added := he
    have whole := faring.allOrNothing
    refine ⟨frames, course, whole, ?_⟩
    intro a ha object name failed
    cases whole with
    | all _ _ _ quiet => exact accepted_of_no_submission quiet
    | nothing none => exact absurd failed (none a ha object name)
  · intro renderer waiter interrupted patience budget result q' r' hc
    obtain ⟨frames, course⟩ := recordCall_run_course hc
    obtain ⟨events, he, verdict⟩ := course.verdict
    obtain rfl : r'.transcript = events := he
    exact ⟨frames, course, verdict⟩

/-- The error that a run fails with. -/
def Reply.failure? : Reply → Option DisplayError
  | ran (some (.error e)) => some e
  | _ => none

theorem Reply.failure?_eq_some {reply : Reply} {e : DisplayError} (h : reply.failure? = some e) :
    reply = .ran (some (.error e)) := by
  unfold failure? at h
  split at h
  next => rw [Option.some.inj h]
  next => simp at h

namespace Memory

/-- The device in memory, with a property missing that only a modeset needs. -/
def idleDevice : Device Memory :=
  (MemoryDisplay.withoutProperty .singleOutput "ACTIVE").device

/-- What is done with it: two frames, of which the first cannot be drawn. -/
def idleFrames : List (Request Memory) :=
  [.present (MemoryRenderer.failingAt .plain 0).renderer waiter,
    .present MemoryRenderer.plain.renderer waiter]

def idleLife : Except DisplayError Pipeline × Recorded Memory :=
  recordLife idleDevice MemoryAllocator.plain.allocator ⟨none, 0, .xrgb8888, .linear, true⟩ []
    (fresh 0)

end Memory

/-- In memory, two frames and a run on a CRTC that cannot be turned on, which the run ends with. -/
theorem missing_property_in_memory :
    ∃ p q r q' r' frames tried, Memory.idleLife.1 = .ok p ∧
      continueLife Memory.idleDevice MemoryAllocator.plain.allocator p Memory.idleFrames
        ⟨Memory.idleLife.2.world, []⟩ = (q, r) ∧
      HistoryCourse Memory.idleDevice MemoryAllocator.plain.allocator p
        ⟨Memory.idleLife.2.world, []⟩ Memory.idleFrames frames q r ∧
      AllOrNothing frames r.transcript ∧
      recordCall Memory.idleDevice MemoryAllocator.plain.allocator q Memory.runInterrupted r.world =
        ((.ran (some (.error (.missingProperty (.crtc MemoryDisplay.secondCrtc) "ACTIVE"))), q'),
          r') ∧
      RunVerdict (some 5) tried r'.transcript
        (some (.error (.missingProperty (.crtc MemoryDisplay.secondCrtc) "ACTIVE"))) := by
  have ends : (Memory.idleLife.1.toOption.bind fun p =>
      let (q, r) := continueLife Memory.idleDevice MemoryAllocator.plain.allocator p
        Memory.idleFrames ⟨Memory.idleLife.2.world, []⟩
      (recordCall Memory.idleDevice MemoryAllocator.plain.allocator q Memory.runInterrupted
        r.world).1.1.failure?) =
      some (.missingProperty (.crtc MemoryDisplay.secondCrtc) "ACTIVE") := by
    decide +kernel
  obtain ⟨p, hp, failed⟩ := Option.bind_eq_some_iff.mp ends
  generalize hl : continueLife Memory.idleDevice MemoryAllocator.plain.allocator p
    Memory.idleFrames ⟨Memory.idleLife.2.world, []⟩ = lived at failed
  obtain ⟨q, r⟩ := lived
  dsimp only at failed
  generalize hc : recordCall Memory.idleDevice MemoryAllocator.plain.allocator q
    Memory.runInterrupted r.world = called at failed
  obtain ⟨⟨reply, q'⟩, r'⟩ := called
  obtain rfl := Reply.failure?_eq_some failed
  obtain ⟨⟨frames, course, whole, -⟩, runs⟩ :=
    missing_property_all_or_nothing _ _ p Memory.idleFrames _ hl
  obtain ⟨tried, -, verdict⟩ := runs _ _ _ _ _ _ q' r' hc
  exact ⟨p, q, r, q', r', frames, tried, ok_of_toOption hp, hl, course, whole, hc, verdict⟩

end Scanout
