import Scanout.Memory.Display
import Scanout.Memory.Drawing
import Scanout.Proofs.SetUpRecord
import Scanout.Proofs.Steps

namespace Scanout

/-- A call on a display path, with what its caller brings. -/
inductive Request (σ : Type)
  | present (renderer : Renderer σ) (waiter : Waiter σ)
  | finish (waiter : Waiter σ)
  | run (renderer : Renderer σ) (waiter : Waiter σ) (interrupted : Act σ Bool) (patience : Nat)
      (budget : Option Nat)

/-- What a call on a display path returns. A run that was left off returns nothing. -/
inductive Reply
  | presented (result : Except DisplayError Unit)
  | finished (result : Except DisplayError Unit)
  | ran (result : Option (Except DisplayError Nat))

/-- The error of a frame or of a finish. -/
def Reply.error? : Reply → Option DisplayError
  | presented (.error e) | finished (.error e) => some e
  | _ => none

variable {σ : Type}

namespace Request

def entry : Request σ → Entry
  | present _ _ => .present
  | finish _ => .finish
  | run _ _ _ _ _ => .run

/-- The same call with collaborators whose calls are written down. -/
def recorded : Request σ → Request (Recorded σ)
  | present renderer waiter => .present renderer.recorded waiter.recorded
  | finish waiter => .finish waiter.recorded
  | run renderer waiter interrupted patience budget =>
    .run renderer.recorded waiter.recorded (Recorded.watch .polled interrupted) patience budget

@[simp] theorem entry_recorded (request : Request σ) : request.recorded.entry = request.entry := by
  cases request <;> rfl

variable [World σ]

/-- Makes the call. -/
def answer (device : Device σ) (allocator : Allocator σ) (p : Pipeline) :
    Request σ → Act σ (Reply × Pipeline)
  | present renderer waiter => do
    let (result, p) ← p.presentFrame ⟨device, allocator, renderer, waiter⟩
    return (.presented result, p)
  | finish waiter => do
    let (result, p) ← p.finish waiter
    return (.finished result, p)
  | run renderer waiter interrupted patience budget => do
    let (result, p) ← p.run ⟨device, allocator, renderer, waiter⟩ interrupted patience budget
    return (.ran result, p)

/-- Makes calls one after the other, whatever they return. Each is announced by `hear`. -/
def answerAll (hear : Entry → Act σ Unit) (device : Device σ) (allocator : Allocator σ) :
    Pipeline → List (Request σ) → Act σ Pipeline
  | p, [] => return p
  | p, request :: rest => do
    hear request.entry
    let (_, p) ← request.answer device allocator p
    answerAll hear device allocator p rest

theorem answerAll_append (hear : Entry → Act σ Unit) (device : Device σ) (allocator : Allocator σ)
    (p : Pipeline) (requests later : List (Request σ)) :
    answerAll hear device allocator p (requests ++ later) =
      answerAll hear device allocator p requests >>= fun q =>
        answerAll hear device allocator q later := by
  induction requests generalizing p with
  | nil => rfl
  | cons request rest ih => simp [answerAll, ih]

end Request

variable [World σ]

/-- The life of a display path: it is set up and then called. -/
def live (hear : Entry → Act σ Unit) (device : Device σ) (allocator : Allocator σ)
    (options : Options) (requests : List (Request σ)) : Act σ (Except DisplayError Pipeline) := do
  match ← Pipeline.setUp device allocator options with
  | .error e => return .error e
  | .ok p => return .ok (← Request.answerAll hear device allocator p requests)

omit [World σ] in
/-- Writes down that a call comes in. -/
def Recorded.hear (entry : Entry) : Act (Recorded σ) Unit :=
  fun r => ((), r.seeing (.called entry))

/-- Goes on with the life of a display path, everything being written down. -/
def continueLife (device : Device σ) (allocator : Allocator σ) (p : Pipeline)
    (requests : List (Request σ)) : Act (Recorded σ) Pipeline :=
  Request.answerAll Recorded.hear device.recorded allocator.recorded p
    (requests.map Request.recorded)

/-- The life of a display path, everything being written down. -/
def recordLife (device : Device σ) (allocator : Allocator σ) (options : Options)
    (requests : List (Request σ)) (world : σ) : Except DisplayError Pipeline × Recorded σ :=
  live Recorded.hear device.recorded allocator.recorded options (requests.map Request.recorded)
    ⟨world, []⟩

/-- A call and its reply. -/
inductive AnswerRecord (p : Pipeline) : Request σ → Reply × Pipeline → List Exchange → Prop
  | presented {renderer : Renderer σ} {waiter : Waiter σ} {q : Pipeline}
      {result : Except DisplayError Unit} {added : List Exchange} :
      p.FrameRecord (result, q) added →
      AnswerRecord p (.present renderer waiter) (.presented result, q) added
  | finished {waiter : Waiter σ} {q : Pipeline} {result : Except DisplayError Unit}
      {added : List Exchange} : p.FinishRecord (result, q) added →
      AnswerRecord p (.finish waiter) (.finished result, q) added
  | ran {renderer : Renderer σ} {waiter : Waiter σ} {interrupted : Act σ Bool} {patience : Nat}
      {budget : Option Nat} {q : Pipeline} {result : Option (Except DisplayError Nat)}
      {added : List Exchange} : p.RunRecord renderer budget (result, q) added →
      AnswerRecord p (.run renderer waiter interrupted patience budget) (.ran result, q) added

theorem records_answer (device : Device σ) (allocator : Allocator σ) (p : Pipeline)
    (request : Request σ) :
    Records (request.recorded.answer device.recorded allocator.recorded p)
      (request.answer device allocator p) (AnswerRecord p request) := by
  cases request with
  | present renderer waiter =>
    refine records_bind (Pipeline.records_presentFrame ⟨device, allocator, renderer, waiter⟩ p) ?_
    rintro ⟨result, q⟩ added hf
    exact records_pure (by simpa using .presented hf)
  | finish waiter =>
    refine records_bind (Pipeline.records_finish waiter p) ?_
    rintro ⟨result, q⟩ added hf
    exact records_pure (by simpa using .finished hf)
  | run renderer waiter interrupted patience budget =>
    refine records_bind (Pipeline.records_run ⟨device, allocator, renderer, waiter⟩ interrupted
      patience budget p) ?_
    rintro ⟨result, q⟩ added hr
    exact records_pure (by simpa using .ran hr)

omit [World σ] in
theorem answer_steps {p : Pipeline} {request : Request σ} {reply : Reply × Pipeline}
    {added : List Exchange} (h : AnswerRecord p request reply added) :
    Steps p (.called request.entry :: added) reply.2 := by
  cases h with
  | presented hf => exact (StepRecord.frame rfl rfl hf).steps
  | finished hw => exact .mark rfl rfl (StepRecord.finish hw).steps
  | ran hr => exact .mark rfl rfl (Pipeline.run_steps hr)

/-- One call on a display path, everything being written down. -/
def recordCall (device : Device σ) (allocator : Allocator σ) (p : Pipeline)
    (request : Request σ) (world : σ) : (Reply × Pipeline) × Recorded σ :=
  request.recorded.answer device.recorded allocator.recorded p ⟨world, []⟩

theorem recordCall_record (device : Device σ) (allocator : Allocator σ) (p : Pipeline)
    (request : Request σ) (world : σ) :
    AnswerRecord p request (recordCall device allocator p request world).1
      (recordCall device allocator p request world).2.transcript :=
  ((records_answer device allocator p request).fresh world).2

omit [World σ] in
theorem records_hear (entry : Entry) :
    Records (σ := σ) (Recorded.hear entry) (pure ()) (fun _ added => added = [.called entry]) :=
  fun _ => ⟨_, rfl, rfl⟩

theorem records_continueLife (device : Device σ) (allocator : Allocator σ) (p : Pipeline)
    (requests : List (Request σ)) :
    Records (continueLife device allocator p requests)
      (Request.answerAll (fun _ => pure ()) device allocator p requests)
      (fun q added => Steps p added q) := by
  unfold continueLife
  induction requests generalizing p with
  | nil => exact records_pure .none
  | cons request rest ih =>
    refine records_then (records_hear request.recorded.entry) fun _ => ?_
    refine records_bind (records_answer device allocator p request) ?_
    intro answered added ha
    refine (ih answered.2).mono ?_
    intro p' later hl
    simpa using (answer_steps ha).trans hl

/-- However a display path is used, nothing is pending once a finish came last. -/
theorem records_finishing (device : Device σ) (allocator : Allocator σ) (p : Pipeline)
    (requests : List (Request σ)) (waiter : Waiter σ) :
    Records (continueLife device allocator p (requests ++ [.finish waiter]))
      (Request.answerAll (fun _ => pure ()) device allocator p (requests ++ [.finish waiter]))
      (fun q added => Steps p added q ∧ q.pendingFlip = none) := by
  unfold continueLife
  rw [List.map_append, Request.answerAll_append, Request.answerAll_append]
  refine records_bind (records_continueLife device allocator p requests) ?_
  intro q before hs
  refine records_then (records_hear .finish) fun _ => ?_
  refine records_bind (records_answer device allocator q (.finish waiter)) ?_
  intro answered added ha
  have steps : Steps q (.called .finish :: added) answered.2 := answer_steps ha
  have idle : answered.2.pendingFlip = none := by
    cases ha with
    | finished hw => exact congrArg Pipeline.pendingFlip hw.leaves
  exact records_pure ⟨by simpa using hs.trans steps, idle⟩

/-- The life of a display path: over before it began, or any number of steps. -/
inductive LifeRecord (surfaceless : Bool) : Except DisplayError Pipeline → List Exchange → Prop
  | failed {e : DisplayError} {before : List Exchange} : (∀ x ∈ before, x.isSetUp) →
      LifeRecord surfaceless (.error e) before
  | lived {p q : Pipeline} {before after : List Exchange} : (∀ x ∈ before, x.isSetUp) →
      p.Fresh surfaceless → Steps p after q → LifeRecord surfaceless (.ok q) (before ++ after)

/-- The life of a display path with how it was set up. -/
inductive LifeCourse (device : Device σ) (options : Options) :
    Except DisplayError Pipeline → List Exchange → Prop
  | failed {e : DisplayError} {before : List Exchange} :
      SetUpRecord device options (.error e) before → LifeCourse device options (.error e) before
  | lived {p q : Pipeline} {before after : List Exchange} :
      SetUpRecord device options (.ok p) before → Steps p after q →
      LifeCourse device options (.ok q) (before ++ after)

theorem LifeCourse.record {device : Device σ} {options : Options}
    {result : Except DisplayError Pipeline} {events : List Exchange}
    (h : LifeCourse device options result events) :
    LifeRecord options.surfaceless result events := by
  cases h with
  | failed readying => exact .failed readying.isSetUp
  | lived readying steps => exact .lived readying.isSetUp readying.fresh steps

theorem records_course (device : Device σ) (allocator : Allocator σ) (options : Options)
    (requests : List (Request σ)) :
    Records (live Recorded.hear device.recorded allocator.recorded options
        (requests.map Request.recorded))
      (live (fun _ => pure ()) device allocator options requests)
      (LifeCourse device options) := by
  refine records_bind (records_setUp device allocator options) ?_
  rintro (e | p) before readying
  · exact records_pure (by simpa using .failed readying)
  · refine records_bind (records_continueLife device allocator p requests) ?_
    intro q after hs
    exact records_pure (by simpa using .lived readying hs)

/-- Writing everything down changes neither what comes of a life nor the world it leaves. -/
theorem recordLife_eq_live (device : Device σ) (allocator : Allocator σ) (options : Options)
    (requests : List (Request σ)) (world : σ) :
    ((recordLife device allocator options requests world).1,
        (recordLife device allocator options requests world).2.world) =
      live (fun _ => pure ()) device allocator options requests world :=
  ((records_course device allocator options requests).fresh world).1

theorem recordLife_course (device : Device σ) (allocator : Allocator σ) (options : Options)
    (requests : List (Request σ)) (world : σ) :
    LifeCourse device options (recordLife device allocator options requests world).1
      (recordLife device allocator options requests world).2.transcript :=
  ((records_course device allocator options requests).fresh world).2

theorem recordLife_record (device : Device σ) (allocator : Allocator σ) (options : Options)
    (requests : List (Request σ)) (world : σ) :
    LifeRecord options.surfaceless (recordLife device allocator options requests world).1
      (recordLife device allocator options requests world).2.transcript :=
  (recordLife_course device allocator options requests world).record

/-- A life that went past its set-up: what setting up took, and the steps since. -/
theorem recordLife_lived {device : Device σ} {allocator : Allocator σ} {options : Options}
    {requests : List (Request σ)} {world : σ} {p : Pipeline} {r : Recorded σ}
    (h : recordLife device allocator options requests world = (.ok p, r)) :
    ∃ p₀ readying lived, (∀ e ∈ readying, e.isSetUp) ∧ p₀.Fresh options.surfaceless ∧
      r.transcript = readying ++ lived ∧ Steps p₀ lived p := by
  have life := recordLife_record device allocator options requests world
  rw [h] at life
  generalize r.transcript = events at life ⊢
  cases life with
  | lived quiet fresh steps => exact ⟨_, _, _, quiet, fresh, rfl, steps⟩

theorem pair_of_fst {α β : Type} {x : α × β} {a : α} (h : x.1 = a) : x = (a, x.2) := by
  rw [← h]

namespace Memory

/-- Some frames on the device in memory, with the buffers in a ring. -/
def frames (renderer : MemoryRenderer) (count : Nat) :
    Except DisplayError Pipeline × Recorded Memory :=
  recordLife MemoryDisplay.singleOutput.device MemoryAllocator.plain.allocator
    ⟨none, 0, .xrgb8888, .linear, true⟩ (.replicate count (.present renderer.renderer waiter))
    (fresh 0)

/-- One more call on the device in memory. -/
def call (p : Pipeline) (request : Request Memory) (world : Memory) :
    (Reply × Pipeline) × Recorded Memory :=
  recordCall MemoryDisplay.singleOutput.device MemoryAllocator.plain.allocator p request world

/-- Waits for nothing, and says that it cannot. -/
def failingWaiter : Waiter Memory where
  wait _ := return .error .invalidArgument

end Memory

end Scanout
