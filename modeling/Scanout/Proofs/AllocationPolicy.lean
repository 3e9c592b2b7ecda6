import Scanout.Memory.World
import Scanout.Proofs.ModifierRequest
import Scanout.Proofs.SetUpRecord

namespace Scanout

variable {σ α β : Type}

/-- What an act that is watched comes to, and the calls it makes. -/
def observed (act : Act (Recorded σ) α) (world : σ) : α × List Exchange :=
  ((act ⟨world, []⟩).1, (act ⟨world, []⟩).2.transcript)

theorem Records.observed {act : Act (Recorded σ) α} {plain : Act σ α}
    {R : α → List Exchange → Prop} (h : Records act plain R) (world : σ) :
    R (observed act world).1 (observed act world).2 :=
  (h.fresh world).2

/-- The answers to an attempt to obtain something: to the call for a modifier, and to the call that
leaves the layout to the driver, where it was made. -/
structure PlaceAttempt (α : Type) where
  explicit : Except CallError α
  implicit : Option (Except CallError α)

namespace PlaceAttempt

/-- When the layout is left to the driver: the modifier was refused and is the linear one. -/
def Ruled (modifier : Modifier) (attempt : PlaceAttempt α) : Prop :=
  attempt.implicit.isSome ↔ (∃ cause, attempt.explicit = .error cause) ∧ modifier.raw = 0

/-- The placements that an attempt asks for in turn, with their answers. -/
def placements (modifier : Modifier) (attempt : PlaceAttempt α) :
    List (Placement × Except CallError α) :=
  (.explicit modifier, attempt.explicit) ::
    attempt.implicit.toList.map fun answer => (.implicit scanoutUsage, answer)

def calls (exchange : Placement → Except CallError α → Exchange) (modifier : Modifier)
    (attempt : PlaceAttempt α) : List Exchange :=
  (attempt.placements modifier).map fun (placement, answer) => exchange placement answer

/-- What the allocator gave, whichever call it was for. -/
def obtained? (attempt : PlaceAttempt α) : Option α :=
  attempt.explicit.toOption.or (attempt.implicit.bind Except.toOption)

def outcome (spec : BufferSpec) (modifier : Modifier) : PlaceAttempt α → Except DisplayError α
  | ⟨.ok item, _⟩ | ⟨.error _, some (.ok item)⟩ => .ok item
  | ⟨.error cause, none⟩ => .error (.modifierUnsupported spec.format modifier cause)
  | ⟨.error _, some (.error cause)⟩ =>
    .error (.bufferAllocationFailed spec.width spec.height spec.format cause)

variable {spec : BufferSpec} {modifier : Modifier} {attempt : PlaceAttempt α}

theorem outcome_toOption (attempt : PlaceAttempt α) (spec : BufferSpec) (modifier : Modifier) :
    (attempt.outcome spec modifier).toOption = attempt.obtained? := by
  obtain ⟨explicit, implicit⟩ := attempt
  rcases explicit with cause | item
  · rcases implicit with _ | later | item
    · rfl
    · rfl
    · rfl
  · rfl

theorem Ruled.implicit_eq_none (ruled : attempt.Ruled modifier) (nonzero : modifier.raw ≠ 0) :
    attempt.implicit = none := by
  cases implicit : attempt.implicit with
  | none => rfl
  | some answer => exact absurd (ruled.mp (by rw [implicit]; rfl)).2 nonzero

/-- A modifier other than the linear one that is refused ends the attempt. -/
theorem Ruled.rejected (ruled : attempt.Ruled modifier) (nonzero : modifier.raw ≠ 0)
    (spec : BufferSpec) {cause : CallError} (refused : attempt.explicit = .error cause) :
    attempt.outcome spec modifier =
      .error (.modifierUnsupported spec.format modifier cause) := by
  obtain ⟨explicit, implicit⟩ := attempt
  cases refused
  cases ruled.implicit_eq_none nonzero
  rfl

theorem Ruled.accepted (ruled : attempt.Ruled modifier) (nonzero : modifier.raw ≠ 0)
    (obtained : attempt.obtained?.isSome) (cause : CallError) :
    attempt.explicit ≠ .error cause := by
  obtain ⟨explicit, implicit⟩ := attempt
  rintro rfl
  cases ruled.implicit_eq_none nonzero
  cases obtained

/-- The decision of an attempt: the calls that were made, and what they came to. -/
structure Decides (attempt : PlaceAttempt α) (exchange : Placement → Except CallError α → Exchange)
    (spec : BufferSpec) (modifier : Modifier) (seen : Except DisplayError α × List Exchange) :
    Prop where
  ruled : attempt.Ruled modifier
  result : seen.1 = attempt.outcome spec modifier
  calls : seen.2 = attempt.calls exchange modifier

end PlaceAttempt

variable {spec : BufferSpec} {modifier : Modifier} {count : Nat} {before : List Buffer}
  {result : Except DisplayError (List Buffer)} {events : List Exchange}

theorem PlaceRecord.decided {exchange : Placement → Except CallError α → Exchange}
    {result : Except DisplayError α} (h : PlaceRecord exchange spec modifier result events) :
    ∃ attempt : PlaceAttempt α, attempt.Decides exchange spec modifier (result, events) := by
  cases h with
  | placed _ item => exact ⟨⟨.ok item, none⟩, by simp [PlaceAttempt.Ruled], rfl, rfl⟩
  | refused cause other =>
    refine ⟨⟨.error cause, none⟩, ?_, rfl, rfl⟩
    have nonzero : modifier.raw ≠ 0 := fun zero => other (congrArg Modifier.mk zero)
    simp [PlaceAttempt.Ruled, nonzero]
  | fellBack cause item =>
    refine ⟨⟨.error cause, some (.ok item)⟩, ?_, rfl, rfl⟩
    simp [PlaceAttempt.Ruled, Modifier.linear]
  | failed cause later =>
    refine ⟨⟨.error cause, some (.error later)⟩, ?_, rfl, rfl⟩
    simp [PlaceAttempt.Ruled, Modifier.linear]

/-- The attempts to fill a ring: one for each buffer, up to one that gives none. -/
inductive RingCourse (spec : BufferSpec) (modifier : Modifier) (count : Nat)
    (before : List Buffer) :
    List (PlaceAttempt Buffer) → Except DisplayError (List Buffer) → List Exchange → Prop
  | filled {attempts : List (PlaceAttempt Buffer)} {ring : List Buffer} :
      attempts.map (·.obtained?) = ring.map some → attempts.length = count →
      RingCourse spec modifier count before attempts (.ok (before ++ ring))
        (attempts.flatMap (·.calls (.allocated spec) modifier))
  | stopped {attempts : List (PlaceAttempt Buffer)} {ring : List Buffer}
      {last : PlaceAttempt Buffer} {e : DisplayError} :
      attempts.map (·.obtained?) = ring.map some → attempts.length < count →
      last.outcome spec modifier = .error e →
      RingCourse spec modifier count before (attempts ++ [last]) (.error e)
        ((attempts ++ [last]).flatMap (·.calls (.allocated spec) modifier) ++
          (before ++ ring).map .freed)

theorem RingCourse.cons {first : PlaceAttempt Buffer} {attempts : List (PlaceAttempt Buffer)}
    {buffer : Buffer} (obtained : first.obtained? = some buffer)
    (course : RingCourse spec modifier count (before ++ [buffer]) attempts result events) :
    RingCourse spec modifier (count + 1) before (first :: attempts) result
      (first.calls (.allocated spec) modifier ++ events) := by
  have given {attempts : List (PlaceAttempt Buffer)} {ring : List Buffer}
      (h : attempts.map (·.obtained?) = ring.map some) :
      (first :: attempts).map (·.obtained?) = (buffer :: ring).map some := by
    rw [List.map_cons, obtained, h, List.map_cons]
  cases course with
  | @filled _ ring all length =>
    have filled : RingCourse spec modifier (count + 1) before (first :: attempts)
        (.ok (before ++ buffer :: ring)) _ := .filled (given all) (congrArg (· + 1) length)
    simpa using filled
  | @stopped earlier ring last e all length failed =>
    have stopped : RingCourse spec modifier (count + 1) before (first :: earlier ++ [last])
        (.error e) (_ ++ (before ++ buffer :: ring).map .freed) :=
      .stopped (given all) (Nat.succ_lt_succ length) failed
    simpa using stopped

theorem RingRecord.course (h : RingRecord spec modifier count before result events) :
    ∃ attempts, (∀ attempt ∈ attempts, attempt.Ruled modifier) ∧
      RingCourse spec modifier count before attempts result events := by
  induction h with
  | @done before =>
    have filled : RingCourse spec modifier 0 before [] (.ok (before ++ [])) [] := .filled rfl rfl
    exact ⟨[], by simp, by simpa using filled⟩
  | @failed count before e placing place =>
    obtain ⟨last, decides⟩ := place.decided
    refine ⟨[last], by simpa using decides.ruled, ?_⟩
    have stopped : RingCourse spec modifier (count + 1) before ([] ++ [last]) (.error e)
        (_ ++ (before ++ []).map .freed) := .stopped rfl (Nat.succ_pos count) decides.result.symm
    simpa [← decides.calls] using stopped
  | @placed count before buffer result placing later place ring ih =>
    obtain ⟨first, decides⟩ := place.decided
    obtain ⟨attempts, ruled, course⟩ := ih
    refine ⟨first :: attempts, List.forall_mem_cons.mpr ⟨decides.ruled, ruled⟩, ?_⟩
    have obtained : first.obtained? = some buffer := by
      rw [← first.outcome_toOption spec modifier, ← decides.result]
      rfl
    have calls : placing = first.calls (.allocated spec) modifier := decides.calls
    rw [calls]
    exact course.cons obtained

/-- The modifier that a call to an allocator asks for. -/
def Exchange.modifier? : Exchange → Option Modifier
  | .allocated _ (.explicit modifier) _ | .surfaceCreated _ (.explicit modifier) _ => some modifier
  | _ => none

theorem modifier?_of_isQuery {x : Exchange} (h : x.isQuery) : x.modifier? = none := by
  cases x <;> first | rfl | cases h

/-- That a call asks for no modifier but one. -/
def Exchange.AsksFor (modifier : Modifier) (x : Exchange) : Prop :=
  ∀ asked ∈ x.modifier?, asked = modifier

theorem PlaceRecord.asksFor {exchange : Placement → Except CallError α → Exchange}
    {result : Except DisplayError α} (h : PlaceRecord exchange spec modifier result events)
    (explicit : ∀ asked answer, (exchange (.explicit asked) answer).modifier? = some asked)
    (implicit : ∀ usage answer, (exchange (.implicit usage) answer).modifier? = none) :
    ∀ x ∈ events, x.AsksFor modifier := by
  obtain ⟨attempt, decides⟩ := h.decided
  have calls : events = attempt.calls exchange modifier := decides.calls
  subst calls
  unfold PlaceAttempt.calls PlaceAttempt.placements
  simp [Exchange.AsksFor, explicit, implicit]

theorem RingRecord.asksFor (h : RingRecord spec modifier count before result events) :
    ∀ x ∈ events, x.AsksFor modifier := by
  induction h with
  | done => simp
  | failed place =>
    refine List.forall_mem_append.mpr ⟨place.asksFor (fun _ _ => rfl) fun _ _ => rfl, ?_⟩
    simp [Exchange.AsksFor, Exchange.modifier?]
  | placed place _ ih =>
    exact List.forall_mem_append.mpr ⟨place.asksFor (fun _ _ => rfl) fun _ _ => rfl, ih⟩

theorem PoolRecord.asksFor {topology : Topology} {options : Options}
    {result : Except DisplayError BufferPool} (h : PoolRecord topology options result events) :
    ∀ x ∈ events, x.AsksFor options.modifier := by
  cases h with
  | ringless _ ring => exact ring.asksFor
  | ring _ ring => exact ring.asksFor
  | unsurfaced _ place => exact place.asksFor (fun _ _ => rfl) fun _ _ => rfl
  | surface _ place => exact place.asksFor (fun _ _ => rfl) fun _ _ => rfl

theorem asksFor_of_isQuery (asked : ∀ x ∈ events, x.isQuery) :
    ∀ x ∈ events, x.AsksFor modifier := by
  intro x held
  unfold Exchange.AsksFor
  rw [modifier?_of_isQuery (asked x held)]
  exact nofun

/-- Setting a display path up asks for no modifier but the one of its options. -/
theorem SetUpRecord.asksFor [World σ] {device : Device σ} {options : Options}
    {result : Except DisplayError Pipeline} (h : SetUpRecord device options result events) :
    ∀ x ∈ events, x.AsksFor options.modifier := by
  have enabled {result : Except DisplayError Unit} {events : List Exchange}
      (h : EnableRecord result events) : ∀ x ∈ events, x.AsksFor options.modifier := by
    cases h <;> simp [Exchange.AsksFor, Exchange.modifier?]
  cases h with
  | incapable enabling => exact enabled enabling
  | unselected enabling selecting =>
    simpa only [List.forall_mem_append] using
      ⟨enabled enabling, asksFor_of_isQuery selecting.asked⟩
  | unread enabling selecting reading =>
    simpa only [List.forall_mem_append] using ⟨enabled enabling,
      asksFor_of_isQuery selecting.asked, asksFor_of_isQuery reading.isQuery⟩
  | unallocated enabling selecting reading allocating =>
    simpa only [List.forall_mem_append] using ⟨enabled enabling,
      asksFor_of_isQuery selecting.asked, asksFor_of_isQuery reading.isQuery, allocating.asksFor⟩
  | ready enabling selecting reading allocating =>
    simpa only [List.forall_mem_append] using ⟨enabled enabling,
      asksFor_of_isQuery selecting.asked, asksFor_of_isQuery reading.isQuery, allocating.asksFor⟩

end Scanout
