import Mathlib.Data.List.DropRight
import Scanout.Proofs.Life

namespace Scanout

/-- A transcript up to the call or poll that came last, that is to where the last frame begins. -/
def frameStart (before : List Exchange) : List Exchange :=
  before.rdropWhile fun e => !e.isMark

/-- What came after the last call or poll. -/
def frameSoFar (before : List Exchange) : List Exchange :=
  before.rtakeWhile fun e => !e.isMark

section Marks

variable {past sofar : List Exchange} {mark : Exchange}

theorem frameStart_mark (hm : mark.isMark = true) (hs : ∀ e ∈ sofar, e.isMark = false) :
    frameStart (past ++ mark :: sofar) = past ++ [mark] := by
  unfold frameStart List.rdropWhile
  rw [List.reverse_append, List.reverse_cons, List.append_assoc,
    List.dropWhile_append_of_pos (by simpa using hs)]
  simp [hm]

theorem frameSoFar_mark (hm : mark.isMark = true) (hs : ∀ e ∈ sofar, e.isMark = false) :
    frameSoFar (past ++ mark :: sofar) = sofar := by
  unfold frameSoFar List.rtakeWhile
  rw [List.reverse_append, List.reverse_cons, List.append_assoc,
    List.takeWhile_append_of_pos (by simpa using hs)]
  simp [hm]

end Marks

section Splits

variable {events later before after : List Exchange} {e : Exchange}

theorem split_cases (h : events ++ later = before ++ e :: after) :
    (∃ rest, before = events ++ rest ∧ later = rest ++ e :: after) ∨
      ∃ rest, events = before ++ e :: rest ∧ after = rest ++ later := by
  rcases List.append_eq_append_iff.mp h with ⟨rest, hb, hl⟩ | ⟨rest, hr, hl⟩
  · exact .inl ⟨rest, hb, hl⟩
  · cases rest with
    | nil => exact .inl ⟨[], by simpa using hr.symm, by simpa using hl.symm⟩
    | cons x rest =>
      obtain ⟨rfl, ha⟩ := List.cons.inj hl
      exact .inr ⟨rest, hr, ha⟩

theorem split_late (h : events ++ later = before ++ e :: after) (he : e ∉ events) :
    ∃ rest, before = events ++ rest ∧ later = rest ++ e :: after := by
  rcases split_cases h with hl | ⟨rest, rfl, -⟩
  · exact hl
  · exact absurd (by simp) he

theorem split_early (h : events ++ later = before ++ e :: after) (he : e ∉ later) :
    ∃ rest, events = before ++ e :: rest ∧ after = rest ++ later := by
  rcases split_cases h with ⟨rest, -, rfl⟩ | hl
  · exact absurd (by simp) he
  · exact hl

theorem split_head {first : Exchange} (h : first :: later = before ++ e :: after) (he : e ∉ later) :
    before = [] ∧ e = first ∧ after = later := by
  cases before with
  | nil =>
    obtain ⟨rfl, rfl⟩ := List.cons.inj h
    exact ⟨rfl, rfl, rfl⟩
  | cons x before =>
    obtain ⟨-, rfl⟩ := List.cons.inj h
    exact absurd (by simp) he

theorem split_at {n : Nat} (h : events[n]? = some e) :
    events = events.take n ++ e :: events.drop (n + 1) := by
  obtain ⟨hn, rfl⟩ := List.getElem?_eq_some_iff.mp h
  rw [List.getElem_cons_drop, List.take_append_drop]

theorem split_twice {n k : Nat} {later : Exchange} (h : events[n]? = some e)
    (hl : (events.drop (n + 1))[k]? = some later) :
    events = events.take n ++ e :: ((events.drop (n + 1)).take k ++
      later :: (events.drop (n + 1)).drop (k + 1)) := by
  rw [← split_at hl]
  exact split_at h

end Splits

/-- The calls that are made in frames only. -/
def Exchange.inFrame : Exchange → Bool
  | gpuWaited _ _ | rendered _ _ _ | locked _ _ | framebufferAdded _ _ _ | blobCreated _ _
  | submitted _ _ | blobDestroyed _ _ | released _ => true
  | _ => false

/-- That `e` is made in a frame: how the display path came to the start of that frame, and how it
went on from its end. -/
inductive MidFrame (p₀ p' : Pipeline) : List Exchange → Exchange → List Exchange → Prop
  | intro {p q : Pipeline} {result : Except DisplayError Unit}
      {past sofar later rest : List Exchange} {mark e : Exchange} :
      Steps p₀ past p → mark.isMark = true → mark.beginsFrame = true →
      p.FrameRecord (result, q) (sofar ++ e :: later) → Steps q rest p' →
      MidFrame p₀ p' (past ++ mark :: sofar) e (later ++ rest)

theorem finish_not_inFrame {p : Pipeline} {result : Except DisplayError Unit × Pipeline}
    {added : List Exchange} (h : p.FinishRecord result added) : ∀ e ∈ added, e.inFrame = false := by
  cases h <;> simp [Exchange.inFrame]

theorem mark_not_inFrame {e : Exchange} (h : e.isMark = true) : e.inFrame = false := by
  cases e <;> simp_all [Exchange.isMark, Exchange.inFrame]

theorem MidFrame.since {p q p' : Pipeline} {added before after : List Exchange} {e : Exchange}
    (hs : StepRecord p added q) (h : MidFrame q p' before e after) :
    MidFrame p p' (added ++ before) e after := by
  obtain ⟨hp, hm, hb, hf, hq⟩ := h
  rw [← List.append_assoc]
  exact .intro (.more hs hp) hm hb hf hq

theorem StepRecord.midFrame {p q p' : Pipeline} {before after rest : List Exchange} {e : Exchange}
    (h : StepRecord p (before ++ e :: after) q) (he : e.inFrame = true) (hq : Steps q rest p') :
    MidFrame p p' before e (after ++ rest) := by
  generalize ha : before ++ e :: after = added at h
  have mem : e ∈ added := by simp [← ha]
  cases h with
  | marked hm _ =>
    have := mark_not_inFrame hm
    simp_all
  | frame hm hb hf =>
    cases before with
    | nil =>
      obtain ⟨rfl, -⟩ := List.cons.inj ha
      simp [mark_not_inFrame hm] at he
    | cons x sofar =>
      obtain ⟨rfl, rfl⟩ := List.cons.inj ha
      exact .intro .none hm hb hf hq
  | finish hw => simp [finish_not_inFrame hw e mem] at he
  | timed => simp at mem

/-- Every call that is made in frames only was made in one. -/
theorem Steps.midFrame {p₀ p' : Pipeline} {events before after : List Exchange} {e : Exchange}
    (h : Steps p₀ events p') (hs : events = before ++ e :: after) (he : e.inFrame = true) :
    MidFrame p₀ p' before e after := by
  induction h generalizing before with
  | none => simp at hs
  | more step hl ih =>
    -- The call is made in this step or in a later one, and of steps only frames make it.
    rcases split_cases hs with ⟨rest, rfl, hr⟩ | ⟨rest, rfl, rfl⟩
    · exact (ih hr).since step
    · exact step.midFrame he hl

theorem notSetUp_of_inFrame {e : Exchange} (h : e.inFrame = true) : e.isSetUp = false := by
  cases e <;> simp_all [Exchange.isSetUp, Exchange.inFrame]

/-- What is no part of setting up comes after it. -/
theorem split_readied {readying lived before after : List Exchange} {e : Exchange}
    (quiet : ∀ x ∈ readying, x.isSetUp = true) (he : e.isSetUp = false)
    (h : readying ++ lived = before ++ e :: after) :
    ∃ past, before = readying ++ past ∧ lived = past ++ e :: after := by
  refine split_late h ?_
  intro hm
  simp [quiet e hm] at he

/-- A call that is made in frames only belongs to a life that went past its set-up. -/
theorem LifeRecord.midFrame {surfaceless : Bool} {result : Except DisplayError Pipeline}
    {before after : List Exchange} {e : Exchange}
    (h : LifeRecord surfaceless result (before ++ e :: after)) (he : e.inFrame = true) :
    ∃ p₀ p' readying past, result = .ok p' ∧ p₀.Fresh surfaceless ∧
      (∀ x ∈ readying, x.isSetUp) ∧ before = readying ++ past ∧ MidFrame p₀ p' past e after := by
  generalize ha : before ++ e :: after = events at h
  cases h with
  | failed quiet =>
    have early := quiet e (by simp [← ha])
    simp [notSetUp_of_inFrame he] at early
  | lived quiet fresh steps =>
    obtain ⟨past, rfl, rfl⟩ := split_readied quiet (notSetUp_of_inFrame he) ha.symm
    exact ⟨_, _, _, past, rfl, fresh, quiet, rfl, steps.midFrame rfl he⟩

theorem LifeCourse.midFrame {σ : Type} [World σ] {device : Device σ} {options : Options}
    {result : Except DisplayError Pipeline} {before after : List Exchange} {e : Exchange}
    (h : LifeCourse device options result (before ++ e :: after)) (he : e.inFrame = true) :
    ∃ p₀ p' readying past, result = .ok p' ∧ SetUpRecord device options (.ok p₀) readying ∧
      before = readying ++ past ∧ MidFrame p₀ p' past e after := by
  generalize ha : before ++ e :: after = events at h
  cases h with
  | failed failure =>
    have early := failure.isSetUp e (by simp [← ha])
    simp [notSetUp_of_inFrame he] at early
  | lived readying steps =>
    obtain ⟨past, rfl, rfl⟩ := split_readied readying.isSetUp (notSetUp_of_inFrame he) ha.symm
    exact ⟨_, _, _, past, rfl, readying, rfl, steps.midFrame rfl he⟩

end Scanout
