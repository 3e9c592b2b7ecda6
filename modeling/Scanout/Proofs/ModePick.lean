import Mathlib.Data.Nat.Bitwise
import Scanout.Mode
import Scanout.Proofs.FirstWith

namespace Scanout

namespace Mode

theorem largestFrom_mem (best : Mode) (modes : List Mode) :
    largestFrom best modes = best ∨ largestFrom best modes ∈ modes := by
  induction modes generalizing best with
  | nil => exact .inl rfl
  | cons mode rest ih =>
    unfold largestFrom
    split
    next =>
      rcases ih mode with h | h
      · exact .inr (by simp [h])
      · exact .inr (List.mem_cons_of_mem _ h)
    next =>
      rcases ih best with h | h
      · exact .inl h
      · exact .inr (List.mem_cons_of_mem _ h)

theorem default?_mem {modes : List Mode} {mode : Mode} (h : default? modes = some mode) :
    mode ∈ modes := by
  unfold default? at h
  split at h
  next preferred found =>
    obtain rfl := Option.some.inj h
    exact List.mem_of_find?_eq_some found
  next =>
    cases modes with
    | nil => simp [largest?] at h
    | cons first rest =>
      obtain rfl := Option.some.inj h
      rcases largestFrom_mem first rest with hm | hm
      · simp [hm]
      · exact List.mem_cons_of_mem _ hm

theorem default?_eq_none {modes : List Mode} (h : default? modes = none) : modes = [] := by
  unfold default? at h
  split at h
  next => simp at h
  next =>
    cases modes with
    | nil => rfl
    | cons first rest => simp [largest?] at h

theorem pick_mem {modes : List Mode} {name : Option String} {refresh : UInt32} {choice : Choice}
    (h : pick modes name refresh = some choice) : choice.mode ∈ modes := by
  unfold pick at h
  split at h
  next =>
    obtain ⟨mode, hm, rfl⟩ := Option.map_eq_some_iff.mp h
    exact default?_mem hm
  next =>
    split at h
    next mode found =>
      obtain rfl := Option.some.inj h
      exact List.mem_of_find?_eq_some found
    next =>
      obtain ⟨mode, hm, rfl⟩ := Option.map_eq_some_iff.mp h
      exact default?_mem hm

/-- Some mode is picked unless there is none. -/
theorem pick_eq_none_iff {modes : List Mode} {name : Option String} {refresh : UInt32} :
    pick modes name refresh = none ↔ modes = [] := by
  constructor
  · intro h
    unfold pick at h
    split at h
    next => exact default?_eq_none (Option.map_eq_none_iff.mp h)
    next =>
      split at h
      next => simp at h
      next => exact default?_eq_none (Option.map_eq_none_iff.mp h)
  · rintro rfl
    cases name <;> rfl

/-- The exact number of pixels. -/
def pixels (mode : Mode) : Nat :=
  mode.width.toNat * mode.height.toNat

theorem area_toNat (mode : Mode) : mode.area.toNat = mode.pixels := by
  have width := mode.width.toNat_lt
  have height := mode.height.toNat_lt
  have fits : mode.pixels < 2 ^ 32 := by
    calc
      mode.pixels ≤ (2 ^ 16 - 1) * (2 ^ 16 - 1) := Nat.mul_le_mul (by omega) (by omega)
      _ < 2 ^ 32 := by decide
  simpa [area, pixels] using fits

theorem area_lt_iff {mode other : Mode} : mode.area < other.area ↔ mode.pixels < other.pixels := by
  rw [UInt32.lt_iff_toNat_lt, area_toNat, area_toNat]

/-- That a mode is the one asked for: its name has the bytes of the name that is given, and its
refresh rate is the one that is given unless that is zero. -/
def Asked (name : Option String) (refresh : UInt32) (mode : Mode) : Prop :=
  ∃ wanted, name = some wanted ∧ mode.name = Text.bytes wanted ∧
    (refresh = 0 ∨ mode.refresh = refresh)

/-- That no mode of a list has more pixels. -/
def Largest (modes : List Mode) (mode : Mode) : Prop :=
  ∀ other ∈ modes, other.pixels ≤ mode.pixels

/-- That a connector prefers a mode: bit 3 of its type is set. -/
def Preferred (mode : Mode) : Prop :=
  mode.type.toNat.testBit 3 = true

theorem isPreferred_iff {mode : Mode} : mode.isPreferred = true ↔ mode.Preferred := by
  have bit : (mode.type &&& 8).toNat = mode.type.toNat &&& 2 ^ 3 := UInt32.toNat_and _ _
  unfold isPreferred Preferred
  rw [bne_iff_ne, Ne, ← UInt32.toNat_inj, bit, Nat.and_two_pow]
  cases mode.type.toNat.testBit 3 <;> simp

/-- The mode to use where none is asked for: the first preferred one, and without such the first of
the largest. -/
inductive Default (modes : List Mode) (mode : Mode) : Prop
  | preferred : FirstWith Preferred modes mode → Default modes mode
  | largest : (∀ other ∈ modes, ¬other.Preferred) →
      FirstWith (Largest modes) modes mode → Default modes mode

/-- What picking a mode comes to. A mode stands in for another only where one was asked for by
name and is not there. -/
inductive Picked (modes : List Mode) (name : Option String) (refresh : UInt32) :
    Option Choice → Prop
  | none : modes = [] → Picked modes name refresh none
  | asked {mode : Mode} : FirstWith (Asked name refresh) modes mode →
      Picked modes name refresh (some ⟨mode, false⟩)
  | default {mode : Mode} : (∀ other ∈ modes, ¬Asked name refresh other) → Default modes mode →
      Picked modes name refresh (some ⟨mode, name.isSome⟩)

theorem isCalled_iff {name : String} {refresh : UInt32} {mode : Mode} :
    mode.isCalled name refresh = true ↔ Asked (some name) refresh mode := by
  simp [isCalled, Asked]

theorem not_asked {refresh : UInt32} {mode : Mode} : ¬Asked none refresh mode := by
  simp [Asked]

/-- Only a strictly larger mode replaces the one that was the largest so far. -/
theorem largestFrom_first (best : Mode) (modes : List Mode) :
    FirstWith (Largest (best :: modes)) (best :: modes) (largestFrom best modes) := by
  induction modes generalizing best with
  | nil => exact firstWith_cons_iff.mpr (.inl ⟨by simp [Largest], rfl⟩)
  | cons mode rest ih =>
    unfold largestFrom
    split
    next larger =>
      have more := area_lt_iff.mp larger
      have first := ih mode
      have same : ∀ x, Largest (mode :: rest) x ↔ Largest (best :: mode :: rest) x := by
        intro x
        simp only [Largest, List.forall_mem_cons]
        exact ⟨fun h => ⟨by omega, h⟩, fun h => h.2⟩
      have not : ¬Largest (best :: mode :: rest) best := by
        intro largest
        have less := largest mode (by simp)
        omega
      exact firstWith_cons_iff.mpr (.inr ⟨not, first.congr fun x _ => same x⟩)
    next smaller =>
      have less : mode.pixels ≤ best.pixels := Nat.le_of_not_lt (mt area_lt_iff.mpr smaller)
      have same : ∀ x, Largest (best :: rest) x ↔ Largest (best :: mode :: rest) x := by
        intro x
        simp only [Largest, List.forall_mem_cons]
        exact ⟨fun h => ⟨h.1, by omega, h.2⟩, fun h => ⟨h.1, h.2.2⟩⟩
      rcases firstWith_cons_iff.mp (ih best) with ⟨largest, here⟩ | ⟨not, later⟩
      · exact firstWith_cons_iff.mpr (.inl ⟨(same best).mp largest, here⟩)
      · -- The mode that is passed by is no larger than the one that is not the largest.
        have notMode : ¬Largest (best :: mode :: rest) mode := by
          intro largest
          refine not ((same best).mpr ?_)
          intro other there
          exact Nat.le_trans (largest other there) less
        refine firstWith_cons_iff.mpr (.inr ⟨mt (same best).mpr not, ?_⟩)
        refine firstWith_cons_iff.mpr (.inr ⟨notMode, ?_⟩)
        exact later.congr fun x _ => same x

theorem default?_default {modes : List Mode} {mode : Mode} (h : default? modes = some mode) :
    Default modes mode := by
  unfold default? at h
  split at h
  next preferred found =>
    obtain rfl := Option.some.inj h
    have first := find?_eq_some_iff_firstWith.mp found
    exact .preferred (first.congr fun _ _ => isPreferred_iff)
  next none =>
    have plain : ∀ other ∈ modes, ¬other.Preferred :=
      fun other held => mt isPreferred_iff.mpr (List.find?_eq_none.mp none other held)
    cases modes with
    | nil => simp [largest?] at h
    | cons first rest =>
      obtain rfl := Option.some.inj h
      exact .largest plain (largestFrom_first first rest)

theorem pick_picked (modes : List Mode) (name : Option String) (refresh : UInt32) :
    Picked modes name refresh (pick modes name refresh) := by
  cases hd : default? modes with
  | none =>
    have empty := default?_eq_none hd
    have nothing : pick modes name refresh = none := pick_eq_none_iff.mpr empty
    exact nothing ▸ .none empty
  | some mode =>
    have chosen := default?_default hd
    cases name with
    | none =>
      have unasked : ∀ other ∈ modes, ¬Asked none refresh other := fun _ _ => not_asked
      simpa [pick, hd] using Picked.default unasked chosen
    | some name =>
      cases found : modes.find? (isCalled name refresh) with
      | none =>
        have unasked : ∀ other ∈ modes, ¬Asked (some name) refresh other := by
          intro other there asked
          exact List.find?_eq_none.mp found other there (isCalled_iff.mpr asked)
        simpa [pick, hd, found] using Picked.default unasked chosen
      | some named =>
        have first := find?_eq_some_iff_firstWith.mp found
        simpa [pick, found] using Picked.asked (first.congr fun _ _ => isCalled_iff)

theorem Default.unique {modes : List Mode} {mode other : Mode} (h : Default modes mode)
    (ho : Default modes other) : mode = other := by
  cases h with
  | preferred first =>
    cases ho with
    | preferred firstToo => exact first.unique firstToo
    | largest plain _ => exact absurd first.holds (plain mode first.mem)
  | largest plain first =>
    cases ho with
    | preferred marked => exact absurd marked.holds (plain _ marked.mem)
    | largest _ firstToo => exact first.unique firstToo

theorem Default.mem {modes : List Mode} {mode : Mode} (h : Default modes mode) : mode ∈ modes := by
  cases h with
  | preferred first => exact first.mem
  | largest _ first => exact first.mem

theorem Picked.unique {modes : List Mode} {name : Option String} {refresh : UInt32}
    {result other : Option Choice} (h : Picked modes name refresh result)
    (ho : Picked modes name refresh other) : result = other := by
  cases h with
  | none empty =>
    subst empty
    cases ho with
    | none => rfl
    | asked first => simpa using first.mem
    | default _ chosen => simpa using chosen.mem
  | asked first =>
    cases ho with
    | none empty => simpa [empty] using first.mem
    | asked firstToo => rw [first.unique firstToo]
    | default unasked _ => exact absurd first.holds (unasked _ first.mem)
  | default unasked chosen =>
    cases ho with
    | none empty => simpa [empty] using chosen.mem
    | asked first => exact absurd first.holds (unasked _ first.mem)
    | default _ chosenToo => rw [chosen.unique chosenToo]

end Mode

/-- The mode that is picked is the first of those asked for, and without such the first preferred
or the first of the largest. There is one unless there is no mode at all. Areas are exact, and a
refresh rate without a name is of no account. -/
theorem mode_picked (modes : List Mode) (name : Option String) (refresh : UInt32) :
    (∀ result, Mode.pick modes name refresh = result ↔ Mode.Picked modes name refresh result) ∧
      (Mode.pick modes name refresh = none ↔ modes = []) ∧
      (∀ mode ∈ modes, mode.area.toNat = mode.width.toNat * mode.height.toNat) ∧
      ∀ other, Mode.pick modes none other = Mode.pick modes none refresh := by
  refine ⟨?_, Mode.pick_eq_none_iff, fun mode _ => mode.area_toNat, fun _ => rfl⟩
  intro result
  have picked := Mode.pick_picked modes name refresh
  constructor
  · intro same
    exact same ▸ picked
  · intro other
    exact picked.unique other

end Scanout
