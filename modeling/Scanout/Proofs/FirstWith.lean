namespace Scanout

variable {α : Type} {p q : α → Prop} {as : List α} {a b : α}

/-- That `a` is the first in a list with `p`. -/
def FirstWith (p : α → Prop) (as : List α) (a : α) : Prop :=
  ∃ before after, as = before ++ a :: after ∧ p a ∧ ∀ earlier ∈ before, ¬p earlier

theorem firstWith_cons_iff :
    FirstWith p (b :: as) a ↔ (p b ∧ a = b) ∨ (¬p b ∧ FirstWith p as a) := by
  constructor
  · intro h
    obtain ⟨before, after, split, holds, none⟩ := h
    cases before with
    | nil =>
      obtain ⟨rfl, rfl⟩ := List.cons.inj split
      exact .inl ⟨holds, rfl⟩
    | cons first before =>
      obtain ⟨rfl, rfl⟩ := List.cons.inj split
      have not := none b (by simp)
      exact .inr ⟨not, before, after, rfl, holds, fun x hx => none x (by simp [hx])⟩
  · intro h
    rcases h with ⟨holds, rfl⟩ | ⟨not, before, after, rfl, holds, none⟩
    · exact ⟨[], as, rfl, holds, by simp⟩
    · exact ⟨b :: before, after, rfl, holds, by simpa [not] using none⟩

namespace FirstWith

theorem mem (h : FirstWith p as a) : a ∈ as := by
  obtain ⟨before, after, rfl, -, -⟩ := h
  simp

theorem holds (h : FirstWith p as a) : p a := by
  obtain ⟨before, after, -, holds, -⟩ := h
  exact holds

theorem unique (h : FirstWith p as a) (hb : FirstWith p as b) : a = b := by
  induction as with
  | nil => simpa using h.mem
  | cons first rest ih =>
    rcases firstWith_cons_iff.mp h with ⟨holds, rfl⟩ | ⟨not, later⟩
    · rcases firstWith_cons_iff.mp hb with ⟨-, rfl⟩ | ⟨not, -⟩
      · rfl
      · exact absurd holds not
    · rcases firstWith_cons_iff.mp hb with ⟨holds, -⟩ | ⟨-, laterToo⟩
      · exact absurd holds not
      · exact ih later laterToo

theorem congr (h : FirstWith p as a) (same : ∀ x ∈ as, p x ↔ q x) : FirstWith q as a := by
  obtain ⟨before, after, rfl, holds, none⟩ := h
  refine ⟨before, after, rfl, (same a (by simp)).mp holds, ?_⟩
  intro x hx
  have there : x ∈ before ++ a :: after := by simp [hx]
  exact mt (same x there).mpr (none x hx)

end FirstWith

theorem exists_firstWith (h : ∃ a ∈ as, p a) : ∃ a, FirstWith p as a := by
  induction as with
  | nil => simp at h
  | cons first rest ih =>
    by_cases holds : p first
    · exact ⟨first, firstWith_cons_iff.mpr (.inl ⟨holds, rfl⟩)⟩
    · have later : ∃ a ∈ rest, p a := by simpa [holds] using h
      obtain ⟨a, ha⟩ := ih later
      exact ⟨a, firstWith_cons_iff.mpr (.inr ⟨holds, ha⟩)⟩

theorem find?_eq_some_iff_firstWith {test : α → Bool} :
    as.find? test = some a ↔ FirstWith (fun x => test x = true) as a := by
  rw [List.find?_eq_some_iff_append]
  simp only [FirstWith, Bool.not_eq_true', Bool.not_eq_true]
  constructor
  · intro h
    obtain ⟨holds, before, after, split, none⟩ := h
    exact ⟨before, after, split, holds, none⟩
  · intro h
    obtain ⟨before, after, split, holds, none⟩ := h
    exact ⟨holds, before, after, split, none⟩

end Scanout
