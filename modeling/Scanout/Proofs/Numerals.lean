import Mathlib.Data.Bool.AllAny
import Mathlib.Data.List.Forall2
import Mathlib.Data.Nat.Digits.Defs
import Scanout.Number

namespace Scanout

namespace Number

/-- The digits there are, in either case. -/
def digits : List Char := "0123456789abcdef".toList

/-- That a character is the digit for a number in a base. -/
def IsDigit (base : Nat) (c : Char) (d : Nat) : Prop :=
  digits[d]? = some c.toLower ∧ d < base

/-- That a text is the number written out in a base, leading zeros allowed. -/
def IsNumeral (base : Nat) (text : List Char) (n : Nat) : Prop :=
  ∃ ds, ds ≠ [] ∧ List.Forall₂ (IsDigit base) text ds ∧ n = Nat.ofDigits base ds.reverse

variable {base bound acc d n : Nat} {c : Char} {text : List Char}

theorem below_eq_some_iff {value : Nat} (small : base ≤ 16) :
    (if value < base then some value else none) = some d ↔
      (if value < 16 then some value else none) = some d ∧ d < base := by
  split_ifs <;> simp <;> omega

theorem digit?_eq_some_of_base (small : base ≤ 16) :
    digit? base c = some d ↔ digit? 16 c = some d ∧ d < base := by
  unfold digit?
  dsimp only
  by_cases decimal : ('0' ≤ c && c ≤ '9') = true
  · simpa only [decimal, if_true] using below_eq_some_iff small
  by_cases lower : ('a' ≤ c && c ≤ 'f') = true
  · simpa only [decimal, lower, if_true] using below_eq_some_iff small
  by_cases upper : ('A' ≤ c && c ≤ 'F') = true
  · simpa only [decimal, lower, upper, if_true] using below_eq_some_iff small
  simp [decimal, lower, upper]

theorem digit?_ascii : ∀ code < 128, ∀ d < 16,
    digit? 16 (Char.ofNat code) = some d ↔ digits[d]? = some (Char.ofNat code).toLower := by
  decide +kernel

theorem not_le_of_wide (letter : Char) (wide : 128 ≤ c.toNat) (narrow : letter.toNat < 128) :
    ¬c ≤ letter := by
  intro less
  have := UInt32.le_iff_toNat_le.mp (Char.le_def.mp less)
  rw [Char.toNat_val, Char.toNat_val] at this
  omega

/-- No digit lies past the seven-bit characters. -/
theorem digit?_wide (wide : 128 ≤ c.toNat) : digit? 16 c = none ∧ c.toLower ∉ digits := by
  constructor
  · have nine := not_le_of_wide '9' wide (by decide)
    have lower := not_le_of_wide 'f' wide (by decide)
    have upper := not_le_of_wide 'F' wide (by decide)
    simp [digit?, nine, lower, upper]
  · have narrow : ∀ digit ∈ digits, digit.toNat < 128 := List.all_iff_forall_prop.mp (by decide)
    have same : c.toLower = c := by
      have beyond := not_le_of_wide 'Z' wide (by decide)
      exact dif_neg fun upper => beyond (Char.le_def.mpr upper.2)
    intro digit
    have := narrow _ (same ▸ digit)
    omega

theorem digit?_eq_some_iff (small : base ≤ 16) : digit? base c = some d ↔ IsDigit base c d := by
  rw [digit?_eq_some_of_base small]
  refine and_congr_left fun below => ?_
  rcases Nat.lt_or_ge c.toNat 128 with narrow | wide
  · simpa only [Char.ofNat_toNat] using digit?_ascii c.toNat narrow d (by omega)
  · obtain ⟨none, absent⟩ := digit?_wide wide
    rw [none]
    refine ⟨nofun, fun found => ?_⟩
    exact absurd (List.mem_of_getElem? found) absent

theorem le_foldl_digits (positive : 0 < base) (acc : Nat) (ds : List Nat) :
    acc ≤ ds.foldl (fun acc d => acc * base + d) acc := by
  induction ds generalizing acc with
  | nil => exact le_rfl
  | cons d rest ih =>
    calc
      acc ≤ acc * base := Nat.le_mul_of_pos_right acc positive
      _ ≤ acc * base + d := Nat.le_add_right _ _
      _ ≤ _ := ih _

/-- Digits are read just if all of them are digits, and what they are worth is below the bound: it
does not matter that the bound is looked at after every digit, since the worth never shrinks. -/
theorem readDigits_ok_iff (small : base ≤ 16) (positive : 0 < base) :
    readDigits base bound acc text = .ok n ↔ ∃ ds, List.Forall₂ (IsDigit base) text ds ∧
      n = ds.foldl (fun acc d => acc * base + d) acc ∧ (text = [] ∨ n < bound) := by
  induction text generalizing acc with
  | nil => simp [readDigits, eq_comm]
  | cons c rest ih =>
    simp only [List.forall₂_cons_left_iff, ← digit?_eq_some_iff small, reduceCtorEq, false_or]
    unfold readDigits
    cases digit : digit? base c with
    | none => simp
    | some d =>
      simp only [Option.some.injEq]
      split_ifs with below
      · rw [ih]
        constructor
        · rintro ⟨ds, read, rfl, bounded⟩
          refine ⟨d :: ds, ⟨d, ds, rfl, read, rfl⟩, rfl, ?_⟩
          rcases bounded with rfl | bounded
          · obtain rfl := List.forall₂_nil_left_iff.mp read
            exact below
          · exact bounded
        · rintro ⟨_, ⟨_, ds, rfl, read, rfl⟩, rfl, bounded⟩
          exact ⟨ds, read, rfl, .inr bounded⟩
      · refine ⟨nofun, ?_⟩
        rintro ⟨_, ⟨_, ds, rfl, read, rfl⟩, rfl, bounded⟩
        have grown := le_foldl_digits positive (acc * base + d) ds
        exact absurd (Nat.lt_of_le_of_lt grown bounded) below

theorem foldl_eq_ofDigits (base : Nat) (ds : List Nat) :
    ds.foldl (fun acc d => acc * base + d) 0 = Nat.ofDigits base ds.reverse := by
  rw [Nat.ofDigits_eq_foldr, List.foldr_reverse]
  refine congrFun (congrFun (congrArg _ ?_) 0) ds
  funext acc d
  rw [Nat.cast_id, Nat.add_comm, Nat.mul_comm]

theorem readDigits_ok_iff_isNumeral (small : base ≤ 16) (positive : 0 < base)
    (written : text ≠ []) :
    readDigits base bound 0 text = .ok n ↔ IsNumeral base text n ∧ n < bound := by
  rw [readDigits_ok_iff small positive]
  constructor
  · rintro ⟨ds, read, rfl, rfl | bounded⟩
    · exact absurd rfl written
    · refine ⟨⟨ds, ?_, read, foldl_eq_ofDigits base ds⟩, bounded⟩
      rintro rfl
      exact written (List.forall₂_nil_right_iff.mp read)
  · rintro ⟨⟨ds, -, read, rfl⟩, bounded⟩
    exact ⟨ds, read, (foldl_eq_ofDigits base ds).symm, .inr bounded⟩

theorem not_isNumeral_nil : ¬IsNumeral base [] n := by
  rintro ⟨ds, some, read, -⟩
  exact some (List.forall₂_nil_left_iff.mp read)

theorem IsNumeral.digit_of_mem (h : IsNumeral base text n) (hc : c ∈ text) :
    c.toLower ∈ digits := by
  obtain ⟨ds, -, read, -⟩ := h
  induction read with
  | nil => cases hc
  | cons digit _ ih =>
    rcases List.mem_cons.mp hc with rfl | later
    · exact List.mem_of_getElem? digit.1
    · exact ih later

theorem not_isNumeral_plus {rest : List Char} : ¬IsNumeral base ('+' :: rest) n := by
  intro h
  have absent : '+'.toLower ∉ digits := by decide
  exact absent (h.digit_of_mem List.mem_cons_self)

/-- A number is read just if it is a numeral below the bound, perhaps after a plus sign. -/
theorem read_ok_iff (small : base ≤ 16) (positive : 0 < base) :
    read base bound text = .ok n ↔ ∃ sign ∈ [[], ['+']], ∃ body, text = sign ++ body ∧
      IsNumeral base body n ∧ n < bound := by
  simp only [List.mem_cons, List.not_mem_nil, or_false, exists_eq_or_imp, exists_eq_left,
    List.nil_append, List.singleton_append]
  unfold read
  split
  next => simp [not_isNumeral_nil]
  next => simp [not_isNumeral_plus, not_isNumeral_nil]
  next rest bare =>
    have written : rest ≠ [] := fun empty => bare (empty ▸ rfl)
    rw [readDigits_ok_iff_isNumeral small positive written]
    simp [not_isNumeral_plus]
  next some _ unsigned =>
    rw [readDigits_ok_iff_isNumeral small positive some]
    have noSign : ∀ body, text ≠ '+' :: body := fun body => unsigned body
    simp [noSign]

section Writing

variable {spelled : Char → Char}

theorem digits_digitChar : ∀ d < 16, digits[d]? = some d.digitChar := by decide

theorem isDigit_digitChar (cased : ∀ c ∈ digits, (spelled c).toLower = c) (small : base ≤ 16)
    (below : d < base) : IsDigit base (spelled d.digitChar) d := by
  have found : digits[d]? = some d.digitChar := digits_digitChar d (by omega)
  have lower : (spelled d.digitChar).toLower = d.digitChar :=
    cased _ (List.mem_of_getElem? found)
  exact ⟨by rw [found, lower], below⟩

theorem isNumeral_digit (h : IsDigit base c d) : IsNumeral base [c] d :=
  ⟨[d], List.cons_ne_nil _ _, .cons h .nil, by simp⟩

/-- A digit put behind a numeral makes the number so many times as large and adds its own. -/
theorem IsNumeral.append_digit (h : IsNumeral base text n) (last : IsDigit base c d) :
    IsNumeral base (text ++ [c]) (base * n + d) := by
  obtain ⟨ds, -, read, rfl⟩ := h
  refine ⟨ds ++ [d], by simp, List.rel_append read (.cons last .nil), ?_⟩
  rw [List.reverse_append, List.reverse_singleton, List.singleton_append, Nat.ofDigits_cons,
    Nat.add_comm]

/-- Leading zeros do not change a number. -/
theorem IsNumeral.zeros (h : IsNumeral base text n) (positive : 0 < base) (count : Nat) :
    IsNumeral base (List.replicate count '0' ++ text) n := by
  obtain ⟨ds, some, read, rfl⟩ := h
  have zero : IsDigit base '0' 0 := ⟨rfl, positive⟩
  refine ⟨List.replicate count 0 ++ ds, by simp [some], List.rel_append ?_ read, ?_⟩
  · induction count with
    | zero => exact .nil
    | succ count ih => exact .cons zero ih
  · rw [List.reverse_append, List.reverse_replicate, Nat.ofDigits_append_replicate_zero]

/-- What a number is written as is a numeral of it, in whichever case the digits are spelled. -/
theorem isNumeral_toDigits (cased : ∀ c ∈ digits, (spelled c).toLower = c) (more : 1 < base)
    (small : base ≤ 16) (n : Nat) : IsNumeral base ((Nat.toDigits base n).map spelled) n := by
  induction n using Nat.strong_induction_on with
  | _ n ih =>
    by_cases single : n < base
    · rw [Nat.toDigits_of_lt_base single]
      exact isNumeral_digit (isDigit_digitChar cased small single)
    · have less : n / base < n := Nat.div_lt_self (by omega) more
      have last : n % base < base := Nat.mod_lt n (by omega)
      have whole : base * (n / base) + n % base = n := Nat.div_add_mod n base
      rw [Nat.toDigits_of_base_le more (by omega), List.map_append, List.map_singleton]
      have written := (ih _ less).append_digit (isDigit_digitChar cased small last)
      rwa [whole] at written

end Writing

end Number

end Scanout
