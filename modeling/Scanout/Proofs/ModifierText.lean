import Scanout.Modifier
import Scanout.Proofs.Numerals

namespace Scanout

open Number (IsDigit IsNumeral)

namespace ModifierSpec

/-- The modifier that a text stands for, by number: a keyword in any case, or a number that fits the
word, in decimal or after a mark in hexadecimal digits. -/
inductive Denotes : List Char → Nat → Prop
  | linear {text : List Char} : text.map Char.toLower = "linear".toList → Denotes text 0
  | invalid {text : List Char} : text.map Char.toLower = "invalid".toList →
      Denotes text 0x00ffffffffffffff
  | decimal {sign body : List Char} {n : Nat} : sign ∈ [[], ['+']] → IsNumeral 10 body n →
      n < 2 ^ 64 → Denotes (sign ++ body) n
  | hexadecimal {mark : Char} {sign body : List Char} {n : Nat} : mark ∈ ['x', 'X'] →
      sign ∈ [[], ['+']] → IsNumeral 16 body n → n < 2 ^ 64 →
      Denotes ('0' :: mark :: (sign ++ body)) n

/-- Reads the number of a modifier. -/
def number (text : List Char) : Except NumberError Nat :=
  match text with
  | '0' :: 'x' :: digits | '0' :: 'X' :: digits => Number.read 16 UInt64.size digits
  | digits => Number.read 10 UInt64.size digits

/-- The request for the modifier with a number. -/
def ofNumber? : Except NumberError Nat → Option ModifierSpec
  | .ok 0 => some linear
  | .ok raw => some (value (UInt64.ofNat raw))
  | .error _ => none

variable {text : List Char} {n : Nat}

theorem ofChars?_eq (text : List Char) : ofChars? text =
    if text.map Char.toLower = "linear".toList then some linear
    else if text.map Char.toLower = "invalid".toList then some invalid
    else ofNumber? (number text) := by
  unfold ofChars? ofNumber? number
  rfl

/-- No decimal number has the mark of a hexadecimal one. -/
theorem not_decimal_of_mark {mark : Char} {rest sign body : List Char} (hm : mark ∈ ['x', 'X'])
    (hs : sign ∈ [[], ['+']]) (same : '0' :: mark :: rest = sign ++ body) :
    ¬IsNumeral 10 body n := by
  intro numeral
  have absent : ∀ mark ∈ ['x', 'X'], mark.toLower ∉ Number.digits :=
    List.all_iff_forall_prop.mp (by decide)
  rcases hs with _ | ⟨_, _ | ⟨_, ⟨⟩⟩⟩
  · have whole : '0' :: mark :: rest = body := same
    have held : mark ∈ body := whole ▸ List.mem_cons_of_mem _ List.mem_cons_self
    exact absent mark hm (numeral.digit_of_mem held)
  · cases (List.cons.inj same).1

theorem number_ok_iff : number text = .ok n ↔
    (∃ sign ∈ [[], ['+']], ∃ body, text = sign ++ body ∧ IsNumeral 10 body n ∧ n < 2 ^ 64) ∨
      ∃ mark ∈ ['x', 'X'], ∃ rest, text = '0' :: mark :: rest ∧
        ∃ sign ∈ [[], ['+']], ∃ body, rest = sign ++ body ∧ IsNumeral 16 body n ∧ n < 2 ^ 64 := by
  have hexadecimal (mark : Char) (hm : mark ∈ ['x', 'X']) (digits : List Char) :
      Number.read 16 UInt64.size digits = .ok n ↔
        (∃ sign ∈ [[], ['+']], ∃ body, '0' :: mark :: digits = sign ++ body ∧
          IsNumeral 10 body n ∧ n < 2 ^ 64) ∨
        ∃ mark' ∈ ['x', 'X'], ∃ rest, '0' :: mark :: digits = '0' :: mark' :: rest ∧
          ∃ sign ∈ [[], ['+']], ∃ body, rest = sign ++ body ∧
            IsNumeral 16 body n ∧ n < 2 ^ 64 := by
    rw [Number.read_ok_iff (by decide) (by decide)]
    constructor
    · intro numeral
      exact .inr ⟨mark, hm, digits, rfl, numeral⟩
    · rintro (⟨sign, hs, body, same, numeral, -⟩ | ⟨_, -, _, same, numeral⟩)
      · exact absurd numeral (not_decimal_of_mark hm hs same)
      · simp only [List.cons.injEq, true_and] at same
        exact same.2 ▸ numeral
  unfold number
  split
  next digits => exact hexadecimal 'x' (by decide) digits
  next digits => exact hexadecimal 'X' (by decide) digits
  next lower upper =>
    rw [Number.read_ok_iff (by decide) (by decide)]
    refine ⟨.inl, ?_⟩
    rintro (numeral | ⟨mark, hm, rest, rfl, -⟩)
    · exact numeral
    · rcases hm with _ | ⟨_, _ | ⟨_, ⟨⟩⟩⟩
      · exact absurd rfl (lower rest)
      · exact absurd rfl (upper rest)

theorem number_lt (read : number text = .ok n) : n < 2 ^ 64 := by
  rcases number_ok_iff.mp read with ⟨_, _, _, _, _, below⟩ | ⟨_, _, _, _, _, _, _, _, _, below⟩
  · exact below
  · exact below

theorem ofNumber?_raw {spec : ModifierSpec} {read : Except NumberError Nat}
    (h : ofNumber? read = some spec) (bounded : ∀ n, read = .ok n → n < 2 ^ 64) :
    read = .ok spec.toModifier.raw.toNat := by
  unfold ofNumber? at h
  split at h
  next =>
    cases Option.some.inj h
    rfl
  next raw _ =>
    cases Option.some.inj h
    have fits := bounded raw rfl
    simp only [toModifier, UInt64.toNat_ofNat', Nat.mod_eq_of_lt fits]
  next => cases h

theorem ofNumber?_ok (bounded : n < 2 ^ 64) :
    ∃ spec, ofNumber? (.ok n) = some spec ∧ spec.toModifier.raw.toNat = n := by
  cases n with
  | zero => exact ⟨.linear, rfl, rfl⟩
  | succ n =>
    refine ⟨.value (UInt64.ofNat (n + 1)), rfl, ?_⟩
    simp only [toModifier, UInt64.toNat_ofNat', Nat.mod_eq_of_lt bounded]

/-- Both keywords have a letter that is in no number. -/
theorem not_keyword_of_number {keyword : List Char} (read : number text = .ok n)
    (letter : 'l' ∈ keyword) : text.map Char.toLower ≠ keyword := by
  rintro rfl
  obtain ⟨c, held, lower⟩ := List.mem_map.mp letter
  have digitless : 'l' ∉ Number.digits := by decide
  have signless : ∀ sign ∈ [[], ['+']], ∀ c ∈ sign, c.toLower ≠ 'l' := by simp
  have unmarked : ∀ mark ∈ ['x', 'X'], mark.toLower ≠ 'l' :=
    List.all_iff_forall_prop.mp (by decide)
  have unsigned {base : Nat} {sign body : List Char} (hs : sign ∈ [[], ['+']])
      (numeral : IsNumeral base body n) : c ∉ sign ++ body := by
    intro held
    rcases List.mem_append.mp held with early | late
    · exact signless sign hs c early lower
    · exact digitless (lower ▸ numeral.digit_of_mem late)
  rcases number_ok_iff.mp read with ⟨sign, hs, body, rfl, numeral, -⟩ |
    ⟨mark, hm, _, rfl, sign, hs, body, rfl, numeral, -⟩
  · exact unsigned hs numeral held
  · rcases List.mem_cons.mp held with rfl | later
    · exact absurd lower (by decide)
    · rcases List.mem_cons.mp later with rfl | last
      · exact unmarked _ hm lower
      · exact unsigned hs numeral last

theorem ofChars?_denotes {spec : ModifierSpec} (h : ofChars? text = some spec) :
    Denotes text spec.toModifier.raw.toNat := by
  rw [ofChars?_eq] at h
  split_ifs at h with isLinear isInvalid
  · cases Option.some.inj h
    exact .linear isLinear
  · cases Option.some.inj h
    exact .invalid isInvalid
  · rcases number_ok_iff.mp (ofNumber?_raw h fun _ => number_lt) with
      ⟨sign, hs, body, rfl, numeral, below⟩ |
      ⟨mark, hm, _, rfl, sign, hs, body, rfl, numeral, below⟩
    · exact .decimal hs numeral below
    · exact .hexadecimal hm hs numeral below

theorem Denotes.read (h : Denotes text n) :
    ∃ spec, ofChars? text = some spec ∧ spec.toModifier.raw.toNat = n := by
  have numbered {text : List Char} {n : Nat} (read : number text = .ok n) (below : n < 2 ^ 64) :
      ∃ spec, ofChars? text = some spec ∧ spec.toModifier.raw.toNat = n := by
    rw [ofChars?_eq, if_neg (not_keyword_of_number read (by decide)),
      if_neg (not_keyword_of_number read (by decide)), read]
    exact ofNumber?_ok below
  cases h with
  | linear keyword => exact ⟨.linear, by rw [ofChars?_eq, if_pos keyword], rfl⟩
  | invalid keyword =>
    refine ⟨.invalid, ?_, rfl⟩
    rw [ofChars?_eq, keyword, if_neg (by decide), if_pos rfl]
  | decimal hs numeral below =>
    exact numbered (number_ok_iff.mpr (.inl ⟨_, hs, _, rfl, numeral, below⟩)) below
  | hexadecimal hm hs numeral below =>
    exact numbered (number_ok_iff.mpr (.inr ⟨_, hm, _, rfl, _, hs, _, rfl, numeral, below⟩)) below

/-- A text stands for one modifier at most. -/
theorem Denotes.unique {other : Nat} (h : Denotes text n) (ho : Denotes text other) :
    n = other := by
  obtain ⟨spec, read, rfl⟩ := h.read
  obtain ⟨again, readAgain, rfl⟩ := ho.read
  rw [Option.some.inj (read.symm.trans readAgain)]

end ModifierSpec

end Scanout
