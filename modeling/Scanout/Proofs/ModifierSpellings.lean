import Scanout.Proofs.ModifierText
import Scanout.Text.Quoted

namespace Scanout

open Number (IsNumeral isNumeral_toDigits)

namespace ModifierSpec

variable {text : List Char} {spec : ModifierSpec} {n : Nat}

theorem ofChars?_eq_some_iff_denotes :
    (∃ spec, ofChars? text = some spec ∧ spec.toModifier.raw.toNat = n) ↔ Denotes text n := by
  constructor
  · rintro ⟨spec, read, rfl⟩
    exact ofChars?_denotes read
  · exact Denotes.read

/-- No number is read as the keyword, and zero not as a value. -/
theorem ofNumber?_number (h : ofNumber? (number text) = some spec) :
    spec ≠ .invalid ∧ spec ≠ .value 0 := by
  cases read : number text with
  | error e => simp [ofNumber?, read] at h
  | ok n =>
    have below := number_lt read
    rw [read] at h
    cases n with
    | zero =>
      cases Option.some.inj h
      simp
    | succ n =>
      cases Option.some.inj h
      have positive : UInt64.ofNat (n + 1) ≠ 0 := by
        intro zero
        have := congrArg UInt64.toNat zero
        rw [UInt64.toNat_ofNat', Nat.mod_eq_of_lt below] at this
        simp at this
      simpa using positive

theorem ofChars?_ne_value_zero : ofChars? text ≠ some (.value 0) := by
  intro h
  rw [ofChars?_eq] at h
  split_ifs at h with isLinear isInvalid
  · cases Option.some.inj h
  · cases Option.some.inj h
  · exact (ofNumber?_number h).2 rfl

theorem ofChars?_eq_linear_iff : ofChars? text = some .linear ↔ Denotes text 0 := by
  constructor
  · exact ofChars?_denotes
  · intro zero
    obtain ⟨spec, read, raw⟩ := zero.read
    cases spec with
    | linear => exact read
    | invalid => cases raw
    | value own =>
      have none : own = 0 := UInt64.toNat_inj.mp raw
      exact absurd (none ▸ read) ofChars?_ne_value_zero

theorem ofChars?_eq_invalid_iff :
    ofChars? text = some .invalid ↔ text.map Char.toLower = "invalid".toList := by
  rw [ofChars?_eq]
  constructor
  · intro h
    split_ifs at h with isLinear isInvalid
    · cases Option.some.inj h
    · exact isInvalid
    · exact absurd rfl (ofNumber?_number h).1
  · intro keyword
    rw [keyword, if_neg (by decide), if_pos rfl]

/-- A text that stands for a word is read as that word. -/
theorem parse?_of_denotes {text : String} {raw : UInt64} (h : Denotes text.toList raw.toNat) :
    (parse? text).map (·.toModifier.raw) = some raw := by
  obtain ⟨spec, read, same⟩ := h.read
  rw [parse?, read, Option.map_some, UInt64.toNat_inj.mp same]

theorem lowerCase_digits : ∀ c ∈ Number.digits, (id c).toLower = c :=
  List.all_iff_forall_prop.mp (by decide)

theorem upperCase_digits : ∀ c ∈ Number.digits, c.toUpper.toLower = c :=
  List.all_iff_forall_prop.mp (by decide)

theorem denotes_decimal (raw : UInt64) : Denotes (toString raw).toList raw.toNat := by
  have written : (toString raw).toList = [] ++ (Nat.toDigits 10 raw.toNat).map id := by
    rw [List.map_id, List.nil_append]
    exact Nat.toList_repr
  rw [written]
  have numeral : IsNumeral 10 ((Nat.toDigits 10 raw.toNat).map id) raw.toNat :=
    isNumeral_toDigits lowerCase_digits (by decide) (by decide) raw.toNat
  exact .decimal (by simp) numeral raw.toNat_lt

theorem denotes_hexadecimal {spelled : Char → Char}
    (cased : ∀ c ∈ Number.digits, (spelled c).toLower = c) (raw : UInt64) (zeros : Nat) :
    Denotes ('0' :: 'x' :: (List.replicate zeros '0' ++
      (Nat.toDigits 16 raw.toNat).map spelled)) raw.toNat := by
  have numeral : IsNumeral 16 ((Nat.toDigits 16 raw.toNat).map spelled) raw.toNat :=
    isNumeral_toDigits cased (by decide) (by decide) raw.toNat
  have padded := numeral.zeros (by decide) zeros
  exact @Denotes.hexadecimal 'x' [] _ _ (by decide) (by decide) padded raw.toNat_lt

/-- A text is read just if it is a keyword in any case or a number that fits the word, and then as
what it stands for. Zero is the linear layout, however it is spelled. So a word that is printed,
in decimal or in hexadecimal digits of either case behind `0x`, is read back. -/
theorem modifier_read_iff :
    (∀ text n, (∃ spec, parse? text = some spec ∧ spec.toModifier.raw.toNat = n) ↔
      Denotes text.toList n) ∧
    (∀ text, parse? text = some .linear ↔ Denotes text.toList 0) ∧
    (∀ text, parse? text = some .invalid ↔
      text.toList.map Char.toLower = "invalid".toList) ∧
    (∀ text, parse? text ≠ some (.value 0)) ∧
    ∀ raw : UInt64,
      (parse? (toString raw)).map (·.toModifier.raw) = some raw ∧
      ∀ width,
        (parse? ("0x" ++ Text.hexPadded width raw.toNat)).map (·.toModifier.raw) = some raw ∧
        (parse? ("0x" ++ (Text.hexPadded width raw.toNat).toUpper)).map (·.toModifier.raw) =
          some raw := by
  refine ⟨fun _ _ => ofChars?_eq_some_iff_denotes, fun _ => ofChars?_eq_linear_iff,
    fun _ => ofChars?_eq_invalid_iff, fun _ => ofChars?_ne_value_zero, fun raw => ?_⟩
  refine ⟨parse?_of_denotes (denotes_decimal raw), fun width => ⟨?_, ?_⟩⟩
  · apply parse?_of_denotes
    simpa [Text.hexPadded] using denotes_hexadecimal lowerCase_digits raw _
  · apply parse?_of_denotes
    simpa [Text.hexPadded, String.toUpper] using denotes_hexadecimal upperCase_digits raw _

end ModifierSpec

end Scanout
