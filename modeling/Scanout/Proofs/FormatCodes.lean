import Mathlib.Data.Nat.Digits.Defs
import Scanout.Fourcc
import Scanout.Proofs.TextBytes

namespace Scanout.Fourcc

open Text (bytes)

/-- The number that bytes are in base 256, the first the least significant. -/
def littleEndian (bs : List UInt8) : Nat :=
  Nat.ofDigits 256 (bs.map UInt8.toNat)

theorem littleEndian_four (a b c d : UInt8) : littleEndian [a, b, c, d] =
    a.toNat + b.toNat * 2 ^ 8 + c.toNat * 2 ^ 16 + d.toNat * 2 ^ 24 := by
  simp [littleEndian, Nat.ofDigits_cons]
  omega

/-- A number above the bits of another one is added to it. -/
theorem or_shiftLeft {low high k : Nat} (h : low < 2 ^ k) :
    low ||| high <<< k = low + high * 2 ^ k := by
  rw [Nat.or_comm, ← Nat.shiftLeft_add_eq_or_of_lt h, Nat.shiftLeft_eq, Nat.add_comm]

/-- A byte at a position inside the word keeps all its bits. -/
theorem shiftLeft_inWord (b : UInt8) {k : Nat} (h : k ≤ 24) :
    b.toNat <<< k % 2 ^ 32 = b.toNat <<< k := by
  have hb : b.toNat + 1 ≤ 2 ^ 8 := b.toNat_lt
  have inside : (b.toNat + 1) * 2 ^ k ≤ 2 ^ 8 * 2 ^ 24 :=
    Nat.mul_le_mul hb (Nat.pow_le_pow_right (by decide) h)
  have above : 0 < 2 ^ k := Nat.two_pow_pos k
  rw [Nat.shiftLeft_eq, Nat.mod_eq_of_lt]
  linarith

theorem toNat_pack (a b c d : UInt8) : (pack a b c d).toNat = littleEndian [a, b, c, d] := by
  have ha : a.toNat < 2 ^ 8 := a.toNat_lt
  have hb := b.toNat_lt
  have hc := c.toNat_lt
  have two : a.toNat + b.toNat * 2 ^ 8 < 2 ^ 16 := by omega
  have three : a.toNat + b.toNat * 2 ^ 8 + c.toNat * 2 ^ 16 < 2 ^ 24 := by omega
  simp only [pack, UInt32.toNat_or, UInt32.toNat_shiftLeft, UInt8.toNat_toUInt32,
    UInt32.reduceToNat, Nat.reduceMod]
  rw [shiftLeft_inWord b (by decide), shiftLeft_inWord c (by decide),
    shiftLeft_inWord d (by decide), or_shiftLeft ha, or_shiftLeft two, or_shiftLeft three,
    littleEndian_four]

theorem toNat_unpack (value : UInt32) : (unpack value).map UInt8.toNat =
    [value.toNat % 2 ^ 8, value.toNat / 2 ^ 8 % 2 ^ 8, value.toNat / 2 ^ 16 % 2 ^ 8,
      value.toNat / 2 ^ 24 % 2 ^ 8] := by
  simp [unpack, Nat.shiftRight_eq_div_pow]

/-- Splitting a number into its four bytes keeps it. -/
theorem littleEndian_unpack (value : UInt32) : littleEndian (unpack value) = value.toNat := by
  have inWord := value.toNat_lt
  rw [littleEndian, toNat_unpack]
  simp only [Nat.ofDigits_cons, Nat.ofDigits_nil]
  omega

theorem unpack_pack (a b c d : UInt8) : unpack (pack a b c d) = [a, b, c, d] := by
  have ha := a.toNat_lt
  have hb := b.toNat_lt
  have hc := c.toNat_lt
  have hd := d.toNat_lt
  apply (List.map_inj_right fun _ _ => UInt8.toNat_inj.mp).mp
  rw [toNat_unpack, toNat_pack, littleEndian_four]
  simp only [List.map_cons, List.map_nil, List.cons.injEq, and_true]
  omega

/-- Four bytes make the number that splits into them. -/
theorem ofBytes?_eq_some_iff {bs : List UInt8} {value : UInt32} :
    ofBytes? bs = some value ↔ unpack value = bs := by
  constructor
  · intro h
    unfold ofBytes? at h
    split at h
    next a b c d =>
      cases Option.some.inj h
      exact unpack_pack a b c d
    next => simp at h
  · rintro rfl
    refine congrArg some (UInt32.toNat_inj.mp ?_)
    rw [toNat_pack]
    exact littleEndian_unpack value

theorem ofBytes?_eq_none_iff {bs : List UInt8} : ofBytes? bs = none ↔ bs.length ≠ 4 := by
  unfold ofBytes?
  split
  next => simp
  next other =>
    refine iff_of_true rfl fun four => ?_
    match bs, four with
    | [a, b, c, d], _ => exact other a b c d rfl

/-- A printable ASCII character other than the space. -/
def IsGraphic (b : UInt8) : Prop :=
  0x21 ≤ b ∧ b ≤ 0x7e

/-- That a text is four bytes long, each a graphic character or a space. -/
structure IsCode (text : String) : Prop where
  length : (bytes text).length = 4
  printable : ∀ b ∈ bytes text, IsGraphic b ∨ b = 0x20

theorem isCodeByte_iff {b : UInt8} : isCodeByte b = true ↔ IsGraphic b ∨ b = 0x20 := by
  simp only [isCodeByte, IsGraphic, Bool.and_eq_true, decide_eq_true_eq, UInt8.le_iff_toNat_le,
    ← UInt8.toNat_inj, UInt8.reduceToNat]
  omega

theorem lt_of_isCodeByte {b : UInt8} (h : isCodeByte b = true) : b < 128 := by
  have within : b ≤ 0x7e := of_decide_eq_true (Bool.and_eq_true_iff.mp h).2
  exact UInt8.lt_of_le_of_lt within (by decide)

theorem isCode_iff {text : String} :
    IsCode text ↔ (bytes text).length = 4 ∧ (bytes text).all isCodeByte = true := by
  simp only [List.all_eq_true, isCodeByte_iff]
  exact ⟨fun h => ⟨h.length, h.printable⟩, fun h => ⟨h.1, h.2⟩⟩

/-- A number is spelled with its bytes where they are printable. -/
theorem bytes_code {format : Fourcc} (h : (unpack format.value).all isCodeByte = true) :
    bytes format.code = unpack format.value :=
  Text.bytes_ascii fun b hb => lt_of_isCodeByte (List.all_eq_true.mp h b hb)

/-- What a conversion of numbers to formats gives: the formats of a table, under their own numbers,
and no others. -/
structure Recognizes (recognize : UInt32 → Option Fourcc) (known : List UInt32) : Prop where
  accepts : ∀ value, (∃ format, recognize value = some format) ↔ value ∈ known
  value : ∀ value format, recognize value = some format → format.value = value

theorem recognizes_ofListed? (known : List UInt32) : Recognizes (ofListed? known) known where
  accepts value := by
    unfold ofListed?
    split_ifs with listed <;> simp [listed]
  value value format h := by
    unfold ofListed? at h
    split_ifs at h
    rw [← Option.some.inj h]

variable {text : String} {format : Fourcc} {recognize : UInt32 → Option Fourcc}
  {known : List UInt32}

theorem Recognizes.eq_some_iff (table : Recognizes recognize known) {value : UInt32} :
    recognize value = some format ↔ format.value = value ∧ value ∈ known := by
  constructor
  · intro found
    exact ⟨table.value value format found, (table.accepts value).mp ⟨format, found⟩⟩
  · rintro ⟨rfl, listed⟩
    obtain ⟨other, found⟩ := (table.accepts _).mpr listed
    rw [found]
    exact congrArg (some ∘ Fourcc.mk) (table.value _ _ found)

theorem Recognizes.eq_none_iff (table : Recognizes recognize known) {value : UInt32} :
    recognize value = none ↔ value ∉ known := by
  rw [← table.accepts, not_exists]
  exact Option.eq_none_iff_forall_ne_some

theorem parse_of_not_isCode (h : ¬IsCode text) :
    parse text recognize = .error (.notFourCharacters text) := by
  unfold parse
  dsimp only
  split
  next => rfl
  next value read =>
    have spelled : unpack value = bytes text := ofBytes?_eq_some_iff.mp read
    have length : (bytes text).length = 4 := by
      rw [← spelled]
      rfl
    have other : (bytes text).all isCodeByte = false :=
      Bool.eq_false_iff.mpr fun all => h (isCode_iff.mpr ⟨length, all⟩)
    exact if_pos (congrArg Bool.not other)

theorem IsCode.exists_number (h : IsCode text) : ∃ value, unpack value = bytes text := by
  cases read : ofBytes? (bytes text) with
  | none => exact absurd h.length (ofBytes?_eq_none_iff.mp read)
  | some value => exact ⟨value, ofBytes?_eq_some_iff.mp read⟩

/-- A text that is a code stands for the number with its bytes. -/
theorem IsCode.parse (h : IsCode text) {value : UInt32} (spelled : unpack value = bytes text) :
    parse text recognize = (recognize value).elim (.error (.unknown text)) .ok := by
  have read : ofBytes? text.toUTF8.toList = some value := ofBytes?_eq_some_iff.mpr spelled
  have all : text.toUTF8.toList.all isCodeByte = true := (isCode_iff.mp h).2
  unfold Fourcc.parse
  simp only [read, all, Bool.not_true, Bool.false_eq_true, if_false]
  cases recognize value <;> rfl

theorem unpack_inj {value other : UInt32} (h : unpack value = unpack other) : value = other := by
  have same := congrArg littleEndian h
  rw [littleEndian_unpack, littleEndian_unpack] at same
  exact UInt32.toNat_inj.mp same

theorem parse_eq_ok_iff (table : Recognizes recognize known) : parse text recognize = .ok format ↔
    IsCode text ∧ unpack format.value = bytes text ∧ format.value ∈ known := by
  by_cases h : IsCode text
  · obtain ⟨value, same⟩ := h.exists_number
    have found : parse text recognize = .ok format ↔ recognize value = some format := by
      rw [h.parse same]
      cases recognize value <;> simp
    rw [found, table.eq_some_iff]
    constructor
    · rintro ⟨rfl, listed⟩
      exact ⟨h, same, listed⟩
    · rintro ⟨-, spelled, listed⟩
      have number : format.value = value := unpack_inj (spelled.trans same.symm)
      exact ⟨number, number ▸ listed⟩
  · rw [parse_of_not_isCode h]
    exact ⟨fun ok => by simp at ok, fun ok => absurd ok.1 h⟩

/-- The number with a text's bytes is the one they are in base 256. -/
theorem unpack_eq_bytes_iff (h : IsCode text) {value : UInt32} :
    unpack value = bytes text ↔ value.toNat = littleEndian (bytes text) := by
  constructor
  · intro same
    rw [← same, littleEndian_unpack]
  · intro same
    obtain ⟨other, spelled⟩ := h.exists_number
    rw [← spelled, littleEndian_unpack] at same
    rw [UInt32.toNat_inj.mp same, spelled]

theorem code_of_parse (table : Recognizes recognize known)
    (h : parse text recognize = .ok format) : format.code = text := by
  obtain ⟨isCode, spelled, -⟩ := (parse_eq_ok_iff table).mp h
  apply Text.bytes_inj.mp
  rw [bytes_code (by rw [spelled]; exact (isCode_iff.mp isCode).2), spelled]

/-- The spelling of a known format is read as that format just if it can be printed. -/
theorem parse_code_iff (table : Recognizes recognize known) (listed : format.value ∈ known) :
    parse format.code recognize = .ok format ↔
      ∀ b ∈ unpack format.value, IsGraphic b ∨ b = 0x20 := by
  rw [parse_eq_ok_iff table]
  constructor
  · rintro ⟨isCode, spelled, -⟩
    rw [spelled]
    exact isCode.printable
  · intro printable
    have spelled : bytes format.code = unpack format.value :=
      bytes_code (List.all_eq_true.mpr fun b held => isCodeByte_iff.mpr (printable b held))
    exact ⟨⟨by rw [spelled]; rfl, by rwa [spelled]⟩, spelled.symm, listed⟩

theorem parse_eq_error_iff (table : Recognizes recognize known) {e : FormatError} :
    parse text recognize = .error e ↔
      (e = .notFourCharacters text ∧ ¬IsCode text) ∨
      (e = .unknown text ∧ IsCode text ∧
        ∀ value ∈ known, value.toNat ≠ littleEndian (bytes text)) := by
  by_cases h : IsCode text
  · obtain ⟨value, spelled⟩ := h.exists_number
    have number := (unpack_eq_bytes_iff h).mp spelled
    have unlisted_iff : (∀ other ∈ known, other.toNat ≠ littleEndian (bytes text)) ↔
        recognize value = none := by
      rw [← number, table.eq_none_iff]
      refine ⟨fun differ listed => differ value listed rfl, fun unlisted other listed same => ?_⟩
      exact unlisted (UInt32.toNat_inj.mp same ▸ listed)
    rw [h.parse spelled, unlisted_iff]
    cases recognize value <;> simp [h, eq_comm]
  · rw [parse_of_not_isCode h]
    simp [h, eq_comm]

/-- Of a table of formats, the texts that are read are those of four printable bytes that are the
number of a format in it, lowest first. Such a text is the spelling of the format it is read as, and
the spelling of every format that can be printed is read as that format. What is not read is
complained about by its form first. -/
theorem formats_read {recognize : UInt32 → Option Fourcc} {known : List UInt32}
    (table : Recognizes recognize known) :
    (∀ text format, parse text recognize = .ok format ↔
      IsCode text ∧ format.value.toNat = littleEndian (bytes text) ∧ format.value ∈ known) ∧
    (∀ text e, parse text recognize = .error e ↔
      (e = .notFourCharacters text ∧ ¬IsCode text) ∨
      (e = .unknown text ∧ IsCode text ∧
        ∀ value ∈ known, value.toNat ≠ littleEndian (bytes text))) ∧
    (∀ text format, parse text recognize = .ok format → format.code = text) ∧
    (∀ text other format, parse text recognize = .ok format →
      parse other recognize = .ok format → text = other) ∧
    ∀ format : Fourcc, format.value ∈ known →
      (parse format.code recognize = .ok format ↔
        ∀ b ∈ unpack format.value, IsGraphic b ∨ b = 0x20) := by
  refine ⟨fun text format => ?_, fun text e => parse_eq_error_iff table,
    fun _ _ => code_of_parse table,
    fun _ _ _ h ho => (code_of_parse table h).symm.trans (code_of_parse table ho),
    fun _ => parse_code_iff table⟩
  rw [parse_eq_ok_iff table]
  exact and_congr_right fun h => and_congr_left fun _ => unpack_eq_bytes_iff h

/-- A code that ends in spaces is read and spelled, and three characters in four bytes are none. The
mark for a byte order is known but has no spelling that is read. -/
theorem formats_read_padded : Recognizes (ofListed? listed) listed ∧
    parse "R8  " (ofListed? listed) = .ok ⟨0x20203852⟩ ∧ Fourcc.code ⟨0x20203852⟩ = "R8  " ∧
    parse "éR2" (ofListed? listed) = .error (.notFourCharacters "éR2") ∧
    (0x80000000 ∈ listed ∧
      parse (Fourcc.code ⟨0x80000000⟩) (ofListed? listed) ≠ .ok ⟨0x80000000⟩) := by
  have table := recognizes_ofListed? listed
  obtain ⟨read_iff, failed_iff, spelled, -, printed_iff⟩ := formats_read table
  have read : parse "R8  " (ofListed? listed) = .ok ⟨0x20203852⟩ := by decide +kernel
  have accented : ¬IsCode "éR2" := by
    intro h
    have first : (0xc3 : UInt8) ∈ bytes "éR2" := by decide +kernel
    have graphic := h.printable _ first
    simp [IsGraphic] at graphic
  have marked : 0x80000000 ∈ listed := List.mem_cons_self
  refine ⟨table, read, spelled _ _ read, (failed_iff _ _).mpr (.inl ⟨rfl, accented⟩), marked, ?_⟩
  intro unprinted
  have last : (0x80 : UInt8) ∈ unpack 0x80000000 := by decide
  have graphic := (printed_iff ⟨0x80000000⟩ marked).mp unprinted _ last
  simp [IsGraphic] at graphic

end Scanout.Fourcc
