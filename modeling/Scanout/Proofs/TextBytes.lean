import Scanout.Text.Utf8

namespace Scanout.Text

theorem toList_loop (bytes : ByteArray) (i : Nat) (done : List UInt8) :
    ByteArray.toList.loop bytes i done = done.reverse ++ bytes.data.toList.drop i := by
  fun_induction ByteArray.toList.loop bytes i done with
  | case1 i done inside ih =>
    have inside' : i < bytes.data.toList.length := by simpa using inside
    have here : bytes.get! i = bytes.data.toList[i] := getElem!_pos bytes.data i inside
    rw [ih, List.drop_eq_getElem_cons inside', here]
    simp
  | case2 i done past =>
    have past' : bytes.data.toList.length ≤ i := by simpa using past
    rw [List.drop_eq_nil_of_le past', List.append_nil]

/-- The bytes of a text are those of its characters, one after the other. -/
theorem bytes_ofList (chars : List Char) :
    bytes (String.ofList chars) = chars.flatMap String.utf8EncodeChar := by
  unfold bytes
  rw [String.toUTF8_eq_toByteArray, String.toByteArray_ofList, ByteArray.toList, toList_loop]
  simp [List.utf8Encode]

theorem bytes_inj {s t : String} : bytes s = bytes t ↔ s = t := by
  refine ⟨fun same => ?_, congrArg bytes⟩
  simp only [bytes, String.toUTF8_eq_toByteArray, ByteArray.toList, toList_loop] at same
  apply String.toByteArray_inj.mp
  apply ByteArray.ext
  simpa [Array.toList_inj] using same

/-- A character below 128 has one byte, its number. -/
theorem encode_ascii {b : UInt8} (h : b < 128) :
    String.utf8EncodeChar (Char.ofNat b.toNat) = [b] := by
  have hb : b.toNat < 128 := UInt8.lt_iff_toNat_lt.mp h
  have valid : b.toNat.isValidChar := Or.inl (by omega)
  have value : (Char.ofNat b.toNat).val = b.toUInt32 := by
    apply UInt32.toNat_inj.mp
    rw [UInt8.toNat_toUInt32]
    rw [Char.ofNat, dif_pos valid]
    rfl
  have short : (Char.ofNat b.toNat).utf8Size = 1 := by
    rw [Char.utf8Size_eq_one_iff, value, UInt32.le_iff_toNat_le, UInt8.toNat_toUInt32]
    exact Nat.le_of_lt_succ hb
  rw [String.utf8EncodeChar_eq_singleton short, value]
  simp

theorem bytes_ascii {bs : List UInt8} (h : ∀ b ∈ bs, b < 128) :
    bytes (String.ofList (bs.map fun b => Char.ofNat b.toNat)) = bs := by
  rw [bytes_ofList]
  induction bs with
  | nil => rfl
  | cons b rest ih =>
    rw [List.map_cons, List.flatMap_cons, encode_ascii (h b (by simp)),
      ih fun c hc => h c (by simp [hc])]
    rfl

end Scanout.Text
