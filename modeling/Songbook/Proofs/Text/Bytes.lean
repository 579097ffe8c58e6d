import Mathlib.Data.List.Basic

/-!
# The bytes of a text

A text is stored as the UTF-8 bytes of its characters. `Text.bytes` gives these bytes as a list,
so that a scan over bytes can be followed character by character: an ASCII character is the one
byte with its code point, and no byte of any other character is ASCII.
-/

namespace Songbook.Text

/-- The UTF-8 bytes of characters. -/
def bytes (cs : List Char) : List UInt8 := cs.flatMap String.utf8EncodeChar

@[simp] theorem bytes_nil : bytes [] = [] := rfl

theorem bytes_cons (c : Char) (cs : List Char) :
    bytes (c :: cs) = String.utf8EncodeChar c ++ bytes cs := rfl

@[simp] theorem bytes_append (cs ds : List Char) : bytes (cs ++ ds) = bytes cs ++ bytes ds := by
  simp [bytes]

/-- The loop that lists bytes puts what is left of them behind what it has collected. -/
private theorem byteLoop_eq (b : ByteArray) (i : Nat) (collected : List UInt8) :
    ByteArray.toList.loop b i collected = collected.reverse ++ b.data.toList.drop i := by
  fun_induction ByteArray.toList.loop b i collected with
  | case1 i collected hi ih =>
    have hi' : i < b.data.toList.length := by simpa using hi
    have hget : b.get! i = b.data.toList[i] := by
      rw [Array.getElem_toList]
      exact getElem!_pos b.data i hi
    rw [ih, hget, List.drop_eq_getElem_cons hi']
    simp
  | case2 i collected hi =>
    have hlen : b.data.toList.length ≤ i := by simpa using hi
    simp [List.drop_eq_nil_of_le hlen]

theorem toList_eq_toList_data (b : ByteArray) : b.toList = b.data.toList := by
  rw [ByteArray.toList, byteLoop_eq]
  simp

theorem toList_toUTF8_ofList (cs : List Char) : (String.ofList cs).toUTF8.toList = bytes cs := by
  rw [toList_eq_toList_data, String.toUTF8_eq_toByteArray, String.toByteArray_ofList]
  simp [List.utf8Encode, bytes]

/-- The bytes of characters are read back as the text of these characters. -/
theorem fromUTF8?_bytes (cs : List Char) :
    String.fromUTF8? ⟨(bytes cs).toArray⟩ = some (String.ofList cs) := by
  have hbytes : (⟨(bytes cs).toArray⟩ : ByteArray) = (String.ofList cs).toByteArray := by
    rw [← String.toUTF8_eq_toByteArray, ← toList_toUTF8_ofList, toList_eq_toList_data]
  rw [hbytes]
  simp only [String.fromUTF8?, dif_pos (String.ofList cs).isValidUTF8]
  rfl

theorem length_le_length_bytes (cs : List Char) : cs.length ≤ (bytes cs).length := by
  induction cs with
  | nil => exact Nat.le_refl 0
  | cons c cs ih =>
    have hpos := c.utf8Size_pos
    rw [bytes_cons, List.length_append, String.length_utf8EncodeChar, List.length_cons]
    omega

/-- A text has no more characters than bytes. -/
theorem length_le_of_fromUTF8? {b : ByteArray} {s : String} (h : String.fromUTF8? b = some s) :
    s.toList.length ≤ b.data.toList.length := by
  unfold String.fromUTF8? at h
  split at h
  · cases h
    rename_i hvalid
    have hbytes : bytes (String.fromUTF8 b hvalid).toList = b.data.toList := by
      rw [← toList_toUTF8_ofList, String.ofList_toList, toList_eq_toList_data]
      rfl
    rw [← hbytes]
    exact length_le_length_bytes _
  · cases h

theorem utf8EncodeChar_of_lt {c : Char} (h : c.toNat < 128) :
    String.utf8EncodeChar c = [UInt8.ofNat c.toNat] := by
  have h' : c.val.toNat ≤ 0x7f := Nat.le_of_lt_succ h
  exact if_pos h'

/-- No byte of a character beyond ASCII is ASCII. -/
theorem le_of_mem_utf8EncodeChar {c : Char} (h : 128 ≤ c.toNat) {b : UInt8}
    (hb : b ∈ String.utf8EncodeChar c) : 128 ≤ b.toNat := by
  have h' : ¬ c.val.toNat ≤ 0x7f := Nat.not_le_of_lt h
  simp only [String.utf8EncodeChar, h', if_false] at hb
  split at hb
  · simp only [List.mem_cons, List.not_mem_nil, or_false] at hb
    rcases hb with rfl | rfl <;> rw [UInt8.toNat_ofNat'] <;> omega
  · split at hb
    · simp only [List.mem_cons, List.not_mem_nil, or_false] at hb
      rcases hb with rfl | rfl | rfl <;> rw [UInt8.toNat_ofNat'] <;> omega
    · simp only [List.mem_cons, List.not_mem_nil, or_false] at hb
      rcases hb with rfl | rfl | rfl | rfl <;> rw [UInt8.toNat_ofNat'] <;> omega

/-- A byte of a character is an ASCII sign exactly where the character is that sign. -/
theorem eq_of_mem_utf8EncodeChar {c : Char} {n : Nat} (hn : n < 128)
    (hb : UInt8.ofNat n ∈ String.utf8EncodeChar c) : c.toNat = n := by
  by_cases h : c.toNat < 128
  · rw [utf8EncodeChar_of_lt h, List.mem_singleton] at hb
    have hval := congrArg UInt8.toNat hb
    rw [UInt8.toNat_ofNat', UInt8.toNat_ofNat'] at hval
    omega
  · have hval := le_of_mem_utf8EncodeChar (Nat.le_of_not_lt h) hb
    rw [UInt8.toNat_ofNat'] at hval
    omega

end Songbook.Text
