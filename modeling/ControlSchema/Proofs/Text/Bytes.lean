import ControlSchema.Text.Utf8

/-!
# Texts as bytes

A text and the list of its bytes determine each other: the list is the text's
encoding, and a list is read as a text exactly when some text encodes to it.
-/

namespace ControlSchema.Text

theorem loop_eq_append_drop (bytes : ByteArray) (i : Nat) (front : List UInt8) :
    ByteArray.toList.loop bytes i front = front.reverse ++ bytes.data.toList.drop i := by
  by_cases hi : i < bytes.size
  · have hlt : i < bytes.data.toList.length := by simpa using hi
    have hget : bytes.get! i = bytes.data.toList[i] := by
      rw [ByteArray.get!, Array.getElem_toList]
      exact getElem!_pos bytes.data i (by simpa using hi)
    rw [ByteArray.toList.loop, if_pos hi, loop_eq_append_drop, List.drop_eq_getElem_cons hlt, hget]
    simp
  · have hge : bytes.data.toList.length ≤ i := by simpa using Nat.le_of_not_lt hi
    rw [ByteArray.toList.loop, if_neg hi, List.drop_eq_nil_of_le hge, List.append_nil]
termination_by bytes.size - i

theorem toList_eq_toList_data (bytes : ByteArray) : bytes.toList = bytes.data.toList := by
  rw [ByteArray.toList, loop_eq_append_drop, List.reverse_nil, List.nil_append, List.drop_zero]

theorem mk_toList (bytes : ByteArray) : ByteArray.mk bytes.toList.toArray = bytes := by
  rw [toList_eq_toList_data]

theorem toList_mk (bytes : List UInt8) : (ByteArray.mk bytes.toArray).toList = bytes := by
  rw [toList_eq_toList_data]

/-- Characters are encoded one after another. -/
theorem toByteArray_eq_flatMap (s : String) :
    s.toByteArray.data.toList = s.toList.flatMap String.utf8EncodeChar := by
  rw [← String.utf8Encode_toList, List.utf8Encode, List.data_toByteArray, List.toList_toArray]

/-- A character of the first 128 is a byte of its text. -/
theorem mem_toByteArray {s : String} {c : Char} (hc : c.toNat ≤ 127) (h : c ∈ s.toList) :
    UInt8.ofNat c.toNat ∈ s.toByteArray.data.toList := by
  have hchar : String.utf8EncodeChar c = [UInt8.ofNat c.toNat] := if_pos hc
  rw [toByteArray_eq_flatMap]
  exact List.mem_flatMap.2 ⟨c, h, by rw [hchar]; exact List.mem_singleton_self _⟩

theorem length_toUTF8 (s : String) : s.toUTF8.toList.length = s.utf8ByteSize := by
  rw [toList_eq_toList_data]
  rfl

theorem utf8Size_eq_one_iff (c : Char) : c.utf8Size = 1 ↔ c.toNat < 128 := by
  rw [Char.utf8Size_eq_one_iff, UInt32.le_iff_toNat_le]
  exact Nat.lt_succ_iff.symm

theorem length_le_length_flatMap (cs : List Char) :
    cs.length ≤ (cs.flatMap String.utf8EncodeChar).length := by
  induction cs with
  | nil => exact Nat.le_refl 0
  | cons c cs ih =>
    have hc := Char.utf8Size_pos c
    rw [List.flatMap_cons, List.length_append, List.length_cons, String.length_utf8EncodeChar]
    omega

theorem length_flatMap_eq_length_iff (cs : List Char) :
    (cs.flatMap String.utf8EncodeChar).length = cs.length ↔ ∀ c ∈ cs, c.toNat < 128 := by
  induction cs with
  | nil => exact iff_of_true rfl (List.forall_mem_nil _)
  | cons c cs ih =>
    have hc := Char.utf8Size_pos c
    have hle := length_le_length_flatMap cs
    rw [List.flatMap_cons, List.length_append, List.length_cons, List.forall_mem_cons, ← ih,
      ← utf8Size_eq_one_iff, String.length_utf8EncodeChar]
    omega

theorem utf8ByteSize_eq (s : String) :
    s.utf8ByteSize = (s.toList.flatMap String.utf8EncodeChar).length := by
  rw [← length_toUTF8, toList_eq_toList_data, String.toUTF8_eq_toByteArray, toByteArray_eq_flatMap]

theorem length_le_utf8ByteSize (s : String) : s.toList.length ≤ s.utf8ByteSize := by
  rw [utf8ByteSize_eq]
  exact length_le_length_flatMap s.toList

/-- A text has as many bytes as characters when each character is one byte. -/
theorem utf8ByteSize_eq_length_iff (s : String) :
    s.utf8ByteSize = s.length ↔ ∀ c ∈ s.toList, c.toNat < 128 := by
  rw [utf8ByteSize_eq, ← String.length_toList]
  exact length_flatMap_eq_length_iff s.toList

/-- Bytes that are the encoding of some text. -/
def IsUtf8 (bytes : List UInt8) : Prop := (ByteArray.mk bytes.toArray).IsValidUTF8

theorem fromUTF8?_toUTF8 (s : String) :
    String.fromUTF8? (ByteArray.mk s.toUTF8.toList.toArray) = some s := by
  rw [mk_toList, String.toUTF8_eq_toByteArray, String.fromUTF8?, dif_pos s.isValidUTF8]
  rfl

/-- What a text was written as is read as that text. -/
theorem ofBytes_toUTF8 (s : String) : ofBytes s.toUTF8 = .ok s := by
  rw [ofBytes, ← mk_toList s.toUTF8, fromUTF8?_toUTF8]

theorem eq_of_toUTF8 {s t : String} (h : s.toUTF8 = t.toUTF8) : s = t := by
  have hs := ofBytes_toUTF8 s
  rw [h, ofBytes_toUTF8] at hs
  exact (Except.ok.inj hs).symm

theorem fromUTF8?_of_isUtf8 {bytes : List UInt8} (h : IsUtf8 bytes) :
    ∃ s, String.fromUTF8? (ByteArray.mk bytes.toArray) = some s ∧ s.toUTF8.toList = bytes :=
  ⟨_, dif_pos h, toList_mk bytes⟩

theorem fromUTF8?_of_not_isUtf8 {bytes : List UInt8} (h : ¬ IsUtf8 bytes) :
    String.fromUTF8? (ByteArray.mk bytes.toArray) = none :=
  dif_neg h

end ControlSchema.Text
