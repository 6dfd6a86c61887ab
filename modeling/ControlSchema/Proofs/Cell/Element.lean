import ControlSchema.Cell
import ControlSchema.Proofs.Number.Exact

/-!
# Elements and their bytes

An element is written as words of one, four or eight bytes, least significant
byte first, and read by taking the same bytes off the front. Both directions
come down to two facts about a word: a number below the word's weight survives
being written and read, and bytes survive being read and written. A bounded
integer adds one more step, the reduction modulo the weight, and that is undone
because its bounds are exactly as far apart as the word is wide.

Two kinds lose something on the way from bytes to elements. Any byte that is
not zero reads as true and is written as one, and a word that is not a number
is made quiet. `Restored` says so, kind by kind.
-/

namespace ControlSchema

open Number

/-! ## Words -/

theorem length_littleEndian (width n : Nat) : (littleEndian width n).length = width := by
  induction width generalizing n with
  | zero => rfl
  | succ width ih => simp [littleEndian, ih]

theorem ofLittleEndian_littleEndian {width n : Nat} (hn : n < 256 ^ width) :
    ofLittleEndian (littleEndian width n) = n := by
  induction width generalizing n with
  | zero =>
    rw [Nat.pow_zero] at hn
    exact (Nat.lt_one_iff.1 hn).symm
  | succ width ih =>
    have hrest : n / 256 < 256 ^ width := by
      rw [Nat.div_lt_iff_lt_mul (by decide), ← Nat.pow_succ]
      exact hn
    rw [littleEndian, ofLittleEndian, ih hrest, UInt8.toNat_ofNat']
    exact Nat.mod_add_div n 256

theorem littleEndian_ofLittleEndian (bytes : List UInt8) :
    littleEndian bytes.length (ofLittleEndian bytes) = bytes := by
  induction bytes with
  | nil => rfl
  | cons b rest ih =>
    have hb : b.toNat < 256 := b.toNat_lt
    have hdiv : (b.toNat + 256 * ofLittleEndian rest) / 256 = ofLittleEndian rest := by omega
    have hmod : UInt8.ofNat (b.toNat + 256 * ofLittleEndian rest) = b := by
      rw [← UInt8.toNat_inj, UInt8.toNat_ofNat']
      omega
    rw [List.length_cons, littleEndian, ofLittleEndian, hdiv, hmod, ih]

theorem ofLittleEndian_lt (bytes : List UInt8) :
    ofLittleEndian bytes < 256 ^ bytes.length := by
  induction bytes with
  | nil => exact Nat.one_pos
  | cons b rest ih =>
    have hb : b.toNat < 256 := b.toNat_lt
    rw [ofLittleEndian, List.length_cons, Nat.pow_succ]
    omega

/-! ## Bounded integers -/

namespace Ranged

variable {low high : Int} {width : Nat}

theorem word_lt (n : Ranged low high) : n.word width < 256 ^ width := by
  have hweight : (0 : Int) < 256 ^ width := Int.pow_pos (by decide)
  have hlt := Int.emod_lt_of_pos n.val hweight
  have hnonneg := Int.emod_nonneg n.val hweight.ne'
  rw [word, Int.toNat_lt hnonneg]
  exact_mod_cast hlt

theorem wrap_word (h : low ≤ high) (hweight : high - low + 1 = 256 ^ width)
    (n : Ranged low high) : wrap h (n.word width : Nat) = n := by
  have hpos : (0 : Int) < 256 ^ width := Int.pow_pos (by decide)
  have hlow := n.low_le
  have hhigh := n.le_high
  obtain ⟨val, _, _⟩ := n
  simp only [wrap, word, Ranged.mk.injEq, hweight,
    Int.toNat_of_nonneg (Int.emod_nonneg val hpos.ne'), Int.emod_sub_emod]
  rw [Int.emod_eq_of_lt (by omega) (by omega)]
  omega

theorem word_wrap (h : low ≤ high) (hweight : high - low + 1 = 256 ^ width) {n : Nat}
    (hn : n < 256 ^ width) : (wrap h (n : Int)).word width = n := by
  have hmod : ((low + ((n : Int) - low) % 256 ^ width) % 256 ^ width) = n := by
    rw [Int.add_emod_emod, show low + ((n : Int) - low) = n by omega]
    exact Int.emod_eq_of_lt (by omega) (by exact_mod_cast hn)
  simp only [wrap, word, hweight, hmod, Int.toNat_natCast]

end Ranged

theorem single_weight : 2 * Format.single.signWeight = 256 ^ 4 := by decide

namespace ElementKind

/-! ## Reading what was written -/

theorem length_write (kind : ElementKind) (e : kind.Element) :
    (kind.write e).length = kind.width := by
  cases kind <;> simp [write, width, length_littleEndian]

theorem take_littleEndian (width n : Nat) (rest : List UInt8) :
    (littleEndian width n ++ rest).take width = littleEndian width n :=
  List.take_left' (length_littleEndian width n)

theorem wordAt_littleEndian {before : List UInt8} {offset n : Nat} (hn : n < 256 ^ 4)
    (hoffset : before.length = offset) (rest : List UInt8) :
    wordAt (before ++ (littleEndian 4 n ++ rest)) offset = n := by
  rw [wordAt, List.drop_left' hoffset, take_littleEndian, ofLittleEndian_littleEndian hn]

theorem signedAt_littleEndian (before : List UInt8) {offset : Nat}
    (hoffset : before.length = offset) (n : Signed32) (rest : List UInt8) :
    signedAt (before ++ (littleEndian 4 (n.word 4) ++ rest)) offset = n := by
  rw [signedAt, wordAt_littleEndian n.word_lt hoffset]
  exact Ranged.wrap_word _ (by norm_num) n

theorem unsignedAt_littleEndian (before : List UInt8) {offset : Nat}
    (hoffset : before.length = offset) (n : Unsigned32) (rest : List UInt8) :
    unsignedAt (before ++ (littleEndian 4 (n.word 4) ++ rest)) offset = n := by
  rw [unsignedAt, wordAt_littleEndian n.word_lt hoffset]
  exact Ranged.wrap_word _ (by norm_num) n

/-- Only a word that is not a number reads as another. -/
def Defined : (kind : ElementKind) → kind.Element → Prop
  | .float, x => ¬ x.isUndefined
  | _, _ => True

theorem read_write_append (kind : ElementKind) {e : kind.Element} (he : kind.Defined e)
    (rest : List UInt8) : kind.read (kind.write e ++ rest) = e := by
  have hlength (n : Nat) : (littleEndian 4 n).length = 4 := length_littleEndian 4 n
  cases kind
  case bool => cases e <;> rfl
  case byte =>
    rw [read, write, take_littleEndian, ofLittleEndian_littleEndian e.word_lt]
    exact Ranged.wrap_word _ (by norm_num) e
  case int32 => exact signedAt_littleEndian [] rfl e rest
  case int64 =>
    rw [read, write, take_littleEndian, ofLittleEndian_littleEndian e.word_lt]
    exact Ranged.wrap_word _ (by norm_num) e
  case float =>
    have hbits : Binary.bits e < 256 ^ 4 := single_weight ▸ Binary.bits_lt e
    rw [read, write, take_littleEndian, ofLittleEndian_littleEndian hbits, Binary.ofBits_bits]
    exact Binary.convert_self (by decide) he
  case rectangle =>
    obtain ⟨x, y, w, h⟩ := e
    have hx := signedAt_littleEndian [] List.length_nil x
    have hy := signedAt_littleEndian _ (hlength (x.word 4)) y
    have hw := @unsignedAt_littleEndian
      (littleEndian 4 (x.word 4) ++ littleEndian 4 (y.word 4)) 8 (by simp [hlength]) w
    have hh := @unsignedAt_littleEndian
      (littleEndian 4 (x.word 4) ++ littleEndian 4 (y.word 4) ++ littleEndian 4 (w.word 4)) 12
      (by simp [hlength]) h
    simp only [List.nil_append, List.append_assoc] at hx hy hw hh
    simp only [read, write, List.append_assoc, hx, hy, hw, hh]
  case size =>
    obtain ⟨w, h⟩ := e
    have hw := unsignedAt_littleEndian [] List.length_nil w
    have hh := unsignedAt_littleEndian _ (hlength (w.word 4)) h
    simp only [List.nil_append] at hw
    simp only [read, write, List.append_assoc, hw, hh]
  case point =>
    obtain ⟨x, y⟩ := e
    have hx := signedAt_littleEndian [] List.length_nil x
    have hy := signedAt_littleEndian _ (hlength (x.word 4)) y
    simp only [List.nil_append] at hx
    simp only [read, write, List.append_assoc, hx, hy]

/-! ## Writing what was read -/

/-- Four bytes at an offset, read and written again. -/
theorem littleEndian_wordAt {bytes : List UInt8} {offset : Nat}
    (h : offset + 4 ≤ bytes.length) :
    littleEndian 4 (ofLittleEndian ((bytes.drop offset).take 4)) = (bytes.drop offset).take 4 := by
  have hlength : ((bytes.drop offset).take 4).length = 4 := by
    rw [List.length_take, List.length_drop]
    omega
  have hbytes := littleEndian_ofLittleEndian ((bytes.drop offset).take 4)
  rwa [hlength] at hbytes

theorem ofLittleEndian_take_lt (bytes : List UInt8) (width : Nat) :
    ofLittleEndian (bytes.take width) < 256 ^ width :=
  Nat.lt_of_lt_of_le (ofLittleEndian_lt _)
    (Nat.pow_le_pow_right (by decide) (List.length_take_le width bytes))

theorem littleEndian_signedAt {bytes : List UInt8} {offset : Nat}
    (h : offset + 4 ≤ bytes.length) :
    littleEndian 4 ((signedAt bytes offset).word 4) = (bytes.drop offset).take 4 := by
  rw [signedAt, wordAt, Ranged.word_wrap _ (by norm_num) (ofLittleEndian_take_lt _ 4)]
  exact littleEndian_wordAt h

theorem littleEndian_unsignedAt {bytes : List UInt8} {offset : Nat}
    (h : offset + 4 ≤ bytes.length) :
    littleEndian 4 ((unsignedAt bytes offset).word 4) = (bytes.drop offset).take 4 := by
  rw [unsignedAt, wordAt, Ranged.word_wrap _ (by norm_num) (ofLittleEndian_take_lt _ 4)]
  exact littleEndian_wordAt h

theorem littleEndian_take {bytes : List UInt8} {width : Nat} (h : width ≤ bytes.length) :
    littleEndian width (ofLittleEndian (bytes.take width)) = bytes.take width := by
  have hbytes := littleEndian_ofLittleEndian (bytes.take width)
  rwa [List.length_take_of_le h] at hbytes

/-- Whether four bytes are a word that is not a number. -/
def IsNotNumber (bytes : List UInt8) : Prop :=
  (Binary.ofBits .single (ofLittleEndian bytes)).isUndefined

/-- What the bytes of an element become when they are read and written again:
any byte that is not zero is the truth value one, a word that is not a number
stays none, and all else stays as it is. -/
def Restored : ElementKind → List UInt8 → List UInt8 → Prop
  | .bool, old, new => new = old.map fun b => if b = 0 then 0 else 1
  | .float, old, new => new = old ∨ IsNotNumber old ∧ IsNotNumber new ∧ new.length = old.length
  | _, old, new => new = old

theorem restored_write_read (kind : ElementKind) {bytes : List UInt8}
    (h : kind.width ≤ bytes.length) :
    kind.Restored (bytes.take kind.width) (kind.write (kind.read bytes)) := by
  cases kind
  case bool =>
    obtain ⟨b, rest, rfl⟩ : ∃ b rest, bytes = b :: rest := List.exists_cons_of_length_pos h
    by_cases hb : b = 0 <;> simp [Restored, read, write, width, hb]
  case byte =>
    show littleEndian 1 _ = bytes.take 1
    rw [read, Ranged.word_wrap _ (by norm_num) (ofLittleEndian_take_lt _ 1)]
    exact littleEndian_take h
  case int32 => exact @littleEndian_signedAt bytes 0 (by simpa [width] using h)
  case int64 =>
    show littleEndian 8 _ = bytes.take 8
    rw [read, Ranged.word_wrap _ (by norm_num) (ofLittleEndian_take_lt _ 8)]
    exact littleEndian_take h
  case float =>
    have hword : ofLittleEndian (bytes.take 4) < 2 * Format.single.signWeight :=
      single_weight ▸ ofLittleEndian_take_lt bytes 4
    by_cases hnan : (Binary.ofBits .single (ofLittleEndian (bytes.take 4))).isUndefined
    · have hquiet := Binary.isUndefined_convert_self (by decide) hnan
      have hbits : Binary.bits (ElementKind.float.read bytes) < 256 ^ 4 :=
        single_weight ▸ Binary.bits_lt _
      refine Or.inr ⟨hnan, ?_, ?_⟩
      · rw [IsNotNumber, write, ofLittleEndian_littleEndian hbits, Binary.ofBits_bits]
        exact hquiet
      · rw [length_write, List.length_take_of_le h]
    · refine Or.inl ?_
      rw [write, read, Binary.convert_self (by decide) hnan, Binary.bits_ofBits hword]
      exact littleEndian_take h
  case rectangle =>
    simp only [width] at h
    show _ ++ _ ++ _ ++ _ = bytes.take (4 + 4 + 4 + 4)
    simp only [List.take_add, read]
    rw [littleEndian_signedAt (by omega), littleEndian_signedAt (by omega),
      littleEndian_unsignedAt (by omega), littleEndian_unsignedAt (by omega), List.drop_zero]
  case size =>
    simp only [width] at h
    show _ ++ _ = bytes.take (4 + 4)
    simp only [List.take_add, read]
    rw [littleEndian_unsignedAt (by omega), littleEndian_unsignedAt (by omega), List.drop_zero]
  case point =>
    simp only [width] at h
    show _ ++ _ = bytes.take (4 + 4)
    simp only [List.take_add, read]
    rw [littleEndian_signedAt (by omega), littleEndian_signedAt (by omega), List.drop_zero]

end ElementKind

end ControlSchema
