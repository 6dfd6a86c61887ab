import ControlSchema.Proofs.Cell.Element
import ControlSchema.Proofs.Number.Digits
import ControlSchema.Proofs.Text.Bytes

/-!
# Values and their cells

Encoding is undone by decoding for every value without undefined numbers, and
decoding is undone by encoding for every payload it accepts, up to the bytes
that `ElementKind.Restored` lets change. The two directions meet in the middle:
reading `count` elements from a payload visits its slices of one element's
width, and writing the elements lays the same slices side by side.

What decoding refuses is said on its own, as `Refused`, without reference to
the reader. Each refusal names the error it ends in, so the total statement
`decode_total` is an equivalence for the errors beside a description of every
other outcome. What is raised for an error is another matter: it takes its message
along, and a tag or a count may be too long to be written.
-/

namespace ControlSchema

open Number

namespace ElementKind

variable {kind : ElementKind}

/-! ## Many elements -/

theorem readMany_write (elements : List kind.Element) (he : ∀ e ∈ elements, kind.Defined e)
    (rest : List UInt8) :
    kind.readMany elements.length (elements.flatMap kind.write ++ rest) = elements := by
  induction elements with
  | nil => rfl
  | cons e more ih =>
    have hdrop : (kind.write e ++ (more.flatMap kind.write ++ rest)).drop kind.width
        = more.flatMap kind.write ++ rest := List.drop_left' (length_write kind e)
    rw [List.length_cons, readMany, List.flatMap_cons, List.append_assoc, hdrop,
      read_write_append kind (he e List.mem_cons_self),
      ih fun x hx => he x (List.mem_cons_of_mem e hx)]

/-- The bytes of one element of a payload. -/
def slice (kind : ElementKind) (i : Nat) (bytes : List UInt8) : List UInt8 :=
  (bytes.drop (i * kind.width)).take kind.width

theorem slice_zero (bytes : List UInt8) : kind.slice 0 bytes = bytes.take kind.width := by
  rw [slice, Nat.zero_mul, List.drop_zero]

theorem slice_succ (i : Nat) (bytes : List UInt8) :
    kind.slice (i + 1) bytes = kind.slice i (bytes.drop kind.width) := by
  rw [slice, slice, List.drop_drop, Nat.succ_mul, Nat.add_comm]

/-- The new payload has the old one's elements, each with its bytes restored. -/
def RestoredMany (kind : ElementKind) (count : Nat) (old new : List UInt8) : Prop :=
  new.length = count * kind.width ∧
    ∀ i < count, kind.Restored (kind.slice i old) (kind.slice i new)

theorem restoredMany_readMany {count : Nat} {bytes : List UInt8}
    (h : count * kind.width ≤ bytes.length) :
    kind.RestoredMany count bytes ((kind.readMany count bytes).flatMap kind.write) := by
  induction count generalizing bytes with
  | zero => exact ⟨by simp [readMany], fun i hi => absurd hi (Nat.not_lt_zero i)⟩
  | succ count ih =>
    rw [Nat.succ_mul] at h
    have hrest : count * kind.width ≤ (bytes.drop kind.width).length := by
      rw [List.length_drop]
      omega
    obtain ⟨hlength, hslices⟩ := ih hrest
    rw [readMany, List.flatMap_cons]
    refine ⟨by rw [List.length_append, length_write, hlength, Nat.succ_mul, Nat.add_comm], ?_⟩
    intro i hi
    cases i with
    | zero =>
      rw [slice_zero, slice_zero, List.take_left' (length_write kind _)]
      exact restored_write_read kind (by omega)
    | succ i =>
      rw [slice_succ, slice_succ, List.drop_left' (length_write kind _)]
      exact hslices i (by omega)

theorem length_readMany (count : Nat) (bytes : List UInt8) :
    (kind.readMany count bytes).length = count := by
  induction count generalizing bytes with
  | zero => rfl
  | succ count ih => rw [readMany, List.length_cons, ih]

end ElementKind

/-! ## Kinds -/

namespace ControlKind

theorem ofTag?_eq_some_iff {tag : Int} {kind : ControlKind} :
    ofTag? tag = some kind ↔ (kind.tag : Int) = tag := by
  constructor
  · intro h
    have hfound := List.find?_some h
    exact beq_iff_eq.1 hfound
  · rintro rfl
    exact ofTag?_tag kind

theorem ofTag?_eq_none_iff {tag : Int} :
    ofTag? tag = Option.none ↔ ¬ (0 ≤ tag ∧ tag ≤ 9) := by
  rw [ofTag?, List.find?_eq_none]
  simp [all, ControlKind.tag]
  omega

theorem kind_of_element?_eq_some {kind : ControlKind} {element : ElementKind}
    (h : kind.element? = some element) : element.kind = kind := by
  cases kind <;> cases h <;> rfl

/-- The number of bytes of one element; those of a text are its bytes. -/
def width (kind : ControlKind) : Nat :=
  match kind, kind.element? with
  | .string, _ => 1
  | _, some element => element.width
  | _, Option.none => 0

/-- The new payload is what the old one becomes when it is read and written
again. -/
def Restored (kind : ControlKind) (count : Nat) (old new : List UInt8) : Prop :=
  match kind.element? with
  | some element => element.RestoredMany count old new
  | Option.none => new = old.take count

end ControlKind

/-! ## Encoding, then decoding -/

namespace Datum

/-- An element without an undefined number equals itself as a datum. -/
theorem same_toDatum {kind : ElementKind} {e : kind.Element} (he : kind.Defined e) :
    same (kind.toDatum e) (kind.toDatum e) = true := by
  cases kind
  case float =>
    have hx : (Binary.convert .double e).isUndefined = false :=
      Bool.eq_false_iff.2 (Binary.not_isUndefined_convert he)
    simp [ElementKind.toDatum, same, sameScalar, Binary.same, hx]
  all_goals simp [ElementKind.toDatum, same, sameScalar, asInt?]

theorem sameItems_toDatum {kind : ElementKind} {elements : List kind.Element}
    (he : ∀ e ∈ elements, kind.Defined e) :
    sameItems (elements.map kind.toDatum) (elements.map kind.toDatum) = true := by
  induction elements with
  | nil => simp [sameItems]
  | cons e rest ih =>
    rw [List.map_cons, sameItems, same_toDatum (he e List.mem_cons_self),
      ih fun x hx => he x (List.mem_cons_of_mem e hx)]
    rfl

end Datum

namespace ControlValue

/-- No element is an undefined number. -/
def Defined : ControlValue → Prop
  | .array kind elements => ∀ e ∈ elements, kind.Defined e
  | _ => True

theorem same_self {v : ControlValue} (hv : v.Defined) : v.same v = true := by
  cases v with
  | none => rfl
  | array kind elements =>
    simp only [same, beq_self_eq_true, Bool.true_and, Datum.sameItems_toDatum hv]
  | string text => exact beq_self_eq_true text

theorem decode_array (kind : ElementKind) {count : Nat} (hcount : count ≠ 0)
    (bytes : List UInt8) :
    decode kind.kind.tag count (some bytes) = .ok (.array kind (kind.readMany count bytes)) := by
  have hpos : ¬ ((count : Int) < 0) := by omega
  rw [decode, ControlKind.ofTag?_tag]
  cases kind <;> simp [hpos, hcount, ControlKind.element?, ElementKind.kind]

theorem decode_text {count : Nat} (hcount : count ≠ 0) (bytes : List UInt8) :
    decode ControlKind.string.tag count (some bytes) = decodeText count bytes := by
  have hpos : ¬ ((count : Int) < 0) := by omega
  rw [decode, ControlKind.ofTag?_tag]
  simp [hpos, hcount, ControlKind.element?]

theorem decode_empty {kind : ControlKind} (hkind : kind ≠ .none)
    (payload : Option (List UInt8)) : decode kind.tag 0 payload = .ok (empty kind) := by
  rw [decode, ControlKind.ofTag?_tag]
  cases kind <;> first | exact absurd rfl hkind | rfl

theorem decodeText_toUTF8 (text : String) :
    decodeText text.utf8ByteSize text.toUTF8.toList = .ok (.string text) := by
  rw [decodeText, ← Text.length_toUTF8, List.take_length, Text.fromUTF8?_toUTF8]

theorem ofCell_encode_eq {v : ControlValue} (hv : v.Defined) : ofCell v.encode = .ok v := by
  cases v with
  | none => rfl
  | array kind elements =>
    show decode kind.kind.tag elements.length
      (if elements.length = 0 then none else some (elements.flatMap kind.write)) = _
    by_cases hzero : elements.length = 0
    · rw [List.length_eq_zero_iff.1 hzero]
      cases kind <;> rfl
    · have hread := ElementKind.readMany_write elements hv []
      rw [List.append_nil] at hread
      rw [if_neg hzero, decode_array kind hzero, hread]
  | string text =>
    show decode ControlKind.string.tag text.utf8ByteSize
      (if text.utf8ByteSize = 0 then none else some text.toUTF8.toList) = _
    by_cases hzero : text.utf8ByteSize = 0
    · rw [String.utf8ByteSize_eq_zero_iff.1 hzero]
      rfl
    · rw [if_neg hzero, decode_text hzero, decodeText_toUTF8]

/-- A cell holds the value that was written to it, and describes it. -/
theorem ofCell_encode (v : ControlValue) (hv : v.Defined) :
    ofCell v.encode = .ok v ∧ v.same v = true ∧ v.encode.tag = v.kind.tag ∧
      v.encode.count = v.elementCount ∧
      (∀ text, v = .string text → v.encode.count = text.toUTF8.size) ∧
      (v.encode.isArray = false ↔ v.kind ≠ .string ∧ v.elementCount = 1) := by
  refine ⟨ofCell_encode_eq hv, same_self hv, rfl, rfl, ?_, ?_⟩
  · rintro text rfl
    rfl
  · cases v with
    | none => decide
    | array kind elements =>
      have hkind : kind.kind ≠ .string := by cases kind <;> decide
      simp [encode, isArray, ControlValue.kind, hkind]
    | string text => simp [encode, isArray, ControlValue.kind]

/-- The least negative zero, the least positive number and infinity. -/
def extremes : ControlValue :=
  .array .float [Binary.ofBits .single 0x80000000, Binary.ofBits .single 1,
    Binary.ofBits .single 0x7f800000]

theorem extremes_defined : extremes.Defined := by
  intro x hx
  simp only [List.mem_cons, List.not_mem_nil, or_false] at hx
  rcases hx with rfl | rfl | rfl <;> exact Bool.eq_false_iff.1 rfl

theorem ofCell_encode_extremes : extremes.Defined ∧ ofCell extremes.encode = .ok extremes :=
  ⟨extremes_defined, (ofCell_encode extremes extremes_defined).1⟩

/-! ## Decoding, then encoding -/

/-- What decoding refuses, with the error that it gives. -/
inductive Refused (tag count : Int) (payload : Option (List UInt8)) : ValueError → Prop
  | unknownTag (htag : ¬ (0 ≤ tag ∧ tag ≤ 9)) : Refused tag count payload (.unknownType tag)
  | negativeCount {kind : ControlKind} (htag : (kind.tag : Int) = tag) (hkind : kind ≠ .none)
      (hcount : count < 0) : Refused tag count payload (.invalidData (.negativeCount count))
  | nullPointer {kind : ControlKind} (htag : (kind.tag : Int) = tag) (hkind : kind ≠ .none)
      (hcount : 0 < count) (hpayload : payload = none) :
      Refused tag count payload (.invalidData (.nullPointer count kind))
  | notUtf8 {bytes : List UInt8} (htag : (ControlKind.string.tag : Int) = tag)
      (hcount : 0 < count) (hpayload : payload = some bytes)
      (hbytes : ¬ Text.IsUtf8 (bytes.take count.toNat)) :
      Refused tag count payload (.invalidData .notUtf8)

/-- The cell that a decoded value is encoded to: tag and number of elements as
they were, and of the payload what its elements make up. -/
structure Restores (tag count : Int) (payload : Option (List UInt8)) (cell : Cell) : Prop where
  tag_eq : (cell.tag : Int) = tag
  count_eq : (cell.count : Int) = if tag = 0 then 0 else count
  payload_none : cell.count = 0 → cell.payload = none
  payload_some : cell.count ≠ 0 → ∃ kind old new, (ControlKind.tag kind : Int) = tag ∧
    payload = some old ∧ cell.payload = some new ∧ kind.Restored cell.count old new

theorem restores_none (count : Int) (payload : Option (List UInt8)) :
    Restores 0 count payload ControlValue.none.encode :=
  ⟨rfl, rfl, fun _ => rfl, fun h => absurd rfl h⟩

theorem restores_empty {kind : ControlKind} (hkind : kind ≠ .none)
    (payload : Option (List UInt8)) : Restores kind.tag 0 payload (empty kind).encode := by
  have htag : (empty kind).encode.tag = kind.tag := by
    cases kind <;> first | exact absurd rfl hkind | rfl
  have hcount : (empty kind).encode.count = 0 := by cases kind <;> rfl
  have hpayload : (empty kind).encode.payload = Option.none := by cases kind <;> rfl
  refine ⟨by rw [htag], by rw [hcount]; split <;> rfl, fun _ => hpayload, fun h => absurd hcount h⟩

theorem restores_array (kind : ElementKind) {count : Nat} {bytes : List UInt8}
    (hcount : count ≠ 0) (hlength : count * kind.width ≤ bytes.length) :
    Restores kind.kind.tag count (some bytes)
      (ControlValue.array kind (kind.readMany count bytes)).encode := by
  have hread : (kind.readMany count bytes).length = count := ElementKind.length_readMany _ _
  have hencode : (ControlValue.array kind (kind.readMany count bytes)).encode.payload
      = some ((kind.readMany count bytes).flatMap kind.write) := by
    show (if (kind.readMany count bytes).length = 0 then none else _) = _
    rw [hread, if_neg hcount]
    rfl
  refine ⟨rfl, ?_, fun h => absurd (hread ▸ h) hcount, fun _ => ⟨kind.kind, bytes, _, rfl, rfl,
    hencode, ?_⟩⟩
  · rw [if_neg (by cases kind <;> decide)]
    exact congrArg Nat.cast hread
  · show kind.kind.Restored (kind.readMany count bytes).length bytes _
    rw [hread, ControlKind.Restored, ElementKind.element?_kind]
    exact ElementKind.restoredMany_readMany hlength

theorem restores_text {text : String} {count : Nat} {bytes : List UInt8} (hcount : count ≠ 0)
    (hlength : count ≤ bytes.length) (htext : text.toUTF8.toList = bytes.take count) :
    Restores ControlKind.string.tag count (some bytes) (ControlValue.string text).encode := by
  have hsize : text.utf8ByteSize = count := by
    rw [← Text.length_toUTF8, htext, List.length_take_of_le hlength]
  have hencode : (ControlValue.string text).encode.payload = some text.toUTF8.toList := by
    show (if text.utf8ByteSize = 0 then none else _) = _
    rw [hsize, if_neg hcount]
    rfl
  refine ⟨rfl, ?_, fun h => absurd (hsize ▸ h) hcount, fun _ => ⟨.string, bytes, _, rfl, rfl,
    hencode, ?_⟩⟩
  · rw [if_neg (by decide)]
    exact congrArg Nat.cast hsize
  · show text.toUTF8.toList = bytes.take text.utf8ByteSize
    rw [hsize, htext]

theorem decode_of_refused {tag count : Int} {payload : Option (List UInt8)} {e : ValueError}
    (h : Refused tag count payload e) : decode tag count payload = .error e := by
  cases h with
  | unknownTag htag => rw [decode, ControlKind.ofTag?_eq_none_iff.2 htag]
  | @negativeCount kind htag hkind hcount =>
    rw [decode, ControlKind.ofTag?_eq_some_iff.2 htag]
    cases kind <;> first | exact absurd rfl hkind | exact if_pos hcount
  | @nullPointer kind htag hkind hcount hpayload =>
    have hpos : ¬ count < 0 := by omega
    have hzero : ¬ count = 0 := by omega
    rw [decode, ControlKind.ofTag?_eq_some_iff.2 htag, hpayload]
    cases kind <;> first | exact absurd rfl hkind | simp [hpos, hzero]
  | @notUtf8 bytes htag hcount hpayload hbytes =>
    obtain ⟨n, rfl⟩ := Int.eq_ofNat_of_zero_le hcount.le
    have hn : n ≠ 0 := by omega
    rw [Int.toNat_natCast] at hbytes
    rw [← htag, hpayload, decode_text hn, decodeText, Text.fromUTF8?_of_not_isUtf8 hbytes]

/-- A payload that has all the bytes that the elements take up. -/
def Backed (tag count : Int) (payload : Option (List UInt8)) : Prop :=
  ∀ kind bytes, (ControlKind.tag kind : Int) = tag → payload = some bytes →
    count.toNat * kind.width ≤ bytes.length

/-- Decoding gives one of the errors that are named, or a value that restores
what was decoded. -/
theorem decode_cases {tag count : Int} {payload : Option (List UInt8)}
    (hpayload : Backed tag count payload) :
    (∃ e, Refused tag count payload e) ∨
      ∃ v, decode tag count payload = .ok v ∧ Restores tag count payload v.encode := by
  by_cases htag : 0 ≤ tag ∧ tag ≤ 9
  case neg => exact Or.inl ⟨_, .unknownTag htag⟩
  obtain ⟨kind, hkind⟩ : ∃ kind, ControlKind.ofTag? tag = some kind :=
    Option.ne_none_iff_exists'.1 fun h => ControlKind.ofTag?_eq_none_iff.1 h htag
  have hof := ControlKind.ofTag?_eq_some_iff.1 hkind
  subst hof
  by_cases hnone : kind = .none
  · subst hnone
    exact Or.inr ⟨.none, rfl, restores_none count payload⟩
  rcases lt_trichotomy count 0 with hneg | rfl | hpos
  · exact Or.inl ⟨_, .negativeCount rfl hnone hneg⟩
  · exact Or.inr ⟨_, decode_empty hnone payload, restores_empty hnone payload⟩
  -- a positive count: the payload decides
  cases payload with
  | none => exact Or.inl ⟨_, .nullPointer rfl hnone hpos rfl⟩
  | some bytes =>
    have hlength := hpayload kind bytes rfl rfl
    obtain ⟨n, rfl⟩ := Int.eq_ofNat_of_zero_le hpos.le
    have hn : n ≠ 0 := by omega
    rw [Int.toNat_natCast] at hlength
    cases helement : kind.element? with
    | some element =>
      obtain rfl := ControlKind.kind_of_element?_eq_some helement
      have hwidth : element.kind.width = element.width := by cases element <;> rfl
      rw [hwidth] at hlength
      exact Or.inr ⟨_, decode_array element hn bytes, restores_array element hn hlength⟩
    | none =>
      obtain rfl : kind = .string := by
        cases kind <;> first | rfl | exact absurd rfl hnone | cases helement
      rw [show ControlKind.string.width = 1 from rfl, Nat.mul_one] at hlength
      by_cases hutf8 : Text.IsUtf8 (bytes.take n)
      · obtain ⟨text, hread, htext⟩ := Text.fromUTF8?_of_isUtf8 hutf8
        refine Or.inr ⟨.string text, ?_, restores_text hn hlength htext⟩
        rw [decode_text hn, decodeText, hread]
      · exact Or.inl ⟨_, .notUtf8 rfl hpos rfl (by rwa [Int.toNat_natCast])⟩

/-! ## What is raised -/

/-- What is raised for the refusal of a cell: an error of the class that stands for its tag, unless
the tag or the count is too long to be written into the message. -/
structure Raises (tag count : Int) (e : ValueError) : Prop where
  own : e.ownClass = if 0 ≤ tag ∧ tag ≤ 9 then .invalidData else .unknownType
  numbers : ∀ n ∈ e.numbers, n = tag ∨ n = count
  kept : e.errorClass = e.ownClass ↔ ∀ n ∈ e.numbers, Number.isWritable n = true
  lost : e.errorClass ≠ e.ownClass → e.errorClass = .badValue

theorem Refused.raises {tag count : Int} {payload : Option (List UInt8)} {e : ValueError}
    (h : Refused tag count payload e) : Raises tag count e := by
  have hof {kind : ControlKind} (htag : (kind.tag : Int) = tag) : 0 ≤ tag ∧ tag ≤ 9 := by
    rw [← htag]
    cases kind <;> decide
  have hown : e.ownClass = if 0 ≤ tag ∧ tag ≤ 9 then .invalidData else .unknownType := by
    cases h with
    | unknownTag htag => rw [if_neg htag]; rfl
    | negativeCount htag => rw [if_pos (hof htag)]; rfl
    | nullPointer htag => rw [if_pos (hof htag)]; rfl
    | notUtf8 htag => rw [if_pos (hof htag)]; rfl
  have hne : e.ownClass ≠ .badValue := by
    rw [hown]
    split <;> decide
  have hraised : e.errorClass = if e.isWritable then e.ownClass else .badValue := rfl
  refine ⟨hown, ?_, ?_, fun hlost => ?_⟩
  · cases h with
    | unknownTag => exact List.forall_mem_singleton.2 (.inl rfl)
    | negativeCount => exact List.forall_mem_singleton.2 (.inr rfl)
    | nullPointer => exact List.forall_mem_singleton.2 (.inr rfl)
    | notUtf8 => exact List.forall_mem_nil _
  · rw [hraised, ← List.all_eq_true, ← ValueError.isWritable]
    split
    · next hwritable => exact iff_of_true rfl hwritable
    · next hlong => exact iff_of_false hne.symm hlong
  · rw [hraised] at hlost ⊢
    split at hlost
    · exact absurd rfl hlost
    · next hlong => rw [if_neg hlong]

/-- Decoding fails in the named cases and in no other, with an error of the named class unless the
tag or the count has more digits than can be written into its message. It loses nothing that the
element kinds do not lose. -/
theorem decode_total (tag count : Int) (payload : Option (List UInt8))
    (hpayload : Backed tag count payload) :
    (∀ e, decode tag count payload = .error e ↔ Refused tag count payload e) ∧
      (∀ e, Refused tag count payload e → Raises tag count e) ∧
      ((∀ e, ¬ Refused tag count payload e) →
        ∃ v, decode tag count payload = .ok v ∧ Restores tag count payload v.encode) := by
  rcases decode_cases hpayload with ⟨e, he⟩ | ⟨v, hv, hrestores⟩
  · have herror := decode_of_refused he
    refine ⟨fun e' => ⟨fun h => ?_, decode_of_refused⟩, fun _ => Refused.raises,
      fun h => absurd he (h e)⟩
    rw [herror] at h
    cases h
    exact he
  · refine ⟨fun e => ⟨fun h => ?_, fun h => decode_of_refused h⟩, fun _ => Refused.raises,
      fun _ => ⟨v, hv, hrestores⟩⟩
    rw [hv] at h
    cases h

/-- Three of four bytes are truth values, and a byte other than zero becomes one. -/
theorem decode_total_bools :
    Backed 1 3 (some [0, 2, 255, 9]) ∧
      ∃ v, decode 1 3 (some [0, 2, 255, 9]) = .ok v ∧
        Restores 1 3 (some [0, 2, 255, 9]) v.encode ∧ v.encode.payload = some [0, 1, 1] := by
  have hbacked : Backed 1 3 (some [0, 2, 255, 9]) := by
    intro kind bytes hkind hbytes
    cases hbytes
    cases kind <;> simp [ControlKind.tag] at hkind
    decide
  obtain ⟨herrors, -, hrestores⟩ := decode_total 1 3 (some [0, 2, 255, 9]) hbacked
  have hdecoded : decode 1 3 (some [0, 2, 255, 9]) = .ok (.array .bool [false, true, true]) := rfl
  obtain ⟨v, hv, hback⟩ := hrestores fun e he => by
    have herror := (herrors e).2 he
    rw [hdecoded] at herror
    cases herror
  refine ⟨hbacked, v, hv, hback, ?_⟩
  rw [hdecoded] at hv
  cases hv
  rfl

/-- A tag that is too long to be written is not reported as unknown. -/
theorem decode_longTag : ∃ e, decode (10 ^ Number.digitLimit) 0 none = .error e ∧
    Refused (10 ^ Number.digitLimit) 0 none e ∧ e.ownClass = .unknownType ∧
    e.errorClass = .badValue := by
  have hlarge : 10 ^ 1 ≤ 10 ^ Number.digitLimit :=
    Nat.pow_le_pow_right (by decide) (by decide : 1 ≤ Number.digitLimit)
  have hrefused : Refused (10 ^ Number.digitLimit) 0 none
      (.unknownType (10 ^ Number.digitLimit)) := by
    refine .unknownTag fun h => absurd h.2 ?_
    have hcast : ((10 ^ Number.digitLimit : Nat) : Int) = 10 ^ Number.digitLimit :=
      Int.natCast_pow 10 _
    omega
  refine ⟨_, decode_of_refused hrefused, hrefused, rfl,
    ValueError.errorClass_of_not_isWritable fun hwritable => ?_⟩
  have hlong := List.all_eq_true.1 hwritable _ (List.mem_singleton_self _)
  rw [Number.isWritable_pow_digitLimit] at hlong
  cases hlong

end ControlValue

end ControlSchema
