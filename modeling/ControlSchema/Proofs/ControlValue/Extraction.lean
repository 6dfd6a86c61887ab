import ControlSchema.ControlValue.Extraction
import ControlSchema.Proofs.Cell.RoundTrip
import ControlSchema.Proofs.Number.Widening
import ControlSchema.Proofs.Shape

/-!
# Taking values apart and putting them together

Extraction asks for a tag and a number of elements, and nothing else. When a
value has both, data come out that packing turns into the same value; when it
lacks one, the error is one of those that a value from outside may cause.

The grid is the only shape with something to show. Gathering along a dimension
divides the number of groups by that dimension and keeps the elements in their
order, so after all dimensions one group is left and flattening it gives the
elements back. Both facts are about one step, and the run follows by induction
on the dimensions.
-/

namespace ControlSchema

open Number

/-! ## Integers in messages -/

theorem ValueError.isWritable_invalidLength {expected : Int} {found : Nat} :
    (invalidLength expected found).isWritable = true ↔
      ¬ ((Datum.int expected).IsLong ∨ (Datum.int found).IsLong) := by
  rw [isWritable, numbers, List.all_cons, List.all_cons, List.all_nil, Bool.and_true,
    Bool.and_eq_true, isLong_int_iff, isLong_int_iff, not_or, not_not, not_not]

/-! ## Flattening -/

namespace Datum

theorem flattenItems_append (xs ys : List Datum) :
    flattenItems (xs ++ ys) = flattenItems xs ++ flattenItems ys := by
  induction xs with
  | nil => rfl
  | cons x xs ih => simp only [List.cons_append, flattenItems, ih, List.append_assoc]

theorem flatten_tuple (xs : List Datum) : flatten (.tuple xs) = flattenItems xs := by
  rw [flatten]

/-- Elements are neither lists nor tuples. -/
theorem flattenItems_toDatum {kind : ElementKind} (elements : List kind.Element) :
    flattenItems (elements.map kind.toDatum) = elements.map kind.toDatum := by
  have hone (e : kind.Element) : flatten (kind.toDatum e) = [kind.toDatum e] := by
    cases kind <;> simp only [ElementKind.toDatum, flatten]
  induction elements with
  | nil => rfl
  | cons e rest ih => rw [List.map_cons, flattenItems, hone, ih, List.singleton_append]

end Datum

namespace ControlValue

/-! ## Gathering -/

theorem groupsOf_cons (size : Nat) (item : Datum) (rest : List Datum) :
    groupsOf size (item :: rest)
      = .tuple ((item :: rest).take (size + 1)) :: groupsOf size (rest.drop size) := by
  rw [groupsOf]

/-- Nothing is lost or moved by grouping. -/
theorem flattenItems_groupsOf (size : Nat) (items : List Datum) :
    Datum.flattenItems (groupsOf size items) = Datum.flattenItems items := by
  induction hlength : items.length using Nat.strongRecOn generalizing items with
  | ind length ih =>
    cases items with
    | nil => rw [groupsOf]
    | cons item rest =>
      have hshort : (rest.drop size).length < length := by
        rw [List.length_cons] at hlength
        rw [List.length_drop]
        omega
      have hsplit : item :: rest = (item :: rest).take (size + 1) ++ rest.drop size := by
        rw [← List.drop_succ_cons (a := item), List.take_append_drop]
      rw [groupsOf_cons, Datum.flattenItems, Datum.flatten_tuple, ih _ hshort _ rfl]
      conv_rhs => rw [hsplit, Datum.flattenItems_append]

theorem length_groupsOf {size count : Nat} {items : List Datum}
    (h : items.length = (size + 1) * count) : (groupsOf size items).length = count := by
  induction count generalizing items with
  | zero =>
    rw [Nat.mul_zero] at h
    rw [List.length_eq_zero_iff.1 h, groupsOf]
    rfl
  | succ count ih =>
    cases items with
    | nil =>
      rw [List.length_nil, Nat.mul_succ] at h
      omega
    | cons item rest =>
      have hrest : (rest.drop size).length = (size + 1) * count := by
        rw [List.length_cons, Nat.mul_succ] at h
        rw [List.length_drop]
        omega
      rw [groupsOf_cons, List.length_cons, ih hrest]

/-- One dimension is gathered, then the rest. -/
theorem gatherAll_cons (size : Nat) (dims : List Nat) (items : List Datum) :
    gatherAll items (((size + 1) :: dims).map Int.ofNat)
      = gatherAll (groupsOf size items) (dims.map Int.ofNat) := by
  have hstep : gather items (Int.ofNat (size + 1)) = .ok (groupsOf size items) := by
    have hzero : ¬ Int.ofNat (size + 1) = 0 := nofun
    have hneg : ¬ Int.ofNat (size + 1) < 0 := Int.not_lt.2 (Int.natCast_nonneg _)
    rw [gather, if_neg hzero, if_neg hneg]
    rfl
  rw [List.map_cons, gatherAll, List.foldlM_cons, hstep]
  rfl

/-- Elements that fill a grid are gathered into one group, with the elements in
their order. -/
theorem gatherAll_of_length {dims : List Nat} (hdims : ∀ d ∈ dims, 0 < d) {items : List Datum}
    (h : items.length = dims.prod) :
    ∃ group, gatherAll items (dims.map Int.ofNat) = .ok [group] ∧
      group.flatten = Datum.flattenItems items := by
  induction dims generalizing items with
  | nil =>
    obtain ⟨item, rfl⟩ := List.length_eq_one_iff.1 h
    refine ⟨item, rfl, ?_⟩
    simp only [Datum.flattenItems, List.append_nil]
  | cons d dims ih =>
    have hd : 0 < d := hdims d List.mem_cons_self
    obtain ⟨size, rfl⟩ : ∃ size, d = size + 1 := ⟨d - 1, by omega⟩
    rw [List.prod_cons] at h
    obtain ⟨group, hgroup, hflat⟩ :=
      ih (fun e he => hdims e (List.mem_cons_of_mem _ he)) (length_groupsOf h)
    exact ⟨group, (gatherAll_cons size dims items).trans hgroup,
      by rw [hflat, flattenItems_groupsOf]⟩

theorem product_map_ofNat (dims : List Nat) :
    product (dims.map Int.ofNat) = (dims.prod : Nat) := by
  rw [product, ← List.prod_eq_foldl]
  induction dims with
  | nil => rfl
  | cons d dims ih =>
    rw [List.map_cons, List.prod_cons, List.prod_cons, ih, Nat.cast_mul]
    rfl

/-! ## Packing -/

/-- The datum of an element is read as the element. -/
theorem ofDatum_toDatum {kind : ElementKind} {e : kind.Element} (he : kind.Defined e) :
    kind.ofDatum (kind.toDatum e) = .ok e := by
  have hint (kind : ControlKind) {low high : Int} (n : Ranged low high) :
      ElementKind.readInt kind low high (.int n.val) = .ok n := by
    rw [ElementKind.readInt, Ranged.ofInt?, dif_pos ⟨n.low_le, n.le_high⟩]
  have hfield (kind : ControlKind) (field : String) {low high : Int} (n : Ranged low high) :
      ElementKind.readField kind field low high (.int n.val) = .ok n := by
    rw [ElementKind.readField, Ranged.ofInt?, dif_pos ⟨n.low_le, n.le_high⟩]
  cases kind with
  | bool => rfl
  | byte => exact hint .byte e
  | int32 => exact hint .int32 e
  | int64 => exact hint .int64 e
  | float =>
    have hback := Binary.convert_convert Format.single_within_double (by decide) he
    show Except.ok _ = Except.ok e
    rw [hback]
  | rectangle | size | point =>
    simp only [ElementKind.toDatum, ElementKind.ofDatum, hfield]
    rfl

theorem mapM_ofDatum {kind : ElementKind} {elements : List kind.Element}
    (he : ∀ e ∈ elements, kind.Defined e) :
    (elements.map kind.toDatum).mapM kind.ofDatum = .ok elements := by
  have hback : ∀ e ∈ elements, (kind.ofDatum ∘ kind.toDatum) e = .ok (id e) :=
    fun e h => ofDatum_toDatum (he e h)
  rw [List.mapM_map, Attempt.mapM_eq_ok_map hback, List.map_id]

/-- A value is built of items that are read as elements. -/
theorem construct_of_mapM {kind : ElementKind} {items : List Datum} {elements : List kind.Element}
    (h : items.mapM kind.ofDatum = .ok elements) :
    construct kind.kind (.tuple items) = .ok (.array kind elements) := by
  have hbuild : build kind.kind (.tuple items) = ofElements kind items := by
    cases kind <;> rfl
  show build kind.kind _ = _
  rw [hbuild, ofElements, h]
  rfl

/-- The value is built again from the sequence of its elements. -/
theorem construct_elements {kind : ElementKind} {elements : List kind.Element}
    (he : ∀ e ∈ elements, kind.Defined e) :
    construct kind.kind (.tuple (elements.map kind.toDatum)) = .ok (.array kind elements) :=
  construct_of_mapM (mapM_ofDatum he)

/-! ## What a descriptor asks for -/

/-- The value has the tag of the descriptor and the number of elements that its
shape holds. A text is always single, whatever the shape. -/
structure Matches (value : ControlValue) (d : Descriptor) : Prop where
  kind : value.kind = d.kind
  count : d.kind ≠ .string → ∀ n ∈ d.shape.elementCount?, value.elementCount = n

theorem checkKind_ne {value : ControlValue} {kind : ControlKind} (h : value.kind ≠ kind) :
    value.checkKind kind = .error (.invalidType kind value.kind) :=
  if_neg fun heq => h (KindRequest.known.inj heq).symm

section

variable {kind : ElementKind} {elements : List kind.Element}

theorem known_ne_string (kind : ElementKind) :
    KindRequest.known kind.kind ≠ .known .string := by
  cases kind <;> exact nofun

theorem exactly_array {count : Nat} (h : elements.length = count) :
    (ControlValue.array kind elements).exactly count = .ok (elements.map kind.toDatum) := by
  refine if_pos ?_
  rw [items, List.length_map, h]

theorem exactly_array_ne {count : Nat} (h : elements.length ≠ count) :
    (ControlValue.array kind elements).exactly count
      = .error (.invalidLength count elements.length) := by
  have hlength : (ControlValue.array kind elements).items.length = elements.length :=
    List.length_map _
  rw [exactly, hlength]
  exact if_neg fun heq => h (Int.ofNat.inj heq)

/-! ### Elements by shape -/

theorem extract_scalar : (ControlValue.array kind elements).extract ⟨kind.kind, .scalar⟩
    = ((ControlValue.array kind elements).exactly (1 : Nat)).map (·.headD .null) := by
  have hcheck : (ControlValue.array kind elements).checkKind kind.kind = .ok () := if_pos rfl
  rw [extract, extractAs, if_neg (known_ne_string kind)]
  simp only [toScalar, hcheck]
  rfl

theorem extract_variable : (ControlValue.array kind elements).extract ⟨kind.kind, .variable⟩
    = .ok (.list (elements.map kind.toDatum)) := by
  have hcheck : (ControlValue.array kind elements).checkKind kind.kind = .ok () := if_pos rfl
  rw [extract, extractAs, if_neg (known_ne_string kind)]
  simp only [toList, hcheck]
  rfl

theorem extract_fixed (dims : List Nat) :
    (ControlValue.array kind elements).extract ⟨kind.kind, .fixed dims⟩ = (do
      let items ← (ControlValue.array kind elements).exactly (dims.prod : Nat)
      let groups ← gatherAll items (dims.map Int.ofNat)
      return groups.headD (.tuple [])) := by
  have hcheck : (ControlValue.array kind elements).checkKind kind.kind = .ok () := if_pos rfl
  rw [extract, extractAs, if_neg (known_ne_string kind)]
  simp only [toNested, hcheck, product_map_ofNat]
  rfl

/-- Elements that fill the shape come out as data that pack to the same
elements, unless a number among them is undefined. -/
theorem extract_array_of_count {shape : Shape} (hpos : shape.IsPositive)
    (hcount : ∀ n ∈ shape.elementCount?, elements.length = n) :
    ∃ payload, (ControlValue.array kind elements).extract ⟨kind.kind, shape⟩ = .ok payload ∧
      ((∀ e ∈ elements, kind.Defined e) →
        pack ⟨kind.kind, shape⟩ payload = .ok (.array kind elements)) := by
  match shape with
  | .scalar =>
    obtain ⟨e, rfl⟩ := List.length_eq_one_iff.1 (hcount 1 rfl)
    refine ⟨kind.toDatum e, ?_, fun he => ?_⟩
    · rw [extract_scalar, @exactly_array kind [e] 1 rfl]
      rfl
    · exact (if_neg (known_ne_string kind)).trans (construct_elements he)
  | .variable =>
    refine ⟨.list (elements.map kind.toDatum), extract_variable, fun he => ?_⟩
    exact (if_neg (known_ne_string kind)).trans (construct_elements he)
  | .fixed dims =>
    have hlength : elements.length = dims.prod := by
      rw [hcount _ rfl, Shape.volume_eq_prod]
    have hitems : (elements.map kind.toDatum).length = dims.prod := by
      rw [List.length_map, hlength]
    obtain ⟨group, hgroup, hflat⟩ := @gatherAll_of_length dims hpos _ hitems
    rw [Datum.flattenItems_toDatum] at hflat
    refine ⟨group, ?_, fun he => ?_⟩
    · rw [extract_fixed, exactly_array hlength]
      show (gatherAll _ _ >>= _) = _
      rw [hgroup]
      rfl
    · have hvolume : (elements.map kind.toDatum).length = Shape.volume dims := by
        rw [hitems, Shape.volume_eq_prod]
      rw [pack, packAs, if_neg (known_ne_string kind)]
      simp only [hflat]
      rw [if_pos hvolume]
      exact construct_elements he

theorem extract_array_of_not_count {shape : Shape} {n : Nat} (hn : n ∈ shape.elementCount?)
    (hcount : elements.length ≠ n) :
    (ControlValue.array kind elements).extract ⟨kind.kind, shape⟩
      = .error (.invalidLength n elements.length) := by
  match shape with
  | .scalar =>
    cases hn
    rw [extract_scalar, exactly_array_ne hcount]
    rfl
  | .variable => cases hn
  | .fixed dims =>
    obtain rfl : dims.prod = n := (Shape.volume_eq_prod dims).symm.trans (Option.some.inj hn)
    rw [extract_fixed, exactly_array_ne hcount]
    rfl

end

/-! ## Every descriptor -/

/-- What fits a descriptor is taken apart, and its parts make up the same
value, unless a number in it is undefined. -/
theorem extract_of_matches {value : ControlValue} {d : Descriptor} (hpos : d.shape.IsPositive)
    (h : value.Matches d) :
    ∃ payload, value.extract d = .ok payload ∧ (value.Defined → pack d payload = .ok value) := by
  obtain ⟨kind, shape⟩ := d
  obtain ⟨hkind, hcount⟩ := h
  cases value with
  | string text =>
    cases hkind
    exact ⟨.text text, rfl, fun _ => rfl⟩
  | array element elements =>
    obtain rfl : element.kind = kind := hkind
    refine extract_array_of_count hpos (hcount ?_)
    exact fun heq => known_ne_string element (congrArg KindRequest.known heq)
  | none =>
    cases hkind
    match shape with
    | .scalar => cases hcount nofun 1 rfl
    | .variable => exact ⟨.list [], rfl, fun _ => rfl⟩
    | .fixed dims => exact absurd (hcount nofun _ rfl) (Shape.volume_pos hpos).ne

/-- The tag is looked at first. -/
theorem extract_of_ne_kind {value : ControlValue} {d : Descriptor} (h : value.kind ≠ d.kind) :
    value.extract d = .error (.invalidType d.kind value.kind) := by
  obtain ⟨kind, shape⟩ := d
  have hcheck := checkKind_ne h
  simp only at hcheck
  rw [extract, extractAs.eq_def]
  split
  · rename_i hstring
    obtain rfl := KindRequest.known.inj hstring
    simp only [toText, hcheck]
    rfl
  · match shape with
    | .scalar =>
      simp only [toScalar, hcheck]
      rfl
    | .variable =>
      simp only [toList, hcheck]
      rfl
    | .fixed dims =>
      simp only [toNested, hcheck]
      rfl

/-- So is the number of elements, and the error takes both numbers along. -/
theorem extract_of_ne_count {value : ControlValue} {d : Descriptor} (hpos : d.shape.IsPositive)
    (hkind : value.kind = d.kind) (hstring : d.kind ≠ .string) {n : Nat}
    (hn : n ∈ d.shape.elementCount?) (hne : value.elementCount ≠ n) :
    value.extract d = .error (.invalidLength n value.elementCount) := by
  obtain ⟨kind, shape⟩ := d
  cases value with
  | string text => exact absurd hkind.symm hstring
  | array element elements =>
    obtain rfl : element.kind = kind := hkind
    exact extract_array_of_not_count hn hne
  | none =>
    cases hkind
    match shape with
    | .scalar =>
      cases hn
      rfl
    | .variable => cases hn
    | .fixed dims =>
      obtain rfl : Shape.volume dims = n := Option.some.inj hn
      have hzero : ¬ ((0 : Nat) : Int) = (dims.prod : Nat) := by
        rw [← Shape.volume_eq_prod]
        exact fun heq => (Shape.volume_pos hpos).ne (Int.ofNat.inj heq)
      have hexactly : ControlValue.none.exactly (dims.prod : Nat)
          = .error (.invalidLength (dims.prod : Nat) 0) := if_neg hzero
      show (ControlValue.none.exactly (product (dims.map Int.ofNat)) >>= _) = _
      rw [product_map_ofNat, hexactly, Shape.volume_eq_prod]
      rfl

/-- The value has the tag of the descriptor and another number of elements, and of the two numbers
one is too long to be written. -/
structure Baffles (value : ControlValue) (d : Descriptor) : Prop where
  kind : value.kind = d.kind
  notText : d.kind ≠ .string
  count : ∃ n ∈ d.shape.elementCount?, value.elementCount ≠ n ∧
    ((Datum.int n).IsLong ∨ (Datum.int value.elementCount).IsLong)

theorem Matches.not_baffles {value : ControlValue} {d : Descriptor} (h : value.Matches d) :
    ¬ value.Baffles d := by
  rintro ⟨-, hstring, n, hn, hne, -⟩
  exact hne (h.count hstring n hn)

theorem not_baffles_of_isWritable {value : ControlValue} {d : Descriptor}
    (hshape : ∀ n ∈ d.shape.elementCount?, (Datum.int n).isWritable = true)
    (hvalue : (Datum.int value.elementCount).isWritable = true) : ¬ value.Baffles d := by
  rintro ⟨-, -, n, hn, -, hlong | hlong⟩
  · exact (isLong_int_iff n).1 hlong (hshape n hn)
  · exact (isLong_int_iff value.elementCount).1 hlong hvalue

/-- What does not fit is refused with an error of conversion. Its message cannot be written when the
value baffles, and only then. -/
theorem extract_of_not_matches {value : ControlValue} {d : Descriptor} (hpos : d.shape.IsPositive)
    (h : ¬ value.Matches d) : ∃ e, value.extract d = .error e ∧ e.isConversion = true ∧
      (e.isWritable = true ↔ ¬ value.Baffles d) := by
  by_cases hkind : value.kind = d.kind
  · have hcount : d.kind ≠ .string ∧ ∃ n ∈ d.shape.elementCount?, value.elementCount ≠ n := by
      by_contra hall
      push Not at hall
      exact h ⟨hkind, hall⟩
    obtain ⟨hstring, n, hn, hne⟩ := hcount
    refine ⟨_, extract_of_ne_count hpos hkind hstring hn hne, rfl, ?_⟩
    rw [ValueError.isWritable_invalidLength]
    refine not_congr ⟨fun hlong => ⟨hkind, hstring, n, hn, hne, hlong⟩, fun hbaffles => ?_⟩
    obtain ⟨m, hm, -, hlong⟩ := hbaffles.count
    rwa [Option.mem_unique hn hm]
  · exact ⟨_, extract_of_ne_kind hkind, rfl, iff_of_true rfl fun hbaffles => hkind hbaffles.kind⟩

end ControlValue

end ControlSchema
