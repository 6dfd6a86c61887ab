import ControlSchema.Proofs.ControlValue.Grid
import ControlSchema.Proofs.Number.Widening

/-!
# Packing and extracting

Packing flattens data whatever their nesting, and extraction nests elements by
the dimensions of the descriptor. They undo each other where nothing is lost on
either way. Starting from a value, nothing can be: what was extracted has the
elements in their order. Starting from data, the nesting has to be the one that
is made anew, and a number has to be one that single precision has.

The second direction comes down to data of one nesting being equal when their
elements are, one after another. The elements themselves may come back as other
data that are equal to them: an integer that was packed as a floating-point
number is extracted as one.
-/

namespace ControlSchema

open Number

/-! ## Elements -/

/-- A number that single precision has. -/
def Datum.IsSingle (x : Datum) : Prop :=
  ∃ s : Single, s.isUndefined = false ∧ Datum.same (.float (s.convert .double)) x = true

/-- A datum that is an element of the kind and can be stored without loss. -/
structure ElementKind.Takes (kind : ElementKind) (x : Datum) : Prop where
  accepted : ∃ e, kind.ofDatum x = .ok e
  single : kind = .float → x.IsSingle

/-- The same for all kinds; those without elements take nothing. -/
def ControlKind.Takes (kind : ControlKind) (x : Datum) : Prop :=
  ∃ element, kind.element? = some element ∧ element.Takes x

theorem Ranged.eq_of_ofInt? {low high i : Int} {n : Ranged low high}
    (h : Ranged.ofInt? low high i = some n) : i = n.val := by
  rw [Ranged.ofInt?] at h
  split at h
  · cases h
    rfl
  · cases h

namespace ElementKind

variable {kind : ElementKind} {x : Datum}

theorem eq_int_of_readInt {kind : ControlKind} {low high : Int} {n : Ranged low high}
    (h : readInt kind low high x = .ok n) : x = .int n.val := by
  cases x with
  | int i =>
    rw [readInt] at h
    split at h
    · next found hfound =>
      cases h
      exact congrArg Datum.int (Ranged.eq_of_ofInt? hfound)
    · cases h
  | _ => cases h

theorem eq_int_of_readField {kind : ControlKind} {field : String} {low high : Int}
    {n : Ranged low high} (h : readField kind field low high x = .ok n) : x = .int n.val := by
  cases x with
  | int i =>
    rw [readField] at h
    split at h
    · next found hfound =>
      cases h
      exact congrArg Datum.int (Ranged.eq_of_ofInt? hfound)
    · cases h
  | _ => cases h

/-- Only floating-point numbers may be handed out as other data than were read. -/
theorem eq_toDatum_of_ofDatum (hkind : kind ≠ .float) {e : kind.Element}
    (h : kind.ofDatum x = .ok e) : x = kind.toDatum e := by
  cases kind with
  | float => exact absurd rfl hkind
  | bool =>
    cases x with
    | bool b =>
      cases h
      rfl
    | _ => cases h
  | byte | int32 | int64 => exact eq_int_of_readInt h
  | rectangle =>
    cases x with
    | rectangle x y width height =>
      obtain ⟨left, hleft, h⟩ := Attempt.bind_eq_ok h
      obtain ⟨top, htop, h⟩ := Attempt.bind_eq_ok h
      obtain ⟨across, hacross, h⟩ := Attempt.bind_eq_ok h
      obtain ⟨down, hdown, h⟩ := Attempt.bind_eq_ok h
      cases h
      rw [eq_int_of_readField hleft, eq_int_of_readField htop, eq_int_of_readField hacross,
        eq_int_of_readField hdown]
      rfl
    | _ => cases h
  | size =>
    cases x with
    | size width height =>
      obtain ⟨across, hacross, h⟩ := Attempt.bind_eq_ok h
      obtain ⟨down, hdown, h⟩ := Attempt.bind_eq_ok h
      cases h
      rw [eq_int_of_readField hacross, eq_int_of_readField hdown]
      rfl
    | _ => cases h
  | point =>
    cases x with
    | point x y =>
      obtain ⟨left, hleft, h⟩ := Attempt.bind_eq_ok h
      obtain ⟨top, htop, h⟩ := Attempt.bind_eq_ok h
      cases h
      rw [eq_int_of_readField hleft, eq_int_of_readField htop]
      rfl
    | _ => cases h

theorem convert_zero (b : Bool) :
    ((Binary.zero .double b).convert .single).convert .double = Binary.zero .double b := by
  cases b <;> decide +kernel

/-- A number of single precision is read and handed out as an equal number. -/
theorem exists_readFloat (h : x.IsSingle) (haccepted : ∃ e, readFloat x = .ok e) :
    ∃ e, readFloat x = .ok e ∧ Datum.same (.float (e.convert .double)) x = true := by
  obtain ⟨s, hs, hsame⟩ := h
  obtain ⟨e, he⟩ := haccepted
  have hback : (s.convert .double).convert .single = s :=
    Binary.convert_convert Format.single_within_double (by decide) (Bool.eq_false_iff.1 hs)
  cases x with
  | float y =>
    refine ⟨y.convert .single, rfl, ?_⟩
    have hboth : (s.convert .double).same y = true := by
      simpa [Datum.same, Datum.sameScalar] using hsame
    rw [Binary.same, Bool.and_eq_true, Bool.and_eq_true, Bool.or_eq_true] at hboth
    obtain ⟨⟨-, hy⟩, hequal⟩ := hboth
    have hkept : (y.convert .single).convert .double = y := by
      rcases hequal with hbits | hzero
      · have heq : s.convert .double = y := by
          rcases hword : s.convert .double with ⟨bits, hbound⟩
          rw [hword] at hbits
          obtain rfl : bits = y.bits := beq_iff_eq.1 hbits
          rfl
        rw [← heq, hback]
      · have hmagnitude : y.magnitude = 0 := beq_iff_eq.1 (Bool.and_eq_true_iff.1 hzero).2
        have hword : Binary.zero .double y.negative = y := by
          rw [Binary.zero, ← hmagnitude]
          exact Binary.ofMagnitude_magnitude y
        rw [← hword]
        exact convert_zero y.negative
    rw [hkept]
    have hy : y.isUndefined = false := by simpa using hy
    simp [Datum.same, Datum.sameScalar, Binary.same, hy]
  | int n =>
    have hwhole : (s.convert .double).toInt? = some n := by
      simpa [Datum.same, Datum.sameScalar, Datum.asInt?] using hsame
    by_cases hn : n = 0
    · subst hn
      have hzero : Binary.ofInt? .double 0 = some (Binary.zero .double false) := by decide +kernel
      refine ⟨(Binary.zero .double false).convert .single, ?_, by decide +kernel⟩
      rw [readFloat, hzero]
    · have hnearest := Binary.ofInt?_of_toInt? (by decide) hn hwhole
      refine ⟨s, ?_, hsame⟩
      rw [readFloat, hnearest]
      exact congrArg Except.ok hback
  | _ => cases he

/-- What a kind takes is read as an element that is handed out as an equal datum. -/
theorem Takes.exists_element (h : kind.Takes x) :
    ∃ e, kind.ofDatum x = .ok e ∧ Datum.same (kind.toDatum e) x = true := by
  by_cases hkind : kind = .float
  · subst hkind
    exact exists_readFloat (h.single rfl) h.accepted
  · obtain ⟨e, he⟩ := h.accepted
    have hdefined : kind.Defined e := by
      cases kind with
      | float => exact absurd rfl hkind
      | _ => exact trivial
    refine ⟨e, he, ?_⟩
    rw [eq_toDatum_of_ofDatum hkind he]
    exact Datum.same_toDatum hdefined

/-- Elements are neither lists nor tuples. -/
theorem Takes.flatten_eq (h : kind.Takes x) : x.flatten = [x] := by
  obtain ⟨e, he⟩ := h.accepted
  cases x with
  | list items => cases kind <;> cases he
  | tuple items => cases kind <;> cases he
  | _ => rw [Datum.flatten.eq_def]

theorem exists_elements {items : List Datum} (h : ∀ x ∈ items, kind.Takes x) :
    ∃ elements, items.mapM kind.ofDatum = .ok elements ∧ elements.length = items.length ∧
      Datum.sameItems (elements.map kind.toDatum) items = true := by
  induction items with
  | nil => exact ⟨[], rfl, rfl, rfl⟩
  | cons x items ih =>
    obtain ⟨hx, hitems⟩ := List.forall_mem_cons.1 h
    obtain ⟨e, he, hsame⟩ := hx.exists_element
    obtain ⟨elements, helements, hlength, hall⟩ := ih hitems
    refine ⟨e :: elements, ?_, congrArg (· + 1) hlength, ?_⟩
    · rw [List.mapM_cons, he, helements]
      rfl
    · rw [List.map_cons, Datum.sameItems, hsame, hall]
      rfl

end ElementKind

/-! ## Grids with equal elements -/

namespace Datum

theorem sameItems_append {xs ys xs' ys' : List Datum} (h : xs.length = ys.length) :
    sameItems (xs ++ xs') (ys ++ ys') = (sameItems xs ys && sameItems xs' ys') := by
  induction xs generalizing ys with
  | nil =>
    obtain rfl := List.length_eq_zero_iff.1 h.symm
    rfl
  | cons x xs ih =>
    obtain ⟨y, ys, rfl⟩ := List.exists_cons_of_length_eq_add_one h.symm
    rw [List.length_cons, List.length_cons, Nat.add_right_cancel_iff] at h
    simp only [List.cons_append, sameItems, ih h, Bool.and_assoc]

section

variable {leaf leaf' : Datum → Prop} (hleaf : ∀ d, leaf d → d.flatten = [d])
include hleaf

/-- A grid holds as many elements as its lengths say, and they are of its sort. -/
theorem IsGrid.flatten {lengths : List Nat} {d : Datum} (h : d.IsGrid leaf lengths) :
    d.flatten.length = lengths.prod ∧ ∀ x ∈ d.flatten, leaf x := by
  induction lengths generalizing d with
  | nil =>
    rw [hleaf d h]
    exact ⟨rfl, fun x hx => List.mem_singleton.1 hx ▸ h⟩
  | cons n lengths ih =>
    obtain ⟨rows, rfl, rfl, hrows⟩ := h
    rw [flatten_tuple, List.prod_cons]
    induction rows with
    | nil => exact ⟨(Nat.zero_mul _).symm, nofun⟩
    | cons row rows ihrows =>
      obtain ⟨hrow, hrows⟩ := List.forall_mem_cons.1 hrows
      obtain ⟨hlength, hmem⟩ := ih hrow
      obtain ⟨hlengths, hmems⟩ := ihrows hrows
      rw [flattenItems, List.length_append, hlength, hlengths, List.length_cons, Nat.succ_mul,
        Nat.add_comm]
      exact ⟨rfl, List.forall_mem_append.2 ⟨hmem, hmems⟩⟩

/-- Grids of the same lengths are equal when their elements are, in order. -/
theorem same_of_isGrid (hleaf' : ∀ d, leaf' d → d.flatten = [d]) {lengths : List Nat} {a b : Datum}
    (ha : a.IsGrid leaf lengths) (hb : b.IsGrid leaf' lengths)
    (h : sameItems a.flatten b.flatten = true) : same a b = true := by
  induction lengths generalizing a b with
  | nil =>
    rw [hleaf a ha, hleaf' b hb] at h
    simpa [sameItems] using h
  | cons n lengths ih =>
    obtain ⟨rows, rfl, rfl, hrows⟩ := ha
    obtain ⟨rows', rfl, hcount, hrows'⟩ := hb
    rw [flatten_tuple, flatten_tuple] at h
    rw [same]
    -- the rows are compared one after another, each with its part of the elements
    induction rows generalizing rows' with
    | nil =>
      obtain rfl := List.length_eq_zero_iff.1 hcount
      rfl
    | cons row rows ihrows =>
      obtain ⟨row', rows', rfl⟩ := List.exists_cons_of_length_eq_add_one hcount
      obtain ⟨hrow, hrows⟩ := List.forall_mem_cons.1 hrows
      obtain ⟨hrow', hrows'⟩ := List.forall_mem_cons.1 hrows'
      have hparts : row.flatten.length = row'.flatten.length :=
        (hrow.flatten hleaf).1.trans (hrow'.flatten hleaf').1.symm
      rw [flattenItems, flattenItems, sameItems_append hparts, Bool.and_eq_true] at h
      rw [sameItems, ih hrow hrow' h.1, Bool.true_and]
      exact ihrows hrows rows' h.2 (Nat.succ.inj hcount) hrows'

end

end Datum

/-! ## Data of a descriptor -/

/-- The data that a descriptor asks for: a text, one element, a list of elements, or tuples within
tuples, the last dimension outermost. -/
def Descriptor.Shapes (d : Descriptor) (x : Datum) : Prop :=
  if d.kind = .string then ∃ text, x = .text text
  else match d.shape with
    | .scalar => d.kind.Takes x
    | .variable => ∃ items, x = .list items ∧ ∀ item ∈ items, d.kind.Takes item
    | .fixed dims => x.IsGrid d.kind.Takes dims.reverse

theorem ControlKind.flatten_of_takes {kind : ControlKind} {x : Datum} (h : kind.Takes x) :
    x.flatten = [x] := by
  obtain ⟨element, -, htakes⟩ := h
  exact htakes.flatten_eq

/-- The items are elements of one kind, unless there are none. -/
theorem ControlKind.exists_of_takes {kind : ControlKind} {x : Datum} (h : kind.Takes x) :
    ∃ element : ElementKind, element.kind = kind ∧ ∀ y, kind.Takes y → element.Takes y := by
  obtain ⟨element, helement, -⟩ := h
  refine ⟨element, ControlKind.kind_of_element?_eq_some helement, fun y hy => ?_⟩
  obtain ⟨other, hother, htakes⟩ := hy
  obtain rfl := Option.some.inj (helement.symm.trans hother)
  exact htakes

namespace ControlValue

variable {d : Descriptor} {x : Datum}

/-- Packing data and extracting them again leads to equal data. -/
def Repacks (d : Descriptor) (x : Datum) : Prop :=
  ∃ value, pack d x = .ok value ∧ ∃ y, value.extract d = .ok y ∧ Datum.same y x = true

section

variable {kind : ElementKind}

theorem repacks_scalar (h : kind.Takes x) : Repacks ⟨kind.kind, .scalar⟩ x := by
  obtain ⟨e, he, hsame⟩ := h.exists_element
  have hmap : [x].mapM kind.ofDatum = .ok [e] := by
    rw [List.mapM_cons, he]
    rfl
  refine ⟨.array kind [e], ?_, kind.toDatum e, ?_, hsame⟩
  · exact (if_neg (known_ne_string kind)).trans (construct_of_mapM hmap)
  · rw [extract_scalar, @exactly_array kind [e] 1 rfl]
    rfl

theorem repacks_variable {items : List Datum} (h : ∀ item ∈ items, kind.Takes item) :
    Repacks ⟨kind.kind, .variable⟩ (.list items) := by
  obtain ⟨elements, helements, -, hsame⟩ := ElementKind.exists_elements h
  refine ⟨.array kind elements, ?_, _, extract_variable, ?_⟩
  · exact (if_neg (known_ne_string kind)).trans (construct_of_mapM helements)
  · rw [Datum.same]
    exact hsame

/-- The grid that is extracted has the lengths of the grid that was packed, and
equal elements. -/
theorem repacks_fixed {dims : List Nat} (hdims : ∀ n ∈ dims, 0 < n)
    (h : x.IsGrid kind.Takes dims.reverse) : Repacks ⟨kind.kind, .fixed dims⟩ x := by
  obtain ⟨hlength, htakes⟩ := h.flatten fun _ => ElementKind.Takes.flatten_eq
  rw [List.prod_reverse] at hlength
  obtain ⟨elements, helements, hall, hsame⟩ := ElementKind.exists_elements htakes
  have hcount : elements.length = dims.prod := hall.trans hlength
  have hitems : (elements.map kind.toDatum).length = dims.prod := by
    rw [List.length_map, hcount]
  obtain ⟨grid, hgather, hgrid⟩ := gatherAll_rowMajor hdims hitems
  obtain ⟨group, hgroup, hflat⟩ := gatherAll_of_length hdims hitems
  obtain rfl : group = grid := by
    rw [hgather] at hgroup
    cases hgroup
    rfl
  rw [Datum.flattenItems_toDatum] at hflat
  refine ⟨.array kind elements, ?_, group, ?_, ?_⟩
  · rw [pack, packAs, if_neg (known_ne_string kind)]
    simp only
    rw [if_pos (by rw [hlength, Shape.volume_eq_prod])]
    exact construct_of_mapM helements
  · rw [extract_fixed, exactly_array hcount]
    show (gatherAll _ _ >>= _) = _
    rw [hgather]
    rfl
  · refine Datum.same_of_isGrid (fun y hy => ?_) (fun _ => ElementKind.Takes.flatten_eq)
      hgrid.lengths h (by rwa [hflat])
    obtain ⟨e, -, rfl⟩ := List.mem_map.1 hy
    have hone := Datum.flattenItems_toDatum [e]
    simpa [Datum.flattenItems] using hone

end

/-- Data that hold at least one element decide the kind of element. -/
theorem exists_element_of_isGrid {kind : ControlKind} {dims : List Nat} (hdims : ∀ n ∈ dims, 0 < n)
    (h : x.IsGrid kind.Takes dims.reverse) :
    ∃ element : ElementKind, element.kind = kind ∧ ∀ y, kind.Takes y → element.Takes y := by
  obtain ⟨hlength, htakes⟩ := h.flatten fun _ => ControlKind.flatten_of_takes
  have hpos : 0 < x.flatten.length := by
    rw [hlength, List.prod_reverse, ← Shape.volume_eq_prod]
    exact Shape.volume_pos hdims
  exact ControlKind.exists_of_takes (htakes _ (List.getElem_mem hpos))

theorem repacks_of_shapes (hpos : d.shape.IsPositive) (h : d.Shapes x) : Repacks d x := by
  obtain ⟨kind, shape⟩ := d
  rw [Descriptor.Shapes] at h
  by_cases hkind : kind = .string
  · subst hkind
    obtain ⟨text, rfl⟩ := h
    exact ⟨.string text, rfl, .text text, rfl, by simp [Datum.same, Datum.sameScalar]⟩
  rw [if_neg hkind] at h
  cases shape with
  | scalar =>
    obtain ⟨element, rfl, htakes⟩ := ControlKind.exists_of_takes h
    exact repacks_scalar (htakes x h)
  | «variable» =>
    obtain ⟨items, rfl, hitems⟩ := h
    cases items with
    | nil =>
      cases helement : kind.element? with
      | some element =>
        obtain rfl := ControlKind.kind_of_element?_eq_some helement
        exact repacks_variable (List.forall_mem_nil _)
      | none =>
        have hnone : kind = .none := by
          cases kind with
          | none => rfl
          | string => exact absurd rfl hkind
          | _ => cases helement
        subst hnone
        exact ⟨.none, rfl, .list [], rfl, rfl⟩
    | cons item items =>
      obtain ⟨element, rfl, htakes⟩ :=
        ControlKind.exists_of_takes (hitems item List.mem_cons_self)
      exact repacks_variable fun y hy => htakes y (hitems y hy)
  | fixed dims =>
    obtain ⟨element, rfl, htakes⟩ := exists_element_of_isGrid hpos h
    exact repacks_fixed hpos (h.mono htakes)

/-- Whatever a value is extracted as packs to the value, unless the value holds a number that is
undefined. Data of the form that the descriptor asks for are packed, and what is extracted of them
is equal to them. -/
theorem pack_extract_pack {d : Descriptor} {size : Datum}
    (hsize : Shape.ofSize size = .ok d.shape) :
    (∀ value : ControlValue, value.Defined → ∀ x, value.extract d = .ok x →
      pack d x = .ok value) ∧
    ∀ x, d.Shapes x → Repacks d x := by
  have hpos := Shape.isPositive_of_ofSize hsize
  refine ⟨fun value hdefined x hx => ?_, fun x hx => repacks_of_shapes hpos hx⟩
  have hmatches : value.Matches d := by
    by_contra hnot
    obtain ⟨e, he, -⟩ := extract_of_not_matches hpos hnot
    cases hx.symm.trans he
  obtain ⟨y, hy, hpack⟩ := extract_of_matches hpos hmatches
  obtain rfl : x = y := Except.ok.inj (hx.symm.trans hy)
  exact hpack hdefined

/-- A pair of numbers with an integer among them: what is extracted has the number of single
precision in its place. -/
theorem pack_extract_pack_pair :
    Shape.ofSize (.list [.int 2]) = .ok (.fixed [2]) ∧
    (Descriptor.mk .float (.fixed [2])).Shapes (.tuple [.int 1, .float (.zero .double true)]) ∧
    Repacks ⟨.float, .fixed [2]⟩ (.tuple [.int 1, .float (.zero .double true)]) := by
  have hsize : Shape.ofSize (.list [.int 2]) = .ok (.fixed [2]) := rfl
  have hone : ControlKind.float.Takes (.int 1) :=
    ⟨.float, rfl, ⟨_, rfl⟩,
      fun _ => ⟨⟨0x3F800000, by decide⟩, by decide +kernel, by decide +kernel⟩⟩
  have hzero : ControlKind.float.Takes (.float (.zero .double true)) :=
    ⟨.float, rfl, ⟨_, rfl⟩, fun _ => ⟨.zero .single true, by decide +kernel, by decide +kernel⟩⟩
  have hshapes :
      (Descriptor.mk .float (.fixed [2])).Shapes (.tuple [.int 1, .float (.zero .double true)]) :=
    ⟨_, rfl, rfl, List.forall_mem_cons.2 ⟨hone, List.forall_mem_singleton.2 hzero⟩⟩
  exact ⟨hsize, hshapes, (pack_extract_pack hsize).2 _ hshapes⟩

end ControlValue

end ControlSchema
