import ControlSchema.Proofs.ControlValue.Extraction

/-!
# Elements and their places in a grid

A grid is taken out of a value by gathering elements along one dimension after
another, the innermost first. What has to be shown is that one group is left in
the end and that it is nested as the dimensions say, with every element at the
place that row-major order gives it.

The induction is on the dimensions, and what it is about are not the elements
but whatever is gathered at the time. After the first step the groups take the
place of the elements: the rest of the dimensions makes a grid of groups, each
group is a tuple of elements, and the element at some indices is found by
finding its group first. The offset of an element in storage is built the same
way, from the offset of its group.
-/

namespace ControlSchema

namespace Datum

/-- Tuples within tuples around data of a sort. The lengths come from the
outermost to the innermost. -/
def IsGrid (leaf : Datum → Prop) : List Nat → Datum → Prop
  | [], d => leaf d
  | n :: inner, d => ∃ rows, d = .tuple rows ∧ rows.length = n ∧
    ∀ row ∈ rows, row.IsGrid leaf inner

/-- What stands at some indices in tuples within tuples, the index into the
outermost first. -/
def entry? : List Nat → Datum → Option Datum
  | [], d => some d
  | i :: rest, .tuple rows => rows[i]? >>= entry? rest
  | _ :: _, _ => none

theorem isGrid_append {leaf : Datum → Prop} {outer inner : List Nat} {d : Datum} :
    d.IsGrid leaf (outer ++ inner) ↔ d.IsGrid (fun row => row.IsGrid leaf inner) outer := by
  induction outer generalizing d with
  | nil => exact Iff.rfl
  | cons n outer ih =>
    simp only [List.cons_append, IsGrid, ih]

theorem IsGrid.mono {leaf leaf' : Datum → Prop} (hle : ∀ d, leaf d → leaf' d)
    {lengths : List Nat} {d : Datum} (h : d.IsGrid leaf lengths) : d.IsGrid leaf' lengths := by
  induction lengths generalizing d with
  | nil => exact hle d h
  | cons n lengths ih =>
    obtain ⟨rows, rfl, hlength, hrows⟩ := h
    exact ⟨rows, rfl, hlength, fun row hrow => ih (hrows row hrow)⟩

theorem entry?_append (outer inner : List Nat) (d : Datum) :
    entry? (outer ++ inner) d = entry? outer d >>= entry? inner := by
  induction outer generalizing d with
  | nil => rfl
  | cons i outer ih =>
    cases d with
    | tuple rows =>
      show rows[i]? >>= entry? (outer ++ inner) = (rows[i]? >>= entry? outer) >>= entry? inner
      cases rows[i]? with
      | none => rfl
      | some row => exact ih row
    | _ => rfl

end Datum

namespace ControlValue

/-! ## One dimension -/

/-- The groups lie side by side. -/
theorem getElem?_groupsOf {size k : Nat} {items : List Datum}
    (h : k * (size + 1) < items.length) :
    (groupsOf size items)[k]?
      = some (.tuple ((items.drop (k * (size + 1))).take (size + 1))) := by
  induction k generalizing items with
  | zero =>
    cases items with
    | nil => simp at h
    | cons item rest => simp [groupsOf_cons]
  | succ k ih =>
    cases items with
    | nil => simp at h
    | cons item rest =>
      have hrest : k * (size + 1) < (rest.drop size).length := by
        rw [Nat.succ_mul, List.length_cons] at h
        rw [List.length_drop]
        omega
      have hdrop : (item :: rest).drop ((k + 1) * (size + 1))
          = (rest.drop size).drop (k * (size + 1)) := by
        rw [List.drop_drop, Nat.succ_mul, ← Nat.add_assoc, List.drop_succ_cons, Nat.add_comm]
      rw [groupsOf_cons, List.getElem?_cons_succ, ih hrest, hdrop]

/-- Each group is a tuple of as many items as the dimension says. -/
theorem isGrid_of_mem_groupsOf {size count : Nat} {items : List Datum}
    (h : items.length = (size + 1) * count) {group : Datum} (hgroup : group ∈ groupsOf size items) :
    group.IsGrid (· ∈ items) [size + 1] := by
  obtain ⟨k, hk, hget⟩ := List.mem_iff_getElem.1 hgroup
  rw [length_groupsOf h] at hk
  have hend : (k + 1) * (size + 1) ≤ items.length := by
    rw [h, Nat.mul_comm]
    exact Nat.mul_le_mul_left _ hk
  rw [Nat.succ_mul] at hend
  have hstart : k * (size + 1) < items.length := by omega
  have hfound := getElem?_groupsOf hstart
  rw [List.getElem?_eq_getElem (by rwa [length_groupsOf h]), hget] at hfound
  refine ⟨_, Option.some.inj hfound, ?_, fun row hrow => ?_⟩
  · rw [List.length_take, List.length_drop]
    omega
  · exact List.mem_of_mem_drop (List.mem_of_mem_take hrow)

/-! ## All dimensions -/

/-- The place in storage of the element at some indices. Dimensions and indices
come from the innermost to the outermost. -/
def offset : List Nat → List Nat → Nat
  | d :: dims, i :: indices => i + d * offset dims indices
  | _, _ => 0

theorem offset_lt {dims indices : List Nat} (h : List.Forall₂ (· < ·) indices dims) :
    offset dims indices < dims.prod := by
  induction h with
  | nil => exact Nat.one_pos
  | @cons i d indices dims hi _ ih =>
    rw [offset, List.prod_cons]
    calc i + d * offset dims indices
        < d + d * offset dims indices := Nat.add_lt_add_right hi _
      _ = d * (offset dims indices + 1) := by rw [Nat.mul_succ, Nat.add_comm]
      _ ≤ d * dims.prod := Nat.mul_le_mul_left d ih

/-- The items are nested as the dimensions say, each at its place. -/
structure RowMajor (items : List Datum) (dims : List Nat) (grid : Datum) : Prop where
  /-- The last dimension is the outermost. -/
  lengths : grid.IsGrid (· ∈ items) dims.reverse
  entry : ∀ indices, List.Forall₂ (· < ·) indices dims → ∃ item,
    items[offset dims indices]? = some item ∧ grid.entry? indices.reverse = some item

/-- A grid of groups is a grid of the items in them. -/
theorem RowMajor.of_groupsOf {size : Nat} {dims : List Nat} {items : List Datum} {grid : Datum}
    (h : items.length = (size + 1) * dims.prod) (hgrid : RowMajor (groupsOf size items) dims grid) :
    RowMajor items ((size + 1) :: dims) grid := by
  constructor
  · rw [List.reverse_cons, Datum.isGrid_append]
    exact hgrid.lengths.mono fun group hgroup => isGrid_of_mem_groupsOf h hgroup
  · intro indices hindices
    obtain ⟨i, indices, rfl⟩ := List.exists_cons_of_length_eq_add_one hindices.length_eq
    obtain ⟨hi, hindices⟩ := List.forall₂_cons.1 hindices
    obtain ⟨group, hgroup, hentry⟩ := hgrid.entry indices hindices
    have hlt := offset_lt (List.Forall₂.cons hi hindices)
    rw [List.prod_cons, ← h, offset, Nat.mul_comm (size + 1)] at hlt
    rw [getElem?_groupsOf (by omega)] at hgroup
    obtain rfl := Option.some.inj hgroup
    refine ⟨items[i + offset dims indices * (size + 1)], ?_, ?_⟩
    · rw [offset, Nat.mul_comm (size + 1)]
      exact List.getElem?_eq_getElem hlt
    · rw [List.reverse_cons, Datum.entry?_append, hentry]
      show ((items.drop _).take (size + 1))[i]? >>= Datum.entry? [] = _
      rw [List.getElem?_take_of_lt hi, List.getElem?_drop, Nat.add_comm,
        List.getElem?_eq_getElem hlt]
      rfl

/-- Items that fill a grid are gathered into one group, and the group is the
grid. -/
theorem gatherAll_rowMajor {dims : List Nat} (hdims : ∀ d ∈ dims, 0 < d) {items : List Datum}
    (h : items.length = dims.prod) :
    ∃ grid, gatherAll items (dims.map Int.ofNat) = .ok [grid] ∧ RowMajor items dims grid := by
  induction dims generalizing items with
  | nil =>
    obtain ⟨item, rfl⟩ := List.length_eq_one_iff.1 h
    refine ⟨item, rfl, List.mem_singleton_self item, ?_⟩
    rintro _ ⟨⟩
    exact ⟨item, rfl, rfl⟩
  | cons d dims ih =>
    have hd : 0 < d := hdims d List.mem_cons_self
    obtain ⟨size, rfl⟩ : ∃ size, d = size + 1 := ⟨d - 1, by omega⟩
    rw [List.prod_cons] at h
    obtain ⟨grid, hgather, hgrid⟩ :=
      ih (fun e he => hdims e (List.mem_cons_of_mem _ he)) (length_groupsOf h)
    exact ⟨grid, (gatherAll_cons size dims items).trans hgather, hgrid.of_groupsOf h⟩

/-! ## Grids of values -/

variable {value : ControlValue}

/-- Values other than texts store one element for each item. -/
theorem length_items (hvalue : value.kind ≠ .string) : value.items.length = value.elementCount := by
  cases value with
  | none => rfl
  | array kind elements => exact List.length_map _
  | string text => exact absurd rfl hvalue

theorem toNested_own_kind (value : ControlValue) (dims : List Nat) :
    value.toNested value.kind (dims.map Int.ofNat) = (do
      let items ← value.exactly (dims.prod : Nat)
      return (← gatherAll items (dims.map Int.ofNat)).headD (.tuple [])) := by
  have hcheck : value.checkKind value.kind = .ok () := if_pos rfl
  rw [toNested, hcheck, product_map_ofNat]
  rfl

theorem toNested_of_count (hvalue : value.kind ≠ .string) {dims : List Nat}
    (hdims : ∀ d ∈ dims, 0 < d) (h : dims.prod = value.elementCount) :
    ∃ grid, value.toNested value.kind (dims.map Int.ofNat) = .ok grid ∧
      RowMajor value.items dims grid := by
  have hlength : value.items.length = dims.prod := by rw [length_items hvalue, h]
  obtain ⟨grid, hgather, hgrid⟩ := gatherAll_rowMajor hdims hlength
  have hexactly : value.exactly (dims.prod : Nat) = .ok value.items :=
    if_pos (congrArg Int.ofNat hlength)
  refine ⟨grid, ?_, hgrid⟩
  rw [toNested_own_kind, hexactly]
  show (gatherAll _ _ >>= _) = _
  rw [hgather]
  rfl

theorem toNested_of_not_count (hvalue : value.kind ≠ .string) {dims : List Nat}
    (h : dims.prod ≠ value.elementCount) :
    value.toNested value.kind (dims.map Int.ofNat)
      = .error (.invalidLength dims.prod value.elementCount) := by
  have hexactly : value.exactly (dims.prod : Nat)
      = .error (.invalidLength dims.prod value.elementCount) := by
    rw [exactly, length_items hvalue]
    exact if_neg fun heq => h (Int.ofNat.inj heq).symm
  rw [toNested_own_kind, hexactly]
  rfl

/-- What it means that a value is taken out as a grid: it holds as many elements as the grid has
places, and each is at the place of row-major order. Any other number is refused. -/
structure NestsAs (value : ControlValue) (dims : List Nat) (found : Except ValueError Datum) :
    Prop where
  exists_iff : (∃ grid, found = .ok grid) ↔ dims.prod = value.elementCount
  rowMajor : ∀ grid, found = .ok grid → RowMajor value.items dims grid
  refused : dims.prod ≠ value.elementCount →
    found = .error (.invalidLength dims.prod value.elementCount)

theorem nestsAs (hvalue : value.kind ≠ .string) {dims : List Nat} (hdims : ∀ d ∈ dims, 0 < d) :
    NestsAs value dims (value.toNested value.kind (dims.map Int.ofNat)) := by
  by_cases hcount : dims.prod = value.elementCount
  · obtain ⟨grid, hfound, hgrid⟩ := toNested_of_count hvalue hdims hcount
    rw [hfound]
    refine ⟨iff_of_true ⟨grid, rfl⟩ hcount, ?_, fun hne => absurd hcount hne⟩
    rintro _ ⟨⟩
    exact hgrid
  · rw [toNested_of_not_count hvalue hcount]
    exact ⟨iff_of_false nofun hcount, nofun, fun _ => rfl⟩

/-- A value that is no text is taken out as a grid of any positive dimensions exactly when it holds
as many elements as the grid. The grid is made of tuples, the last dimension outermost, and the
element at some indices is the one at their offset; without dimensions it is the single element, and
a matrix has its elements row by row. -/
theorem toNested_rowMajor (value : ControlValue) (hvalue : value.kind ≠ .string) :
    (∀ dims : List Nat, (∀ d ∈ dims, 0 < d) →
      NestsAs value dims (value.toNested value.kind (dims.map Int.ofNat))) ∧
    (∀ element, value.toNested value.kind [] = .ok element ↔ value.items = [element]) ∧
    ∀ rows columns : Nat, 0 < rows → 0 < columns →
      NestsAs value [columns, rows] (value.toMatrix value.kind rows columns) ∧
      ∀ matrix, value.toMatrix value.kind rows columns = .ok matrix →
        matrix.IsGrid (· ∈ value.items) [rows, columns] ∧
        ∀ i < rows, ∀ j < columns, ∃ element, value.items[i * columns + j]? = some element ∧
          matrix.entry? [i, j] = some element := by
  refine ⟨fun dims hdims => nestsAs hvalue hdims, fun element => ?_,
    fun rows columns hrows hcolumns => ?_⟩
  · have hnests := @nestsAs value hvalue [] nofun
    constructor
    · intro hfound
      have hcount : value.items.length = 1 := by
        rw [length_items hvalue]
        exact (hnests.exists_iff.1 ⟨element, hfound⟩).symm
      obtain ⟨item, hitem⟩ := List.length_eq_one_iff.1 hcount
      have hmem : element ∈ value.items := (hnests.rowMajor element hfound).lengths
      rw [hitem] at hmem ⊢
      rw [List.mem_singleton.1 hmem]
    · intro hitems
      have hexactly : value.exactly (1 : Nat) = .ok [element] := by
        rw [exactly, hitems]
        rfl
      have hown := toNested_own_kind value []
      rw [List.prod_nil, hexactly] at hown
      exact hown
  · have hdims : ∀ d ∈ [columns, rows], 0 < d := by
      intro d hd
      obtain rfl | rfl : d = columns ∨ d = rows := by simpa using hd
      · exact hcolumns
      · exact hrows
    have hnests := nestsAs hvalue hdims
    refine ⟨hnests, fun matrix hmatrix => ?_⟩
    have hgrid := hnests.rowMajor matrix hmatrix
    refine ⟨hgrid.lengths, fun i hi j hj => ?_⟩
    obtain ⟨element, hstored, hentry⟩ :=
      hgrid.entry [j, i] (.cons hj (.cons hi .nil))
    have hoffset : offset [columns, rows] [j, i] = i * columns + j := by
      simp only [offset]
      rw [Nat.mul_zero, Nat.add_zero, Nat.mul_comm columns, Nat.add_comm]
    exact ⟨element, hoffset ▸ hstored, hentry⟩

/-- Six switches are taken out as two rows of three. -/
theorem toNested_rowMajor_switches :
    (ControlValue.array .bool [true, false, false, false, true, true]).kind ≠ .string ∧
    ∃ grid,
      (ControlValue.array .bool [true, false, false, false, true, true]).toNested
          (.known .bool) [3, 2]
        = .ok grid ∧
      RowMajor ([true, false, false, false, true, true].map Datum.bool) [3, 2] grid := by
  have hkind : (ControlValue.array .bool [true, false, false, false, true, true]).kind ≠ .string :=
    nofun
  have hnests := (toNested_rowMajor _ hkind).1 [3, 2] (by decide)
  obtain ⟨grid, hfound⟩ := hnests.exists_iff.2 rfl
  exact ⟨hkind, grid, hfound, hnests.rowMajor grid hfound⟩

end ControlValue

end ControlSchema
