import ControlSchema.Proofs.ControlValue.Grid
import Mathlib.Algebra.BigOperators.Ring.List
import Mathlib.Algebra.Ring.Int.Defs

/-!
# Grids of any dimensions

Extraction compares the number of elements with the product of the dimensions
and looks at no dimension by itself. What that lets through is the subject
here: a product may be right although the dimensions are not those of a grid.

Along a positive dimension nothing is lost. Along a negative one nothing is
gathered, and what follows has nothing to gather from. A dimension of zero
cannot be gathered along at all, but it is only met by a value without
elements, for otherwise the product is wrong.
-/

namespace ControlSchema

namespace ControlValue

/-! ## Gathering along any dimensions -/

theorem gather_pos {d : Int} (hd : 0 < d) (items : List Datum) :
    gather items d = .ok (groupsOf (d.toNat - 1) items) := by
  rw [gather, if_neg (by omega), if_neg (by omega)]

theorem gather_neg {d : Int} (hd : d < 0) (items : List Datum) : gather items d = .ok [] := by
  rw [gather, if_neg (by omega), if_pos hd]

theorem gather_zero (items : List Datum) : gather items 0 = .error .emptyGroups := if_pos rfl

theorem gatherAll_cons_of_ok {items groups : List Datum} {d : Int}
    (h : gather items d = .ok groups) (dims : List Int) :
    gatherAll items (d :: dims) = gatherAll groups dims := by
  rw [gatherAll, List.foldlM_cons, h]
  rfl

theorem gatherAll_cons_zero (items : List Datum) (dims : List Int) :
    gatherAll items (0 :: dims) = .error .emptyGroups := by
  rw [gatherAll, List.foldlM_cons, gather_zero]
  rfl

/-- Where there is nothing to gather from, only a dimension of zero matters. -/
theorem gatherAll_nil (dims : List Int) :
    gatherAll [] dims = if 0 ∈ dims then .error .emptyGroups else .ok [] := by
  induction dims with
  | nil => rfl
  | cons d dims ih =>
    rcases lt_trichotomy d 0 with hd | rfl | hd
    · have hmem : 0 ∈ d :: dims ↔ 0 ∈ dims := by simp [hd.ne']
      rw [gatherAll_cons_of_ok (gather_neg hd []), ih, if_congr hmem rfl rfl]
    · rw [gatherAll_cons_zero, if_pos List.mem_cons_self]
    · have hnone : gather [] d = .ok [] := by rw [gather_pos hd, groupsOf]
      have hmem : 0 ∈ d :: dims ↔ 0 ∈ dims := by simp [hd.ne]
      rw [gatherAll_cons_of_ok hnone, ih, if_congr hmem rfl rfl]

/-- A negative dimension leaves nothing, whatever was gathered before. -/
theorem gatherAll_of_neg {dims : List Int} (hzero : 0 ∉ dims) (hneg : ∃ d ∈ dims, d < 0)
    (items : List Datum) : gatherAll items dims = .ok [] := by
  induction dims generalizing items with
  | nil =>
    obtain ⟨d, hd, -⟩ := hneg
    cases hd
  | cons d dims ih =>
    obtain ⟨hd, hzero⟩ := not_or.1 (mt List.mem_cons.2 hzero)
    by_cases hd' : d < 0
    · rw [gatherAll_cons_of_ok (gather_neg hd' items), gatherAll_nil, if_neg hzero]
    · have hlater : ∃ e ∈ dims, e < 0 := by
        obtain ⟨e, he, hneg⟩ := hneg
        rcases List.mem_cons.1 he with rfl | he
        · exact absurd hneg hd'
        · exact ⟨e, he, hneg⟩
      rw [gatherAll_cons_of_ok (gather_pos (by omega) items), ih hzero hlater]

theorem product_eq_prod (dims : List Int) : product dims = dims.prod := by
  rw [product, List.prod_eq_foldl]

theorem map_ofNat_map_toNat {dims : List Int} (hdims : ∀ d ∈ dims, 0 < d) :
    (dims.map Int.toNat).map Int.ofNat = dims := by
  rw [List.map_map]
  exact (List.map_congr_left fun d hd => Int.toNat_of_nonneg (hdims d hd).le).trans
    (List.map_id dims)

/-! ## Elements of values -/

/-- Elements are taken as they are, and so are the characters of a text. -/
theorem flattenItems_items (value : ControlValue) :
    Datum.flattenItems value.items = value.items := by
  cases value with
  | none => rfl
  | array kind elements => exact Datum.flattenItems_toDatum elements
  | string text =>
    rw [items]
    induction text.toList with
    | nil => rfl
    | cons c cs ih =>
      have hone : Datum.flatten (.text c.toString) = [.text c.toString] := rfl
      rw [List.map_cons, Datum.flattenItems, ih, hone, List.singleton_append]

variable {value : ControlValue} {expected : KindRequest} {dims : List Int}

/-- The value has the kind and the number of elements that a grid asks for. -/
structure MatchesGrid (value : ControlValue) (expected : KindRequest) (dims : List Int) : Prop where
  kind : expected = .known value.kind
  count : product dims = value.items.length

theorem toNested_of_matchesGrid (h : value.MatchesGrid expected dims) :
    value.toNested expected dims
      = (gatherAll value.items dims).map fun groups => groups.headD (.tuple []) := by
  obtain ⟨rfl, hcount⟩ := h
  have hcheck : value.checkKind value.kind = .ok () := if_pos rfl
  have hexactly : value.exactly (product dims) = .ok value.items := if_pos hcount.symm
  rw [toNested, hcheck]
  show (value.exactly _ >>= _) = _
  rw [hexactly]
  cases hgather : gatherAll value.items dims with
  | error e => simp [hgather, bind, Except.bind, Except.map]
  | ok groups => simp [hgather, bind, Except.bind, Except.map, pure, Except.pure]

/-- All elements are found in the grid, in their order. -/
theorem exists_toNested_of_pos (h : value.MatchesGrid expected dims) (hpos : ∀ d ∈ dims, 0 < d) :
    ∃ grid, value.toNested expected dims = .ok grid ∧ grid.flatten = value.items := by
  have hsizes : ∀ n ∈ dims.map Int.toNat, 0 < n := by
    intro n hn
    obtain ⟨d, hd, rfl⟩ := List.mem_map.1 hn
    have := hpos d hd
    omega
  have hlength : value.items.length = (dims.map Int.toNat).prod := by
    have hproduct := product_map_ofNat (dims.map Int.toNat)
    rw [map_ofNat_map_toNat hpos, h.count] at hproduct
    exact Int.ofNat.inj hproduct
  obtain ⟨grid, hgather, hflat⟩ := gatherAll_of_length hsizes hlength
  rw [map_ofNat_map_toNat hpos] at hgather
  refine ⟨grid, ?_, hflat.trans value.flattenItems_items⟩
  rw [toNested_of_matchesGrid h, hgather]
  rfl

/-! ## Every outcome -/

/-- How extraction as a grid ends. -/
inductive NestingEnds (value : ControlValue) (expected : KindRequest) (dims : List Int) :
    Except ValueError Datum → Prop
  | otherKind (h : expected ≠ .known value.kind) :
    NestingEnds value expected dims (.error (.invalidType expected value.kind))
  | otherCount (hkind : expected = .known value.kind) (h : product dims ≠ value.items.length) :
    NestingEnds value expected dims (.error (.invalidLength (product dims) value.items.length))
  | whole (h : value.MatchesGrid expected dims) (hpos : ∀ d ∈ dims, 0 < d) {grid : Datum}
    (hflat : grid.flatten = value.items) : NestingEnds value expected dims (.ok grid)
  /-- A dimension of zero cannot be gathered along. -/
  | undivided (h : value.MatchesGrid expected dims) (hzero : 0 ∈ dims) (hnone : value.items = []) :
    NestingEnds value expected dims (.error .emptyGroups)
  /-- The elements are lost. -/
  | dropped (h : value.MatchesGrid expected dims) (hzero : 0 ∉ dims) (hneg : ∃ d ∈ dims, d < 0)
    (hsome : value.items ≠ []) : NestingEnds value expected dims (.ok (.tuple []))

theorem nestingEnds (value : ControlValue) (expected : KindRequest) (dims : List Int) :
    NestingEnds value expected dims (value.toNested expected dims) := by
  by_cases hkind : expected = .known value.kind
  · by_cases hcount : product dims = value.items.length
    · have h : value.MatchesGrid expected dims := ⟨hkind, hcount⟩
      by_cases hpos : ∀ d ∈ dims, 0 < d
      · obtain ⟨grid, hgrid, hflat⟩ := exists_toNested_of_pos h hpos
        rw [hgrid]
        exact .whole h hpos hflat
      · have hlength : 0 ∈ dims ↔ value.items = [] := by
          rw [← List.prod_eq_zero_iff, ← product_eq_prod, hcount, Int.natCast_eq_zero,
            List.length_eq_zero_iff]
        rw [toNested_of_matchesGrid h]
        by_cases hzero : 0 ∈ dims
        · have hnone := hlength.1 hzero
          rw [hnone, gatherAll_nil, if_pos hzero]
          exact .undivided h hzero hnone
        · have hneg : ∃ d ∈ dims, d < 0 := by
            push Not at hpos
            obtain ⟨d, hd, hle⟩ := hpos
            exact ⟨d, hd, lt_of_le_of_ne hle fun heq => hzero (heq ▸ hd)⟩
          rw [gatherAll_of_neg hzero hneg]
          exact .dropped h hzero hneg (mt hlength.2 hzero)
    · have hexactly : value.exactly (product dims)
          = .error (.invalidLength (product dims) value.items.length) :=
        if_neg fun heq => hcount heq.symm
      have hcheck : value.checkKind expected = .ok () := if_pos hkind
      rw [toNested, hcheck]
      show NestingEnds value expected dims (value.exactly _ >>= _)
      rw [hexactly]
      exact .otherCount hkind hcount
  · have hcheck : value.checkKind expected = .error (.invalidType expected value.kind) :=
      if_neg hkind
    rw [toNested, hcheck]
    exact .otherKind hkind

/-! ## What extraction promises -/

/-- Extraction keeps its promise: it gives data with exactly the elements of the value, or an error
about their kind or their number. -/
def Keeps (value : ControlValue) : Except ValueError Datum → Prop
  | .ok grid => grid.flatten = value.items
  | .error e => e.errorClass = .invalidType ∨ e.errorClass = .invalidLength

/-- A refusal is raised as such when its numbers can be written. -/
theorem keeps_error_iff {e : ValueError}
    (hclass : e.isWritable = true → Keeps value (.error e)) :
    Keeps value (.error e) ↔ e.isWritable = true := by
  by_cases h : e.isWritable = true
  · exact iff_of_true (hclass h) h
  · rw [Keeps, ValueError.errorClass_of_not_isWritable h]
    exact iff_of_false (by decide) h

theorem keeps_iff_of_not_matchesGrid (h : ¬ value.MatchesGrid expected dims) {e : ValueError}
    (hclass : e.isWritable = true → Keeps value (.error e)) :
    Keeps value (.error e) ↔ (value.MatchesGrid expected dims → ∀ d ∈ dims, 0 < d) ∧
      ∀ e', (.error e : Except ValueError Datum) = .error e' → e'.isWritable = true := by
  rw [keeps_error_iff hclass]
  simp only [h, false_implies, true_and, Except.error.injEq, forall_eq']

theorem NestingEnds.keeps_iff {found : Except ValueError Datum}
    (h : NestingEnds value expected dims found) : Keeps value found ↔
      (value.MatchesGrid expected dims → ∀ d ∈ dims, 0 < d) ∧
      ∀ e, found = .error e → e.isWritable = true := by
  cases h with
  | otherKind hkind =>
    refine keeps_iff_of_not_matchesGrid (fun h => hkind h.kind) fun hwritable => ?_
    exact .inl (if_pos hwritable)
  | otherCount hkind hcount =>
    refine keeps_iff_of_not_matchesGrid (fun h => hcount h.count) fun hwritable => ?_
    exact .inr (if_pos hwritable)
  | whole h hpos hflat =>
    refine iff_of_true hflat ⟨fun _ => hpos, ?_⟩
    rintro _ ⟨⟩
  | undivided h hzero hnone =>
    refine iff_of_false (fun hclass => ?_) fun hall => Int.lt_irrefl 0 (hall.1 h 0 hzero)
    rcases hclass with hclass | hclass <;> cases hclass
  | dropped h hzero hneg hsome =>
    obtain ⟨d, hd, hneg⟩ := hneg
    exact iff_of_false (fun hflat => hsome hflat.symm) fun hall =>
      Int.lt_asymm hneg (hall.1 h d hd)

/-- The promise is kept unless the value has the kind and the number of elements that the dimensions
ask for and some dimension is not positive, or a number in the error is too long to be written.
Where a dimension breaks it, the error is of another class if the dimension is zero, and otherwise
the grid is empty although there are elements. A matrix is the grid of its columns and rows. -/
theorem toNested_keeps_iff (value : ControlValue) (expected : KindRequest) :
    (∀ dims : List Int, NestingEnds value expected dims (value.toNested expected dims) ∧
      (Keeps value (value.toNested expected dims) ↔
        (value.MatchesGrid expected dims → ∀ d ∈ dims, 0 < d) ∧
        ∀ e, value.toNested expected dims = .error e → e.isWritable = true)) ∧
    ∀ rows columns : Int,
      NestingEnds value expected [columns, rows] (value.toMatrix expected rows columns) ∧
      (Keeps value (value.toMatrix expected rows columns) ↔
        (value.MatchesGrid expected [columns, rows] → 0 < rows ∧ 0 < columns) ∧
        ∀ e, value.toMatrix expected rows columns = .error e → e.isWritable = true) := by
  refine ⟨fun dims => ?_, fun rows columns => ?_⟩
  · have hends := nestingEnds value expected dims
    exact ⟨hends, hends.keeps_iff⟩
  · have hends := nestingEnds value expected [columns, rows]
    have hpos : (∀ d ∈ [columns, rows], 0 < d) ↔ 0 < rows ∧ 0 < columns := by
      simp [and_comm]
    have hkeeps := hends.keeps_iff
    rw [hpos] at hkeeps
    exact ⟨hends, hkeeps⟩

/-- No elements are no matrix of no rows, and two switches vanish in a grid whose negative
dimensions have two as their product. -/
theorem toNested_not_keeps :
    (ControlValue.array .bool []).toMatrix (.known .bool) 0 3 = .error .emptyGroups ∧
    ¬ Keeps (.array .bool []) ((ControlValue.array .bool []).toMatrix (.known .bool) 0 3) ∧
    (ControlValue.array .bool [true, false]).toNested (.known .bool) [-1, -2] = .ok (.tuple []) ∧
    ¬ Keeps (.array .bool [true, false])
      ((ControlValue.array .bool [true, false]).toNested (.known .bool) [-1, -2]) := by
  have hmatrix : (ControlValue.array .bool []).toMatrix (.known .bool) 0 3
      = .error .emptyGroups := by
    have hmatches : (ControlValue.array .bool []).MatchesGrid (.known .bool) [3, 0] := ⟨rfl, rfl⟩
    refine (toNested_of_matchesGrid hmatches).trans ?_
    show (gatherAll [] [3, 0]).map _ = _
    rw [gatherAll_nil]
    rfl
  have hnested : (ControlValue.array .bool [true, false]).toNested (.known .bool) [-1, -2]
      = .ok (.tuple []) := rfl
  refine ⟨hmatrix, ?_, hnested, ?_⟩
  · rw [hmatrix]
    intro h
    rcases h with h | h <;> cases h
  · rw [hnested]
    intro h
    cases h

end ControlValue

end ControlSchema
