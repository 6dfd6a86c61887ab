import ControlSchema.Proofs.Definition
import Mathlib.Algebra.BigOperators.Group.List.Basic

/-!
# Sound shapes

A size specification is read into a shape only if all its dimensions are
positive. Grids of such a shape hold at least one element, and no dimension
asks for groups of none. Definitions from schema entries get their shapes in no
other way.
-/

namespace ControlSchema

namespace Shape

/-- No dimension is zero, so elements can be gathered along each. -/
def IsPositive (s : Shape) : Prop := ∀ d ∈ s.dims, 0 < d

theorem volume_eq_prod (dims : List Nat) : volume dims = dims.prod := by
  rw [volume, List.prod_eq_foldl]

theorem volume_pos {dims : List Nat} (h : ∀ d ∈ dims, 0 < d) : 0 < volume dims := by
  rw [volume_eq_prod]
  induction dims with
  | nil => exact Nat.one_pos
  | cons d dims ih =>
    rw [List.prod_cons]
    exact Nat.mul_pos (h d List.mem_cons_self) (ih fun e he => h e (List.mem_cons_of_mem d he))

/-! ## Size specifications -/

theorem pos_of_readEntry {entry : Datum} {d : Nat} (h : readEntry entry = .ok (some d)) :
    0 < d := by
  rw [readEntry.eq_def] at h
  split at h
  · split at h <;> cases h
  · split at h
    · next hpos =>
      cases h
      omega
    · cases h
  · cases h

theorem isPositive_of_ofEntries {entries : List Datum} {s : Shape}
    (h : ofEntries entries = .ok s) : s.IsPositive := by
  by_cases hempty : entries.isEmpty
  · rw [ofEntries, if_pos hempty] at h
    cases h
  cases hdims : entries.mapM readEntry with
  | error e =>
    rw [ofEntries, if_neg hempty, hdims] at h
    cases h
  | ok dims =>
    by_cases hnone : dims.contains none
    · by_cases hlong : 1 < entries.length
      · simp only [ofEntries, hempty, hdims, hnone, hlong, bind, Except.bind] at h
        cases h
      · simp only [ofEntries, hempty, hdims, hnone, hlong, bind, Except.bind] at h
        cases h
        exact nofun
    · simp only [ofEntries, hempty, hdims, hnone, bind, Except.bind] at h
      cases h
      intro d hd
      obtain ⟨entry, hmem, hentry⟩ := List.mem_filterMap.1 hd
      exact Attempt.forall_of_mapM (P := fun found => ∀ n, found = some n → 0 < n)
        (fun _ _ hread n hn => pos_of_readEntry (hread.trans (congrArg _ hn))) hdims entry hmem d
        hentry

/-- What a size specification asks for has no dimension without extent. -/
theorem isPositive_of_ofSize {size : Datum} {s : Shape} (h : ofSize size = .ok s) :
    s.IsPositive := by
  rw [ofSize.eq_def] at h
  split at h
  · cases h
    exact nofun
  · exact isPositive_of_ofEntries h
  · exact isPositive_of_ofEntries h
  · cases h

end Shape

/-! ## Schema entries -/

namespace Definition

/-- The definition comes from an entry of a schema, whatever the readers. -/
def OfSchema (d : Definition) : Prop :=
  ∃ (_ : Readers) (name entry vendor : Datum), ofEntry name entry vendor = .ok d

theorem eq_of_checked {d d' : Definition} (h : checked d = .ok d') : d' = d := by
  rw [checked] at h
  split at h
  · next hcheck =>
    cases h
    exact eq_of_check hcheck
  · cases h

theorem shape_of_ofParts {name vendor : Datum} {kind : ControlKind} {description : String}
    {shape : Shape} {enumeration : Option (List Enumerator)} {d : Definition}
    (h : ofParts name vendor kind description shape enumeration = .ok d) : d.shape = shape := by
  rw [ofParts] at h
  split at h
  · rw [eq_of_checked h]
  · cases h

theorem OfSchema.accepted {d : Definition} : d.OfSchema → d.Accepted
  | ⟨_, _, _, _, hentry⟩ => accepted_of_ofEntry hentry

theorem OfSchema.isPositive {d : Definition} (h : d.OfSchema) : d.shape.IsPositive := by
  obtain ⟨_, name, entry, vendor, h⟩ := h
  cases entry with
  | dict entries =>
    rw [ofEntry] at h
    cases htype : Datum.lookup? "type" entries with
    | none =>
      rw [htype] at h
      cases h
    | some type =>
      rw [htype] at h
      simp only at h
      obtain ⟨enumeration, -, h⟩ := Attempt.bind_eq_ok h
      obtain ⟨kind, -, h⟩ := Attempt.bind_eq_ok h
      obtain ⟨description, -, h⟩ := Attempt.bind_eq_ok h
      obtain ⟨shape, hshape, h⟩ := Attempt.bind_eq_ok h
      obtain ⟨enumerators, -, h⟩ := Attempt.bind_eq_ok h
      rw [shape_of_ofParts (Attempt.mapError_eq_ok h)]
      exact Shape.isPositive_of_ofSize (Attempt.mapError_eq_ok hshape)
  | _ => cases h

end Definition

end ControlSchema
