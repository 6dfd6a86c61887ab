import ControlSchema.Proofs.Table

/-!
# Texts in order

Sorting leaves the texts that were there, so two sorted lists of different texts are
equal as soon as they hold the same ones.
-/

namespace ControlSchema

theorem textAtMost_iff {a b : String} : textAtMost a b = true ↔ a ≤ b := by
  rw [textAtMost, Bool.not_eq_true', decide_eq_false_iff_not, String.not_lt]

theorem textAtMost_trans (a b c : String) (hab : textAtMost a b = true)
    (hbc : textAtMost b c = true) : textAtMost a c = true :=
  textAtMost_iff.2 (String.le_trans (textAtMost_iff.1 hab) (textAtMost_iff.1 hbc))

theorem textAtMost_total (a b : String) : (textAtMost a b || textAtMost b a) = true := by
  rw [Bool.or_eq_true, textAtMost_iff, textAtMost_iff]
  exact String.le_total a b

theorem pairwise_mergeSort_texts (texts : List String) :
    (texts.mergeSort textAtMost).Pairwise (· ≤ ·) :=
  (List.pairwise_mergeSort textAtMost_trans textAtMost_total texts).imp textAtMost_iff.1

/-- Sorted texts without repetitions are told apart by which they are. -/
theorem eq_of_pairwise_texts {texts texts' : List String} (h : texts.Pairwise (· ≤ ·))
    (h' : texts'.Pairwise (· ≤ ·)) (hnodup : texts.Nodup) (hnodup' : texts'.Nodup)
    (hmem : ∀ text, text ∈ texts ↔ text ∈ texts') : texts = texts' :=
  ((List.perm_ext_iff_of_nodup hnodup hnodup').2 hmem).eq_of_pairwise
    (fun _ _ _ _ hab hba => String.le_antisymm hab hba) h h'

namespace Table

variable {α : Type}

theorem perm_sorted (table : Table String α) : table.sorted.Perm table :=
  List.mergeSort_perm _ _

theorem mem_sorted {table : Table String α} {entry : String × α} :
    entry ∈ table.sorted ↔ entry ∈ table := table.perm_sorted.mem_iff

theorem mem_keys_sorted {table : Table String α} {key : String} :
    key ∈ table.sorted.keys ↔ key ∈ table.keys := (table.perm_sorted.map Prod.fst).mem_iff

theorem nodup_keys_sorted {table : Table String α} (h : table.keys.Nodup) :
    table.sorted.keys.Nodup := (table.perm_sorted.map Prod.fst).nodup_iff.2 h

theorem pairwise_keys_sorted (table : Table String α) : table.sorted.keys.Pairwise (· ≤ ·) := by
  have hsorted := @List.pairwise_mergeSort (String × α) (fun a b => textAtMost a.1 b.1)
    (fun a b c => textAtMost_trans a.1 b.1 c.1) (fun a b => textAtMost_total a.1 b.1) table
  rw [keys, List.pairwise_map]
  exact hsorted.imp fun h => textAtMost_iff.1 h

/-- The order in which the entries of a table were written does not show when it is sorted. -/
theorem sorted_eq_of_perm {table table' : Table String α} (hkeys : table.keys.Nodup)
    (h : table'.Perm table) : table'.sorted = table.sorted := by
  have hperm : table'.sorted.Perm table.sorted :=
    table'.perm_sorted.trans (h.trans table.perm_sorted.symm)
  have hpairwise (t : Table String α) : t.sorted.Pairwise fun a b => a.1 ≤ b.1 :=
    List.pairwise_map.1 t.pairwise_keys_sorted
  refine hperm.eq_of_pairwise (fun a b ha hb hab hba => ?_) (hpairwise table') (hpairwise table)
  exact List.inj_on_of_nodup_map hkeys (mem_sorted.1 (hperm.mem_iff.1 ha)) (mem_sorted.1 hb)
    (String.le_antisymm hab hba)

/-- A table whose keys are in order is sorted. -/
theorem sorted_of_pairwise {table : Table String α} (h : table.keys.Pairwise (· ≤ ·)) :
    table.sorted = table := by
  rw [keys, List.pairwise_map] at h
  exact List.mergeSort_of_pairwise (h.imp fun hle => textAtMost_iff.2 hle)

theorem get?_sorted {table : Table String α} (h : table.keys.Nodup) (key : String) :
    table.sorted.get? key = table.get? key := by
  refine Option.ext fun value => ?_
  rw [get?_eq_some_iff (nodup_keys_sorted h), mem_sorted, get?_eq_some_iff h]

/-- Keys that come in order stay in order. -/
theorem pairwise_keys_ofPairs {pairs : List (String × α)} {R : String → String → Prop}
    (h : (pairs.map Prod.fst).Pairwise R) : (ofPairs pairs).keys.Pairwise R := by
  induction pairs using List.reverseRecOn with
  | nil => exact List.Pairwise.nil
  | append_singleton pairs entry ih =>
    have hlast : ofPairs (pairs ++ [entry]) = (ofPairs pairs).put entry.1 entry.2 :=
      merge_append [] pairs [entry]
    rw [List.map_append, List.pairwise_append] at h
    rw [hlast]
    by_cases hmem : entry.1 ∈ (ofPairs pairs).keys
    · rw [keys_put_of_mem hmem]
      exact ih h.1
    · rw [keys_put_of_not_mem hmem, List.pairwise_append]
      exact ⟨ih h.1, List.pairwise_singleton _ _, fun key hkey other hother =>
        h.2.2 key (mem_keys_ofPairs.1 hkey) other hother⟩

end Table

end ControlSchema
