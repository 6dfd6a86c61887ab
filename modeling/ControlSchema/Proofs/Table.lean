import ControlSchema.Table
import Mathlib.Data.List.Induction
import Mathlib.Data.List.Nodup
import Mathlib.Data.List.Perm.Subperm
import Mathlib.Tactic.Cases

/-!
# Tables as maps

Writing a key changes what is found under it and nothing else, and adds the key
at the end when it is new. What a table of pairs holds is therefore known from
the last pair of each key.
-/

namespace ControlSchema.Table

variable {κ α : Type} [BEq κ]

theorem get?_cons (k key : κ) (v : α) (rest : Table κ α) :
    get? ((k, v) :: rest) key = if key == k then some v else get? rest key := by
  rw [get?, List.lookup_cons]
  cases key == k <;> rfl

theorem get?_map {β : Type} (f : α → β) (table : Table κ α) (key : κ) :
    get? (table.map fun entry => (entry.1, f entry.2)) key = (table.get? key).map f := by
  induction table with
  | nil => rfl
  | cons entry rest ih =>
    rw [List.map_cons, get?_cons, get?_cons, ih]
    split <;> rfl

theorem put_map {β : Type} (f : α → β) (table : Table κ α) (key : κ) (value : α) :
    (table.put key value).map (fun entry => (entry.1, f entry.2))
      = Table.put (table.map fun entry => (entry.1, f entry.2)) key (f value) := by
  induction table with
  | nil => rfl
  | cons entry rest ih =>
    rw [put, List.map_cons, put]
    split
    · rfl
    · rw [List.map_cons, ih]

theorem merge_cons (table : Table κ α) (entry : κ × α) (rest : List (κ × α)) :
    table.merge (entry :: rest) = (table.put entry.1 entry.2).merge rest := rfl

theorem merge_append (table : Table κ α) (xs ys : List (κ × α)) :
    table.merge (xs ++ ys) = (table.merge xs).merge ys := List.foldl_append

theorem ofPairs_eq_merge (pairs : List (κ × α)) : ofPairs pairs = merge [] pairs := rfl

/-! ## Writing one key -/

variable [LawfulBEq κ]

theorem get?_put (table : Table κ α) (key other : κ) (value : α) :
    get? (table.put key value) other = if other == key then some value else table.get? other := by
  induction table with
  | nil => rw [put, get?_cons]
  | cons entry rest ih =>
    obtain ⟨k, v⟩ := entry
    rw [put]
    by_cases hk : (k == key) = true
    · obtain rfl := eq_of_beq hk
      rw [if_pos hk, get?_cons, get?_cons]
      split <;> rfl
    · rw [if_neg hk, get?_cons, get?_cons, ih]
      by_cases hother : (other == k) = true
      · obtain rfl := eq_of_beq hother
        rw [if_pos hother, if_neg hk, if_pos hother]
      · rw [if_neg hother, if_neg hother]

theorem keys_put_of_mem {table : Table κ α} {key : κ} (h : key ∈ table.keys) (value : α) :
    (table.put key value).keys = table.keys := by
  induction table with
  | nil => cases h
  | cons entry rest ih =>
    obtain ⟨k, v⟩ := entry
    rw [put]
    by_cases hk : (k == key) = true
    · rw [if_pos hk]
      rfl
    · have hrest : key ∈ keys rest :=
        (List.mem_cons.1 h).resolve_left fun heq => hk (by rw [heq]; exact beq_self_eq_true _)
      rw [if_neg hk, keys, List.map_cons]
      exact congrArg (k :: ·) (ih hrest)

theorem put_of_not_mem {table : Table κ α} {key : κ} (h : key ∉ table.keys) (value : α) :
    table.put key value = table ++ [(key, value)] := by
  induction table with
  | nil => rfl
  | cons entry rest ih =>
    obtain ⟨k, v⟩ := entry
    have hk : ¬ (k == key) = true := fun hk =>
      h (by rw [← eq_of_beq hk]; exact List.mem_cons_self)
    rw [put, if_neg hk, ih fun hmem => h (List.mem_cons_of_mem k hmem)]
    rfl

theorem keys_put_of_not_mem {table : Table κ α} {key : κ} (h : key ∉ table.keys) (value : α) :
    (table.put key value).keys = table.keys ++ [key] := by
  rw [put_of_not_mem h, keys, List.map_append]
  rfl

theorem get?_eq_none_of_not_mem {table : Table κ α} {key : κ} (h : key ∉ table.keys) :
    table.get? key = none := by
  induction table with
  | nil => rfl
  | cons entry rest ih =>
    obtain ⟨k, v⟩ := entry
    have hk : ¬ (key == k) = true := fun hk =>
      h (by rw [eq_of_beq hk]; exact List.mem_cons_self)
    rw [get?_cons, if_neg hk, ih fun hmem => h (List.mem_cons_of_mem k hmem)]

theorem mem_of_get? {table : Table κ α} {key : κ} {value : α}
    (h : table.get? key = some value) : (key, value) ∈ table := by
  induction table with
  | nil => cases h
  | cons entry rest ih =>
    obtain ⟨k, v⟩ := entry
    rw [get?_cons] at h
    split at h
    · rename_i hk
      cases h
      rw [eq_of_beq hk]
      exact List.mem_cons_self
    · exact List.mem_cons_of_mem _ (ih h)

/-- Where no key occurs twice, every entry is found. -/
theorem get?_of_mem {table : Table κ α} (hkeys : table.keys.Nodup) {key : κ} {value : α}
    (h : (key, value) ∈ table) : table.get? key = some value := by
  induction table with
  | nil => cases h
  | cons entry rest ih =>
    obtain ⟨k, v⟩ := entry
    obtain ⟨hfresh, hrest⟩ := List.nodup_cons.1 hkeys
    rw [get?_cons]
    rcases List.mem_cons.1 h with heq | hmem
    · cases heq
      rw [if_pos (beq_self_eq_true key)]
    · have hk : ¬ (key == k) = true := fun hk => hfresh (by
        rw [← eq_of_beq hk]
        exact List.mem_map.2 ⟨(key, value), hmem, rfl⟩)
      rw [if_neg hk, ih hrest hmem]

/-- A key that is there keeps its place, and what is around it stays. -/
theorem put_of_split {before after : Table κ α} {key : κ} {old : α} (h : key ∉ before.keys)
    (value : α) :
    Table.put (before ++ (key, old) :: after) key value = before ++ (key, value) :: after := by
  induction before with
  | nil => rw [List.nil_append, put, if_pos (beq_self_eq_true key), List.nil_append]
  | cons entry rest ih =>
    have hne : ¬ (entry.1 == key) = true := fun heq => h (by
      rw [← eq_of_beq heq]
      exact List.mem_cons_self)
    rw [List.cons_append, put, if_neg hne, ih fun hmem => h (List.mem_cons_of_mem entry.1 hmem)]
    rfl

/-! ## Writing many pairs -/

/-- Of two pairs with one key, the later one counts. -/
theorem get?_merge (table : Table κ α) (pairs : List (κ × α)) (key : κ) :
    (table.merge pairs).get? key = (get? pairs.reverse key).or (table.get? key) := by
  induction pairs generalizing table with
  | nil => rfl
  | cons entry rest ih =>
    obtain ⟨k, v⟩ := entry
    have hlast : get? (rest.reverse ++ [(k, v)]) key
        = (get? rest.reverse key).or (if key == k then some v else none) := by
      rw [get?, List.lookup_append]
      exact congrArg _ (get?_cons k key v [])
    rw [merge_cons, ih, get?_put, List.reverse_cons, hlast, Option.or_assoc]
    split <;> rfl

/-- Pairs with keys of their own are the table that they leave. -/
theorem merge_of_nodup {table : Table κ α} {pairs : List (κ × α)}
    (h : (table.keys ++ pairs.map Prod.fst).Nodup) : table.merge pairs = table ++ pairs := by
  induction pairs generalizing table with
  | nil => exact (List.append_nil table).symm
  | cons entry rest ih =>
    have hfresh : entry.1 ∉ table.keys := fun hmem =>
      (List.nodup_append.1 h).2.2 _ hmem _ List.mem_cons_self rfl
    have hput := put_of_not_mem hfresh entry.2
    rw [merge_cons, hput, ih]
    · rw [List.append_assoc]
      rfl
    · rw [← hput, keys_put_of_not_mem hfresh, List.append_assoc]
      exact h

theorem ofPairs_of_nodup {pairs : List (κ × α)} (h : (pairs.map Prod.fst).Nodup) :
    ofPairs pairs = pairs := @merge_of_nodup κ α _ _ [] pairs h

/-! ## Keys of a table -/

theorem nodup_keys_put {table : Table κ α} (h : table.keys.Nodup) (key : κ) (value : α) :
    (table.put key value).keys.Nodup := by
  by_cases hmem : key ∈ table.keys
  · rwa [keys_put_of_mem hmem]
  · rw [keys_put_of_not_mem hmem]
    exact List.nodup_append.2 ⟨h, List.nodup_singleton key, fun a ha b hb heq =>
      hmem (by rwa [← List.mem_singleton.1 hb, ← heq])⟩

theorem mem_keys_put {table : Table κ α} {key other : κ} {value : α} :
    other ∈ (table.put key value).keys ↔ other ∈ table.keys ∨ other = key := by
  by_cases hmem : key ∈ table.keys
  · rw [keys_put_of_mem hmem, or_iff_left_of_imp]
    rintro rfl
    exact hmem
  · rw [keys_put_of_not_mem hmem, List.mem_append, List.mem_singleton]

theorem nodup_keys_merge {table : Table κ α} (h : table.keys.Nodup) (pairs : List (κ × α)) :
    (table.merge pairs).keys.Nodup := by
  induction pairs generalizing table with
  | nil => exact h
  | cons entry rest ih => exact ih (nodup_keys_put h entry.1 entry.2)

theorem mem_keys_merge {table : Table κ α} {pairs : List (κ × α)} {key : κ} :
    key ∈ (table.merge pairs).keys ↔ key ∈ table.keys ∨ key ∈ pairs.map Prod.fst := by
  induction pairs generalizing table with
  | nil => exact ⟨Or.inl, fun h => h.resolve_right List.not_mem_nil⟩
  | cons entry rest ih =>
    rw [merge_cons, ih, mem_keys_put, List.map_cons, List.mem_cons, or_assoc]

theorem nodup_keys_ofPairs (pairs : List (κ × α)) : (ofPairs pairs).keys.Nodup :=
  @nodup_keys_merge κ α _ _ [] List.nodup_nil pairs

theorem mem_keys_ofPairs {pairs : List (κ × α)} {key : κ} :
    key ∈ (ofPairs pairs).keys ↔ key ∈ pairs.map Prod.fst :=
  (@mem_keys_merge κ α _ _ [] pairs key).trans ⟨fun h => h.resolve_left List.not_mem_nil, Or.inr⟩

/-- The keys stand in the order in which they come first. -/
theorem keys_ofPairs (pairs : List (κ × α)) :
    (ofPairs pairs).keys = (pairs.map Prod.fst).eraseDups := by
  induction pairs using List.reverseRecOn with
  | nil => rfl
  | append_singleton pairs entry ih =>
    have hlast : ofPairs (pairs ++ [entry]) = (ofPairs pairs).put entry.1 entry.2 :=
      merge_append [] pairs [entry]
    rw [hlast, List.map_append, List.map_cons, List.map_nil, List.eraseDups_append, ← ih]
    by_cases hmem : entry.1 ∈ pairs.map Prod.fst
    · have hnone : [entry.1].removeAll (pairs.map Prod.fst) = [] := by
        simpa [List.removeAll] using hmem
      rw [keys_put_of_mem (mem_keys_ofPairs.2 hmem), hnone, List.eraseDups_nil, List.append_nil]
    · have hnew : [entry.1].removeAll (pairs.map Prod.fst) = [entry.1] := by
        simpa [List.removeAll] using hmem
      rw [keys_put_of_not_mem fun h => hmem (mem_keys_ofPairs.1 h), hnew]
      rfl

/-- A table is its keys with what is found under them. -/
theorem eq_filterMap_keys {table : Table κ α} (h : table.keys.Nodup) :
    table = table.keys.filterMap fun key => (table.get? key).map fun value => (key, value) := by
  have hfound : ∀ entry ∈ table,
      ((table.get? entry.1).map fun value => (entry.1, value)) = some entry :=
    fun entry hentry => by rw [get?_of_mem h hentry, Option.map_some]
  rw [keys, List.filterMap_map]
  exact ((List.filterMap_congr hfound).trans List.filterMap_some).symm

/-- A key that occurs twice leaves fewer entries than there were pairs. -/
theorem length_ofPairs_eq_iff {pairs : List (κ × α)} :
    (ofPairs pairs).length = pairs.length ↔ (pairs.map Prod.fst).Nodup := by
  refine ⟨fun h => ?_, fun h => by rw [ofPairs_of_nodup h]⟩
  have hsub : (ofPairs pairs).keys.Subperm (pairs.map Prod.fst) :=
    (nodup_keys_ofPairs pairs).subperm fun key hkey => mem_keys_ofPairs.1 hkey
  have hlength : (pairs.map Prod.fst).length ≤ (ofPairs pairs).keys.length := by
    rw [keys, List.length_map, List.length_map]
    exact Nat.le_of_eq h.symm
  exact (hsub.perm_of_length_le hlength).nodup_iff.1 (nodup_keys_ofPairs pairs)

/-- The keys that are written decide on the keys of the table. -/
theorem keys_merge_congr {β : Type} {table : Table κ α} {table' : Table κ β}
    (h : table.keys = table'.keys) {pairs : List (κ × α)} {pairs' : List (κ × β)}
    (hpairs : pairs.map Prod.fst = pairs'.map Prod.fst) :
    (table.merge pairs).keys = (table'.merge pairs').keys := by
  induction pairs generalizing table table' pairs' with
  | nil =>
    cases pairs' with
    | nil => exact h
    | cons entry' rest' => cases hpairs
  | cons entry rest ih =>
    cases pairs' with
    | nil => cases hpairs
    | cons entry' rest' =>
      obtain ⟨k, v⟩ := entry
      obtain ⟨k', v'⟩ := entry'
      obtain rfl : k = k' := (List.cons.inj hpairs).1
      have hput : (table.put k v).keys = (table'.put k v').keys := by
        by_cases hmem : k ∈ table.keys
        · have hmem' : k ∈ table'.keys := by rwa [← h]
          rw [keys_put_of_mem hmem, keys_put_of_mem hmem', h]
        · have hmem' : k ∉ table'.keys := by rwa [← h]
          rw [keys_put_of_not_mem hmem, keys_put_of_not_mem hmem', h]
      exact ih hput (List.cons.inj hpairs).2

/-- Tables with the same keys in the same order are told apart by what is found
under the keys. -/
theorem ext_of_get? {table table' : Table κ α} (hkeys : table.keys = table'.keys)
    (hnodup : table.keys.Nodup) (h : ∀ key ∈ table.keys, table.get? key = table'.get? key) :
    table = table' := by
  induction table generalizing table' with
  | nil =>
    cases table' with
    | nil => rfl
    | cons entry' rest' => cases hkeys
  | cons entry rest ih =>
    cases table' with
    | nil => cases hkeys
    | cons entry' rest' =>
      obtain ⟨k, v⟩ := entry
      obtain ⟨k', v'⟩ := entry'
      obtain rfl : k = k' := (List.cons.inj hkeys).1
      obtain ⟨hfresh, hnodup⟩ := List.nodup_cons.1 hnodup
      have hfirst := h k List.mem_cons_self
      rw [get?_cons, get?_cons, if_pos (beq_self_eq_true k), if_pos (beq_self_eq_true k)] at hfirst
      rw [Option.some.inj hfirst, ih (List.cons.inj hkeys).2 hnodup fun key hkey => ?_]
      have hne : ¬ (key == k) = true := fun heq => hfresh (by rwa [← eq_of_beq heq])
      have hlater := h key (List.mem_cons_of_mem k hkey)
      rwa [get?_cons, get?_cons, if_neg hne, if_neg hne] at hlater

/-! ## Tables of a list -/

section

variable {β : Type} {as : List β} {key : β → κ} (value : β → α)

/-- Where keys tell items apart, each item's value is found under its key. -/
theorem get?_ofPairs_map (hkeys : ∀ a ∈ as, ∀ b ∈ as, key a = key b → a = b) {a : β}
    (ha : a ∈ as) : get? (ofPairs (as.map fun a => (key a, value a))) (key a) = some (value a) := by
  rw [ofPairs_eq_merge, get?_merge]
  cases hfound : get? (as.map fun a => (key a, value a)).reverse (key a) with
  | none =>
    have hmem : (key a, value a) ∈ (as.map fun a => (key a, value a)).reverse :=
      List.mem_reverse.2 (List.mem_map.2 ⟨a, ha, rfl⟩)
    exact absurd rfl (bne_iff_ne.1 (List.lookup_eq_none_iff.1 hfound _ hmem))
  | some found =>
    obtain ⟨b, hb, heq⟩ := List.mem_map.1 (List.mem_reverse.1 (mem_of_get? hfound))
    cases hkeys b hb a ha (Prod.mk.inj heq).1
    rw [(Prod.mk.inj heq).2]
    rfl

theorem get?_ofPairs_map_eq_none {k : κ} (hkeys : ∀ a ∈ as, key a ≠ k) :
    get? (ofPairs (as.map fun a => (key a, value a))) k = none := by
  rw [ofPairs_eq_merge, get?_merge, get?_eq_none_of_not_mem]
  · rfl
  · intro hmem
    obtain ⟨entry, hentry, rfl⟩ := List.mem_map.1 hmem
    obtain ⟨a, ha, rfl⟩ := List.mem_map.1 (List.mem_reverse.1 hentry)
    exact hkeys a ha rfl

/-- Where the key decides on the value, keys may come again. -/
theorem get?_ofPairs_of_key {as : List β} {key : β → κ} (f : κ → α) {k : κ}
    (hk : k ∈ as.map key) : get? (ofPairs (as.map fun a => (key a, f (key a)))) k = some (f k) := by
  rw [ofPairs_eq_merge, get?_merge]
  cases hfound : get? (as.map fun a => (key a, f (key a))).reverse k with
  | none =>
    obtain ⟨a, ha, rfl⟩ := List.mem_map.1 hk
    have hmem : (key a, f (key a)) ∈ (as.map fun a => (key a, f (key a))).reverse :=
      List.mem_reverse.2 (List.mem_map.2 ⟨a, ha, rfl⟩)
    exact absurd rfl (bne_iff_ne.1 (List.lookup_eq_none_iff.1 hfound _ hmem))
  | some found =>
    obtain ⟨a, -, heq⟩ := List.mem_map.1 (List.mem_reverse.1 (mem_of_get? hfound))
    obtain ⟨rfl, rfl⟩ := Prod.mk.inj heq
    rfl

end

/-! ## Entries -/

theorem get?_eq_some_iff {table : Table κ α} (h : table.keys.Nodup) {key : κ} {value : α} :
    table.get? key = some value ↔ (key, value) ∈ table := ⟨mem_of_get?, get?_of_mem h⟩

theorem get?_ne_none_iff {table : Table κ α} {key : κ} :
    table.get? key ≠ none ↔ key ∈ table.keys := by
  refine ⟨fun h => ?_, fun h hnone => ?_⟩
  · by_contra hmem
    exact h (get?_eq_none_of_not_mem hmem)
  · obtain ⟨entry, hmem, rfl⟩ := List.mem_map.1 h
    have hne := List.lookup_eq_none_iff.1 hnone entry hmem
    rw [bne_self_eq_false] at hne
    cases hne

theorem get?_reverse {table : Table κ α} (h : table.keys.Nodup) (key : κ) :
    get? table.reverse key = table.get? key := by
  have hreverse : (keys table.reverse).Nodup := by
    rw [keys, List.map_reverse, List.nodup_reverse]
    exact h
  refine Option.ext fun value => ?_
  rw [get?_eq_some_iff hreverse, get?_eq_some_iff h, List.mem_reverse]

theorem has_iff {table : Table κ α} {key : κ} : table.has key = true ↔ key ∈ table.keys := by
  rw [← get?_ne_none_iff, has, Option.isSome_iff_ne_none]
  rfl

end ControlSchema.Table
