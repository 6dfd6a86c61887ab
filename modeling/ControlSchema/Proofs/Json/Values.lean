import ControlSchema.Digest
import ControlSchema.Proofs.Attempt
import ControlSchema.Proofs.Json.RoundTrip
import Mathlib.Data.List.Induction

/-!
# Values that are read

What is read from a text is a JSON value: a scalar, a list of values, or an object whose keys are
texts. Every such value can be written. The reader comes down from a value to its parts with less
fuel each time, so one induction on the fuel serves values, items and members alike.
-/

namespace ControlSchema.Json

open Number

/-- What texts of JSON stand for. -/
inductive IsValue : Value → Prop
  | null : IsValue .null
  | bool (b : Bool) : IsValue (.bool b)
  | int {i : Int} (h : isWritable i = true) : IsValue (.int i)
  | float (x : Double) : IsValue (.float x)
  | text (w : Words) : IsValue (.text w)
  | list {items : List Value} (h : ∀ item ∈ items, IsValue item) : IsValue (.list items)
  | dict {entries : List (Value × Value)} (hkeys : ∀ entry ∈ entries, ∃ key, entry.1 = .text key)
      (hvalues : ∀ entry ∈ entries, IsValue entry.2) : IsValue (.dict entries)

/-! ## Reading -/

theorem forall_mem_insert {P Q : Value → Prop} {entries : List (Value × Value)}
    {key value : Value} (h : ∀ entry ∈ entries, P entry.1 ∧ Q entry.2) (hkey : P key)
    (hvalue : Q value) : ∀ entry ∈ Value.insert entries key value, P entry.1 ∧ Q entry.2 := by
  induction entries with
  | nil => exact List.forall_mem_singleton.2 ⟨hkey, hvalue⟩
  | cons first rest ih =>
    obtain ⟨hfirst, hrest⟩ := List.forall_mem_cons.1 h
    rw [Value.insert]
    split
    · exact List.forall_mem_cons.2 ⟨⟨hfirst.1, hvalue⟩, hrest⟩
    · exact List.forall_mem_cons.2 ⟨hfirst, ih hrest⟩

/-- What holds of the keys and of the values of pairs holds of those of the dictionary. -/
theorem forall_mem_ofPairs {P Q : Value → Prop} {pairs : List (Value × Value)}
    (h : ∀ pair ∈ pairs, P pair.1 ∧ Q pair.2) :
    ∀ entry ∈ Value.ofPairs pairs, P entry.1 ∧ Q entry.2 := by
  induction pairs using List.reverseRecOn with
  | nil => exact nofun
  | append_singleton pairs pair ih =>
    obtain ⟨hpairs, hpair⟩ := List.forall_mem_append.1 h
    obtain ⟨hkey, hvalue⟩ := List.forall_mem_singleton.1 hpair
    rw [Value.ofPairs, List.foldl_append]
    exact forall_mem_insert (ih hpairs) hkey hvalue

/-- The key that is inserted is there, by itself or by one that is the same, and no key is lost. -/
theorem exists_mem_insert (entries : List (Value × Value)) (key value : Value) :
    (∃ found ∈ Value.insert entries key value, found.1 = key ∨ Value.sameKey found.1 key = true) ∧
      ∀ entry ∈ entries, ∃ found ∈ Value.insert entries key value, found.1 = entry.1 := by
  induction entries with
  | nil => exact ⟨⟨_, List.mem_singleton_self _, .inl rfl⟩, nofun⟩
  | cons first rest ih =>
    obtain ⟨k, v⟩ := first
    rw [Value.insert]
    split
    · next hsame =>
      refine ⟨⟨_, List.mem_cons_self, .inr hsame⟩,
        List.forall_mem_cons.2 ⟨⟨_, List.mem_cons_self, rfl⟩, fun entry hentry => ?_⟩⟩
      exact ⟨entry, List.mem_cons_of_mem _ hentry, rfl⟩
    · obtain ⟨⟨found, hfound, hkey⟩, hrest⟩ := ih
      refine ⟨⟨found, List.mem_cons_of_mem _ hfound, hkey⟩,
        List.forall_mem_cons.2 ⟨⟨_, List.mem_cons_self, rfl⟩, fun entry hentry => ?_⟩⟩
      obtain ⟨other, hother, heq⟩ := hrest entry hentry
      exact ⟨other, List.mem_cons_of_mem _ hother, heq⟩

/-- Every key of the pairs is one of the dictionary, by itself or by one that is the same. -/
theorem exists_mem_ofPairs {pairs : List (Value × Value)} :
    ∀ pair ∈ pairs, ∃ found ∈ Value.ofPairs pairs,
      found.1 = pair.1 ∨ Value.sameKey found.1 pair.1 = true := by
  induction pairs using List.reverseRecOn with
  | nil => exact nofun
  | append_singleton pairs last ih =>
    obtain ⟨hlast, hkept⟩ := exists_mem_insert (Value.ofPairs pairs) last.1 last.2
    have hofPairs : Value.ofPairs (pairs ++ [last])
        = Value.insert (Value.ofPairs pairs) last.1 last.2 := by
      rw [Value.ofPairs, List.foldl_append]
      rfl
    rw [hofPairs]
    refine List.forall_mem_append.2 ⟨fun pair hpair => ?_, List.forall_mem_singleton.2 hlast⟩
    obtain ⟨found, hfound, hsame⟩ := ih pair hpair
    obtain ⟨other, hother, heq⟩ := hkept found hfound
    exact ⟨other, hother, heq ▸ hsame⟩

/-- No key that is a text is the same as one that is none. -/
theorem not_text_of_sameKey {found key : Value}
    (hsame : found = key ∨ Value.sameKey found key = true) (h : ∀ w, key ≠ .text w) :
    ∀ w, found ≠ .text w := by
  rintro w rfl
  rcases hsame with rfl | hsame
  · exact h w rfl
  · cases key with
    | text w' => exact h w' rfl
    | _ => cases hsame

theorem isDigit_wholeOf {body : List Char} : ∀ c ∈ (wholeOf body).1, c.isDigit = true := by
  rw [wholeOf.eq_def]
  split
  · exact List.forall_mem_singleton.2 rfl
  · exact fun c hc => List.mem_takeWhile_imp hc

/-- Digits that are not too many make a number that is not too long. -/
theorem natOfChars_lt {cs : List Char} (hdigits : ∀ c ∈ cs, c.isDigit = true)
    (hlong : ¬ digitLimit < cs.length) : natOfChars cs < 10 ^ digitLimit := by
  have hvalue : natOfChars cs < 10 ^ cs.length := by
    rw [← List.length_map (f := fun c => c.toNat - 0x30)]
    refine ofDigits_lt fun d hd => ?_
    obtain ⟨c, hc, rfl⟩ := List.mem_map.1 hd
    have hbounds := toNat_of_isDigit (hdigits c hc)
    omega
  exact Nat.lt_of_lt_of_le hvalue (Nat.pow_le_pow_right (by decide) (Nat.not_lt.1 hlong))

theorem isValue_of_readNumber {cs rest : List Char} {d : Value}
    (h : readNumber cs = .ok (d, rest)) : IsValue d := by
  rw [readNumber_eq] at h
  simp only at h
  split at h
  · cases h
  · split at h
    · split at h
      · cases h
      · next hlong =>
        cases h
        have hvalue := natOfChars_lt isDigit_wholeOf hlong
        refine .int (isWritable_iff.2 ?_)
        split <;> omega
    · split at h
      · cases h
        exact .float _
      · cases h

theorem isValue_of_mem_words {word : List Char × Value} (h : word ∈ words) : IsValue word.2 := by
  simp only [words, List.mem_cons, List.not_mem_nil, or_false] at h
  rcases h with rfl | rfl | rfl | rfl | rfl | rfl
  · exact .null
  · exact .bool true
  · exact .bool false
  all_goals exact .float _

theorem isValue_of_readPlain {cs rest : List Char} {d : Value}
    (h : readPlain cs = .ok (d, rest)) : IsValue d := by
  rw [readPlain] at h
  split at h
  · next found hfound =>
    cases h
    obtain ⟨⟨word, value⟩, hword, hread⟩ := List.exists_of_findSome?_eq_some hfound
    simp only at hread
    split at hread
    · cases hread
      exact isValue_of_mem_words hword
    · cases hread
  · exact isValue_of_readNumber h

/-- Values, items and members of this fuel are JSON values. -/
structure ReadsValues (fuel : Nat) : Prop where
  value : ∀ {cs rest d}, readValue fuel cs = .ok (d, rest) → IsValue d
  items : ∀ {cs rest items}, readItems fuel cs = .ok (items, rest) → ∀ item ∈ items, IsValue item
  members : ∀ {cs rest pairs}, readMembers fuel cs = .ok (pairs, rest) →
    ∀ pair ∈ pairs, (∃ key, pair.1 = .text key) ∧ IsValue pair.2

namespace ReadsValues

variable {fuel : Nat} (ih : ReadsValues fuel)
include ih

theorem step_value {cs rest : List Char} {d : Value}
    (h : readValue (fuel + 1) cs = .ok (d, rest)) : IsValue d := by
  rw [readValue.eq_def] at h
  simp only at h
  split at h
  · obtain ⟨⟨text, after⟩, -, h⟩ := Attempt.bind_eq_ok h
    cases h
    exact .text text
  · split at h
    · cases h
      exact .list (List.forall_mem_nil _)
    · obtain ⟨⟨items, after⟩, hitems, h⟩ := Attempt.bind_eq_ok h
      cases h
      exact .list (ih.items hitems)
  · split at h
    · cases h
      exact .dict (List.forall_mem_nil _) (List.forall_mem_nil _)
    · obtain ⟨⟨pairs, after⟩, hpairs, h⟩ := Attempt.bind_eq_ok h
      cases h
      have hentries := forall_mem_ofPairs (P := fun key => ∃ s, key = .text s) (ih.members hpairs)
      exact .dict (fun entry hentry => (hentries entry hentry).1)
        fun entry hentry => (hentries entry hentry).2
  · exact isValue_of_readPlain h

theorem step_items {cs rest : List Char} {items : List Value}
    (h : readItems (fuel + 1) cs = .ok (items, rest)) : ∀ item ∈ items, IsValue item := by
  rw [readItems] at h
  obtain ⟨⟨item, after⟩, hitem, h⟩ := Attempt.bind_eq_ok h
  have hitem := ih.value hitem
  simp only at h
  split at h
  · cases h
    exact List.forall_mem_singleton.2 hitem
  · obtain ⟨⟨more, final⟩, hmore, h⟩ := Attempt.bind_eq_ok h
    cases h
    exact List.forall_mem_cons.2 ⟨hitem, ih.items hmore⟩
  · cases h

theorem step_members {cs rest : List Char} {pairs : List (Value × Value)}
    (h : readMembers (fuel + 1) cs = .ok (pairs, rest)) :
    ∀ pair ∈ pairs, (∃ key, pair.1 = .text key) ∧ IsValue pair.2 := by
  rw [readMembers.eq_def] at h
  simp only at h
  split at h
  · obtain ⟨⟨key, afterKey⟩, -, h⟩ := Attempt.bind_eq_ok h
    simp only at h
    split at h
    · obtain ⟨⟨value, afterValue⟩, hvalue, h⟩ := Attempt.bind_eq_ok h
      have hvalue := ih.value hvalue
      simp only at h
      split at h
      · cases h
        exact List.forall_mem_singleton.2 ⟨⟨key, rfl⟩, hvalue⟩
      · obtain ⟨⟨more, final⟩, hmore, h⟩ := Attempt.bind_eq_ok h
        cases h
        exact List.forall_mem_cons.2 ⟨⟨⟨key, rfl⟩, hvalue⟩, ih.members hmore⟩
      · cases h
    · cases h
  · cases h

end ReadsValues

theorem readsValues (fuel : Nat) : ReadsValues fuel := by
  induction fuel with
  | zero => exact ⟨nofun, nofun, nofun⟩
  | succ fuel ih => exact ⟨ih.step_value, ih.step_items, ih.step_members⟩

/-- What a text is read as is a JSON value. -/
theorem isValue_of_read {s : String} {d : Value} (h : read s = .ok d) : IsValue d := by
  rw [read] at h
  simp only at h
  split at h
  · cases h
  · obtain ⟨⟨value, rest⟩, hvalue, h⟩ := Attempt.bind_eq_ok h
    simp only at h
    split at h
    · cases h
      exact (readsValues _).value hvalue
    · cases h

/-! ## Parts -/

namespace Value

theorem scalars_list (items : List Value) : (Value.list items).scalars = items.flatMap scalars := by
  rw [scalars]
  induction items with
  | nil => rfl
  | cons item items ih => rw [scalarsOfItems, ih, List.flatMap_cons]

theorem scalars_dict (entries : List (Value × Value)) : (Value.dict entries).scalars
    = entries.flatMap fun entry => entry.1.scalars ++ entry.2.scalars := by
  rw [scalars]
  induction entries with
  | nil => rfl
  | cons entry entries ih => rw [scalarsOfEntries, ih, List.flatMap_cons, scalarsOfEntry]

theorem isWritable_int (i : Int) : (Value.int i).isWritable = Number.isWritable i :=
  Bool.and_true _

theorem isWritable_list {items : List Value} :
    (Value.list items).isWritable = true ↔ ∀ item ∈ items, item.isWritable = true := by
  rw [isWritable, scalars_list, List.all_flatMap, List.all_eq_true]
  rfl

theorem isWritable_dict {entries : List (Value × Value)} : (Value.dict entries).isWritable = true
    ↔ ∀ entry ∈ entries, entry.1.isWritable = true ∧ entry.2.isWritable = true := by
  simp only [isWritable, scalars_dict, List.all_flatMap, List.all_append, List.all_eq_true,
    Bool.and_eq_true]

theorem isWhole_list {items : List Value} :
    (Value.list items).isWhole = true ↔ ∀ item ∈ items, item.isWhole = true := by
  rw [isWhole, scalars_list, List.all_flatMap, List.all_eq_true]
  rfl

theorem isWhole_dict {entries : List (Value × Value)} : (Value.dict entries).isWhole = true
    ↔ ∀ entry ∈ entries, entry.1.isWhole = true ∧ entry.2.isWhole = true := by
  simp only [isWhole, scalars_dict, List.all_flatMap, List.all_append, List.all_eq_true,
    Bool.and_eq_true]

theorem isWhole_eq_false_iff {v : Value} :
    v.isWhole = false ↔ ∃ codes, .text (.garbled codes) ∈ v.scalars := by
  rw [isWhole, List.all_eq_false]
  constructor
  · rintro ⟨scalar, hscalar, hwhole⟩
    split at hwhole
    · next w =>
      cases w with
      | whole text => exact absurd rfl hwhole
      | garbled codes => exact ⟨codes, hscalar⟩
    · exact absurd rfl hwhole
  · rintro ⟨codes, hscalar⟩
    exact ⟨_, hscalar, Bool.false_ne_true⟩

theorem induction {P : Value → Prop}
    (scalar : ∀ v, fault? v = scalarFault? v → v.scalars = [v] → P v)
    (list : ∀ items, (∀ item ∈ items, P item) → P (.list items))
    (dict : ∀ entries, (∀ entry ∈ entries, P entry.1 ∧ P entry.2) → P (.dict entries)) (v : Value) :
    P v := by
  refine @Value.rec P (fun items => ∀ item ∈ items, P item)
    (fun entries => ∀ entry ∈ entries, P entry.1 ∧ P entry.2)
    (fun entry => P entry.1 ∧ P entry.2) ?_ ?_ ?_ ?_ ?_ list dict ?_ ?_ ?_ ?_ ?_ ?_ v
  · exact scalar _ rfl rfl
  · exact fun b => scalar _ rfl rfl
  · exact fun i => scalar _ rfl rfl
  · exact fun x => scalar _ rfl rfl
  · exact fun w => scalar _ rfl rfl
  · exact fun d => scalar _ rfl rfl
  · exact nofun
  · exact fun _ _ hfirst hrest => List.forall_mem_cons.2 ⟨hfirst, hrest⟩
  · exact nofun
  · exact fun _ _ hfirst hrest => List.forall_mem_cons.2 ⟨hfirst, hrest⟩
  · exact fun _ _ hkey hvalue => ⟨hkey, hvalue⟩

end Value

/-! ## Writing -/

theorem fault?_list (items : List Value) : fault? (.list items) = items.findSome? fault? := by
  rw [fault?]
  induction items with
  | nil => rfl
  | cons item items ih =>
    rw [itemsFault?, ih, List.findSome?_cons]
    cases fault? item <;> rfl

/-- What is wrong with the entries of a dictionary is wrong with one of them. -/
theorem exists_entry_of_fault? {entries : List (Value × Value)} {fault : WriteFault}
    (h : fault? (.dict entries) = some fault) (hfault : fault ≠ .notJson) :
    ∃ entry ∈ entries, scalarFault? entry.1 = some fault ∨ fault? entry.2 = some fault := by
  rw [fault?, entryFaults_eq_map] at h
  split at h
  · obtain ⟨found, hfound, heq⟩ := List.exists_of_findSome?_eq_some h
    obtain ⟨entry, hentry, rfl⟩ := List.mem_map.1 ((List.mem_mergeSort).1 hfound)
    rcases Option.or_eq_some_iff.1 heq with hkey | ⟨-, hvalue⟩
    · exact ⟨entry, hentry, .inl hkey⟩
    · exact ⟨entry, hentry, .inr hvalue⟩
  · cases h
    exact absurd rfl hfault

theorem entries_of_fault? {entries : List (Value × Value)} (h : fault? (.dict entries) = none) :
    ∀ entry ∈ entries, scalarFault? entry.1 = none ∧ fault? entry.2 = none := by
  intro entry hentry
  rw [fault?, entryFaults_eq_map] at h
  split at h
  · rw [List.findSome?_eq_none_iff] at h
    exact Option.or_eq_none_iff.1
      (h _ (List.mem_mergeSort.2 (List.mem_map.2 ⟨entry, hentry, rfl⟩)))
  · cases h

/-- Entries under texts are written if their values are. -/
theorem fault?_dict {entries : List (Value × Value)}
    (h : ∀ entry ∈ entries, (∃ key, entry.1 = .text key) ∧ fault? entry.2 = none) :
    fault? (.dict entries) = none := by
  have hcomparable : comparable (entries.map Prod.fst) = true := by
    rw [comparable, Bool.or_eq_true, Bool.or_eq_true]
    refine .inl (.inr (List.all_eq_true.2 fun key hkey => ?_))
    obtain ⟨entry, hentry, rfl⟩ := List.mem_map.1 hkey
    obtain ⟨⟨w, hw⟩, -⟩ := h entry hentry
    rw [hw]
  rw [fault?, if_pos hcomparable, entryFaults_eq_map, List.findSome?_eq_none_iff]
  intro found hfound
  obtain ⟨entry, hentry, rfl⟩ := List.mem_map.1 (List.mem_mergeSort.1 hfound)
  obtain ⟨⟨w, hw⟩, hvalue⟩ := h entry hentry
  rw [Option.or_eq_none_iff, hw]
  exact ⟨rfl, hvalue⟩

theorem scalar_of_scalarFault? {v : Value} (h : scalarFault? v ≠ some .notJson) :
    fault? v = scalarFault? v := by
  cases v with
  | list => exact absurd rfl h
  | dict => exact absurd rfl h
  | _ => rfl

/-- Halves of characters end no writing. -/
theorem fault?_ne_unencodable (v : Value) : fault? v ≠ some .unencodable := by
  have hscalar (v : Value) : scalarFault? v ≠ some .unencodable := by
    rw [scalarFault?.eq_def]
    split
    · split <;> exact nofun
    all_goals exact nofun
  induction v using Value.induction with
  | scalar v hfault _ =>
    rw [hfault]
    exact hscalar v
  | list items ih =>
    intro h
    rw [fault?_list] at h
    obtain ⟨item, hitem, hfault⟩ := List.exists_of_findSome?_eq_some h
    exact ih item hitem hfault
  | dict entries ih =>
    intro h
    obtain ⟨entry, hentry, hfault | hfault⟩ := exists_entry_of_fault? h nofun
    · exact hscalar _ hfault
    · exact (ih entry hentry).2 hfault

/-- Only what has no integer that is too long is written. -/
theorem isWritable_of_fault? (v : Value) : (fault? v = none → v.isWritable = true) ∧
    (fault? v = some .tooLong → v.isWritable = false) := by
  induction v using Value.induction with
  | scalar v hfault hscalars =>
    rw [hfault, Value.isWritable, hscalars]
    cases v <;> simp [scalarFault?]
  | list items ih =>
    rw [fault?_list]
    constructor
    · intro h
      rw [List.findSome?_eq_none_iff] at h
      exact Value.isWritable_list.2 fun item hitem => (ih item hitem).1 (h item hitem)
    · intro h
      obtain ⟨item, hitem, hfault⟩ := List.exists_of_findSome?_eq_some h
      rw [← Bool.not_eq_true, Value.isWritable_list]
      exact fun hall => absurd (hall item hitem) (by rw [(ih item hitem).2 hfault]; decide)
  | dict entries ih =>
    constructor
    · intro h
      refine Value.isWritable_dict.2 fun entry hentry => ?_
      obtain ⟨hkey, hvalue⟩ := entries_of_fault? h entry hentry
      have hfault := scalar_of_scalarFault? (v := entry.1) (by rw [hkey]; exact nofun)
      exact ⟨(ih entry hentry).1.1 (hfault.trans hkey), (ih entry hentry).2.1 hvalue⟩
    · intro h
      obtain ⟨entry, hentry, hfault⟩ := exists_entry_of_fault? h nofun
      rw [← Bool.not_eq_true, Value.isWritable_dict]
      intro hall
      obtain ⟨hkey, hvalue⟩ := hall entry hentry
      rcases hfault with hfault | hfault
      · have hscalar := scalar_of_scalarFault? (v := entry.1) (by rw [hfault]; exact nofun)
        rw [(ih entry hentry).1.2 (hscalar.trans hfault)] at hkey
        cases hkey
      · rw [(ih entry hentry).2.2 hfault] at hvalue
        cases hvalue

theorem canonical_eq_error {v : Value} {fault : WriteFault} (h : canonical v = .error fault) :
    fault? v = some fault ∨ fault = .unencodable ∧ fault? v = none ∧ v.isWhole = false := by
  rw [canonical] at h
  split at h
  · next hfault =>
    cases h
    exact .inl hfault
  · next hfault =>
    split at h
    · cases h
    · next hwhole =>
      cases h
      exact .inr ⟨rfl, hfault, Bool.not_eq_true _ ▸ hwhole⟩

section

variable {entries : List (Value × Value)}

theorem ofEntries_eq_ok {digest : String} : Digest.ofEntries entries = .ok digest ↔
    ∃ text, canonical (.dict entries) = .ok text ∧ Digest.ofText text = digest := by
  rw [Digest.ofEntries]
  cases canonical (.dict entries) with
  | error e => exact iff_of_false nofun fun ⟨_, htext, _⟩ => nomatch htext
  | ok text =>
    constructor
    · intro h
      exact ⟨text, rfl, Except.ok.inj h⟩
    · rintro ⟨_, htext, rfl⟩
      rw [Except.ok.inj htext]
      rfl

theorem ofEntries_eq_error {fault : WriteFault} :
    Digest.ofEntries entries = .error fault ↔ canonical (.dict entries) = .error fault := by
  rw [Digest.ofEntries]
  cases canonical (.dict entries) with
  | error e => exact Iff.rfl
  | ok text => exact iff_of_false nofun nofun

end

/-- Every JSON value is written. -/
theorem IsValue.fault?_eq_none {v : Value} (h : IsValue v) : fault? v = none := by
  induction h with
  | int h => exact if_pos h
  | list _ ih =>
    rw [fault?_list, List.findSome?_eq_none_iff]
    exact ih
  | dict hkeys _ ih => exact fault?_dict fun entry hentry => ⟨hkeys entry hentry, ih entry hentry⟩
  | _ => rfl

end ControlSchema.Json
