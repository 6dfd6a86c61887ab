import ControlSchema.ControlList
import ControlSchema.Proofs.Cell.RoundTrip
import ControlSchema.Proofs.Definition
import ControlSchema.Proofs.Table

/-!
# Control lists as maps

What a list reports is decided by the writes that it took: a number stands where it was first
written, with the value that was written last. The cells behind it never show, because a list is at
every moment the encoding of such a map; one write turns the encoding of a map into the encoding of
the map after the write, and a run does so write by write.

Values have no undefined numbers throughout, since those are not read back as they were written.
-/

namespace ControlSchema.ControlList

/-! ## Writes -/

/-- A call that writes to a list. -/
inductive Write where
  | typed (entry : Entry)
  | raw (id : Int) (value : ControlValue)

namespace Write

/-- What the call ends in. -/
def apply (l : ControlList) : Write → Except ListError ControlList
  | .typed entry => l.set entry
  | .raw id value => .ok (l.setRaw id value)

/-- The list once the call is over, whether or not it failed. -/
def after (l : ControlList) (w : Write) : ControlList :=
  match w.apply l with
  | .ok l' => l'
  | .error _ => l

/-- The number and the value that a list of the category takes. -/
def taken? (category : Category) : Write → Option (Int × ControlValue)
  | .raw id value => some (id, value)
  | .typed entry =>
    if entry.entryClass.category = category then
      match entry.toValue with
      | .ok value => some (entry.entryClass.id, value)
      | .error _ => none
    else none

/-- The value to write, if there is one, has no undefined numbers. -/
def Defined : Write → Prop
  | .raw _ value => value.Defined
  | .typed entry => ∀ value, entry.toValue = .ok value → value.Defined

end Write

/-- The list after a run of calls, of which any may have failed. -/
def run (l : ControlList) (writes : List Write) : ControlList := writes.foldl Write.after l

/-- The values that cells hold, each under its number. -/
def valuesOf (cells : List (Int × Cell)) : List (Int × ControlValue) :=
  cells.filterMap fun (id, cell) =>
    match ControlValue.ofCell cell with
    | .ok value => some (id, value)
    | .error _ => none

/-- A list at its beginning, with the values that it has been given. -/
inductive Started : ControlList → List (Int × ControlValue) → Prop
  | empty (category : Category) : Started (empty category) []
  | ofCells {category : Category} {cells : List (Int × Cell)} {l : ControlList}
      (h : ofCells category cells = .ok l) (hdefined : ∀ entry ∈ valuesOf cells, entry.2.Defined) :
      Started l (valuesOf cells)

/-! ## Reports -/

/-- The value that was written last under a number. -/
def lastValue? (history : List (Int × ControlValue)) (id : Int) : Option ControlValue :=
  history.reverse.lookup id

/-- The numbers in the order in which they were first written, each with its last value. -/
def remembered (history : List (Int × ControlValue)) : List (Int × ControlValue) :=
  (history.map Prod.fst).eraseDups.filterMap fun id =>
    (lastValue? history id).map fun value => (id, value)

/-- The list that is made of the cells of a list, asked for one by one. -/
def copied (l : ControlList) : Except ListError ControlList := do
  let items ← l.items
  let cells ← items.mapM fun (id, _) => do return (id, ← l.cell id)
  ofCells l.category cells

/-- Whatever a list is asked, the writes of the history decide on the answer. -/
structure Reports (l : ControlList) (history : List (Int × ControlValue)) : Prop where
  items : l.items = .ok (remembered history)
  size : l.size = (remembered history).length
  contains (id : Int) : l.contains id = true ↔ id ∈ history.map Prod.fst
  getRaw (id : Int) : l.getRaw id =
    match lastValue? history id with
    | some value => .ok value
    | none => .error (.notFound ⟨id⟩)
  cell (id : Int) :
    match lastValue? history id with
    | some value => ∃ cell, l.cell id = .ok cell ∧ ControlValue.ofCell cell = .ok value
    | none => l.cell id = .error (.notFound ⟨id⟩)
  copied : l.copied = .ok l

/-- What one more call does to a list: it changes a value in its place, adds a number at the end, or
fails and changes nothing. -/
inductive Effect (l : ControlList) : Write → Prop
  | replaced {w : Write} {l' : ControlList} {before after : List (Int × ControlValue)} {id : Int}
      {old value : ControlValue} (htaken : w.taken? l.category = some (id, value))
      (happly : w.apply l = .ok l') (hitems : l.items = .ok (before ++ (id, old) :: after))
      (hitems' : l'.items = .ok (before ++ (id, value) :: after)) : Effect l w
  | appended {w : Write} {l' : ControlList} {items : List (Int × ControlValue)} {id : Int}
      {value : ControlValue} (htaken : w.taken? l.category = some (id, value))
      (happly : w.apply l = .ok l') (hitems : l.items = .ok items)
      (hnew : id ∉ items.map Prod.fst)
      (hitems' : l'.items = .ok (items ++ [(id, value)])) : Effect l w
  | wrongCategory {entry : Entry} (hcategory : entry.entryClass.category ≠ l.category)
      (happly : Write.apply l (.typed entry)
        = .error (.wrongCategory l.category entry.entryClass.name))
      (hafter : Write.after l (.typed entry) = l) : Effect l (.typed entry)
  | badValue {entry : Entry} {e : ValueError}
      (hcategory : entry.entryClass.category = l.category) (hvalue : entry.toValue = .error e)
      (happly : Write.apply l (.typed entry) = .error (.badValue e))
      (hafter : Write.after l (.typed entry) = l) : Effect l (.typed entry)

/-! ## Lists that hold a map -/

/-- The cells are those of the values of a map. -/
structure Holds (l : ControlList) (map : Table Int ControlValue) : Prop where
  cells : l.cells = map.map fun entry => (entry.1, entry.2.encode)
  keys : map.keys.Nodup
  defined : ∀ entry ∈ map, entry.2.Defined

variable {l l' : ControlList} {map : Table Int ControlValue}

theorem holds_empty (category : Category) : (empty category).Holds [] :=
  ⟨rfl, List.nodup_nil, fun _ h => absurd h List.not_mem_nil⟩

namespace Holds

theorem setRaw (h : l.Holds map) (id : Int) {value : ControlValue} (hvalue : value.Defined) :
    (l.setRaw id value).Holds (map.put id value) := by
  refine ⟨?_, Table.nodup_keys_put h.keys id value, fun entry hentry => ?_⟩
  · rw [ControlList.setRaw, h.cells]
    exact (Table.put_map ControlValue.encode map id value).symm
  · have hfound := Table.get?_of_mem (Table.nodup_keys_put h.keys id value) hentry
    rw [Table.get?_put] at hfound
    split at hfound
    · cases hfound
      exact hvalue
    · exact h.defined entry (Table.mem_of_get? hfound)

/-! ### Reading -/

theorem cell (h : l.Holds map) (id : Int) :
    l.cell id = match map.get? id with
      | some value => .ok value.encode
      | none => .error (.notFound ⟨id⟩) := by
  rw [ControlList.cell, h.cells, Table.get?_map]
  cases map.get? id <;> rfl

theorem decoded_encode {value : ControlValue} (hvalue : value.Defined) :
    decoded value.encode = .ok value := by
  rw [decoded, ControlValue.ofCell_encode_eq hvalue]

theorem getRaw (h : l.Holds map) (id : Int) :
    l.getRaw id = match map.get? id with
      | some value => .ok value
      | none => .error (.notFound ⟨id⟩) := by
  rw [ControlList.getRaw, h.cell]
  cases hfound : map.get? id with
  | none => rfl
  | some value => exact decoded_encode (h.defined _ (Table.mem_of_get? hfound))

theorem items (h : l.Holds map) : l.items = .ok map := by
  have hmap : (map.map fun entry => (entry.1, entry.2.encode)).mapM
      (fun (entry : Int × Cell) => do return (entry.1, ← decoded entry.2)) = .ok map := by
    rw [List.mapM_map]
    refine (Attempt.mapM_eq_ok_map (g := id) fun entry hentry => ?_).trans (by rw [List.map_id])
    show (do return (entry.1, ← decoded entry.2.encode) : Except ListError _) = _
    rw [decoded_encode (h.defined entry hentry)]
    rfl
  rw [ControlList.items, h.cells]
  exact hmap

theorem size (h : l.Holds map) : l.size = map.length := by
  rw [ControlList.size, h.cells, List.length_map]

theorem contains (h : l.Holds map) (id : Int) : l.contains id = (map.get? id).isSome := by
  show (Table.get? l.cells id).isSome = _
  rw [h.cells, Table.get?_map, Option.isSome_map]

end Holds

/-! ## One write -/

namespace Write

variable {w : Write} {id : Int} {value : ControlValue}

theorem apply_of_taken (h : w.taken? l.category = some (id, value)) :
    w.apply l = .ok (l.setRaw id value) := by
  cases w with
  | raw id' value' =>
    cases h
    rfl
  | typed entry =>
    rw [taken?] at h
    split at h
    case isFalse => cases h
    rename_i hcategory
    cases hvalue : entry.toValue with
    | error e =>
      rw [hvalue] at h
      cases h
    | ok value' =>
      rw [hvalue] at h
      cases h
      rw [apply, ControlList.set, if_neg (not_not.2 hcategory), hvalue]

theorem after_of_taken (h : w.taken? l.category = some (id, value)) :
    w.after l = l.setRaw id value := by
  rw [after, apply_of_taken h]

theorem defined_of_taken {category : Category} (hw : w.Defined)
    (h : w.taken? category = some (id, value)) : value.Defined := by
  cases w with
  | raw id' value' =>
    cases h
    exact hw
  | typed entry =>
    rw [taken?] at h
    split at h
    case isFalse => cases h
    cases hvalue : entry.toValue with
    | error e =>
      rw [hvalue] at h
      cases h
    | ok value' =>
      rw [hvalue] at h
      cases h
      exact hw _ hvalue

/-- A write that is not taken belongs to an entry of the other category, or of no value. -/
theorem effect_of_not_taken (h : w.taken? l.category = none) : Effect l w := by
  cases w with
  | raw id' value' => cases h
  | typed entry =>
    rw [taken?] at h
    split at h
    case isFalse hcategory =>
      have happly : apply l (.typed entry)
          = .error (.wrongCategory l.category entry.entryClass.name) := if_pos hcategory
      exact .wrongCategory hcategory happly (by rw [after, happly])
    case isTrue hcategory =>
      cases hvalue : entry.toValue with
      | ok value' =>
        rw [hvalue] at h
        cases h
      | error e =>
        have happly : apply l (.typed entry) = .error (.badValue e) := by
          rw [apply, ControlList.set, if_neg (not_not.2 hcategory), hvalue]
        exact .badValue hcategory hvalue happly (by rw [after, happly])

theorem after_of_not_taken (h : w.taken? l.category = none) : w.after l = l := by
  cases effect_of_not_taken h with
  | replaced htaken => cases h.symm.trans htaken
  | appended htaken => cases h.symm.trans htaken
  | wrongCategory hcategory happly hafter => exact hafter
  | badValue hcategory hvalue happly hafter => exact hafter

theorem category_after (l : ControlList) (w : Write) : (w.after l).category = l.category := by
  cases htaken : w.taken? l.category with
  | none => rw [after_of_not_taken htaken]
  | some entry =>
    rw [after_of_taken htaken]
    rfl

end Write

namespace Holds

/-- The step: the list holds the map with what the write gave it. -/
theorem after (h : l.Holds map) {w : Write} (hw : w.Defined) :
    (w.after l).Holds (map.merge (w.taken? l.category).toList) := by
  cases htaken : w.taken? l.category with
  | none =>
    rw [Write.after_of_not_taken htaken]
    exact h
  | some entry =>
    rw [Write.after_of_taken htaken]
    exact h.setRaw entry.1 (Write.defined_of_taken hw htaken)

theorem effect (h : l.Holds map) {w : Write} (hw : w.Defined) : Effect l w := by
  cases htaken : w.taken? l.category with
  | none => exact Write.effect_of_not_taken htaken
  | some entry =>
    obtain ⟨id, value⟩ := entry
    have hitems' := (h.setRaw id (Write.defined_of_taken hw htaken)).items
    by_cases hmem : id ∈ map.keys
    · obtain ⟨⟨key, old⟩, hentry, rfl : key = id⟩ := List.mem_map.1 hmem
      obtain ⟨before, rest, rfl⟩ := List.append_of_mem hentry
      have hbefore : key ∉ Table.keys before := fun hid => by
        have hkeys := h.keys
        rw [Table.keys, List.map_append, List.map_cons] at hkeys
        exact (List.nodup_append.1 hkeys).2.2 _ hid _ List.mem_cons_self rfl
      rw [Table.put_of_split hbefore] at hitems'
      exact .replaced htaken (Write.apply_of_taken htaken) h.items hitems'
    · rw [Table.put_of_not_mem hmem] at hitems'
      exact .appended htaken (Write.apply_of_taken htaken) h.items hmem hitems'

/-! ## Runs -/

theorem run (h : l.Holds map) {writes : List Write} (hwrites : ∀ w ∈ writes, w.Defined) :
    (l.run writes).Holds (map.merge (writes.filterMap (Write.taken? l.category))) := by
  induction writes generalizing l map with
  | nil => exact h
  | cons w rest ih =>
    have hrest := ih (h.after (hwrites w List.mem_cons_self))
      fun w' hw' => hwrites w' (List.mem_cons_of_mem w hw')
    rw [Write.category_after, ← Table.merge_append] at hrest
    have hwhole : (w :: rest).filterMap (Write.taken? l.category)
        = (w.taken? l.category).toList ++ rest.filterMap (Write.taken? l.category) := by
      rw [List.filterMap_cons]
      cases w.taken? l.category <;> rfl
    rw [hwhole]
    exact hrest

end Holds

theorem category_run (l : ControlList) (writes : List Write) :
    (l.run writes).category = l.category := by
  induction writes generalizing l with
  | nil => rfl
  | cons w rest ih => exact (ih (w.after l)).trans (Write.category_after l w)

/-! ## Lists made of cells -/

/-- The call that writes a value under a number. -/
def Write.ofItem (item : Int × ControlValue) : Write := .raw item.1 item.2

theorem filterMap_taken_ofItem (category : Category) (items : List (Int × ControlValue)) :
    (items.map Write.ofItem).filterMap (Write.taken? category) = items := by
  rw [List.filterMap_map]
  exact List.filterMap_some

theorem Holds.run_ofItem (h : l.Holds map) {items : List (Int × ControlValue)}
    (hitems : ∀ entry ∈ items, entry.2.Defined) :
    (l.run (items.map Write.ofItem)).Holds (map.merge items) := by
  have hwrites : ∀ w ∈ items.map Write.ofItem, w.Defined := fun w hw => by
    obtain ⟨item, hitem, rfl⟩ := List.mem_map.1 hw
    exact hitems item hitem
  have hrun := h.run hwrites
  rwa [filterMap_taken_ofItem] at hrun

def addCell (l : ControlList) (entry : Int × Cell) : Except ListError ControlList :=
  match ControlValue.ofCell entry.2 with
  | .ok value => .ok (l.setRaw entry.1 value)
  | .error e => .error (.badValue e)

theorem ofCells_eq (category : Category) (cells : List (Int × Cell)) :
    ofCells category cells = cells.foldlM addCell (empty category) := rfl

theorem valuesOf_cons {cell : Cell} {value : ControlValue}
    (h : ControlValue.ofCell cell = .ok value) (id : Int) (rest : List (Int × Cell)) :
    valuesOf ((id, cell) :: rest) = (id, value) :: valuesOf rest := by
  simp only [valuesOf, List.filterMap_cons, h]

/-- Cells that are all read make the list that writing their values makes. -/
theorem eq_run_of_foldlM {cells : List (Int × Cell)} (h : cells.foldlM addCell l = .ok l') :
    l' = l.run ((valuesOf cells).map Write.ofItem) := by
  induction cells generalizing l with
  | nil =>
    cases h
    rfl
  | cons entry rest ih =>
    obtain ⟨id, cell⟩ := entry
    rw [List.foldlM_cons, addCell] at h
    cases hvalue : ControlValue.ofCell cell with
    | error e =>
      rw [hvalue] at h
      cases h
    | ok value =>
      rw [hvalue] at h
      rw [valuesOf_cons hvalue]
      exact ih h

theorem foldlM_addCell_encode {items : List (Int × ControlValue)}
    (hitems : ∀ entry ∈ items, entry.2.Defined) (l : ControlList) :
    (items.map fun entry => (entry.1, entry.2.encode)).foldlM addCell l
      = .ok (l.run (items.map Write.ofItem)) := by
  induction items generalizing l with
  | nil => rfl
  | cons entry rest ih =>
    have hread := ControlValue.ofCell_encode_eq (hitems entry List.mem_cons_self)
    rw [List.map_cons, List.foldlM_cons, addCell, hread]
    exact ih (fun entry' h => hitems entry' (List.mem_cons_of_mem entry h)) _

theorem valuesOf_encode {items : List (Int × ControlValue)}
    (hitems : ∀ entry ∈ items, entry.2.Defined) :
    valuesOf (items.map fun entry => (entry.1, entry.2.encode)) = items := by
  induction items with
  | nil => rfl
  | cons entry rest ih =>
    have hread := ControlValue.ofCell_encode_eq (hitems entry List.mem_cons_self)
    rw [List.map_cons, valuesOf_cons hread,
      ih fun entry' h => hitems entry' (List.mem_cons_of_mem entry h)]

/-- Values can be written at the beginning, or cells of theirs be given. -/
theorem started_encode {items : List (Int × ControlValue)}
    (hitems : ∀ entry ∈ items, entry.2.Defined) (category : Category) :
    Started ((empty category).run (items.map Write.ofItem)) items := by
  have hvalues := valuesOf_encode hitems
  have hstart := Started.ofCells (foldlM_addCell_encode hitems (empty category))
    (by rwa [hvalues])
  rwa [hvalues] at hstart

theorem Started.holds {start : List (Int × ControlValue)} (h : Started l start) :
    l.Holds (Table.ofPairs start) := by
  cases h with
  | empty category => exact holds_empty category
  | @ofCells category cells l h hdefined =>
    rw [ofCells_eq] at h
    rw [eq_run_of_foldlM h, Table.ofPairs_eq_merge]
    exact (holds_empty category).run_ofItem hdefined

/-! ## What is reported -/

/-- A map that a list holds is known from the list, and the list from the map. -/
theorem Holds.eq (h : l.Holds map) (h' : l'.Holds map) (hcategory : l.category = l'.category) :
    l = l' := by
  obtain ⟨category, cells⟩ := l
  obtain ⟨category', cells'⟩ := l'
  obtain rfl : category = category' := hcategory
  obtain rfl : cells = cells' := h.cells.trans h'.cells.symm
  rfl

theorem Holds.copied (h : l.Holds map) : l.copied = .ok l := by
  have hcells : map.mapM (fun (entry : Int × ControlValue) => do
      return (entry.1, ← l.cell entry.1))
        = .ok (map.map fun entry => (entry.1, entry.2.encode)) := by
    refine Attempt.mapM_eq_ok_map fun entry hentry => ?_
    rw [h.cell, Table.get?_of_mem h.keys hentry]
    rfl
  have hmap : Table.ofPairs map = map := Table.ofPairs_of_nodup h.keys
  have hcopy := (holds_empty l.category).run_ofItem h.defined
  rw [← Table.ofPairs_eq_merge, hmap] at hcopy
  have hcategory := category_run (empty l.category) (map.map Write.ofItem)
  calc l.copied = (do
        let cells ← map.mapM fun (entry : Int × ControlValue) => do
          return (entry.1, ← l.cell entry.1)
        ofCells l.category cells) := by
        rw [ControlList.copied, h.items]
        rfl
    _ = ofCells l.category (map.map fun entry => (entry.1, entry.2.encode)) := by
        rw [hcells]
        rfl
    _ = .ok ((empty l.category).run (map.map Write.ofItem)) :=
        foldlM_addCell_encode h.defined (empty l.category)
    _ = .ok l := congrArg _ (hcopy.eq h hcategory)

theorem get?_ofPairs (history : List (Int × ControlValue)) (id : Int) :
    (Table.ofPairs history).get? id = lastValue? history id := by
  rw [Table.ofPairs_eq_merge, Table.get?_merge]
  exact Option.or_none

theorem ofPairs_eq_remembered (history : List (Int × ControlValue)) :
    Table.ofPairs history = remembered history := by
  have hkeys := Table.eq_filterMap_keys (Table.nodup_keys_ofPairs history)
  rw [Table.keys_ofPairs] at hkeys
  rw [hkeys, remembered]
  exact List.filterMap_congr fun id _ => by rw [get?_ofPairs]

theorem Holds.reports {history : List (Int × ControlValue)}
    (h : l.Holds (Table.ofPairs history)) : l.Reports history where
  items := by rw [h.items, ofPairs_eq_remembered]
  size := by rw [h.size, ofPairs_eq_remembered]
  contains id := by
    rw [h.contains, ← Table.mem_keys_ofPairs]
    constructor
    · intro hsome
      obtain ⟨value, hvalue⟩ := Option.isSome_iff_exists.1 hsome
      exact List.mem_map.2 ⟨_, Table.mem_of_get? hvalue, rfl⟩
    · intro hmem
      obtain ⟨entry, hentry, rfl⟩ := List.mem_map.1 hmem
      rw [Table.get?_of_mem h.keys hentry]
      rfl
  getRaw id := by rw [h.getRaw, get?_ofPairs]
  cell id := by
    have hcell := h.cell id
    rw [get?_ofPairs] at hcell
    cases hvalue : lastValue? history id with
    | none =>
      rw [hvalue] at hcell
      exact hcell
    | some value =>
      rw [hvalue] at hcell
      rw [← get?_ofPairs] at hvalue
      exact ⟨_, hcell, ControlValue.ofCell_encode_eq (h.defined _ (Table.mem_of_get? hvalue))⟩
  copied := h.copied

/-- A list is a map that keeps its order: after any run it reports the values that were taken, each
number where it came first and with what came last, and one more call changes one item or none. -/
theorem reports_run {start : List (Int × ControlValue)} (hstart : Started l start)
    (writes : List Write) (hwrites : ∀ w ∈ writes, w.Defined) :
    (l.run writes).Reports (start ++ writes.filterMap (Write.taken? l.category)) ∧
      ∀ w : Write, w.Defined → Effect (l.run writes) w := by
  have hrun := hstart.holds.run hwrites
  refine ⟨Holds.reports ?_, fun w hw => hrun.effect hw⟩
  rw [Table.ofPairs_eq_merge, Table.merge_append, ← Table.ofPairs_eq_merge]
  exact hrun

/-- One number twice, with another between. -/
def sampleItems : List (Int × ControlValue) :=
  [(7, .string "slow"), (9, .array .bool [true]), (7, .string "fast")]

def sampleList : ControlList := (empty .controls).run (sampleItems.map Write.ofItem)

/-- A pair of switches. -/
def sampleClass (category : Category) : EntryClass :=
  ⟨"AeEnable", category, 9, ⟨.bool, .fixed [2]⟩, .wrapper, none⟩

/-- A new number, an entry of the other category, one switch where there are two, both switches, and
a number that was there from the beginning. -/
def sampleWrites : List Write :=
  [.raw 3 .none, .typed (.wrapped (sampleClass .properties) (.tuple [.bool true, .bool true])),
    .typed (.wrapped (sampleClass .controls) (.bool true)),
    .typed (.wrapped (sampleClass .controls) (.tuple [.bool true, .bool false])),
    .raw 7 (.string "on")]

theorem sampleItems_defined : ∀ item ∈ sampleItems, item.2.Defined := by
  simp [sampleItems, ControlValue.Defined, ElementKind.Defined]

theorem sampleWrites_defined : ∀ w ∈ sampleWrites, w.Defined := by
  intro w hw
  simp only [sampleWrites, List.mem_cons, List.not_mem_nil, or_false] at hw
  rcases hw with rfl | rfl | rfl | rfl | rfl
  · trivial
  · intro value h
    obtain rfl : ControlValue.array .bool [true, true] = value := Except.ok.inj h
    exact fun _ _ => trivial
  · intro value h
    cases h
  · intro value h
    obtain rfl : ControlValue.array .bool [true, false] = value := Except.ok.inj h
    exact fun _ _ => trivial
  · trivial

theorem reports_run_sample :
    Started sampleList sampleItems ∧ (∀ w ∈ sampleWrites, w.Defined) ∧
      (sampleList.run sampleWrites).Reports (sampleItems ++
        [(3, .none), (9, .array .bool [true, false]), (7, .string "on")]) ∧
      (sampleList.run sampleWrites).items
        = .ok [(7, .string "on"), (9, .array .bool [true, false]), (3, .none)] := by
  have hstart : Started sampleList sampleItems := started_encode sampleItems_defined .controls
  have hreports := (reports_run hstart sampleWrites sampleWrites_defined).1
  exact ⟨hstart, sampleWrites_defined, hreports, hreports.items⟩

end ControlSchema.ControlList
