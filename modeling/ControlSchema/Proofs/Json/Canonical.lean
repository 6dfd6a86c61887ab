import ControlSchema.Proofs.Json.Values

/-!
# Canonical texts tell values apart

Two values have one canonical text exactly when they are the same but for the order of entries, at
every depth. That the order does not count is what sorting by different keys gives. For the other
direction a text must be readable in one way only, whatever follows it: the first character tells
what kind of value it is, a number ends where its digits do, a text at the first quotation mark that
is not escaped, and behind an item or a member stands a comma or the closing bracket. So two equal
texts with their rests are taken apart side by side, and the rests are equal again.
-/

namespace ControlSchema.Json

open Number Text

/-! ## Values up to the order of entries -/

/-- Values without fractions and without halves of characters, and with integers of any size; the
entries of an object are under different texts. -/
inductive IsExact : Value → Prop
  | null : IsExact .null
  | bool (b : Bool) : IsExact (.bool b)
  | int (i : Int) : IsExact (.int i)
  | text (s : String) : IsExact (.text (.whole s))
  | list {items : List Value} (h : ∀ item ∈ items, IsExact item) : IsExact (.list items)
  | object {fields : Table String Value} (hkeys : fields.keys.Nodup)
      (h : ∀ field ∈ fields, IsExact field.2) : IsExact (.ofRecord fields)

/-- Equality but for the order of the entries of objects. A truth value is no number here. -/
inductive SameUpToOrder : Value → Value → Prop
  | null : SameUpToOrder .null .null
  | bool (b : Bool) : SameUpToOrder (.bool b) (.bool b)
  | int (i : Int) : SameUpToOrder (.int i) (.int i)
  | text (s : String) : SameUpToOrder (.text (.whole s)) (.text (.whole s))
  | list {xs ys : List Value} (hlength : xs.length = ys.length)
      (h : ∀ x y, (x, y) ∈ xs.zip ys → SameUpToOrder x y) : SameUpToOrder (.list xs) (.list ys)
  | object {fields fields' : Table String Value}
      (hkeys : ∀ key, key ∈ fields.keys ↔ key ∈ fields'.keys)
      (h : ∀ key value value', (key, value) ∈ fields → (key, value') ∈ fields' →
        SameUpToOrder value value') :
      SameUpToOrder (.ofRecord fields) (.ofRecord fields')

theorem ofRecord_injective {fields fields' : Table String Value}
    (h : Value.ofRecord fields = .ofRecord fields') : fields = fields' := by
  rw [Value.ofRecord, Value.ofRecord, Value.dict.injEq] at h
  refine List.map_injective_iff.2 (fun field field' heq => ?_) h
  obtain ⟨hkey, hvalue⟩ := Prod.mk.inj heq
  exact Prod.ext (Words.whole.inj (Value.text.inj hkey)) hvalue

theorem IsExact.fields {fields : Table String Value} (h : IsExact (.ofRecord fields)) :
    fields.keys.Nodup ∧ ∀ field ∈ fields, IsExact field.2 := by
  generalize hd : Value.ofRecord fields = d at h
  cases h with
  | object hkeys h =>
    obtain rfl := ofRecord_injective hd
    exact ⟨hkeys, h⟩
  | _ => cases hd

/-! ## The order of entries does not count -/

/-- Objects with the same keys and texts have the same members in order. -/
theorem map_sorted_eq {fields fields' : Table String Value} (hnodup : fields.keys.Nodup)
    (hnodup' : fields'.keys.Nodup) (hkeys : ∀ key, key ∈ fields.keys ↔ key ∈ fields'.keys)
    {textOf : Value → List Char} (h : ∀ key value value', (key, value) ∈ fields →
      (key, value') ∈ fields' → textOf value = textOf value') :
    (fields.sorted.map fun field => memberText field.1 (textOf field.2))
      = fields'.sorted.map fun field => memberText field.1 (textOf field.2) := by
  have hsorted : fields.sorted.keys = fields'.sorted.keys :=
    eq_of_pairwise_texts (Table.pairwise_keys_sorted _) (Table.pairwise_keys_sorted _)
      (Table.nodup_keys_sorted hnodup) (Table.nodup_keys_sorted hnodup') fun key => by
        rw [Table.mem_keys_sorted, Table.mem_keys_sorted, hkeys]
  have hlength : fields.sorted.length = fields'.sorted.length := by
    simpa only [Table.keys, List.length_map] using congrArg List.length hsorted
  refine List.ext_getElem (by simpa only [List.length_map] using hlength) fun i hi hi' => ?_
  rw [List.length_map] at hi hi'
  have hkey : fields.sorted[i].1 = fields'.sorted[i].1 := by
    have hget : fields.sorted.keys[i]? = fields'.sorted.keys[i]? := by rw [hsorted]
    simpa only [Table.keys, List.getElem?_map, List.getElem?_eq_getElem hi,
      List.getElem?_eq_getElem hi', Option.map_some, Option.some.injEq] using hget
  have htext := h fields.sorted[i].1 fields.sorted[i].2 fields'.sorted[i].2
    (Table.mem_sorted.1 (List.getElem_mem hi))
    (by rw [hkey]; exact Table.mem_sorted.1 (List.getElem_mem hi'))
  rw [List.getElem_map, List.getElem_map, hkey, htext]

theorem SameUpToOrder.write_eq {x y : Value} (h : SameUpToOrder x y) (hx : IsExact x)
    (hy : IsExact y) : write x = write y := by
  induction h with
  | @list xs ys hlength _ ih =>
    cases hx with
    | list hx =>
      cases hy with
      | list hy =>
        rw [write_list, write_list]
        congr 3
        refine List.ext_getElem (by simpa only [List.length_map] using hlength) fun i hi hi' => ?_
        rw [List.length_map] at hi hi'
        rw [List.getElem_map, List.getElem_map]
        refine ih _ _ ?_ (hx _ (List.getElem_mem hi)) (hy _ (List.getElem_mem hi'))
        have hpair := List.getElem_mem (l := xs.zip ys) (n := i)
          (by rw [List.length_zip]; omega)
        rwa [List.getElem_zip] at hpair
  | object hkeys _ ih =>
    obtain ⟨hnodup, hfields⟩ := hx.fields
    obtain ⟨hnodup', hfields'⟩ := hy.fields
    rw [write_ofRecord, write_ofRecord,
      map_sorted_eq hnodup hnodup' hkeys fun key value value' hvalue hvalue' =>
        ih key value value' hvalue hvalue' (hfields _ hvalue) (hfields' _ hvalue')]
  | _ => rfl

/-! ## What a text begins with -/

/-- What the first character of a text tells about the value. -/
inductive Lead where
  | null
  | bool (value : Bool)
  | number
  | text
  | list
  | object
deriving DecidableEq

namespace Lead

def ofValue : Value → Lead
  | .null => null
  | .bool b => bool b
  | .text _ => text
  | .list _ => list
  | .dict _ => object
  | _ => number

/-- No value begins with a closing bracket. -/
def ofChar? (c : Char) : Option Lead :=
  if c = '-' ∨ c.isDigit = true then some number
  else if c = 'n' then some null
  else if c = 't' then some (bool true)
  else if c = 'f' then some (bool false)
  else if c = '"' then some text
  else if c = '[' then some list
  else if c = '\x7b' then some object
  else none

end Lead

theorem toList_intText (i : Int) : (intText i).toList
    = (if i < 0 then ['-'] else []) ++ (digitsText i.natAbs).toList := by
  rw [intText]
  split
  · rw [String.toList_append]
    rfl
  · rfl

theorem lead_intText (i : Int) :
    ∃ c cs, (intText i).toList = c :: cs ∧ Lead.ofChar? c = some .number := by
  have hne : (intText i).toList ≠ [] := by
    rw [toList_intText]
    exact fun hnil => digitsText_ne_nil _ (List.append_eq_nil_iff.1 hnil).2
  obtain ⟨c, cs, hcs⟩ := List.exists_cons_of_ne_nil hne
  exact ⟨c, cs, hcs, if_pos (intText_chars i c (hcs ▸ List.mem_cons_self))⟩

/-- The first character of a text is that of its kind of value. -/
theorem IsExact.lead {d : Value} (h : IsExact d) :
    ∃ c cs, write d = c :: cs ∧ Lead.ofChar? c = some (Lead.ofValue d) := by
  cases h with
  | null => exact ⟨'n', _, rfl, rfl⟩
  | bool b => cases b <;> exact ⟨_, _, rfl, rfl⟩
  | int i => exact lead_intText i
  | text s => exact ⟨'"', _, rfl, rfl⟩
  | list h => exact ⟨'[', _, write_list _, rfl⟩
  | object hkeys h => exact ⟨'\x7b', _, write_ofRecord _, rfl⟩

theorem IsExact.head?_write {d : Value} (h : IsExact d) {close : Char}
    (hclose : close = ']' ∨ close = '\x7d') :
    (write d).head? ≠ none ∧ (write d).head? ≠ some close := by
  obtain ⟨c, cs, hc, hlead⟩ := h.lead
  rw [hc, List.head?_cons]
  refine ⟨Option.some_ne_none c, fun heq => ?_⟩
  have hnone : Lead.ofChar? close = none := by rcases hclose with rfl | rfl <;> decide
  rw [Option.some.inj heq, hnone] at hlead
  cases hlead

theorem lead_eq_of_append_eq {x y : Value} (hx : IsExact x) (hy : IsExact y)
    {rest rest' : List Char} (heq : write x ++ rest = write y ++ rest') :
    Lead.ofValue x = Lead.ofValue y := by
  obtain ⟨c, cs, hc, hlead⟩ := hx.lead
  obtain ⟨d, ds, hd, hlead'⟩ := hy.lead
  rw [hc, hd, List.cons_append, List.cons_append] at heq
  rw [(List.cons.inj heq).1, hlead'] at hlead
  exact (Option.some.inj hlead).symm

/-! ## Where scalars end -/

theorem text_eq_of_append_eq {s t : String} {rest rest' : List Char}
    (heq : writeText s ++ rest = writeText t ++ rest') : s = t ∧ rest = rest' := by
  rw [writeText_append, writeText_append] at heq
  have hread := congrArg readQuoted (List.cons.inj heq).2
  rw [readQuoted_writeText, readQuoted_writeText] at hread
  obtain ⟨hwords, hrests⟩ := Prod.mk.inj (Except.ok.inj hread)
  exact ⟨Words.whole.inj hwords, hrests⟩

theorem signOf_intText (i : Int) (rest : List Char) : signOf ((intText i).toList ++ rest)
    = (if i < 0 then ['-'] else [], (digitsText i.natAbs).toList ++ rest) := by
  rw [toList_intText]
  split
  · rfl
  · obtain ⟨c, cs, hcs⟩ := List.exists_cons_of_ne_nil (digitsText_ne_nil i.natAbs)
    have hdigit := isDigit_digitsText i.natAbs c (hcs ▸ List.mem_cons_self)
    rw [hcs, List.nil_append, List.cons_append, signOf]
    intro _ hminus
    rw [(List.cons.inj hminus).1] at hdigit
    cases hdigit

theorem int_eq_of_append_eq {i j : Int} {rest rest' : List Char} (hrest : Follows rest)
    (hrest' : Follows rest') (heq : (intText i).toList ++ rest = (intText j).toList ++ rest') :
    i = j ∧ rest = rest' := by
  have hsigned := congrArg signOf heq
  rw [signOf_intText, signOf_intText] at hsigned
  obtain ⟨hsign, hdigits⟩ := Prod.mk.inj hsigned
  have htaken := congrArg takeDigits hdigits
  rw [takeDigits_append (isDigit_digitsText _) hrest,
    takeDigits_append (isDigit_digitsText _) hrest'] at htaken
  obtain ⟨hdigits, hrests⟩ := Prod.mk.inj htaken
  have habs : i.natAbs = j.natAbs := by
    rw [← natOfChars_digitsText i.natAbs, hdigits, natOfChars_digitsText]
  have hnegative : i < 0 ↔ j < 0 := by
    split at hsign <;> split at hsign
    · next hi hj => exact iff_of_true hi hj
    · cases hsign
    · cases hsign
    · next hi hj => exact iff_of_false hi hj
  exact ⟨by omega, hrests⟩

/-! ## Where sequences end -/

/-- What stands behind a piece of a sequence: further pieces behind commas, or the closing mark. -/
def continued (close : Char) : List (List Char) → List Char → List Char
  | [], rest => close :: rest
  | piece :: more, rest => ',' :: (piece ++ continued close more rest)

theorem intercalate_cons_append (close : Char) (piece : List Char) (more : List (List Char))
    (rest : List Char) :
    [','].intercalate (piece :: more) ++ close :: rest = piece ++ continued close more rest := by
  induction more generalizing piece with
  | nil => rw [List.intercalate_singleton, continued]
  | cons next more ih =>
    rw [List.intercalate_cons_cons, List.append_assoc, List.append_assoc, ih next, continued,
      List.singleton_append]

section

variable {α : Type} {R : α → α → Prop} {piece : α → List Char} {close : Char}

theorem follows_continued (hclose : close = ']' ∨ close = '\x7d') (pieces : List (List Char))
    (rest : List Char) : Follows (continued close pieces rest) := by
  cases pieces with
  | nil => rcases hclose with rfl | rfl <;> exact follows_cons (by decide) rest
  | cons _ _ => exact follows_cons (by decide) _

theorem forall₂_of_continued (hclose : close = ']' ∨ close = '\x7d') {xs ys : List α}
    (hstep : ∀ x ∈ xs, ∀ y ∈ ys, ∀ rest rest', Follows rest → Follows rest' →
      piece x ++ rest = piece y ++ rest' → R x y ∧ rest = rest') {rest rest' : List Char}
    (heq : continued close (xs.map piece) rest = continued close (ys.map piece) rest') :
    List.Forall₂ R xs ys ∧ rest = rest' := by
  have hcomma : close ≠ ',' := by rcases hclose with rfl | rfl <;> decide
  induction xs generalizing ys with
  | nil =>
    cases ys with
    | nil => exact ⟨.nil, (List.cons.inj heq).2⟩
    | cons y ys => exact absurd (List.cons.inj heq).1 hcomma
  | cons x xs ih =>
    cases ys with
    | nil => exact absurd (List.cons.inj heq).1.symm hcomma
    | cons y ys =>
      obtain ⟨hxy, htail⟩ := hstep x List.mem_cons_self y List.mem_cons_self _ _
        (follows_continued hclose _ rest) (follows_continued hclose _ rest') (List.cons.inj heq).2
      obtain ⟨hrest, hrests⟩ := ih (fun x hx y hy =>
        hstep x (List.mem_cons_of_mem _ hx) y (List.mem_cons_of_mem _ hy)) htail
      exact ⟨.cons hxy hrest, hrests⟩

/-- Pieces that can be told apart make sequences that can be told apart. -/
theorem forall₂_of_intercalate (hclose : close = ']' ∨ close = '\x7d') {xs ys : List α}
    (hfirst : ∀ x, x ∈ xs ∨ x ∈ ys → (piece x).head? ≠ none ∧ (piece x).head? ≠ some close)
    (hstep : ∀ x ∈ xs, ∀ y ∈ ys, ∀ rest rest', Follows rest → Follows rest' →
      piece x ++ rest = piece y ++ rest' → R x y ∧ rest = rest') {rest rest' : List Char}
    (heq : [','].intercalate (xs.map piece) ++ close :: rest
      = [','].intercalate (ys.map piece) ++ close :: rest') :
    List.Forall₂ R xs ys ∧ rest = rest' := by
  have hapart {x : α} (hx : x ∈ xs ∨ x ∈ ys) {rest more : List Char} :
      piece x ++ more ≠ close :: rest := by
    obtain ⟨hsome, hother⟩ := hfirst x hx
    cases hpiece : piece x with
    | nil => exact absurd (by rw [hpiece]; rfl) hsome
    | cons c cs =>
      intro heq
      rw [hpiece, (List.cons.inj heq).1] at hother
      exact hother rfl
  cases xs with
  | nil =>
    cases ys with
    | nil => exact ⟨.nil, (List.cons.inj heq).2⟩
    | cons y ys =>
      rw [List.map_cons, intercalate_cons_append] at heq
      exact absurd heq.symm (hapart (.inr List.mem_cons_self))
  | cons x xs =>
    cases ys with
    | nil =>
      rw [List.map_cons, intercalate_cons_append] at heq
      exact absurd heq (hapart (.inl List.mem_cons_self))
    | cons y ys =>
      rw [List.map_cons, List.map_cons, intercalate_cons_append, intercalate_cons_append] at heq
      obtain ⟨hxy, htail⟩ := hstep x List.mem_cons_self y List.mem_cons_self _ _
        (follows_continued hclose _ rest) (follows_continued hclose _ rest') heq
      obtain ⟨hrest, hrests⟩ := forall₂_of_continued hclose (fun x hx y hy =>
        hstep x (List.mem_cons_of_mem _ hx) y (List.mem_cons_of_mem _ hy)) htail
      exact ⟨.cons hxy hrest, hrests⟩

end

/-! ## Texts with their rests -/

/-- Members under one key, with the same values. -/
def SameMember (field field' : String × Value) : Prop :=
  field.1 = field'.1 ∧ SameUpToOrder field.2 field'.2

theorem sameUpToOrder_of_forall₂_sorted {fields fields' : Table String Value}
    (hnodup : fields'.keys.Nodup) (h : List.Forall₂ SameMember fields.sorted fields'.sorted) :
    SameUpToOrder (.ofRecord fields) (.ofRecord fields') := by
  have hkeys : fields.sorted.keys = fields'.sorted.keys := by
    rw [Table.keys, Table.keys, ← List.forall₂_eq_eq_eq, List.forall₂_map_left_iff,
      List.forall₂_map_right_iff]
    exact h.imp fun _ _ hsame => hsame.1
  refine .object (fun key => ?_) fun key value value' hvalue hvalue' => ?_
  · rw [← Table.mem_keys_sorted, hkeys, Table.mem_keys_sorted]
  · obtain ⟨i, hi, hfield⟩ := List.mem_iff_getElem.1 (Table.mem_sorted.2 hvalue)
    have hi' : i < fields'.sorted.length := h.length_eq ▸ hi
    obtain ⟨hkey, hsame⟩ := h.get hi hi'
    have hmem : fields'.sorted[i] ∈ fields' := Table.mem_sorted.1 (List.getElem_mem hi')
    simp only [List.get_eq_getElem, hfield] at hkey hsame
    obtain ⟨key', found, hfound⟩ : ∃ key' found, fields'.sorted[i] = (key', found) := ⟨_, _, rfl⟩
    rw [hfound] at hkey hsame hmem
    obtain rfl : key = key' := hkey
    have hget := Table.get?_of_mem hnodup hmem
    rw [Table.get?_of_mem hnodup hvalue', Option.some.injEq] at hget
    rwa [hget]

theorem head?_memberText (field : String × Value) :
    (memberText field.1 (write field.2)).head? ≠ none ∧
      (memberText field.1 (write field.2)).head? ≠ some '\x7d' := by
  have hmark : (memberText field.1 (write field.2)).head? = some '"' := rfl
  rw [hmark]
  exact ⟨Option.some_ne_none '"', by decide⟩

/-- Members can be told apart if their values can. -/
theorem sameMember_of_append_eq {field field' : String × Value} {rest rest' : List Char}
    (h : write field.2 ++ rest = write field'.2 ++ rest' →
      SameUpToOrder field.2 field'.2 ∧ rest = rest')
    (heq : memberText field.1 (write field.2) ++ rest
      = memberText field'.1 (write field'.2) ++ rest') :
    SameMember field field' ∧ rest = rest' := by
  rw [memberText, memberText, List.append_assoc, List.append_assoc] at heq
  obtain ⟨hkey, htail⟩ := text_eq_of_append_eq heq
  obtain ⟨hvalue, hrests⟩ := h (List.cons.inj htail).2
  exact ⟨⟨hkey, hvalue⟩, hrests⟩

/-- A text with its rest is the text of one value only. -/
theorem sameUpToOrder_of_append_eq {x y : Value} (hx : IsExact x) (hy : IsExact y)
    {rest rest' : List Char} (hrest : Follows rest) (hrest' : Follows rest')
    (heq : write x ++ rest = write y ++ rest') :
    SameUpToOrder x y ∧ rest = rest' := by
  induction hx generalizing y rest rest' with
  | null =>
    have hlead := lead_eq_of_append_eq .null hy heq
    cases hy with
    | null => exact ⟨.null, List.append_cancel_left heq⟩
    | _ => simp [Lead.ofValue, Value.ofRecord] at hlead
  | bool b =>
    have hlead := lead_eq_of_append_eq (.bool b) hy heq
    cases hy with
    | bool b' =>
      obtain rfl : b = b' := Lead.bool.inj hlead
      exact ⟨.bool b, List.append_cancel_left heq⟩
    | _ => simp [Lead.ofValue, Value.ofRecord] at hlead
  | int i =>
    have hlead := lead_eq_of_append_eq (.int i) hy heq
    cases hy with
    | int j =>
      obtain ⟨rfl, hrests⟩ := int_eq_of_append_eq hrest hrest' heq
      exact ⟨.int i, hrests⟩
    | _ => simp [Lead.ofValue, Value.ofRecord] at hlead
  | text s =>
    have hlead := lead_eq_of_append_eq (.text s) hy heq
    cases hy with
    | text t =>
      obtain ⟨rfl, hrests⟩ := text_eq_of_append_eq heq
      exact ⟨.text s, hrests⟩
    | _ => simp [Lead.ofValue, Value.ofRecord] at hlead
  | list hxs ih =>
    have hlead := lead_eq_of_append_eq (.list hxs) hy heq
    cases hy with
    | list hys =>
      rw [write_list, write_list, List.cons_append, List.append_assoc,
        List.cons_append, List.append_assoc] at heq
      obtain ⟨hitems, hrests⟩ := forall₂_of_intercalate (.inl rfl)
        (fun x hx => (hx.elim (hxs x) (hys x)).head?_write (.inl rfl))
        (fun x hx y hy _ _ hrest hrest' heq => ih x hx (hys y hy) hrest hrest' heq)
        (List.cons.inj heq).2
      exact ⟨.list hitems.length_eq fun x y hxy => List.forall₂_zip hitems hxy, hrests⟩
    | _ => simp [Lead.ofValue, Value.ofRecord] at hlead
  | object hkeys hxs ih =>
    have hlead := lead_eq_of_append_eq (.object hkeys hxs) hy heq
    cases hy with
    | object hkeys' hys =>
      rw [write_ofRecord, write_ofRecord, List.cons_append,
        List.append_assoc, List.cons_append, List.append_assoc] at heq
      obtain ⟨hmembers, hrests⟩ := forall₂_of_intercalate (R := SameMember) (.inr rfl)
        (fun field _ => head?_memberText field)
        (fun x hx y hy _ _ hrest hrest' heq => sameMember_of_append_eq
          (ih x (Table.mem_sorted.1 hx) (hys y (Table.mem_sorted.1 hy)) hrest hrest') heq)
        (List.cons.inj heq).2
      exact ⟨sameUpToOrder_of_forall₂_sorted hkeys' hmembers, hrests⟩
    | _ => simp [Lead.ofValue, Value.ofRecord] at hlead

/-! ## Texts and digests -/

theorem write_eq_iff {x y : Value} (hx : IsExact x) (hy : IsExact y) :
    write x = write y ↔ SameUpToOrder x y := by
  refine ⟨fun heq => ?_, fun hsame => hsame.write_eq hx hy⟩
  refine (sameUpToOrder_of_append_eq hx hy ?_ ?_ (congrArg (· ++ []) heq)).1 <;> exact nofun

/-! ## Values that have a text -/

theorem IsExact.isWhole {v : Value} (h : IsExact v) : v.isWhole = true := by
  induction h with
  | list _ ih => exact Value.isWhole_list.2 ih
  | object _ _ ih => exact isWhole_ofRecord ih
  | _ => rfl

/-- Nothing but an integer that is too long keeps such a value from being written. -/
theorem IsExact.fault?_eq {v : Value} (h : IsExact v) :
    fault? v = none ∨ fault? v = some .tooLong := by
  have hfound {α : Type} {items : List α} {f : α → Option WriteFault}
      (hall : ∀ item ∈ items, f item = none ∨ f item = some .tooLong) :
      items.findSome? f = none ∨ items.findSome? f = some .tooLong := by
    cases hfault : items.findSome? f with
    | none => exact .inl rfl
    | some fault =>
      obtain ⟨item, hitem, heq⟩ := List.exists_of_findSome?_eq_some hfault
      rw [← heq]
      exact (hall item hitem).elim (fun hnone => absurd (heq.symm.trans hnone) nofun) .inr
  induction h with
  | int i =>
    show scalarFault? (.int i) = none ∨ scalarFault? (.int i) = some .tooLong
    rw [scalarFault?]
    split
    · exact .inl rfl
    · exact .inr rfl
  | list _ ih =>
    rw [fault?_list]
    exact hfound ih
  | object _ _ ih =>
    rw [fault?_ofRecord]
    exact hfound fun field hfield => ih field (Table.mem_sorted.1 hfield)
  | _ => exact .inl rfl

theorem IsExact.canonical_eq {v : Value} (h : IsExact v) :
    canonical v
      = if v.isWritable = true then .ok (String.ofList (write v)) else .error .tooLong := by
  obtain ⟨hnone, hlong⟩ := isWritable_of_fault? v
  rcases h.fault?_eq with hfault | hfault
  · rw [if_pos (hnone hfault), Json.canonical_eq hfault h.isWhole]
  · rw [if_neg (by rw [hlong hfault]; decide), canonical, hfault]

theorem IsExact.exists_canonical_iff {v : Value} (h : IsExact v) :
    (∃ text, canonical v = .ok text) ↔ v.isWritable = true := by
  rw [h.canonical_eq]
  split
  · next hwritable => exact iff_of_true ⟨_, rfl⟩ hwritable
  · next hwritable => exact iff_of_false (fun ⟨_, htext⟩ => nomatch htext) hwritable

theorem canonical_eq_iff {x y : Value} (hx : IsExact x) (hy : IsExact y)
    (hwritable : x.isWritable = true) (hwritable' : y.isWritable = true) :
    canonical x = canonical y ↔ SameUpToOrder x y := by
  rw [hx.canonical_eq, hy.canonical_eq, if_pos hwritable, if_pos hwritable', Except.ok.injEq,
    String.ofList_inj, write_eq_iff hx hy]

/-- The texts of two mappings have different digests unless they are one text. -/
def DigestsApart (entries entries' : List (Value × Value)) : Prop :=
  ∀ text text', canonical (.dict entries) = .ok text → canonical (.dict entries') = .ok text' →
    Digest.ofText text = Digest.ofText text' → text = text'

section

variable {entries entries' : List (Value × Value)}

theorem exists_ofEntries_iff (h : IsExact (.dict entries)) :
    (∃ digest, Digest.ofEntries entries = .ok digest) ↔ (Value.dict entries).isWritable = true := by
  rw [← h.exists_canonical_iff]
  constructor
  · rintro ⟨digest, hdigest⟩
    obtain ⟨text, htext, -⟩ := ofEntries_eq_ok.1 hdigest
    exact ⟨text, htext⟩
  · rintro ⟨text, htext⟩
    exact ⟨_, ofEntries_eq_ok.2 ⟨text, htext, rfl⟩⟩

theorem ofEntries_eq_iff (h : IsExact (.dict entries)) (h' : IsExact (.dict entries'))
    (hwritable : (Value.dict entries).isWritable = true)
    (hwritable' : (Value.dict entries').isWritable = true)
    (hapart : DigestsApart entries entries') :
    Digest.ofEntries entries = Digest.ofEntries entries'
      ↔ SameUpToOrder (.dict entries) (.dict entries') := by
  have htexts := canonical_eq_iff h h' hwritable hwritable'
  refine ⟨fun heq => htexts.1 ?_, fun hsame => congrArg (Except.map Digest.ofText) (htexts.2 hsame)⟩
  obtain ⟨digest, hdigest⟩ := (exists_ofEntries_iff h).2 hwritable
  obtain ⟨text, htext, hof⟩ := ofEntries_eq_ok.1 hdigest
  obtain ⟨text', htext', hof'⟩ := ofEntries_eq_ok.1 (heq.symm.trans hdigest)
  rw [htext, htext', hapart text text' htext htext' (hof.trans hof'.symm)]

end

/-- A value without fractions has a canonical text unless an integer in it is too long to be
written, and two texts are one exactly when the values are the same but for the order of entries. So
a mapping has a digest that no order of entries changes, and mappings that differ otherwise have
different digests if the digests of their texts do not collide. -/
theorem canonical_tells_apart {x y : Value} (hx : IsExact x) (hy : IsExact y) :
    ((∃ text, canonical x = .ok text) ↔ x.isWritable = true) ∧
    (x.isWritable = false → canonical x = .error .tooLong) ∧
    (x.isWritable = true → y.isWritable = true →
      (canonical x = canonical y ↔ SameUpToOrder x y)) ∧
    ∀ entries entries', x = .dict entries → y = .dict entries' →
      ((∃ digest, Digest.ofEntries entries = .ok digest) ↔ x.isWritable = true) ∧
      (x.isWritable = true → y.isWritable = true →
        (SameUpToOrder x y → Digest.ofEntries entries = Digest.ofEntries entries') ∧
        (DigestsApart entries entries' → ¬ SameUpToOrder x y →
          Digest.ofEntries entries ≠ Digest.ofEntries entries')) := by
  refine ⟨hx.exists_canonical_iff, fun hlong => ?_, canonical_eq_iff hx hy, ?_⟩
  · rw [hx.canonical_eq, if_neg (by rw [hlong]; decide)]
  rintro entries entries' rfl rfl
  refine ⟨exists_ofEntries_iff hx, fun hwritable hwritable' => ⟨fun hsame => ?_, ?_⟩⟩
  · exact congrArg (Except.map Digest.ofText)
      ((canonical_eq_iff hx hy hwritable hwritable').2 hsame)
  · intro hapart hother heq
    exact hother ((ofEntries_eq_iff hx hy hwritable hwritable' hapart).1 heq)

theorem isExact_pair {k l : String} (hkeys : k ≠ l) {v w : Value} (hv : IsExact v)
    (hw : IsExact w) : IsExact (.ofRecord [(k, v), (l, w)]) :=
  .object (by simpa [Table.keys] using hkeys) (by simpa using ⟨hv, hw⟩)

theorem sameUpToOrder_swap {k l : String} (hkeys : k ≠ l) {v v' w w' : Value}
    (hv : SameUpToOrder v v') (hw : SameUpToOrder w w') :
    SameUpToOrder (.ofRecord [(k, v), (l, w)]) (.ofRecord [(l, w'), (k, v')]) := by
  refine .object (by simp [Table.keys, or_comm]) ?_
  simp only [List.mem_cons, Prod.mk.injEq, List.not_mem_nil, or_false]
  rintro key value value' (⟨rfl, rfl⟩ | ⟨rfl, rfl⟩) (⟨hkey, rfl⟩ | ⟨hkey, rfl⟩)
  · exact absurd hkey hkeys
  · exact hv
  · exact hw
  · exact absurd hkey.symm hkeys

/-- The entries of an object under one key. -/
def single (v : Value) : List (Value × Value) := Value.entriesOf [("a", v)]

theorem isExact_single {v : Value} (h : IsExact v) : IsExact (.dict (single v)) :=
  @IsExact.object [("a", v)] (List.nodup_singleton _) (List.forall_mem_singleton.2 h)

/-- Two orders at two depths, and two numbers that only their sign tells apart. -/
theorem canonical_tells_apart_orders :
    let x := Value.ofRecord [("d", .int (-10)), ("c", .text (.whole "\""))]
    let y := Value.ofRecord [("c", .text (.whole "\"")), ("d", .int (-10))]
    let entries := Value.entriesOf [("b", x), ("a", .null)]
    let entries' := Value.entriesOf [("a", .null), ("b", y)]
    canonical (.list [x]) = canonical (.list [y]) ∧
    (∃ digest, Digest.ofEntries entries = .ok digest) ∧
    Digest.ofEntries entries = Digest.ofEntries entries' ∧
    DigestsApart (single (.int 10)) (single (.int (-10))) ∧
    Digest.ofEntries (single (.int 10)) ≠ Digest.ofEntries (single (.int (-10))) := by
  intro x y entries entries'
  have hx : IsExact x := isExact_pair (by decide) (.int _) (.text _)
  have hy : IsExact y := isExact_pair (by decide) (.text _) (.int _)
  have hxy : SameUpToOrder x y := sameUpToOrder_swap (by decide) (.int _) (.text _)
  have hentries : IsExact (.dict entries) := isExact_pair (by decide) hx .null
  have hentries' : IsExact (.dict entries') := isExact_pair (by decide) .null hy
  have hsame : SameUpToOrder (.dict entries) (.dict entries') :=
    sameUpToOrder_swap (by decide) hxy .null
  have hten : canonical (.dict (single (.int 10))) = .ok "\x7b\"a\":10\x7d" :=
    Attempt.eq_ok_of_toOption (by decide +kernel)
  have hminus : canonical (.dict (single (.int (-10)))) = .ok "\x7b\"a\":-10\x7d" :=
    Attempt.eq_ok_of_toOption (by decide +kernel)
  have hapart : DigestsApart (single (.int 10)) (single (.int (-10))) := by
    intro text text' htext htext' hdigest
    obtain rfl := Except.ok.inj (hten.symm.trans htext)
    obtain rfl := Except.ok.inj (hminus.symm.trans htext')
    exact absurd hdigest (by decide +kernel)
  have hlists : IsExact (.list [x]) ∧ IsExact (.list [y]) :=
    ⟨.list (List.forall_mem_singleton.2 hx), .list (List.forall_mem_singleton.2 hy)⟩
  obtain ⟨-, -, htexts, -⟩ := canonical_tells_apart hlists.1 hlists.2
  obtain ⟨-, -, -, hdigests⟩ := canonical_tells_apart hentries hentries'
  obtain ⟨hexists, hequal⟩ := hdigests _ _ rfl rfl
  obtain ⟨-, -, htens, hsigns⟩ :=
    canonical_tells_apart (isExact_single (.int 10)) (isExact_single (.int (-10)))
  have hother : ¬ SameUpToOrder (.dict (single (.int 10))) (.dict (single (.int (-10)))) := by
    rw [← htens (by decide +kernel) (by decide +kernel), hten, hminus]
    exact fun heq => absurd (Except.ok.inj heq) (by decide)
  refine ⟨(htexts (by decide +kernel) (by decide +kernel)).2 (.list rfl (by simpa using hxy)),
    hexists.2 (by decide +kernel), (hequal (by decide +kernel) (by decide +kernel)).1 hsame, hapart,
    ((hsigns _ _ rfl rfl).2 (by decide +kernel) (by decide +kernel)).2 hapart hother⟩

/-- An integer with a digit more than are ever written is the same as itself and has no text. -/
theorem canonical_longInteger : IsExact (.int (10 ^ digitLimit)) ∧
    SameUpToOrder (.int (10 ^ digitLimit)) (.int (10 ^ digitLimit)) ∧
    canonical (.int (10 ^ digitLimit)) = .error .tooLong := by
  refine ⟨.int _, .int _, ?_⟩
  rw [(IsExact.int _).canonical_eq, Value.isWritable_int, isWritable_pow_digitLimit]
  rfl

end ControlSchema.Json
