import ControlSchema.Proofs.Source.Literal
import ControlSchema.Source.Expression
import Mathlib.Data.List.Basic

/-!
# Phrases

A phrase is some tokens that are read as one expression wherever a comma, a
colon, a sign of equality, a closing bracket or nothing stands behind them. The
phrases of generated source are built from names by attributes, calls and
subscripts, and each way of building has its lemma.

The reader descends by steps that are counted, and what is attached to an
operand is read by its own loop. `Primary` therefore says where the loop stands
behind the operand's tokens: it has used at most one step for each of them.
-/

namespace ControlSchema.Source

namespace Expr

/-! ## Where phrases end -/

/-- Whether an expression ends in front of the tokens. -/
def stops : List Token → Bool
  | [] => true
  | .symbol s :: _ => [",", ")", "]", "\x7d", ":", "="].contains s
  | _ => false

/-- The symbols that tell what an item is, or divide statements. -/
def isInner (t : Token) : Bool :=
  !([.symbol "=", .symbol "*", .symbol "**", .symbol ";"].contains t)

/-- Tokens of an expression seen from outside. -/
structure Inner (ts : List Token) : Prop where
  inner : ∀ t ∈ ts, isInner t = true
  ne_nil : ts ≠ []
  opens : ∀ t ∈ ts.head?, t ≠ .symbol ")" ∧ t ≠ .symbol "]" ∧ t ≠ .symbol "\x7d"

theorem stops_cases {rest : List Token} (h : stops rest = true) :
    rest = [] ∨ ∃ s more, rest = .symbol s :: more ∧
      (s = "," ∨ s = ")" ∨ s = "]" ∨ s = "\x7d" ∨ s = ":" ∨ s = "=") := by
  cases rest with
  | nil => exact Or.inl rfl
  | cons t more =>
    cases t with
    | symbol s => exact Or.inr ⟨s, more, rfl, by simpa [stops] using h⟩
    | _ => cases h

theorem operator?_of_stops {rest : List Token} (h : stops rest = true) : operator? rest = none := by
  rcases stops_cases h with rfl | ⟨s, more, rfl, rfl | rfl | rfl | rfl | rfl | rfl⟩ <;> rfl

theorem attached?_of_stops {rest : List Token} (h : stops rest = true) (fuel : Nat) (e : Expr) :
    attached? (fuel + 1) e rest = some (e, rest) := by
  rcases stops_cases h with rfl | ⟨s, more, rfl, rfl | rfl | rfl | rfl | rfl | rfl⟩ <;>
    rw [attached?] <;> simp

theorem not_if_of_stops {rest : List Token} (h : stops rest = true) (more : List Token) :
    rest ≠ .word "if" :: more := by
  rintro rfl
  cases h

/-! ## Phrases -/

/-- Tokens that are read as an operand with everything that is attached to it. -/
structure Primary (ts : List Token) (e : Expr) : Prop extends Inner ts where
  reads : ∃ used ≤ ts.length, ∀ least fuel rest, 8 * ts.length ≤ fuel + 2 →
    operand? fuel least (ts ++ rest) = attached? (fuel - used) e rest

/-- Tokens that are read as one expression. -/
structure Phrase (ts : List Token) (e : Expr) : Prop extends Inner ts where
  reads : ∀ fuel rest, 8 * ts.length ≤ fuel → stops rest = true →
    read? fuel (ts ++ rest) = some (e, rest)

theorem read?_of_operand? {fuel : Nat} {ts rest : List Token} {e : Expr}
    (hoperand : operand? (fuel + 1) 1 ts = some (e, rest)) (hstops : stops rest = true) :
    read? (fuel + 3) ts = some (e, rest) := by
  have hoperators : operators? (fuel + 1) 1 e rest = some (e, rest) := by
    rw [operators?, operator?_of_stops hstops]
  have hoperation : operation? (fuel + 2) 1 ts = some (e, rest) := by
    rw [operation?, hoperand]
    exact hoperators
  rw [read?, hoperation]
  simp only [Option.bind_eq_bind, Option.bind_some]
  split
  · exact absurd rfl (not_if_of_stops hstops _)
  · rfl

theorem operand?_atom {t : Token} (hnot : t ≠ .word "not")
    (hsign : ∀ s, t = .symbol s → ["-", "+", "~"].contains s = false) (fuel least : Nat)
    (rest : List Token) : operand? (fuel + 1) least (t :: rest)
      = (atom? fuel (t :: rest)).bind fun p => attached? fuel p.1 p.2 := by
  cases t with
  | word w =>
    rw [operand?]
    · rfl
    · intro more h
      simp only [List.cons.injEq, Token.word.injEq] at h
      exact hnot (by rw [h.1])
    · intro s more h
      cases h
  | symbol s =>
    have hs := hsign s rfl
    simp only [List.contains_cons, List.contains_nil, Bool.or_false, Bool.or_eq_false_iff] at hs
    rw [operand?]
    simp [hs]
  | number n =>
    rw [operand?]
    · rfl
    · intro more h
      cases h
    · intro s more h
      cases h
  | literal l =>
    rw [operand?]
    · rfl
    · intro more h
      cases h
    · intro s more h
      cases h

namespace Primary

theorem phrase {ts : List Token} {e : Expr} (h : Primary ts e) : Phrase ts e := by
  obtain ⟨used, hused, hreads⟩ := h.reads
  refine ⟨h.toInner, fun fuel rest hfuel hstops => ?_⟩
  have hlength : 1 ≤ ts.length := List.length_pos_iff.2 h.ne_nil
  obtain ⟨f, rfl⟩ : ∃ f, fuel = f + 3 := ⟨fuel - 3, by omega⟩
  refine read?_of_operand? ?_ hstops
  obtain ⟨g, hg⟩ : ∃ g, f + 1 - used = g + 1 := ⟨f - used, by omega⟩
  rw [hreads 1 (f + 1) rest (by omega), hg, attached?_of_stops hstops]

theorem name {w : String} (hw : Naming.isKeyword w = false) : Primary [.word w] (.name w) := by
  have hnot : w ≠ "not" := by
    rintro rfl
    cases hw
  have hconstant : constants.contains w = false := by
    rw [← Bool.not_eq_true]
    intro h
    simp only [constants, List.contains_cons, List.contains_nil, Bool.or_false, Bool.or_eq_true,
      beq_iff_eq] at h
    rcases h with rfl | rfl | rfl <;> cases hw
  refine ⟨⟨by simp [isInner], by simp, by simp⟩, 1, Nat.le_refl _, fun least fuel rest hfuel => ?_⟩
  obtain ⟨f, rfl⟩ : ∃ f, fuel = f + 2 := ⟨fuel - 2, by simp at hfuel; omega⟩
  rw [List.singleton_append, operand?_atom (by simpa using hnot) (fun s h => by cases h), atom?,
    ofWord?, hconstant, hw]
  rfl

theorem constant {w : String} (hw : w = "None") : Primary [.word w] (.constant w) := by
  subst hw
  refine ⟨⟨by simp [isInner], by simp, by simp⟩, 1, Nat.le_refl _, fun least fuel rest hfuel => ?_⟩
  obtain ⟨f, rfl⟩ : ∃ f, fuel = f + 2 := ⟨fuel - 2, by simp at hfuel; omega⟩
  rw [List.singleton_append, operand?_atom (by simp) (fun s h => by cases h), atom?]
  rfl

theorem ellipsis : Primary [.symbol "..."] (.constant "...") := by
  refine ⟨⟨by simp [isInner], by simp, by simp⟩, 1, Nat.le_refl _, fun least fuel rest hfuel => ?_⟩
  obtain ⟨f, rfl⟩ : ∃ f, fuel = f + 2 := ⟨fuel - 2, by simp at hfuel; omega⟩
  rw [List.singleton_append, operand?_atom (by simp)
    (fun s h => by cases h; decide), atom?]
  rfl

theorem member {ts : List Token} {e : Expr} (h : Primary ts e) {w : String}
    (hw : Naming.isKeyword w = false) :
    Primary (ts ++ [.symbol ".", .word w]) (.attribute e w) := by
  obtain ⟨used, hused, hreads⟩ := h.reads
  have hhead : (ts ++ [Token.symbol ".", .word w]).head? = ts.head? := by
    obtain ⟨t, more, rfl⟩ := List.exists_cons_of_ne_nil h.ne_nil
    rfl
  refine ⟨⟨?_, by simp, by rw [hhead]; exact h.opens⟩, used + 1, by simp; omega,
    fun least fuel rest hfuel => ?_⟩
  · intro t ht
    rcases List.mem_append.1 ht with ht | ht
    · exact h.inner t ht
    · simp only [List.mem_cons, List.not_mem_nil, or_false] at ht
      rcases ht with rfl | rfl <;> rfl
  · rw [List.length_append] at hfuel
    simp only [List.length_cons, List.length_nil] at hfuel
    obtain ⟨f, hf⟩ : ∃ f, fuel - used = f + 1 := ⟨fuel - used - 1, by omega⟩
    have hstep : fuel - (used + 1) = f := by omega
    rw [List.append_assoc, hreads least fuel _ (by omega), hf, hstep]
    simp [attached?, hw]

end Primary

/-! ## Items -/

/-- Whether an item ends in front of the tokens. -/
def itemStops : List Token → Bool
  | .symbol s :: _ => [",", ")", "]", "\x7d"].contains s
  | _ => false

theorem stops_of_itemStops {rest : List Token} (h : itemStops rest = true) :
    stops rest = true := by
  match rest with
  | .symbol s :: more =>
    simp only [itemStops, stops, List.contains_cons, List.contains_nil, Bool.or_false,
      Bool.or_eq_true] at h ⊢
    tauto

theorem not_colon_of_itemStops {rest : List Token} (h : itemStops rest = true)
    (more : List Token) : rest ≠ .symbol ":" :: more := by
  rintro rfl
  cases h

/-- Tokens that are read as one item. -/
structure Reads (ts : List Token) (item : Item) : Prop extends Inner ts where
  reads : ∀ fuel rest, 8 * ts.length + 1 ≤ fuel → itemStops rest = true →
    item? fuel (ts ++ rest) = some (item, rest)

/-- The item in front of some tokens, when its first two tokens do not tell what it is. -/
theorem item?_of_inner {ts : List Token} (h : Inner ts) {rest : List Token}
    (hrest : ∀ more, rest ≠ .symbol "=" :: more) (fuel : Nat) :
    item? (fuel + 1) (ts ++ rest) = (do
      let (e, rest) ← read? fuel (ts ++ rest)
      match rest with
      | .symbol ":" :: rest =>
        let (value, rest) ← read? fuel rest
        return (.entry e value, rest)
      | rest => return (.plain e, rest)) := by
  obtain ⟨t, ts, rfl⟩ := List.exists_cons_of_ne_nil h.ne_nil
  have ht := h.inner t List.mem_cons_self
  rw [List.cons_append, item?.eq_def]
  simp only
  split
  · rename_i heq
    rw [(List.cons.inj heq).1] at ht
    cases ht
  · rename_i heq
    rw [(List.cons.inj heq).1] at ht
    cases ht
  · rename_i w more heq
    exfalso
    cases ts with
    | nil => exact hrest more (List.cons.inj heq).2
    | cons u ts =>
      have hu := h.inner u (List.mem_cons_of_mem t List.mem_cons_self)
      rw [List.cons_append] at heq
      rw [(List.cons.inj (List.cons.inj heq).2).1] at hu
      cases hu
  · rfl

theorem Phrase.item {ts : List Token} {e : Expr} (h : Phrase ts e) : Reads ts (.plain e) := by
  refine ⟨h.toInner, fun fuel rest hfuel hrest => ?_⟩
  obtain ⟨f, rfl⟩ : ∃ f, fuel = f + 1 := ⟨fuel - 1, by omega⟩
  rw [item?_of_inner h.toInner (by rintro more rfl; cases hrest),
    h.reads f rest (by omega) (stops_of_itemStops hrest)]
  simp only [Option.bind_eq_bind, Option.bind_some]
  split
  · exact absurd rfl (not_colon_of_itemStops hrest _)
  · rfl

theorem Phrase.entry {ks vs : List Token} {k v : Expr} (hk : Phrase ks k) (hv : Phrase vs v) :
    Reads (ks ++ .symbol ":" :: vs) (.entry k v) := by
  have hhead : (ks ++ Token.symbol ":" :: vs).head? = ks.head? := by
    obtain ⟨t, more, rfl⟩ := List.exists_cons_of_ne_nil hk.ne_nil
    rfl
  refine ⟨⟨?_, by simp, by rw [hhead]; exact hk.opens⟩, fun fuel rest hfuel hrest => ?_⟩
  · intro t ht
    rcases List.mem_append.1 ht with ht | ht
    · exact hk.inner t ht
    · rcases List.mem_cons.1 ht with rfl | ht
      · rfl
      · exact hv.inner t ht
  · rw [List.length_append, List.length_cons] at hfuel
    obtain ⟨f, rfl⟩ : ∃ f, fuel = f + 1 := ⟨fuel - 1, by omega⟩
    rw [List.append_assoc, List.cons_append, item?_of_inner hk.toInner (by simp),
      hk.reads f _ (by omega) (by rfl)]
    simp only [Option.bind_eq_bind, Option.bind_some]
    rw [hv.reads f rest (by omega) (stops_of_itemStops hrest)]
    rfl

/-- Tokens that are read as items in front of a closing bracket. -/
structure Items (ts : List Token) (items : List Item) (comma : Bool) : Prop where
  inner : ∀ t ∈ ts, isInner t = true
  reads : ∀ closing ∈ [")", "]", "\x7d"], ∀ fuel rest, 8 * ts.length + 2 ≤ fuel →
    items? fuel closing (ts ++ .symbol closing :: rest) = some (items, comma, rest)

namespace Items

theorem nil : Items [] [] false := by
  refine ⟨by simp, fun closing _ fuel rest hfuel => ?_⟩
  obtain ⟨f, rfl⟩ : ∃ f, fuel = f + 1 := ⟨fuel - 1, by omega⟩
  rw [List.nil_append, items?, if_pos rfl]

theorem items?_of_reads {ts : List Token} {item : Item} (h : Reads ts item) {closing : String}
    (hclosing : closing ∈ [")", "]", "\x7d"]) {fuel : Nat} (hfuel : 8 * ts.length + 1 ≤ fuel)
    {rest : List Token} : itemStops rest = true →
    items? (fuel + 1) closing (ts ++ rest) = (match rest with
      | .symbol "," :: rest => do
        let (items, comma, rest) ← items? fuel closing rest
        return (item :: items, comma || items.isEmpty, rest)
      | token :: rest => if token = .symbol closing then return ([item], false, rest) else none
      | [] => none) := by
  intro hrest
  have hread := h.reads fuel rest hfuel hrest
  obtain ⟨t, ts, rfl⟩ := List.exists_cons_of_ne_nil h.ne_nil
  have hne : t ≠ .symbol closing := by
    have hopens := h.opens t rfl
    simp only [List.mem_cons, List.not_mem_nil, or_false] at hclosing
    rcases hclosing with rfl | rfl | rfl
    · exact hopens.1
    · exact hopens.2.1
    · exact hopens.2.2
  rw [List.cons_append] at hread ⊢
  rw [items?, if_neg hne, hread]
  rfl

theorem one {ts : List Token} {item : Item} (h : Reads ts item) : Items ts [item] false := by
  refine ⟨h.inner, fun closing hclosing fuel rest hfuel => ?_⟩
  obtain ⟨f, rfl⟩ : ∃ f, fuel = f + 1 := ⟨fuel - 1, by omega⟩
  simp only [List.mem_cons, List.not_mem_nil, or_false] at hclosing
  rcases hclosing with rfl | rfl | rfl <;>
    rw [items?_of_reads h (by simp) (by omega) (by rfl)] <;> simp

theorem cons {ts us : List Token} {item : Item} {items : List Item} {comma : Bool}
    (h : Reads ts item) (hs : Items us items comma) :
    Items (ts ++ .symbol "," :: us) (item :: items) (comma || items.isEmpty) := by
  refine ⟨?_, fun closing hclosing fuel rest hfuel => ?_⟩
  · intro t ht
    rcases List.mem_append.1 ht with ht | ht
    · exact h.inner t ht
    · rcases List.mem_cons.1 ht with rfl | ht
      · rfl
      · exact hs.inner t ht
  · rw [List.length_append, List.length_cons] at hfuel
    obtain ⟨f, rfl⟩ : ∃ f, fuel = f + 1 := ⟨fuel - 1, by omega⟩
    rw [List.append_assoc, List.cons_append, items?_of_reads h hclosing (by omega) (by rfl)]
    simp only [Option.bind_eq_bind]
    rw [hs.reads closing hclosing f rest (by omega)]
    rfl

theorem spread {tss : List (List Token)} {items : List Item}
    (h : List.Forall₂ Reads tss items) : Items ([.symbol ","].intercalate tss) items false := by
  induction h with
  | nil => exact nil
  | @cons ts item tss items hts hrest ih =>
    cases hrest with
    | nil => simpa using one hts
    | @cons us item' tss items hus hrest =>
      rw [List.intercalate_cons_cons, List.append_assoc]
      exact cons hts ih

end Items

/-! ## Calls and subscripts -/

theorem Inner.bracket {ts us : List Token} {left right : String} (h : Inner ts)
    (hs : ∀ t ∈ us, isInner t = true) (hleft : isInner (.symbol left) = true)
    (hright : isInner (.symbol right) = true) :
    Inner (ts ++ .symbol left :: us ++ [.symbol right]) := by
  have hhead : (ts ++ Token.symbol left :: us ++ [Token.symbol right]).head? = ts.head? := by
    obtain ⟨t, more, rfl⟩ := List.exists_cons_of_ne_nil h.ne_nil
    rfl
  refine ⟨fun t ht => ?_, by simp, by rw [hhead]; exact h.opens⟩
  simp only [List.mem_append, List.mem_cons, List.not_mem_nil, or_false] at ht
  rcases ht with (ht | rfl | ht) | rfl
  · exact h.inner t ht
  · exact hleft
  · exact hs t ht
  · exact hright

theorem Primary.call {ts us : List Token} {e : Expr} {items : List Item} {comma : Bool}
    (h : Primary ts e) (hs : Items us items comma)
    (harguments : (items.all Item.isArgument && Item.inOrder items) = true) :
    Primary (ts ++ .symbol "(" :: us ++ [.symbol ")"]) (.call e items) := by
  obtain ⟨used, hused, hreads⟩ := h.reads
  refine ⟨h.toInner.bracket hs.inner rfl rfl, used + 1, by simp; omega,
    fun least fuel rest hfuel => ?_⟩
  simp only [List.length_append, List.length_cons, List.length_nil] at hfuel
  obtain ⟨f, hf⟩ : ∃ f, fuel - used = f + 1 := ⟨fuel - used - 1, by omega⟩
  have hstep : fuel - (used + 1) = f := by omega
  rw [List.append_assoc, List.append_assoc, hreads least fuel _ (by omega), hf, hstep,
    List.cons_append, List.singleton_append, attached?, hs.reads ")" (by simp) f rest (by omega)]
  simp only [Option.bind_eq_bind, Option.bind_some]
  rw [if_pos harguments]

theorem Primary.subscript {ts us : List Token} {e index : Expr} {items : List Item} {comma : Bool}
    (h : Primary ts e) (hs : Items us items comma) (hne : items ≠ [])
    (hindex : ofParenthesis? items comma = some index) :
    Primary (ts ++ .symbol "[" :: us ++ [.symbol "]"]) (.subscript e index) := by
  obtain ⟨used, hused, hreads⟩ := h.reads
  refine ⟨h.toInner.bracket hs.inner rfl rfl, used + 1, by simp; omega,
    fun least fuel rest hfuel => ?_⟩
  simp only [List.length_append, List.length_cons, List.length_nil] at hfuel
  obtain ⟨f, hf⟩ : ∃ f, fuel - used = f + 1 := ⟨fuel - used - 1, by omega⟩
  have hstep : fuel - (used + 1) = f := by omega
  rw [List.append_assoc, List.append_assoc, hreads least fuel _ (by omega), hf, hstep,
    List.cons_append, List.singleton_append, attached?, hs.reads "]" (by simp) f rest (by omega)]
  simp only [Option.bind_eq_bind, Option.bind_some]
  rw [List.isEmpty_eq_false_iff.2 hne, if_neg Bool.false_ne_true, hindex]
  rfl

/-! ## Subscripts that cannot be read -/

/-- A subscript without items, or with items that cannot be read. -/
theorem read?_subscript_none {w : String} (hw : Naming.isKeyword w = false) {us : List Token}
    (h : ∀ fuel items comma rest, items? fuel "]" us = some (items, comma, rest) → items = [])
    (fuel : Nat) : read? fuel (.word w :: .symbol "[" :: us) = none := by
  have hattached (fuel : Nat) (e : Expr) : attached? fuel e (.symbol "[" :: us) = none := by
    cases fuel with
    | zero => rw [attached?]
    | succ fuel =>
      rw [attached?]
      cases hitems : items? fuel "]" us with
      | none => rfl
      | some found =>
        obtain ⟨items, comma, rest⟩ := found
        obtain rfl := h fuel items comma rest hitems
        rfl
  have hnot : w ≠ "not" := by
    rintro rfl
    cases hw
  have hoperand (fuel : Nat) : operand? fuel 1 (.word w :: .symbol "[" :: us) = none := by
    cases fuel with
    | zero => rw [operand?]
    | succ fuel =>
      rw [operand?_atom (by simpa using hnot) (fun s h => by cases h)]
      cases fuel with
      | zero =>
        rw [atom?]
        rfl
      | succ fuel =>
        rw [atom?]
        cases ofWord? w with
        | none => rfl
        | some e => exact hattached _ e
  cases fuel with
  | zero => rw [read?]
  | succ fuel =>
    rw [read?]
    cases fuel with
    | zero =>
      rw [operation?]
      rfl
    | succ fuel =>
      rw [operation?, hoperand]
      rfl

/-- Items of which the first is a subscript that cannot be read. -/
theorem items?_subscript_none {w : String} {us : List Token}
    (h : ∀ fuel, read? fuel (.word w :: .symbol "[" :: us) = none) (fuel : Nat)
    (closing : String) : items? fuel closing (.word w :: .symbol "[" :: us) = none := by
  cases fuel with
  | zero => rw [items?]
  | succ fuel =>
    have hitem : item? fuel (.word w :: .symbol "[" :: us) = none := by
      cases fuel with
      | zero => rw [item?]
      | succ fuel =>
        rw [item?]
        · rw [h]
          rfl
        · simp
        · simp
        · simp
    rw [items?, if_neg (by simp), hitem]
    rfl

/-! ## Constants and displays -/

namespace Phrase

theorem text {l : Literal} {value : String} (hl : l.value? = some value) :
    Phrase [.literal l] (.text value) := by
  refine ⟨⟨by simp [isInner], by simp, by simp⟩, fun fuel rest hfuel hstops => ?_⟩
  simp only [List.length_cons, List.length_nil] at hfuel
  obtain ⟨f, rfl⟩ : ∃ f, fuel = f + 5 := ⟨fuel - 5, by omega⟩
  have hliterals : literals? (.literal l :: rest) = some (value, rest) := by
    have hrest : literals? rest = some ("", rest) := by
      rcases stops_cases hstops with rfl | ⟨s, more, rfl, -⟩ <;> rfl
    rw [literals?, hl, hrest]
    simp
  refine read?_of_operand? ?_ hstops
  rw [List.singleton_append, operand?_atom (by simp) (fun s h => by cases h), atom?, hliterals]
  exact attached?_of_stops hstops _ _

theorem number {s : String} {e : Expr} (hs : ofNumber? s = some e) : Phrase [.number s] e := by
  refine ⟨⟨by simp [isInner], by simp, by simp⟩, fun fuel rest hfuel hstops => ?_⟩
  simp only [List.length_cons, List.length_nil] at hfuel
  obtain ⟨f, rfl⟩ : ∃ f, fuel = f + 5 := ⟨fuel - 5, by omega⟩
  refine read?_of_operand? ?_ hstops
  rw [List.singleton_append, operand?_atom (by simp) (fun s h => by cases h), atom?, hs]
  exact attached?_of_stops hstops _ _

theorem negative {s : String} {e : Expr} (hs : ofNumber? s = some e) :
    Phrase [.symbol "-", .number s] (.prefixed "-" e) := by
  refine ⟨⟨by simp [isInner], by simp, by simp⟩, fun fuel rest hfuel hstops => ?_⟩
  simp only [List.length_cons, List.length_nil] at hfuel
  obtain ⟨f, rfl⟩ : ∃ f, fuel = f + 8 := ⟨fuel - 8, by omega⟩
  have hoperand : operand? (f + 4) negationRank (.number s :: rest) = some (e, rest) := by
    rw [operand?_atom (by simp) (fun s h => by cases h), atom?, hs]
    exact attached?_of_stops hstops _ _
  have hoperation : operation? (f + 5) negationRank (.number s :: rest) = some (e, rest) := by
    rw [operation?, hoperand]
    simp only [Option.bind_eq_bind, Option.bind_some]
    rw [operators?, operator?_of_stops hstops]
  refine read?_of_operand? ?_ hstops
  rw [List.cons_append, List.singleton_append, operand?, if_pos (by decide), hoperation]
  rfl

theorem dict {us : List Token} {items : List Item} {comma : Bool} (hs : Items us items comma)
    (hitems : items.all Item.isEntry = true) :
    Phrase (.symbol "\x7b" :: us ++ [.symbol "\x7d"]) (.dict items) := by
  refine ⟨⟨fun t ht => ?_, by simp, by simp⟩, fun fuel rest hfuel hstops => ?_⟩
  · simp only [List.cons_append, List.mem_append, List.mem_cons, List.not_mem_nil, or_false] at ht
    rcases ht with rfl | ht | rfl
    · rfl
    · exact hs.inner t ht
    · rfl
  · simp only [List.cons_append, List.length_cons, List.length_append, List.length_nil] at hfuel
    obtain ⟨f, rfl⟩ : ∃ f, fuel = f + 5 := ⟨fuel - 5, by omega⟩
    refine read?_of_operand? ?_ hstops
    rw [List.cons_append, List.cons_append, List.append_assoc, List.singleton_append,
      operand?_atom (by simp) (fun s h => by cases h; decide), atom?,
      hs.reads "\x7d" (by simp) _ rest (by omega)]
    simp only [Option.bind_eq_bind, Option.bind_some, ofBraces?, hitems, if_true, Option.pure_def]
    exact attached?_of_stops hstops _ _

end Phrase

/-! ## Expressions of statements -/

theorem front?_phrase {ts rest : List Token} {e : Expr} (h : Phrase ts e)
    (hrest : stops rest = true) : front? (ts ++ rest) = some (e, rest) :=
  h.reads _ rest (by rw [List.length_append]; omega) hrest

/-- A phrase with no comma behind it is a list without brackets. -/
theorem listed?_phrase {ts rest : List Token} {e : Expr} (h : Phrase ts e)
    (hstops : stops rest = true) (hcomma : ∀ more, rest ≠ .symbol "," :: more) :
    listed? (ts ++ rest) = some (e, rest) := by
  have hitem : listItem? (ts ++ rest) = some (.plain e, rest) := by
    have hfront := front?_phrase h hstops
    obtain ⟨t, ts, rfl⟩ := List.exists_cons_of_ne_nil h.ne_nil
    have ht := h.inner t List.mem_cons_self
    rw [List.cons_append] at hfront ⊢
    rw [listItem?, hfront]
    · rfl
    · intro more h
      simp only [List.cons.injEq] at h
      rw [h.1] at ht
      cases ht
  have hseries (fuel : Nat) : series? (fuel + 1) (ts ++ rest) = some ([.plain e], false, rest) := by
    rw [series?, hitem]
    simp only [Option.bind_eq_bind, Option.bind_some]
    rfl
  rw [listed?, hseries]
  rfl

end Expr

end ControlSchema.Source
