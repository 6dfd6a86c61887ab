import ControlSchema.Proofs.Source.Expression
import ControlSchema.Source.Program

/-!
# Statements of blocks

`Means` says what some blocks contribute to the statements of a program: some
statements in front of those of the blocks behind them, or nothing that can be
read. Blocks are read from the last to the first, so the equation is about all
blocks that can follow and leave no alternative without its branch.
-/

namespace ControlSchema.Source

namespace Statement

open Source.Expr

/-! ## Simple statements -/

theorem parts_eq {ts : List Token} (hne : ts ≠ []) (h : ∀ t ∈ ts, t ≠ .symbol ";") :
    parts ts = [ts] := by
  induction ts with
  | nil => exact absurd rfl hne
  | cons t ts ih =>
    have ht := h t List.mem_cons_self
    cases ts with
    | nil =>
      rw [parts]
      · rfl
      · exact ht
    | cons u ts =>
      rw [parts, ih (List.cons_ne_nil u ts) fun v hv => h v (List.mem_cons_of_mem t hv)]
      exact ht

/-- Tokens that are no head. -/
structure Plain (ts : List Token) : Prop where
  ne_nil : ts ≠ []
  inner : ∀ t ∈ ts, t ≠ .symbol ";"
  not_head : head? ts = none

theorem Plain.simples? {ts : List Token} (h : Plain ts) :
    simples? ts = (simple? ts).map ([·]) := by
  rw [Statement.simples?, parts_eq h.ne_nil h.inner]
  cases hs : simple? ts <;> simp [List.mapM_cons, hs]

theorem ne_of_not_keyword {w v : String} (hw : Naming.isKeyword w = false)
    (hv : Naming.isKeyword v = true) : w ≠ v := by
  rintro rfl
  rw [hw] at hv
  cases hv

theorem head?_word {w : String} (hw : Naming.isKeyword w = false) (rest : List Token) :
    head? (.word w :: rest) = none := by
  have h (v : String) (hv : Naming.isKeyword v = true) := ne_of_not_keyword hw hv
  rw [head?.eq_def]
  split <;> rename_i heq <;> simp only [List.cons.injEq, Token.word.injEq] at heq
  · exact absurd heq.1 (h _ rfl)
  · exact absurd heq.1 (h _ rfl)
  · exact absurd heq.1 (h _ rfl)
  · exact absurd heq.1 (h _ rfl)
  · exact absurd heq.1 (h _ rfl)
  · exact absurd heq.1 (h _ rfl)
  · cases heq.1
  · rfl

theorem simple?_word {w : String} (hw : Naming.isKeyword w = false) (rest : List Token) :
    simple? (.word w :: rest) = unmarked? (.word w :: rest) := by
  have h (v : String) (hv : Naming.isKeyword v = true) := ne_of_not_keyword hw hv
  rw [simple?.eq_def]
  split <;> first
    | rfl
    | (rename_i heq
       simp only [List.cons.injEq, Token.word.injEq] at heq
       exact absurd heq.1 (h _ rfl))

theorem listed?_whole {ts : List Token} {e : Expr} (h : Phrase ts e) :
    listed? ts = some (e, []) := by
  have := @listed?_phrase ts [] e h rfl (by simp)
  rwa [List.append_nil] at this

theorem unmarked?_expression {ts : List Token} {e : Expr} (h : Phrase ts e) :
    unmarked? ts = some (.expression e) := by
  rw [unmarked?, listed?_whole h]
  rfl

theorem listed?_name {w : String} (hw : Naming.isKeyword w = false) {rest : List Token}
    (hstops : stops rest = true) (hcomma : ∀ more, rest ≠ .symbol "," :: more) :
    listed? (.word w :: rest) = some (.name w, rest) :=
  listed?_phrase (Primary.name hw).phrase hstops hcomma

theorem unmarked?_assignment {w : String} (hw : Naming.isKeyword w = false) {ts : List Token}
    {e : Expr} (h : Phrase ts e) :
    unmarked? (.word w :: .symbol "=" :: ts) = some (.assignment [.name w] e) := by
  obtain ⟨n, hn⟩ : ∃ n, ts.length = n + 1 :=
    ⟨ts.length - 1, by have := List.length_pos_iff.2 h.ne_nil; omega⟩
  have hequated : equated? ts.length ts = some [e] := by
    rw [hn, equated?, listed?_whole h]
    rfl
  rw [unmarked?, listed?_name hw rfl (by simp)]
  simp only [Option.bind_eq_bind, Option.bind_some, hequated]
  rfl

theorem unmarked?_annotated {w : String} (hw : Naming.isKeyword w = false) {hs : List Token}
    {hint : Expr} (h : Phrase hs hint) :
    unmarked? (.word w :: .symbol ":" :: hs) = some (.annotated (.name w) hint none) := by
  have hfront := @front?_phrase hs [] hint h rfl
  rw [List.append_nil] at hfront
  rw [unmarked?, listed?_name hw rfl (by simp)]
  simp only [Option.bind_eq_bind, Option.bind_some, isPlace, hfront]
  rfl

theorem unmarked?_annotated_value {w : String} (hw : Naming.isKeyword w = false)
    {hs vs : List Token} {hint value : Expr} (h : Phrase hs hint) (hv : Phrase vs value) :
    unmarked? (.word w :: .symbol ":" :: hs ++ .symbol "=" :: vs)
      = some (.annotated (.name w) hint (some value)) := by
  have hwhole : whole? vs = some value := by
    rw [whole?, listed?_whole hv]
  rw [List.cons_append, List.cons_append, unmarked?, listed?_name hw rfl (by simp)]
  simp only [Option.bind_eq_bind, Option.bind_some, isPlace,
    @front?_phrase hs (.symbol "=" :: vs) hint h rfl, hwhole]
  rfl

theorem unmarked?_bad_hint {w : String} (hw : Naming.isKeyword w = false) {hs : List Token}
    (h : ∀ fuel, Expr.read? fuel hs = none) :
    unmarked? (.word w :: .symbol ":" :: hs) = none := by
  rw [unmarked?, listed?_name hw rfl (by simp)]
  simp only [Option.bind_eq_bind, Option.bind_some, isPlace, front?, h]
  rfl

/-! ## What blocks mean -/

/-- Blocks behind which no alternative waits for its branch. -/
def Clean (blocks : List Block) : Prop :=
  ∀ tail, ofBlocks? blocks = some tail → tail.otherwise = none

/-- What some blocks contribute to the statements of a program. -/
def Means (blocks : List Block) (statements : Option (List Statement)) : Prop :=
  ∀ rest, Clean rest → ofBlocks? (blocks ++ rest) = (ofBlocks? rest).bind fun tail =>
    statements.map fun ss => ⟨none, ss ++ tail.statements⟩

namespace Means

theorem nil : Means [] (some []) := by
  intro rest hrest
  cases h : ofBlocks? rest with
  | none => simpa using h
  | some tail =>
    have hnone := hrest tail h
    obtain ⟨otherwise, statements⟩ := tail
    subst hnone
    simpa using h

theorem clean {blocks rest : List Block} {statements : Option (List Statement)}
    (h : Means blocks statements) (hrest : Clean rest) : Clean (blocks ++ rest) := by
  intro tail htail
  rw [h rest hrest] at htail
  obtain ⟨last, -, htail⟩ := Option.bind_eq_some_iff.1 htail
  obtain ⟨ss, -, rfl⟩ := Option.map_eq_some_iff.1 htail
  rfl

theorem append {a b : List Block} {xs ys : Option (List Statement)} (ha : Means a xs)
    (hb : Means b ys) : Means (a ++ b) (xs.bind fun x => ys.map (x ++ ·)) := by
  intro rest hrest
  rw [List.append_assoc, ha _ (hb.clean hrest), hb rest hrest]
  cases ofBlocks? rest with
  | none => rfl
  | some tail =>
    cases ys with
    | none => cases xs <;> rfl
    | some y => cases xs <;> simp

theorem clean_nil : Clean [] := by
  intro tail htail
  rw [ofBlocks?] at htail
  cases htail
  rfl

theorem ofBlocks?_eq {blocks : List Block} {statements : Option (List Statement)}
    (h : Means blocks statements) :
    ofBlocks? blocks = statements.map fun ss => ⟨none, ss⟩ := by
  have := h [] clean_nil
  rw [List.append_nil] at this
  rw [this, ofBlocks?]
  simp

/-- A block whose meaning does not depend on what follows it. -/
theorem of_block {block : Block} {statements : Option (List Statement)}
    (h : ∀ ss, ofBlock? block ⟨none, ss⟩ = statements.map fun xs => ⟨none, xs ++ ss⟩) :
    Means [block] statements := by
  intro rest hrest
  rw [List.singleton_append, ofBlocks?]
  cases htail : ofBlocks? rest with
  | none => rfl
  | some tail =>
    have hnone := hrest tail htail
    obtain ⟨otherwise, ss⟩ := tail
    subst hnone
    exact h ss

theorem line {ts : List Token} (h : Plain ts) :
    Means [.mk ts []] ((simple? ts).map ([·])) := by
  refine of_block fun ss => ?_
  rw [ofBlock?, h.not_head, h.simples?]
  cases simple? ts <;> rfl

theorem compound {ts : List Token} {head : Head} {body : List Block}
    {statements : Option (List Statement)} {build : List Statement → Statement}
    (hhead : head? ts = some (head, [])) (hdecorator : isDecorator head = false)
    (hextend : ∀ b ss, extend? head b ⟨none, ss⟩ = some ⟨none, build b :: ss⟩)
    (hne : body ≠ []) (hbody : Means body statements) :
    Means [.mk ts body] (statements.map fun b => [build b]) := by
  refine of_block fun ss => ?_
  rw [ofBlock?, hhead]
  simp only [hdecorator, List.isEmpty_nil, List.isEmpty_eq_false_iff.2 hne, Bool.false_eq_true,
    if_false, if_true, hbody.ofBlocks?_eq]
  cases statements with
  | none => rfl
  | some b =>
    simp only [Option.map_some, Option.bind_eq_bind, Option.bind_some, Option.isSome_none,
      Bool.false_eq_true, if_false, hextend]
    rfl

theorem branch {ts : List Token} {test : Expr} (htest : Phrase ts test) {body : List Block}
    {statements : Option (List Statement)} (hne : body ≠ []) (hbody : Means body statements) :
    Means [.mk (.word "if" :: ts ++ [.symbol ":"]) body]
      (statements.map fun b => [.branch test b []]) := by
  refine @compound _ (.conditional test) _ _ (fun b => .branch test b []) ?_ rfl
    (fun _ _ => rfl) hne hbody
  rw [List.cons_append, head?, front?_phrase htest (by rfl)]
  rfl

theorem head?_class {name : String} (hname : Naming.isKeyword name = false) {us : List Token}
    {items : List Item} {comma : Bool} (hs : Items us items comma)
    (harguments : (items.all Item.isArgument && Item.inOrder items) = true) :
    head? (.word "class" :: .word name :: .symbol "(" :: us ++ [.symbol ")", .symbol ":"])
      = some (.classDefinition name items, []) := by
  have hplain : plainName? name = some name := by
    rw [plainName?, hname, if_neg Bool.false_ne_true]
  rw [List.cons_append, List.cons_append, List.cons_append, head?, hplain,
    hs.reads ")" (by simp) _ [.symbol ":"] (by simp; omega)]
  simp only [Option.bind_eq_bind, Option.bind_some, harguments, if_true]
  rfl

theorem classDefinition {name : String} (hname : Naming.isKeyword name = false)
    {us : List Token} {items : List Item} {comma : Bool} (hs : Items us items comma)
    (harguments : (items.all Item.isArgument && Item.inOrder items) = true)
    {body : List Block} {statements : Option (List Statement)} (hne : body ≠ [])
    (hbody : Means body statements) :
    Means
      [.mk (.word "class" :: .word name :: .symbol "(" :: us ++ [.symbol ")", .symbol ":"]) body]
      (statements.map fun b => [.classDefinition [] name items b]) :=
  compound (head?_class hname hs harguments) rfl (fun _ _ => rfl) hne hbody

theorem decorated {ts : List Token} {decorator : Expr} (h : Phrase ts decorator) {block : Block}
    {name : String} {items : List Item} {statements : Option (List Statement)}
    (hblock : Means [block] (statements.map fun b => [.classDefinition [] name items b])) :
    Means [.mk (.symbol "@" :: ts) [], block]
      (statements.map fun b => [.classDefinition [decorator] name items b]) := by
  intro rest hrest
  have hsingle : single? ts = some decorator := by
    have hfront := @front?_phrase ts [] decorator h rfl
    rw [List.append_nil] at hfront
    rw [single?, hfront]
  have hhead : head? (.symbol "@" :: ts) = some (.decorator decorator, []) := by
    rw [head?, hsingle]
    rfl
  have htail := hblock rest hrest
  rw [List.singleton_append] at htail
  rw [List.cons_append, List.singleton_append, ofBlocks?, htail]
  cases ofBlocks? rest with
  | none => rfl
  | some tail =>
    cases statements with
    | none => rfl
    | some b =>
      simp only [Option.map_some, Option.bind_eq_bind, Option.bind_some]
      rw [ofBlock?, hhead]
      rfl

end Means

end Statement

end ControlSchema.Source
