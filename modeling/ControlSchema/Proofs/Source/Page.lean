import ControlSchema.Proofs.Source.Block
import ControlSchema.Proofs.Source.Docstring
import ControlSchema.Proofs.Source.Line
import ControlSchema.Proofs.Source.Statement

/-!
# From rows to statements

A page is a list of rows. `Says` joins the two readings, of rows as lines and of
blocks as statements: the rows are the lines of some blocks at a column, and the
blocks mean the statements. Rows that cannot be read say nothing, and neither
does a page with such rows.

The ways of putting rows together follow the ways of writing source: one after
another, and a head in front of its body.
-/

namespace ControlSchema.Source

open Text Statement

/-- The characters of some rows. -/
def page (rows : List String) : List Char := rows.flatMap fun row => row.toList ++ ['\n']

theorem page_append (a b : List String) : page (a ++ b) = page a ++ page b := List.flatMap_append

theorem page_cons (row : String) (rows : List String) :
    page (row :: rows) = row.toList ++ ['\n'] ++ page rows := List.flatMap_cons

/-- What rows at a column say, whatever stands around them. -/
inductive Says (column : Nat) (rows : List String) : Option (List Statement) → Prop
  | blocks {blocks : List Block} {statements : Option (List Statement)}
    (hscans : Scans (page rows) (some (Block.linesAll column blocks)))
    (hmeans : Means blocks statements) : Says column rows statements
  | unread (hscans : Scans (page rows) none) : Says column rows none

namespace Says

variable {column : Nat}

theorem nil : Says column [] (some []) := @blocks column [] [] _ Scans.nil .nil

theorem append {a b : List String} {xs ys : Option (List Statement)} (ha : Says column a xs)
    (hb : Says column b ys) : Says column (a ++ b) (xs.bind fun x => ys.map (x ++ ·)) := by
  cases ha with
  | unread ha =>
    refine .unread ?_
    rw [page_append]
    cases hb with
    | unread hb => exact ha.append hb
    | blocks hb _ => exact ha.append hb
  | blocks ha hxs =>
    cases hb with
    | unread hb =>
      have hnone : (xs.bind fun x => Option.map (x ++ ·) none) = none := by cases xs <;> rfl
      rw [hnone]
      refine .unread ?_
      rw [page_append]
      exact ha.append hb
    | blocks hb hys =>
      refine .blocks ?_ (hxs.append hys)
      rw [page_append, Block.linesAll_append]
      exact ha.append hb

/-- Rows one after another, of which each says something. -/
theorem append_some {a b : List String} {xs ys : List Statement} (ha : Says column a (some xs))
    (hb : Says column b (some ys)) : Says column (a ++ b) (some (xs ++ ys)) := ha.append hb

theorem blank {rows : List String} {ss : Option (List Statement)} (h : Says column rows ss) :
    Says column ("" :: rows) ss := by
  have hpage : page ("" :: rows) = ['\n'] ++ page rows := by rw [page_cons]; rfl
  cases h with
  | unread h => exact .unread (by rw [hpage]; exact scans_blank.append h)
  | blocks h hmeans =>
    refine .blocks ?_ hmeans
    rw [hpage]
    exact scans_blank.append h

/-- Rows of comments say nothing. -/
theorem comments {comments rows : List String} {ss : Option (List Statement)}
    (hcomments : ∀ row ∈ comments, ∃ n cs, row.toList = Row.spaces n ++ '#' :: cs ∧
      '\n' ∉ cs ∧ '\r' ∉ cs) (h : Says column rows ss) :
    Says column (comments ++ rows) ss := by
  have hscans : Scans (page comments) (some []) := by
    induction comments with
    | nil => exact .nil
    | cons row comments ih =>
      obtain ⟨n, cs, hrow, hbreak, hreturn⟩ := hcomments row List.mem_cons_self
      rw [page_cons, hrow]
      exact (scans_comment n hbreak hreturn).append
        (ih fun row hrow => hcomments row (List.mem_cons_of_mem _ hrow))
  cases h with
  | unread h => exact .unread (by rw [page_append]; exact hscans.append h)
  | blocks h hmeans =>
    refine .blocks ?_ hmeans
    rw [page_append]
    exact hscans.append h

theorem page_singleton {row : String} {r : Row}
    (hrow : row.toList = Row.spaces r.margin ++ typeset r.tokens) : page [row] = r.characters := by
  rw [page_cons, hrow, Row.characters]
  exact List.append_nil _

/-- A row with the tokens of a simple statement. -/
theorem row {row : String} {ts : List Token} (hrow : row.toList = Row.spaces column ++ typeset ts)
    (hsound : Row.Sound ⟨column, ts⟩) (hdepths : Line.depths? 0 ts = some 0) (hplain : Plain ts) :
    Says column [row] ((simple? ts).map ([·])) := by
  refine .blocks ?_ (Means.line hplain)
  rw [@page_singleton row ⟨column, ts⟩ hrow]
  exact scans_row hsound hdepths

theorem too_deep {row : String} {ts : List Token}
    (hrow : row.toList = Row.spaces column ++ typeset ts) (hsound : Row.Sound ⟨column, ts⟩)
    (hdepths : Line.depths? 0 ts = none) : Says column [row] none := by
  refine .unread ?_
  rw [@page_singleton row ⟨column, ts⟩ hrow]
  exact scans_too_deep hsound hdepths

/-- Rows that make up one logical line. -/
theorem logical {rows : List String} {rs : List Row} (hrows : page rows = rs.flatMap Row.characters)
    (hmargin : (rs.head?.map Row.margin).getD 0 = column) (hsound : ∀ r ∈ rs, r.Sound)
    (hcloses : Line.Closes 0 rs) (hplain : Plain (rs.flatMap Row.tokens)) :
    Says column rows ((simple? (rs.flatMap Row.tokens)).map ([·])) := by
  refine .blocks ?_ (Means.line hplain)
  have hscans := scans_logical hsound hcloses
  rw [hmargin] at hscans
  rw [hrows]
  exact hscans

theorem ne_nil_of_means {ss : Option (List Statement)} {body : List Block} (hne : ss ≠ some [])
    (h : Means body ss) : body ≠ [] := by
  rintro rfl
  have h1 := h.ofBlocks?_eq
  rw [Means.nil.ofBlocks?_eq] at h1
  cases ss with
  | none => cases h1
  | some ss =>
    simp only [Option.map_some, Option.some.injEq, Tail.mk.injEq, true_and] at h1
    exact hne (by rw [h1])

/-- A head in front of a body that says something. -/
theorem compound {row : String} {ts : List Token} {rows : List String}
    {ss : Option (List Statement)} {build : List Statement → Statement}
    (hrow : row.toList = Row.spaces column ++ typeset ts) (hsound : Row.Sound ⟨column, ts⟩)
    (hdepths : Line.depths? 0 ts = some 0) (hne : ss ≠ some [])
    (hmeans : ∀ body, body ≠ [] → Means body ss → Means [.mk ts body]
      (ss.map fun b => [build b]))
    (hbody : Says (column + 4) rows ss) :
    Says column (row :: rows) (ss.map fun b => [build b]) := by
  have hhead : Scans (page [row]) (some [⟨column, ts⟩]) := by
    rw [@page_singleton row ⟨column, ts⟩ hrow]
    exact scans_row hsound hdepths
  have hpage : page (row :: rows) = page [row] ++ page rows := page_append [row] rows
  cases hbody with
  | unread h => exact .unread (by rw [hpage]; exact hhead.append h)
  | @blocks body _ h hbody =>
    have hlines : Block.linesAll column [.mk ts body]
        = ⟨column, ts⟩ :: Block.linesAll (column + 4) body := by
      rw [Block.linesAll_cons, Block.linesAll, List.append_nil]
    refine .blocks ?_ (hmeans body (ne_nil_of_means hne hbody) hbody)
    rw [hpage, hlines]
    exact hhead.append h

/-- A class with its decorator and a body that says something. -/
theorem decorated {mark header name : String} {ts us : List Token} {rows : List String}
    {decorator : Expr} {items : List Item} {ss : Option (List Statement)}
    (hmark : mark.toList = Row.spaces column ++ typeset (.symbol "@" :: ts))
    (hheader : header.toList = Row.spaces column ++ typeset us)
    (hsounds : Row.Sound ⟨column, .symbol "@" :: ts⟩ ∧ Row.Sound ⟨column, us⟩)
    (hdepths : Line.depths? 0 (.symbol "@" :: ts) = some 0 ∧ Line.depths? 0 us = some 0)
    (hdecorator : Expr.Phrase ts decorator) (hne : ss ≠ some [])
    (hmeans : ∀ body, body ≠ [] → Means body ss → Means [.mk us body]
      (ss.map fun b => [.classDefinition [] name items b]))
    (hbody : Says (column + 4) rows ss) : Says column (mark :: header :: rows)
      (ss.map fun b => [.classDefinition [decorator] name items b]) := by
  have hhead : Scans (page [mark] ++ page [header])
      (some [⟨column, .symbol "@" :: ts⟩, ⟨column, us⟩]) := by
    rw [@page_singleton mark ⟨column, _⟩ hmark, @page_singleton header ⟨column, us⟩ hheader]
    exact (scans_row hsounds.1 hdepths.1).append (scans_row hsounds.2 hdepths.2)
  have hpage : page (mark :: header :: rows) = page [mark] ++ page [header] ++ page rows := by
    rw [← page_append, ← page_append]
    rfl
  cases hbody with
  | unread h => exact .unread (by rw [hpage]; exact hhead.append h)
  | @blocks body _ h hbody =>
    have hlines : Block.linesAll column [.mk (.symbol "@" :: ts) [], .mk us body]
        = [⟨column, .symbol "@" :: ts⟩, ⟨column, us⟩] ++ Block.linesAll (column + 4) body := by
      rw [Block.linesAll_cons, Block.linesAll_cons, Block.linesAll, Block.linesAll, List.append_nil]
      rfl
    refine .blocks ?_ (Means.decorated hdecorator
      (hmeans body (ne_nil_of_means hne hbody) hbody))
    rw [hpage, hlines]
    exact hhead.append h

end Says

/-- A text without null characters is read line by line. -/
theorem read?_eq_scan {text : String} (hnull : '\x00' ∉ text.toList) :
    read? text = (scan text.toList).bind fun lines => (Block.nest? 0 lines).bind fun blocks =>
      (ofBlocks? blocks).bind fun tail =>
        if tail.otherwise.isSome then none else some tail.statements := by
  have hcontains : text.toList.contains '\x00' = false := by
    rw [← Bool.not_eq_true, List.contains_iff_mem]
    exact hnull
  rw [read?, hcontains, if_neg Bool.false_ne_true, unifyBreaks, String.toList_ofList, scan,
    Option.bind_assoc]
  rfl

theorem read?_null {text : String} (hnull : '\x00' ∈ text.toList) : read? text = none := by
  rw [read?, List.contains_iff_mem.2 hnull, if_pos rfl]

/-- A text is read as what its rows say. -/
theorem read?_of_says {text : String} {rows : List String} {ss : Option (List Statement)}
    (htext : text.toList = page rows) (hnull : '\x00' ∉ text.toList) (h : Says 0 rows ss) :
    read? text = ss := by
  rw [read?_eq_scan hnull, htext]
  cases h with
  | unread h =>
    rw [h.scan_eq]
    rfl
  | blocks h hmeans =>
    rw [h.scan_eq, Option.bind_some, Block.nest?_linesAll, Option.bind_some, hmeans.ofBlocks?_eq]
    cases ss <;> rfl

end ControlSchema.Source
