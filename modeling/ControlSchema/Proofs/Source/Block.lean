import ControlSchema.Source.Line
import Mathlib.Data.List.TakeWhile
import Mathlib.Tactic.Cases

/-!
# Blocks of lines

Blocks that are set with a margin of four for every body are nested again as
they were: the lines of a body begin to the right of its head, and the first
line behind them does not.

Lines cannot be nested when one goes back to a column at which no line before
it begins. The column would have to be that of an enclosing body, and every
body begins with a line at its column.
-/

namespace ControlSchema.Source

namespace Block

/-! ## Setting blocks -/

mutual

/-- The lines of a block that begins at a column. -/
def lines (column : Nat) : Block → List Line
  | .mk tokens body => ⟨column, tokens⟩ :: linesAll (column + 4) body

/-- The lines of blocks that begin at a column. -/
def linesAll (column : Nat) : List Block → List Line
  | [] => []
  | block :: rest => lines column block ++ linesAll column rest

end

theorem linesAll_cons (column : Nat) (tokens : List Token) (body rest : List Block) :
    linesAll column (.mk tokens body :: rest)
      = ⟨column, tokens⟩ :: (linesAll (column + 4) body ++ linesAll column rest) := by
  rw [linesAll, lines, List.cons_append]

theorem linesAll_append (column : Nat) (xs ys : List Block) :
    linesAll column (xs ++ ys) = linesAll column xs ++ linesAll column ys := by
  induction xs with
  | nil => rfl
  | cons block xs ih => rw [List.cons_append, linesAll, linesAll, ih, List.append_assoc]

theorem head?_linesAll {column : Nat} {blocks : List Block} :
    ∀ line ∈ (linesAll column blocks).head?, line.column = column := by
  intro line hline
  cases blocks with
  | nil => cases hline
  | cons block rest =>
    obtain ⟨tokens, body⟩ := block
    rw [linesAll_cons] at hline
    cases hline
    rfl

/-- Columns go by the margins of bodies. -/
theorem column_of_mem_linesAll {column : Nat} {blocks : List Block} {line : Line}
    (h : line ∈ linesAll column blocks) : ∃ k, line.column = column + 4 * k := by
  induction hn : (linesAll column blocks).length using Nat.strongRecOn
    generalizing column blocks with
  | ind n ih =>
    cases blocks with
    | nil => cases h
    | cons block rest =>
      obtain ⟨tokens, body⟩ := block
      rw [linesAll_cons, List.length_cons, List.length_append] at hn
      rw [linesAll_cons, List.mem_cons, List.mem_append] at h
      rcases h with rfl | h | h
      · exact ⟨0, rfl⟩
      · obtain ⟨k, hk⟩ := ih _ (by omega) h rfl
        exact ⟨k + 1, by omega⟩
      · exact ih _ (by omega) h rfl

theorem le_column_of_mem_linesAll {column : Nat} {blocks : List Block} {line : Line}
    (h : line ∈ linesAll column blocks) : column ≤ line.column := by
  obtain ⟨k, hk⟩ := column_of_mem_linesAll h
  omega

/-! ## Nesting lines -/

theorem nest?_nil (column : Nat) : nest? column [] = some [] := by rw [nest?]

theorem nest?_cons (column : Nat) (line : Line) (rest : List Line) :
    nest? column (line :: rest) = if line.column = column then
      (nest? (firstColumn (nested column rest)) (nested column rest)).bind fun body =>
        (nest? column (following column rest)).bind fun more =>
          some (.mk line.tokens body :: more) else none := by
  rw [nest?]
  rfl

/-- Lines of blocks are nested as the blocks are. -/
theorem nest?_linesAll (column : Nat) (blocks : List Block) :
    nest? column (linesAll column blocks) = some blocks := by
  induction hn : (linesAll column blocks).length using Nat.strongRecOn
    generalizing column blocks with
  | ind n ih =>
    cases blocks with
    | nil => exact nest?_nil column
    | cons block rest =>
      obtain ⟨tokens, body⟩ := block
      rw [linesAll_cons, List.length_cons, List.length_append] at hn
      have hinner : ∀ line ∈ linesAll (column + 4) body,
          decide (column < line.column) = true := by
        intro line hline
        have := le_column_of_mem_linesAll hline
        rw [decide_eq_true_eq]
        omega
      have houter : ∀ line ∈ (linesAll column rest).head?,
          ¬ decide (column < line.column) = true := by
        intro line hline
        rw [head?_linesAll line hline, decide_eq_true_eq]
        exact Nat.lt_irrefl column
      have htake : (linesAll column rest).takeWhile (column < ·.column) = [] := by
        cases hrest : linesAll column rest with
        | nil => rfl
        | cons line more => exact List.takeWhile_cons_of_neg (houter line (by rw [hrest]; rfl))
      have hdrop : (linesAll column rest).dropWhile (column < ·.column)
          = linesAll column rest := by
        cases hrest : linesAll column rest with
        | nil => rfl
        | cons line more => exact List.dropWhile_cons_of_neg (houter line (by rw [hrest]; rfl))
      have hnested : nested column (linesAll (column + 4) body ++ linesAll column rest)
          = linesAll (column + 4) body := by
        rw [nested, List.takeWhile_append_of_pos hinner, htake, List.append_nil]
      have hfollowing : following column (linesAll (column + 4) body ++ linesAll column rest)
          = linesAll column rest := by
        rw [following, List.dropWhile_append_of_pos hinner, hdrop]
      have hbody : nest? (firstColumn (linesAll (column + 4) body)) (linesAll (column + 4) body)
          = some body := by
        cases hlines : linesAll (column + 4) body with
        | nil =>
          have := ih _ (by omega) (column + 4) body rfl
          rw [hlines, nest?_nil] at this
          rw [nest?_nil, this]
        | cons line more =>
          have hcolumn : line.column = column + 4 := head?_linesAll line (by rw [hlines]; rfl)
          rw [← hlines, show firstColumn (linesAll (column + 4) body) = column + 4 by
            rw [hlines, ← hcolumn]; rfl]
          exact ih _ (by omega) (column + 4) body rfl
      rw [linesAll_cons, nest?_cons, if_pos rfl, hnested, hfollowing, hbody,
        ih _ (by omega) column rest rfl]
      rfl

/-! ## Lines that fit nowhere -/

/-- A line that goes back to a column of no line before it fits nowhere. -/
theorem nest?_dedent {column : Nat} {front rest : List Line} {x last : Line}
    (hlast : front.getLast? = some last) (hback : x.column < last.column)
    (hfront : ∀ y ∈ front, y.column ≠ x.column) (hcolumn : x.column ≠ column) :
    nest? column (front ++ x :: rest) = none := by
  induction hn : (front ++ x :: rest).length using Nat.strongRecOn
    generalizing column front rest with
  | ind n ih =>
    cases front with
    | nil => cases hlast
    | cons line front =>
      rw [List.cons_append, List.length_cons] at hn
      rw [List.cons_append, nest?_cons]
      by_cases hline : line.column = column
      · suffices hfails : nest? (firstColumn (nested column (front ++ x :: rest)))
            (nested column (front ++ x :: rest)) = none ∨
            nest? column (following column (front ++ x :: rest)) = none by
          rw [if_pos hline]
          rcases hfails with h | h
          · rw [h]
            rfl
          · rw [h]
            cases nest? (firstColumn (nested column (front ++ x :: rest)))
              (nested column (front ++ x :: rest)) <;> rfl
        have hbehind (more : List Line) : nest? column (x :: more) = none := by
          rw [nest?_cons, if_neg hcolumn]
        have hbefore : ∀ y ∈ front, y.column ≠ x.column := fun y hy =>
          hfront y (List.mem_cons_of_mem line hy)
        by_cases hall : ∀ y ∈ front, decide (column < y.column) = true
        · rw [nested, following, List.takeWhile_append_of_pos hall,
            List.dropWhile_append_of_pos hall]
          by_cases hx : column < x.column
          · -- the line goes back within the body
            rw [List.takeWhile_cons_of_pos (by simpa using hx)]
            have hne : front ≠ [] := by
              rintro rfl
              obtain rfl : line = last := by simpa using hlast
              omega
            obtain ⟨first, more, rfl⟩ := List.exists_cons_of_ne_nil hne
            refine Or.inl (ih _ ?_ (by simpa using hlast) hbefore ?_ rfl)
            · have hle := length_nested_le column rest
              rw [nested] at hle
              simp only [← hn, List.length_append, List.length_cons]
              omega
            · exact Ne.symm (hbefore first List.mem_cons_self)
          · rw [List.dropWhile_cons_of_neg (by simpa using hx)]
            exact Or.inr (hbehind rest)
        · -- what stands before the line is cut off at an earlier one
          have hne : front.dropWhile (column < ·.column) ≠ [] := by
            intro h
            exact hall (List.dropWhile_eq_nil_iff.1 h)
          have hdrop : (front ++ x :: rest).dropWhile (column < ·.column)
              = front.dropWhile (column < ·.column) ++ x :: rest := by
            rw [List.dropWhile_append, List.isEmpty_eq_false_iff.2 hne, if_neg Bool.false_ne_true]
          have hsuffix := @List.dropWhile_suffix _ front (column < ·.column)
          obtain ⟨cut, hcut⟩ := hsuffix
          have hgetLast : (front.dropWhile (column < ·.column)).getLast? = some last := by
            have hcons : (line :: cut ++ front.dropWhile (column < ·.column)).getLast?
                = some last := by
              rw [List.cons_append, hcut]
              exact hlast
            obtain ⟨y, hy⟩ := Option.ne_none_iff_exists'.1 (mt List.getLast?_eq_none_iff.1 hne)
            rwa [List.getLast?_append, hy, Option.some_or, ← hy] at hcons
          rw [following, hdrop]
          refine Or.inr (ih _ ?_ hgetLast (fun y hy => hbefore y ?_) hcolumn rfl)
          · have := congrArg List.length hcut
            rw [List.length_append] at this
            rw [← hn, List.length_append, List.length_append]
            omega
          · rw [← hcut]
            exact List.mem_append_right cut hy
      · rw [if_neg hline]

end Block

end ControlSchema.Source
