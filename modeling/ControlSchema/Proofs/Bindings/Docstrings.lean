import ControlSchema.Proofs.Bindings.Classes
import ControlSchema.Proofs.Source.Escaping

/-!
# Descriptions in docstrings

The rows of a docstring are read back as one string literal, and the literal stands for the
description: as it is without the blanks around it, if that is one line, and else for its lines
without the blanks at their ends, each behind the indent of the rows. The exception is a description
whose marks at the end make up whole threes. The last of these marks is escaped twice, so it is bare
behind a backslash: on one line it runs into the closing marks, and the rows are no literal; on
several lines the literal stands for a text with one backslash more.
-/

namespace ControlSchema.Source.Docstring

open Text

/-- The rows are one string literal behind the indent and nothing else, and it stands for the
value. -/
def ReadsAs (indent : String) (rows : List String) (value : String) : Prop :=
  ∃ l : Literal, page rows = indent.toList ++ l.spelling ++ ['\n'] ∧
    Literal.front? [] l.spelling = some l ∧ l.value? = some value

/-! ## Rows of a description -/

theorem body_ne_empty {description : String} (h : strip description ≠ "") :
    body description ≠ "" := by
  have hescaped : escaped (strip description).toList ≠ [] := fun hnil =>
    h (String.toList_eq_nil_iff.1 ((spells_escaped _).eq_nil_iff.1 hnil))
  rw [body_eq, guardEnd]
  split
  · intro hnil
    have hlength := congrArg String.length hnil
    simp at hlength
  · exact fun hnil => hescaped (String.ofList_eq_empty_iff.1 hnil)

theorem rows_ne_nil {indent description : String} (h : strip description ≠ "") :
    (rows indent description).isEmpty = false := by
  have hlines : lines (body description) ≠ [] := by
    rw [lines, ne_eq, List.map_eq_nil_iff]
    intro hnil
    exact body_ne_empty h (String.toList_eq_nil_iff.1 (eq_nil_of_splitLines_eq_nil hnil))
  rw [Layout.docRows_eq]
  generalize lines (body description) = many at hlines
  cases many with
  | nil => exact absurd rfl hlines
  | cons first more => cases more <;> rfl

theorem page_rows {indent description : String} (hindent : ∀ c ∈ indent.toList, c = ' ')
    (h : strip description ≠ "") : page (rows indent description)
      = indent.toList ++ (literal indent description).spelling ++ ['\n'] := by
  have hspaces : indent.toList = Row.spaces indent.toList.length :=
    List.eq_replicate_iff.2 ⟨rfl, hindent⟩
  rw [Layout.page_docstring hspaces (rows_ne_nil h), ← hspaces]

theorem lines_eq_iff {description : String} (hsome : strip description ≠ "") :
    lines (strip description) = [strip description] ↔
    ∀ c ∈ (strip description).toList, isLineBreak c = false := by
  rw [lines_eq_singleton_iff, splitLines_eq_singleton_iff]
  exact and_iff_right (mt String.toList_eq_nil_iff.1 hsome)

/-! ## Reading -/

section

variable {indent description : String} (hindent : ∀ c ∈ indent.toList, c = ' ')
  (hsome : strip description ≠ "")

include hindent hsome

theorem readsAs_iff_of_isClosed (hclosed : isClosed description = true) {value : String} :
    ReadsAs indent (rows indent description) value ↔
      value = documented indent (recorded description) := by
  have hfront : Literal.front? [] (literal indent description).spelling
      = some (literal indent description) := by
    have hread := Literal.front?_quiet (quotesAfter?_contents hindent hclosed) []
    rwa [List.append_nil, ← literal] at hread
  have hvalue := value?_literal_eq hindent description
  rw [ReadsAs, page_rows hindent hsome]
  constructor
  · rintro ⟨l, hpage, hread, hl⟩
    have hspelling := List.append_cancel_left (List.append_cancel_right hpage)
    rw [← hspelling] at hread
    rw [← Option.some.inj (hfront.symm.trans hread)] at hl
    exact Option.some.inj (hl.symm.trans hvalue)
  · intro heq
    exact ⟨literal indent description, rfl, hfront, by rw [hvalue, heq]⟩

/-- Behind a docstring that is not closed there is a mark that no literal takes. -/
theorem not_readsAs_of_not_isClosed (hopen : isClosed description = false) (value : String) :
    ¬ ReadsAs indent (rows indent description) value := by
  obtain ⟨front, hcontents, hfront⟩ := contents_of_not_closed hopen indent
  rw [ReadsAs, page_rows hindent hsome]
  rintro ⟨l, hpage, hread, -⟩
  have hspelling := List.append_cancel_left (List.append_cancel_right hpage)
  have hshort : (literal indent description).spelling
      = (Literal.mk [] '"' true front).spelling ++ ['"'] := by
    simp [literal, hcontents, Literal.spelling, Literal.marks]
  rw [← hspelling, hshort, Literal.front?_quiet hfront] at hread
  rw [← Option.some.inj hread] at hspelling
  have hlength := congrArg List.length (hshort.symm.trans hspelling)
  simp at hlength

/-- What the rows of a description are read as. -/
theorem readsAs_iff {value : String} : ReadsAs indent (rows indent description) value ↔
    ¬ (EndsInThrees (strip description) ∧ lines (strip description) = [strip description]) ∧
      value = documented indent (recorded description) := by
  have hopen : isClosed description = false ↔
      EndsInThrees (strip description) ∧ lines (strip description) = [strip description] := by
    rw [isClosed_eq_false_iff, lines_eq_iff hsome, and_comm]
    rfl
  by_cases hclosed : isClosed description = true
  · rw [readsAs_iff_of_isClosed hindent hsome hclosed, ← hopen, hclosed]
    exact (and_iff_right nofun).symm
  · have hclosed := Bool.eq_false_iff.2 hclosed
    exact iff_of_false (not_readsAs_of_not_isClosed hindent hsome hclosed value)
      fun h => h.1 (hopen.1 hclosed)

end

/-- The rows of a description that is not blank are one string literal, unless it has one line and
its marks at the end make up whole threes. The literal stands for the text that is recorded, as
docstrings have it, and that is the description exactly when its marks at the end do not make up
whole threes. Docstrings have a description of one line as it is, and one of several lines line by
line, without blanks at their ends. -/
theorem rows_readsAs_iff {indent description : String} (hindent : ∀ c ∈ indent.toList, c = ' ')
    (hsome : strip description ≠ "") :
    (∀ value, ReadsAs indent (rows indent description) value ↔
      ¬ (EndsInThrees (strip description) ∧ lines (strip description) = [strip description]) ∧
        value = documented indent (recorded description)) ∧
    (ReadsAs indent (rows indent description) (documented indent (strip description)) ↔
      ¬ EndsInThrees (strip description)) ∧
    if lines (strip description) = [strip description] then
      documented indent (strip description) = strip description
    else unframed indent (documented indent (strip description))
      = (lines (strip description)).map stripRight := by
  refine ⟨fun value => readsAs_iff hindent hsome, ?_, documented_lines hindent _⟩
  rw [readsAs_iff hindent hsome]
  constructor
  · rintro ⟨-, heq⟩ hthrees
    exact documented_recorded_ne hindent hthrees heq.symm
  · intro hthrees
    exact ⟨fun h => hthrees h.1, by rw [recorded, if_neg hthrees]⟩

/-- Blanks around it and within, a backslash, three marks and two at the end. -/
def quoting : String := " A \\ in front,\n \n  three \"\"\" \nand \"two\"\"\n"

theorem rows_readsAs_iff_quoting :
    (∀ c ∈ "    ".toList, c = ' ') ∧ strip quoting ≠ "" ∧
    ReadsAs "    " (rows "    " quoting)
      "\n    A \\ in front,\n\n      three \"\"\"\n    and \"two\"\"\n    " := by
  have hindent : ∀ c ∈ "    ".toList, c = ' ' := fun c hc => List.eq_of_mem_replicate (n := 4) hc
  have hsome : strip quoting ≠ "" := by decide
  have hvalue : documented "    " (strip quoting)
      = "\n    A \\ in front,\n\n      three \"\"\"\n    and \"two\"\"\n    " := by decide
  rw [← hvalue]
  exact ⟨hindent, hsome, (rows_readsAs_iff hindent hsome).2.1.2 (by decide)⟩

/-- Three marks at the end of one line leave no literal; at the end of several lines they are read
with a backslash among them. -/
theorem not_readsAs_three :
    (∀ value, ¬ ReadsAs "    " (rows "    " "Say \"\"\"on\"\"\"") value) ∧
    ReadsAs "    " (rows "    " "Say\n\"\"\"on\"\"\"")
      "\n    Say\n    \"\"\"on\"\"\\\"\n    " ∧
    ¬ ReadsAs "    " (rows "    " "Say\n\"\"\"on\"\"\"")
      "\n    Say\n    \"\"\"on\"\"\"\n    " := by
  have hindent : ∀ c ∈ "    ".toList, c = ' ' := fun c hc => List.eq_of_mem_replicate (n := 4) hc
  refine ⟨fun value h => ?_, ?_, fun h => ?_⟩
  · exact ((readsAs_iff hindent (by decide)).1 h).1 (by decide)
  · exact (readsAs_iff hindent (by decide)).2 ⟨by decide, by decide⟩
  · exact absurd ((readsAs_iff hindent (by decide)).1 h).2 (by decide)

end ControlSchema.Source.Docstring
