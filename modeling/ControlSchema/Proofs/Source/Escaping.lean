import ControlSchema.Proofs.Source.Closing

/-!
# What escaped texts stand for

A body stands for a text when every backslash of the text is doubled in it and marks have a
backslash in front of them or not. Such a body is read as that text, and it stays one when both are
cut into lines, when blanks are taken from their ends, and when pieces are put together: escapes
have no breaks and no blanks in them. So the body of a docstring can be followed from the
description to what is read, whatever runs of marks and backslashes it has.

The body is escaped twice at its end. Where that hits a mark that has been escaped with its three,
the backslash of the mark is doubled and read as a character of the text.
-/

namespace ControlSchema.Source

open Text

namespace Docstring

open Literal

/-! ## Bodies and texts -/

/-- The body stands for the text: backslashes are escaped in it, and marks may be. -/
inductive Spells : List Char → List Char → Prop
  | nil : Spells [] []
  | plain {c : Char} {body text : List Char} (hc : c ≠ '\\') (h : Spells body text) :
      Spells (c :: body) (c :: text)
  | escape {c : Char} {body text : List Char} (hc : c = '\\' ∨ c = '"') (h : Spells body text) :
      Spells ('\\' :: c :: body) (c :: text)

section

variable {body text : List Char}

theorem Spells.append {body' text' : List Char} (h : Spells body text)
    (h' : Spells body' text') : Spells (body ++ body') (text ++ text') := by
  induction h with
  | nil => exact h'
  | plain hc _ ih => exact .plain hc ih
  | escape hc _ ih => exact .escape hc ih

theorem spells_self {cs : List Char} (h : '\\' ∉ cs) : Spells cs cs := by
  induction cs with
  | nil => exact .nil
  | cons c cs ih =>
    rw [List.mem_cons, not_or] at h
    exact .plain (Ne.symm h.1) (ih h.2)

theorem Spells.eq_nil_iff (h : Spells body text) : body = [] ↔ text = [] := by
  cases h <;> simp

/-- A body is read as the text that it stands for. -/
theorem Spells.unescapeFrom_eq (h : Spells body text) : unescapeFrom 0 body = some text := by
  induction h with
  | nil => rfl
  | plain hc _ ih => rw [unescapeFrom, if_neg (by simpa using hc), ih, Option.map_some]
  | escape hc _ ih =>
    rw [unescapeFrom, if_pos (by decide)]
    rcases hc with rfl | rfl <;> simp [escape?, simpleEscapes, List.lookup_cons, unescapeFrom, ih]

theorem Spells.unique {text' : List Char} (h : Spells body text) (h' : Spells body text') :
    text = text' := Option.some.inj (h.unescapeFrom_eq.symm.trans h'.unescapeFrom_eq)

theorem spells_escaped (cs : List Char) : Spells (escaped cs) cs := by
  induction cs using escaped.induct with
  | case1 rest ih =>
    rw [escaped]
    exact .escape (.inr rfl) (.escape (.inr rfl) (.escape (.inr rfl) ih))
  | case2 rest ih =>
    rw [escaped]
    exact .escape (.inl rfl) ih
  | case3 c rest hmarks hslash ih =>
    rw [escaped.eq_3 c rest hmarks hslash]
    exact .plain hslash ih
  | case4 => exact .nil

/-! ## Lines and ends -/

theorem isLineBreak_escape {c : Char} (hc : c = '\\' ∨ c = '"') : isLineBreak c = false := by
  rcases hc with rfl | rfl
  · exact not_break_backslash
  · exact not_break_mark

theorem Spells.head?_newline (h : Spells body text) :
    body.head? = some '\n' ↔ text.head? = some '\n' := by
  cases h with
  | nil => exact Iff.rfl
  | plain _ _ => exact Iff.rfl
  | escape hc _ => rcases hc with rfl | rfl <;> exact iff_of_false nofun nofun

/-- The lines of a body stand for the lines of the text. -/
theorem Spells.splitLines (h : Spells body text) :
    List.Forall₂ Spells (splitLines body) (splitLines text) := by
  have hgrow (front : List Char) {c : Char} {lines lines' : List (List Char)}
      (hfront : Spells front [c]) (hlines : List.Forall₂ Spells lines lines') :
      List.Forall₂ Spells ((front ++ lines.headD []) :: lines.tail)
        ((c :: lines'.headD []) :: lines'.tail) := by
    cases hlines with
    | nil => exact .cons (hfront.append .nil) .nil
    | cons hline hlines => exact .cons (hfront.append hline) hlines
  induction h with
  | nil => exact .nil
  | @escape c body text hc _ ih =>
    have hbreak := isLineBreak_escape hc
    rw [splitLines_other not_break_backslash, splitLines_other hbreak, splitLines_other hbreak]
    exact hgrow ['\\', c] (.escape hc .nil) ih
  | @plain c body text hc h ih =>
    by_cases hbreak : isLineBreak c = true
    case neg =>
      have hbreak := Bool.eq_false_iff.2 hbreak
      rw [splitLines_other hbreak, splitLines_other hbreak]
      exact hgrow [c] (.plain hc .nil) ih
    by_cases hpair : c = '\r' ∧ body.head? = some '\n'
    · -- a pair is one break, as the line feed is without the return in front of it
      obtain ⟨rfl, hfeed⟩ := hpair
      obtain ⟨body, rfl⟩ : ∃ more, body = '\n' :: more := List.head?_eq_some_iff.1 hfeed
      obtain ⟨text, rfl⟩ : ∃ more, text = '\n' :: more :=
        List.head?_eq_some_iff.1 (h.head?_newline.1 hfeed)
      have hfeed (rest : List Char) : Text.splitLines ('\n' :: rest) = [] :: Text.splitLines rest :=
        splitLines_break (by decide) rest nofun
      rw [hfeed, hfeed] at ih
      rw [Text.splitLines, Text.splitLines]
      exact ih
    · rw [not_and] at hpair
      rw [splitLines_break hbreak body hpair,
        splitLines_break hbreak text fun hc => mt h.head?_newline.2 (hpair hc)]
      exact .cons .nil ih

/-- What is left of a body without the blanks at its end stands for what is left of the text. -/
theorem Spells.stripEnd (h : Spells body text) : Spells (stripEnd body) (stripEnd text) := by
  induction h with
  | nil => exact .nil
  | @escape c body text hc _ ih =>
    have hblank : isBlank c = false := by rcases hc with rfl | rfl <;> decide
    rw [stripEnd_cons (by decide), stripEnd_cons hblank, stripEnd_cons hblank]
    exact .escape hc ih
  | @plain c body text hc _ ih =>
    by_cases hblank : isBlank c = true
    case neg =>
      have hblank := Bool.eq_false_iff.2 hblank
      rw [stripEnd_cons hblank, stripEnd_cons hblank]
      exact .plain hc ih
    by_cases hnil : Text.stripEnd body = []
    · have hall : ∀ cs, Text.stripEnd cs = [] → Text.stripEnd (c :: cs) = [] := fun cs hcs =>
        stripEnd_eq_nil_iff.2 (List.forall_mem_cons.2 ⟨hblank, stripEnd_eq_nil_iff.1 hcs⟩)
      rw [hall body hnil, hall text (ih.eq_nil_iff.1 hnil)]
      exact .nil
    · have hgrow : ∀ cs, Text.stripEnd cs ≠ [] → Text.stripEnd (c :: cs) = c :: Text.stripEnd cs :=
        fun cs hcs => stripEnd_append_of_ne_nil [c] hcs
      rw [hgrow body hnil, hgrow text (mt ih.eq_nil_iff.2 hnil)]
      exact .plain hc ih

end

/-! ## The end of a body -/

theorem toList_guardEnd_concat (cs : List Char) :
    (guardEnd (String.ofList (cs ++ ['"']))).toList = cs ++ ['\\', '"'] := by
  have htail : "\\\"".toList = ['\\', '"'] := by decide
  rw [guardEnd, String.toList_ofList, List.getLast?_concat, if_pos (by decide),
    List.dropLast_concat, String.toList_append, String.toList_ofList, htail]

theorem guardEnd_of_getLast? {s : String} (h : s.toList.getLast? ≠ some '"') : guardEnd s = s :=
  if_neg (by simpa using h)

theorem escaped_three (n : Nat) : escaped (List.replicate (n + 3) '"')
    = ['\\', '"', '\\', '"', '\\', '"'] ++ escaped (List.replicate n '"') := by
  rw [List.replicate_succ, List.replicate_succ, List.replicate_succ, escaped]
  rfl

/-- The last three of whole threes of marks are escaped as the first three are. -/
theorem escaped_three_of_mod {n : Nat} (h : n % 3 = 0) :
    escaped (List.replicate (n + 3) '"')
      = escaped (List.replicate n '"') ++ ['\\', '"', '\\', '"', '\\', '"'] := by
  induction n using Nat.strongRecOn with
  | ind n ih =>
    match n with
    | 0 => rfl
    | 1 | 2 => cases h
    | n + 3 =>
      rw [escaped_three (n + 3), escaped_three n, List.append_assoc, ← ih n (by omega) (by omega),
        escaped_three n]

/-- A mark that is left of the threes stays as it is. -/
theorem escaped_succ_of_mod {n : Nat} (h : (n + 1) % 3 ≠ 0) :
    escaped (List.replicate (n + 1) '"') = escaped (List.replicate n '"') ++ ['"'] := by
  induction n using Nat.strongRecOn with
  | ind n ih =>
    match n with
    | 0 | 1 => rfl
    | 2 => exact absurd rfl h
    | n + 3 =>
      rw [show n + 3 + 1 = n + 1 + 3 from rfl, escaped_three, escaped_three,
        ih n (by omega) (by omega), List.append_assoc]

/-- Marks stand at the end of the text, and they make up whole threes. -/
def EndsInThrees (text : String) : Prop :=
  marksAtEnd text.toList ≠ 0 ∧ marksAtEnd text.toList % 3 = 0

instance (text : String) : Decidable (EndsInThrees text) := inferInstanceAs (Decidable (_ ∧ _))

/-- The text that the body of a docstring stands for. Where the last mark is escaped twice, it is
the description with a backslash in front of that mark. -/
def recorded (description : String) : String :=
  if EndsInThrees (strip description) then guardEnd (strip description) else strip description

theorem spells_guardEnd (text : String) :
    Spells (guardEnd (String.ofList (escaped text.toList))).toList
      (if EndsInThrees text then guardEnd text else text).toList := by
  obtain ⟨front, htext, hfront⟩ := exists_front_marksAtEnd text.toList
  by_cases hnone : marksAtEnd text.toList = 0
  · have hlast : (String.ofList (escaped text.toList)).toList.getLast? ≠ some '"' := by
      rw [String.toList_ofList, getLast?_escaped]
      exact marksAtEnd_eq_zero_iff.1 hnone
    rw [if_neg fun h => h.1 hnone, guardEnd_of_getLast? hlast, String.toList_ofList]
    exact spells_escaped text.toList
  have hspelt (n : Nat) := (spells_escaped front).append (spells_escaped (List.replicate n '"'))
  by_cases hthree : marksAtEnd text.toList % 3 = 0
  · obtain ⟨n, hn⟩ : ∃ n, marksAtEnd text.toList = n + 3 :=
      ⟨marksAtEnd text.toList - 3, by omega⟩
    have hmarks : text.toList = (front ++ List.replicate n '"' ++ ['"', '"']) ++ ['"'] := by
      rw [htext, hn, List.replicate_add, List.append_assoc, List.append_assoc]
      rfl
    have hescaped : escaped text.toList = (escaped front ++ escaped (List.replicate n '"')
        ++ ['\\', '"', '\\', '"', '\\']) ++ ['"'] := by
      rw [htext, hn, escaped_append hfront, escaped_three_of_mod (by omega), List.append_assoc,
        List.append_assoc]
      rfl
    have htail : Spells ['\\', '"', '\\', '"', '\\', '\\', '"'] ['"', '"', '\\', '"'] :=
      .escape (.inr rfl) (.escape (.inr rfl) (.escape (.inl rfl) (.plain (by decide) .nil)))
    rw [if_pos ⟨hnone, hthree⟩, hescaped, toList_guardEnd_concat,
      ← String.ofList_toList (s := text), hmarks, toList_guardEnd_concat]
    simpa using (hspelt n).append htail
  · obtain ⟨n, hn⟩ := Nat.exists_eq_succ_of_ne_zero hnone
    rw [hn] at htext hthree
    have hescaped : escaped text.toList
        = (escaped front ++ escaped (List.replicate n '"')) ++ ['"'] := by
      rw [htext, escaped_append hfront, escaped_succ_of_mod hthree, List.append_assoc]
    rw [if_neg fun h => hthree (hn ▸ h.2), hescaped, toList_guardEnd_concat, htext,
      List.replicate_succ', ← List.append_assoc]
    exact (hspelt n).append (.escape (.inr rfl) .nil)

theorem spells_body (description : String) :
    Spells (body description).toList (recorded description).toList := by
  rw [body_eq]
  exact spells_guardEnd (strip description)

/-! ## What is read -/

/-- Lines with a line feed in front of them and behind each, and the indent in front of each that is
not empty; the indent stands once more at the end. -/
def framed (indent : String) (many : List String) : String :=
  "\n" ++ String.join (many.map fun line => (if line.isEmpty then "" else indent ++ line) ++ "\n")
    ++ indent

/-- How a docstring has a text: as it is if it has one line, else line by line without the blanks at
their ends. -/
def documented (indent text : String) : String :=
  if lines text = [text] then text else framed indent ((lines text).map stripRight)

/-- The lines between the framing line feeds, without the indent in front of them. -/
def unframed (indent value : String) : List String :=
  (splitOn '\n' value.toList).tail.dropLast.map fun row =>
    String.ofList (row.drop indent.toList.length)

theorem splitOn_rows {rows : List (List Char)} (hrows : ∀ row ∈ rows, '\n' ∉ row)
    {last : List Char} (hlast : '\n' ∉ last) :
    splitOn '\n' ((rows.flatMap fun row => row ++ ['\n']) ++ last) = rows ++ [last] := by
  induction rows with
  | nil => exact splitOn_of_not_mem hlast
  | cons row rows ih =>
    obtain ⟨hrow, hrows⟩ := List.forall_mem_cons.1 hrows
    rw [List.flatMap_cons, List.append_assoc, List.append_assoc, List.singleton_append,
      splitOn_append_cons, splitOn_of_not_mem hrow, ih hrows]
    rfl

theorem lines_eq_singleton_iff {text : String} :
    lines text = [text] ↔ splitLines text.toList = [text.toList] := by
  rw [lines, List.map_eq_singleton_iff]
  constructor
  · rintro ⟨line, hsplit, rfl⟩
    rw [hsplit, String.toList_ofList]
  · exact fun h => ⟨text.toList, h, String.ofList_toList⟩

/-- A body of one line is that line. -/
theorem splitLines_body {description : String} {line : List Char}
    (h : splitLines (body description).toList = [line]) : line = (body description).toList :=
  (eq_of_splitLines_eq_singleton h).resolve_right (not_break_getLastD_body description)

theorem contentsOf_lines {indent : String} {many : List (List Char)} (h : ∀ line, many ≠ [line]) :
    contentsOf indent (many.map String.ofList)
      = '\n' :: (many.flatMap fun line => stripEnd (indent.toList ++ line) ++ ['\n'])
        ++ indent.toList := by
  rw [contentsOf]
  · simp only [List.flatMap_map, stripRight, String.toList_append, String.toList_ofList]
  · intro line hline
    obtain ⟨cs, hcs, -⟩ := List.map_eq_singleton_iff.1 hline
    exact h cs hcs

section

variable {indent : String} (hindent : ∀ c ∈ indent.toList, c = ' ')

include hindent

theorem stripEnd_indented (line : List Char) : stripEnd (indent.toList ++ line)
    = if (stripEnd line).isEmpty then [] else indent.toList ++ stripEnd line := by
  split
  · next hnil =>
    refine stripEnd_eq_nil_iff.2 fun c hc => ?_
    rcases List.mem_append.1 hc with hc | hc
    · rw [hindent c hc]
      rfl
    · exact stripEnd_eq_nil_iff.1 (List.isEmpty_iff.1 hnil) c hc
  · next hsome => exact stripEnd_append_of_ne_nil _ (mt List.isEmpty_iff.2 hsome)

theorem toList_framed (text : String) :
    (framed indent ((lines text).map stripRight)).toList
      = '\n' :: ((splitLines text.toList).flatMap fun line =>
        stripEnd (indent.toList ++ line) ++ ['\n']) ++ indent.toList := by
  have hfeed : "\n".toList = ['\n'] := rfl
  have hline (line : List Char) : ((if (stripRight (String.ofList line)).isEmpty then ""
      else indent ++ stripRight (String.ofList line)) ++ "\n").toList
        = stripEnd (indent.toList ++ line) ++ ['\n'] := by
    rw [String.toList_append, hfeed, stripEnd_indented hindent, stripRight, String.toList_ofList]
    refine congrArg (fun row => row ++ ['\n']) ?_
    by_cases hnil : stripEnd line = []
    · rw [hnil]
      rfl
    · rw [if_neg (mt List.isEmpty_iff.1 hnil),
        if_neg (by simpa [String.isEmpty_iff] using hnil), String.toList_append,
        String.toList_ofList]
  rw [framed, String.toList_append, String.toList_append, String.toList_join, hfeed, lines,
    List.map_map, List.map_map, List.flatMap_map]
  simp only [Function.comp_apply, hline]
  rfl

/-- The lines are found again between the framing line feeds, behind the indent. -/
theorem unframed_framed (text : String) :
    unframed indent (framed indent ((lines text).map stripRight))
      = (lines text).map stripRight := by
  have hspaces : '\n' ∉ indent.toList := fun hmem => absurd (hindent _ hmem) (by decide)
  have hrow : ∀ row ∈ (splitLines text.toList).map fun line => stripEnd (indent.toList ++ line),
      '\n' ∉ row := by
    intro row hrow hmem
    obtain ⟨line, hline, rfl⟩ := List.mem_map.1 hrow
    obtain ⟨blanks, hsplit, -⟩ := stripEnd_append (indent.toList ++ line)
    have hmem : '\n' ∈ indent.toList ++ line := by
      rw [hsplit]
      exact List.mem_append_left _ hmem
    rcases List.mem_append.1 hmem with hmem | hmem
    · exact hspaces hmem
    · cases not_break_of_mem_splitLines line hline _ hmem
  have hdrop (line : List Char) :
      (stripEnd (indent.toList ++ line)).drop indent.toList.length = stripEnd line := by
    rw [stripEnd_indented hindent]
    split
    · next hnil => rw [List.drop_nil, List.isEmpty_iff.1 hnil]
    · exact List.drop_left
  have hfeeds := splitOn_rows hrow hspaces
  rw [List.flatMap_map] at hfeeds
  rw [unframed, toList_framed hindent, List.cons_append, splitOn, if_pos (by decide), hfeeds,
    List.tail_cons, List.dropLast_concat, List.map_map, lines, List.map_map]
  refine List.map_congr_left fun line _ => ?_
  rw [Function.comp_apply, Function.comp_apply, hdrop, stripRight, String.toList_ofList]

/-- A docstring has the lines of its text. -/
theorem documented_lines (text : String) :
    if lines text = [text] then documented indent text = text
    else unframed indent (documented indent text) = (lines text).map stripRight := by
  rw [documented]
  split
  · rfl
  · exact unframed_framed hindent text

theorem spells_spaces : Spells indent.toList indent.toList :=
  spells_self fun hslash => absurd (hindent _ hslash) (by decide)

theorem spells_rows {bodies texts : List (List Char)} (h : List.Forall₂ Spells bodies texts) :
    Spells (bodies.flatMap fun line => stripEnd (indent.toList ++ line) ++ ['\n'])
      (texts.flatMap fun line => stripEnd (indent.toList ++ line) ++ ['\n']) := by
  have hspaces := spells_spaces hindent
  induction h with
  | nil => exact .nil
  | cons hline _ ih =>
    rw [List.flatMap_cons, List.flatMap_cons]
    exact ((hspaces.append hline).stripEnd.append (.plain (by decide) .nil)).append ih

/-- What stands between the marks of a docstring stands for the recorded text as docstrings have
it. -/
theorem spells_contents (description : String) :
    Spells (contents indent description) (documented indent (recorded description)).toList := by
  have hbody := spells_body description
  have hlines := hbody.splitLines
  rw [contents, lines, documented]
  by_cases hone : ∃ line, splitLines (body description).toList = [line]
  · obtain ⟨line, hline⟩ := hone
    rw [splitLines_body hline] at hline
    rw [hline] at hlines ⊢
    obtain ⟨text, rest, hspelt, hrest, hrecorded⟩ := List.forall₂_cons_left_iff.1 hlines
    rw [List.forall₂_nil_left_iff.1 hrest, hspelt.unique hbody] at hrecorded
    rw [if_pos (lines_eq_singleton_iff.2 hrecorded), List.map_singleton, contentsOf,
      String.toList_ofList]
    exact hbody
  · have hseveral : lines (recorded description) ≠ [recorded description] := by
      intro hline
      rw [lines_eq_singleton_iff.1 hline] at hlines
      obtain ⟨line, rest, -, hrest, hsplit⟩ := List.forall₂_cons_right_iff.1 hlines
      rw [List.forall₂_nil_right_iff.1 hrest] at hsplit
      exact hone ⟨line, hsplit⟩
    rw [if_neg hseveral, contentsOf_lines fun line hline => hone ⟨line, hline⟩,
      toList_framed hindent]
    exact (Spells.plain (by decide) (spells_rows hindent hlines)).append (spells_spaces hindent)

theorem value?_literal_eq (description : String) : (literal indent description).value?
    = some (documented indent (recorded description)) := by
  have hraw : (literal indent description).isRaw = false := rfl
  rw [Literal.value?, hraw, if_neg Bool.false_ne_true, literal,
    (spells_contents hindent description).unescapeFrom_eq, Option.map_some, String.ofList_toList]

end

/-! ## What is kept -/

/-- The characters that are no blanks. -/
def solid (cs : List Char) : List Char := cs.filter fun c => !isBlank c

theorem solid_append (a b : List Char) : solid (a ++ b) = solid a ++ solid b :=
  List.filter_append a b

theorem solid_eq_nil {cs : List Char} (h : ∀ c ∈ cs, isBlank c = true) : solid cs = [] := by
  rw [solid, List.filter_eq_nil_iff]
  intro c hc
  rw [h c hc]
  exact Bool.false_ne_true

theorem solid_stripEnd (cs : List Char) : solid (stripEnd cs) = solid cs := by
  obtain ⟨blanks, hsplit, hblanks⟩ := stripEnd_append cs
  conv_rhs => rw [hsplit, solid_append, solid_eq_nil hblanks, List.append_nil]

theorem solid_splitLines (cs : List Char) : (splitLines cs).flatMap solid = solid cs := by
  refine splitLines_induction (P := fun cs => (splitLines cs).flatMap solid = solid cs)
    ?_ ?_ ?_ ?_ cs
  · rfl
  · intro rest ih
    rw [splitLines, List.flatMap_cons, ih]
    rfl
  · intro c rest hc hsplit ih
    rw [hsplit, List.flatMap_cons, ih, ← List.singleton_append, solid_append [c],
      solid_eq_nil (List.forall_mem_singleton.2 (isBlank_of_isLineBreak hc))]
    rfl
  · intro c rest hc ih
    rw [splitLines_other hc, List.flatMap_cons, ← List.singleton_append, solid_append [c],
      ← List.singleton_append (x := c) (l := rest), solid_append [c], List.append_assoc, ← ih]
    cases splitLines rest <;> rfl

/-- A docstring has all characters of its text but blanks, in their order. -/
theorem solid_documented {indent : String} (hindent : ∀ c ∈ indent.toList, c = ' ')
    (text : String) : solid (documented indent text).toList = solid text.toList := by
  have hspaces : solid indent.toList = [] := solid_eq_nil fun c hc => by rw [hindent c hc]; rfl
  have hfeed (cs : List Char) : solid ('\n' :: cs) = solid cs := rfl
  rw [documented]
  split
  · rfl
  · rw [toList_framed hindent, List.cons_append, hfeed, solid_append, hspaces, List.append_nil,
      ← solid_splitLines text.toList]
    induction splitLines text.toList with
    | nil => rfl
    | cons line more ih =>
      rw [List.flatMap_cons, List.flatMap_cons, solid_append, solid_append, solid_stripEnd,
        solid_append, hspaces, ih]
      simp [solid, isBlank]

/-- A text is not recorded as it is if its last mark is escaped twice. -/
theorem documented_recorded_ne {indent description : String}
    (hindent : ∀ c ∈ indent.toList, c = ' ') (h : EndsInThrees (strip description)) :
    documented indent (recorded description) ≠ documented indent (strip description) := by
  intro heq
  have hsolid := congrArg (fun text => (solid text.toList).length) heq
  simp only [solid_documented hindent] at hsolid
  have hlast : (strip description).toList.getLast? = some '"' :=
    not_not.1 (mt marksAtEnd_eq_zero_iff.2 h.1)
  have htext :
      String.ofList ((strip description).toList.dropLast ++ ['"']) = strip description := by
    rw [List.dropLast_append_getLast? _ hlast, String.ofList_toList]
  rw [recorded, if_pos h, ← htext, toList_guardEnd_concat, String.toList_ofList, solid_append,
    solid_append, List.length_append, List.length_append] at hsolid
  exact absurd (Nat.add_left_cancel hsolid) (by decide)

end Docstring

end ControlSchema.Source
