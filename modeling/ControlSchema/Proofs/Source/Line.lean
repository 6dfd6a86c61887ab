import ControlSchema.Proofs.Source.Lexeme
import ControlSchema.Source.Program

/-!
# Reading rows as lines

Source text is read row by row. `Scans` says what some characters contribute to
the lines of a text, whatever stands behind them: some lines, or nothing that
can be read. It is an equation and not an implication, so the parts of a text
can be put together from the front, and a part that cannot be read spoils the
whole.

A logical line may take up several rows when brackets are open at their ends.
Only the margin of the first row counts.
-/

namespace ControlSchema.Source

open Text

/-! ## Tokens of a line -/

namespace Line

/-- The number of open brackets behind some tokens. -/
def depths? (depth : Nat) (ts : List Token) : Option Nat := ts.foldlM depthAfter? depth

theorem depths?_cons (depth : Nat) (t : Token) (ts : List Token) :
    depths? depth (t :: ts) = (depthAfter? depth t).bind (depths? · ts) := List.foldlM_cons

theorem depths?_append (depth : Nat) (ts us : List Token) :
    depths? depth (ts ++ us) = (depths? depth ts).bind (depths? · us) := List.foldlM_append

@[simp] theorem depths?_word (depth : Nat) (w : String) (ts : List Token) :
    depths? depth (.word w :: ts) = depths? depth ts := rfl

/-- Whether a symbol is no bracket. -/
def isNeutral (s : String) : Bool := !(["(", ")", "[", "]", "\x7b", "\x7d"].contains s)

theorem depths?_neutral {s : String} (hs : isNeutral s = true) (depth : Nat) (ts : List Token) :
    depths? depth (.symbol s :: ts) = depths? depth ts := by
  simp only [isNeutral, List.contains_cons, List.contains_nil, Bool.not_or, Bool.and_eq_true,
    Bool.not_eq_true', beq_eq_false_iff_ne, ne_eq] at hs
  rw [depths?_cons, depthAfter?, isOpening, isClosing]
  simp [hs]

theorem depths?_opening {s : String} (hs : ["(", "[", "\x7b"].contains s = true) {depth : Nat}
    (hdepth : depth < nestingLimit) (ts : List Token) :
    depths? depth (.symbol s :: ts) = depths? (depth + 1) ts := by
  have hopen : isOpening (.symbol s) = true := by
    simpa [isOpening] using hs
  rw [depths?_cons, depthAfter?, if_pos hopen, if_pos hdepth]
  rfl

theorem depths?_closing {s : String} (hs : [")", "]", "\x7d"].contains s = true) (depth : Nat)
    (ts : List Token) : depths? (depth + 1) (.symbol s :: ts) = depths? depth ts := by
  have hopen : isOpening (.symbol s) = false := by
    simp only [List.contains_cons, List.contains_nil, Bool.or_false, Bool.or_eq_true,
      beq_iff_eq] at hs
    rcases hs with rfl | rfl | rfl <;> rfl
  have hclose : isClosing (.symbol s) = true := by
    simpa [isClosing] using hs
  rw [depths?_cons, depthAfter?, hopen, if_neg Bool.false_ne_true, if_pos hclose,
    if_neg (Nat.succ_ne_zero depth)]
  rfl

theorem gather?_tokens (ts : List Token) (depth column : Nat) (tokens : List Token)
    (rest : List Lexeme) : gather? depth column tokens (typesetLexemes ts ++ rest)
      = (depths? depth ts).bind fun d => gather? d column (ts.reverse ++ tokens) rest := by
  induction ts generalizing depth tokens with
  | nil => rfl
  | cons t more ih =>
    have hstep (ls : List Lexeme) : gather? depth column tokens (.token t :: ls)
        = (depthAfter? depth t).bind fun d => gather? d column (t :: tokens) ls := by
      rw [gather?]
      rfl
    cases more with
    | nil =>
      rw [typesetLexemes, List.singleton_append, hstep, depths?_cons]
      cases depthAfter? depth t <;> rfl
    | cons u more =>
      have hblank (d : Nat) : gather? d column (t :: tokens)
          ((if gap t u then [.blanks [' ']] else []) ++ typesetLexemes (u :: more) ++ rest)
          = gather? d column (t :: tokens) (typesetLexemes (u :: more) ++ rest) := by
        split <;> rfl
      rw [typesetLexemes, List.cons_append, List.cons_append, hstep, depths?_cons]
      cases depthAfter? depth t with
      | none => rfl
      | some d =>
        simp only [Option.bind_some]
        rw [hblank, ih]
        simp

end Line

/-! ## Rows -/

/-- A row: its margin, and the tokens on it. -/
structure Row where
  margin : Nat
  tokens : List Token

namespace Row

def spaces (n : Nat) : List Char := List.replicate n ' '

/-- The characters of a row. -/
def characters (r : Row) : List Char := spaces r.margin ++ typeset r.tokens ++ ['\n']

def lexemes (r : Row) : List Lexeme :=
  (if r.margin = 0 then [] else [.blanks (spaces r.margin)]) ++ typesetLexemes r.tokens
    ++ [.lineBreak]

/-- Whether the row is read back as it was set. -/
structure Sound (r : Row) : Prop where
  tokens : ∀ t ∈ r.tokens, t.Sound
  joined : allJoined r.tokens = true
  ne_nil : r.tokens ≠ []

theorem not_return_characters {r : Row} (hr : r.Sound) : '\r' ∉ r.characters := by
  intro h
  rw [characters, List.mem_append, List.mem_append] at h
  rcases h with (h | h) | h
  · cases List.eq_of_mem_replicate h
  · exact not_return_typeset hr.tokens h
  · cases List.mem_singleton.1 h

theorem readFrom_spaces (n : Nat) {rest : List Char}
    (hrest : ∀ c ∈ rest.head?, Lexeme.isSpace c = false) :
    Lexeme.readFrom 0 (spaces n ++ rest) = (Lexeme.readFrom 0 rest).map
      ((if n = 0 then [] else [.blanks (spaces n)]) ++ ·) := by
  by_cases hn : n = 0
  · subst hn
    simp [spaces]
  · have hne : spaces n ≠ [] := by simp [spaces, hn]
    rw [if_neg hn, Lexeme.readFrom_blanks hne (fun c hc => List.eq_of_mem_replicate hc) hrest]
    rfl

theorem readFrom_characters {r : Row} (hr : r.Sound) (rest : List Char) :
    Lexeme.readFrom 0 (r.characters ++ rest) = (Lexeme.readFrom 0 rest).map (r.lexemes ++ ·) := by
  obtain ⟨t, ts, hcons⟩ := List.exists_cons_of_ne_nil hr.ne_nil
  have ht : t.Sound := hr.tokens t (by rw [hcons]; exact List.mem_cons_self)
  have hhead : (typeset r.tokens ++ '\n' :: rest).head? = t.spelling.head? := by
    obtain ⟨c, hc⟩ := Option.ne_none_iff_exists'.1
      (mt List.head?_eq_none_iff.1 ht.spelling_ne_nil)
    rw [hcons, List.head?_append, head?_typeset ht, hc]
    rfl
  rw [characters, List.append_assoc, List.append_assoc, List.singleton_append,
    readFrom_spaces _ (by rw [hhead]; exact ht.head_not_space),
    readFrom_typeset hr.tokens hr.joined, Option.map_map]
  refine congrArg (Option.map · _) (funext fun ls => ?_)
  simp [lexemes]

end Row

/-! ## Logical lines -/

namespace Line

/-- What is left to do behind a row. -/
def goOn? (depth column : Nat) (tokens : List Token) (rest : List Lexeme) :
    Option (List Line) :=
  if depth = 0 then (gather? 0 0 [] rest).map (finished column tokens ++ ·)
  else gather? depth column tokens rest

theorem columnAfter_spaces (column n : Nat) :
    columnAfter column (Row.spaces n) = column + n := by
  induction n generalizing column with
  | zero => rfl
  | succ n ih =>
    rw [Row.spaces, List.replicate_succ, columnAfter, if_neg (by decide), if_neg (by decide)]
    exact (ih (column + 1)).trans (by omega)

theorem gather?_row (r : Row) {depth column : Nat} {tokens : List Token}
    (hcolumn : tokens = [] → column = 0) (rest : List Lexeme) :
    gather? depth column tokens (r.lexemes ++ rest) = (depths? depth r.tokens).bind fun d =>
      goOn? d (if tokens.isEmpty then r.margin else column)
        (r.tokens.reverse ++ tokens) rest := by
  have hmargin (ls : List Lexeme) : gather? depth column tokens
      ((if r.margin = 0 then [] else [.blanks (Row.spaces r.margin)]) ++ ls)
      = gather? depth (if tokens.isEmpty then r.margin else column) tokens ls := by
    by_cases hn : r.margin = 0
    · rw [if_pos hn, hn, List.nil_append]
      cases tokens with
      | nil => rw [hcolumn rfl, ite_self]
      | cons t ts => rfl
    · rw [if_neg hn, List.singleton_append, gather?, columnAfter_spaces, Nat.zero_add]
  have hbreak (d c : Nat) (ts : List Token) : gather? d c ts (.lineBreak :: rest)
      = goOn? d c ts rest := by
    rw [gather?, goOn?]
  rw [Row.lexemes, List.append_assoc, List.append_assoc, hmargin, gather?_tokens]
  simp only [List.singleton_append, hbreak]

/-- Rows behind open brackets, the last of which closes them all. -/
def Closes : Nat → List Row → Prop
  | _, [] => False
  | depth, [r] => depths? depth r.tokens = some 0
  | depth, r :: more => ∃ d, 0 < d ∧ depths? depth r.tokens = some d ∧ Closes d more

theorem Closes.cons {depth d : Nat} {r : Row} {rows : List Row} (hd : 0 < d)
    (hdepths : depths? depth r.tokens = some d) (h : Closes d rows) : Closes depth (r :: rows) := by
  cases rows with
  | nil => exact h.elim
  | cons next more => exact ⟨d, hd, hdepths, h⟩

theorem gather?_rows {depth column : Nat} {tokens : List Token} (htokens : tokens ≠ [])
    {rows : List Row} (hrows : Closes depth rows) (rest : List Lexeme) :
    gather? depth column tokens (rows.flatMap Row.lexemes ++ rest)
      = (gather? 0 0 [] rest).map
        (⟨column, tokens.reverse ++ rows.flatMap Row.tokens⟩ :: ·) := by
  have hempty : tokens.isEmpty = false := List.isEmpty_eq_false_iff.2 htokens
  induction rows generalizing depth tokens with
  | nil => exact hrows.elim
  | cons r more ih =>
    rw [List.flatMap_cons, List.append_assoc,
      gather?_row r (fun h => absurd h htokens), hempty, if_neg Bool.false_ne_true]
    cases more with
    | nil =>
      rw [show depths? depth r.tokens = some 0 from hrows]
      simp [goOn?, finished, htokens]
    | cons next more =>
      obtain ⟨d, hd, hdepths, hcloses⟩ := hrows
      have hne : r.tokens.reverse ++ tokens ≠ [] := by simp [htokens]
      rw [hdepths, Option.bind_some, goOn?, if_neg (Nat.pos_iff_ne_zero.1 hd),
        ih hne hcloses (List.isEmpty_eq_false_iff.2 hne)]
      simp

theorem gather?_logical {rows : List Row} (hne : ∀ r ∈ rows, r.tokens ≠ [])
    (hrows : Closes 0 rows) (rest : List Lexeme) :
    gather? 0 0 [] (rows.flatMap Row.lexemes ++ rest)
      = (gather? 0 0 [] rest).map
        (⟨(rows.head?.map Row.margin).getD 0, rows.flatMap Row.tokens⟩ :: ·) := by
  cases rows with
  | nil => exact hrows.elim
  | cons r more =>
    have htokens := hne r List.mem_cons_self
    rw [List.flatMap_cons, List.append_assoc, gather?_row r fun _ => rfl]
    cases more with
    | nil =>
      rw [show depths? 0 r.tokens = some 0 from hrows]
      simp [goOn?, finished, htokens]
    | cons next more =>
      obtain ⟨d, hd, hdepths, hcloses⟩ := hrows
      have hne : r.tokens.reverse ++ [] ≠ [] := by simp [htokens]
      rw [hdepths, Option.bind_some, goOn?, if_neg (Nat.pos_iff_ne_zero.1 hd),
        gather?_rows hne hcloses]
      simp

end Line

/-! ## Scanning -/

/-- The lines of some characters. -/
def scan (cs : List Char) : Option (List Line) :=
  (Lexeme.read? (unifyFrom cs)).bind (Line.gather? 0 0 [])

/-- What some characters contribute to the lines of every text that begins
with them. -/
def Scans (cs : List Char) (lines : Option (List Line)) : Prop :=
  ∀ rest, scan (cs ++ rest) = lines.bind fun ls => (scan rest).map (ls ++ ·)

namespace Scans

theorem nil : Scans [] (some []) := by
  intro rest
  cases h : scan rest <;> simp [h]

theorem append {a b : List Char} {xs ys : Option (List Line)} (ha : Scans a xs)
    (hb : Scans b ys) : Scans (a ++ b) (xs.bind fun x => ys.map (x ++ ·)) := by
  intro rest
  rw [List.append_assoc, ha, hb]
  cases xs with
  | none => rfl
  | some x =>
    cases ys with
    | none => rfl
    | some y => cases h : scan rest <;> simp

theorem scan_eq {cs : List Char} {lines : Option (List Line)} (h : Scans cs lines) :
    scan cs = lines := by
  have hnil := h []
  have hend : scan [] = some [] := rfl
  rw [List.append_nil, hend] at hnil
  rw [hnil]
  cases lines <;> simp

end Scans

/-- Characters that are read as lexemes, whatever stands behind them. -/
theorem scan_of_readFrom {cs : List Char} (hreturn : '\r' ∉ cs) {lexemes : List Lexeme}
    (h : ∀ rest, Lexeme.readFrom 0 (cs ++ rest) = (Lexeme.readFrom 0 rest).map (lexemes ++ ·))
    (rest : List Char) : scan (cs ++ rest) = (Lexeme.read? (unifyFrom rest)).bind fun ls =>
      Line.gather? 0 0 [] (lexemes ++ ls) := by
  rw [scan, unifyFrom_append hreturn, Lexeme.read?, h, Option.bind_map]
  rfl

theorem scans_logical {rows : List Row} (hsound : ∀ r ∈ rows, r.Sound)
    (hcloses : Line.Closes 0 rows) : Scans (rows.flatMap Row.characters)
      (some [⟨(rows.head?.map Row.margin).getD 0, rows.flatMap Row.tokens⟩]) := by
  intro rest
  have hreturn : '\r' ∉ rows.flatMap Row.characters := by
    intro h
    obtain ⟨r, hr, hmem⟩ := List.mem_flatMap.1 h
    exact Row.not_return_characters (hsound r hr) hmem
  have hread (rest : List Char) : Lexeme.readFrom 0 (rows.flatMap Row.characters ++ rest)
      = (Lexeme.readFrom 0 rest).map (rows.flatMap Row.lexemes ++ ·) := by
    clear hcloses hreturn
    induction rows with
    | nil => simp
    | cons r more ih =>
      rw [List.flatMap_cons, List.append_assoc,
        Row.readFrom_characters (hsound r List.mem_cons_self),
        ih fun x hx => hsound x (List.mem_cons_of_mem r hx), Option.map_map]
      simp [Function.comp_def]
  rw [scan_of_readFrom hreturn hread, Option.bind_some, scan]
  cases Lexeme.read? (unifyFrom rest) with
  | none => rfl
  | some ls =>
    exact Line.gather?_logical (fun r hr => (hsound r hr).ne_nil) hcloses ls

theorem scans_row {r : Row} (hr : r.Sound) (hdepths : Line.depths? 0 r.tokens = some 0) :
    Scans r.characters (some [⟨r.margin, r.tokens⟩]) := by
  have h := @scans_logical [r] (fun x hx => List.mem_singleton.1 hx ▸ hr) hdepths
  simpa using h

/-- Brackets that are nested too deep spoil the text. -/
theorem scans_too_deep {r : Row} (hr : r.Sound) (hdepths : Line.depths? 0 r.tokens = none) :
    Scans r.characters none := by
  intro rest
  rw [scan_of_readFrom (Row.not_return_characters hr) (Row.readFrom_characters hr)]
  cases Lexeme.read? (unifyFrom rest) with
  | none => rfl
  | some ls =>
    rw [Option.bind_some, Line.gather?_row r fun _ => rfl, hdepths]
    rfl

theorem scans_unread {cs : List Char} (hreturn : '\r' ∉ cs)
    (h : ∀ rest, Lexeme.readFrom 0 (cs ++ rest) = none) : Scans cs none := by
  intro rest
  rw [scan, unifyFrom_append hreturn, Lexeme.read?, h]
  rfl

theorem scans_blank : Scans ['\n'] (some []) := by
  intro rest
  have hread (rest : List Char) : Lexeme.readFrom 0 (['\n'] ++ rest)
      = (Lexeme.readFrom 0 rest).map ([.lineBreak] ++ ·) := Lexeme.readFrom_lineBreak rest
  rw [scan_of_readFrom (by decide) hread, Option.bind_some, scan]
  cases Lexeme.read? (unifyFrom rest) with
  | none => rfl
  | some ls =>
    rw [Option.bind_some, List.singleton_append, Line.gather?, if_pos rfl]
    rfl

theorem scans_comment (n : Nat) {cs : List Char} (hbreak : '\n' ∉ cs) (hreturn : '\r' ∉ cs) :
    Scans (Row.spaces n ++ '#' :: cs ++ ['\n']) (some []) := by
  intro rest
  have hreturn : '\r' ∉ Row.spaces n ++ '#' :: cs ++ ['\n'] := by
    simp only [Row.spaces, List.mem_append, List.mem_replicate, List.mem_cons, List.not_mem_nil]
    rintro ((⟨-, h⟩ | h | h) | h | h)
    · cases h
    · cases h
    · exact hreturn h
    · cases h
    · cases h
  have hread (rest : List Char) : Lexeme.readFrom 0 (Row.spaces n ++ '#' :: cs ++ ['\n'] ++ rest)
      = (Lexeme.readFrom 0 rest).map ((if n = 0 then [] else [.blanks (Row.spaces n)])
        ++ [.comment ('#' :: cs), .lineBreak] ++ ·) := by
    have hhead : ∀ c ∈ ('#' :: cs ++ ['\n'] ++ rest).head?, Lexeme.isSpace c = false := by
      rintro c hc
      cases hc
      rfl
    rw [List.append_assoc, List.append_assoc, ← List.append_assoc ('#' :: cs),
      Row.readFrom_spaces n hhead, List.append_assoc, List.singleton_append,
      Lexeme.readFrom_comment hbreak, Lexeme.readFrom_lineBreak, Option.map_map, Option.map_map]
    refine congrArg (Option.map · _) (funext fun ls => ?_)
    simp
  rw [scan_of_readFrom hreturn hread, Option.bind_some, scan]
  cases Lexeme.read? (unifyFrom rest) with
  | none => rfl
  | some ls =>
    simp only [Option.bind_some, List.nil_append]
    split <;> simp [Line.gather?, Line.finished]

/-! ## Lines of an unknown end -/

/-- A line that has begun keeps its column. -/
theorem Line.gather?_column {depth column : Nat} {tokens : List Token} (htokens : tokens ≠ [])
    {ls : List Lexeme} {lines : List Line} (h : gather? depth column tokens ls = some lines) :
    ∃ ts more, lines = ⟨column, ts⟩ :: more := by
  have hfinished : finished column tokens = [⟨column, tokens.reverse⟩] := by
    rw [finished, List.isEmpty_eq_false_iff.2 htokens]
    rfl
  induction ls generalizing depth tokens with
  | nil =>
    rw [gather?, hfinished] at h
    split at h
    · cases h
      exact ⟨_, [], rfl⟩
    · cases h
  | cons l ls ih =>
    cases l with
    | token t =>
      rw [gather?] at h
      obtain ⟨d, -, h⟩ := Option.bind_eq_some_iff.1 h
      exact ih (List.cons_ne_nil t tokens) h (by simp [finished])
    | blanks cs =>
      rw [gather?, List.isEmpty_eq_false_iff.2 htokens, if_neg Bool.false_ne_true] at h
      exact ih htokens h hfinished
    | comment cs =>
      rw [gather?] at h
      exact ih htokens h hfinished
    | lineBreak =>
      rw [gather?, hfinished] at h
      split at h
      · obtain ⟨more, -, rfl⟩ := Option.map_eq_some_iff.1 h
        exact ⟨_, more, rfl⟩
      · exact ih htokens h hfinished
    | joined =>
      cases ls with
      | nil =>
        rw [gather?] at h
        cases h
      | cons l ls =>
        rw [gather?] at h
        · exact ih htokens h hfinished
        · intro h
          cases h

/-- A line that begins with a sign of equality behind a margin has its column. -/
theorem scan_equals {n : Nat} {rest : List Char} {lines : List Line}
    (h : scan (Row.spaces n ++ '=' :: ' ' :: rest) = some lines) :
    ∃ ts more, lines = ⟨n, ts⟩ :: more := by
  have hequals : Token.Sound (.symbol "=") := .symbol (by decide)
  have hreturn : '\r' ∉ Row.spaces n ++ ['=', ' '] := by
    simp [Row.spaces]
  have hsplit : Row.spaces n ++ '=' :: ' ' :: rest = (Row.spaces n ++ ['=', ' ']) ++ rest := by
    simp
  have hread := @readFrom_token (.symbol "=") hequals (' ' :: unifyFrom rest) (by
    rintro c hc
    cases hc
    exact ends_blank hequals)
  have hspelling : Token.spelling (.symbol "=") = ['='] := by decide
  rw [hspelling, List.singleton_append] at hread
  have hhead : ∀ c ∈ ('=' :: ' ' :: unifyFrom rest).head?, Lexeme.isSpace c = false := by
    rintro c hc
    cases hc
    rfl
  rw [hsplit, scan, unifyFrom_append hreturn, List.append_assoc, List.cons_append,
    List.singleton_append, Lexeme.read?, Row.readFrom_spaces n hhead, hread, Option.map_map,
    Option.bind_map] at h
  obtain ⟨ls, -, hgather⟩ := Option.bind_eq_some_iff.1 h
  have hgather : Line.gather? 0 n [.symbol "="] ls = some lines := by
    by_cases hn : n = 0
    · subst hn
      exact hgather
    · simp only [Function.comp_apply, if_neg hn, List.singleton_append] at hgather
      rw [Line.gather?, Line.columnAfter_spaces, Nat.zero_add] at hgather
      exact hgather
  exact Line.gather?_column (List.cons_ne_nil _ _) hgather

end ControlSchema.Source
