import ControlSchema.Proofs.Text.Ascii
import ControlSchema.Proofs.Text.Blank
import ControlSchema.Proofs.Text.Infix
import Mathlib.Data.List.Chain

/-!
# How C is read

The first phases of translation. A line that ends in a backslash goes on with the
next one; then each comment gives way to a space; and what is left is divided into
the longest tokens, line by line, since directives end with their lines. A comment
of several lines ends at the first mark behind the one that opened it, wherever
that stands, and a text that has no such mark cannot be read.
-/

namespace ControlSchema.Translation

open Text

/-! ## Lines that go on -/

def splice : List Char → List Char
  | [] => []
  | '\\' :: '\n' :: rest => splice rest
  | c :: rest => c :: splice rest

theorem splice_cons {c : Char} {rest : List Char} (h : c = '\\' → rest.head? ≠ some '\n') :
    splice (c :: rest) = c :: splice rest := by
  rw [splice.eq_def]
  split
  · rename_i heq
    cases heq
  · rename_i more heq
    obtain ⟨rfl, rfl⟩ := List.cons.inj heq
    exact absurd rfl (h rfl)
  · rename_i heq
    obtain ⟨rfl, rfl⟩ := List.cons.inj heq
    rfl

theorem splice_cons_of_ne {c : Char} (h : c ≠ '\\') (rest : List Char) :
    splice (c :: rest) = c :: splice rest := splice_cons fun heq => absurd heq h

theorem splice_of_not_mem {cs : List Char} (h : '\\' ∉ cs) : splice cs = cs := by
  induction cs with
  | nil => rfl
  | cons c cs ih =>
    have hc : c ≠ '\\' := fun heq => h (heq ▸ List.mem_cons_self)
    rw [splice_cons_of_ne hc, ih fun hmem => h (List.mem_cons_of_mem c hmem)]

/-- Only a backslash at its end joins a text to what stands behind it. -/
theorem splice_append {front : List Char} (h : ¬ ['\\'] <:+ front) (rest : List Char) :
    splice (front ++ rest) = splice front ++ splice rest := by
  fun_induction splice front with
  | case1 => rfl
  | case2 front ih =>
    have hfront : ¬ ['\\'] <:+ front := fun hlast =>
      h ((hlast.trans (List.suffix_cons _ _)).trans (List.suffix_cons _ _))
    exact ih hfront
  | case3 c front hpair ih =>
    have hfront : ¬ ['\\'] <:+ front := fun hlast => h (hlast.trans (List.suffix_cons _ _))
    have hhead : c = '\\' → (front ++ rest).head? ≠ some '\n' := by
      rintro rfl hhead
      cases front with
      | nil => exact h List.suffix_rfl
      | cons d front =>
        obtain rfl : d = '\n' := Option.some.inj hhead
        exact hpair front rfl rfl
    rw [List.cons_append, splice_cons hhead, ih hfront, List.cons_append]

/-- A space stands behind every line feed. -/
def IsIndented (cs : List Char) : Prop := cs.IsChain fun c d => c = '\n' → d = ' '

theorem isIndented_of_not_mem {cs : List Char} (h : '\n' ∉ cs) : IsIndented cs := by
  induction cs with
  | nil => exact List.IsChain.nil
  | cons c cs ih =>
    exact List.isChain_cons.2 ⟨fun _ _ heq => absurd (heq ▸ List.mem_cons_self) h,
      ih fun hmem => h (List.mem_cons_of_mem c hmem)⟩

section

variable {pattern : List Char} (hspace : ' ' ∉ pattern)
include hspace

theorem prefix_of_prefix_splice {cs : List Char} (hcs : IsIndented cs)
    (h : pattern <+: splice cs) : pattern <+: cs := by
  fun_induction splice cs generalizing pattern with
  | case1 => exact h
  | case2 rest ih =>
    -- The space behind the line feed is all that the pattern could begin with.
    have hnil : pattern = [] := by
      cases rest with
      | nil => exact List.prefix_nil.1 h
      | cons d rest =>
        obtain rfl : d = ' ' := (List.isChain_cons_cons.1 (List.isChain_cons_cons.1 hcs).2).1 rfl
        rw [splice_cons_of_ne (by decide)] at h
        rcases List.prefix_cons_iff.1 h with hnil | ⟨_, rfl, -⟩
        · exact hnil
        · exact absurd List.mem_cons_self hspace
    rw [hnil]
    exact List.nil_prefix
  | case3 c rest _ ih =>
    rcases List.prefix_cons_iff.1 h with rfl | ⟨more, rfl, hmore⟩
    · exact List.nil_prefix
    · have hrest := ih (fun hmem => hspace (List.mem_cons_of_mem c hmem))
        (List.isChain_cons.1 hcs).2 hmore
      exact List.prefix_cons_iff.2 (Or.inr ⟨more, rfl, hrest⟩)

/-- Joined lines hold nothing new, as they begin with a space. -/
theorem infix_of_infix_splice {cs : List Char} (hcs : IsIndented cs)
    (h : pattern <:+: splice cs) : pattern <:+: cs := by
  have hfront := prefix_of_prefix_splice hspace hcs
  fun_induction splice cs with
  | case1 => exact h
  | case2 rest ih =>
    have hrest := (List.isChain_cons.1 (List.isChain_cons.1 hcs).2).2
    exact (ih hrest h (prefix_of_prefix_splice hspace hrest)).trans
      ⟨['\\', '\n'], [], List.append_nil _⟩
  | case3 c rest _ ih =>
    have hrest := (List.isChain_cons.1 hcs).2
    rcases List.infix_cons_iff.1 h with h | h
    · exact (hfront h).isInfix
    · exact (ih hrest h (prefix_of_prefix_splice hspace hrest)).trans
        (List.suffix_cons c rest).isInfix

end

/-! ## Comments -/

/-- Where a reader is, with what it read of a comment so far. -/
inductive Place where
  | code
  | block (seen : List Char)
  | line (seen : List Char)
  | quoted (mark : Char)

structure Reading where
  /-- The text with a space for every comment. -/
  code : List Char
  /-- What stands in the comments, their marks left out. -/
  comments : List (List Char)
deriving DecidableEq

def Reading.behind (code : List Char) (comments : List (List Char)) (r : Reading) : Reading :=
  ⟨code ++ r.code, comments ++ r.comments⟩

theorem Reading.behind_behind (code code' : List Char) (comments comments' : List (List Char)) :
    behind code comments ∘ behind code' comments'
      = behind (code ++ code') (comments ++ comments') := by
  funext r
  simp only [Function.comp_apply, behind, List.append_assoc]

def isQuote (c : Char) : Bool := c == '"' || c == '\''

/-- The mark that ends a comment of several lines. -/
def closing : List Char := ['*', '/']

/-- Code and comments of a text, if no comment is left open. -/
def read : Place → List Char → Option Reading
  | .code, [] => some ⟨[], []⟩
  | .code, '/' :: '*' :: rest => read (.block []) rest
  | .code, '/' :: '/' :: rest => read (.line []) rest
  | .code, c :: rest =>
    (read (if isQuote c then .quoted c else .code) rest).map (.behind [c] [])
  | .block _, [] => none
  | .block seen, '*' :: '/' :: rest => (read .code rest).map (.behind [' '] [seen])
  | .block seen, c :: rest => read (.block (seen ++ [c])) rest
  | .line seen, [] => some ⟨[' '], [seen]⟩
  | .line seen, c :: rest =>
    if c == '\n' then (read .code rest).map (.behind [' ', '\n'] [seen])
    else read (.line (seen ++ [c])) rest
  | .quoted _, [] => some ⟨[], []⟩
  | .quoted mark, '\\' :: c :: rest => (read (.quoted mark) rest).map (.behind ['\\', c] [])
  | .quoted mark, c :: rest =>
    (read (if c == mark || c == '\n' then .code else .quoted mark) rest).map (.behind [c] [])

/-- A character that neither opens a comment or a quotation nor continues a line. -/
def isCode (c : Char) : Bool := c != '/' && c != '\\' && !isQuote c

theorem read_cons {c : Char} (hc : isCode c = true) (rest : List Char) :
    read .code (c :: rest) = (read .code rest).map (.behind [c] []) := by
  simp only [isCode, Bool.and_eq_true, bne_iff_ne, Bool.not_eq_true'] at hc
  obtain ⟨⟨hslash, -⟩, hquote⟩ := hc
  rw [read.eq_4 c rest (fun _ heq => absurd heq hslash) (fun _ heq => absurd heq hslash),
    hquote, if_neg Bool.false_ne_true]

theorem read_append {cs : List Char} (hcs : ∀ c ∈ cs, isCode c = true) (rest : List Char) :
    read .code (cs ++ rest) = (read .code rest).map (.behind cs []) := by
  induction cs with
  | nil => exact Option.map_id'.symm
  | cons c cs ih =>
    rw [List.cons_append, read_cons (hcs c List.mem_cons_self),
      ih fun d hd => hcs d (List.mem_cons_of_mem c hd), Option.map_map, Reading.behind_behind]
    rfl

theorem read_block_cons {c : Char} {rest : List Char} (h : c = '*' → rest.head? ≠ some '/')
    (seen : List Char) : read (.block seen) (c :: rest) = read (.block (seen ++ [c])) rest := by
  refine read.eq_7 seen c rest fun more heq hrest => ?_
  rw [hrest] at h
  exact h heq rfl

/-- A comment that has no closing mark in it ends where it was closed. -/
theorem read_block {body : List Char} (h : ¬ closing <:+: body) (seen rest : List Char) :
    read (.block seen) (body ++ '*' :: '/' :: rest)
      = (read .code rest).map (.behind [' '] [seen ++ body]) := by
  induction body generalizing seen with
  | nil =>
    rw [List.append_nil]
    rfl
  | cons c body ih =>
    have hbody : ¬ closing <:+: body := fun hmark =>
      h (hmark.trans (List.suffix_cons c body).isInfix)
    have hhead : c = '*' → (body ++ '*' :: '/' :: rest).head? ≠ some '/' := by
      rintro rfl hhead
      cases body with
      | nil => exact absurd (Option.some.inj hhead) (by decide)
      | cons d body =>
        obtain rfl : d = '/' := Option.some.inj hhead
        exact h ⟨[], body, rfl⟩
    rw [List.cons_append, read_block_cons hhead, ih hbody, List.append_assoc]
    rfl

/-! ## Comments of texts with lines that go on -/

theorem read_splice_append {cs : List Char} (hcs : ∀ c ∈ cs, isCode c = true) (rest : List Char) :
    read .code (splice (cs ++ rest)) = (read .code (splice rest)).map (.behind cs []) := by
  have hslash : '\\' ∉ cs := fun hmem => by cases hcs _ hmem
  have hlast : ¬ ['\\'] <:+ cs := fun h => hslash (h.subset (List.mem_singleton_self _))
  rw [splice_append hlast, splice_of_not_mem hslash, read_append hcs]

theorem read_splice_block {body : List Char} (hlast : ¬ ['\\'] <:+ body)
    (hbody : ¬ closing <:+: splice body) (rest : List Char) :
    read .code (splice ('/' :: '*' :: (body ++ (closing ++ rest))))
      = (read .code (splice rest)).map (.behind [' '] [splice body]) := by
  have hclosing : splice (closing ++ rest) = '*' :: '/' :: splice rest :=
    @splice_append closing (by decide) rest
  have hopening : splice ('/' :: '*' :: (body ++ (closing ++ rest)))
      = '/' :: '*' :: (splice body ++ '*' :: '/' :: splice rest) := by
    rw [splice_cons_of_ne (by decide), splice_cons_of_ne (by decide), splice_append hlast, hclosing]
  rw [hopening]
  exact read_block hbody [] (splice rest)

/-! ## Tokens -/

/-- The marks of more than one character, longer ones first. -/
def longMarks : List String := [
  "%:%:", "...", "<<=", ">>=", "->", "++", "--", "<<", ">>", "<=", ">=", "==", "!=", "&&", "||",
  "*=", "/=", "%=", "+=", "-=", "&=", "^=", "|=", "##", "<:", ":>", "<%", "%>", "%:"]

/-- A sign belongs to a number behind the letter of an exponent. -/
def numberLength (previous : Char) : List Char → Nat
  | [] => 0
  | c :: rest =>
    let isExponentSign := (c == '+' || c == '-') && ['e', 'E', 'p', 'P'].contains previous
    if isWordChar c || c == '.' || isExponentSign then 1 + numberLength c rest else 0

def quotedLength (mark : Char) : List Char → Nat
  | [] => 0
  | '\\' :: _ :: rest => 2 + quotedLength mark rest
  | c :: rest => if c == mark then 1 else 1 + quotedLength mark rest

/-- The length of the longest token that begins with a character. -/
def tokenLength (c : Char) (rest : List Char) : Nat :=
  if c.isDigit || (c == '.' && rest.head?.any Char.isDigit) then 1 + numberLength c rest
  else if isWordChar c then 1 + (rest.takeWhile isWordChar).length
  else if isQuote c then 1 + quotedLength c rest
  else match longMarks.find? fun mark => mark.toList.isPrefixOf (c :: rest) with
    | some mark => mark.toList.length
    | none => 1

def isSpace (c : Char) : Bool := c == ' ' || (0x9 ≤ c.toNat && c.toNat ≤ 0xd)

/-- The tokens of a line, the rest of one that was read already being skipped. -/
def tokensFrom : Nat → List Char → List String
  | _, [] => []
  | skip + 1, _ :: rest => tokensFrom skip rest
  | 0, c :: rest =>
    if isSpace c then tokensFrom 0 rest
    else
      let length := tokenLength c rest
      String.ofList ((c :: rest).take length) :: tokensFrom (length - 1) rest

/-- The tokens of each line that has any. -/
def lineTokens (code : List Char) : List (List String) :=
  ((splitOn '\n' code).map (tokensFrom 0)).filter (!·.isEmpty)

theorem lineTokens_append (front rest : List Char) :
    lineTokens (front ++ '\n' :: rest) = lineTokens front ++ lineTokens rest := by
  rw [lineTokens, splitOn_append_cons, List.map_append, List.filter_append]
  rfl

theorem tokensFrom_spaces {cs : List Char} (h : ∀ c ∈ cs, c = ' ') : tokensFrom 0 cs = [] := by
  induction cs with
  | nil => rfl
  | cons c cs ih =>
    obtain rfl := h c List.mem_cons_self
    exact ih fun d hd => h d (List.mem_cons_of_mem _ hd)

theorem lineTokens_spaces {cs : List Char} (h : ∀ c ∈ cs, c = ' ') : lineTokens cs = [] := by
  have hfeed : '\n' ∉ cs := fun hmem => absurd (h _ hmem) (by decide)
  rw [lineTokens, splitOn_of_not_mem hfeed, List.map_singleton, tokensFrom_spaces h]
  rfl

/-! ## Whole texts -/

/-- The tokens outside of comments, line by line. -/
def tokens (text : String) : Option (List (List String)) :=
  (read .code (splice text.toList)).map fun r => lineTokens r.code

/-- What stands in the comments, once lines that go on are joined. -/
def comments (text : String) : Option (List (List Char)) :=
  (read .code (splice text.toList)).map (·.comments)

example : tokens "#define A 0x1p+3 // one\nint /* \\\n */ b <<= A;"
    = some [["#", "define", "A", "0x1p+3"], ["int", "b", "<<=", "A", ";"]] := by decide +kernel

end ControlSchema.Translation
