import ControlSchema.Proofs.Number.Digits
import ControlSchema.Proofs.Source.Line

/-!
# Setting phrases

A phrase is set between brackets, commas and the ends of a row. What has to be
known of its neighbours is the same in each of these places, so phrases can be
put together from their parts: the tokens stay sound and told apart, their
characters follow each other, and the brackets nest.
-/

namespace ControlSchema.Source

open Number

/-! ## Neighbours -/

/-- Whether a phrase may end in the token. -/
def endsPhrase : Token → Bool
  | .symbol s => [")", "]", "\x7d", "..."].contains s
  | _ => true

/-- Whether a symbol stands directly behind a phrase. -/
def isBehind (s : String) : Bool := [",", ":", ")", "]", "\x7d", "(", "["].contains s

theorem gap_behind {t : Token} (ht : endsPhrase t = true) {s : String} (hs : isBehind s = true) :
    gap t (.symbol s) = false := by
  simp only [isBehind, List.contains_cons, List.contains_nil, Bool.or_false, Bool.or_eq_true,
    beq_iff_eq] at hs
  cases t with
  | symbol r =>
    simp only [endsPhrase, List.contains_cons, List.contains_nil, Bool.or_false, Bool.or_eq_true,
      beq_iff_eq] at ht
    rcases ht with rfl | rfl | rfl | rfl <;>
      rcases hs with rfl | rfl | rfl | rfl | rfl | rfl | rfl <;> rfl
  | _ => rcases hs with rfl | rfl | rfl | rfl | rfl | rfl | rfl <;> rfl

/-- A blank stands behind some symbols. -/
theorem gap_spaced {s : String} (hs : [",", ":", "=", "->"].contains s = true) (t : Token) :
    gap (.symbol s) t = true := by
  cases t <;> simp only [gap, hs, Bool.true_or]

theorem joins_behind {t : Token} (ht : endsPhrase t = true) {s : String}
    (hs : isBehind s = true) : joins t (.symbol s) = true := by
  simp only [isBehind, List.contains_cons, List.contains_nil, Bool.or_false, Bool.or_eq_true,
    beq_iff_eq] at hs
  cases t with
  | symbol r =>
    simp only [endsPhrase, List.contains_cons, List.contains_nil, Bool.or_false, Bool.or_eq_true,
      beq_iff_eq] at ht
    rcases ht with rfl | rfl | rfl | rfl <;> rfl
  | number n => rcases hs with rfl | rfl | rfl | rfl | rfl | rfl | rfl <;> rfl
  | _ => rfl

theorem typeset_cons {t u : Token} {us : List Token} (hu : us.head? = some u) :
    typeset (t :: us) = t.spelling ++ (if gap t u then [' '] else []) ++ typeset us := by
  obtain ⟨more, rfl⟩ := List.head?_eq_some_iff.1 hu
  rfl

theorem allJoined_cons {t u : Token} {us : List Token} (hu : us.head? = some u) :
    allJoined (t :: us) = ((gap t u || joins t u) && allJoined us) := by
  obtain ⟨more, rfl⟩ := List.head?_eq_some_iff.1 hu
  rfl

theorem typeset_append {t u : Token} {ts us : List Token} (ht : ts.getLast? = some t)
    (hu : us.head? = some u) (hgap : gap t u = false) :
    typeset (ts ++ us) = typeset ts ++ typeset us := by
  induction ts with
  | nil => cases ht
  | cons v ts ih =>
    cases ts with
    | nil =>
      obtain rfl : v = t := Option.some.inj ht
      rw [List.singleton_append, typeset_cons hu, hgap]
      simp [typeset]
    | cons w ts =>
      rw [List.cons_append, typeset_cons (u := w) rfl, typeset_cons (u := w) rfl, ih ht]
      simp

theorem allJoined_append {t u : Token} {ts us : List Token} (ht : ts.getLast? = some t)
    (hu : us.head? = some u) (hjoins : joins t u = true) (hts : allJoined ts = true)
    (hus : allJoined us = true) : allJoined (ts ++ us) = true := by
  induction ts with
  | nil => cases ht
  | cons v ts ih =>
    cases ts with
    | nil =>
      obtain rfl : v = t := Option.some.inj ht
      rw [List.singleton_append, allJoined_cons hu, hjoins, hus, Bool.or_true]
      rfl
    | cons w ts =>
      rw [allJoined_cons (u := w) rfl, Bool.and_eq_true] at hts
      rw [List.cons_append, allJoined_cons (u := w) rfl, hts.1, ih ht hts.2]
      rfl

/-- Brackets that belong together. -/
structure Brackets (left right : String) : Prop where
  left_mem : left ∈ Lexeme.symbols
  right_mem : right ∈ Lexeme.symbols
  before : isBehind left = true
  behind : isBehind right = true
  closed : endsPhrase (.symbol right) = true
  gap (u : Token) : gap (.symbol left) u = false
  joins (u : Token) : joins (.symbol left) u = true
  opening : ["(", "[", "\x7b"].contains left = true
  closing : [")", "]", "\x7d"].contains right = true

theorem Brackets.round : Brackets "(" ")" :=
  ⟨by decide, by decide, rfl, rfl, rfl, fun u => by cases u <;> rfl, fun u => by cases u <;> rfl,
    rfl, rfl⟩

theorem Brackets.square : Brackets "[" "]" :=
  ⟨by decide, by decide, rfl, rfl, rfl, fun u => by cases u <;> rfl, fun u => by cases u <;> rfl,
    rfl, rfl⟩

theorem Brackets.ne_semicolon {left right : String} (h : Brackets left right) :
    left ≠ ";" ∧ right ≠ ";" := by
  refine ⟨?_, ?_⟩
  · rintro rfl
    cases h.opening
  · rintro rfl
    cases h.closing

/-! ## Settings -/

/-- Tokens of a phrase, the characters they are set as, and how deep they nest. -/
structure Setting (ts : List Token) (cs : List Char) (depth : Nat) : Prop where
  sound : ∀ t ∈ ts, t.Sound
  joined : allJoined ts = true
  spelled : typeset ts = cs
  undivided : Token.symbol ";" ∉ ts
  last : ∃ t, ts.getLast? = some t ∧ endsPhrase t = true
  nested : ∀ opened ≤ Line.nestingLimit, Line.depths? opened ts
    = if opened + depth ≤ Line.nestingLimit then some opened else none

namespace Setting

variable {ts us : List Token} {cs ds : List Char} {a b : Nat}

theorem ne_nil (h : Setting ts cs a) : ts ≠ [] := by
  obtain ⟨t, ht, -⟩ := h.last
  rintro rfl
  cases ht

theorem exists_head (h : Setting ts cs a) : ∃ t, ts.head? = some t := by
  obtain ⟨t, more, rfl⟩ := List.exists_cons_of_ne_nil h.ne_nil
  exact ⟨t, rfl⟩

/-- A token without brackets. -/
theorem single {t : Token} (ht : t.Sound) (hends : endsPhrase t = true)
    (hdepth : ∀ opened, Line.depthAfter? opened t = some opened) : Setting [t] t.spelling 0 where
  sound u hu := by rwa [List.mem_singleton.1 hu]
  joined := rfl
  spelled := rfl
  undivided hmem := by
    rw [← List.mem_singleton.1 hmem] at hends
    cases hends
  last := ⟨t, rfl, hends⟩
  nested opened hopen := by
    rw [Line.depths?_cons, hdepth, Nat.add_zero, if_pos hopen]
    rfl

theorem word {w : String} (hw : Text.isAsciiName w.toList = true) :
    Setting [.word w] w.toList 0 := single (.word hw) rfl fun _ => rfl

theorem number (n : Nat) : Setting [.number (digitsText n)] (digitsText n).toList 0 :=
  single (.number (digitsText_ne_nil n) (isDigit_digitsText n)) rfl fun _ => rfl

theorem ellipsis : Setting [.symbol "..."] ['.', '.', '.'] 0 :=
  single (.symbol (by decide)) rfl fun _ => rfl

theorem member {w v : String} (h : Setting ts cs a) (hlast : ts.getLast? = some (.word v))
    (hw : Text.isAsciiName w.toList = true) :
    Setting (ts ++ [.symbol ".", .word w]) (cs ++ '.' :: w.toList) a where
  sound t ht := by
    rcases List.mem_append.1 ht with ht | ht
    · exact h.sound t ht
    · rcases List.mem_cons.1 ht with rfl | ht
      · exact .symbol (by decide)
      · obtain rfl := List.mem_singleton.1 ht
        exact .word hw
  joined := allJoined_append hlast rfl rfl h.joined rfl
  spelled := by
    rw [typeset_append hlast rfl rfl, h.spelled]
    rfl
  undivided := by simpa using h.undivided
  last := ⟨.word w, by simp, rfl⟩
  nested opened hopen := by
    rw [Line.depths?_append, h.nested opened hopen]
    split <;> rfl

theorem comma (h : Setting ts cs a) (h' : Setting us ds b) :
    Setting (ts ++ .symbol "," :: us) (cs ++ ',' :: ' ' :: ds) (max a b) := by
  obtain ⟨t, hlast, hends⟩ := h.last
  obtain ⟨u, hhead⟩ := h'.exists_head
  obtain ⟨v, hlast', hends'⟩ := h'.last
  refine ⟨?_, ?_, ?_, by simpa using ⟨h.undivided, h'.undivided⟩, ⟨v, ?_, hends'⟩,
    fun opened hopen => ?_⟩
  · intro t ht
    rcases List.mem_append.1 ht with ht | ht
    · exact h.sound t ht
    · rcases List.mem_cons.1 ht with rfl | ht
      · exact .symbol (by decide)
      · exact h'.sound t ht
  · refine allJoined_append hlast rfl (joins_behind hends rfl) h.joined ?_
    rw [allJoined_cons hhead, gap_spaced rfl, h'.joined]
    rfl
  · rw [typeset_append hlast rfl (gap_behind hends rfl), typeset_cons hhead, gap_spaced rfl,
      h.spelled, h'.spelled]
    rfl
  · rw [List.getLast?_append, List.getLast?_cons, hlast']
    rfl
  · rw [Line.depths?_append, h.nested opened hopen]
    by_cases ha : opened + a ≤ Line.nestingLimit
    · rw [if_pos ha, Option.bind_some, Line.depths?_neutral rfl, h'.nested opened hopen]
      exact if_congr (by omega) rfl rfl
    · rw [if_neg ha, if_neg (by omega)]
      rfl

theorem depths?_too_deep {left : String} (hleft : Line.isOpening (.symbol left) = true)
    (ts : List Token) : Line.depths? Line.nestingLimit (.symbol left :: ts) = none := by
  rw [Line.depths?_cons, Line.depthAfter?, if_pos hleft, if_neg (Nat.lt_irrefl _)]
  rfl

/-- A phrase in brackets behind another. -/
theorem bracket {left right : String} (hbrackets : Brackets left right)
    (h : Setting ts cs a) (h' : Setting us ds b) :
    Setting (ts ++ .symbol left :: us ++ [.symbol right])
      (cs ++ left.toList ++ ds ++ right.toList) (max a (b + 1)) := by
  obtain ⟨t, hlast, hends⟩ := h.last
  obtain ⟨u, hhead⟩ := h'.exists_head
  obtain ⟨v, hlast', hends'⟩ := h'.last
  have hinner : (ts ++ Token.symbol left :: us).getLast? = some v := by
    rw [List.getLast?_append, List.getLast?_cons, hlast']
    rfl
  refine ⟨?_, ?_, ?_, ?_, ⟨.symbol right, List.getLast?_concat, hbrackets.closed⟩,
    fun opened hopen => ?_⟩
  · intro t ht
    simp only [List.mem_append, List.mem_cons, List.not_mem_nil, or_false] at ht
    rcases ht with (ht | rfl | ht) | rfl
    · exact h.sound t ht
    · exact .symbol hbrackets.left_mem
    · exact h'.sound t ht
    · exact .symbol hbrackets.right_mem
  · refine allJoined_append hinner rfl (joins_behind hends' hbrackets.behind) ?_ rfl
    refine allJoined_append hlast rfl (joins_behind hends hbrackets.before) h.joined ?_
    rw [allJoined_cons hhead, hbrackets.joins, h'.joined, Bool.or_true]
    rfl
  · rw [typeset_append hinner rfl (gap_behind hends' hbrackets.behind),
      typeset_append hlast rfl (gap_behind hends hbrackets.before), typeset_cons hhead,
      hbrackets.gap, h.spelled, h'.spelled]
    simp [typeset, Token.spelling]
  · have hne := hbrackets.ne_semicolon
    simpa [h.undivided, h'.undivided, eq_comm] using hne
  · rw [List.append_assoc, Line.depths?_append, h.nested opened hopen]
    by_cases ha : opened + a ≤ Line.nestingLimit
    · rw [if_pos ha, Option.bind_some, List.cons_append]
      rcases Nat.lt_or_eq_of_le hopen with hlt | rfl
      · rw [Line.depths?_opening hbrackets.opening hlt, Line.depths?_append, h'.nested _ hlt]
        by_cases hb : opened + 1 + b ≤ Line.nestingLimit
        · rw [if_pos hb, if_pos (by omega), Option.bind_some,
            Line.depths?_closing hbrackets.closing]
          rfl
        · rw [if_neg hb, if_neg (by omega)]
          rfl
      · rw [depths?_too_deep (by simpa [Line.isOpening] using hbrackets.opening), if_neg (by omega)]
    · rw [if_neg ha, if_neg (by omega)]
      rfl

/-- Brackets with nothing between them. -/
theorem empty {left right : String} (hbrackets : Brackets left right)
    (h : Setting ts cs a) :
    Setting (ts ++ [.symbol left, .symbol right]) (cs ++ left.toList ++ right.toList)
      (max a 1) := by
  obtain ⟨t, hlast, hends⟩ := h.last
  have hpair : typeset [.symbol left, .symbol right] = left.toList ++ right.toList := by
    rw [typeset, hbrackets.gap]
    simp [typeset, Token.spelling]
  have hjoined : allJoined [.symbol left, .symbol right] = true := by
    rw [allJoined, hbrackets.joins, Bool.or_true]
    rfl
  refine ⟨?_, allJoined_append hlast rfl (joins_behind hends hbrackets.before) h.joined hjoined, ?_,
    ?_, ⟨.symbol right, by simp, hbrackets.closed⟩, fun opened hopen => ?_⟩
  · intro t ht
    simp only [List.mem_append, List.mem_cons, List.not_mem_nil, or_false] at ht
    rcases ht with ht | rfl | rfl
    · exact h.sound t ht
    · exact .symbol hbrackets.left_mem
    · exact .symbol hbrackets.right_mem
  · rw [typeset_append hlast rfl (gap_behind hends hbrackets.before), h.spelled, hpair,
      List.append_assoc]
  · have hne := hbrackets.ne_semicolon
    simpa [h.undivided, eq_comm] using hne
  · rw [Line.depths?_append, h.nested opened hopen]
    by_cases ha : opened + a ≤ Line.nestingLimit
    · rw [if_pos ha, Option.bind_some]
      rcases Nat.lt_or_eq_of_le hopen with hlt | rfl
      · rw [Line.depths?_opening hbrackets.opening hlt, Line.depths?_closing hbrackets.closing,
          if_pos (by omega)]
        rfl
      · rw [depths?_too_deep (by simpa [Line.isOpening] using hbrackets.opening), if_neg (by omega)]
    · rw [if_neg ha, if_neg (by omega)]
      rfl

/-- Phrases of one depth with commas between them. -/
theorem spread {tss : List (List Token)} {css : List (List Char)} (hne : tss ≠ [])
    (h : List.Forall₂ (Setting · · a) tss css) :
    Setting ([.symbol ","].intercalate tss) ([',', ' '].intercalate css) a := by
  induction h with
  | nil => exact absurd rfl hne
  | @cons ts cs tss css hts hrest ih =>
    cases hrest with
    | nil => simpa using hts
    | @cons us ds tss css hus hrest =>
      have hcomma := hts.comma (ih (List.cons_ne_nil _ _))
      rw [Nat.max_self] at hcomma
      rw [List.intercalate_cons_cons, List.intercalate_cons_cons, List.append_assoc,
        List.append_assoc]
      exact hcomma

end Setting

end ControlSchema.Source
