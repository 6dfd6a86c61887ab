import ControlSchema.Proofs.Text.Blank
import ControlSchema.Storage.Path

/-!
# Paths

A path is its root and its names, and everything that is done to paths as texts can
be said about these: joining puts names behind names, tidying keeps them, and the
directory of an absolute path has all of them but the last piece.
-/

namespace ControlSchema

open Text

/-- A piece of a path that goes down. -/
structure IsName (name : String) : Prop where
  ne_empty : name ≠ ""
  ne_point : name ≠ "."
  ne_points : name ≠ ".."
  not_mem : '/' ∉ name.toList

instance (name : String) : Decidable (IsName name) :=
  decidable_of_iff (name ≠ "" ∧ name ≠ "." ∧ name ≠ ".." ∧ '/' ∉ name.toList)
    ⟨fun ⟨hempty, hpoint, hpoints, hslash⟩ => ⟨hempty, hpoint, hpoints, hslash⟩,
      fun h => ⟨h.ne_empty, h.ne_point, h.ne_points, h.not_mem⟩⟩

namespace Path

/-! ## Pieces -/

theorem pieces_of_not_mem {s : String} (h : '/' ∉ s.toList) : pieces s = [s] := by
  rw [pieces, splitOn_of_not_mem h, List.map_singleton, String.ofList_toList]

theorem pieces_append_slash (a b : String) : pieces (a ++ "/" ++ b) = pieces a ++ pieces b := by
  have hslash : "/".toList = ['/'] := rfl
  rw [pieces, String.toList_append, String.toList_append, hslash, List.append_assoc,
    List.singleton_append, splitOn_append_cons, List.map_append]
  rfl

theorem pieces_ne_nil (path : String) : pieces path ≠ [] :=
  fun h => splitOn_ne_nil '/' path.toList (List.map_eq_nil_iff.1 h)

theorem not_mem_of_mem_pieces {path piece : String} (h : piece ∈ pieces path) :
    '/' ∉ piece.toList := by
  obtain ⟨cs, hcs, rfl⟩ := List.mem_map.1 h
  rw [String.toList_ofList]
  exact not_mem_of_mem_splitOn hcs

/-- A path of one piece is that piece. -/
theorem eq_of_pieces {path piece : String} (h : pieces path = [piece]) :
    path = piece ∧ '/' ∉ path.toList := by
  by_cases hslash : '/' ∈ path.toList
  · obtain ⟨front, back, hsplit, -⟩ := List.eq_append_cons_of_mem hslash
    have hlength := congrArg List.length h
    rw [pieces, List.length_map, hsplit, splitOn_append_cons, List.length_append,
      List.length_singleton] at hlength
    have hfront := List.length_pos_iff.2 (splitOn_ne_nil '/' front)
    have hback := List.length_pos_iff.2 (splitOn_ne_nil '/' back)
    omega
  · rw [pieces_of_not_mem hslash] at h
    exact ⟨(List.cons.inj h).1, hslash⟩

theorem pieces_empty : pieces "" = [""] := rfl

theorem isAbsolute_of_not_mem {s : String} (h : '/' ∉ s.toList) : isAbsolute s = false := by
  rw [isAbsolute, beq_eq_false_iff_ne]
  exact fun heq => h (List.mem_of_head? heq)

theorem isAbsolute_append {a : String} (h : a ≠ "") (b : String) :
    isAbsolute (a ++ b) = isAbsolute a := by
  obtain ⟨c, cs, hcs⟩ := List.exists_cons_of_ne_nil (fun heq => h (String.toList_eq_nil_iff.1 heq))
  rw [isAbsolute, isAbsolute, String.toList_append, hcs]
  rfl

/-- A path of nothing but slashes leads to the root. -/
theorem isAbsolute_of_pieces {path : String} (hne : path ≠ "")
    (h : ∀ piece ∈ pieces path, piece = "") : isAbsolute path = true := by
  obtain ⟨c, cs, hcs⟩ := List.exists_cons_of_ne_nil
    (fun heq => hne (String.toList_eq_nil_iff.1 heq) : path.toList ≠ [])
  rw [isAbsolute, hcs, List.head?_cons, beq_iff_eq, Option.some.injEq]
  by_contra hc
  obtain ⟨piece, rest, hrest⟩ := List.exists_cons_of_ne_nil (splitOn_ne_nil '/' cs)
  have hfirst : String.ofList (c :: piece) ∈ pieces path := by
    rw [pieces, hcs, splitOn, if_neg fun heq => hc (beq_iff_eq.1 heq), hrest]
    exact List.mem_cons_self
  have hempty := congrArg String.toList (h _ hfirst)
  rw [String.toList_ofList] at hempty
  cases hempty

/-! ## Joined paths -/

/-- How a path that is not absolute is joined to another. -/
theorem join_cases (a : String) {b : String} (hb : isAbsolute b = false) :
    a = "" ∧ join a b = b ∨ (∃ w, a = w ++ "/" ∧ join a b = w ++ "/" ++ b) ∨
      a ≠ "" ∧ join a b = a ++ "/" ++ b := by
  rw [join, hb, if_neg Bool.false_ne_true]
  split
  · rename_i hend
    rw [Bool.or_eq_true, String.isEmpty_iff, beq_iff_eq] at hend
    rcases hend with rfl | hend
    · exact Or.inl ⟨rfl, String.empty_append⟩
    · obtain ⟨cs, hcs⟩ := List.getLast?_eq_some_iff.1 hend
      have ha : a = String.ofList cs ++ "/" := by
        rw [← String.toList_inj, hcs, String.toList_append, String.toList_ofList]
        rfl
      exact Or.inr (Or.inl ⟨_, ha, by rw [← ha]⟩)
  · rename_i hend
    rw [Bool.or_eq_true, String.isEmpty_iff, not_or] at hend
    exact Or.inr (Or.inr ⟨hend.1, rfl⟩)

theorem join_ne_empty (a : String) {b : String} (hb : b ≠ "") : join a b ≠ "" := by
  rw [join]
  split
  · exact hb
  · split
    · exact fun heq => hb (String.append_eq_empty_iff.1 heq).2
    · exact fun heq => hb (String.append_eq_empty_iff.1 heq).2

theorem isAbsolute_join (a : String) {b : String} (hb : isAbsolute b = false) :
    isAbsolute (join a b) = isAbsolute a := by
  rcases join_cases a hb with ⟨rfl, hjoin⟩ | ⟨w, rfl, hjoin⟩ | ⟨ha, hjoin⟩
  · rw [hjoin, hb]
    rfl
  · rw [hjoin, isAbsolute_append]
    exact fun heq => absurd (String.append_eq_empty_iff.1 heq).2 (by decide)
  · rw [hjoin, String.append_assoc, isAbsolute_append ha]

/-- The pieces of a joined path are those of its parts, but for empty ones. -/
theorem pieces_join (a : String) {b : String} (hb : isAbsolute b = false) :
    ∃ front empties, (∀ piece ∈ empties, piece = "") ∧
      pieces a = front ++ empties ∧ pieces (join a b) = front ++ pieces b := by
  rcases join_cases a hb with ⟨rfl, hjoin⟩ | ⟨w, rfl, hjoin⟩ | ⟨ha, hjoin⟩
  · exact ⟨[], [""], List.forall_mem_singleton.2 rfl, rfl, by rw [hjoin]; rfl⟩
  · refine ⟨pieces w, [""], List.forall_mem_singleton.2 rfl, ?_, ?_⟩
    · rw [← String.append_empty (s := w ++ "/"), pieces_append_slash, pieces_empty]
    · rw [hjoin, pieces_append_slash]
  · refine ⟨pieces a, [], List.forall_mem_nil _, (List.append_nil _).symm, ?_⟩
    rw [hjoin, pieces_append_slash]

theorem baseName_join (a : String) {name : String} (h : IsName name) :
    baseName (join a name) = name := by
  obtain ⟨front, -, -, -, hjoin⟩ := pieces_join a (isAbsolute_of_not_mem h.not_mem)
  rw [baseName, hjoin, pieces_of_not_mem h.not_mem, List.getLast?_concat]
  rfl

/-! ## Names -/

/-- Whether a piece is one that does not stay. -/
def matters (piece : String) : Bool := !piece.isEmpty && piece != "."

theorem matters_iff {piece : String} : matters piece = true ↔ piece ≠ "" ∧ piece ≠ "." := by
  rw [matters, Bool.and_eq_true, Bool.not_eq_true', ← Bool.not_eq_true, String.isEmpty_iff,
    bne_iff_ne]

theorem names_eq (path : String) : names path = (pieces path).filter matters := rfl

/-- The names of a path are neither empty nor a single point, and without slashes. -/
theorem mem_names {path piece : String} (h : piece ∈ names path) :
    piece ≠ "" ∧ piece ≠ "." ∧ '/' ∉ piece.toList := by
  obtain ⟨hpiece, hmatters⟩ := List.mem_filter.1 h
  obtain ⟨hempty, hpoint⟩ := matters_iff.1 hmatters
  exact ⟨hempty, hpoint, not_mem_of_mem_pieces hpiece⟩

theorem names_append_slash (a b : String) : names (a ++ "/" ++ b) = names a ++ names b := by
  rw [names_eq, pieces_append_slash, List.filter_append]
  rfl

theorem names_join (a : String) {b : String} (hb : isAbsolute b = false) :
    names (join a b) = names a ++ names b := by
  obtain ⟨front, empties, hempties, ha, hjoin⟩ := pieces_join a hb
  have hnone : empties.filter matters = [] := List.filter_eq_nil_iff.2 fun piece hpiece h =>
    (matters_iff.1 h).1 (hempties piece hpiece)
  rw [names_eq, names_eq a, hjoin, ha, List.filter_append, List.filter_append, hnone,
    List.append_nil]
  rfl

/-- The names of what is joined to a path stay, whether or not it stands alone. -/
theorem names_subset_join (a b : String) : names b ⊆ names (join a b) := by
  by_cases hb : isAbsolute b = true
  · rw [join, if_pos hb]
    exact List.Subset.refl _
  · rw [names_join a (Bool.eq_false_iff.2 hb)]
    exact List.subset_append_right _ _

theorem names_of_matters {name : String} (h : name ≠ "" ∧ name ≠ "." ∧ '/' ∉ name.toList) :
    names name = [name] := by
  rw [names_eq, pieces_of_not_mem h.2.2,
    List.filter_cons_of_pos (matters_iff.2 ⟨h.1, h.2.1⟩), List.filter_nil]

theorem names_intercalate {ns : List String}
    (h : ∀ name ∈ ns, name ≠ "" ∧ name ≠ "." ∧ '/' ∉ name.toList) :
    names ("/".intercalate ns) = ns := by
  induction ns with
  | nil => rfl
  | cons name ns ih =>
    obtain ⟨hname, hns⟩ := List.forall_mem_cons.1 h
    cases ns with
    | nil => rw [String.intercalate_singleton, names_of_matters hname]
    | cons next ns =>
      rw [String.intercalate_cons_cons, names_append_slash, ih hns, names_of_matters hname]
      rfl

theorem pieces_intercalate {ns : List String} (h : ∀ name ∈ ns, '/' ∉ name.toList)
    (hne : ns ≠ []) : pieces ("/".intercalate ns) = ns := by
  induction ns with
  | nil => exact absurd rfl hne
  | cons name ns ih =>
    obtain ⟨hname, hns⟩ := List.forall_mem_cons.1 h
    cases ns with
    | nil => rw [String.intercalate_singleton, pieces_of_not_mem hname]
    | cons next ns =>
      rw [String.intercalate_cons_cons, pieces_append_slash, ih hns (List.cons_ne_nil _ _),
        pieces_of_not_mem hname]
      rfl

theorem isAbsolute_intercalate {ns : List String}
    (h : ∀ name ∈ ns, name ≠ "" ∧ name ≠ "." ∧ '/' ∉ name.toList) :
    isAbsolute ("/".intercalate ns) = false := by
  cases ns with
  | nil => rfl
  | cons name ns =>
    obtain ⟨hempty, -, hslash⟩ := h name List.mem_cons_self
    have hname := isAbsolute_of_not_mem hslash
    cases ns with
    | nil => rwa [String.intercalate_singleton]
    | cons next ns =>
      rw [String.intercalate_cons_cons, String.append_assoc, isAbsolute_append hempty, hname]

/-! ## Tidy paths -/

theorem root_cases (path : String) : isAbsolute path = false ∧ root path = "" ∨
    isAbsolute path = true ∧ (root path = "/" ∨ root path = "//") := by
  rw [isAbsolute, root]
  cases path.toList with
  | nil => exact Or.inl ⟨rfl, rfl⟩
  | cons c cs =>
    by_cases hc : (c == '/') = true
    · refine Or.inr ⟨?_, ?_⟩
      · rw [beq_iff_eq.1 hc]
        rfl
      · rw [List.takeWhile_cons, if_pos hc]
        split
        · rename_i heq
          cases heq
        · exact Or.inr rfl
        · exact Or.inl rfl
    · refine Or.inl ⟨?_, ?_⟩
      · rw [beq_eq_false_iff_ne]
        exact fun heq => hc (beq_iff_eq.2 (Option.some.inj heq))
      · rw [List.takeWhile_cons, if_neg hc]

/-- The pieces behind the root of a path. -/
theorem pieces_root_append (path t : String) :
    ∃ empties, (∀ piece ∈ empties, piece = "") ∧ pieces (root path ++ t) = empties ++ pieces t := by
  rcases root_cases path with ⟨-, hroot⟩ | ⟨-, hroot | hroot⟩
  · exact ⟨[], List.forall_mem_nil _, by rw [hroot, String.empty_append]; rfl⟩
  · refine ⟨[""], List.forall_mem_singleton.2 rfl, ?_⟩
    have hslash : "/" ++ t = "" ++ "/" ++ t := rfl
    rw [hroot, hslash, pieces_append_slash]
    rfl
  · refine ⟨["", ""], by simp, ?_⟩
    have hslash : "//" ++ t = "/" ++ "/" ++ t := rfl
    rw [hroot, hslash, pieces_append_slash]
    rfl

theorem names_root_append (path t : String) : names (root path ++ t) = names t := by
  obtain ⟨empties, hempties, hpieces⟩ := pieces_root_append path t
  have hnone : empties.filter matters = [] := List.filter_eq_nil_iff.2 fun piece hpiece h =>
    (matters_iff.1 h).1 (hempties piece hpiece)
  rw [names_eq, hpieces, List.filter_append, hnone, List.nil_append]
  rfl

theorem isAbsolute_root_append {path t : String} (ht : isAbsolute t = false) :
    isAbsolute (root path ++ t) = isAbsolute path := by
  rcases root_cases path with ⟨hpath, hroot⟩ | ⟨hpath, hroot | hroot⟩
  · rw [hroot, hpath, String.empty_append, ht]
  · rw [hroot, hpath, isAbsolute_append (by decide)]
    rfl
  · rw [hroot, hpath, isAbsolute_append (by decide)]
    rfl

theorem isAbsolute_tidy (path : String) : isAbsolute (tidy path) = isAbsolute path := by
  have habsolute := @isAbsolute_root_append path _
    (isAbsolute_intercalate fun _ => @mem_names path _)
  rw [tidy]
  split
  · rename_i hempty
    rw [← habsolute, String.isEmpty_iff.1 hempty]
    rfl
  · exact habsolute

theorem tidy_ne_empty (path : String) : tidy path ≠ "" := by
  rw [tidy]
  split
  · decide
  · rename_i hempty
    exact fun heq => hempty (String.isEmpty_iff.2 heq)

/-- A tidy path has the names of the path, behind pieces that stay. -/
theorem pieces_tidy (path : String) : ∃ lead, (∀ piece ∈ lead, ¬ matters piece = true) ∧
    pieces (tidy path) = lead ++ names path := by
  obtain ⟨empties, hempties, hpieces⟩ := pieces_root_append path ("/".intercalate (names path))
  have hlead : ∀ piece ∈ empties, ¬ matters piece = true := fun piece hpiece h =>
    (matters_iff.1 h).1 (hempties piece hpiece)
  rw [tidy]
  split
  · rename_i hempty
    have hnames : names path = [] := by
      rw [← names_intercalate fun _ => @mem_names path _, ← names_root_append path,
        String.isEmpty_iff.1 hempty]
      rfl
    exact ⟨["."], by decide, by rw [hnames]; rfl⟩
  · rw [hpieces]
    by_cases hnames : names path = []
    · rw [hnames]
      refine ⟨empties ++ [""], fun piece hpiece => ?_, (List.append_nil _).symm⟩
      rcases List.mem_append.1 hpiece with hpiece | hpiece
      · exact hlead piece hpiece
      · rw [List.mem_singleton.1 hpiece]
        decide
    · exact ⟨empties, hlead, by
        rw [pieces_intercalate (fun _ h => (mem_names h).2.2) hnames]⟩

theorem names_tidy (path : String) : names (tidy path) = names path := by
  obtain ⟨lead, hlead, hpieces⟩ := pieces_tidy path
  have hnone : lead.filter matters = [] := List.filter_eq_nil_iff.2 hlead
  have hall : (names path).filter matters = names path :=
    List.filter_eq_self.2 fun piece hpiece =>
      matters_iff.2 ⟨(mem_names hpiece).1, (mem_names hpiece).2.1⟩
  rw [names_eq (tidy path), hpieces, List.filter_append, hnone, hall, List.nil_append]

/-- The last name of a path stays the last when the path is tidied. -/
theorem lastName_tidy_join (a : String) {name : String} (h : IsName name) :
    lastName (tidy (join a name)) = name := by
  rw [lastName, names_tidy, names_join a (isAbsolute_of_not_mem h.not_mem),
    names_of_matters ⟨h.ne_empty, h.ne_point, h.not_mem⟩, List.getLast?_concat]
  rfl

/-! ## Directories -/

/-- Every absolute path ends in a slash and a piece. -/
theorem exists_last {path : String} (h : isAbsolute path = true) :
    ∃ front last, '/' ∉ last.toList ∧ path = front ++ "/" ++ last := by
  have hslash : '/' ∈ path.toList := List.mem_of_head? (beq_iff_eq.1 h)
  obtain ⟨back, front, hsplit, hback⟩ := List.eq_append_cons_of_mem (List.mem_reverse.2 hslash)
  refine ⟨String.ofList front.reverse, String.ofList back.reverse, ?_, ?_⟩
  · rw [String.toList_ofList, List.mem_reverse]
    exact hback
  · rw [← String.toList_inj, ← List.reverse_inj, hsplit]
    simp only [String.toList_append, String.toList_ofList, List.reverse_append,
      List.reverse_reverse]
    rfl

theorem names_append_slashes (a : String) {slashes : List Char} (h : ∀ c ∈ slashes, c = '/') :
    names (a ++ String.ofList slashes) = names a := by
  induction slashes generalizing a with
  | nil => exact congrArg names String.append_empty
  | cons c slashes ih =>
    obtain ⟨rfl, hslashes⟩ := List.forall_mem_cons.1 h
    have hcons : String.ofList ('/' :: slashes) = "/" ++ String.ofList slashes :=
      @String.ofList_append ['/'] slashes
    have hrest := ih "" hslashes
    rw [String.empty_append] at hrest
    rw [hcons, ← String.append_assoc, names_append_slash, hrest]
    exact List.append_nil _

/-- A path without its last piece and the slashes in front of that. -/
theorem exists_parent_append {front last : String} (h : '/' ∉ last.toList) :
    ∃ slashes, (∀ c ∈ slashes, c = '/') ∧ parent (front ++ "/" ++ last) ≠ "" ∧
      parent (front ++ "/" ++ last) ++ String.ofList slashes = front ++ "/" := by
  have hbefore : (front ++ "/" ++ last).toList.reverse.dropWhile (· != '/')
      = '/' :: front.toList.reverse := by
    have hlast : ∀ c ∈ last.toList.reverse, (c != '/') = true := fun c hc => by
      rw [bne_iff_ne]
      rintro rfl
      exact h (List.mem_reverse.1 hc)
    rw [String.toList_append, String.toList_append, List.reverse_append, List.reverse_append,
      List.dropWhile_append_of_pos hlast]
    rfl
  have hfront : ('/' :: front.toList.reverse).reverse = (front ++ "/").toList := by
    rw [List.reverse_cons, List.reverse_reverse, String.toList_append]
    rfl
  rw [parent, hbefore]
  split
  · refine ⟨[], List.forall_mem_nil _, ?_, ?_⟩
    · rw [hfront, String.ofList_toList]
      exact fun heq => absurd (String.append_eq_empty_iff.1 heq).2 (by decide)
    · rw [hfront, String.ofList_toList]
      exact String.append_empty
  · rename_i hempty
    have hsplit := List.takeWhile_append_dropWhile (p := (· == '/'))
      (l := '/' :: front.toList.reverse)
    have hall := List.all_takeWhile (p := (· == '/')) (l := '/' :: front.toList.reverse)
    refine ⟨(('/' :: front.toList.reverse).takeWhile (· == '/')).reverse, fun c hc => ?_, ?_, ?_⟩
    · exact beq_iff_eq.1 (List.all_eq_true.1 hall c (List.mem_reverse.1 hc))
    · rw [Ne, String.ofList_eq_empty_iff, List.reverse_eq_nil_iff]
      exact fun heq => hempty (by rw [heq]; rfl)
    · rw [← String.ofList_append, ← List.reverse_append, hsplit, hfront, String.ofList_toList]

theorem parent_append_slash {front last : String} (h : '/' ∉ last.toList) :
    names (parent (front ++ "/" ++ last)) = names front ∧
      isAbsolute (parent (front ++ "/" ++ last)) = isAbsolute (front ++ "/" ++ last) := by
  obtain ⟨slashes, hslashes, hne, hsplit⟩ := @exists_parent_append front last h
  have hfront : front ++ "/" ≠ "" := fun heq =>
    absurd (String.append_eq_empty_iff.1 heq).2 (by decide)
  constructor
  · rw [← names_append_slashes _ hslashes, hsplit, ← String.append_empty (s := front ++ "/"),
      names_append_slash]
    exact List.append_nil _
  · generalize parent (front ++ "/" ++ last) = above at hne hsplit ⊢
    rw [isAbsolute_append hfront, ← hsplit, isAbsolute_append hne]

/-- The directory of an absolute path has its names but for the last piece. -/
theorem names_parent {path : String} (h : isAbsolute path = true) :
    isAbsolute (parent path) = true ∧ names (parent path) <+: names path := by
  obtain ⟨front, last, hlast, rfl⟩ := exists_last h
  obtain ⟨hnames, habsolute⟩ := @parent_append_slash front last hlast
  rw [hnames, habsolute, names_append_slash]
  exact ⟨h, List.prefix_append _ _⟩

/-- The directory of an absolute path that ends in a name has all names but this one. -/
theorem names_parent_of_baseName {path name : String} (h : isAbsolute path = true)
    (hname : IsName name) {ns : List String} (hnames : names path = ns ++ [name])
    (hbase : baseName path = name) : names (parent path) = ns := by
  obtain ⟨front, last, hlast, rfl⟩ := exists_last h
  have hbaseName : baseName (front ++ "/" ++ last) = last := by
    rw [baseName, pieces_append_slash, pieces_of_not_mem hlast, List.getLast?_concat]
    rfl
  obtain rfl : last = name := hbaseName.symm.trans hbase
  rw [names_append_slash,
    names_of_matters ⟨hname.ne_empty, hname.ne_point, hname.not_mem⟩] at hnames
  rw [(parent_append_slash hlast).1]
  exact List.append_cancel_right hnames

/-! ## Lineages -/

theorem split_fst {path : String} (h : isAbsolute path = true) :
    isAbsolute (split path).1 = true ∧ names (split path).1 <+: names path := by
  obtain ⟨hparent, hnames⟩ := names_parent h
  rw [split]
  split
  · obtain ⟨habove, hwithin⟩ := names_parent hparent
    exact ⟨habove, hwithin.trans hnames⟩
  · exact ⟨hparent, hnames⟩

/-- The paths of a lineage have the first names of the path. -/
theorem mem_lineage {path other : String} (h : isAbsolute path = true)
    (hmem : other ∈ lineage path) :
    isAbsolute other = true ∧ names other <+: names path := by
  rw [lineage] at hmem
  generalize path.length = fuel at hmem
  induction fuel generalizing path with
  | zero =>
    rw [List.mem_singleton.1 hmem]
    exact ⟨h, List.prefix_rfl⟩
  | succ fuel ih =>
    obtain ⟨habove, hwithin⟩ := split_fst h
    rw [lineageFrom] at hmem
    simp only at hmem
    split at hmem
    · rw [List.mem_singleton.1 hmem]
      exact ⟨h, List.prefix_rfl⟩
    · rcases List.mem_cons.1 hmem with rfl | hmem
      · exact ⟨h, List.prefix_rfl⟩
      · obtain ⟨hother, hnames⟩ := ih habove hmem
        exact ⟨hother, hnames.trans hwithin⟩

end Path

end ControlSchema
