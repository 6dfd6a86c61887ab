import ControlSchema.Proofs.Storage.Path
import ControlSchema.Storage.Disk

/-!
# Places of paths

Where a path leads is read off its pieces: a name goes down, two points go up, and
all other pieces stay. A disk only decides whether the way is open, so a path that
leads somewhere leads to the same place on every disk, whatever was done to it in
between.
-/

namespace ControlSchema

open Text

namespace Disk

/-! ## Walks -/

/-- Where a piece leads from a place. -/
def stepTo (place : Trail) (piece : String) : Trail :=
  if piece.isEmpty || piece == "." then place
  else if piece == ".." then place.dropLast
  else place ++ [piece]

/-- Where pieces lead from a place, if the way is open. -/
def walk (place : Trail) (pieces : List String) : Trail := pieces.foldl stepTo place

theorem walk_append (place : Trail) (front back : List String) :
    walk place (front ++ back) = walk (walk place front) back := List.foldl_append

theorem stepTo_name {name : String} (h : IsName name) (place : Trail) :
    stepTo place name = place ++ [name] := by
  have hstay : ¬ (name.isEmpty || name == ".") = true := by
    rw [Bool.or_eq_true, String.isEmpty_iff, beq_iff_eq, not_or]
    exact ⟨h.ne_empty, h.ne_point⟩
  rw [stepTo, if_neg hstay, if_neg fun heq => h.ne_points (beq_iff_eq.1 heq)]

/-- A piece of a path stays, goes up, or is a name. -/
theorem stepTo_cases {piece : String} (h : '/' ∉ piece.toList) (place : Trail) :
    stepTo place piece = place ∨ stepTo place piece = place.dropLast ∨
      IsName piece ∧ stepTo place piece = place ++ [piece] := by
  rw [stepTo]
  split
  · exact Or.inl rfl
  · rename_i hstay
    rw [Bool.or_eq_true, String.isEmpty_iff, beq_iff_eq, not_or] at hstay
    split
    · exact Or.inr (Or.inl rfl)
    · rename_i hpoints
      exact Or.inr (Or.inr ⟨⟨hstay.1, hstay.2, fun heq => hpoints (beq_iff_eq.2 heq), h⟩, rfl⟩)

/-- The way from a place is open: every piece is taken from a directory, and no name
is too long. -/
def Passable (d : Disk) : Trail → List String → Prop
  | _, [] => True
  | place, piece :: rest => d.node? place = some .directory ∧ piece.utf8ByteSize ≤ nameLimit ∧
      Passable d (stepTo place piece) rest

theorem passable_append {d : Disk} {place : Trail} {front back : List String} :
    d.Passable place (front ++ back) ↔
      d.Passable place front ∧ d.Passable (walk place front) back := by
  induction front generalizing place with
  | nil => exact ⟨fun h => ⟨trivial, h⟩, And.right⟩
  | cons piece front ih =>
    rw [List.cons_append, Passable, Passable, ih, and_assoc, and_assoc]
    rfl

theorem follow_cons {d : Disk} {place : Trail} (h : d.node? place = some .directory)
    (piece : String) (rest : List String) : d.follow place (piece :: rest)
      = if nameLimit < piece.utf8ByteSize then .error .nameTooLong
        else d.follow (stepTo place piece) rest := by
  have hempty : "".utf8ByteSize ≤ nameLimit ∧ ".".utf8ByteSize ≤ nameLimit ∧
      "..".utf8ByteSize ≤ nameLimit := by decide
  rw [follow, h, stepTo]
  by_cases hstay : (piece.isEmpty || piece == ".") = true
  · have hshort : ¬ nameLimit < piece.utf8ByteSize := by
      rw [Bool.or_eq_true, String.isEmpty_iff, beq_iff_eq] at hstay
      rcases hstay with rfl | rfl
      · exact Nat.not_lt.2 hempty.1
      · exact Nat.not_lt.2 hempty.2.1
    simp only [hstay, if_true, if_neg hshort]
  · by_cases hpoints : (piece == "..") = true
    · have hshort : ¬ nameLimit < piece.utf8ByteSize := by
        rw [beq_iff_eq.1 hpoints]
        exact Nat.not_lt.2 hempty.2.2
      simp only [if_neg hstay, hpoints, if_true, if_neg hshort]
    · simp only [if_neg hstay, if_neg hpoints]

/-- A path that leads somewhere leads to where its pieces do. -/
theorem follow_eq_ok_iff {d : Disk} {place target : Trail} {pieces : List String} :
    d.follow place pieces = .ok target ↔ d.Passable place pieces ∧ walk place pieces = target := by
  induction pieces generalizing place with
  | nil =>
    rw [follow, Except.ok.injEq]
    exact ⟨fun h => ⟨trivial, h⟩, And.right⟩
  | cons piece rest ih =>
    rw [Passable, walk, List.foldl_cons, ← walk]
    by_cases hnode : d.node? place = some .directory
    · rw [follow_cons hnode]
      by_cases hlong : nameLimit < piece.utf8ByteSize
      · rw [if_pos hlong]
        exact ⟨nofun, fun h => absurd h.1.2.1 (Nat.not_le.2 hlong)⟩
      · rw [if_neg hlong, ih]
        exact ⟨fun h => ⟨⟨hnode, Nat.not_lt.1 hlong, h.1⟩, h.2⟩, fun h => ⟨h.1.2.2, h.2⟩⟩
    · have hclosed : ∀ target, d.follow place (piece :: rest) ≠ .ok target := by
        intro target h
        rw [follow] at h
        cases hfound : d.node? place with
        | none =>
          rw [hfound] at h
          cases h
        | some node =>
          cases node with
          | file content =>
            rw [hfound] at h
            cases h
          | directory => exact hnode hfound
      exact ⟨fun h => absurd h (hclosed target), fun h => absurd h.1.1 hnode⟩

/-- The way stays open when the directories on it stay. -/
theorem Passable.mono {d d' : Disk} {place : Trail} {pieces : List String}
    (h : d.Passable place pieces)
    (hkept : ∀ front piece back, pieces = front ++ piece :: back →
      d.node? (walk place front) = some .directory →
      d'.node? (walk place front) = some .directory) :
    d'.Passable place pieces := by
  induction pieces generalizing place with
  | nil => trivial
  | cons piece rest ih =>
    refine ⟨hkept [] piece rest rfl h.1, h.2.1, ih h.2.2 fun front next back heq => ?_⟩
    subst heq
    exact hkept (piece :: front) next back rfl

theorem Passable.short {d : Disk} {place : Trail} {pieces : List String}
    (h : d.Passable place pieces) : ∀ piece ∈ pieces, piece.utf8ByteSize ≤ nameLimit := by
  induction pieces generalizing place with
  | nil => exact List.forall_mem_nil _
  | cons piece rest ih => exact List.forall_mem_cons.2 ⟨h.2.1, ih h.2.2⟩

/-- Without a piece that goes up, a walk only goes down. -/
theorem prefix_walk {pieces : List String} (h : ".." ∉ pieces) (place : Trail) :
    place <+: walk place pieces := by
  induction pieces generalizing place with
  | nil => exact List.prefix_rfl
  | cons piece rest ih =>
    rw [List.mem_cons, not_or] at h
    have hstep : place <+: stepTo place piece := by
      rw [stepTo, if_neg (c := (piece == "..") = true) fun heq => h.1 (beq_iff_eq.1 heq).symm]
      split
      · exact List.prefix_rfl
      · exact List.prefix_append place [piece]
    exact hstep.trans (ih h.2 _)

/-! ## Paths -/

/-- Where a path leads, if the way is open. -/
def spot (d : Disk) (path : String) : Trail := walk (d.start path) (Path.pieces path)

/-- The way along a path leads through a place, or through something below it. -/
def Crosses (d : Disk) (path : String) (place : Trail) : Prop :=
  ∃ front piece back, Path.pieces path = front ++ piece :: back ∧
    place <+: walk (d.start path) front

theorem place_eq_ok_iff {d : Disk} {path : String} {target : Trail} :
    d.place path = .ok target ↔
      path ≠ "" ∧ d.Passable (d.start path) (Path.pieces path) ∧ d.spot path = target := by
  rw [place]
  by_cases hempty : path.isEmpty = true
  · rw [if_pos hempty]
    exact ⟨nofun, fun h => absurd (String.isEmpty_iff.1 hempty) h.1⟩
  · rw [if_neg hempty, follow_eq_ok_iff]
    exact ⟨fun h => ⟨fun heq => hempty (String.isEmpty_iff.2 heq), h⟩, And.right⟩

/-- No name on the way of a path that leads somewhere is too long. -/
theorem short_of_place {d : Disk} {path name : String} {target : Trail}
    (h : d.place path = .ok target) (hname : name ∈ Path.names path) :
    name.utf8ByteSize ≤ nameLimit :=
  (place_eq_ok_iff.1 h).2.1.short name (List.mem_filter.1 hname).1

theorem walk_empties {empties : List String} (h : ∀ piece ∈ empties, piece = "") (place : Trail) :
    walk place empties = place := by
  induction empties generalizing place with
  | nil => rfl
  | cons piece empties ih =>
    obtain ⟨rfl, hempties⟩ := List.forall_mem_cons.1 h
    exact ih hempties place

/-- The pieces of a path without the empty ones at its end. -/
def trimmed (pieces : List String) : List String :=
  (pieces.reverse.dropWhile String.isEmpty).reverse

theorem exists_trimmed_append (pieces : List String) :
    ∃ empties, (∀ piece ∈ empties, piece = "") ∧ trimmed pieces ++ empties = pieces := by
  refine ⟨(pieces.reverse.takeWhile String.isEmpty).reverse, fun piece hpiece => ?_, ?_⟩
  · have hall := List.all_eq_true.1 (List.all_takeWhile (p := String.isEmpty) (l := pieces.reverse))
    exact String.isEmpty_iff.1 (hall piece (List.mem_reverse.1 hpiece))
  · rw [trimmed, ← List.reverse_append, List.takeWhile_append_dropWhile, List.reverse_reverse]

theorem newPlace_eq_ok_iff {d : Disk} {path : String} {target : Trail} :
    d.newPlace path = .ok target ↔
      path ≠ "" ∧ d.Passable (d.start path) (trimmed (Path.pieces path)) ∧
        d.spot path = target := by
  obtain ⟨empties, hempties, hpieces⟩ := exists_trimmed_append (Path.pieces path)
  have hspot : walk (d.start path) (trimmed (Path.pieces path)) = d.spot path := by
    rw [spot, ← hpieces, walk_append, walk_empties hempties, hpieces]
  rw [newPlace]
  by_cases hempty : path.isEmpty = true
  · rw [if_pos hempty]
    exact ⟨nofun, fun h => absurd (String.isEmpty_iff.1 hempty) h.1⟩
  · rw [if_neg hempty]
    refine follow_eq_ok_iff.trans ?_
    rw [← hspot]
    exact ⟨fun h => ⟨fun heq => hempty (String.isEmpty_iff.2 heq), h⟩, And.right⟩

/-- What a path leads to can be made there. -/
theorem newPlace_of_place {d : Disk} {path : String} {target : Trail}
    (h : d.place path = .ok target) : d.newPlace path = .ok target := by
  obtain ⟨hne, hpassable, hspot⟩ := place_eq_ok_iff.1 h
  obtain ⟨empties, -, hpieces⟩ := exists_trimmed_append (Path.pieces path)
  rw [← hpieces, passable_append] at hpassable
  exact newPlace_eq_ok_iff.2 ⟨hne, hpassable.1, hspot⟩

/-! ## Joined paths -/

theorem start_eq {d : Disk} {a b : String} (h : Path.isAbsolute a = Path.isAbsolute b) :
    d.start a = d.start b := by
  rw [start, start, h]

theorem start_join (d : Disk) (a : String) {b : String} (hb : Path.isAbsolute b = false) :
    d.start (Path.join a b) = d.start a := start_eq (Path.isAbsolute_join a hb)

theorem spot_join (d : Disk) (a : String) {b : String} (hb : Path.isAbsolute b = false) :
    d.spot (Path.join a b) = walk (d.spot a) (Path.pieces b) := by
  obtain ⟨front, empties, hempties, ha, hjoin⟩ := Path.pieces_join a hb
  rw [spot, spot, start_join d a hb, ha, hjoin, walk_append, walk_append, walk_empties hempties]

theorem spot_join_name (d : Disk) (a : String) {name : String} (h : IsName name) :
    d.spot (Path.join a name) = d.spot a ++ [name] := by
  rw [spot_join d a (Path.isAbsolute_of_not_mem h.not_mem), Path.pieces_of_not_mem h.not_mem, walk,
    List.foldl_cons, stepTo_name h]
  rfl

/-- A name is found in a directory. -/
theorem place_join {d : Disk} {path name : String} {target : Trail}
    (hplace : d.place path = .ok target) (hdirectory : d.node? target = some .directory)
    (hname : IsName name) (hshort : name.utf8ByteSize ≤ nameLimit) :
    d.place (Path.join path name) = .ok (target ++ [name]) := by
  have habsolute := Path.isAbsolute_of_not_mem hname.not_mem
  obtain ⟨-, hpassable, rfl⟩ := place_eq_ok_iff.1 hplace
  obtain ⟨front, empties, hempties, hpath, hjoin⟩ := Path.pieces_join path habsolute
  have hfront : walk (d.start path) front = d.spot path := by
    rw [spot, hpath, walk_append, walk_empties hempties]
  rw [hpath, passable_append] at hpassable
  refine place_eq_ok_iff.2 ⟨Path.join_ne_empty path hname.ne_empty, ?_, spot_join_name d path hname⟩
  rw [start_join d path habsolute, hjoin, passable_append, hfront,
    Path.pieces_of_not_mem hname.not_mem]
  exact ⟨hpassable.1, hdirectory, hshort, trivial⟩

/-! ## Names of a path -/

theorem stepTo_of_not_matters {piece : String} (h : ¬ Path.matters piece = true) (place : Trail) :
    stepTo place piece = place := by
  rw [Path.matters_iff, not_and_or, not_not, not_not] at h
  rcases h with rfl | rfl <;> rfl

/-- Only the pieces that matter lead anywhere. -/
theorem walk_filter (place : Trail) (pieces : List String) :
    walk place (pieces.filter Path.matters) = walk place pieces := by
  induction pieces generalizing place with
  | nil => rfl
  | cons piece pieces ih =>
    by_cases hmatters : Path.matters piece = true
    · rw [List.filter_cons_of_pos hmatters]
      exact ih _
    · rw [List.filter_cons_of_neg hmatters, ih, walk, walk, List.foldl_cons,
        stepTo_of_not_matters hmatters]

theorem passable_names {d : Disk} {place : Trail} {path : String}
    (h : d.Passable place (Path.pieces path)) : d.Passable place (Path.names path) := by
  rw [Path.names_eq]
  generalize Path.pieces path = pieces at h
  induction pieces generalizing place with
  | nil => trivial
  | cons piece pieces ih =>
    obtain ⟨hdirectory, hshort, hrest⟩ := h
    by_cases hmatters : Path.matters piece = true
    · rw [List.filter_cons_of_pos hmatters]
      exact ⟨hdirectory, hshort, ih hrest⟩
    · rw [stepTo_of_not_matters hmatters] at hrest
      rw [List.filter_cons_of_neg hmatters]
      exact ih hrest

theorem spot_eq_names (d : Disk) (path : String) :
    d.spot path = walk (d.start path) (Path.names path) := (walk_filter _ (Path.pieces path)).symm

theorem spot_congr (d : Disk) {a b : String} (habsolute : Path.isAbsolute a = Path.isAbsolute b)
    (hnames : Path.names a = Path.names b) : d.spot a = d.spot b := by
  rw [spot_eq_names, spot_eq_names, start_eq habsolute, hnames]

theorem passable_stays {d : Disk} {place : Trail} (hplace : d.node? place = some .directory)
    {stays rest : List String} (h : ∀ piece ∈ stays, ¬ Path.matters piece = true)
    (hrest : d.Passable place rest) : d.Passable place (stays ++ rest) := by
  induction stays with
  | nil => exact hrest
  | cons piece stays ih =>
    obtain ⟨hpiece, hstays⟩ := List.forall_mem_cons.1 h
    refine ⟨hplace, ?_, ?_⟩
    · rw [Path.matters_iff, not_and_or, not_not, not_not] at hpiece
      rcases hpiece with rfl | rfl <;> decide
    · rw [stepTo_of_not_matters hpiece]
      exact ih hstays

/-- A tidy path leads where the path does. -/
theorem place_tidy {d : Disk} {path : String} {target : Trail} (h : d.place path = .ok target) :
    d.place (Path.tidy path) = .ok target := by
  obtain ⟨-, hpassable, rfl⟩ := place_eq_ok_iff.1 h
  obtain ⟨lead, hlead, hpieces⟩ := Path.pieces_tidy path
  have habsolute := Path.isAbsolute_tidy path
  have hstart : d.node? (d.start path) = some .directory := by
    obtain ⟨piece, rest, heq⟩ := List.exists_cons_of_ne_nil (Path.pieces_ne_nil path)
    rw [heq] at hpassable
    exact hpassable.1
  refine place_eq_ok_iff.2 ⟨Path.tidy_ne_empty path, ?_,
    spot_congr d habsolute (Path.names_tidy path)⟩
  · rw [start_eq habsolute, hpieces]
    exact passable_stays hstart hlead (passable_names hpassable)

/-! ## Absolute paths -/

theorem walk_of_isName {ns : List String} (h : ∀ name ∈ ns, IsName name) (place : Trail) :
    walk place ns = place ++ ns := by
  induction ns generalizing place with
  | nil => exact (List.append_nil place).symm
  | cons name ns ih =>
    obtain ⟨hname, hns⟩ := List.forall_mem_cons.1 h
    rw [walk, List.foldl_cons, ← walk, stepTo_name hname, ih hns, List.append_assoc]
    rfl

theorem takeBack_eq_walk {ns : List String} (h : ∀ name ∈ ns, Path.matters name = true) :
    Path.takeBack ns = walk [] ns := by
  have hstack : ∀ stack : List String, (ns.foldl (fun stack name =>
      if name == ".." then stack.tail else name :: stack) stack).reverse
        = walk stack.reverse ns := by
    induction ns with
    | nil => exact fun _ => rfl
    | cons name ns ih =>
      obtain ⟨hname, hns⟩ := List.forall_mem_cons.1 h
      obtain ⟨hempty, hpoint⟩ := Path.matters_iff.1 hname
      intro stack
      have hstay : ¬ (name.isEmpty || name == ".") = true := by
        rw [Bool.or_eq_true, String.isEmpty_iff, beq_iff_eq, not_or]
        exact ⟨hempty, hpoint⟩
      rw [List.foldl_cons, ih hns, walk, walk, List.foldl_cons, stepTo, if_neg hstay]
      split
      · rw [List.dropLast_reverse]
      · rw [List.reverse_cons]
  exact hstack []

/-- Every name of a walk that begins at the root goes down. -/
theorem isName_of_mem_walk {ns : List String} (h : ∀ name ∈ ns, '/' ∉ name.toList)
    {place : Trail} (hplace : ∀ name ∈ place, IsName name) :
    ∀ name ∈ walk place ns, IsName name := by
  induction ns generalizing place with
  | nil => exact hplace
  | cons piece ns ih =>
    obtain ⟨hpiece, hns⟩ := List.forall_mem_cons.1 h
    refine ih hns ?_
    rcases stepTo_cases hpiece place with hstep | hstep | ⟨hname, hstep⟩
    · rw [hstep]
      exact hplace
    · rw [hstep]
      exact fun name hname => hplace name ((List.dropLast_sublist place).subset hname)
    · rw [hstep]
      exact fun other hother => (List.mem_append.1 hother).elim (hplace other)
        fun hlast => List.mem_singleton.1 hlast ▸ hname

/-- The working directory, as a path. -/
theorem names_workingDirectory {home : Trail} (h : ∀ name ∈ home, IsName name) :
    Path.isAbsolute ("/" ++ "/".intercalate home) = true ∧
      Path.names ("/" ++ "/".intercalate home) = home := by
  have hslash : "/" ++ "/".intercalate home = "" ++ "/" ++ "/".intercalate home := rfl
  refine ⟨Path.isAbsolute_append (by decide) _, ?_⟩
  rw [hslash, Path.names_append_slash, Path.names_intercalate fun name hname =>
    ⟨(h name hname).ne_empty, (h name hname).ne_point, (h name hname).not_mem⟩]
  rfl

/-- Every place that a path leads to is reached by names. -/
theorem isName_of_mem_spot {d : Disk} (hhome : ∀ name ∈ d.home, IsName name) (path : String) :
    ∀ name ∈ d.spot path, IsName name := by
  refine isName_of_mem_walk (fun _ => Path.not_mem_of_mem_pieces) ?_
  rw [start]
  split
  · exact List.forall_mem_nil _
  · exact hhome

theorem takeBack_names_join {d : Disk} (hhome : ∀ name ∈ d.home, IsName name) (path : String) :
    Path.takeBack (Path.names (Path.join ("/" ++ "/".intercalate d.home) path)) = d.spot path := by
  obtain ⟨-, hnames⟩ := names_workingDirectory hhome
  generalize "/" ++ "/".intercalate d.home = wd at hnames ⊢
  rw [takeBack_eq_walk fun name hname => Path.matters_iff.2
    ⟨(Path.mem_names hname).1, (Path.mem_names hname).2.1⟩]
  by_cases hpath : Path.isAbsolute path = true
  · have hjoin : Path.join wd path = path := if_pos hpath
    rw [hjoin, spot_eq_names, start, if_pos hpath]
  · rw [Bool.not_eq_true] at hpath
    rw [Path.names_join wd hpath, walk_append, hnames, walk_of_isName hhome, List.nil_append,
      spot_eq_names, start, hpath, if_neg Bool.false_ne_true]

/-- The absolute path of a path has the names of the place that it leads to. -/
theorem names_absolute {d : Disk} (hhome : ∀ name ∈ d.home, IsName name) (path : String) :
    Path.isAbsolute (Path.absolute ("/" ++ "/".intercalate d.home) path) = true ∧
      Path.names (Path.absolute ("/" ++ "/".intercalate d.home) path) = d.spot path := by
  have hspot : ∀ name ∈ d.spot path, name ≠ "" ∧ name ≠ "." ∧ '/' ∉ name.toList := fun name hname =>
    have h := isName_of_mem_spot hhome path name hname
    ⟨h.ne_empty, h.ne_point, h.not_mem⟩
  rw [Path.absolute, takeBack_names_join hhome, Path.names_root_append,
    Path.names_intercalate hspot, Path.isAbsolute_root_append (Path.isAbsolute_intercalate hspot)]
  refine ⟨?_, rfl⟩
  by_cases hpath : Path.isAbsolute path = true
  · have hjoin : Path.join ("/" ++ "/".intercalate d.home) path = path := if_pos hpath
    rw [hjoin, hpath]
  · rw [Bool.not_eq_true] at hpath
    rw [Path.isAbsolute_join _ hpath, (names_workingDirectory hhome).1]

theorem baseName_absolute {d : Disk} (hhome : ∀ name ∈ d.home, IsName name) {path name : String}
    {above : Trail} (hspot : d.spot path = above ++ [name]) :
    Path.baseName (Path.absolute ("/" ++ "/".intercalate d.home) path) = name := by
  have hslash : ∀ other ∈ above ++ [name], '/' ∉ other.toList := fun other hother =>
    (isName_of_mem_spot hhome path other (hspot ▸ hother)).not_mem
  rw [Path.absolute, takeBack_names_join hhome, hspot]
  obtain ⟨empties, -, hpieces⟩ := Path.pieces_root_append
    (Path.join ("/" ++ "/".intercalate d.home) path) ("/".intercalate (above ++ [name]))
  rw [Path.baseName, hpieces, Path.pieces_intercalate hslash (by simp), ← List.append_assoc,
    List.getLast?_concat]
  rfl

end Disk

end ControlSchema
