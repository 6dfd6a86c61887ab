import ControlSchema.Proofs.Bindings.Generation
import ControlSchema.Proofs.Table
import ControlSchema.Proofs.Text.Bytes

/-!
# Guards of generated source

The pieces of a control are spread over the source in three groupings: runs of
neighbours in the catalogue, single classes, and one display for each feature.
Read from the program, each grouping leaves one mark for each definition, under
the definition's own feature. Names are not repeated, so no mark is written over
another and all pieces of a control agree.
-/

namespace ControlSchema

open Source

namespace GatingMap

/-! ## Writing marks -/

/-- The guards of a name behind one more of its marks. -/
def marked (guards : Option Guards) (mark : Mark) : Option Guards :=
  some ((guards.getD []).put mark.piece mark.guard)

theorem get?_write (m : GatingMap) (mark : Mark) (name : String) : (write m mark).get? name
    = if mark.name == name then marked (m.get? name) mark else m.get? name := by
  rw [write, Table.get?_put]
  by_cases h : name = mark.name
  · subst h
    rw [if_pos (beq_self_eq_true _), if_pos (beq_self_eq_true _), marked]
  · rw [if_neg (mt eq_of_beq h), if_neg (mt eq_of_beq (Ne.symm h))]

/-- Only the marks of a name count for it, in their order. -/
theorem get?_foldl_write (marks : List Mark) (m : GatingMap) (name : String) :
    (marks.foldl write m).get? name
      = (marks.filter (·.name == name)).foldl marked (m.get? name) := by
  induction marks generalizing m with
  | nil => rfl
  | cons mark marks ih =>
    rw [List.foldl_cons, ih, get?_write, List.filter_cons]
    split <;> rfl

theorem keys_write (m : GatingMap) (mark : Mark) :
    (write m mark).keys = if mark.name ∈ m.keys then m.keys else m.keys ++ [mark.name] := by
  rw [write]
  split
  · rename_i h
    exact Table.keys_put_of_mem h _
  · rename_i h
    exact Table.keys_put_of_not_mem h _

/-- Names that are there stay where they are. -/
theorem keys_foldl_write_of_mem {marks : List Mark} {m : GatingMap}
    (h : ∀ mark ∈ marks, mark.name ∈ m.keys) : (marks.foldl write m).keys = m.keys := by
  induction marks generalizing m with
  | nil => rfl
  | cons mark marks ih =>
    have hkeys : (write m mark).keys = m.keys := by
      rw [keys_write, if_pos (h mark List.mem_cons_self)]
    rw [List.foldl_cons, ih, hkeys]
    intro other hother
    rw [hkeys]
    exact h other (List.mem_cons_of_mem mark hother)

/-- New names follow in the order of their marks. -/
theorem keys_foldl_write_of_nodup {marks : List Mark} {m : GatingMap}
    (h : (m.keys ++ marks.map Mark.name).Nodup) :
    (marks.foldl write m).keys = m.keys ++ marks.map Mark.name := by
  induction marks generalizing m with
  | nil => exact (List.append_nil _).symm
  | cons mark marks ih =>
    have hfresh : mark.name ∉ m.keys := fun hmem =>
      (List.nodup_append.1 h).2.2 _ hmem _ List.mem_cons_self rfl
    have hkeys : (write m mark).keys = m.keys ++ [mark.name] := by
      rw [keys_write, if_neg hfresh]
    rw [List.foldl_cons, ih, hkeys, List.append_assoc]
    · rfl
    · rw [hkeys, List.append_assoc]
      exact h

/-! ## Statements under guards -/

theorem guarded_append (feature : Option String) (xs ys : List Statement) :
    guarded feature (xs ++ ys) = guarded feature xs ++ guarded feature ys := by
  induction xs with
  | nil => rw [List.nil_append, guarded, List.nil_append]
  | cons s xs ih => rw [List.cons_append, guarded, guarded, ih, List.append_assoc]

theorem guarded_flatMap {α : Type} (feature : Option String) (as : List α)
    (f : α → List Statement) :
    guarded feature (as.flatMap f) = as.flatMap fun a => guarded feature (f a) := by
  induction as with
  | nil => rw [List.flatMap_nil, guarded, List.flatMap_nil]
  | cons a as ih => rw [List.flatMap_cons, List.flatMap_cons, guarded_append, ih]

/-- Statements that are no branches stand under the feature around them. -/
theorem guarded_plain {feature : Option String} {body : List Statement}
    (h : ∀ s ∈ body, guardedOne feature s = [(s, feature)]) :
    guarded feature body = body.map (·, feature) := by
  induction body with
  | nil => rw [guarded, List.map_nil]
  | cons s body ih =>
    rw [guarded, h s List.mem_cons_self, ih fun t ht => h t (List.mem_cons_of_mem s ht)]
    rfl

/-- A guard puts its body under its feature. -/
theorem guarded_guardStatements (feature : Option String) (body : List Statement) :
    guarded none (Layout.guardStatements feature body) = guarded feature body := by
  cases feature with
  | none => rfl
  | some feature =>
    have htest : featureOf? (Layout.guardTest feature) = some feature := rfl
    rw [Layout.guardStatements, guarded, guardedOne, htest, guarded, List.append_nil]

/-! ## The marks of a program -/

/-- The mark that a definition should leave. -/
def markOf (piece : Piece) (d : Definition) : Mark := ⟨d.name, piece, d.feature⟩

theorem marks_append (category : Category) (xs ys : List Statement) :
    marks category (xs ++ ys) = marks category xs ++ marks category ys := by
  rw [marks, guarded_append, List.flatMap_append]
  rfl

theorem marks_run {run : Definition × List Definition}
    (h : ∀ e ∈ run.2, e.feature = run.1.feature) :
    catalogueMarks (Layout.runStatements run)
      = (run.1 :: run.2).map (markOf .catalogue) := by
  have hplain : guarded run.1.feature ((run.1 :: run.2).map Layout.memberStatement)
      = (run.1 :: run.2).map fun e => (Layout.memberStatement e, run.1.feature) := by
    rw [guarded_plain, List.map_map]
    · rfl
    · intro s hs
      obtain ⟨e, -, rfl⟩ := List.mem_map.1 hs
      rfl
  rw [catalogueMarks, Layout.runStatements, guarded_guardStatements, hplain, List.flatMap_map,
    ← List.flatMap_singleton' ((run.1 :: run.2).map (markOf .catalogue)), List.flatMap_map]
  refine List.flatMap_congr fun e he => ?_
  have hfeature : e.feature = run.1.feature := by
    rcases List.mem_cons.1 he with rfl | he
    · rfl
    · exact h e he
  rw [markOf, hfeature]
  rfl

theorem marks_catalogue (category : Category) (ds : List Definition) :
    marks category [Layout.catalogueStatement category ds] = ds.map (markOf .catalogue) := by
  have hclass : marks category [Layout.catalogueStatement category ds]
      = catalogueMarks ((Layout.runs ds).flatMap Layout.runStatements) := by
    have hself : (category.idClass == category.idClass) = true := beq_self_eq_true _
    have hmarks : marks category [Layout.catalogueStatement category ds]
        = marksOf category (Layout.catalogueStatement category ds) none ++ [] := rfl
    rw [hmarks, List.append_nil, Layout.catalogueStatement, marksOf, if_pos hself]
    rfl
  have hruns : catalogueMarks ((Layout.runs ds).flatMap Layout.runStatements)
      = (Layout.runs ds).flatMap fun run => catalogueMarks (Layout.runStatements run) := by
    rw [catalogueMarks, guarded_flatMap, List.flatMap_assoc]
    rfl
  rw [hclass, hruns]
  conv_rhs => rw [← Layout.flatten_runs ds]
  rw [List.map_flatMap]
  exact List.flatMap_congr fun run hrun => marks_run (Layout.feature_of_mem_runs hrun)

theorem marks_class {category : Category} {d : Definition} (hname : d.name ≠ category.idClass) :
    marks category (Layout.classStatements category d) = [markOf .entryClass d] := by
  have hother : (d.name == category.idClass) = false := beq_eq_false_iff_ne.2 hname
  have hclass : guarded d.feature
      [Layout.classStatement (Layout.classMargin d) category d]
      = [(Layout.classStatement (Layout.classMargin d) category d, d.feature)] := rfl
  have hmarks : marks category (Layout.classStatements category d)
      = marksOf category (Layout.classStatement (Layout.classMargin d) category d) d.feature := by
    rw [marks, Layout.classStatements, guarded_guardStatements, hclass, List.flatMap_singleton]
  rw [hmarks, Layout.classStatement, marksOf, hother]
  rfl

theorem marks_classes {category : Category} {ds : List Definition}
    (hnames : ∀ d ∈ ds, d.name ≠ category.idClass) :
    marks category (ds.flatMap (Layout.classStatements category))
      = ds.map (markOf .entryClass) := by
  induction ds with
  | nil => rfl
  | cons d ds ih =>
    rw [List.flatMap_cons, marks_append, marks_class (hnames d List.mem_cons_self),
      ih fun e he => hnames e (List.mem_cons_of_mem d he)]
    rfl

/-! ## The marks of the dispatch table -/

theorem dispatchMarks_display (category : Category) (ds : List Definition)
    (feature : Option String) : dispatchMarks feature (Layout.display category ds feature)
      = (ds.filter (·.feature == feature)).map (markOf .dispatch) := by
  have hkeys (es : List Definition) :
      keyNames (.dict (es.map (Layout.dispatchItem category))) = es.map (·.name) := by
    rw [keyNames, List.filterMap_map]
    induction es with
    | nil => rfl
    | cons e es ih =>
      rw [List.filterMap_cons, ih]
      rfl
  rw [dispatchMarks, Layout.display, hkeys, List.map_map]
  refine List.map_congr_left fun d hd => ?_
  rw [Function.comp_apply, markOf, eq_of_beq (List.mem_filter.1 hd).2]

theorem marks_dispatch (category : Category) (ds : List Definition) :
    marks category (Layout.dispatchStatements category ds)
      = (ds.filter (·.feature == none)).map (markOf .dispatch)
        ++ (Layout.features ds).flatMap fun feature =>
          (ds.filter (·.feature == some feature)).map (markOf .dispatch) := by
  have htable : marks category [.annotated (.name "_DYN_TABLE") Layout.tableHint
      (some (Layout.display category ds none))]
      = dispatchMarks none (Layout.display category ds none) ++ [] := rfl
  have hupdate (feature : String) : marks category [Layout.updateStatement category ds feature]
      = dispatchMarks (some feature) (Layout.display category ds (some feature)) := by
    have htest : featureOf? (Layout.guardTest feature) = some feature := rfl
    rw [marks, guarded, Layout.updateStatement, guardedOne, htest]
    exact (List.append_nil _)
  have hupdates (fs : List String) : marks category (fs.map (Layout.updateStatement category ds))
      = fs.flatMap fun feature =>
        dispatchMarks (some feature) (Layout.display category ds (some feature)) := by
    induction fs with
    | nil => rfl
    | cons feature fs ih =>
      rw [List.map_cons, ← List.singleton_append, marks_append, hupdate, ih, List.flatMap_cons]
  rw [Layout.dispatchStatements, ← List.singleton_append, marks_append, htable, hupdates,
    List.append_nil, dispatchMarks_display]
  simp only [dispatchMarks_display]

theorem nodup_eraseDups (names : List String) : names.eraseDups.Nodup := by
  induction hn : names.length using Nat.strongRecOn generalizing names with
  | ind n ih =>
    cases names with
    | nil => exact List.nodup_nil
    | cons name names =>
      have hlength : (names.filter fun other => !other == name).length < n := by
        have := List.length_filter_le (fun other => !other == name) names
        rw [List.length_cons] at hn
        omega
      rw [List.eraseDups_cons, List.nodup_cons, List.mem_eraseDups]
      exact ⟨fun hmem => by simpa using (List.mem_filter.1 hmem).2, ih _ hlength _ rfl⟩

theorem flatMap_of_nodup {α : Type} {names : List String} (hnames : names.Nodup) {name : String}
    (hmem : name ∈ names) (as : List α) :
    names.flatMap (fun other => if other = name then as else []) = as := by
  induction names with
  | nil => cases hmem
  | cons first names ih =>
    obtain ⟨hfresh, hrest⟩ := List.nodup_cons.1 hnames
    rw [List.flatMap_cons]
    by_cases hfirst : first = name
    · have hnone : names.flatMap (fun other => if other = name then as else []) = [] := by
        refine List.flatMap_eq_nil_iff.2 fun other hother => if_neg ?_
        rintro rfl
        exact hfresh (by rwa [hfirst])
      rw [if_pos hfirst, hnone, List.append_nil]
    · rw [if_neg hfirst, List.nil_append]
      exact ih hrest ((List.mem_cons.1 hmem).resolve_left (Ne.symm hfirst))

/-! ## The marks of one name -/

section

variable {ds : List Definition} (hnodup : (ds.map (·.name)).Nodup) {d : Definition} (hd : d ∈ ds)
include hnodup hd

theorem filter_name : ds.filter (·.name == d.name) = [d] := by
  induction ds with
  | nil => cases hd
  | cons e ds ih =>
    obtain ⟨hfresh, hrest⟩ := List.nodup_cons.1 hnodup
    rw [List.filter_cons]
    rcases List.mem_cons.1 hd with rfl | hmem
    · have hnone : ds.filter (·.name == d.name) = [] := by
        exact List.filter_eq_nil_iff.2 fun f hf heq =>
          hfresh (List.mem_map.2 ⟨f, hf, eq_of_beq heq⟩)
      rw [if_pos (beq_self_eq_true _), hnone]
    · have hne : ¬ (e.name == d.name) = true := fun heq =>
        hfresh (List.mem_map.2 ⟨d, hmem, (eq_of_beq heq).symm⟩)
      rw [if_neg hne, ih hrest hmem]

theorem filter_marks (piece : Piece) :
    (ds.map (markOf piece)).filter (·.name == d.name) = [markOf piece d] := by
  have hfilter := filter_name hnodup hd
  rw [List.filter_map]
  exact congrArg (List.map (markOf piece)) hfilter

theorem filter_dispatch (feature : Option String) :
    ((ds.filter (·.feature == feature)).map (markOf .dispatch)).filter (·.name == d.name)
      = if d.feature = feature then [markOf .dispatch d] else [] := by
  have hfilter : (ds.filter (·.feature == feature)).filter (·.name == d.name)
      = if d.feature = feature then [d] else [] := by
    rw [List.filter_comm, filter_name hnodup hd, List.filter_cons, List.filter_nil]
    simp only [beq_iff_eq]
  rw [List.filter_map]
  refine (congrArg (List.map (markOf .dispatch)) hfilter).trans ?_
  split <;> rfl

theorem filter_dispatches (category : Category) :
    (marks category (Layout.dispatchStatements category ds)).filter (·.name == d.name)
      = [markOf .dispatch d] := by
  rw [marks_dispatch, List.filter_append, List.filter_flatMap, filter_dispatch hnodup hd]
  simp only [filter_dispatch hnodup hd]
  cases hfeature : d.feature with
  | none =>
    rw [if_pos rfl, List.flatMap_eq_nil_iff.2 fun feature _ =>
      if_neg (Option.some_ne_none feature).symm]
    rfl
  | some feature =>
    have hmem : feature ∈ Layout.features ds := by
      rw [Layout.features, List.mem_eraseDups]
      exact List.mem_filterMap.2 ⟨d, hd, hfeature⟩
    have hfeatures : (Layout.features ds).Nodup := nodup_eraseDups _
    have hflat := flatMap_of_nodup hfeatures hmem [markOf .dispatch d]
    rw [if_neg (Option.some_ne_none feature), List.nil_append]
    simpa only [Option.some.injEq, eq_comm] using hflat

end

/-! ## The map of a program -/

/-- The guards of a control whose pieces all stand under its own feature. -/
def uniform (feature : Option String) : Guards :=
  [(.catalogue, feature), (.entryClass, feature), (.dispatch, feature)]

theorem agree_uniform (feature : Option String) : (uniform feature).agree = true := by
  have hself : (feature == feature) = true := beq_self_eq_true _
  have hagree : (uniform feature).agree = (feature == feature && feature == feature) := rfl
  rw [hagree, hself]
  rfl

section

variable {s : Snapshot} {category : Category}
  (hnodup : ((s.definitions category).map (·.name)).Nodup)
  (hnames : ∀ d ∈ s.definitions category, d.name ≠ category.idClass)
include hnames

theorem marks_program : marks category (Layout.program s category)
    = (s.definitions category).map (markOf .catalogue)
      ++ (s.definitions category).map (markOf .entryClass)
      ++ marks category (Layout.dispatchStatements category (s.definitions category)) := by
  have hpreamble : marks category (Layout.preambleStatements s.version category) = [] := rfl
  have hclosing : marks category (Layout.closingStatements category) = [] := rfl
  rw [Layout.program]
  simp only [marks_append, hpreamble, hclosing, marks_catalogue, marks_classes hnames,
    List.nil_append, List.append_nil]

include hnodup

theorem keys_program : (ofStatements category (Layout.program s category)).keys
    = (s.definitions category).map (·.name) := by
  have hcatalogue : (((s.definitions category).map (markOf .catalogue)).foldl write []).keys
      = (s.definitions category).map (·.name) := by
    have hkeys := @keys_foldl_write_of_nodup ((s.definitions category).map (markOf .catalogue)) []
      (by
        rw [List.map_map]
        exact hnodup)
    rw [hkeys, List.map_map]
    rfl
  have hmem {d : Definition} (hd : d ∈ s.definitions category) :
      d.name ∈ (s.definitions category).map (·.name) := List.mem_map.2 ⟨d, hd, rfl⟩
  rw [ofStatements, marks_program hnames, List.append_assoc, List.foldl_append,
    keys_foldl_write_of_mem, hcatalogue]
  rw [hcatalogue, marks_dispatch]
  intro mark hmark
  simp only [List.mem_append, List.mem_map, List.mem_flatMap, List.mem_filter] at hmark
  rcases hmark with ⟨d, hd, rfl⟩ | ⟨d, ⟨hd, -⟩, rfl⟩ | ⟨feature, -, d, ⟨hd, -⟩, rfl⟩
  · exact hmem hd
  · exact hmem hd
  · exact hmem hd

theorem get?_program {d : Definition} (hd : d ∈ s.definitions category) :
    (ofStatements category (Layout.program s category)).get? d.name
      = some (uniform d.feature) := by
  rw [ofStatements, get?_foldl_write, marks_program hnames, List.filter_append,
    List.filter_append, filter_marks hnodup hd, filter_marks hnodup hd,
    filter_dispatches hnodup hd]
  rfl

/-- The pieces of every control agree. -/
theorem mismatched_program :
    (ofStatements category (Layout.program s category)).mismatched = [] := by
  have hkeys := keys_program hnodup hnames
  refine List.filter_eq_nil_iff.2 fun entry hentry => ?_
  obtain ⟨name, guards⟩ := entry
  have hfound := Table.get?_of_mem (by rw [hkeys]; exact hnodup) hentry
  have hname : name ∈ (s.definitions category).map (·.name) := by
    rw [← hkeys]
    exact List.mem_map.2 ⟨_, hentry, rfl⟩
  obtain ⟨d, hd, rfl⟩ := List.mem_map.1 hname
  rw [get?_program hnodup hnames hd] at hfound
  cases hfound
  simp [agree_uniform]

end

end GatingMap

/-! ## Generated source -/

namespace Bindings

open GatingMap

/-- Generation succeeds for names that are checked, numbers that can be written and source that can
be read, and gives out the text of the layout. -/
theorem generate_eq_ok_iff {s : Snapshot} (hs : s.Accepted) (hversion : s.version.IsWritten)
    {category : Category} {text : String} :
    generate s category = .ok text ↔ checkNames [] (s.definitions category) = .ok () ∧
      isWritable s category = true ∧ ((∀ d ∈ s.definitions category, d.IsPlain) ∧
        (∀ d ∈ s.definitions category, d.isReadable = true) ∧
        '\x00' ∉ (Layout.text s category).toList) ∧ text = Layout.text s category := by
  have hread {statements : List Statement} (hnamed : Named (s.definitions category)) :=
    @Layout.read?_text_eq_some_iff s category hversion
      (fun d hd => ⟨hs.definitions category d hd, hnamed.isKeyword hd⟩) statements
  rcases generate_cases s category with ⟨e, hnames, hgenerate⟩ | ⟨-, hlong, hgenerate⟩ |
    ⟨hnames, -, hnone, hgenerate⟩ | ⟨statements, hnames, hwritable, hsome, hgenerate⟩
  · rw [hgenerate, hnames]
    exact ⟨nofun, fun h => nomatch h.1⟩
  · rw [hgenerate, hlong]
    exact ⟨nofun, fun h => nomatch h.2.1⟩
  · obtain ⟨hnamed, -⟩ := named_of_checkNames hnames
    rw [hgenerate]
    refine ⟨nofun, fun h => ?_⟩
    rw [(hread hnamed).2 ⟨h.2.2.1, rfl⟩] at hnone
    cases hnone
  · obtain ⟨hnamed, -⟩ := named_of_checkNames hnames
    obtain ⟨hreadable, rfl⟩ := (hread hnamed).1 hsome
    rw [mismatched_program hnamed.nodup fun d hd => hnamed.ne_idClass hd category,
      List.isEmpty_nil, if_pos rfl] at hgenerate
    rw [hgenerate, Except.ok.injEq, eq_comm]
    exact ⟨fun h => ⟨hnames, hwritable, hreadable, h⟩, fun h => h.2.2.2⟩

/-- A control of the core vendor and an enumeration of another vendor. -/
def sample : Snapshot where
  version := ⟨0, 4, 0, []⟩
  controls := [
    ⟨"AeEnable", "libcamera", .bool, "Enables exposure.", .scalar, none⟩,
    ⟨"SyncMode", "rpi", .int32, "", .scalar,
      some [⟨"SyncModeOff", 0, "No sync."⟩, ⟨"SyncModeServer", 1, ""⟩]⟩]
  properties := []

theorem accepted_sample : sample.Accepted := by
  refine Snapshot.accepted_of_controls ?_ (by decide)
  refine List.forall_mem_cons.2 ⟨Definition.accepted_of_core (by decide),
    List.forall_mem_singleton.2 ⟨by decide, ⟨"rpi", by decide +kernel⟩, by decide, ?_⟩⟩
  refine Definition.check_eq_ok_iff.2 fun enumerators henumerators => ?_
  cases henumerators
  exact ⟨⟨_, _, rfl, by decide⟩, rfl, ["Off", "Server"], rfl, by decide⟩

theorem isWritten_sample : sample.version.IsWritten := Version.isWritten_of_pre_eq_nil rfl

theorem generate_sample :
    generate sample .controls = .ok (Layout.text sample .controls) := by
  refine (generate_eq_ok_iff accepted_sample isWritten_sample).2 ⟨rfl, rfl, ⟨?_, ?_, ?_⟩, rfl⟩
  · show ∀ d ∈ sample.controls, Naming.isPlainName d.name.toList = true
    decide
  · decide +kernel
  · exact Layout.null_not_mem_text (by decide +kernel)

/-- The map of guards of a generated text has the names of its definitions, and
every piece of a control stands under the feature of its definition. No accepted
snapshot is refused for uneven guards. -/
theorem gatingMap_of_generate {s : Snapshot} (hs : s.Accepted) (hversion : s.version.IsWritten)
    (category : Category) :
    (∀ text, generate s category = .ok text → ∃ m, gatingMap text category = .ok m ∧
      m.keys = (s.definitions category).map (·.name) ∧ m.keys.Nodup ∧
      ∀ d ∈ s.definitions category, m.get? d.name
        = some [(.catalogue, d.feature), (.entryClass, d.feature), (.dispatch, d.feature)]) ∧
    ∀ other mismatched, generate s category ≠ .error (.unevenGuards other mismatched) := by
  have hnodup := hs.names category
  rcases generate_cases s category with ⟨e, hnames, hgenerate⟩ | ⟨-, -, hgenerate⟩ |
    ⟨-, -, -, hgenerate⟩ | ⟨statements, hnames, -, hread, hgenerate⟩
  · rw [hgenerate]
    refine ⟨nofun, fun other mismatched heq => ?_⟩
    cases heq
    exact ne_unevenGuards_of_checkNames hnames other mismatched rfl
  · rw [hgenerate]
    exact ⟨nofun, nofun⟩
  · rw [hgenerate]
    exact ⟨nofun, nofun⟩
  · obtain ⟨hnamed, -⟩ := named_of_checkNames hnames
    have hids : ∀ d ∈ s.definitions category, d.name ≠ category.idClass := fun d hd =>
      hnamed.ne_idClass hd category
    obtain ⟨-, rfl⟩ := (Layout.read?_text_eq_some_iff hversion
      fun d hd => ⟨hs.definitions category d hd, hnamed.isKeyword hd⟩).1 hread
    rw [mismatched_program hnodup hids, List.isEmpty_nil, if_pos rfl] at hgenerate
    rw [hgenerate]
    refine ⟨fun text htext => ?_, nofun⟩
    cases htext
    have hkeys := keys_program hnodup hids
    refine ⟨ofStatements category (Layout.program s category), ?_, hkeys, by rwa [hkeys],
      fun d hd => get?_program hnodup hids hd⟩
    rw [gatingMap, hread]

theorem gatingMap_of_generate_sample : sample.Accepted ∧ sample.version.IsWritten ∧
    generate sample .controls = .ok (Layout.text sample .controls) ∧
    ∃ m, gatingMap (Layout.text sample .controls) .controls = .ok m ∧
      m.keys = ["AeEnable", "SyncMode"] ∧
      m.get? "AeEnable" = some [(.catalogue, none), (.entryClass, none), (.dispatch, none)] ∧
      m.get? "SyncMode" = some [(.catalogue, some "vendor_rpi"), (.entryClass, some "vendor_rpi"),
        (.dispatch, some "vendor_rpi")] := by
  have hgating := gatingMap_of_generate accepted_sample isWritten_sample .controls
  obtain ⟨m, hm, hkeys, -, hguards⟩ := hgating.1 _ generate_sample
  exact ⟨accepted_sample, isWritten_sample, generate_sample, m, hm, hkeys,
    hguards _ List.mem_cons_self, hguards _ (List.mem_cons_of_mem _ List.mem_cons_self)⟩

end Bindings

end ControlSchema
