import ControlSchema.Proofs.Features

/-!
# Numbers of constants

The constants of a category are written into a table one after another, each
under its name and with its place as its number. The names of definitions differ,
but those of their constants need not: the upper snake case forgets how letters
are capitalised. Where two definitions share a constant, the table keeps the
later number only, and an interpreter over these numbers keeps one definition for
both.

So everything turns on one condition. The table is the plain enumeration of the
definitions, and an interpreter has a decoder for each definition that is
enabled, exactly when no two of the definitions share a constant.

These numbers are only a proposal. Interpreters and modules take theirs from the
runtime, and nothing else in an entry depends on them. So a runtime that numbers
the same constants in another way renumbers the entries and does no more, as long
as different numbers stay different.
-/

namespace ControlSchema

namespace Snapshot

/-! ## The enumeration -/

theorem map_fst_numbered (next : Nat) (ds : List Definition) :
    (numbered next ds).map Prod.fst = ds.map (·.linkageName) := by
  induction ds generalizing next with
  | nil => rfl
  | cons d ds ih => rw [numbered, List.map_cons, List.map_cons, ih]

theorem le_of_mem_numbered {next : Nat} {ds : List Definition} {entry : String × Nat}
    (h : entry ∈ numbered next ds) : next ≤ entry.2 := by
  induction ds generalizing next with
  | nil => cases h
  | cons d ds ih =>
    rw [numbered] at h
    rcases List.mem_cons.1 h with rfl | h
    · exact Nat.le_refl next
    · exact Nat.le_of_succ_le (ih h)

/-- A number belongs to one constant. -/
theorem eq_of_mem_numbered {next : Nat} {ds : List Definition} {entry other : String × Nat}
    (h : entry ∈ numbered next ds) (h' : other ∈ numbered next ds) (hid : entry.2 = other.2) :
    entry = other := by
  induction ds generalizing next with
  | nil => cases h
  | cons d ds ih =>
    rw [numbered] at h h'
    rcases List.mem_cons.1 h with rfl | h
    · rcases List.mem_cons.1 h' with rfl | h'
      · rfl
      · have hle := le_of_mem_numbered h'
        rw [← hid] at hle
        exact absurd hle (Nat.not_succ_le_self next)
    · rcases List.mem_cons.1 h' with rfl | h'
      · have hle := le_of_mem_numbered h
        rw [hid] at hle
        exact absurd hle (Nat.not_succ_le_self next)
      · exact ih h h'

variable {s : Snapshot} {category : Category}

theorem mem_keys_linkageIds {name : String} : name ∈ (s.linkageIds category).keys ↔
    ∃ d ∈ s.definitions category, d.linkageName = name := by
  rw [linkageIds, Table.mem_keys_ofPairs, map_fst_numbered, List.mem_map]

theorem mem_numbered_of_get? {name : String} {id : Nat}
    (h : (s.linkageIds category).get? name = some id) :
    (name, id) ∈ numbered 1 (s.definitions category) := by
  rw [linkageIds, Table.ofPairs_eq_merge, Table.get?_merge] at h
  cases hfound : Table.get? (numbered 1 (s.definitions category)).reverse name with
  | none =>
    rw [hfound] at h
    cases h
  | some found =>
    rw [hfound] at h
    cases h
    exact List.mem_reverse.1 (Table.mem_of_get? hfound)

theorem linkageIds_eq_numbered_iff :
    s.linkageIds category = numbered 1 (s.definitions category) ↔
      ((s.definitions category).map (·.linkageName)).Nodup := by
  rw [← map_fst_numbered 1]
  refine ⟨fun h => ?_, Table.ofPairs_of_nodup⟩
  rw [← h]
  exact Table.nodup_keys_ofPairs _

end Snapshot

/-! ## Interpreters over these numbers -/

namespace LinkedRuntime

variable {s : Snapshot} {category : Category} {d e : Definition}

theorem ids_ofSnapshot (s : Snapshot) (category : Category) : (ofSnapshot s).ids category
    = (s.linkageIds category).map fun entry => (entry.1, (entry.2 : Int)) := by
  cases category <;> rfl

theorem get?_ids_ofSnapshot (name : String) : ((ofSnapshot s).ids category).get? name
    = ((s.linkageIds category).get? name).map fun (id : Nat) => (id : Int) := by
  rw [ids_ofSnapshot]
  exact Table.get?_map _ _ _

/-- Every definition has a number. -/
theorem exists_number (hd : d ∈ s.definitions category) : ∃ id : Nat,
    (s.linkageIds category).get? d.linkageName = some id ∧
      ((ofSnapshot s).ids category).get? d.linkageName = some (id : Int) := by
  have hmem : d.linkageName ∈ (s.linkageIds category).keys :=
    Snapshot.mem_keys_linkageIds.2 ⟨d, hd, rfl⟩
  obtain ⟨entry, hentry, hname⟩ := List.mem_map.1 hmem
  have hget := Table.get?_of_mem (Table.nodup_keys_ofPairs _) hentry
  rw [hname] at hget
  refine ⟨entry.2, hget, ?_⟩
  rw [get?_ids_ofSnapshot]
  exact congrArg (Option.map _) hget

theorem defines_ofSnapshot (hd : d ∈ s.definitions category) :
    (ofSnapshot s).defines category d = true := by
  obtain ⟨id, -, hid⟩ := exists_number hd
  exact defines_iff.2 ⟨_, hid⟩

theorem find?_not_defines_ofSnapshot {ds : List Definition}
    (h : ∀ d ∈ ds, d ∈ s.definitions category) :
    ds.find? (fun d => !(ofSnapshot s).defines category d) = none :=
  find?_eq_none_iff.2 fun d hd => defines_ofSnapshot (h d hd)

/-- Two definitions get one number when they share a constant. -/
theorem idOf_ofSnapshot_eq_iff (hd : d ∈ s.definitions category)
    (he : e ∈ s.definitions category) :
    (ofSnapshot s).idOf category d = (ofSnapshot s).idOf category e ↔
      d.linkageName = e.linkageName := by
  refine ⟨fun h => ?_, fun h => by rw [idOf, idOf, h]⟩
  obtain ⟨m, hm, hdm⟩ := exists_number hd
  obtain ⟨n, hn, hen⟩ := exists_number he
  rw [idOf, idOf, hdm, hen, Option.getD_some, Option.getD_some, Int.natCast_inj] at h
  subst h
  have hentry := Snapshot.eq_of_mem_numbered (Snapshot.mem_numbered_of_get? hm)
    (Snapshot.mem_numbered_of_get? hn) rfl
  exact (Prod.mk.inj hentry).1

end LinkedRuntime

/-- The interpreter over a snapshot's own numbers exists, and it has a decoder for
each of its definitions exactly when no two of them share a constant. -/
theorem Interpreter.size_ofSnapshot_ofSnapshot {s : Snapshot} {category : Category}
    {enabled : String → Bool}
    (hallowed : ∀ d ∈ enabledDefinitions s category enabled, d.name ≠ Identifiers.forbiddenName) :
    ∃ i, ofSnapshot s category (LinkedRuntime.ofSnapshot s) enabled = .ok i ∧
      (i.size = (enabledDefinitions s category enabled).length ↔
        ((enabledDefinitions s category enabled).map (·.linkageName)).Nodup) := by
  have hmem {d : Definition} (hd : d ∈ enabledDefinitions s category enabled) :
      d ∈ s.definitions category := (Bindings.mem_enabledDefinitions.1 hd).1
  refine ⟨_, ofSnapshot_of_allowed hallowed
    (LinkedRuntime.find?_not_defines_ofSnapshot fun _ => hmem), ?_⟩
  have hlength := @Table.length_ofPairs_eq_iff Int Definition _ _
    ((enabledDefinitions s category enabled).map fun d =>
      ((LinkedRuntime.ofSnapshot s).idOf category d, d))
  rw [List.length_map, List.map_map] at hlength
  rw [size, hlength, List.Nodup, List.Nodup, List.pairwise_map, List.pairwise_map]
  exact List.Pairwise.iff_of_mem fun hd he =>
    not_congr (LinkedRuntime.idOf_ofSnapshot_eq_iff (hmem hd) (hmem he))

/-- The numbers of a category are one to the number of its definitions, each
definition under its own constant, exactly when no two definitions share a
constant; and then, only then, an interpreter over these numbers tells all
definitions apart. -/
theorem Snapshot.linkageIds_sequential_iff (s : Snapshot) (category : Category) :
    (s.linkageIds category = numbered 1 (s.definitions category) ↔
      ((s.definitions category).map (·.linkageName)).Nodup) ∧
    ∀ enabled, (∀ d ∈ Interpreter.enabledDefinitions s category enabled,
        d.name ≠ Identifiers.forbiddenName) →
      ∃ i, Interpreter.ofSnapshot s category (LinkedRuntime.ofSnapshot s) enabled = .ok i ∧
        (i.size = (Interpreter.enabledDefinitions s category enabled).length ↔
          ((Interpreter.enabledDefinitions s category enabled).map (·.linkageName)).Nodup) :=
  ⟨linkageIds_eq_numbered_iff, fun _ => Interpreter.size_ofSnapshot_ofSnapshot⟩

theorem Snapshot.linkageIds_sequential_sample :
    Bindings.sample.linkageIds .controls = numbered 1 Bindings.sample.controls ∧
    ∃ i, Interpreter.ofSnapshot Bindings.sample .controls
      (LinkedRuntime.ofSnapshot Bindings.sample) (fun _ => true) = .ok i ∧ i.size = 2 := by
  obtain ⟨hids, hsizes⟩ := linkageIds_sequential_iff Bindings.sample .controls
  obtain ⟨i, hi, hsize⟩ := hsizes (fun _ => true) (by decide)
  exact ⟨hids.2 (by decide +kernel), i, hi, hsize.2 (by decide +kernel)⟩

/-- Two controls that differ in one capital letter. -/
def Snapshot.collision : Snapshot where
  version := ⟨0, 1, 0, []⟩
  controls := [⟨"AeEnable", "libcamera", .bool, "", .scalar, none⟩,
    ⟨"AEEnable", "libcamera", .bool, "", .scalar, none⟩]
  properties := []

theorem Snapshot.accepted_collision : collision.Accepted := by
  refine accepted_of_controls ?_ (by decide)
  exact List.forall_mem_cons.2 ⟨Definition.accepted_of_core (by decide),
    List.forall_mem_singleton.2 (Definition.accepted_of_core (by decide))⟩

/-- Both are accepted, and the second takes the constant of the first. -/
theorem Snapshot.linkageIds_collision : collision.Accepted ∧
    collision.linkageIds .controls = [("AE_ENABLE", 2)] ∧
    ∃ i, Interpreter.ofSnapshot collision .controls (LinkedRuntime.ofSnapshot collision)
      (fun _ => true) = .ok i ∧ i.size = 1 := by
  have hfirst : Naming.linkageName "AeEnable" = "AE_ENABLE" := by
    rw [Naming.linkageName_ofList]
    rfl
  have hsecond : Naming.linkageName "AEEnable" = "AE_ENABLE" := by
    rw [Naming.linkageName_ofList]
    rfl
  have hids : collision.linkageIds .controls = [("AE_ENABLE", 2)] := by
    show Table.ofPairs [(Naming.linkageName "AeEnable", 1), (Naming.linkageName "AEEnable", 2)] = _
    rw [hfirst, hsecond]
    rfl
  obtain ⟨first, second, hcontrols, hlinkage⟩ : ∃ first second,
      Interpreter.enabledDefinitions collision .controls (fun _ => true) = [first, second] ∧
        first.linkageName = second.linkageName := ⟨_, _, rfl, hfirst.trans hsecond.symm⟩
  have hmem {d : Definition} (hd : d ∈ [first, second]) : d ∈ collision.definitions .controls := by
    rw [← hcontrols] at hd
    exact (Bindings.mem_enabledDefinitions.1 hd).1
  have hid := (LinkedRuntime.idOf_ofSnapshot_eq_iff (hmem List.mem_cons_self)
    (hmem (List.mem_cons_of_mem _ List.mem_cons_self))).2 hlinkage
  refine ⟨accepted_collision, hids, _, Interpreter.ofSnapshot_of_allowed (by decide)
    (LinkedRuntime.find?_not_defines_ofSnapshot fun d hd => hmem (by rwa [← hcontrols])), ?_⟩
  rw [Interpreter.size, hcontrols]
  simp [Table.ofPairs, Table.put, hid]

/-! ## Other numbers for the same constants -/

namespace LinkedRuntime

/-- The runtime with another number for every constant. -/
def renumbered (runtime : LinkedRuntime) (renumber : Int → Int) : LinkedRuntime where
  version := runtime.version
  controls := runtime.controls.map fun entry => (entry.1, renumber entry.2)
  properties := runtime.properties.map fun entry => (entry.1, renumber entry.2)

variable {runtime : LinkedRuntime} {renumber : Int → Int} {category : Category} {d : Definition}

theorem get?_ids_renumbered (name : String) : ((runtime.renumbered renumber).ids category).get? name
    = ((runtime.ids category).get? name).map renumber := by
  cases category <;> exact Table.get?_map _ _ _

theorem defines_renumbered (renumber : Int → Int) :
    (runtime.renumbered renumber).defines category d = runtime.defines category d := by
  rw [Bool.eq_iff_iff, defines_iff, defines_iff, get?_ids_renumbered]
  cases (runtime.ids category).get? d.linkageName with
  | none => exact Iff.rfl
  | some id => exact iff_of_true ⟨_, rfl⟩ ⟨_, rfl⟩

theorem idOf_renumbered (renumber : Int → Int) (h : runtime.defines category d = true) :
    (runtime.renumbered renumber).idOf category d = renumber (runtime.idOf category d) := by
  obtain ⟨id, hid⟩ := defines_iff.1 h
  rw [idOf, idOf, get?_ids_renumbered, hid]
  rfl

end LinkedRuntime

section

variable {E : Type} [Dynamic E]

/-- One entry under two numbers. -/
structure Moved (id id' : Int) (a b : E) : Prop where
  before : Dynamic.id a = id
  after : Dynamic.id b = id'
  name : Dynamic.name b = Dynamic.name a
  shown : Dynamic.shown b = Dynamic.shown a
  value : Dynamic.value b = Dynamic.value a

/-- The same error, or one entry under two numbers. -/
def MovedResults {ε : Type} (id id' : Int) : Except ε E → Except ε E → Prop
  | .ok a, .ok b => Moved id id' a b
  | .error e, .error f => e = f
  | _, _ => False

theorem MovedResults.mapError {ε ε' : Type} {id id' : Int} {x y : Except ε E}
    (h : MovedResults id id' x y) (f : ε → ε') :
    MovedResults id id' (x.mapError f) (y.mapError f) := by
  cases x with
  | error e =>
    cases y with
    | error e' => exact congrArg f h
    | ok b => exact h
  | ok a =>
    cases y with
    | error e' => exact h
    | ok b => exact h

theorem Definition.moved_interpret (d : Definition) (id id' : Int) (value : ControlValue) :
    MovedResults id id' (d.interpret id value) (d.interpret id' value) := by
  cases hpayload : value.extract d.descriptor with
  | error e =>
    rw [interpret_of_error hpayload, interpret_of_error hpayload]
    rfl
  | ok payload =>
    rw [interpret_of_extract hpayload, interpret_of_extract hpayload]
    split
    · exact ⟨rfl, rfl, rfl, rfl, rfl⟩
    · rfl

/-- The number of a class is no part of what it makes of a value. -/
theorem EntryClass.moved_ofValue {c c' : EntryClass} (hname : c'.name = c.name)
    (hdescriptor : c'.descriptor = c.descriptor) (hform : c'.form = c.form)
    (value : ControlValue) :
    MovedResults c.id c'.id (c.ofValue value) (c'.ofValue value) := by
  cases hc : c.form with
  | wrapper =>
    rw [ofValue_wrapper hc, ofValue_wrapper (hform.trans hc), hdescriptor]
    cases value.extract c.descriptor with
    | error e => rfl
    | ok payload =>
      refine ⟨rfl, rfl, hname, ?_, congrArg (ControlValue.pack · payload) hdescriptor⟩
      exact congrArg (· ++ "(" ++ payload.shown ++ ")") hname
  | enumeration members =>
    cases hraw : value.toScalar c.descriptor.kind with
    | error e =>
      rw [ofValue_of_error hc hraw, ofValue_of_error (hform.trans hc) (hdescriptor ▸ hraw)]
      rfl
    | ok raw =>
      have hmember : c'.memberOf? raw = c.memberOf? raw := by
        rw [memberOf?, memberOf?, EntryClass.members, EntryClass.members, hform]
      rw [ofValue_of_toScalar hc hraw, ofValue_of_toScalar (hform.trans hc) (hdescriptor ▸ hraw),
        hmember]
      cases c.memberOf? raw with
      | none => rfl
      | some member =>
        refine ⟨rfl, rfl, hname, congrArg (· ++ "." ++ member.1) hname, ?_⟩
        exact congrArg (fun x : Descriptor => ControlValue.construct x.kind _) hdescriptor

/-- The second way to entries knows every number under another one, and no further numbers. What a
value becomes is the same for both but for the number of the entry. -/
structure Renumbers (known : Int → Prop) (renumber : Int → Int)
    (make make' : Int → ControlValue → Except DispatchError E) : Prop where
  kept (id : Int) (h : known id) (value : ControlValue) : ¬ IsUnknown (make id value) ∧
    MovedResults id (renumber id) (make id value) (make' (renumber id) value)
  unknown (id : Int) (h : ¬ known id) (value : ControlValue) : Misses id (make id value)
  lost (id : Int) (h : ∀ other, known other → renumber other ≠ id) (value : ControlValue) :
    Misses id (make' id value)

/-- The number is that of some of the definitions. -/
def LinkedRuntime.Numbers (runtime : LinkedRuntime) (category : Category) (ds : List Definition)
    (id : Int) : Prop := ∃ d ∈ ds, runtime.constant category d.linkageName = .ok id

variable {ds : List Definition} {runtime : LinkedRuntime} {category : Category}

theorem LinkedRuntime.numbers_iff (hdefines : ∀ d ∈ ds, runtime.defines category d = true)
    {id : Int} : runtime.Numbers category ds id ↔ ∃ d ∈ ds, runtime.idOf category d = id := by
  refine exists_congr fun d => and_congr_right fun hd => ?_
  rw [constant_of_defines (hdefines d hd), Except.ok.injEq]

variable {renumber : Int → Int} {answer answer' : Definition → ControlValue → Except ValueError E}
  {make make' : Int → ControlValue → Except DispatchError E}

/-- Numbers lead to definitions in both ways, so it is enough that one definition makes the same of
a value under both of its numbers. -/
theorem Dispatches.renumbers (hdefines : ∀ d ∈ ds, runtime.defines category d = true)
    (h : Dispatches ds (runtime.idOf category) answer make)
    (h' : Dispatches ds ((runtime.renumbered renumber).idOf category) answer' make')
    (hmoved : ∀ d ∈ ds, ∀ value, MovedResults (runtime.idOf category d)
      (renumber (runtime.idOf category d)) (answer d value) (answer' d value)) :
    Renumbers (runtime.Numbers category ds) renumber make make' where
  kept id hid value := by
    obtain ⟨d, hd, rfl⟩ := (LinkedRuntime.numbers_iff hdefines).1 hid
    rw [← LinkedRuntime.idOf_renumbered renumber (hdefines d hd), h.known hd, h'.known hd,
      LinkedRuntime.idOf_renumbered renumber (hdefines d hd)]
    exact ⟨not_isUnknown_mapError _, (hmoved d hd value).mapError DispatchError.conversion⟩
  unknown id hid value :=
    h.misses (fun d hd heq => hid ((LinkedRuntime.numbers_iff hdefines).2 ⟨d, hd, heq⟩)) value
  lost id hid value := by
    refine h'.misses (fun d hd heq => ?_) value
    rw [LinkedRuntime.idOf_renumbered renumber (hdefines d hd)] at heq
    exact hid _ ((LinkedRuntime.numbers_iff hdefines).2 ⟨d, hd, rfl⟩) heq

end

section

variable {ds : List Definition} {runtime : LinkedRuntime} {category : Category}
  {renumber : Int → Int}

/-- Definitions that the numbers tell apart stay apart under other numbers. -/
theorem LinkedRuntime.Distinguishes.eq_of_idOf_renumbered
    (hdistinct : runtime.Distinguishes category ds)
    (hdefines : ∀ d ∈ ds, runtime.defines category d = true)
    (hinjective : ∀ id, runtime.Numbers category ds id → ∀ other,
      runtime.Numbers category ds other → renumber id = renumber other → id = other) :
    ∀ d ∈ ds, ∀ e ∈ ds, (runtime.renumbered renumber).idOf category d
      = (runtime.renumbered renumber).idOf category e → d = e := by
  intro d hd e he heq
  rw [idOf_renumbered renumber (hdefines d hd), idOf_renumbered renumber (hdefines e he)] at heq
  refine hdistinct.eq_of_idOf hdefines d hd e he (hinjective _ ?_ _ ?_ heq)
  · exact ⟨d, hd, constant_of_defines (hdefines d hd)⟩
  · exact ⟨e, he, constant_of_defines (hdefines e he)⟩

theorem Bindings.moved_classOf {d : Definition} (h : runtime.defines category d = true)
    (value : ControlValue) :
    MovedResults (runtime.idOf category d) (renumber (runtime.idOf category d))
      ((classOf runtime category d).ofValue value)
      ((classOf (runtime.renumbered renumber) category d).ofValue value) := by
  have hmoved := @EntryClass.moved_ofValue (classOf runtime category d)
    (classOf (runtime.renumbered renumber) category d) rfl rfl rfl value
  rwa [show (classOf (runtime.renumbered renumber) category d).id
    = renumber (runtime.idOf category d) from LinkedRuntime.idOf_renumbered renumber h] at hmoved

end

/-- Interpreters over one runtime, and over the runtime with other numbers. -/
theorem Interpreter.renumbers_ofSnapshot {s : Snapshot} {category : Category}
    {enabled : String → Bool}
    (hallowed : ∀ d ∈ enabledDefinitions s category enabled, d.name ≠ Identifiers.forbiddenName)
    {runtime : LinkedRuntime}
    (hdefines : ∀ d ∈ enabledDefinitions s category enabled, runtime.defines category d = true)
    (hdistinct : runtime.Distinguishes category (enabledDefinitions s category enabled))
    {renumber : Int → Int}
    (hinjective : ∀ id, runtime.Numbers category (enabledDefinitions s category enabled) id →
      ∀ other, runtime.Numbers category (enabledDefinitions s category enabled) other →
      renumber id = renumber other → id = other) :
    ∃ i i', ofSnapshot s category runtime enabled = .ok i ∧
      ofSnapshot s category (runtime.renumbered renumber) enabled = .ok i' ∧
      Renumbers (runtime.Numbers category (enabledDefinitions s category enabled)) renumber
        i.makeEntry i'.makeEntry := by
  have hold := hdistinct.eq_of_idOf hdefines
  have hnew := hdistinct.eq_of_idOf_renumbered hdefines hinjective
  have hfind := LinkedRuntime.find?_eq_none_iff.2 hdefines
  have hfind' := LinkedRuntime.find?_eq_none_iff.2 fun d hd =>
    (LinkedRuntime.defines_renumbered renumber).trans (hdefines d hd)
  refine ⟨_, _, ofSnapshot_of_allowed hallowed hfind, ofSnapshot_of_allowed hallowed hfind',
    (Interpreter.dispatches_enabled hold _).renumbers hdefines
      (Interpreter.dispatches_enabled hnew _) fun d hd value => ?_⟩
  rw [LinkedRuntime.idOf_renumbered renumber (hdefines d hd)]
  exact d.moved_interpret _ _ value

/-- Where the runtime gives every constant another number, an interpreter and an imported module
make of a value under the new number what they made of it under the old one, and they know no
number that does not come from the runtime. -/
theorem renumbers_of_injective {s : Snapshot} {category : Category} {enabled : String → Bool}
    (hallowed : ∀ d ∈ Interpreter.enabledDefinitions s category enabled,
      d.name ≠ Identifiers.forbiddenName)
    {runtime : LinkedRuntime}
    (hdefines : ∀ d ∈ Interpreter.enabledDefinitions s category enabled,
      runtime.defines category d = true)
    (hdistinct : runtime.Distinguishes category
      (Interpreter.enabledDefinitions s category enabled))
    {renumber : Int → Int}
    (hinjective : ∀ id, runtime.Numbers category
        (Interpreter.enabledDefinitions s category enabled) id →
      ∀ other, runtime.Numbers category
        (Interpreter.enabledDefinitions s category enabled) other →
      renumber id = renumber other → id = other) :
    (∃ i i', Interpreter.ofSnapshot s category runtime enabled = .ok i ∧
      Interpreter.ofSnapshot s category (runtime.renumbered renumber) enabled = .ok i' ∧
      Renumbers (runtime.Numbers category (Interpreter.enabledDefinitions s category enabled))
        renumber i.makeEntry i'.makeEntry) ∧
    ∀ text, s.Accepted → s.version.IsWritten → Bindings.generate s category = .ok text →
      ∃ b b', Bindings.importText ⟨runtime, enabled⟩ text = .ok b ∧
        Bindings.importText ⟨runtime.renumbered renumber, enabled⟩ text = .ok b' ∧
        Renumbers (runtime.Numbers category (Interpreter.enabledDefinitions s category enabled))
          renumber b.makeEntry b'.makeEntry := by
  have hold := hdistinct.eq_of_idOf hdefines
  have hnew := hdistinct.eq_of_idOf_renumbered hdefines hinjective
  have hfind := LinkedRuntime.find?_eq_none_iff.2 hdefines
  have hfind' := LinkedRuntime.find?_eq_none_iff.2 fun d hd =>
    (LinkedRuntime.defines_renumbered renumber).trans (hdefines d hd)
  refine ⟨Interpreter.renumbers_ofSnapshot hallowed hdefines hdistinct hinjective,
    fun text hs hversion hgenerate => ?_⟩
  exact ⟨_, _, Bindings.importText_of_generate hs hversion hgenerate hallowed hfind,
    Bindings.importText_of_generate hs hversion hgenerate hallowed hfind',
    (Bindings.dispatches_enabled hold).renumbers hdefines (Bindings.dispatches_enabled hnew)
      fun d hd value => Bindings.moved_classOf (hdefines d hd) value⟩

/-- The numbers of the sample, each raised by a thousand. -/
theorem renumbers_of_injective_sample :
    ∃ b b', Bindings.importText ⟨.sample, fun _ => true⟩ (Layout.text Bindings.sample .controls)
        = .ok b ∧
      Bindings.importText ⟨LinkedRuntime.sample.renumbered (· + 1000), fun _ => true⟩
        (Layout.text Bindings.sample .controls) = .ok b' ∧
      (∀ value, MovedResults 20001 21001 (b.makeEntry 20001 value) (b'.makeEntry 21001 value)) ∧
      ∀ value, IsUnknown (b'.makeEntry 20001 value) := by
  obtain ⟨-, hmodule⟩ := @renumbers_of_injective Bindings.sample .controls (fun _ => true)
    (by decide) .sample (by decide) LinkedRuntime.distinguishes_sample (· + 1000)
    (fun _ _ _ _ h => by simpa using h)
  obtain ⟨b, b', hb, hb', hrenumbers⟩ := hmodule _ Bindings.accepted_sample
    Bindings.isWritten_sample Bindings.generate_sample
  refine ⟨b, b', hb, hb', fun value => ?_, fun value =>
    ⟨_, (hrenumbers.lost 20001 ?_ value).1⟩⟩
  · exact (hrenumbers.kept 20001 ⟨_, List.mem_cons_of_mem _ List.mem_cons_self, rfl⟩ value).2
  · rintro id ⟨d, hd, hid⟩ hmoved
    rcases List.mem_cons.1 hd with rfl | hd
    · cases hid
      cases hmoved
    · cases List.mem_singleton.1 hd
      cases hid
      cases hmoved

/-- For a number that is none of the new ones and too long to be told, it is not raised that nothing
is found. -/
theorem Interpreter.misses_vast : ∃ i,
    ofSnapshot Bindings.sample .controls (LinkedRuntime.sample.renumbered (· + 1000))
      (fun _ => true) = .ok i ∧
    (∀ id, LinkedRuntime.sample.Numbers .controls
        (enabledDefinitions Bindings.sample .controls fun _ => true) id →
      id + 1000 ≠ 10 ^ Number.digitLimit) ∧
    ∀ value, ¬ Raises (i.makeEntry (10 ^ Number.digitLimit) value) .notFound := by
  have hlong := Number.isWritable_pow_digitLimit
  have hapart : ∀ id, LinkedRuntime.sample.Numbers .controls
      (enabledDefinitions Bindings.sample .controls fun _ => true) id →
        id + 1000 ≠ 10 ^ Number.digitLimit := by
    rintro id ⟨d, hd, hid⟩ heq
    rw [← heq] at hlong
    rcases List.mem_cons.1 hd with rfl | hd
    · cases hid
      cases hlong
    · cases List.mem_singleton.1 hd
      cases hid
      cases hlong
  obtain ⟨_, i, -, hi, hrenumbers⟩ := @renumbers_ofSnapshot Bindings.sample .controls
    (fun _ => true) (by decide) .sample (by decide) LinkedRuntime.distinguishes_sample (· + 1000)
    (fun _ _ _ _ h => by simpa using h)
  refine ⟨i, hi, hapart, fun value hraises => ?_⟩
  have hclass := hraises.unique (hrenumbers.lost _ hapart value).2
  rw [ErrorClass.raised, List.all_cons, hlong, Bool.false_and] at hclass
  cases hclass

end ControlSchema
