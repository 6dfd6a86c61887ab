import ControlSchema.Proofs.Selection
import ControlSchema.Session

/-!
# Interrupted loads

Loading is four steps: it selects a snapshot, activates the features, activates the runtime, and
imports two modules under their names. Nothing is taken back when a step fails. The session is left
with what the steps before have done to it. A module that failed with an error has no entry any
more; one that was left by what is no error keeps the entry it was given before it ran. How far a
failed load has come can be read off its error and off what the disk answers, and the disk is only
asked.
-/

namespace ControlSchema

open Disk Storage

namespace Session

section

variable {α β ε : Type} {before : Session} {d : Disk}

/-! ## Steps of a session -/

/-- How a computation in a session ends, with what it leaves of the session and of the disk. -/
def outcome (x : SessionT Run α) (before : Session) (d : Disk) :
    (Except LoadError α × Session) × Disk := (x.run.run before).run d

theorem outcome_bind (x : SessionT Run α) (f : α → SessionT Run β) (before : Session) (d : Disk) :
    outcome (x >>= f) before d = match outcome x before d with
      | ((.ok a, session), d') => outcome (f a) session d'
      | ((.error e, session), d') => ((.error e, session), d') := by
  rw [outcome, run_state_bind_eq, ← outcome]
  rcases outcome x before d with ⟨⟨r, session⟩, d'⟩
  cases r <;> rfl

theorem outcome_bind_of_ok {x : SessionT Run α} {f : α → SessionT Run β} {a : α}
    {session : Session} {d' : Disk} (h : outcome x before d = ((.ok a, session), d')) :
    outcome (x >>= f) before d = outcome (f a) session d' := by
  rw [outcome_bind, h]

/-- What only asks the disk leaves the session too. -/
theorem outcome_lift {action : ExceptT ε Run α} (h : Inquires action) (before : Session)
    (d : Disk) : outcome (ExceptT.lift (StateT.lift action.run) : SessionT Run _) before d
      = ((.ok (d.answer action), before), d) := by
  show ((Except.ok (action.run d).1, before), (action.run d).2) = _
  rw [h d]
  rfl

theorem outcome_beside {action : ExceptT ε Run α} (h : Inquires action) (wrap : ε → LoadError)
    (before : Session) (d : Disk) :
    outcome (beside wrap action) before d = (((d.answer action).mapError wrap, before), d) := by
  rw [beside, outcome_bind_of_ok (outcome_lift h before d)]
  cases d.answer action <;> rfl

theorem inquires_readModule (run : TextRun) (context : ImportContext) (path : String) :
    Inquires (readModule run context path : ExceptT LoadError Run Bindings) := by
  refine ((inquires_readText path).adapt _).bind fun text => ?_
  split
  · exact inquires_pure _
  · exact inquires_throw _
  · exact inquires_throw _

theorem outcome_importModule (run : TextRun) (context : ImportContext) (name path : String)
    (before : Session) (d : Disk) : outcome (importModule run context name path) before d
      = match d.answer (readModule run context path) with
        | .ok bindings => ((.ok bindings, before.withModule name bindings), d)
        | .error e => ((.error e, before.afterFailure name e), d) := by
  rw [importModule,
    outcome_bind_of_ok (outcome_lift (inquires_readModule run context path) before d)]
  cases d.answer (readModule run context path) <;> rfl

end

end Session

/-! ## Settings of a process -/

namespace Settings

theorem inquires_readEntries? (path : String) :
    Inquires (readEntries? path : ExceptT ConfigurationFault Run _) := by
  refine (inquires_read _).attempt.bind fun r => ?_
  split
  · split
    · exact inquires_throw _
    · exact inquires_pure _
  · refine (inquires_mk _).bind fun text => ?_
    split
    · exact inquires_pure _
    · exact inquires_pure _
    · exact inquires_throw _
    · exact inquires_throw _

theorem inquires_search (paths : List String) :
    Inquires (search paths : ExceptT ConfigurationFault Run _) := by
  induction paths with
  | nil => exact inquires_pure _
  | cons path rest ih =>
    refine (inquires_readEntries? path).bind fun found => ?_
    split
    · exact ih
    · simp only
      split
      · exact inquires_pure _
      · exact ih

theorem inquires_ofFile (path : Option String) :
    Inquires (ofFile path : ExceptT ConfigurationFault Run _) := by
  refine (inquires_search _).bind fun found => ?_
  split
  · exact inquires_pure _
  · exact inquires_throw _

theorem inquires_load (environment : Environment) (path : Option String) :
    Inquires (load environment path : ExceptT ConfigurationFault Run _) :=
  (inquires_ofFile path).bind fun _ => inquires_pure _

end Settings

namespace Session

variable {run : TextRun} {environment : Settings.Environment} {packages : Packages}
  {given : Option Settings} {before after : Session} {d d' : Disk} {e : LoadError}

/-! ## Loading -/

/-- The settings that a load goes by: the given ones, or else those of the process. -/
def GoesBy (environment : Settings.Environment) (given : Option Settings) (d : Disk)
    (settings : Settings) : Prop :=
  match given with
  | some s => settings = s
  | none => d.answer (Settings.load environment none) = .ok settings

/-- The features and the runtime of a session as a load activates them. -/
def activated (session : Session) (settings : Settings) (runtime : LinkedRuntime) : Session :=
  { session with features := some (activeFeatures settings.features), runtime := some runtime }

/-- What a module of a selected snapshot is imported from. -/
def readCategory (run : TextRun) (settings : Settings) (selected : Selection)
    (runtime : LinkedRuntime) (category : Category) : ExceptT LoadError Run Bindings :=
  readModule run ⟨runtime, (activeFeatures settings.features).contains⟩
    (Path.join selected.path category.moduleName)

/-- The step that a load failed at, and what is left of the session then. -/
inductive LeftBehind (run : TextRun) (packages : Packages) (settings : Settings) (d : Disk)
    (before : Session) : LoadError → Session → Prop
  /-- No snapshot was selected, and nothing happened. -/
  | selection {error : SelectionError}
      (hselect : d.answer (Selection.select packages settings) = .error error) :
      LeftBehind run packages settings d before (.selection error) before
  /-- The header describes no runtime. The features have been activated. -/
  | header {selected : Selection} {error : HeaderError}
      (hselect : d.answer (Selection.select packages settings) = .ok selected)
      (hheader : d.answer (LinkedRuntime.ofFile (headerPath settings selected.path))
        = .error error) :
      LeftBehind run packages settings d before (.header error)
        { before with features := some (activeFeatures settings.features) }
  /-- The module of the controls was not imported. Features and runtime have been activated. -/
  | controls {selected : Selection} {runtime : LinkedRuntime} {e : LoadError}
      (hselect : d.answer (Selection.select packages settings) = .ok selected)
      (hheader : d.answer (LinkedRuntime.ofFile (headerPath settings selected.path))
        = .ok runtime)
      (hcontrols : d.answer (readCategory run settings selected runtime .controls) = .error e) :
      LeftBehind run packages settings d before e
        ((before.activated settings runtime).afterFailure (moduleName selected.version .controls) e)
  /-- The module of the properties was not imported. The module of the controls is there. -/
  | properties {selected : Selection} {runtime : LinkedRuntime} {bindings : Bindings}
      {e : LoadError}
      (hselect : d.answer (Selection.select packages settings) = .ok selected)
      (hheader : d.answer (LinkedRuntime.ofFile (headerPath settings selected.path))
        = .ok runtime)
      (hcontrols : d.answer (readCategory run settings selected runtime .controls) = .ok bindings)
      (hproperties : d.answer (readCategory run settings selected runtime .properties) = .error e) :
      LeftBehind run packages settings d before e
        (((before.activated settings runtime).withModule (moduleName selected.version .controls)
          bindings).afterFailure (moduleName selected.version .properties) e)

/-- A step beside the session ends the load, or the load goes on with the same session. -/
theorem outcome_beside_bind_eq_error {α β ε : Type} {action : ExceptT ε Run α}
    (hinquires : Inquires action) {wrap : ε → LoadError} {f : α → SessionT Run β}
    (h : outcome (beside wrap action >>= f) before d = ((.error e, after), d')) :
    (∃ cause, d.answer action = .error cause ∧ e = wrap cause ∧ after = before) ∨
      ∃ a, d.answer action = .ok a ∧ outcome (f a) before d = ((.error e, after), d') := by
  rw [outcome_bind, outcome_beside hinquires] at h
  cases hanswer : d.answer action with
  | ok a =>
    rw [hanswer] at h
    exact .inr ⟨a, rfl, h⟩
  | error cause =>
    rw [hanswer] at h
    cases h
    exact .inl ⟨cause, rfl, rfl, rfl⟩

/-- A module that is not imported ends the load. -/
theorem outcome_importModule_bind_eq_error {β : Type} {context : ImportContext}
    {name path : String} {f : Bindings → SessionT Run β}
    (h : outcome (importModule run context name path >>= f) before d = ((.error e, after), d')) :
    (d.answer (readModule run context path) = .error e ∧ after = before.afterFailure name e) ∨
      ∃ bindings, d.answer (readModule run context path) = .ok bindings ∧
        outcome (f bindings) (before.withModule name bindings) d = ((.error e, after), d') := by
  rw [outcome_bind, outcome_importModule] at h
  cases hanswer : d.answer (readModule run context path) with
  | ok bindings =>
    rw [hanswer] at h
    exact .inr ⟨bindings, rfl, h⟩
  | error cause =>
    rw [hanswer] at h
    cases h
    exact .inl ⟨rfl, rfl⟩

theorem load_eq_error {settings : Settings}
    (h : outcome (load run packages settings) before d = ((.error e, after), d')) :
    LeftBehind run packages settings d before e after := by
  rw [load] at h
  obtain ⟨error, hselect, rfl, rfl⟩ | ⟨selected, hselect, h⟩ :=
    outcome_beside_bind_eq_error (Selection.inquires_select packages settings) h
  · exact .selection hselect
  have hfeatures : outcome (activateFeatures settings.features) before d
      = ((.ok (activeFeatures settings.features),
        { before with features := some (activeFeatures settings.features) }), d) := rfl
  rw [outcome_bind_of_ok hfeatures] at h
  obtain ⟨error, hheader, rfl, rfl⟩ | ⟨runtime, hheader, h⟩ :=
    outcome_beside_bind_eq_error (LinkedRuntime.inquires_ofFile _) h
  · exact .header hselect hheader
  have hruntime : outcome (activateRuntime runtime)
      { before with features := some (activeFeatures settings.features) } d
        = ((.ok runtime, before.activated settings runtime), d) := rfl
  rw [outcome_bind_of_ok hruntime] at h
  obtain ⟨hcontrols, rfl⟩ | ⟨bindings, hcontrols, h⟩ := outcome_importModule_bind_eq_error h
  · exact .controls hselect hheader hcontrols
  obtain ⟨hproperties, rfl⟩ | ⟨other, -, h⟩ := outcome_importModule_bind_eq_error h
  · exact .properties hselect hheader hcontrols hproperties
  cases h

/-- What a failed load leaves of the session, by what it was asked. -/
inductive Interrupted (run : TextRun) (environment : Settings.Environment) (packages : Packages)
    (given : Option Settings) (d : Disk) (before : Session) : LoadError → Session → Prop
  /-- The settings of the process cannot be told, and nothing happened. -/
  | configuration {fault : ConfigurationFault} (hgiven : given = none)
      (hload : d.answer (Settings.load environment none) = .error fault) :
      Interrupted run environment packages given d before (.configuration fault) before
  | loading {settings : Settings} {e : LoadError} {after : Session}
      (hsettings : GoesBy environment given d settings)
      (hleft : LeftBehind run packages settings d before e after) :
      Interrupted run environment packages given d before e after

/-- A failed load leaves the session as the steps up to the one that failed have made it. -/
theorem loadModules_eq_error
    (h : outcome (loadModules run environment packages given) before d = ((.error e, after), d')) :
    Interrupted run environment packages given d before e after := by
  cases given with
  | some settings => exact .loading rfl (load_eq_error h)
  | none =>
    rw [loadModules] at h
    obtain ⟨fault, hload, rfl, rfl⟩ | ⟨settings, hload, h⟩ :=
      outcome_beside_bind_eq_error (Settings.inquires_load environment none) h
    · exact .configuration rfl hload
    · exact .loading hload (load_eq_error h)

/-! ## A snapshot with one module -/

/-- A disk with a snapshot that has a header and of the modules only that of the controls, all of
them empty. -/
def halfSnapshot : Disk :=
  { Disk.empty [] with
    nodes := [(["d"], .directory), (["d", "1.0.0"], .directory),
      (["d", "1.0.0", "controls.h"], .file "".toUTF8),
      (["d", "1.0.0", "controls.py"], .file "".toUTF8)] }

def halfLoad : (Except LoadError Loaded × Session) × Disk :=
  outcome (loadModules Bindings.importText [] (fun _ => none)
    (some (Selection.shelfSettings .exact "1.0.0"))) empty halfSnapshot

theorem exists_halfLoad : ∃ e after d', halfLoad = ((.error e, after), d') := by
  have hfails : halfLoad.1.1.toOption.isNone = true := by decide +kernel
  rcases hload : halfLoad with ⟨⟨r, after⟩, d'⟩
  rw [hload] at hfails
  cases r with
  | ok loaded => cases hfails
  | error e => exact ⟨e, after, d', rfl⟩

theorem loadModules_eq_error_half : ∃ e after d', halfLoad = ((.error e, after), d') ∧
    Interrupted Bindings.importText [] (fun _ => none)
      (some (Selection.shelfSettings .exact "1.0.0")) halfSnapshot empty e after := by
  obtain ⟨e, after, d', h⟩ := exists_halfLoad
  exact ⟨e, after, d', h, loadModules_eq_error h⟩

/-- The module of the properties cannot be imported. Features, runtime and the module of the
controls stay, where before there were none. -/
theorem loadModules_half : ∃ e after d', halfLoad = ((.error e, after), d') ∧
    empty.features = none ∧ after.features ≠ none ∧ empty.runtime.isNone = true ∧
    after.runtime.isNone = false ∧ empty.modules.keys = [] ∧
    after.modules.keys = ["camctl_generated_v1_0_0_controls"] := by
  obtain ⟨e, after, d', h⟩ := exists_halfLoad
  have hafter : halfLoad.1.2.features ≠ none ∧ halfLoad.1.2.runtime.isNone = false ∧
      halfLoad.1.2.modules.keys = ["camctl_generated_v1_0_0_controls"] := by decide +kernel
  rw [h] at hafter
  exact ⟨e, after, d', h, rfl, hafter.1, rfl, hafter.2.1, rfl, hafter.2.2⟩

end Session

end ControlSchema
