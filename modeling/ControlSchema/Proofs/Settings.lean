import ControlSchema.CommandLine.Run
import ControlSchema.Proofs.ControlValue.Building
import ControlSchema.Proofs.Session

/-!
# Where settings come from

Four layers make the settings: the defaults, the configuration of a file, the environment and the
command line.

A file contributes to the search for a configuration in one of three ways: it holds one, it is
passed over, or it ends the search with a fault. Files that are missing, cannot be opened or are no
TOML are passed over, and so are empty tables. But bytes that are no text, numbers with too many
digits and values nested too deep are faults, and so is a path that has too long a name in it. The
first file that is not passed over decides, and the disk is only asked.

Each field goes its own way through the layers. It has the value of the last layer that supplies
something acceptable for it, and what a layer holds for other fields does not matter. The step is
one mapping over settings, and the layers are three such steps. What a layer supplies for a field is
read off the environment and off the arguments, not off the mapping that is made of them.
-/

namespace ControlSchema.Settings

open CommandLine Disk Text

variable {d d' : Disk} {path : String} {paths : List String} {s : Settings}

/-- Where a configuration is looked for: in the given file alone, or else in the usual ones. -/
def candidates (path : Option String) : List String := path.elim searchPath fun path => [path]

/-! ## One file -/

/-- The text that a file holds. -/
def HoldsText (d : Disk) (path text : String) : Prop :=
  ∃ bytes, d.read (Path.tidy path) = .ok bytes ∧ Text.ofBytes bytes = .ok text

/-- What a file contributes to the search: a configuration, nothing, or a fault that ends it. -/
inductive Offers (d : Disk) (path : String) : Except ConfigurationFault (Option Datum) → Prop
  | configured {text : String} {entries : Toml.Entries} (htext : HoldsText d path text)
      (htoml : Toml.read text = .ok entries) (hfound : (configuration path entries).truthy = true) :
      Offers d path (.ok (some (configuration path entries)))
  | blank {text : String} {entries : Toml.Entries} (htext : HoldsText d path text)
      (htoml : Toml.read text = .ok entries)
      (hfound : (configuration path entries).truthy = false) : Offers d path (.ok none)
  | malformed {text : String} (htext : HoldsText d path text)
      (htoml : Toml.read text = .error .malformed) : Offers d path (.ok none)
  | unread {fault : StorageFault} (hread : d.read (Path.tidy path) = .error fault)
      (hfault : fault ≠ .nameTooLong) : Offers d path (.ok none)
  | unreachable (hread : d.read (Path.tidy path) = .error .nameTooLong) :
      Offers d path (.error (.unreachable ⟨.nameTooLong, Path.tidy path, none⟩))
  | garbled {bytes : ByteArray} {fault : Text.EncodingFault}
      (hread : d.read (Path.tidy path) = .ok bytes) (htext : Text.ofBytes bytes = .error fault) :
      Offers d path (.error (.encoding fault))
  | tooLong {text : String} (htext : HoldsText d path text)
      (htoml : Toml.read text = .error .tooLong) : Offers d path (.error .tooLong)
  | tooDeep {text : String} (htext : HoldsText d path text)
      (htoml : Toml.read text = .error .tooDeep) : Offers d path (.error .tooDeep)

/-- The configuration among the entries that were read, if it is not empty. -/
def offered (path : String) (found : Option Toml.Entries) : Option Datum :=
  (found.map (configuration path)).filter Datum.truthy

theorem answer_readEntries? (d : Disk) (path : String) :
    d.answer (readEntries? path : ExceptT ConfigurationFault Run _)
      = match d.read (Path.tidy path) with
        | .error .nameTooLong => .error (.unreachable ⟨.nameTooLong, Path.tidy path, none⟩)
        | .error _ => .ok none
        | .ok bytes => match Text.ofBytes bytes with
          | .error fault => .error (.encoding fault)
          | .ok text => match Toml.read text with
            | .ok entries => .ok (some entries)
            | .error .malformed => .ok none
            | .error .tooLong => .error .tooLong
            | .error .tooDeep => .error .tooDeep := by
  rw [readEntries?, answer_bind (Storage.inquires_read _).attempt, answer_attempt,
    Storage.answer_read]
  cases d.read (Path.tidy path) with
  | error fault => cases fault <;> rfl
  | ok bytes =>
    show d.answer (ExceptT.mk (pure ((Text.ofBytes bytes).mapError ConfigurationFault.encoding))
      >>= _) = _
    rw [answer_bind (inquires_mk _), answer_mk]
    dsimp only
    cases Text.ofBytes bytes with
    | error fault => rfl
    | ok text =>
      show d.answer _ = _
      dsimp only
      cases Toml.read text with
      | ok entries => rfl
      | error fault => cases fault <;> rfl

theorem HoldsText.answer_readEntries? {text : String} (h : HoldsText d path text) :
    d.answer (readEntries? path : ExceptT ConfigurationFault Run _) = match Toml.read text with
      | .ok entries => .ok (some entries)
      | .error .malformed => .ok none
      | .error .tooLong => .error .tooLong
      | .error .tooDeep => .error .tooDeep := by
  obtain ⟨bytes, hread, htext⟩ := h
  rw [Settings.answer_readEntries?, hread]
  dsimp only
  rw [htext]

theorem Offers.eq {r : Except ConfigurationFault (Option Datum)} (h : Offers d path r) :
    (d.answer (readEntries? path)).map (offered path) = r := by
  cases h with
  | configured htext htoml hfound =>
    rw [htext.answer_readEntries?, htoml]
    exact congrArg Except.ok (if_pos hfound)
  | blank htext htoml hfound =>
    rw [htext.answer_readEntries?, htoml]
    exact congrArg Except.ok (if_neg (by simp [hfound]))
  | malformed htext htoml => rw [htext.answer_readEntries?, htoml]; rfl
  | unread hread hfault =>
    rw [answer_readEntries?, hread]
    split
    · next h => cases h; exact absurd rfl hfault
    · rfl
    · next h => cases h
  | unreachable hread => rw [answer_readEntries?, hread]; rfl
  | garbled hread htext =>
    rw [answer_readEntries?, hread]
    dsimp only
    rw [htext]
    rfl
  | tooLong htext htoml => rw [htext.answer_readEntries?, htoml]; rfl
  | tooDeep htext htoml => rw [htext.answer_readEntries?, htoml]; rfl

/-- A disk whose one file is a configuration of one byte that begins no character. -/
def garbled : Disk := { Disk.empty [] with nodes := [(["camctl.toml"], .file ⟨#[0xff]⟩)] }

/-- A text that is not blank, without the blanks around it. -/
inductive AcceptsText : Datum → String → Prop
  | given {s : String} (h : strip s ≠ "") : AcceptsText (.text s) (strip s)

/-- Any text; a blank one stands for nothing. -/
inductive AcceptsOptional : Datum → Option String → Prop
  | given {s : String} (h : strip s ≠ "") : AcceptsOptional (.text s) (some (strip s))
  | blank {s : String} (h : strip s = "") : AcceptsOptional (.text s) none

/-- The word of a mode, in any letter case and with blanks around it. -/
inductive AcceptsMode : Datum → String → Prop
  | named {s : String} (mode : CompatMode) (h : lower (strip s) = mode.word) :
      AcceptsMode (.text s) mode.word

/-- The word of a log level, in any letter case and with blanks around it. -/
inductive AcceptsLevel : Datum → String → Prop
  | named {s level : String} (hlevel : level ∈ logLevels) (h : upper (strip s) = level) :
      AcceptsLevel (.text s) level

/-- Names without the blanks around them, as far as something is left of them. -/
def namesOf (texts : List String) : List String := (texts.map strip).filter (· ≠ "")

/-- The pieces of a text between commas, or the items of a sequence. -/
inductive AcceptsNames : Datum → List String → Prop
  | pieces {s : String} {pieces : List (List Char)} (hne : pieces ≠ [])
      (hpieces : ∀ piece ∈ pieces, ',' ∉ piece) (hs : [','].intercalate pieces = s.toList) :
      AcceptsNames (.text s) (namesOf (pieces.map String.ofList))
  | list (items : List Datum) : AcceptsNames (.list items) (namesOf (items.map Datum.plain))
  | tuple (items : List Datum) : AcceptsNames (.tuple items) (namesOf (items.map Datum.plain))

theorem acceptText_iff {supplied : Datum} {value : String} :
    acceptText supplied = some value ↔ AcceptsText supplied value := by
  constructor
  · intro h
    cases supplied with
    | text s =>
      rw [acceptText] at h
      split at h
      · cases h
      · next hs => cases h; exact .given (by simpa using hs)
    | _ => cases h
  · rintro ⟨h⟩
    exact if_neg (by simpa using h)

theorem acceptOptional_iff {supplied : Datum} {value : Option String} :
    acceptOptional supplied = some value ↔ AcceptsOptional supplied value := by
  constructor
  · intro h
    cases supplied with
    | text s =>
      rw [acceptOptional] at h
      split at h
      · next hs => cases h; exact .blank (by simpa using hs)
      · next hs => cases h; exact .given (by simpa using hs)
    | _ => cases h
  · rintro (h | h)
    · exact congrArg some (if_neg (by simpa using h))
    · exact congrArg some (if_pos (by simpa using h))

theorem acceptMode_iff {supplied : Datum} {value : String} :
    acceptMode supplied = some value ↔ AcceptsMode supplied value := by
  constructor
  · intro h
    cases supplied with
    | text s =>
      simp only [acceptMode, Option.ite_none_right_eq_some, Bool.or_eq_true, beq_iff_eq] at h
      obtain ⟨hmode | hmode, hvalue⟩ := h
      · rw [← Option.some.inj hvalue, hmode]
        exact .named .exact hmode
      · rw [← Option.some.inj hvalue, hmode]
        exact .named .caret hmode
    | _ => cases h
  · rintro ⟨mode, h⟩
    simp only [acceptMode, h]
    cases mode <;> rfl

theorem acceptLevel_iff {supplied : Datum} {value : String} :
    acceptLevel supplied = some value ↔ AcceptsLevel supplied value := by
  constructor
  · intro h
    cases supplied with
    | text s =>
      simp only [acceptLevel, Option.ite_none_right_eq_some, List.contains_iff_mem] at h
      obtain ⟨hlevel, hvalue⟩ := h
      rw [← Option.some.inj hvalue]
      exact .named hlevel rfl
    | _ => cases h
  · rintro ⟨hlevel, h⟩
    simp only [acceptLevel, h]
    exact if_pos (List.contains_iff_mem.2 hlevel)

theorem nonempty_eq (texts : List String) : nonempty (texts.map strip) = namesOf texts := by
  rw [nonempty, namesOf]
  congr 1
  funext text
  rw [Bool.eq_iff_iff]
  simp

theorem acceptFeatures_iff {supplied : Datum} {value : List String} :
    acceptFeatures supplied = some value ↔ AcceptsNames supplied value := by
  have hpieces (pieces : List (List Char)) :
      nonempty (pieces.map fun piece => strip (String.ofList piece))
        = namesOf (pieces.map String.ofList) := by rw [← nonempty_eq, List.map_map]; rfl
  have hitems (items : List Datum) :
      nonempty (items.map fun item => strip item.plain) = namesOf (items.map Datum.plain) := by
    rw [← nonempty_eq, List.map_map]; rfl
  constructor
  · intro h
    cases supplied with
    | text s =>
      cases h
      rw [hpieces]
      exact .pieces (splitOn_ne_nil ',' _) (fun _ => not_mem_of_mem_splitOn)
        (intercalate_splitOn ',' _)
    | list items => cases h; rw [hitems]; exact .list items
    | tuple items => cases h; rw [hitems]; exact .tuple items
    | _ => cases h
  · rintro (⟨hne, hmem, hs⟩ | items | items)
    · rw [acceptFeatures, ← hs, splitOn_intercalate hmem hne, hpieces]
    · exact congrArg some (hitems items)
    · exact congrArg some (hitems items)

/-! ## One field over layers -/

section

variable {α : Type} {Accepts : Datum → α → Prop} {default value : α} {layers : List (Option Datum)}

/-- The value that a field has over layers, the lowest first, of which each may supply something: it
is that of the last layer with something acceptable, or the default if there is none. -/
inductive Decided (Accepts : Datum → α → Prop) (default : α) : List (Option Datum) → α → Prop
  | default {layers : List (Option Datum)}
      (hlayers : ∀ supplied, some supplied ∈ layers → ∀ value, ¬ Accepts supplied value) :
      Decided Accepts default layers default
  | last {supplied : Datum} {value : α} (h : Accepts supplied value)
      (before : List (Option Datum)) {after : List (Option Datum)}
      (hafter : ∀ supplied, some supplied ∈ after → ∀ value, ¬ Accepts supplied value) :
      Decided Accepts default (before ++ some supplied :: after) value

/-- A layer that supplies nothing acceptable leaves the field as it is. -/
theorem Decided.keep (h : Decided Accepts default layers value) {top : Option Datum}
    (htop : ∀ supplied, top = some supplied → ∀ value, ¬ Accepts supplied value) :
    Decided Accepts default (layers ++ [top]) value := by
  have hmore {after : List (Option Datum)}
      (hafter : ∀ supplied, some supplied ∈ after → ∀ value, ¬ Accepts supplied value) :
      ∀ supplied, some supplied ∈ after ++ [top] → ∀ value, ¬ Accepts supplied value := by
    intro supplied hmem
    obtain hmem | hmem := List.mem_append.1 hmem
    · exact hafter supplied hmem
    · exact htop supplied (List.mem_singleton.1 hmem).symm
  cases h with
  | default hlayers => exact .default (hmore hlayers)
  | last h before hafter =>
    rw [List.append_assoc, List.cons_append]
    exact .last h before (hmore hafter)

/-- The value that is accepted from a layer on top replaces what was decided below. -/
theorem Decided.overlaid {accept : Datum → Option α}
    (haccept : ∀ supplied value, accept supplied = some value ↔ Accepts supplied value)
    (h : Decided Accepts default layers value) (top : Option Datum) :
    Decided Accepts default (layers ++ [top]) ((top.bind accept).getD value) := by
  cases htop : top.bind accept with
  | none =>
    refine h.keep fun supplied hsupplied value hvalue => ?_
    rw [hsupplied, Option.bind_some, (haccept _ _).2 hvalue] at htop
    cases htop
  | some chosen =>
    obtain ⟨supplied, rfl, hchosen⟩ := Option.bind_eq_some_iff.1 htop
    exact .last ((haccept _ _).1 hchosen) layers nofun

end

/-! ## All fields over layers -/

/-- Each field of the settings is decided by what the layers supply for it, the lowest first. -/
structure Resolves (supplies : String → List (Option Datum)) (s : Settings) : Prop where
  versionedDir : Decided AcceptsText default.versionedDir (supplies "versioned_dir") s.versionedDir
  compatMode : Decided AcceptsMode default.compatMode (supplies "compat_mode") s.compatMode
  linkedVersion :
    Decided AcceptsOptional default.linkedVersion (supplies "linked_version") s.linkedVersion
  runtimeHeader :
    Decided AcceptsOptional default.runtimeHeader (supplies "runtime_header") s.runtimeHeader
  features : Decided AcceptsNames default.features (supplies "features") s.features
  gitUrl : Decided AcceptsText default.gitUrl (supplies "git_url") s.gitUrl
  gitDir : Decided AcceptsText default.gitDir (supplies "git_dir") s.gitDir
  schemaDir : Decided AcceptsText default.schemaDir (supplies "schema_dir") s.schemaDir
  logLevel : Decided AcceptsLevel default.logLevel (supplies "log_level") s.logLevel

/-- One more layer: each field takes what the mapping has for it, if that is acceptable. -/
theorem Resolves.overlay {supplies : String → List (Option Datum)} {s : Settings}
    (h : Resolves supplies s) (layer : List (Datum × Datum)) :
    Resolves (fun key => supplies key ++ [Datum.lookup? key layer]) (s.overlay layer) where
  versionedDir := h.versionedDir.overlaid (fun _ _ => acceptText_iff) _
  compatMode := h.compatMode.overlaid (fun _ _ => acceptMode_iff) _
  linkedVersion := h.linkedVersion.overlaid (fun _ _ => acceptOptional_iff) _
  runtimeHeader := h.runtimeHeader.overlaid (fun _ _ => acceptOptional_iff) _
  features := h.features.overlaid (fun _ _ => acceptFeatures_iff) _
  gitUrl := h.gitUrl.overlaid (fun _ _ => acceptText_iff) _
  gitDir := h.gitDir.overlaid (fun _ _ => acceptText_iff) _
  schemaDir := h.schemaDir.overlaid (fun _ _ => acceptText_iff) _
  logLevel := h.logLevel.overlaid (fun _ _ => acceptLevel_iff) _

/-- The keys of the fields. -/
def fieldKeys : List String := variableKeys ++ ["features"]

theorem Resolves.congr {supplies supplies' : String → List (Option Datum)} {s : Settings}
    (h : Resolves supplies s) (hkeys : ∀ key ∈ fieldKeys, supplies key = supplies' key) :
    Resolves supplies' s where
  versionedDir := hkeys "versioned_dir" (by decide) ▸ h.versionedDir
  compatMode := hkeys "compat_mode" (by decide) ▸ h.compatMode
  linkedVersion := hkeys "linked_version" (by decide) ▸ h.linkedVersion
  runtimeHeader := hkeys "runtime_header" (by decide) ▸ h.runtimeHeader
  features := hkeys "features" (by decide) ▸ h.features
  gitUrl := hkeys "git_url" (by decide) ▸ h.gitUrl
  gitDir := hkeys "git_dir" (by decide) ▸ h.gitDir
  schemaDir := hkeys "schema_dir" (by decide) ▸ h.schemaDir
  logLevel := hkeys "log_level" (by decide) ▸ h.logLevel

/-! ## What the layers supply -/

/-- What the environment supplies for a field: an empty variable supplies nothing, except that an
empty list of features is a list of features. -/
def fromEnvironment? (environment : Environment) (key : String) : Option String :=
  (environment.get? (variableName variablePrefix key)).filter fun value =>
    !value.isEmpty || key == "features"

/-- What the arguments of a command supply for a field: the last value of its option, if the field
has one and the value is not empty. -/
def fromArguments? (a : Arguments) (key : String) : Option String :=
  (overriding.find? fun field => field.1 == key).bind fun field => nonempty? (a.value field.2)

/-- What the configuration, the environment and the command line supply for a field. -/
def supplied (table : List (Datum × Datum)) (environment : Environment) (a : Arguments)
    (key : String) : List (Option Datum) :=
  [Datum.lookup? key table, (fromEnvironment? environment key).map .text,
    (fromArguments? a key).map .text]

end ControlSchema.Settings
