import ElementWrap.Proofs.Ordered
import ElementWrap.Proofs.Work.Start

/-! # What options are made of raw settings

Raw settings are known under their names in snake case. A name stands where it is met first and what
was given last under it counts, so that the options are determined by the list of these names and
the last setting of each (`ElementWrap.BuildOptions.validation`).
-/

namespace ElementWrap

namespace Settings

/-- The names that raw settings are known under, each where it is met first. -/
def names (raw : Settings) : List String :=
  (raw.map fun entry => Naming.snake entry.1).eraseDups

/-- The setting that was given last under a name. -/
def last? (raw : Settings) (name : String) : Option Setting :=
  (raw.reverse.find? fun entry => Naming.snake entry.1 = name).map Prod.snd

/-- The names among the raw settings that are no options. -/
def unknown (raw : Settings) : List String :=
  raw.names.filter fun name => name ∉ knownOptions.map Prod.fst

/-- The mismatch of an option that was given, and not as null, with a setting of another kind. -/
def misfit? (raw : Settings) (name : String) : Option OptionError :=
  (Ordered.get? name knownOptions).bind fun expected =>
    (raw.last? name).bind fun setting =>
      if setting.isNull = true ∨ setting.kind = expected then none
      else some (.mismatch name expected setting.kind)

variable {raw : Settings} {name : String}

/-- The translated settings have each name once, where it was given first. -/
theorem keys_translate (raw : Settings) : raw.translate.map Prod.fst = raw.names := by
  unfold translate names
  rw [Ordered.keys_ofList, List.map_map]
  rfl

/-- A translated setting is the last one that was given under its name. -/
theorem get?_translate (raw : Settings) (name : String) :
    raw.translate.get? name = raw.last? name := by
  unfold translate get? last?
  rw [Ordered.get?_ofList, ← List.map_reverse, List.find?_map, Option.map_map]
  rfl

private theorem last?_of_mem_translate {entry : String × Setting} (member : entry ∈ raw.translate) :
    raw.last? entry.1 = some entry.2 := by
  rw [← get?_translate]
  refine Ordered.get?_of_mem ?_ member
  rw [keys_translate]
  exact nodup_eraseDups _

private theorem mem_names_of_last? {setting : Setting} (given : raw.last? name = some setting) :
    name ∈ raw.names := by
  rw [← get?_translate] at given
  rw [← keys_translate]
  exact List.mem_map.mpr ⟨_, Ordered.mem_of_get? given, rfl⟩

end Settings

/-- No option is listed twice. -/
theorem nodup_knownOptions : (knownOptions.map Prod.fst).Nodup := by decide

/-- An option has one kind. -/
theorem get?_knownOptions_iff {name : String} {expected : SettingKind} :
    Ordered.get? name knownOptions = some expected ↔ (name, expected) ∈ knownOptions :=
  ⟨Ordered.mem_of_get?, Ordered.get?_of_mem nodup_knownOptions⟩

namespace BuildOptions

open Settings

variable {raw : Settings}

/-! ## Faults -/

private theorem unknownNames_translate (raw : Settings) :
    unknownNames raw.translate = raw.unknown := by
  unfold unknownNames unknown
  rw [keys_translate]
  refine List.filter_congr fun name _ => ?_
  rw [Bool.eq_iff_iff, Option.isNone_iff_eq_none, Ordered.get?_eq_none_iff, decide_eq_true_iff]

private theorem mismatch?_of_mem_translate {entry : String × Setting}
    (member : entry ∈ raw.translate) :
    mismatch? entry = raw.misfit? entry.1 := by
  unfold mismatch? misfit?
  rw [last?_of_mem_translate member]
  cases Ordered.get? entry.1 knownOptions with
  | none => rfl
  | some expected => simp [Bool.or_eq_true]

private theorem errors_eq_errorsOf (raw : Settings) :
    (ofSettings raw).errors = errorsOf raw.translate := by
  unfold ofSettings
  simp only
  split
  · rfl
  · rfl

/-- The faults of raw settings by their names. -/
theorem errors_ofSettings (raw : Settings) :
    (ofSettings raw).errors =
      (if raw.unknown = [] then [] else [.unknown raw.unknown]) ++
        raw.names.filterMap raw.misfit? ++
        (if (raw.last? "web_component").any Setting.truthy then [] else [.componentRequired]) := by
  have misfits : raw.translate.filterMap mismatch? = raw.names.filterMap raw.misfit? := by
    rw [← keys_translate, List.filterMap_map]
    exact List.filterMap_congr fun entry member => mismatch?_of_mem_translate member
  have required : (raw.last? "web_component").elim false Setting.truthy =
      (raw.last? "web_component").any Setting.truthy := by
    cases raw.last? "web_component" with
    | none => rfl
    | some setting => rfl
  rw [errors_eq_errorsOf]
  unfold errorsOf
  simp only [unknownNames_translate, misfits, get?_translate, required, List.isEmpty_iff]

/-- An option does not misfit exactly if its setting is null or of its kind. -/
theorem misfit?_eq_none_iff {name : String} :
    raw.misfit? name = none ↔
      ∀ expected setting, (name, expected) ∈ knownOptions → raw.last? name = some setting →
        setting.isNull = false → setting.kind = expected := by
  unfold misfit?
  simp only [← get?_knownOptions_iff]
  constructor
  · intro fits expected setting known given wanted
    simpa [known, given, wanted] using fits
  · intro fits
    cases known : Ordered.get? name knownOptions with
    | none => rfl
    | some expected =>
        cases given : raw.last? name with
        | none => rfl
        | some setting =>
            have fit := fits expected setting known given
            simp only [Option.bind_some]
            refine if_pos ?_
            cases wanted : setting.isNull with
            | true => exact .inl rfl
            | false => exact .inr (fit wanted)

/-- A setting that is asked for is a text of at least one character. -/
theorem truthy_text_iff {setting : Setting} (kind : setting.kind = .string) :
    setting.truthy = true ↔ ∃ text, text ≠ "" ∧ setting = .json (.text text) := by
  match setting, kind with
  | .json (.text text), _ =>
      constructor
      · intro given
        exact ⟨text, bne_iff_ne.mp given, rfl⟩
      · rintro ⟨other, full, same⟩
        cases same
        exact bne_iff_ne.mpr full

/-- Every option that was given, and not as null, has a setting of its kind. -/
def WellKinded (raw : Settings) : Prop :=
  ∀ name expected setting, (name, expected) ∈ knownOptions → raw.last? name = some setting →
    setting.isNull = false → setting.kind = expected

/-- No name is unknown exactly if all are options. -/
theorem unknown_eq_nil_iff :
    raw.unknown = [] ↔ ∀ name ∈ raw.names, name ∈ knownOptions.map Prod.fst := by
  unfold unknown
  simp only [List.filter_eq_nil_iff, decide_eq_true_iff, not_not]

private theorem misfits_eq_nil_iff : raw.names.filterMap raw.misfit? = [] ↔ WellKinded raw := by
  rw [List.filterMap_eq_nil_iff]
  constructor
  · intro fits name expected setting known given
    have fit := fits name (mem_names_of_last? given)
    exact misfit?_eq_none_iff.mp fit expected setting known given
  · exact fun kinded name _ => misfit?_eq_none_iff.mpr (kinded name)

private theorem component_given_iff (kinded : WellKinded raw) :
    (raw.last? "web_component").any Setting.truthy = true ↔
      ∃ text, text ≠ "" ∧ raw.last? "web_component" = some (.json (.text text)) := by
  rw [Option.any_eq_true]
  constructor
  · rintro ⟨setting, given, asked⟩
    have wanted : setting.isNull = false := by
      match setting, asked with
      | .json (.text _), _ => rfl
      | .json (.bool _), _ => rfl
      | .json (.int _), _ => rfl
      | .json (.real _), _ => rfl
      | .json (.list _), _ => rfl
      | .json (.object _), _ => rfl
      | .logger _, _ => rfl
    have kind := kinded _ .string setting List.mem_cons_self given wanted
    obtain ⟨text, full, rfl⟩ := (truthy_text_iff kind).mp asked
    exact ⟨text, full, given⟩
  · rintro ⟨text, full, given⟩
    exact ⟨_, given, (truthy_text_iff rfl).mpr ⟨text, full, rfl⟩⟩

/-- Options are valid exactly if all names are known, all settings of their kinds, and the component
file is given. -/
theorem isValid_iff :
    (ofSettings raw).isValid = true ↔
      (∀ name ∈ raw.names, name ∈ knownOptions.map Prod.fst) ∧ WellKinded raw ∧
      ∃ text, text ≠ "" ∧ raw.last? "web_component" = some (.json (.text text)) := by
  unfold isValid
  rw [errors_ofSettings, List.isEmpty_iff, List.append_eq_nil_iff, List.append_eq_nil_iff,
    misfits_eq_nil_iff, and_assoc, ← unknown_eq_nil_iff]
  refine and_congr ?_ (and_congr_right fun kinded => ?_)
  · split
    · next none => exact iff_of_true rfl none
    · next some => exact iff_of_false (List.cons_ne_nil _ _) some
  · rw [← component_given_iff kinded]
    split
    · next given => exact iff_of_true rfl given
    · next absent => exact iff_of_false (List.cons_ne_nil _ _) absent

/-! ## Values -/

/-- What options hold under each name, the logger aside; what is not set is null. -/
def held (options : BuildOptions) : List (String × Value) :=
  [("web_component", options.webComponent.elim .null .text),
    ("react_components", options.reactComponents.elim .null .list),
    ("verbose", options.verbose.elim .null .bool),
    ("dest", options.dest.elim .null .text),
    ("bundle", options.bundle.elim .null .bool),
    ("bundle_name", options.bundleName.elim .null .text)]

/-- The setting of an option has the kind of the option or is null. -/
def Fits (settings : Settings) (name : String) (expected : SettingKind) : Prop :=
  ∀ setting, settings.get? name = some setting → setting.isNull = true ∨ setting.kind = expected

private theorem json_textOf {settings : Settings} {name : String}
    (fits : Fits settings name .string) :
    Setting.json ((textOf settings name).elim .null .text) =
      (settings.get? name).getD (.json .null) := by
  unfold textOf
  cases given : settings.get? name with
  | none => rfl
  | some setting =>
      match setting, fits setting given with
      | .json .null, _ => rfl
      | .json (.text text), _ => rfl

private theorem json_listOf {settings : Settings} {name : String}
    (fits : Fits settings name .array) :
    Setting.json ((listOf settings name).elim .null .list) =
      (settings.get? name).getD (.json .null) := by
  unfold listOf
  cases given : settings.get? name with
  | none => rfl
  | some setting =>
      match setting, fits setting given with
      | .json .null, _ => rfl
      | .json (.list items), _ => rfl

private theorem json_boolOf {settings : Settings} {name : String}
    (fits : Fits settings name .boolean) :
    Setting.json ((boolOf settings name).elim .null .bool) =
      (settings.get? name).getD (.json (.bool false)) := by
  unfold boolOf
  cases given : settings.get? name with
  | none => rfl
  | some setting =>
      match setting, fits setting given with
      | .json .null, _ => rfl
      | .json (.bool b), _ => rfl

/-- A setting of its kind fits its option. -/
theorem WellKinded.fits (kinded : WellKinded raw) (name : String) {expected : SettingKind}
    (known : (name, expected) ∈ knownOptions) : Fits raw.translate name expected := by
  intro setting given
  rw [get?_translate] at given
  cases wanted : setting.isNull with
  | true => exact .inl rfl
  | false => exact .inr (kinded name expected setting known given wanted)

/-- The options that valid settings stand for, field by field. -/
theorem ofSettings_of_isValid (valid : (ofSettings raw).isValid = true) :
    ofSettings raw =
      { webComponent := textOf raw.translate "web_component"
        reactComponents := listOf raw.translate "react_components"
        verbose := boolOf raw.translate "verbose"
        logger := loggerOf raw.translate
        dest := textOf raw.translate "dest"
        bundle := boolOf raw.translate "bundle"
        bundleName := textOf raw.translate "bundle_name"
        errors := (ofSettings raw).errors
        warnings := warningsOf raw.translate } := by
  have faultless : (errorsOf raw.translate).isEmpty = true := errors_eq_errorsOf raw ▸ valid
  unfold ofSettings
  simp only [faultless, if_true]

/-- Settings with a fault stand for nothing but a logger. -/
theorem ofSettings_of_faulty (faulty : (ofSettings raw).isValid = false) :
    ofSettings raw =
      { logger := loggerOf raw.translate
        errors := (ofSettings raw).errors
        warnings := warningsOf raw.translate } := by
  have faults : (errorsOf raw.translate).isEmpty = false := errors_eq_errorsOf raw ▸ faulty
  unfold ofSettings
  simp only [faults, Bool.false_eq_true, if_false]

/-- What valid options hold was given last under its name, or is the default. -/
theorem held_of_isValid (valid : (ofSettings raw).isValid = true) :
    (ofSettings raw).held.map (fun entry => (entry.1, Setting.json entry.2)) =
      ({} : BuildOptions).held.map fun entry =>
        (entry.1, (raw.last? entry.1).getD (.json entry.2)) := by
  obtain ⟨_, kinded, _⟩ := isValid_iff.mp valid
  have component := json_textOf (kinded.fits "web_component" (by decide))
  have names := json_listOf (kinded.fits "react_components" (by decide))
  have verbose := json_boolOf (kinded.fits "verbose" (by decide))
  have dest := json_textOf (kinded.fits "dest" (by decide))
  have bundle := json_boolOf (kinded.fits "bundle" (by decide))
  have bundleName := json_textOf (kinded.fits "bundle_name" (by decide))
  rw [ofSettings_of_isValid valid]
  unfold held
  simp only [List.map_cons, List.map_nil, ← get?_translate, component, names, verbose, dest,
    bundle, bundleName]
  rfl

/-- Faulty options hold nothing but the defaults. -/
theorem held_of_faulty (faulty : (ofSettings raw).isValid = false) :
    (ofSettings raw).held = ({} : BuildOptions).held := by
  rw [ofSettings_of_faulty faulty]
  rfl

/-- What is held under an option is null or of the kind of the option. -/
theorem kind_of_mem_held {options : BuildOptions} {entry : String × Value}
    (member : entry ∈ options.held) :
    entry.2 = .null ∨ (entry.1, (Setting.json entry.2).kind) ∈ knownOptions := by
  have typed {α : Type} {wrap : α → Value} (name : String) (expected : SettingKind)
      (value : Option α) (known : (name, expected) ∈ knownOptions)
      (kinds : ∀ a, (Setting.json (wrap a)).kind = expected) : value.elim .null wrap = .null ∨
        (name, (Setting.json (value.elim .null wrap)).kind) ∈ knownOptions := by
    cases value with
    | none => exact .inl rfl
    | some a => exact .inr ((kinds a).symm ▸ known)
  unfold held at member
  simp only [List.mem_cons, List.not_mem_nil, or_false] at member
  rcases member with rfl | rfl | rfl | rfl | rfl | rfl
  · exact typed "web_component" .string options.webComponent (by decide) fun _ => rfl
  · exact typed "react_components" .array options.reactComponents (by decide) fun _ => rfl
  · exact typed "verbose" .boolean options.verbose (by decide) fun _ => rfl
  · exact typed "dest" .string options.dest (by decide) fun _ => rfl
  · exact typed "bundle" .boolean options.bundle (by decide) fun _ => rfl
  · exact typed "bundle_name" .string options.bundleName (by decide) fun _ => rfl

/-! ## The logger -/

private theorem missingMethods_eq_nil_iff {own : OwnLogger} :
    missingMethods (.logger own) = [] ↔ (Reporter.own own).Usable := by
  unfold missingMethods
  rw [List.filter_eq_nil_iff]
  exact forall₂_congr fun method _ => by simp [Setting.canCall]

/-- The logger among the options is the last one that was given, if it can be used. -/
theorem logger_eq_some_iff {own : OwnLogger} :
    (ofSettings raw).logger = some own ↔
      raw.last? "logger" = some (.logger own) ∧ (Reporter.own own).Usable := by
  rw [Work.logger_ofSettings, loggerOf, get?_translate, ← missingMethods_eq_nil_iff]
  constructor
  · intro kept
    split at kept
    · next other given =>
        split at kept
        · next complete =>
            cases kept
            exact ⟨given, List.isEmpty_iff.mp complete⟩
        · cases kept
    · cases kept
  · rintro ⟨given, complete⟩
    rw [given]
    exact if_pos (List.isEmpty_iff.mpr complete)

/-- **Validation.** The faults of raw settings are the unknown names together, then each option that
was given a setting of the wrong kind, then the missing component file. Without unknown names, with
the right kinds and with a text that names the component file the settings are valid, and only then.
Valid options hold what was given last under each name, or the default, faulty ones hold the
defaults, and both keep a logger exactly if it was given last and can be used. -/
theorem validation (raw : Settings) :
    (ofSettings raw).errors =
      (if raw.unknown = [] then [] else [.unknown raw.unknown]) ++
        raw.names.filterMap raw.misfit? ++
        (if (raw.last? "web_component").any Setting.truthy then [] else [.componentRequired]) ∧
    ((ofSettings raw).isValid = true ↔
      (∀ name ∈ raw.names, name ∈ knownOptions.map Prod.fst) ∧ WellKinded raw ∧
        ∃ text, text ≠ "" ∧ raw.last? "web_component" = some (.json (.text text))) ∧
    ((ofSettings raw).isValid = true →
      (ofSettings raw).held.map (fun entry => (entry.1, Setting.json entry.2)) =
        ({} : BuildOptions).held.map fun entry =>
          (entry.1, (raw.last? entry.1).getD (.json entry.2))) ∧
    ((ofSettings raw).isValid = false → (ofSettings raw).held = ({} : BuildOptions).held) ∧
    (∀ entry ∈ (ofSettings raw).held,
      entry.2 = .null ∨ (entry.1, (Setting.json entry.2).kind) ∈ knownOptions) ∧
    ∀ own, (ofSettings raw).logger = some own ↔
      raw.last? "logger" = some (.logger own) ∧ (Reporter.own own).Usable :=
  ⟨errors_ofSettings raw, isValid_iff, held_of_isValid, held_of_faulty,
    fun _ => kind_of_mem_held, fun _ => logger_eq_some_iff⟩

/-- A logger with the methods that are needed. -/
def fullLogger : OwnLogger := { methods := loggerMethods }

/-- Settings in both spellings, one of them null, with a logger among them. -/
def soundSettings : Settings :=
  [("webComponent", .json (.text "a.json")), ("logger", .logger fullLogger),
    ("verbose", .json .null)]

/-- The same settings with an unknown one, a number for a truth value and the component file unset
behind them. -/
def mixedSettings : Settings :=
  soundSettings ++ [("color", .json (.int 1)), ("bundle", .json (.int 1)),
    ("web_component", .json (.text ""))]

/-- The sound settings are taken over, and of the mixed ones the logger alone is. -/
theorem validation_mixed :
    (ofSettings soundSettings).held.map (fun entry => (entry.1, Setting.json entry.2)) =
        [("web_component", .json (.text "a.json")), ("react_components", .json .null),
          ("verbose", .json .null), ("dest", .json .null), ("bundle", .json (.bool false)),
          ("bundle_name", .json .null)] ∧
      (ofSettings mixedSettings).errors =
        [.unknown ["color"], .mismatch "bundle" .boolean .number, .componentRequired] ∧
      (ofSettings mixedSettings).held = ({} : BuildOptions).held ∧
      (ofSettings mixedSettings).logger = some fullLogger := by
  have spelled : Naming.snake "webComponent" = "web_component" := by decide +kernel
  have logger := Work.snake_of_known "logger" (by decide)
  have verbose := Work.snake_of_known "verbose" (by decide)
  obtain ⟨_, _, taken, _⟩ := validation soundSettings
  obtain ⟨errors, _, _, dropped, _, kept⟩ := validation mixedSettings
  refine ⟨(taken (by decide +kernel)).trans ?_, errors.trans (by decide +kernel),
    dropped (by decide +kernel), (kept fullLogger).mpr ⟨?_, ?_⟩⟩
  · simp [held, last?, soundSettings, spelled, logger, verbose]
  · have color : Naming.snake "color" = "color" := by decide +kernel
    have bundle := Work.snake_of_known "bundle" (by decide)
    have component := Work.snake_of_known "web_component" (by decide)
    simp [last?, mixedSettings, soundSettings, logger, verbose, color, bundle, component]
  · intro method member
    exact ⟨List.contains_iff_mem.mpr member, rfl⟩

end BuildOptions
end ElementWrap
