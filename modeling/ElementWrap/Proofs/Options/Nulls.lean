import ElementWrap.Proofs.Options.Validation

/-! # Settings that are null

A setting that is null counts as not given, with one exception: a truth value among valid options is
false if it is not given, and stays unset if it is null. Apart from these two options, raw settings
and those of them that are not null stand for the same options
(`ElementWrap.BuildOptions.ofSettings_given`).
-/

namespace ElementWrap

namespace Settings

/-- The settings that are not null. -/
def given (raw : Settings) : Settings := raw.filter fun entry => !entry.2.isNull

/-- The settings are those of options, each under one spelling. -/
structure Unambiguous (raw : Settings) : Prop where
  known : ∀ name ∈ raw.names, name ∈ knownOptions.map Prod.fst
  single : (raw.map fun entry => Naming.snake entry.1).Nodup

/-- A setting is null under a name. -/
def nullAt (raw : Settings) (name : String) : Bool := (raw.last? name).any Setting.isNull

variable {raw : Settings} {name : String}

/-- Under one spelling, what was given last under a name is what was given under it. -/
theorem last?_eq_some_iff (single : (raw.map fun entry => Naming.snake entry.1).Nodup)
    {setting : Setting} :
    raw.last? name = some setting ↔
      ∃ entry ∈ raw, Naming.snake entry.1 = name ∧ entry.2 = setting := by
  unfold last?
  constructor
  · intro given
    obtain ⟨entry, found, same⟩ := Option.map_eq_some_iff.mp given
    have member := List.mem_reverse.mp (List.mem_of_find?_eq_some found)
    exact ⟨entry, member, by simpa using List.find?_some found, same⟩
  · rintro ⟨entry, member, named, same⟩
    have isFound : (raw.reverse.find? fun other => Naming.snake other.1 = name).isSome = true :=
      List.find?_isSome.mpr ⟨entry, List.mem_reverse.mpr member, decide_eq_true named⟩
    obtain ⟨other, found⟩ := Option.isSome_iff_exists.mp isFound
    have otherMember := List.mem_reverse.mp (List.mem_of_find?_eq_some found)
    have otherNamed : Naming.snake other.1 = name := by simpa using List.find?_some found
    obtain rfl : other = entry :=
      List.inj_on_of_nodup_map single otherMember member (otherNamed.trans named.symm)
    rw [found, Option.map_some, same]

private theorem single_given (single : (raw.map fun entry => Naming.snake entry.1).Nodup) :
    (raw.given.map fun entry => Naming.snake entry.1).Nodup :=
  single.sublist (List.filter_sublist.map _)

private theorem Unambiguous.given (unambiguous : raw.Unambiguous) : raw.given.Unambiguous where
  known name member := by
    apply unambiguous.known
    unfold names at member ⊢
    rw [List.mem_eraseDups] at member ⊢
    exact (List.filter_sublist.map _).subset member
  single := single_given unambiguous.single

/-- What is given last, and not null, is what was given last unless that is null. -/
theorem last?_given (single : (raw.map fun entry => Naming.snake entry.1).Nodup) (name : String) :
    raw.given.last? name = (raw.last? name).filter fun setting => !setting.isNull := by
  apply Option.ext
  intro setting
  rw [last?_eq_some_iff (single_given single), Option.filter_eq_some_iff,
    last?_eq_some_iff single]
  constructor
  · rintro ⟨entry, member, named, rfl⟩
    obtain ⟨present, wanted⟩ := List.mem_filter.mp member
    exact ⟨⟨entry, present, named, rfl⟩, wanted⟩
  · rintro ⟨⟨entry, present, named, rfl⟩, wanted⟩
    exact ⟨entry, List.mem_filter.mpr ⟨present, wanted⟩, named, rfl⟩

private theorem isNull_iff {setting : Setting} : setting.isNull = true ↔ setting = .json .null := by
  cases setting with
  | json value => cases value <;> simp [Setting.isNull]
  | logger own => simp [Setting.isNull]

/-- Under each name the settings that are not null have the same, or nothing in place of null. -/
theorem last?_given_cases (single : (raw.map fun entry => Naming.snake entry.1).Nodup)
    (name : String) :
    raw.given.last? name = raw.last? name ∨
      raw.given.last? name = none ∧ raw.last? name = some (.json .null) := by
  rw [last?_given single]
  cases found : raw.last? name with
  | none => exact .inl rfl
  | some setting =>
      cases null : setting.isNull with
      | true => exact .inr ⟨by simp [null], congrArg some (isNull_iff.mp null)⟩
      | false => exact .inl (by simp [null])

/-- Whatever takes null as not given, reads the same from the settings that are not null. -/
theorem read_given {α : Type} (single : (raw.map fun entry => Naming.snake entry.1).Nodup)
    (read : Option Setting → α) (unset : read (some (.json .null)) = read none) (name : String) :
    read (raw.given.last? name) = read (raw.last? name) := by
  rcases last?_given_cases single name with same | ⟨nothing, null⟩
  · rw [same]
  · rw [nothing, null, unset]

end Settings

namespace BuildOptions

open Settings

variable {raw : Settings} {name : String}

/-! ## Faults and warnings -/

private theorem misfit?_given (single : (raw.map fun entry => Naming.snake entry.1).Nodup)
    (name : String) : raw.given.misfit? name = raw.misfit? name := by
  unfold misfit?
  refine congrArg _ (funext fun expected => ?_)
  exact read_given single (fun found => found.bind fun setting =>
    if setting.isNull = true ∨ setting.kind = expected then none
    else some (OptionError.mismatch name expected setting.kind)) rfl name

private theorem misfit?_eq_none_of_nullAt (null : raw.nullAt name = true) :
    raw.misfit? name = none := by
  obtain ⟨setting, found, isNull⟩ := (Option.any_eq_true _ _).mp null
  rw [misfit?_eq_none_iff]
  intro expected other known givenLast wanted
  cases found.symm.trans givenLast
  exact absurd isNull (Bool.eq_false_iff.mp wanted)

private theorem misfits_given (unambiguous : raw.Unambiguous) :
    raw.given.names.filterMap raw.given.misfit? = raw.names.filterMap raw.misfit? := by
  have single := unambiguous.single
  unfold names
  rw [eraseDups_of_nodup single, eraseDups_of_nodup unambiguous.given.single, List.filterMap_map,
    List.filterMap_map, Settings.given, List.filterMap_filter]
  apply List.filterMap_congr
  intro entry member
  simp only [Function.comp_apply]
  split
  · exact misfit?_given single _
  · next null =>
      refine (misfit?_eq_none_of_nullAt ?_).symm
      rw [nullAt, (last?_eq_some_iff single).mpr ⟨entry, member, rfl, rfl⟩]
      simpa using null

private theorem unknown_eq_nil (unambiguous : raw.Unambiguous) : raw.unknown = [] :=
  unknown_eq_nil_iff.mpr unambiguous.known

private theorem errors_given (unambiguous : raw.Unambiguous) :
    (ofSettings raw.given).errors = (ofSettings raw).errors := by
  have required := read_given unambiguous.single
    (fun found => found.any Setting.truthy) rfl "web_component"
  rw [errors_ofSettings, errors_ofSettings, misfits_given unambiguous,
    unknown_eq_nil unambiguous, unknown_eq_nil unambiguous.given, required]

private theorem warningsOf_given (unambiguous : raw.Unambiguous) :
    warningsOf raw.given.translate = warningsOf raw.translate := by
  unfold warningsOf
  rw [get?_translate, get?_translate]
  rcases last?_given_cases unambiguous.single "logger" with same | ⟨nothing, null⟩
  · rw [same]
  · rw [nothing, null]
    rfl

/-! ## Values -/

private theorem loggerOf_given (unambiguous : raw.Unambiguous) :
    loggerOf raw.given.translate = loggerOf raw.translate := by
  unfold loggerOf
  rw [get?_translate, get?_translate]
  rcases last?_given_cases unambiguous.single "logger" with same | ⟨nothing, null⟩
  · rw [same]
  · rw [nothing, null]

private theorem textOf_given (unambiguous : raw.Unambiguous) (name : String) :
    textOf raw.given.translate name = textOf raw.translate name := by
  unfold textOf
  rw [get?_translate, get?_translate]
  rcases last?_given_cases unambiguous.single name with same | ⟨nothing, null⟩
  · rw [same]
  · rw [nothing, null]

private theorem listOf_given (unambiguous : raw.Unambiguous) (name : String) :
    listOf raw.given.translate name = listOf raw.translate name := by
  unfold listOf
  rw [get?_translate, get?_translate]
  rcases last?_given_cases unambiguous.single name with same | ⟨nothing, null⟩
  · rw [same]
  · rw [nothing, null]

/-- A truth value is false where it is not given, and where it is null once that is dropped. -/
theorem boolOf_given (unambiguous : raw.Unambiguous)
    (fits : Fits raw.translate name .boolean) :
    boolOf raw.given.translate name = some ((boolOf raw.translate name).getD false) := by
  unfold boolOf
  unfold Fits at fits
  rw [get?_translate] at fits
  rw [get?_translate, get?_translate, last?_given unambiguous.single]
  cases found : raw.last? name with
  | none => rfl
  | some setting =>
      match setting, fits setting found with
      | .json .null, _ => rfl
      | .json (.bool _), _ => rfl

/-- Among valid options a truth value is unset exactly if it is null. -/
theorem boolOf_eq_none_iff (fits : Fits raw.translate name .boolean) :
    boolOf raw.translate name = none ↔ raw.nullAt name = true := by
  unfold boolOf nullAt
  unfold Fits at fits
  rw [get?_translate] at fits ⊢
  cases found : raw.last? name with
  | none => exact iff_of_false (Option.some_ne_none false) Bool.false_ne_true
  | some setting =>
      match setting, fits setting found with
      | .json .null, _ => exact iff_of_true rfl rfl
      | .json (.bool b), _ => exact iff_of_false (Option.some_ne_none b) Bool.false_ne_true

private theorem isValid_given (unambiguous : raw.Unambiguous) :
    (ofSettings raw.given).isValid = (ofSettings raw).isValid := by
  unfold isValid
  rw [errors_given unambiguous]

/-! ## Whole options -/

/-- The options with each truth value that is unset as false. -/
def withFlags (options : BuildOptions) : BuildOptions :=
  { options with
    verbose := some (options.verbose.getD false)
    bundle := some (options.bundle.getD false) }

/-- The options leave a truth value of this name unset. -/
def leavesUnset (options : BuildOptions) (name : String) : Bool :=
  name = "verbose" && options.verbose.isNone || name = "bundle" && options.bundle.isNone

/-- Options without null flags stay as they are when null flags are read as false. -/
theorem withFlags_eq_self_iff {options : BuildOptions} :
    options.withFlags = options ↔ options.verbose ≠ none ∧ options.bundle ≠ none := by
  obtain ⟨component, names, verbose, logger, dest, bundle, bundleName, errors, warnings⟩ := options
  cases verbose <;> cases bundle <;> simp [withFlags]

private theorem filter_field (passes : String → Bool) (name : String) (value : Option Value) :
    (value.map fun value => (name, value)).filter (fun field => passes field.1) =
      if passes name then value.map fun value => (name, value) else none := by
  cases value with
  | none => exact (ite_self none).symm
  | some value => rfl

/-- The fields of options are those with all truth values, without those that are unset. -/
theorem toFields_withFlags (options : BuildOptions) :
    options.toFields =
      options.withFlags.toFields.filter fun field => !options.leavesUnset field.1 := by
  unfold toFields
  rw [List.filter_filterMap]
  simp only [List.filterMap_cons, id, filter_field (fun name => !options.leavesUnset name)]
  unfold leavesUnset withFlags
  cases verbose : options.verbose <;> cases bundle : options.bundle <;> simp

/-- Without the settings that are null, options have the truth values that were unset as false. -/
theorem ofSettings_given_eq (unambiguous : raw.Unambiguous) :
    ofSettings raw.given = (ofSettings raw).withFlags := by
  have errors := errors_given unambiguous
  have warnings := warningsOf_given unambiguous
  have logger := loggerOf_given unambiguous
  have validity := isValid_given unambiguous
  unfold withFlags
  cases valid : (ofSettings raw).isValid with
  | true =>
      obtain ⟨_, kinded, _⟩ := isValid_iff.mp valid
      have verbose := boolOf_given unambiguous (kinded.fits "verbose" (by decide))
      have bundle := boolOf_given unambiguous (kinded.fits "bundle" (by decide))
      rw [ofSettings_of_isValid (validity.trans valid), ofSettings_of_isValid valid]
      simp only [errors, warnings, logger, verbose, bundle, textOf_given unambiguous,
        listOf_given unambiguous]
  | false =>
      rw [ofSettings_of_faulty (validity.trans valid), ofSettings_of_faulty valid]
      simp only [errors, warnings, logger, Option.getD_some]

/-- A truth value is unset exactly if the options are valid and it is null. -/
theorem flags_eq_none_iff (raw : Settings) :
    ((ofSettings raw).verbose = none ↔
      (ofSettings raw).isValid = true ∧ raw.nullAt "verbose" = true) ∧
    ((ofSettings raw).bundle = none ↔
      (ofSettings raw).isValid = true ∧ raw.nullAt "bundle" = true) := by
  cases valid : (ofSettings raw).isValid with
  | true =>
      obtain ⟨_, kinded, _⟩ := isValid_iff.mp valid
      have verbose := boolOf_eq_none_iff (kinded.fits "verbose" (by decide))
      have bundle := boolOf_eq_none_iff (kinded.fits "bundle" (by decide))
      rw [ofSettings_of_isValid valid]
      exact ⟨verbose.trans (and_iff_right rfl).symm, bundle.trans (and_iff_right rfl).symm⟩
  | false =>
      rw [ofSettings_of_faulty valid]
      simp

private theorem leavesUnset_iff (raw : Settings) (name : String) :
    (ofSettings raw).leavesUnset name = true ↔
      (ofSettings raw).isValid = true ∧ name ∈ ["verbose", "bundle"] ∧ raw.nullAt name = true := by
  obtain ⟨verbose, bundle⟩ := flags_eq_none_iff raw
  unfold leavesUnset
  simp only [Bool.or_eq_true, Bool.and_eq_true, decide_eq_true_eq, Option.isNone_iff_eq_none,
    verbose, bundle, List.mem_cons, List.not_mem_nil, or_false]
  constructor
  · rintro (⟨rfl, valid, null⟩ | ⟨rfl, valid, null⟩)
    · exact ⟨valid, .inl rfl, null⟩
    · exact ⟨valid, .inr rfl, null⟩
  · rintro ⟨valid, rfl | rfl, null⟩
    · exact .inl ⟨rfl, valid, null⟩
    · exact .inr ⟨rfl, valid, null⟩

/-- **Null counts as not given, truth values aside.** Let the settings be those of options, each
under one spelling. Those of them that are not null stand for the same options, their faults and
warnings included, but for the truth values that are unset: these are false. Among the fields of the
options it is these that are missing. A truth value is unset exactly if the options are valid and it
is null, so that it is then, and only then, that the options differ. -/
theorem ofSettings_given (unambiguous : raw.Unambiguous) :
    ofSettings raw.given = (ofSettings raw).withFlags ∧
    ((ofSettings raw).toFields = (ofSettings raw.given).toFields.filter fun field =>
      !(ofSettings raw).leavesUnset field.1) ∧
    (∀ name, (ofSettings raw).leavesUnset name = true ↔
      (ofSettings raw).isValid = true ∧ name ∈ ["verbose", "bundle"] ∧ raw.nullAt name = true) ∧
    (ofSettings raw.given = ofSettings raw ↔
      ¬ ((ofSettings raw).isValid = true ∧
        (raw.nullAt "verbose" = true ∨ raw.nullAt "bundle" = true))) := by
  have same := ofSettings_given_eq unambiguous
  obtain ⟨verbose, bundle⟩ := flags_eq_none_iff raw
  refine ⟨same, ?_, leavesUnset_iff raw, ?_⟩
  · rw [same]
    exact toFields_withFlags (ofSettings raw)
  · rw [same, withFlags_eq_self_iff, Ne, Ne, verbose, bundle, ← not_or, and_or_left]

/-- Settings with a text and a truth value that are null. -/
def nullSettings : Settings :=
  [("webComponent", .json (.text "a.json")), ("dest", .json .null), ("bundle", .json .null)]

private theorem unambiguous_nullSettings : nullSettings.Unambiguous where
  known := by decide +kernel
  single := by decide +kernel

/-- Without the two the destination stays unset, and the truth value is false. -/
theorem ofSettings_given_sample :
    ofSettings nullSettings.given = { ofSettings nullSettings with bundle := some false } ∧
      (ofSettings nullSettings).leavesUnset "dest" = false ∧
      (ofSettings nullSettings).leavesUnset "bundle" = true := by
  obtain ⟨same, _, unset, _⟩ := ofSettings_given unambiguous_nullSettings
  refine ⟨same.trans ?_, ?_, ?_⟩
  · rfl
  · rw [Bool.eq_false_iff, Ne, unset]
    decide +kernel
  · rw [unset]
    decide +kernel

/-- Options differ from those of the settings that are not null: a truth value that is null is unset
and missing among the fields. -/
theorem not_given_null_bundle :
    nullSettings.Unambiguous ∧
      (ofSettings nullSettings).bundle = none ∧
      (ofSettings nullSettings.given).bundle = some false ∧
      (ofSettings nullSettings).toFields.map Prod.fst = ["web_component", "verbose"] ∧
      (ofSettings nullSettings.given).toFields.map Prod.fst =
        ["web_component", "verbose", "bundle"] := by
  refine ⟨unambiguous_nullSettings, ?_, ?_, ?_, ?_⟩ <;> decide +kernel

end BuildOptions
end ElementWrap
