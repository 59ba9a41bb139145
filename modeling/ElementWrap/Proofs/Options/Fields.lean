import ElementWrap.Proofs.Options.Precedence

/-! # Options made of the fields of options

The fields of options leave out what is not set, and the logger. Options that are made of them have
the same values under all other names: where a setting is missing stands the default, and that is
unset for every option but the truth values. A truth value that is false because it was not given is
among the fields, so that only one that was null does not come back
(`ElementWrap.BuildOptions.ofSettings_toFields`).
-/

namespace ElementWrap.BuildOptions

open Settings

variable {options : BuildOptions} {raw settings : Settings} {name : String}

/-! ## The fields as settings -/

/-- Something is held under a name. -/
def isSet (entry : String × Value) : Bool := !(Setting.json entry.2).isNull

/-- An option is among the fields exactly if what is held under its name is not null. -/
theorem filterMap_cons_field {α : Type} {wrap : α → Value} (name : String) (value : Option α)
    (set : ∀ a, isSet (name, wrap a) = true)
    {fields : List (Option (String × Value))} {entries : List (String × Value)}
    (rest : fields.filterMap id = entries.filter isSet) :
    (((value.map wrap).map fun value => (name, value)) :: fields).filterMap id =
      ((name, value.elim .null wrap) :: entries).filter isSet := by
  cases value with
  | none =>
      rw [List.filter_cons_of_neg Bool.false_ne_true, ← rest]
      rfl
  | some a =>
      rw [Option.elim_some, List.filter_cons_of_pos (set a), ← rest]
      rfl

/-- The fields of options are what they hold, without what is null. -/
theorem toFields_eq (options : BuildOptions) : options.toFields = options.held.filter isSet := by
  refine filterMap_cons_field "web_component" _ (fun _ => rfl) ?_
  refine filterMap_cons_field "react_components" _ (fun _ => rfl) ?_
  refine filterMap_cons_field "verbose" _ (fun _ => rfl) ?_
  refine filterMap_cons_field "dest" _ (fun _ => rfl) ?_
  refine filterMap_cons_field "bundle" _ (fun _ => rfl) ?_
  exact filterMap_cons_field "bundle_name" _ (fun _ => rfl) rfl

private theorem settingsOfFields_toFields (options : BuildOptions) :
    settingsOfFields options.toFields = (settingsOfFields options.held).given := by
  unfold settingsOfFields Settings.given
  rw [toFields_eq, List.filter_map]
  rfl

/-! ## What options hold, as settings -/

private theorem keys_held (options : BuildOptions) :
    (settingsOfFields options.held).map Prod.fst =
      (knownOptions.map Prod.fst).filter (· ≠ "logger") := by
  rfl

private theorem known_of_mem_held {entry : String × Setting}
    (member : entry ∈ settingsOfFields options.held) : entry.1 ∈ knownOptions.map Prod.fst := by
  have key := List.mem_map_of_mem (f := Prod.fst) member
  rw [keys_held] at key
  exact (List.mem_filter.mp key).1

private theorem translate_held (options : BuildOptions) :
    (settingsOfFields options.held).translate = settingsOfFields options.held := by
  refine Work.translate_of_known (fun _ => known_of_mem_held) (Ordered.ofList_of_nodup ?_)
  rw [keys_held]
  exact nodup_knownOptions.filter _

private theorem unambiguous_held (options : BuildOptions) :
    (settingsOfFields options.held).Unambiguous where
  known name member := by
    rw [← keys_translate, translate_held] at member
    obtain ⟨entry, present, rfl⟩ := List.mem_map.mp member
    exact known_of_mem_held present
  single := by
    have same : (settingsOfFields options.held).map (fun entry => Naming.snake entry.1) =
        (settingsOfFields options.held).map Prod.fst :=
      List.map_congr_left fun entry member => Work.snake_of_known _ (known_of_mem_held member)
    rw [same, keys_held]
    exact nodup_knownOptions.filter _

private theorem wellKinded_held (options : BuildOptions) :
    WellKinded (settingsOfFields options.held) := by
  intro name expected setting known given wanted
  rw [← get?_translate, translate_held] at given
  obtain ⟨⟨other, value⟩, member, same⟩ := List.mem_map.mp (Ordered.mem_of_get? given)
  cases same
  rcases kind_of_mem_held member with null | kind
  · rw [null] at wanted
    exact nomatch wanted
  · have unique := get?_knownOptions_iff.mpr kind
    exact Option.some.inj (unique.symm.trans (get?_knownOptions_iff.mpr known))

private theorem isValid_held {component : String} (given : options.webComponent = some component)
    (full : component ≠ "") : (ofSettings (settingsOfFields options.held)).isValid = true := by
  refine isValid_iff.mpr ⟨(unambiguous_held options).known, wellKinded_held options,
    component, full, ?_⟩
  rw [← get?_translate, translate_held, settingsOfFields, held, given]
  rfl

private theorem textOf_of_get? {value : Option String}
    (holds : settings.get? name = some (.json (value.elim .null .text))) :
    textOf settings name = value := by
  unfold textOf
  rw [holds]
  cases value with
  | none => rfl
  | some text => rfl

private theorem listOf_of_get? {value : Option (List Value)}
    (holds : settings.get? name = some (.json (value.elim .null .list))) :
    listOf settings name = value := by
  unfold listOf
  rw [holds]
  cases value with
  | none => rfl
  | some items => rfl

private theorem boolOf_of_get? {value : Option Bool}
    (holds : settings.get? name = some (.json (value.elim .null .bool))) :
    boolOf settings name = value := by
  unfold boolOf
  rw [holds]
  cases value with
  | none => rfl
  | some b => rfl

/-- What options with a component file hold, as settings, stands for the same options: the truth
values that are unset are held as null. -/
theorem ofSettings_held {component : String} (given : options.webComponent = some component)
    (full : component ≠ "") :
    ofSettings (settingsOfFields options.held) =
      { options with logger := none, errors := [], warnings := [] } := by
  have valid := isValid_held given full
  have holds (entry : String × Value) (member : entry ∈ options.held) :
      (settingsOfFields options.held).get? entry.1 = some (.json entry.2) :=
    Ordered.get?_of_mem (keys_held options ▸ nodup_knownOptions.filter _)
      (List.mem_map_of_mem member)
  simp only [held, List.forall_mem_cons] at holds
  obtain ⟨component, names, verbose, dest, bundle, bundleName, _⟩ := holds
  rw [ofSettings_of_isValid valid, List.isEmpty_iff.mp valid, translate_held]
  simp only [held, textOf_of_get? component, listOf_of_get? names, boolOf_of_get? verbose,
    textOf_of_get? dest, boolOf_of_get? bundle, textOf_of_get? bundleName]
  rfl

/-! ## There and back -/

/-- The fields of options with a component file stand for the same options, with each truth value
that is unset as false. -/
theorem ofSettings_fields {component : String} (given : options.webComponent = some component)
    (full : component ≠ "") :
    ofSettings (settingsOfFields options.toFields) =
      { options.withFlags with logger := none, errors := [], warnings := [] } := by
  rw [settingsOfFields_toFields, ofSettings_given_eq (unambiguous_held options),
    ofSettings_held given full]
  rfl

private theorem webComponent_of_isValid (valid : (ofSettings raw).isValid = true) :
    ∃ component, component ≠ "" ∧ (ofSettings raw).webComponent = some component := by
  obtain ⟨_, _, component, full, given⟩ := isValid_iff.mp valid
  refine ⟨component, full, ?_⟩
  rw [ofSettings_of_isValid valid]
  simp only [textOf, get?_translate, given]

/-- **The fields of valid options stand for the same options**, if neither of the two truth values
was given as null: the options that are made of them are valid, without warnings and without a
logger, have all other values, and so the same fields. -/
theorem ofSettings_toFields (valid : (ofSettings raw).isValid = true)
    (verbose : raw.nullAt "verbose" = false) (bundle : raw.nullAt "bundle" = false) :
    ofSettings (settingsOfFields (ofSettings raw).toFields) =
        { ofSettings raw with logger := none, warnings := [] } ∧
      (ofSettings (settingsOfFields (ofSettings raw).toFields)).isValid = true ∧
      (ofSettings (settingsOfFields (ofSettings raw).toFields)).toFields =
        (ofSettings raw).toFields := by
  obtain ⟨component, full, given⟩ := webComponent_of_isValid valid
  obtain ⟨verboseUnset, bundleUnset⟩ := flags_eq_none_iff raw
  have flags : (ofSettings raw).withFlags = ofSettings raw := by
    refine withFlags_eq_self_iff.mpr ⟨fun unset => ?_, fun unset => ?_⟩
    · exact Bool.false_ne_true (verbose.symm.trans (verboseUnset.mp unset).2)
    · exact Bool.false_ne_true (bundle.symm.trans (bundleUnset.mp unset).2)
  have back : ofSettings (settingsOfFields (ofSettings raw).toFields) =
      { ofSettings raw with logger := none, warnings := [] } := by
    rw [ofSettings_fields given full, flags, ← List.isEmpty_iff.mp valid]
  rw [back]
  exact ⟨rfl, valid, rfl⟩

/-- Settings in camel case with a logger that lacks methods, an option that is null and a truth
value. -/
def partialSettings : Settings :=
  [("webComponent", .json (.text "a.json")), ("reactComponents", .json (.list [.int 1])),
    ("logger", .logger { methods := ["info"] }), ("dest", .json .null),
    ("bundle", .json (.bool true))]

/-- What comes back lacks the warning about the logger. -/
theorem ofSettings_toFields_partial :
    (ofSettings partialSettings).warnings ≠ [] ∧
      ofSettings (settingsOfFields (ofSettings partialSettings).toFields) =
        { webComponent := some "a.json"
          reactComponents := some [.int 1]
          bundle := some true } := by
  have nulls : partialSettings.nullAt "verbose" = false ∧
      partialSettings.nullAt "bundle" = false := by decide +kernel
  have valid : (ofSettings partialSettings).isValid = true := by decide +kernel
  obtain ⟨back, _, _⟩ := ofSettings_toFields valid nulls.1 nulls.2
  refine ⟨by decide +kernel, back.trans ?_⟩
  rfl

end ElementWrap.BuildOptions
