import ElementWrap.Proofs.Options.Nulls
import ElementWrap.Proofs.Naming.RoundTrip
import ElementWrap.Proofs.Work.Readability

/-! # Which of two settings counts

Of the settings of a configuration file and of those that take precedence over it, the options see
one under each name: what was given last, and not as null, beside the file, or else what the file
gives last (`ElementWrap.BuildOptions.load_overridden`). It makes no difference that names are put
in snake case once when the settings are merged and once more when the options are read, since a
name in snake case stays as it is.
-/

namespace ElementWrap

/-! ## Names in snake case -/

namespace Naming

private theorem markCapitals_of_uncapitalized {cs : List Char} (small : Uncapitalized cs) :
    markCapitals cs = cs := by
  unfold markCapitals
  induction cs with
  | nil => rfl
  | cons c rest ih =>
      obtain ⟨first, smallRest⟩ := List.forall_mem_cons.mp small
      rw [List.flatMap_cons, ih smallRest, first]
      rfl

/-- The dash case of a word that has no capitals and stays as it is when it is lower-cased. -/
theorem dashChars_of_isSettled {cs : List Char} (small : Uncapitalized cs)
    (settled : ∀ c ∈ cs, Text.IsSettled c) : dashChars cs = cs := by
  rw [dashChars, markCapitals_of_uncapitalized small, Text.lower_of_isSettled settled]

private theorem mem_snake {name : String} {c : Char} (member : c ∈ (snake name).toList) :
    c.isUpper = false ∧ Text.IsSettled c ∧ c ≠ '-' := by
  rw [snake, String.toList_ofList] at member
  obtain ⟨d, present, rfl⟩ := List.mem_map.mp member
  split
  · exact ⟨by decide, ⟨by decide +kernel, by decide⟩, by decide⟩
  · next kept => exact ⟨uncapitalized_dashChars _ d present, .of_mem_lower present, kept⟩

/-- **A name in snake case is its own snake case.** -/
theorem snake_snake (name : String) : snake (snake name) = snake name := by
  have fixed : dashChars (snake name).toList = (snake name).toList :=
    dashChars_of_isSettled (fun _ member => (mem_snake member).1) fun _ member =>
      (mem_snake member).2.1
  have undashed : (snake name).toList.map (fun c => if c = '-' then '_' else c) =
      (snake name).toList.map id :=
    List.map_congr_left fun _ member => if_neg (mem_snake member).2.2
  conv_lhs => rw [snake, fixed, undashed, List.map_id, String.ofList_toList]

end Naming

/-! ## Merged settings -/

namespace Settings

/-- The settings under their snake-case names, those that take precedence over them counting unless
they are null: the names of the first come first, then the new names of the others. -/
def overridden (configured overrides : Settings) : Settings :=
  (configured.names ++ overrides.given.names.filter (· ∉ configured.names)).filterMap fun name =>
    ((overrides.given.last? name).or (configured.last? name)).map fun setting => (name, setting)

variable {configured overrides raw : Settings} {name : String}

private theorem update_eq (base : Settings) (distinct : (base.map Prod.fst).Nodup)
    (entries : Settings) :
    base.update entries = Ordered.ofList (base ++ entries) := by
  rw [Ordered.ofList, List.foldl_append, ← Ordered.ofList, Ordered.ofList_of_nodup distinct]
  rfl

private theorem nodup_names (raw : Settings) : raw.names.Nodup := nodup_eraseDups _

private theorem nodup_keys_translate (raw : Settings) : (raw.translate.map Prod.fst).Nodup := by
  rw [keys_translate]
  exact nodup_names raw

private theorem ofList_translate (raw : Settings) : Ordered.ofList raw.translate = raw.translate :=
  Ordered.ofList_of_nodup (nodup_keys_translate raw)

private theorem mergedSettings_eq_ofList (configured overrides : Settings) :
    BuildOptions.mergedSettings configured overrides =
      Ordered.ofList (configured.translate ++ overrides.given.translate) := by
  have started : Settings.update [] configured.translate = configured.translate := by
    rw [update_eq [] List.nodup_nil, List.nil_append, ofList_translate]
  rw [BuildOptions.mergedSettings, started, update_eq _ (nodup_keys_translate configured)]
  rfl

private theorem keys_mergedSettings (configured overrides : Settings) :
    (BuildOptions.mergedSettings configured overrides).map Prod.fst =
      configured.names ++ overrides.given.names.filter (· ∉ configured.names) := by
  have new : overrides.given.names.removeAll configured.names =
      overrides.given.names.filter (· ∉ configured.names) :=
    List.filter_congr fun name _ => by simp
  rw [mergedSettings_eq_ofList, Ordered.keys_ofList, List.map_append, keys_translate,
    keys_translate, List.eraseDups_append, eraseDups_of_nodup (nodup_names configured), new,
    eraseDups_of_nodup ((nodup_names overrides.given).filter _)]

private theorem get?_mergedSettings (configured overrides : Settings) (name : String) :
    (BuildOptions.mergedSettings configured overrides).get? name =
      (overrides.given.last? name).or (configured.last? name) := by
  rw [mergedSettings_eq_ofList, Settings.get?, Ordered.get?_ofList_append, ofList_translate,
    ofList_translate]
  exact congr (congrArg Option.or (get?_translate _ name)) (get?_translate configured name)

/-- Writing one list of settings into the other comes to looking them up name by name. -/
theorem mergedSettings_eq (configured overrides : Settings) :
    BuildOptions.mergedSettings configured overrides = configured.overridden overrides := by
  have distinct :
      ((BuildOptions.mergedSettings configured overrides).map Prod.fst).Nodup := by
    rw [mergedSettings_eq_ofList, Ordered.keys_ofList]
    exact nodup_eraseDups _
  rw [Ordered.eq_filterMap_keys distinct, keys_mergedSettings]
  refine congrArg (List.filterMap · _) (funext fun name => ?_)
  exact congrArg (Option.map fun setting => (name, setting))
    (get?_mergedSettings configured overrides name)

/-! ## Names that are put in snake case twice -/

/-- Settings under names in snake case, each once, are taken as they are. -/
theorem translate_of_snake (snake : ∀ entry ∈ raw, Naming.snake entry.1 = entry.1)
    (distinct : (raw.map Prod.fst).Nodup) : raw.translate = raw := by
  have same : raw.map (fun entry => (Naming.snake entry.1, entry.2)) = raw.map id :=
    List.map_congr_left fun entry member => Prod.ext (snake entry member) rfl
  rw [translate, same, List.map_id, Ordered.ofList_of_nodup distinct]

private theorem snake_of_mem_names (member : name ∈ raw.names) : Naming.snake name = name := by
  rw [names, List.mem_eraseDups] at member
  obtain ⟨entry, _, rfl⟩ := List.mem_map.mp member
  exact Naming.snake_snake entry.1

private theorem translate_translate (raw : Settings) : raw.translate.translate = raw.translate := by
  apply translate_of_snake
  · intro entry member
    apply snake_of_mem_names
    rw [← keys_translate]
    exact List.mem_map_of_mem member
  · exact nodup_keys_translate raw

private theorem translate_mergedSettings (configured overrides : Settings) :
    (BuildOptions.mergedSettings configured overrides).translate =
      BuildOptions.mergedSettings configured overrides := by
  apply translate_of_snake
  · intro entry member
    have known := List.mem_map_of_mem (f := Prod.fst) member
    rw [keys_mergedSettings] at known
    rcases List.mem_append.mp known with first | new
    · exact snake_of_mem_names first
    · exact snake_of_mem_names (List.mem_filter.mp new).1
  · rw [mergedSettings_eq_ofList, Ordered.keys_ofList]
    exact nodup_eraseDups _

/-- What is looked up among settings that were merged was given beside the file or is its own. -/
theorem last?_mergedSettings (configured overrides : Settings) (name : String) :
    (BuildOptions.mergedSettings configured overrides).last? name =
      (overrides.given.last? name).or (configured.last? name) := by
  rw [← get?_translate, translate_mergedSettings, get?_mergedSettings]

private theorem mergedSettings_nil (configured : Settings) :
    BuildOptions.mergedSettings configured [] = configured.translate := by
  rw [mergedSettings_eq_ofList]
  change Ordered.ofList (configured.translate ++ []) = _
  rw [List.append_nil, ofList_translate]

/-- Without a configuration the given settings are merged with nothing. -/
theorem nil_mergedSettings (overrides : Settings) :
    BuildOptions.mergedSettings [] overrides = overrides.given.translate := by
  rw [mergedSettings_eq_ofList]
  exact ofList_translate overrides.given

end Settings

/-! ## Options of a configuration file -/

namespace BuildOptions

open Files Settings

variable {disk : Disk} {place : Location} {file : String} {fields : List (String × Value)}

private theorem ofSettings_translate (raw : Settings) :
    ofSettings raw.translate = ofSettings raw := by
  unfold ofSettings
  rw [translate_translate]

/-- The settings of an object. -/
def settingsOfFields (fields : List (String × Value)) : Settings :=
  fields.map fun field => (field.1, .json field.2)

/-- Options of a file that holds an object are those of its settings with the ones that take
precedence written over them. -/
theorem load_of_holds (named : (Path.ofString file).isJson = true)
    (holds : Work.HoldsValue disk (.ofString file) place (.object fields))
    (overrides : Settings) :
    load disk (some file) overrides =
      .ok (ofSettings (mergedSettings (settingsOfFields fields) overrides)) := by
  have given : file ≠ "" := by
    rintro rfl
    exact absurd named (by decide +kernel)
  have read := Work.settingsOfFile_ok_iff.mpr ⟨named, place, fields, holds, rfl⟩
  unfold load
  simp only [if_neg given, read]
  rfl

/-- **The setting that counts.** Let a file of values hold an object. With settings beside it, the
options are those of one object that has, under each name in snake case, what was given last and not
as null beside the file, or else what the file gives last, the names of the file first and each
where it is met first. Without settings beside it they are those of the object in the file. A name
in snake case stays as it is, whatever the name was. -/
theorem load_overridden (named : (Path.ofString file).isJson = true)
    (holds : Work.HoldsValue disk (.ofString file) place (.object fields)) :
    (∀ overrides, load disk (some file) overrides =
      .ok (ofSettings ((settingsOfFields fields).overridden overrides))) ∧
    load disk (some file) [] = .ok (ofSettings (settingsOfFields fields)) ∧
    ∀ name, Naming.snake (Naming.snake name) = Naming.snake name := by
  refine ⟨fun overrides => ?_, ?_, Naming.snake_snake⟩
  · rw [load_of_holds named holds, mergedSettings_eq]
  · rw [load_of_holds named holds, mergedSettings_nil, ofSettings_translate]

/-! ## A configuration file -/

/-- The settings in a configuration file, one of them null. -/
def configFields : List (String × Value) :=
  [("webComponent", .text "a.json"), ("dest", .null), ("bundle", .bool true)]

/-- The text of the file. -/
def configText : String := "\x7b\"webComponent\":\"a.json\",\"dest\":null,\"bundle\":true\x7d"

/-- A working directory with an analysis and the configuration file. -/
def configDisk : Disk :=
  Work.sampleDisk.put ["w", "c.json"] (.file (Text.Utf8.encode configText))

private theorem valueOfBytes_configText :
    valueOfBytes (Text.Utf8.encode configText) = .ok (.object configFields) := by
  have decoded : Text.Utf8.decode (Text.Utf8.encode configText) = .ok configText.toList := by
    rw [Text.Utf8.encode, configText, String.toList_ofList]
    rfl
  have read : Json.read (Text.unifyNewlines configText.toList) = .ok (.object configFields) := by
    rw [configText, String.toList_ofList]
    rfl
  unfold valueOfBytes
  rw [decoded]
  simp only [read]

private theorem ofString_config : Path.ofString "c.json" = ⟨.relative, ["c.json"]⟩ := by
  decide +kernel

private theorem holdsValue_configDisk :
    Work.HoldsValue configDisk (.ofString "c.json") ["w", "c.json"] (.object configFields) := by
  rw [ofString_config]
  exact ⟨Disk.follow_of_fits (by decide +kernel) rfl, Text.Utf8.encode configText, rfl,
    valueOfBytes_configText⟩

/-- The name of a bundle beside the file is added, and a null beside it is not. -/
theorem load_overridden_config :
    load configDisk (some "c.json")
          [("bundleName", .json (.text "B.js")), ("bundle", .json .null)] =
        .ok (ofSettings [("web_component", .json (.text "a.json")), ("dest", .json .null),
          ("bundle", .json (.bool true)), ("bundle_name", .json (.text "B.js"))]) ∧
      load configDisk (some "c.json") [] = .ok (ofSettings (settingsOfFields configFields)) := by
  obtain ⟨merged, alone, _⟩ := load_overridden (by decide +kernel) holdsValue_configDisk
  exact ⟨(merged _).trans rfl, alone⟩

end BuildOptions
end ElementWrap
