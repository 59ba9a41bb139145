import ElementWrap.Proofs.Files.Descent
import ElementWrap.Proofs.Layout.Independence
import ElementWrap.Proofs.Layout.Paths
import ElementWrap.Proofs.Work.Confinement
import ElementWrap.Proofs.Work.Rebuild

/-! # What builds write to

A build changes no file but its debug file and those at the places that its paths spell out
(`ElementWrap.Work.changing_build`). These are below its destination if the name of the bundle, read
as a path, ends below where it starts, and the class names stay below where they start
(`ElementWrap.Work.build_contained`), as they do without slashes and dots
(`ElementWrap.Layout.namesStay_of_notMem`). Under other names some file does not end below
(`ElementWrap.Layout.endsBelow_generate_iff`), and nothing rules such names out: a bundle can be
asked for outside of its destination.
-/

namespace ElementWrap

namespace Layout

open Files Log Naming Wrapper

/-! ## The paths of files -/

/-- The names that files get from a build do not lead out of its destination. -/
structure NamesStay (config : Config) (names : List Value) : Prop where
  bundle : config.isBundle = true → (Path.ofString (config.bundleFile extension)).EndsBelow
  classes : config.isBundle = false → ∀ s, .text s ∈ names →
    (Path.ofString (camel true s)).anchor = .relative ∧
      StayBelow (Path.ofString (camel true s)).steps

private theorem endsBelow_module {stem : String} (whole : '/' ∉ stem.toList) :
    (Path.ofString (stem ++ extension)).EndsBelow := by
  have inwards : stem ++ extension ≠ ".." := by
    have opens : 'j' ∈ (stem ++ extension).toList := by
      rw [String.toList_append]
      exact List.mem_append_right _ (by decide)
    exact (ne_of_notMem (by decide) opens).symm
  rw [ofString_module whole]
  exact Path.endsBelow_concat (.of_forth List.not_mem_nil) inwards

/-- The files of a class end below if and only if its name stays below. -/
theorem endsBelow_classFiles_iff {config : Config} {entry : String × String} :
    (∀ artifact ∈ classFiles config entry, artifact.path.EndsBelow) ↔
      (Path.ofString entry.1).anchor = .relative ∧ StayBelow (Path.ofString entry.1).steps := by
  constructor
  · intro ends
    have index := ends _ (List.mem_cons_of_mem _ (List.mem_singleton_self _))
    have steps : Path.ofString ("index" ++ extension) = ⟨.relative, ["index" ++ extension]⟩ :=
      ofString_module (by decide)
    rw [steps] at index
    exact ⟨index.relative, index.stays.of_prefix (List.prefix_append _ _)⟩
  · rintro ⟨relative, stays⟩ artifact member
    rcases List.mem_pair.mp member with rfl | rfl
    · have inner : (Path.ofString (entry.1 ++ extension)).EndsBelow :=
        Path.endsBelow_ofString_append relative stays (by decide) (by decide : 'j' ∈ _) (by decide)
      exact inner.joined relative stays
    · have inner : (Path.ofString ("index" ++ extension)).EndsBelow := endsBelow_module (by decide)
      exact inner.joined relative stays

/-- The files of a build that is no bundle are those of its classes and the helpers. The classes
have the names that are asked for. -/
theorem exists_classes_of_generate {config : Config} {analysis : Analysis} {asked : Value}
    {names : List Value} {generated : Outcome Artifact Fault} (apart : config.isBundle = false)
    (selected : (analysis.selectNames asked).outcome.1 = .ok names)
    (made : (generate config analysis asked).outcome.1 = .ok generated) :
    ∃ classes : Classes,
      generated.artifacts = classes.flatMap (classFiles config) ++ [helpersFile config] ∧
      ∀ key, key ∈ classes.map Prod.fst ↔ ∃ s, .text s ∈ names ∧ key = Naming.camel true s := by
  obtain ⟨chosen, components, _, artifacts, selectedAgain, converted, _, assembled, rfl⟩ :=
    generate_ok_iff.mp made
  obtain rfl := Except.ok.inj (selected.symm.trans selectedAgain)
  rw [outcome_assemble config Naming.wellFormed_empty] at assembled
  obtain ⟨classes, rendered, laid⟩ := bind_eq_ok_iff.mp assembled
  rw [artifactsOf_separate apart] at laid
  obtain rfl := Except.ok.inj laid
  refine ⟨classes, rfl, fun key => ?_⟩
  have found := mapM_eq_ok_iff.mp converted
  rw [mem_keys_classesFrom rendered]
  constructor
  · rintro (before | ⟨component, known, s, name, same⟩)
    · exact absurd before List.not_mem_nil
    · obtain ⟨other, present, converts⟩ := exists_mem_of_forall₂ found.flip known
      rw [← Analysis.name_of_component converts, name] at present
      exact ⟨s, present, same⟩
  · rintro ⟨s, present, same⟩
    obtain ⟨component, known, converts⟩ := exists_mem_of_forall₂ found present
    exact .inr ⟨component, known, s, Analysis.name_of_component converts, same⟩

/-- **When the files of a build end below.** They do if and only if its names do not lead out of the
destination. -/
theorem endsBelow_generate_iff {config : Config} {analysis : Analysis} {asked : Value}
    {names : List Value} {generated : Outcome Artifact Fault}
    (selected : (analysis.selectNames asked).outcome.1 = .ok names)
    (made : (generate config analysis asked).outcome.1 = .ok generated) :
    (∀ artifact ∈ generated.artifacts, artifact.path.EndsBelow) ↔ NamesStay config names := by
  cases layout : config.isBundle with
  | true =>
      obtain ⟨_, _, _, artifacts, _, _, _, assembled, rfl⟩ := generate_ok_iff.mp made
      obtain ⟨module, rfl, _, path⟩ := eq_singleton_of_isBundle layout assembled
      change (∀ artifact ∈ [module], artifact.path.EndsBelow) ↔ _
      rw [List.forall_mem_singleton, path]
      exact ⟨fun ends => ⟨fun _ => ends, fun apart => nomatch layout.symm.trans apart⟩,
        fun stays => stays.bundle layout⟩
  | false =>
      obtain ⟨classes, files, keys⟩ := exists_classes_of_generate layout selected made
      have named (s : String) (present : .text s ∈ names) :
          ∃ entry ∈ classes, entry.1 = Naming.camel true s :=
        List.mem_map.mp ((keys _).mpr ⟨s, present, rfl⟩)
      have helpers : (helpersFile config).path.EndsBelow := endsBelow_module (by decide)
      rw [files]
      constructor
      · refine fun ends => ⟨fun bundle => (nomatch layout.symm.trans bundle), fun _ s present => ?_⟩
        obtain ⟨entry, listed, same⟩ := named s present
        rw [← same]
        exact endsBelow_classFiles_iff.mp fun artifact member =>
          ends artifact (List.mem_append_left _ (List.mem_flatMap.mpr ⟨entry, listed, member⟩))
      · intro stays artifact member
        rcases List.mem_append.mp member with inside | last
        · obtain ⟨entry, listed, file⟩ := List.mem_flatMap.mp inside
          obtain ⟨s, present, same⟩ := (keys _).mp (List.mem_map_of_mem listed)
          exact endsBelow_classFiles_iff.mpr (same ▸ stays.classes layout s present) artifact file
        · rwa [List.mem_singleton.mp last]

/-- Names without slashes and dots do not lead out of a destination. -/
theorem namesStay_of_notMem {config : Config} {names : List Value}
    (inward : config.isBundle = true → (Path.ofString (config.bundleFile extension)).IsInward)
    (noSlash : ∀ s, .text s ∈ names → '/' ∉ s.toList)
    (noDot : ∀ s, .text s ∈ names → '.' ∉ s.toList) : NamesStay config names where
  bundle layout := (inward layout).endsBelow
  classes _ s present := by
    have absent {mark : Char} (low : mark.toNat < 0x41) (outside : mark ∉ s.toList) :
        mark ∉ (camel true s).toList := fun member =>
      (mem_or_le_of_mem_camel member).elim outside (Nat.not_le_of_lt low)
    have whole : '/' ∉ (camel true s).toList := absent (by decide) (noSlash s present)
    have plain : '.' ∉ (camel true s).toList := absent (by decide) (noDot s present)
    refine ⟨Path.relative_ofString_iff.mpr fun opens => whole (List.mem_of_mem_head? opens),
      .of_forth fun back => ?_⟩
    rw [Path.steps_ofString, Path.stepsOf, List.splitOn_eq_singleton whole] at back
    obtain ⟨part, kept, spelled⟩ := List.mem_map.mp back
    rw [List.mem_singleton.mp (List.mem_filter.mp kept).1, String.ofList_toList] at spelled
    exact plain (spelled ▸ by decide)

end Layout

namespace Work

open Files Log Layout

variable {home place : Location} {places : Set Location} {options : BuildOptions}
  {workspace before after : Workspace}

/-! ## Where files change -/

/-- Files change at some places alone, the debug file aside, and the log stays confined. -/
structure ChangedAt (home : Location) (places : Set Location) (before after : Workspace) :
    Prop where
  confined : Confined home after
  elsewhere : ∀ place, place ≠ debugPlace home → place ∉ places →
    after.disk.file? place = before.disk.file? place

/-- What a confined log is at work on changes files at some places alone. -/
def Changing (home : Location) (places : Set Location) (before after : Workspace) : Prop :=
  Confined home before → ChangedAt home places before after

instance : IsPreorder Workspace (Changing home places) where
  refl _ confined := ⟨confined, fun _ _ _ => rfl⟩
  trans _ _ _ first second confined := by
    have earlier := first confined
    have later := second earlier.confined
    exact ⟨later.confined, fun place away apart =>
      (later.elsewhere place away apart).trans (earlier.elsewhere place away apart)⟩

/-- The debug file has its place, wherever the working directory is. -/
theorem placeFrom_debugFile (parentless : ".." ∉ home) (start : Location) :
    (debugFile home).placeFrom start = debugPlace home := by
  have forth : ".." ∉ home ++ [debugFileName] := by simpa [debugFileName] using parentless
  exact (foldl_enter forth []).trans (List.nil_append _)

private theorem changing_put (free : workspace.disk.node? place ≠ some .directory)
    (content : List UInt8) (within : place = debugPlace home ∨ place ∈ places) :
    Changing home places workspace
      { workspace with disk := workspace.disk.put place (.file content) } := by
  refine fun confined => ⟨⟨confined.atHome, confined.files⟩, fun other away apart => ?_⟩
  have different : other ≠ place := by
    rintro rfl
    exact within.elim away apart
  exact (Disk.file?_put free content other).trans (if_neg different)

private theorem byReports_changing (parentless : ".." ∉ home) :
    ByReports (Changing home places) := by
  apply byReports_of_appends
  · exact fun _ _ confined => ⟨⟨confined.atHome, confined.files⟩, fun _ _ _ => rfl⟩
  · exact fun _ _ confined => ⟨⟨confined.atHome, confined.files⟩, fun _ _ _ => rfl⟩
  · intro workspace path listed content disk appended confined
    obtain rfl := confined.files path listed
    obtain ⟨place, written, led, free, rfl⟩ := Disk.appendFile_ok appended
    have spelled := (Disk.placeFrom_of_follow led).trans (placeFrom_debugFile parentless _)
    exact changing_put free written (.inl spelled) confined

private theorem keptWriting_changing {path : Path} (within : path.placeFrom home ∈ places) :
    KeptWriting (Changing home places) path where
  makes workspace disk _ extended confined :=
    ⟨⟨extended.home.trans confined.atHome, confined.files⟩, fun _ _ _ => extended.file? _⟩
  writes workspace content disk written confined := by
    obtain ⟨place, led, free, rfl⟩ := Disk.writeFile_eq_ok_iff.mp written
    have spelled := Disk.placeFrom_of_follow led
    rw [confined.atHome] at spelled
    exact changing_put free content (.inr (spelled ▸ within)) confined

private theorem changing_clearDebugFile (parentless : ".." ∉ home) (reporter : Reporter) :
    Steps (Changing home places) (clearDebugFile reporter) := by
  cases reporter with
  | own logger => exact .pure ()
  | package source =>
      intro workspace confined
      have detached : Changing home places workspace (detachFiles.run.run workspace).2 := by
        refine fun confined => ⟨⟨confined.atHome, fun file member => ?_⟩, fun _ _ _ => rfl⟩
        rw [run_detachFiles, files_detach] at member
        exact absurd member List.not_mem_nil
      refine Steps.bind_from detached (fun files between ran => ?_) confined
      rw [run_detachFiles, Prod.mk.injEq] at ran
      obtain ⟨same, rfl⟩ := ran
      cases same
      refine Steps.forM (fun file listed => steps_onDisk ?_) _
      intro workspace disk removed reached
      obtain rfl := confined.files file listed
      refine ⟨⟨(home_removeFile removed).trans reached.atHome, reached.files⟩,
        fun other away _ => ?_⟩
      rcases Disk.removeFile_ok removed with ⟨rfl, _⟩ | ⟨place, content, led, held, rfl⟩
      · rfl
      · have spelled := (Disk.placeFrom_of_follow led).trans (placeFrom_debugFile parentless _)
        have different : other ≠ place := spelled ▸ away
        rw [Disk.file?, Disk.file?, Disk.node?_erase_of_ne different]

/-- **A build changes files at the places of its paths alone**, the debug file aside. -/
theorem changing_build (confined : Confined home workspace) (parentless : ".." ∉ home)
    (within : ∀ path, IsTarget options workspace path → path.placeFrom home ∈ places) :
    ChangedAt home places workspace ((build options).run.run workspace).2 := by
  have prepares : Changing home places workspace (prepared options workspace) :=
    fun confined => ⟨confined_prepared confined.atHome (.inr confined.files),
      fun _ _ _ => by rw [prepared_disk]⟩
  exact (byReports_changing parentless).build (fun _ => confined.atHome ▸ parentless) prepares
    (fun path written => keptWriting_changing (within path written))
    (changing_clearDebugFile parentless _) confined

/-! ## Inside the destination -/

/-- A place is inside the destination of a build. -/
def IsInside (home : Location) (options : BuildOptions) (place : Location) : Prop :=
  ∃ taken, taken ≠ [] ∧ place = (destination options).placeFrom home ++ taken

/-- **What a build writes is inside its destination.** Whatever was built before and whatever is on
the disk, let no name of the analysis that the build selects, nor the name of its bundle, lead out
of the destination. Then every path that the build writes to spells out a place inside the
destination, and a file that it changes, the debug file aside, is at such a place. -/
theorem build_contained (reachable : Reachable home workspace) (parentless : ".." ∉ home)
    (stays : ∀ analysis loaded names, (load options).run.run workspace = (.ok analysis, loaded) →
      (analysis.selectNames (requested options)).outcome.1 = .ok names →
        NamesStay (wrapperConfig options) names) :
    (∀ path, IsTarget options workspace path → IsInside home options (path.placeFrom home)) ∧
    ∀ place, place ≠ debugPlace home →
      ((build options).run.run workspace).2.disk.file? place ≠ workspace.disk.file? place →
        IsInside home options place := by
  have inside (path : Path) (written : IsTarget options workspace path) :
      IsInside home options (path.placeFrom home) := by
    obtain ⟨analysis, loaded, generated, artifact, loads, made, member, rfl⟩ := written
    obtain ⟨names, _, _, _, selected, _, _, _, _⟩ := generate_ok_iff.mp made
    have ends := (endsBelow_generate_iff selected made).mpr
      (stays analysis loaded names loads selected) artifact member
    exact ends.placeFrom_join home (destination options)
  refine ⟨inside, fun place away changed => ?_⟩
  by_contra outside
  have changes : ChangedAt home {place | IsInside home options place} workspace _ :=
    changing_build (reachable.confined parentless) parentless inside
  exact changed (changes.elsewhere place away outside)

/-- What the sample's bundle changes is inside its destination. -/
theorem build_contained_sample :
    ∃ place, place ≠ debugPlace ["w"] ∧
      ((build (bundleOptions [.text "x-a"])).run.run { disk := sampleDisk }).2.disk.file? place ≠
        sampleDisk.file? place ∧
      IsInside ["w"] (bundleOptions [.text "x-a"]) place := by
  obtain ⟨outcome, after, ran, _, _, _, held⟩ :=
    file_of_run_build_sample buildsSample_bundleOptions (.inl (by decide))
  have absent : sampleDisk.file? ["w", "build", "WebComponents.js"] = none := by decide
  have changed : ((build (bundleOptions [.text "x-a"])).run.run
      { disk := sampleDisk }).2.disk.file? ["w", "build", "WebComponents.js"] ≠
        sampleDisk.file? ["w", "build", "WebComponents.js"] := by
    rw [ran, absent, held]
    exact Option.some_ne_none _
  have stays (names : List Value) :
      NamesStay (wrapperConfig (bundleOptions [.text "x-a"])) names :=
    ⟨fun _ => endsBelow_module (by decide), fun apart => nomatch apart⟩
  exact ⟨_, by decide, changed, (build_contained (.fresh rfl rfl) (by decide)
    fun _ _ names _ _ => stays names).2 _ (by decide) changed⟩

/-! ## Outside of the destination -/

/-- Settings that ask for a module beside the destination. -/
def escapingSettings : Settings :=
  bundleSettings [.text "x-a"] ++ [("bundle_name", .json (.text "../x.js"))]

/-- The options that these settings stand for. -/
def escapingOptions : BuildOptions :=
  { bundleOptions [.text "x-a"] with bundleName := some "../x.js" }

private theorem valid_escapingOptions : escapingOptions.Valid where
  read := by
    have translated : escapingSettings.translate = escapingSettings :=
      translate_of_known (by decide) rfl
    refine ⟨escapingSettings, ?_⟩
    unfold BuildOptions.ofSettings
    rw [translated]
    rfl
  faultless := rfl

/-- Where this module is written to. -/
def escapingPath : Path := ⟨.relative, ["build", "..", "x.js"]⟩

private theorem follow_escapingPath : sampleDisk.follow escapingPath = .ok ["w", "x.js"] :=
  Disk.follow_of_fits (by decide +kernel) rfl

private theorem follow_parent_escapingPath : sampleDisk.follow escapingPath.parent = .ok ["w"] :=
  Disk.follow_of_fits (by decide +kernel) rfl

private theorem buildsSample_escapingOptions :
    BuildsSample escapingOptions escapingPath ["w"] ["w", "x.js"] where
  valid := valid_escapingOptions
  read := rfl
  asked := rfl
  bundle := rfl
  spelled := by
    change Path.join (destination escapingOptions)
      (.ofString ((wrapperConfig escapingOptions).bundleFile Wrapper.extension)) = escapingPath
    decide +kernel
  led := follow_escapingPath
  free := by decide
  above := follow_parent_escapingPath
  standing := by decide

/-- The module is written beside the destination, not inside. -/
theorem not_contained_escaping :
    escapingOptions.Valid ∧ Reachable ["w"] { disk := sampleDisk } ∧
      ∃ place, place ≠ debugPlace ["w"] ∧
        ((build escapingOptions).run.run { disk := sampleDisk }).2.disk.file? place ≠
          sampleDisk.file? place ∧
        ¬ IsInside ["w"] escapingOptions place := by
  have spelled : (destination escapingOptions).placeFrom ["w"] = ["w", "build"] := by
    decide +kernel
  obtain ⟨outcome, after, ran, _, _, _, held⟩ :=
    file_of_run_build_sample buildsSample_escapingOptions (.inl (by decide))
  have absent : sampleDisk.file? ["w", "x.js"] = none := by decide
  refine ⟨valid_escapingOptions, .fresh rfl rfl, ["w", "x.js"], by decide, ?_, ?_⟩
  · rw [ran, absent, held]
    exact Option.some_ne_none _
  rintro ⟨taken, _, same⟩
  rw [spelled] at same
  have apart : "x.js" = "build" := (List.cons.inj (List.cons.inj same).2).1
  exact absurd apart (by decide)

end Work

end ElementWrap
