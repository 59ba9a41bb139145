import ElementWrap.Proofs.Layout.Artifacts
import ElementWrap.Proofs.Layout.Generation
import ElementWrap.Proofs.Work.Success

/-! # Building twice

A successful build leaves each of its files with what was written there last and all other files as
they were. Running it again has the same outcome and changes nothing (`ElementWrap.Work.rebuild`),
since the second build finds every directory that the first one made.
-/

namespace ElementWrap.Work

open Files Log Layout

variable {home : Location} {options : BuildOptions} {workspace after again : Workspace}
  {outcome : Outcome Artifact Fault} {disk : Disk} {place : Location}

/-! ## The disk after a build -/

/-- What is at a place is known from the file there and from whether there is a directory. -/
theorem node?_congr {first second : Disk} (files : second.file? place = first.file? place)
    (directories : second.node? place = some .directory ↔ first.node? place = some .directory) :
    second.node? place = first.node? place := by
  cases held : second.node? place with
  | none =>
      cases before : first.node? place with
      | none => rfl
      | some node =>
          cases node with
          | directory => exact absurd (directories.mpr before) (by simp [held])
          | file content =>
              have found := files.trans (Disk.file?_eq_some_iff.mpr before)
              exact absurd (Disk.file?_eq_some_iff.mp found) (by simp [held])
  | some node =>
      cases node with
      | directory => exact (directories.mp held).symm
      | file content =>
          exact (Disk.file?_eq_some_iff.mp
            (files.symm.trans (Disk.file?_eq_some_iff.mpr held))).symm

/-- Writing what is there already changes nothing. -/
theorem Built.node?_again {artifacts : List Artifact}
    (built : Built home options artifacts workspace after)
    (builtAgain : Built home options artifacts after again)
    (back : again.disk.KeepsDirectories after.disk) (place : Location) :
    again.disk.node? place = after.disk.node? place := by
  by_cases apart : place ≠ debugPlace home ∨ options.ownLogger ≠ none
  · refine node?_congr ?_ ⟨back.kept place, builtAgain.keeps.kept place⟩
    rw [builtAgain.held place apart, lastWritten_congr builtAgain.keeps back,
      built.held place apart, ← Option.or_assoc, Option.or_self]
  · rw [not_or, not_not, not_not] at apart
    rw [apart.1, built.swept apart.2, builtAgain.swept apart.2]

/-- The analysis of a build that wrote elsewhere is still there. -/
theorem Built.holdsAnalysis {artifacts : List Artifact} {analysis : Analysis}
    (built : Built home options artifacts workspace after)
    (elsewhere : ∀ artifact ∈ artifacts, ∀ place,
      after.disk.follow (target (destination options) artifact) = .ok place →
        workspace.disk.follow (analysisPath options) ≠ .ok place)
    (holds : HoldsAnalysis home options workspace.disk analysis) :
    HoldsAnalysis home options after.disk analysis := by
  obtain ⟨place, value, away, ⟨led, content, held, read⟩, made⟩ := holds
  have unwritten : lastWritten after.disk (destination options) place artifacts = none :=
    lastWritten_eq_none_iff.mpr fun artifact member leads =>
      elsewhere artifact member place leads led
  have same := built.held place (.inl away)
  rw [unwritten, Option.none_or] at same
  exact ⟨place, value, away, ⟨built.keeps.follow led, content,
    Disk.file?_eq_some_iff.mp (same.trans (Disk.file?_eq_some_iff.mpr held)), read⟩, made⟩

/-- A place that was written to holds what was written last. -/
theorem Built.holds_last {artifacts : List Artifact} {artifact : Artifact}
    (built : Built home options artifacts workspace after) (member : artifact ∈ artifacts)
    (led : after.disk.follow (target (destination options) artifact) = .ok place)
    (away : place ≠ debugPlace home) :
    ∃ last, IsLastAt after.disk (destination options) artifacts place last ∧
      after.disk.file? place = some (Text.Utf8.encode last.content) := by
  obtain ⟨last, isLast, written⟩ := exists_isLastAt member led
  have whole : IsEncodable last := built.encodable last isLast.mem
  exact ⟨last, isLast, by
    rw [built.held place (.inl away), written, Option.some_or, bytes_of_encodable whole]⟩

private theorem Built.isSettled {artifacts : List Artifact} {artifact : Artifact}
    (built : Built home options artifacts workspace after) (member : artifact ∈ artifacts)
    (away : ∀ place, after.disk.follow (target (destination options) artifact) = .ok place →
      place ≠ debugPlace home) :
    IsSettled after.disk (destination options) artifact where
  whole := built.encodable artifact member
  has := built.places artifact member
  free place led standing := by
    obtain ⟨last, _, held⟩ := built.holds_last member led (away place led)
    rw [Disk.file?_eq_some_iff, standing] at held
    exact nomatch held

/-! ## The second build -/

private theorem written_finish {config : Wrapper.Config} {analysis : Analysis} {names : Value}
    {generated : Outcome Artifact Fault}
    (made : (generate config analysis names).outcome.1 = .ok generated) :
    Ordered.get? "written" (finish options generated).metadata =
      some (.list (generated.artifacts.map fun artifact =>
        .text (target (destination options) artifact).toString)) := by
  obtain ⟨_, components, _, _, _, _, _, _, rfl⟩ := generate_ok_iff.mp made
  simp [finish, generationFacts, Ordered.get?]

/-- **Building is idempotent.** Where the working directory is in place, let a build with valid
options succeed, its log being new or the program's own, and let no file be written over the
analysis or the debug file, which are not the same. Then the build has noted where it wrote, each of
these paths leads to a file with the content of the last artifact written there, and every other
file, the debug file aside, is as it was. The same build succeeds again, with the same outcome, and
everything on the disk stays as it is. -/
theorem rebuild (valid : options.Valid) (atHome : workspace.disk.home = home)
    (led : workspace.disk.follow (debugFile home) = .ok (debugPlace home))
    (quiet : options.ownLogger = none ∨ workspace.journal.files = [])
    (ran : (build options).run.run workspace = (.ok outcome, after))
    (success : outcome.success = true)
    (away : workspace.disk.follow (analysisPath options) ≠ .ok (debugPlace home))
    (apart : ∀ artifact ∈ outcome.artifacts, ∀ place,
      after.disk.follow (target (destination options) artifact) = .ok place →
        place ≠ debugPlace home ∧ workspace.disk.follow (analysisPath options) ≠ .ok place) :
    Ordered.get? "written" outcome.metadata =
      some (.list (outcome.artifacts.map fun artifact =>
        .text (target (destination options) artifact).toString)) ∧
    (∀ artifact ∈ outcome.artifacts, ∃ place last,
      after.disk.follow (target (destination options) artifact) = .ok place ∧
      IsLastAt after.disk (destination options) outcome.artifacts place last ∧
      after.disk.file? place = some (Text.Utf8.encode last.content)) ∧
    (∀ place, place ≠ debugPlace home →
      (∀ artifact ∈ outcome.artifacts,
        after.disk.follow (target (destination options) artifact) ≠ .ok place) →
      after.disk.file? place = workspace.disk.file? place) ∧
    ∃ again, (build options).run.run after = (.ok outcome, again) ∧
      ∀ place, again.disk.node? place = after.disk.node? place := by
  obtain ⟨analysis, generated, holds, made, rfl, built⟩ :=
    build_ok atHome led quiet away ran success
  refine ⟨written_finish made, fun artifact member => ?_, fun place other unwritten => ?_, ?_⟩
  · obtain ⟨place, leads⟩ := (built.places artifact member).1
    obtain ⟨last, isLast, held⟩ :=
      built.holds_last member leads (apart artifact member place leads).1
    exact ⟨place, last, leads, isLast, held⟩
  · have none := lastWritten_eq_none_iff.mpr unwritten
    rw [built.held place (.inl other)]
    exact (congrArg (Option.or · _) none).trans Option.none_or
  · -- Every path of the first build has its place now, so the second one makes no directory, and
    -- with the directories the same both write the same to the same places.
    have atHomeAfter := built.keeps.home.trans atHome
    have ledAfter := built.keeps.follow led
    have holdsAfter := built.holdsAnalysis
      (fun artifact member place leads => (apart artifact member place leads).2) holds
    have awayAfter : after.disk.follow (analysisPath options) ≠ .ok (debugPlace home) := by
      obtain ⟨place, _, elsewhere, ⟨leads, _⟩, _⟩ := holdsAfter
      exact fun same => elsewhere (Except.ok.inj (leads.symm.trans same))
    obtain ⟨again, ranAgain, back⟩ := run_build valid atHomeAfter ledAfter (.inr built.files)
      (fun own => by simp [built.swept own]) holdsAfter made
      fun artifact member => built.isSettled member fun place leads =>
        (apart artifact member place leads).1
    obtain ⟨_, generatedAgain, _, _, same, builtAgain⟩ :=
      build_ok atHomeAfter ledAfter (.inr built.files) awayAfter ranAgain success
    have sameArtifacts := congrArg Outcome.artifacts same
    change generated.artifacts = generatedAgain.artifacts at sameArtifacts
    rw [← sameArtifacts] at builtAgain
    exact ⟨again, ranAgain, built.node?_again builtAgain back⟩

/-! ## Builds of the sample -/

/-- The element of the sample, which has no members. -/
def sampleElement : Component := { name := .text "x-a" }

/-- The class of the element. -/
@[irreducible]
def sampleClass : String :=
  "export class XA extends React.Component \x7b\n\n" ++
  "\tconstructor(props) \x7b\n\t\tsuper(props);\n\t\x7d\n\n" ++
  "\tcomponentDidMount() \x7b\n\t\x7d\n\n" ++
  "\tcomponentWillUnmount() \x7b\n\t\x7d\n\n" ++
  "\tcomponentDidUpdate(pp) \x7b\n\t\x7d\n\n" ++
  "\trender() \x7b\n\t\treturn (\n\t\t\t<div>\n\t\t\t\t<x-a\n" ++
  "\t\t\t\t  ref=\x7b(element) => \x7bthis._refElement = element;\x7d\x7d/>\n\t\t\t</div>\n" ++
  "\t\t);\n\t\x7d\n\x7d"

/-- The module of the element: what it imports, its class and the helpers. -/
@[irreducible]
def sampleModule : String :=
  Wrapper.importHeader ++ (sampleClass ++ "\n\n") ++ Wrapper.Source.helpers

/-- What is generated for the element. -/
def sampleOutcome (config : Wrapper.Config) (artifacts : List Artifact) :
    Outcome Artifact Fault :=
  { artifacts
    warnings := ["Component 'x-a' exposes no events, properties or methods"]
    metadata := generationFacts config [sampleElement] }

private theorem isPlain_sampleElement : sampleElement.IsPlain :=
  Component.isPlain_of_events (by decide) (List.forall_mem_nil _)

/-- The one file of the element in one module. -/
def sampleArtifact (config : Wrapper.Config) : Artifact :=
  ⟨.ofString (config.bundleFile Wrapper.extension), sampleModule, .bundle⟩

private theorem assemble_sampleElement (name : Option String) :
    (assemble { bundle := .bool true, bundleName := name } .empty [sampleElement]).outcome.1 =
      .ok [sampleArtifact { bundle := .bool true, bundleName := name }] := by
  have unnamed : Wrapper.declaration { bundle := .bool true, bundleName := name } sampleElement =
      Wrapper.declaration { bundle := .bool true } sampleElement := rfl
  have written : Wrapper.declaration { bundle := .bool true } sampleElement = sampleClass := by
    decide +kernel
  have plain := List.forall_mem_singleton.mpr isPlain_sampleElement
  have single : newcomers classKey [] [sampleElement] = [sampleElement] := by
    rw [newcomers, if_neg List.not_mem_nil, newcomers]
  rw [outcome_assemble_plain _ Naming.wellFormed_empty plain, single, artifactsOf_bundle rfl]
  simp only [sampleArtifact, sampleModule, helpersFile, Wrapper.reindent_helpers, List.map_cons,
    List.map_nil, String.join_cons, String.join_nil, String.append_empty, plainEntry, unnamed,
    written]

/-- The element of the sample is generated as one module. -/
theorem generate_sampleAnalysis (bundle : options.bundle = some true) :
    (generate (wrapperConfig options) sampleAnalysis (.list [.text "x-a"])).outcome.1 =
      .ok (sampleOutcome (wrapperConfig options) [sampleArtifact (wrapperConfig options)]) := by
  have config : wrapperConfig options =
      { bundle := .bool true, bundleName := options.bundleName } := by
    simp [wrapperConfig, bundle]
  have found : sampleAnalysis.component (.text "x-a") = .ok sampleElement :=
    component_sampleAnalysis "x-a"
  have converted : sampleAnalysis.components [.text "x-a"] = .ok [sampleElement] := by
    rw [Analysis.components, List.mapM_cons, found]
    rfl
  exact generate_ok_iff.mpr
    ⟨_, _, _, _, rfl, converted, rfl, config ▸ assemble_sampleElement options.bundleName, rfl⟩

private theorem isEncodable_sampleArtifact (config : Wrapper.Config) :
    IsEncodable (sampleArtifact config) := by
  have whole : Text.Utf8.isEncodable (sampleClass ++ "\n\n") = true := by
    simp only [sampleClass, Text.Utf8.isEncodable_append]
    repeat rw [Text.Utf8.isEncodable_ofList]
    rfl
  rw [IsEncodable, sampleArtifact, sampleModule, Text.Utf8.isEncodable_append,
    Text.Utf8.isEncodable_append, Wrapper.isEncodable_importHeader, whole,
    Wrapper.isEncodable_helpers]
  rfl

private theorem holdsAnalysis_sampleDisk (read : options.webComponent = some "a.json") :
    HoldsAnalysis ["w"] options sampleDisk sampleAnalysis := by
  refine ⟨["w", "a.json"], sampleAnalysis.document, by decide, ?_, rfl⟩
  rw [analysisPath, read]
  exact holdsValue_sampleDisk

/-- The settings of a build that makes one module of the element. -/
structure BuildsSample (options : BuildOptions) (path : Path) (parent place : Location) : Prop where
  valid : options.Valid
  read : options.webComponent = some "a.json"
  asked : options.reactComponents = some [.text "x-a"]
  bundle : options.bundle = some true
  spelled : target (destination options) (sampleArtifact (wrapperConfig options)) = path
  led : sampleDisk.follow path = .ok place
  free : sampleDisk.node? place ≠ some .directory
  above : sampleDisk.follow path.parent = .ok parent
  standing : sampleDisk.node? parent = some .directory

/-- The element of the sample is built as one module where the path of that has its place. -/
theorem run_build_sample {path : Path} {parent place : Location}
    (builds : BuildsSample options path parent place) :
    ∃ after, (build options).run.run { disk := sampleDisk } =
        (.ok (finish options (sampleOutcome (wrapperConfig options)
          [sampleArtifact (wrapperConfig options)])), after) ∧
      after.disk.KeepsDirectories sampleDisk := by
  have made := generate_sampleAnalysis builds.bundle
  have names : requested options = .list [.text "x-a"] := by rw [requested, builds.asked]; rfl
  rw [← names] at made
  have settled : IsSettled sampleDisk (destination options)
      (sampleArtifact (wrapperConfig options)) := by
    refine ⟨isEncodable_sampleArtifact _, ?_, fun other leads => ?_⟩
    · unfold HasPlace
      rw [builds.spelled]
      exact ⟨⟨place, builds.led⟩, parent, builds.above, builds.standing⟩
    · rw [builds.spelled, builds.led] at leads
      exact Except.ok.inj leads ▸ builds.free
  exact run_build builds.valid rfl follow_debugFile_sampleDisk (.inr rfl) (fun _ => by decide)
    (holdsAnalysis_sampleDisk builds.read) made (List.forall_mem_singleton.mpr settled)

/-- The module is in its file afterwards, unless that was removed with the debug file. -/
theorem file_of_run_build_sample {path : Path} {parent place : Location}
    (builds : BuildsSample options path parent place)
    (apart : place ≠ debugPlace ["w"] ∨ options.ownLogger ≠ none) :
    ∃ outcome after, (build options).run.run { disk := sampleDisk } = (.ok outcome, after) ∧
      outcome.success = true ∧ outcome.artifacts = [sampleArtifact (wrapperConfig options)] ∧
      after.disk.KeepsDirectories sampleDisk ∧
      after.disk.file? place = some (Text.Utf8.encode sampleModule) := by
  obtain ⟨after, ran, back⟩ := run_build_sample builds
  have readable : sampleDisk.follow (analysisPath options) = .ok ["w", "a.json"] := by
    rw [analysisPath, builds.read]
    exact holdsValue_sampleDisk.1
  have away : sampleDisk.follow (analysisPath options) ≠ .ok (debugPlace ["w"]) := by
    have other : ["w", "a.json"] ≠ debugPlace ["w"] := by decide
    exact fun leads => other (Except.ok.inj (readable.symm.trans leads))
  have atHome : ({ disk := sampleDisk } : Workspace).disk.home = ["w"] := rfl
  obtain ⟨_, written, _, _, same, built⟩ :=
    build_ok atHome follow_debugFile_sampleDisk (.inr rfl) away ran rfl
  have artifacts := congrArg Outcome.artifacts same
  change [sampleArtifact (wrapperConfig options)] = written.artifacts at artifacts
  rw [← artifacts] at built
  have leads : leadsTo after.disk (target (destination options)
      (sampleArtifact (wrapperConfig options))) place = true := by
    rw [leadsTo_iff, builds.spelled]
    exact built.keeps.follow builds.led
  have held := built.held place apart
  rw [lastWritten_singleton, if_pos leads, Option.some_or,
    bytes_of_encodable (isEncodable_sampleArtifact _)] at held
  exact ⟨_, after, ran, rfl, rfl, back, held⟩

/-- Where the module of the sample is written to. -/
def bundlePath : Path := ⟨.relative, ["build", "WebComponents.js"]⟩

private theorem follow_bundlePath :
    sampleDisk.follow bundlePath = .ok ["w", "build", "WebComponents.js"] :=
  Disk.follow_of_fits (by decide +kernel) rfl

private theorem follow_parent_bundlePath :
    sampleDisk.follow bundlePath.parent = .ok ["w", "build"] :=
  Disk.follow_of_fits (by decide +kernel) rfl

/-- The module of the sample is written to the sample's path. -/
theorem target_sampleArtifact (names : List Value) :
    target (destination (bundleOptions names))
      (sampleArtifact (wrapperConfig (bundleOptions names))) = bundlePath := by
  change Path.join (.ofString "./build") (.ofString "WebComponents.js") = bundlePath
  decide +kernel

/-- These options build the sample. -/
theorem buildsSample_bundleOptions : BuildsSample (bundleOptions [.text "x-a"]) bundlePath
    ["w", "build"] ["w", "build", "WebComponents.js"] where
  valid := valid_bundleOptions _
  read := rfl
  asked := rfl
  bundle := rfl
  spelled := target_sampleArtifact _
  led := follow_bundlePath
  free := by decide
  above := follow_parent_bundlePath
  standing := by decide

/-- The sample is built twice: its module is in the file that it is said to be in, and the second
build changes nothing. -/
theorem rebuild_bundle :
    ∃ outcome after again,
      (build (bundleOptions [.text "x-a"])).run.run { disk := sampleDisk } = (.ok outcome, after) ∧
      outcome.success = true ∧
      Ordered.get? "written" outcome.metadata = some (.list [.text "build/WebComponents.js"]) ∧
      after.disk.node? ["w", "build", "WebComponents.js"] =
        some (.file (Text.Utf8.encode sampleModule)) ∧
      (build (bundleOptions [.text "x-a"])).run.run after = (.ok outcome, again) ∧
      ∀ place, again.disk.node? place = after.disk.node? place := by
  obtain ⟨outcome, after, ran, success, single, back, held⟩ :=
    file_of_run_build_sample buildsSample_bundleOptions (.inl (by decide))
  have read : sampleDisk.follow (analysisPath (bundleOptions [.text "x-a"])) =
      .ok ["w", "a.json"] := holdsValue_sampleDisk.1
  have away {place : Location} (other : ["w", "a.json"] ≠ place) :
      sampleDisk.follow (analysisPath (bundleOptions [.text "x-a"])) ≠ .ok place :=
    fun led => other (Except.ok.inj (read.symm.trans led))
  obtain ⟨noted, _, _, again, ranAgain, same⟩ := rebuild (valid_bundleOptions [.text "x-a"]) rfl
    follow_debugFile_sampleDisk (.inl rfl) ran success (away (by decide)) <| by
      intro artifact member place led
      rw [single, List.mem_singleton] at member
      have ledBefore := back.follow led
      rw [member, target_sampleArtifact] at ledBefore
      obtain rfl := Except.ok.inj (follow_bundlePath.symm.trans ledBefore)
      exact ⟨by decide, away (by decide)⟩
  have spelled : bundlePath.toString = "build/WebComponents.js" := by decide +kernel
  rw [single, List.map_singleton, target_sampleArtifact, spelled] at noted
  exact ⟨outcome, after, again, ran, success, noted, Disk.file?_eq_some_iff.mp held, ranAgain, same⟩

end ElementWrap.Work
