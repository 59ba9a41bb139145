import ElementWrap.Proofs.Files.Making
import ElementWrap.Proofs.Work.Reporting

/-! # Loading only reports

Loading an analysis changes nothing but the log and its debug file. What a file away from the debug
file holds is therefore what was there before the loading began.
-/

namespace ElementWrap.Work

open Files Log

variable {home : Location} {workspace after : Workspace} {path : Path}

/-- Reads the value of a file that is there. -/
def readValue (path : Path) : Work Value := do
  match valueOfFile (← get).disk path with
  | .ok value =>
    log .info loadingSource ("Successfully loaded JSON from " ++ path.toString)
    return value
  | .error (.malformed fault) => failLoad (.malformed path.toString fault)
  | .error (.unreadable refusal) => failLoad (.unreadable path.toString refusal)
  | .error (.other fault) => throw fault

/-- Warns of a file that is not named as one of values. -/
def warnOfName (path : Path) : Work Unit :=
  if path.isJson then pure ()
  else log .warning loadingSource ("File does not have .json extension: " ++ path.toString)

/-- Looks for a file, checks its name and reads its value. -/
def findValue (path : Path) : Work Value := do
  let seen ← get
  let present ← lift (seen.disk.contains path)
  if present then
    warnOfName path
    readValue path
  else failLoad (.notFound path.toString)

/-- How a value is loaded: this is noted, then its file is looked for. -/
theorem loadValue_eq (path : Path) :
    loadValue path =
      log .debug loadingSource ("Attempting to load JSON from file: " ++ path.toString) >>=
        fun _ => findValue path := by
  unfold loadValue findValue warnOfName
  refine congrArg (_ >>= ·) (funext fun _ => congrArg (get >>= ·) (funext fun seen =>
    congrArg (lift _ >>= ·) (funext fun present => ?_)))
  cases present with
  | false => simp [failLoad]
  | true => cases path.isJson <;> rfl

private theorem reportsOnly_warnOfName (home : Location) (path : Path) :
    ReportsOnly home (warnOfName path) := by
  unfold warnOfName
  split
  · exact .pure
  · exact reportsOnly_log home _ _ _

namespace ByReports

variable {related : Workspace → Workspace → Prop} [IsPreorder Workspace related]

private theorem failLoad (reports : ByReports related) (fault : LoadFault) :
    Steps related (failLoad fault : Work α) :=
  (reports.log .error loadingSource fault.message).bind fun _ => .throw _

/-- Reading a value keeps what reports keep. -/
theorem readValue (reports : ByReports related) (path : Path) :
    Steps related (readValue path) := by
  refine .bind .get fun seen => ?_
  split
  · exact (reports.log _ _ _).bind fun _ => .pure _
  · exact reports.failLoad _
  · exact reports.failLoad _
  · exact .throw _

/-- So does a warning about a name. -/
theorem warnOfName (reports : ByReports related) (path : Path) :
    Steps related (warnOfName path) := by
  unfold Work.warnOfName
  split
  · exact .pure _
  · exact reports.log _ _ _

/-- So does looking for a file. -/
theorem findValue (reports : ByReports related) (path : Path) :
    Steps related (findValue path) := by
  refine .bind .get fun seen => .bind (.lift _) fun present => ?_
  split
  · exact (reports.warnOfName path).bind fun _ => reports.readValue path
  · exact reports.failLoad _

/-- So does the loading of an analysis. -/
theorem analyze (reports : ByReports related) (path : Path) (reporter : Reporter) :
    Steps related (analyze path reporter) := by
  have loads : Steps related (loadValue path) := by
    rw [loadValue_eq]
    exact (reports.log _ _ _).bind fun _ => reports.findValue path
  exact (reports.info reporter _).bind fun _ => loads.bind fun value => .lift _

end ByReports

/-! ## What was read -/

/-- A path leads to a file that holds a value. -/
def HoldsValue (disk : Disk) (path : Path) (place : Location) (value : Value) : Prop :=
  disk.follow path = .ok place ∧
    ∃ content, disk.node? place = some (.file content) ∧ valueOfBytes content = .ok value

/-- A file away from the debug file holds the same before and after reports. -/
theorem HoldsValue.scribbled {before after : Disk} {place : Location} {value : Value}
    (holds : HoldsValue before path place value) (away : place ≠ debugPlace home)
    (scribbled : Scribbled home before after) : HoldsValue after path place value := by
  obtain ⟨led, content, held, read⟩ := holds
  exact ⟨scribbled.keepsDirectories.follow led, content,
    (scribbled.elsewhere place away).trans held, read⟩

/-- A value is read from a file exactly if the file holds it. -/
theorem valueOfFile_eq_ok_iff {disk : Disk} {value : Value} :
    valueOfFile disk path = .ok value ↔ ∃ place, HoldsValue disk path place value := by
  unfold valueOfFile Disk.readFile HoldsValue
  cases disk.follow path with
  | error fault => cases fault <;> simp [bind, Except.bind]
  | ok place =>
      cases held : disk.node? place with
      | none => simp [bind, Except.bind, held, throw, throwThe, MonadExceptOf.throw]
      | some node =>
          cases node with
          | directory => simp [bind, Except.bind, held, throw, throwThe, MonadExceptOf.throw]
          | file content => simp [bind, Except.bind, held, pure, Except.pure]

/-- Where a value is held, there is a file. -/
theorem HoldsValue.contains {disk : Disk} {place : Location} {value : Value}
    (holds : HoldsValue disk path place value) : disk.contains path = .ok true := by
  obtain ⟨led, content, held, _⟩ := holds
  obtain ⟨speakable, resolved⟩ := Disk.follow_eq_ok_iff.mp led
  simp only [Disk.contains, Disk.look, speakable, Bool.false_eq_true, ↓reduceIte, resolved, held]
  rfl

private theorem failLoad_ne_ok {fault : LoadFault} {result : α} :
    (failLoad fault).run.run workspace ≠ (.ok result, after) := by
  intro ran
  obtain ⟨_, _, _, thrown⟩ := run_bind_eq_ok_iff.mp ran
  exact nomatch thrown

private theorem readValue_ok {value : Value}
    (ran : (readValue path).run.run workspace = (.ok value, after)) :
    ∃ place, HoldsValue workspace.disk path place value := by
  change (match valueOfFile workspace.disk path with
    | .ok value => _
    | .error (.malformed fault) => _
    | .error (.unreadable refusal) => _
    | .error (.other fault) => _ : Work Value).run.run workspace = _ at ran
  split at ran
  · next found read =>
      obtain ⟨_, _, _, returned⟩ := run_bind_eq_ok_iff.mp ran
      cases returned
      exact valueOfFile_eq_ok_iff.mp read
  · exact absurd ran failLoad_ne_ok
  · exact absurd ran failLoad_ne_ok
  · exact nomatch ran

private theorem run_readValue {place : Location} {value : Value} (ready : Ready home workspace)
    (holds : HoldsValue workspace.disk path place value) :
    ∃ after, (readValue path).run.run workspace = (.ok value, after) ∧
      Reported home workspace after ∧ Ready home after := by
  have read := valueOfFile_eq_ok_iff.mpr ⟨place, holds⟩
  obtain ⟨after, ran, reported, readyAfter⟩ := (reportsOnly_log home .info loadingSource
    ("Successfully loaded JSON from " ++ path.toString)).run ready
  refine ⟨after, ?_, reported, readyAfter⟩
  change (match valueOfFile workspace.disk path with
    | .ok value => _
    | .error (.malformed fault) => _
    | .error (.unreadable refusal) => _
    | .error (.other fault) => _ : Work Value).run.run workspace = _
  rw [read]
  exact run_bind_ok ran

/-- What an analysis was made from, if not from the debug file, was there when the loading began. -/
theorem analyze_ok {reporter : Reporter} {analysis : Analysis}
    (tidy : Tidy home workspace)
    (away : workspace.disk.follow path ≠ .ok (debugPlace home))
    (ran : (analyze path reporter).run.run workspace = (.ok analysis, after)) :
    ∃ place value, place ≠ debugPlace home ∧ HoldsValue workspace.disk path place value ∧
      Analysis.ofValue value = .ok analysis := by
  obtain ⟨_, first, informed, ran⟩ := run_bind_eq_ok_iff.mp ran
  obtain ⟨value, loaded, ran, made⟩ := run_bind_eq_ok_iff.mp ran
  rw [loadValue_eq] at ran
  obtain ⟨_, second, attempted, ran⟩ := run_bind_eq_ok_iff.mp ran
  obtain ⟨_, _, seen, ran⟩ := run_bind_eq_ok_iff.mp ran
  cases seen
  obtain ⟨present, third, looked, ran⟩ := run_bind_eq_ok_iff.mp ran
  rw [run_lift, Prod.mk.injEq] at looked
  obtain ⟨_, rfl⟩ := looked
  split at ran
  · obtain ⟨_, fourth, warned, ran⟩ := run_bind_eq_ok_iff.mp ran
    obtain ⟨place, holds⟩ := readValue_ok ran
    have reports := byReports_reporting home
    have reportedFirst := (reports.info reporter _).of_run informed tidy
    have tidyFirst := tidy.reported reportedFirst
    have reportedSecond := (reports.log _ _ _).of_run attempted tidyFirst
    have tidySecond := tidyFirst.reported reportedSecond
    have reportedThird := (reports.warnOfName path).of_run warned tidySecond
    have scribbled := ((reportedFirst.trans reportedSecond).trans reportedThird).disk.symm
    have elsewhere : place ≠ debugPlace home := by
      rintro rfl
      exact away (scribbled.keepsDirectories.follow holds.1)
    rw [run_lift, Prod.mk.injEq] at made
    exact ⟨place, value, elsewhere, holds.scribbled elsewhere scribbled, made.1⟩
  · exact absurd ran failLoad_ne_ok

/-- An analysis that is there is loaded. -/
theorem run_analyze {reporter : Reporter} (usable : reporter.Usable) {analysis : Analysis}
    {place : Location} {value : Value} (ready : Ready home workspace)
    (away : place ≠ debugPlace home) (holds : HoldsValue workspace.disk path place value)
    (made : Analysis.ofValue value = .ok analysis) :
    ∃ after, (analyze path reporter).run.run workspace = (.ok analysis, after) ∧
      Reported home workspace after ∧ Ready home after := by
  obtain ⟨first, informed, reportedFirst, readyFirst⟩ :=
    (reportsOnly_info home usable "Analyzing Polymer components").run ready
  obtain ⟨second, attempted, reportedSecond, readySecond⟩ := (reportsOnly_log home .debug
    loadingSource ("Attempting to load JSON from file: " ++ path.toString)).run readyFirst
  obtain ⟨third, warned, reportedThird, readyThird⟩ :=
    (reportsOnly_warnOfName home path).run readySecond
  have holdsSecond := (holds.scribbled away reportedFirst.disk).scribbled away reportedSecond.disk
  obtain ⟨after, read, reportedAfter, readyAfter⟩ :=
    run_readValue readyThird (holdsSecond.scribbled away reportedThird.disk)
  refine ⟨after, ?_, ((reportedFirst.trans reportedSecond).trans reportedThird).trans
    reportedAfter, readyAfter⟩
  have loaded : (loadValue path).run.run first = (.ok value, after) := by
    rw [loadValue_eq, run_bind_ok attempted]
    change (lift (second.disk.contains path) >>= fun present => _ : Work Value).run.run second = _
    rw [holdsSecond.contains, run_bind_ok (run_lift _ second)]
    exact (run_bind_ok warned).trans read
  refine (run_bind_ok informed).trans ((run_bind_ok loaded).trans ?_)
  rw [made, run_lift]

/-! ## A working directory with an analysis -/

/-- The text of an analysis of one element. -/
def sampleText : String := "\x7b\"elements\":[\x7b\"tagName\":\"x-a\"\x7d]\x7d"

/-- The record of the element. -/
def sampleRecord : Value := .object [("tagName", .text "x-a")]

/-- The analysis of the element. -/
def sampleAnalysis : Analysis := ⟨[("elements", .list [sampleRecord])]⟩

/-- A working directory with the analysis and a directory to build into. -/
def sampleDisk : Disk where
  nodes :=
    [(["w"], .directory), (["w", "a.json"], .file (Text.Utf8.encode sampleText)),
      (["w", "build"], .directory)]
  home := ["w"]

private theorem valueOfBytes_sampleText :
    valueOfBytes (Text.Utf8.encode sampleText) = .ok sampleAnalysis.document := by
  have decoded : Text.Utf8.decode (Text.Utf8.encode sampleText) = .ok sampleText.toList := by
    rw [Text.Utf8.encode, sampleText, String.toList_ofList]
    rfl
  have read : Json.read (Text.unifyNewlines sampleText.toList) = .ok sampleAnalysis.document := by
    rw [sampleText, String.toList_ofList]
    rfl
  unfold valueOfBytes
  rw [decoded]
  simp only [read]

/-- The path of the sample's analysis. -/
theorem ofString_analysis : Path.ofString "a.json" = ⟨.relative, ["a.json"]⟩ := by
  decide +kernel

/-- The sample's file holds its analysis. -/
theorem holdsValue_sampleDisk : HoldsValue sampleDisk (.ofString "a.json") ["w", "a.json"]
    sampleAnalysis.document := by
  rw [ofString_analysis]
  exact ⟨Disk.follow_of_fits (by decide +kernel) rfl, Text.Utf8.encode sampleText, rfl,
    valueOfBytes_sampleText⟩

/-- The sample's working directory is in place. -/
theorem follow_debugFile_sampleDisk :
    sampleDisk.follow (debugFile ["w"]) = .ok (debugPlace ["w"]) :=
  Disk.follow_of_fits (by decide +kernel) rfl

private theorem collect_sampleAnalysis :
    Analysis.collect "elements" [sampleAnalysis.document] = .ok [sampleRecord] := by
  have last : Analysis.collect "elements" [] = .ok [] := by rw [Analysis.collect]
  rw [Analysis.collect]
  change (Analysis.collect "elements" [] >>= fun rest => pure ([sampleRecord] ++ rest)) = _
  rw [last]
  rfl

/-- The element is found by its name, and nothing is by another name. -/
theorem component_sampleAnalysis (name : String) :
    sampleAnalysis.component (.text name) =
      if "x-a" = name then .ok { name := .text "x-a" } else .error (.notFound (.text name)) := by
  have elements : Analysis.collect Analysis.FeatureKind.element.key [sampleAnalysis.document] =
      .ok [sampleRecord] := collect_sampleAnalysis
  have features : sampleAnalysis.features .element (.text name) =
      [sampleRecord].filterM fun _ => .ok ("x-a" == name) := by
    unfold Analysis.features
    rw [elements]
    rfl
  unfold Analysis.component Analysis.recordOf
  rw [features]
  by_cases same : "x-a" = name
  · subst same
    rfl
  · rw [if_neg same, beq_eq_false_iff_ne.mpr same]
    rfl

end ElementWrap.Work
