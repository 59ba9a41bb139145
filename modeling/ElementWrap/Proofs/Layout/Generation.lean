import ElementWrap.Layout.Outcome
import ElementWrap.Proofs.Lists
import ElementWrap.Proofs.Running

/-! # How generation fails

Generation selects names, converts each of them to a component, looks for what is worth a warning
and renders. It fails exactly if one of these steps does, and with the fault of the first that does
(`ElementWrap.Layout.generate_error_iff`).
-/

namespace ElementWrap.Layout

open Log Wrapper

/-! ## Outcomes -/

/-- What is reported before does not matter to the rendering. -/
theorem settled_renderFrom (config : Config) (map : CaseMap) (classes : Classes)
    (components : List Component) :
    Settled (fun _ => True) (renderFrom config map classes components) := by
  have settled_named {α : Type} (map : CaseMap) (computation : Naming α) :
      Settled (fun _ => True) (named map computation) := by
    unfold named
    split
    · exact .pure _
    · exact ⟨_, .throw _⟩
  induction components generalizing map classes with
  | nil => exact .pure _
  | cons component rest ih =>
      refine .bind (settled_named map _) fun found => ?_
      simp only
      split
      · exact .bind ⟨.ok (), fun entries _ => ⟨_, trivial, rfl⟩⟩ fun _ => ih _ _
      · exact .bind (settled_named _ _) fun written => ih _ _

private theorem settled_assemble (config : Config) (map : CaseMap) (components : List Component) :
    Settled (fun _ => True) (assemble config map components) :=
  (settled_renderFrom config map [] components).bind fun _ => ⟨_, .lift _⟩

private theorem run_assemble (config : Config) (map : CaseMap) (components : List Component)
    (entries : List Entry) :
    ((assemble config map components).run.run entries).1 =
      (assemble config map components).outcome.1 := by
  obtain ⟨answer, answers⟩ := settled_assemble config map components
  have reported : answer = ((assemble config map components).run.run entries).1 :=
    answers.eq_from trivial
  exact reported.symm.trans (answers.eq_from trivial)

private theorem run_lift_bind (result : Except Fault α) (next : α → Traced β)
    (entries : List Entry) :
    (Traced.lift result >>= next).run.run entries =
      match result with
      | .ok a => (next a).run.run entries
      | .error fault => (.error fault, entries) := by
  rw [run_bind]
  cases result <;> rfl

/-- A generation is its steps, one after the other. -/
theorem outcome_generateThrough (config : Config) (map : CaseMap) (analysis : Analysis)
    (requested : Value) :
    (generateThrough config map analysis requested).outcome.1 = do
      let names ← (analysis.selectNames requested).outcome.1
      let components ← analysis.components names
      let warnings ← Wrapper.warnings components
      let artifacts ← (assemble config map components).outcome.1
      return { artifacts, warnings, metadata := generationFacts config components } := by
  unfold generateThrough
  rw [Traced.outcome, run_bind, Traced.outcome]
  rcases (analysis.selectNames requested).run.run [] with ⟨fault | names, entries⟩
  · rfl
  · cases converted : analysis.components names with
    | error fault =>
        conv_rhs => simp only [bind, Except.bind, converted]
        simp only [run_lift_bind, converted]
    | ok components =>
        cases checked : Wrapper.warnings components with
        | error fault =>
            conv_rhs => simp only [bind, Except.bind, converted, checked]
            simp only [run_lift_bind, converted, checked]
        | ok warnings =>
            conv_rhs =>
              simp only [bind, Except.bind, converted, checked,
                ← run_assemble config map components entries]
            simp only [run_lift_bind, converted, checked]
            rw [run_bind]
            rcases (assemble config map components).run.run entries with ⟨_ | _, _⟩ <;> rfl

/-- A generation fails with a fault in one of its steps: names can not be selected, a name after
others that can has no component, the components can not be looked through for warnings, or they can
not be rendered. -/
inductive GenerationFails (config : Config) (analysis : Analysis) (requested : Value)
    (fault : Fault) : Prop
  | selecting (failed : (analysis.selectNames requested).outcome.1 = .error fault)
  | converting {before after : List Value} {name : Value}
    (selected : (analysis.selectNames requested).outcome.1 = .ok (before ++ name :: after))
    (converted : ∀ earlier ∈ before, ∃ component, analysis.component earlier = .ok component)
    (failed : analysis.component name = .error fault)
  | checking {names : List Value} {components : List Component}
    (selected : (analysis.selectNames requested).outcome.1 = .ok names)
    (converted : analysis.components names = .ok components)
    (failed : Wrapper.warnings components = .error fault)
  | rendering {names : List Value} {components : List Component} {warnings : List String}
    (selected : (analysis.selectNames requested).outcome.1 = .ok names)
    (converted : analysis.components names = .ok components)
    (checked : Wrapper.warnings components = .ok warnings)
    (failed : (assemble config .empty components).outcome.1 = .error fault)

/-- A generation fails exactly if one of its steps does. -/
theorem generate_error_iff {config : Config} {analysis : Analysis} {requested : Value}
    {fault : Fault} :
    (generate config analysis requested).outcome.1 = .error fault ↔
      GenerationFails config analysis requested fault := by
  simp only [generate, outcome_generateThrough, bind_eq_error_iff]
  constructor
  · rintro (failed | ⟨names, selected, failed⟩)
    · exact .selecting failed
    · rcases failed with failed | ⟨components, converted, failed⟩
      · obtain ⟨before, name, after, rfl, passed, failed⟩ := mapM_error_iff.mp failed
        exact .converting selected passed failed
      · rcases failed with failed | ⟨warnings, checked, failed⟩
        · exact .checking selected converted failed
        · rcases failed with failed | ⟨_, _, done⟩
          · exact .rendering selected converted checked failed
          · exact nomatch done
  · intro failure
    cases failure with
    | selecting failed => exact .inl failed
    | converting selected passed failed =>
        exact .inr ⟨_, selected, .inl (mapM_error_iff.mpr ⟨_, _, _, rfl, passed, failed⟩)⟩
    | checking selected converted failed =>
        exact .inr ⟨_, selected, .inr ⟨_, converted, .inl failed⟩⟩
    | rendering selected converted checked failed =>
        exact .inr ⟨_, selected, .inr ⟨_, converted, .inr ⟨_, checked, .inl failed⟩⟩⟩

/-- What a generation answers has been made in every step. -/
theorem generateThrough_ok_iff {config : Config} {map : CaseMap} {analysis : Analysis}
    {requested : Value} {generated : Outcome Artifact Fault} :
    (generateThrough config map analysis requested).outcome.1 = .ok generated ↔
      ∃ names components warnings artifacts,
        (analysis.selectNames requested).outcome.1 = .ok names ∧
        analysis.components names = .ok components ∧
        Wrapper.warnings components = .ok warnings ∧
        (assemble config map components).outcome.1 = .ok artifacts ∧
        generated = { artifacts, warnings, metadata := generationFacts config components } := by
  rw [outcome_generateThrough]
  constructor
  · intro made
    obtain ⟨names, selected, made⟩ := bind_eq_ok_iff.mp made
    obtain ⟨components, converted, made⟩ := bind_eq_ok_iff.mp made
    obtain ⟨warnings, checked, made⟩ := bind_eq_ok_iff.mp made
    obtain ⟨artifacts, rendered, made⟩ := bind_eq_ok_iff.mp made
    exact ⟨names, components, warnings, artifacts, selected, converted, checked, rendered,
      (Except.ok.inj made).symm⟩
  · rintro ⟨names, components, warnings, artifacts, selected, converted, checked, rendered, rfl⟩
    simp only [selected, converted, checked, rendered, bind, Except.bind]
    rfl

/-- What is generated: the files of the components that the selected names stand for. -/
theorem generate_ok_iff {config : Config} {analysis : Analysis} {requested : Value}
    {generated : Outcome Artifact Fault} :
    (generate config analysis requested).outcome.1 = .ok generated ↔
      ∃ names components warnings artifacts,
        (analysis.selectNames requested).outcome.1 = .ok names ∧
        analysis.components names = .ok components ∧
        Wrapper.warnings components = .ok warnings ∧
        (assemble config .empty components).outcome.1 = .ok artifacts ∧
        generated = { artifacts, warnings, metadata := generationFacts config components } :=
  generateThrough_ok_iff

/-- What is generated is a success. -/
theorem success_of_generate {config : Config} {analysis : Analysis} {requested : Value}
    {generated : Outcome Artifact Fault}
    (made : (generate config analysis requested).outcome.1 = .ok generated) :
    generated.success = true := by
  obtain ⟨_, _, _, _, _, _, _, _, rfl⟩ := generate_ok_iff.mp made
  rfl

end ElementWrap.Layout
