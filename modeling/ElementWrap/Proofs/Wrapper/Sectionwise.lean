import ElementWrap.Proofs.Template.LineEnds
import ElementWrap.Proofs.Wrapper.Bodies
import ElementWrap.Proofs.Wrapper.Indentation
import ElementWrap.Wrapper.Sections

/-! # Indenting section by section

Indenting goes line by line, so a text can be cut at the end of any line and indented piece by
piece. The sections of a class are whole lines, whatever the component holds, and it makes no
difference whether they are indented one by one or as one text
(`ElementWrap.Wrapper.reindent_sectionwise`).
-/

namespace ElementWrap.Wrapper

open Template

/-! ## Cutting between lines -/

variable {unit first : String}

private theorem reindent_append (closed : ClosesLine first) (rest : String) :
    reindent unit (first ++ rest) = reindent unit first ++ reindent unit rest := by
  unfold reindent
  rw [← String.toList_inj]
  rcases closed with rfl | ⟨lines, rfl⟩
  · simp [reindentChars_nil]
  · simp [reindentChars_break, reindentChars_nil]

/-- **Whole lines are indented one piece at a time.** Only the last piece may break off. -/
theorem reindent_join {pieces : List String}
    (closed : ∀ piece ∈ pieces.dropLast, ClosesLine piece) :
    reindent unit (String.join pieces) = String.join (pieces.map (reindent unit)) := by
  induction pieces with
  | nil =>
      unfold reindent
      rw [← String.toList_inj]
      simp [reindentChars_nil]
  | cons piece rest ih =>
      cases rest with
      | nil => simp
      | cons next rest =>
          rw [List.dropLast_cons_cons] at closed
          obtain ⟨head, tail⟩ := List.forall_mem_cons.mp closed
          have divided : (piece :: next :: rest).map (reindent unit) =
              reindent unit piece :: (next :: rest).map (reindent unit) := rfl
          rw [String.join_cons, reindent_append head, ih tail, divided, String.join_cons]

/-! ## The sections of a class -/

/-- The settings under which code keeps the blanks that the templates are written with. -/
def Config.written (config : Config) : Config := { config with indent := writtenUnit }

private theorem reindent_writtenUnit (code : String) : reindent writtenUnit code = code := by
  unfold reindent reindentChars
  rw [if_pos toList_writtenUnit, String.ofList_toList]

private theorem renderTemplate_written (config : Config) (template : String) (context : Context) :
    renderTemplate config template context =
      reindent config.indent <$> renderTemplate config.written template context := by
  unfold renderTemplate
  cases engine.render template context with
  | error fault => rfl
  | ok text =>
      exact congrArg (fun code => Except.ok (reindent config.indent code))
        (reindent_writtenUnit text).symm

private theorem renderNamed_written (config : Config) (template : String)
    (context : Naming Context) :
    renderNamed config template context =
      reindent config.indent <$> renderNamed config.written template context := by
  unfold renderNamed
  rw [map_bind]
  refine congrArg (context >>= ·) (funext fun known => ?_)
  rw [renderTemplate_written]
  cases renderTemplate config.written template known <;> rfl

private theorem reindent_brace (unit : String) : reindent unit "\x7d" = "\x7d" := by
  unfold reindent
  rw [← String.toList_inj, String.toList_ofList, reindentChars_eq]
  rfl

/-- Every section is indented by itself. -/
theorem sections_written (config : Config) (component : Component) :
    sections config component =
      (sections config.written component).map (reindent config.indent <$> ·) := by
  have brace : (pure "\x7d" : Naming String) = reindent config.indent <$> pure "\x7d" := by
    rw [map_pure, reindent_brace]
  simp only [sections, List.map_cons, List.map_nil, List.cons.injEq, and_true]
  exact ⟨renderNamed_written config _ _, renderNamed_written config _ _,
    renderNamed_written config _ _, renderNamed_written config _ _,
    renderNamed_written config _ _, renderNamed_written config _ _,
    renderNamed_written config _ _, renderNamed_written config _ _, brace⟩

/-- Whatever a computation answers with a text for, the text is whole lines. -/
def WritesLines (computation : Naming String) : Prop :=
  ∀ state text after, computation.run.run state = (.ok text, after) → ClosesLine text

/-- A section is whole lines if the body of its template closes its last one. -/
theorem writesLines_renderNamed (source : String) {template : String} {body : Body}
    {config : Config} (context : Naming Context) (found : engine.source? template = some source)
    (compiled : Body.compile source.toList = .ok body) (closes : body.closes true = true) :
    WritesLines (renderNamed config.written template context) := by
  intro state text after ran
  unfold renderNamed at ran
  obtain ⟨known, between, _, ran⟩ := run_bind_eq_ok_iff.mp ran
  have rendered : renderTemplate config.written template known = .ok text := congrArg Prod.fst ran
  unfold renderTemplate at rendered
  obtain ⟨shown, written, same⟩ := bind_eq_ok_iff.mp rendered
  obtain rfl : reindent writtenUnit shown = text := Except.ok.inj same
  rw [reindent_writtenUnit]
  exact Engine.closesLine_render found compiled closes written

/-- All sections of a class are whole lines, but for the brace that closes it. -/
theorem writesLines_sections (config : Config) (component : Component) :
    ∀ part ∈ (sections config.written component).dropLast, WritesLines part := by
  simp only [sections, List.dropLast_cons_cons, List.dropLast_singleton, List.forall_mem_cons]
  exact ⟨writesLines_renderNamed Source.classHeader _ rfl Source.compile_classHeader rfl,
    writesLines_renderNamed Source.constructor _ rfl Source.compile_constructor rfl,
    writesLines_renderNamed Source.mount _ rfl Source.compile_mount rfl,
    writesLines_renderNamed Source.unmount _ rfl Source.compile_unmount rfl,
    writesLines_renderNamed Source.update _ rfl Source.compile_update rfl,
    writesLines_renderNamed Source.eventHandlers _ rfl Source.compile_eventHandlers rfl,
    writesLines_renderNamed Source.api _ rfl Source.compile_api rfl,
    writesLines_renderNamed Source.render _ rfl Source.compile_render rfl,
    fun _ member => absurd member List.not_mem_nil⟩

/-- Computations whose results are changed one by one give the list of changed results. -/
theorem mapM_map_map {computations : List (Naming α)} (change : α → β) :
    (computations.map (change <$> ·)).mapM id = List.map change <$> computations.mapM id := by
  induction computations with
  | nil => rfl
  | cons computation rest ih =>
      rw [List.map_cons, List.mapM_cons, List.mapM_cons, ih]
      simp only [id, map_bind, bind_map_left, map_pure, List.map_cons]

/-- The class is indented as a whole by indenting each of its sections. -/
theorem classText_written (config : Config) (component : Component) :
    classText config component =
      reindent config.indent <$> classText config.written component := by
  have whole {texts : List String} {state after : CaseMap}
      (ran : ((sections config.written component).mapM id).run.run state = (.ok texts, after)) :
      String.join (texts.map (reindent config.indent)) =
        reindent config.indent (String.join texts) := by
    refine (reindent_join fun text member => ?_).symm
    rw [List.dropLast_eq_take] at member
    have each := forall₂_of_run_mapM ran
    have lengths := each.length_eq
    obtain ⟨part, present, before, between, made⟩ :=
      exists_mem_of_forall₂ (List.forall₂_take (texts.length - 1) each).flip member
    refine writesLines_sections config component part ?_ before text between made
    rwa [List.dropLast_eq_take, lengths]
  unfold classText
  rw [sections_written, mapM_map_map]
  refine ExceptT.ext (StateT.ext fun state => ?_)
  rw [bind_map_left, map_bind]
  cases ran : ((sections config.written component).mapM id).run.run state with
  | mk result after =>
      cases result with
      | error fault => rw [run_bind_error ran, run_bind_error ran]
      | ok texts =>
          rw [run_bind_ok ran, run_bind_ok ran, whole ran, map_pure]

/-- **Section by section or all at once.** A text that is cut at the ends of lines is indented by
indenting its pieces. The pieces of a class are its sections: each is indented by itself, what its
template gives for it is whole lines whatever the component and the case map hold, and the class is
the text of them all, indented as one. -/
theorem reindent_sectionwise :
    (∀ (unit : String) (pieces : List String), (∀ piece ∈ pieces.dropLast, ClosesLine piece) →
      reindent unit (String.join pieces) = String.join (pieces.map (reindent unit))) ∧
    ∀ (config : Config) (component : Component),
      sections config component =
        (sections config.written component).map (reindent config.indent <$> ·) ∧
      (∀ part ∈ (sections config.written component).dropLast, WritesLines part) ∧
      classText config component =
        reindent config.indent <$> classText config.written component :=
  ⟨fun _ _ => reindent_join, fun config component => ⟨sections_written config component,
    writesLines_sections config component, classText_written config component⟩⟩

/-- Pieces of code, one of them empty, of which the last breaks off. -/
def brokenPieces : List String := ["    f(\n", "", "      x\n    )\n", "        y"]

/-- They are indented one by one. -/
theorem reindent_sectionwise_broken :
    (∀ piece ∈ brokenPieces.dropLast, ClosesLine piece) ∧
      reindent "\t" (String.join brokenPieces) = "\tf(\n\t  x\n\t)\n\t\ty" := by
  have closed : ∀ piece ∈ brokenPieces.dropLast, ClosesLine piece := by
    simp only [brokenPieces, List.dropLast_cons_cons, List.dropLast_singleton,
      List.forall_mem_cons]
    exact ⟨.inr ⟨"    f(", by decide⟩, .inl rfl, .inr ⟨"      x\n    )", by decide⟩,
      fun _ member => absurd member List.not_mem_nil⟩
  refine ⟨closed, (reindent_sectionwise.1 "\t" brokenPieces closed).trans ?_⟩
  decide +kernel

/-- Behind a line that breaks off, the blanks of the next piece do not open a line. -/
example : reindent "\t" (String.join ["a", "    b"]) ≠
    String.join (["a", "    b"].map (reindent "\t")) := by
  decide +kernel

end ElementWrap.Wrapper
