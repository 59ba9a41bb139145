import ElementWrap.Proofs.Ordered
import ElementWrap.Proofs.Template.SelfReference

/-! # What an engine replies

An engine is asked for one thing after the other, and only what is added changes it. At every point
a name stands for the source that was added last under it, or for what the engine started with; an
engine of a directory has lost its files by then if anything was added
(`ElementWrap.Template.Engine.source?_after`). So the replies follow the sources, whatever language
these are written in (`ElementWrap.Template.Engine.serves_standing`).
-/

namespace ElementWrap.Template

variable {Given : Type}

/-- What an engine is asked for, where templates are rendered with something given. -/
inductive Request (Given : Type)
  | add (name source : String)
  | contains (name : String)
  | render (name : String) (given : Given)
  | renderString (source : String) (given : Given)

/-- What an engine replies. -/
inductive Reply
  | added
  | found (result : Except Fault Bool)
  | rendered (result : Except Fault String)

namespace Request

/-- The request adds a template. -/
def isAdd : Request Given → Bool
  | add _ _ => true
  | _ => false

/-- The source that a request adds under a name. -/
def sourceFor? (name : String) : Request Given → Option String
  | add other source => if other = name then some source else none
  | _ => none

private theorem isAdd_iff {request : Request Given} :
    request.isAdd = true ↔ ∃ name source, request = .add name source := by
  cases request <;> simp [isAdd]

/-- The source that was added last under a name. -/
def lastAdded? (history : List (Request Given)) (name : String) : Option String :=
  history.reverse.findSome? (sourceFor? name)

variable {history : List (Request Given)} {request : Request Given} {name : String}

private theorem lastAdded?_concat (history : List (Request Given)) (request : Request Given)
    (name : String) :
    lastAdded? (history ++ [request]) name =
      (request.sourceFor? name).or (lastAdded? history name) := by
  unfold lastAdded?
  rw [List.reverse_concat, List.findSome?_cons]
  cases request.sourceFor? name with
  | none => rfl
  | some source => rfl

private theorem sourceFor?_of_not_isAdd (silent : request.isAdd = false) (name : String) :
    request.sourceFor? name = none := by
  cases request with
  | add other source => exact nomatch silent
  | contains other => rfl
  | render other given => rfl
  | renderString source given => rfl

private theorem lastAdded?_of_not_isAdd (silent : history.any isAdd = false) (name : String) :
    lastAdded? history name = none := by
  refine List.findSome?_eq_none_iff.mpr fun request member => ?_
  have still := List.any_eq_false.mp silent request (List.mem_reverse.mp member)
  exact sourceFor?_of_not_isAdd (Bool.eq_false_iff.mpr still) name

end Request

namespace Engine

open Request

/-- The reply to a request. -/
def reply (language : Language Given) (engine : Engine) : Request Given → Reply
  | .add _ _ => .added
  | .contains name => .found (engine.containsWith language name)
  | .render name given => .rendered (engine.renderWith language name given)
  | .renderString source given => .rendered (engine.renderStringWith language source given)

/-- The engine after a request. -/
def next (engine : Engine) : Request Given → Engine
  | .add name source => engine.add name source
  | _ => engine

/-- The engine after requests, one after the other. -/
def after (engine : Engine) (history : List (Request Given)) : Engine := history.foldl next engine

/-- The replies to requests, one after the other. -/
def replies (language : Language Given) : Engine → List (Request Given) → List Reply
  | _, [] => []
  | engine, request :: rest =>
    engine.reply language request :: (engine.next request).replies language rest

/-- The source that a name stands for once an engine was asked for some things: the one that was
added last under the name, or else what the engine had under it from the start. The files of a
directory are gone with the first addition. -/
def standing? (start : Engine) (history : List (Request Given)) (name : String) :
    Option String :=
  match lastAdded? history name with
  | some source => some source
  | none =>
    if start.backing = .directory ∧ history.any isAdd then none else start.source? name

variable {language : Language Given} {engine start : Engine} {history : List (Request Given)}
  {request : Request Given} {name source : String} {given : Given}

/-! ## Requests -/

private theorem next_of_not_isAdd (silent : request.isAdd = false) :
    engine.next request = engine := by
  cases request with
  | add other source => exact nomatch silent
  | contains other => rfl
  | render other given => rfl
  | renderString source given => rfl

private theorem after_concat (start : Engine) (history : List (Request Given))
    (request : Request Given) :
    start.after (history ++ [request]) = (start.after history).next request :=
  List.foldl_concat ..

/-- An addition counts for its name. The other names keep their sources in memory, and lose them to
the directory. -/
theorem source?_add (engine : Engine) (other source name : String) :
    (engine.add other source).source? name =
      if other = name then some source
      else if engine.backing = .directory then none else engine.source? name := by
  unfold add source?
  cases backing : engine.backing with
  | memory => exact Ordered.get?_put other name source engine.templates
  | directory => rfl

private theorem backing_add (engine : Engine) (name source : String) :
    (engine.add name source).backing = .memory := by
  unfold add
  split
  · assumption
  · rfl

/-! ## Histories -/

/-- Whatever does not add a template leaves the engine as it is. -/
theorem after_filter_isAdd (start : Engine) (history : List (Request Given)) :
    start.after (history.filter isAdd) = start.after history := by
  unfold after
  rw [List.foldl_filter]
  refine congrArg (fun step => history.foldl step start) ?_
  funext engine request
  cases adds : request.isAdd with
  | true => rfl
  | false => exact (next_of_not_isAdd adds).symm

/-- An engine is in memory once something was added, and where it was before. -/
theorem backing_after (start : Engine) (history : List (Request Given)) :
    (start.after history).backing =
      if history.any isAdd = true then .memory else start.backing := by
  induction history using List.reverseRecOn with
  | nil => rfl
  | append_singleton history request ih =>
      rw [after_concat, List.any_append, List.any_cons, List.any_nil, Bool.or_false]
      cases adds : request.isAdd with
      | true =>
          obtain ⟨other, source, rfl⟩ := isAdd_iff.mp adds
          rw [Bool.or_true, if_pos rfl]
          exact backing_add _ other source
      | false => rw [Bool.or_false, next_of_not_isAdd adds, ih]

private theorem standing?_of_some (added : lastAdded? history name = some source) :
    start.standing? history name = some source := by
  unfold standing?
  rw [added]

private theorem standing?_of_none (new : lastAdded? history name = none) :
    start.standing? history name =
      if start.backing = .directory ∧ history.any isAdd = true then none
      else start.source? name := by
  unfold standing?
  rw [new]

/-- What a name stands for changes with an addition only: the name gets its source, and the files of
a directory are gone. -/
theorem standing?_concat_add (start : Engine) (history : List (Request Given))
    (other source name : String) :
    start.standing? (history ++ [.add other source]) name =
      if other = name then some source
      else if (start.after history).backing = .directory then none
      else start.standing? history name := by
  have last := lastAdded?_concat history (.add other source) name
  have adds : (history ++ [Request.add other source]).any isAdd = true :=
    List.any_append.trans (Bool.or_true _)
  by_cases same : other = name
  · rw [if_pos same]
    refine standing?_of_some (last.trans ?_)
    rw [sourceFor?, if_pos same, Option.some_or]
  · rw [sourceFor?, if_neg same, Option.none_or] at last
    rw [if_neg same, backing_after]
    cases added : lastAdded? history name with
    | some earlier =>
        -- What was added before has moved the engine into memory, where the source stays.
        have any : history.any isAdd = true := by
          by_contra silent
          rw [lastAdded?_of_not_isAdd (Bool.eq_false_iff.mpr silent)] at added
          exact nomatch added
        rw [standing?_of_some (last.trans added), standing?_of_some added, any]
        rfl
    | none =>
        rw [standing?_of_none (last.trans added), standing?_of_none added, adds]
        cases history.any isAdd with
        | true => simp
        | false => simp

/-- **A name stands for the source that was added last under it**, or for what was there before. -/
theorem source?_after (start : Engine) (history : List (Request Given)) (name : String) :
    (start.after history).source? name = start.standing? history name := by
  -- From the back: an addition at the end decides for its name, anything else for none.
  induction history using List.reverseRecOn with
  | nil =>
      have new : lastAdded? ([] : List (Request Given)) name = none := rfl
      rw [standing?_of_none new, if_neg fun lost => Bool.false_ne_true lost.2]
      rfl
  | append_singleton history request ih =>
      rw [after_concat]
      cases adds : request.isAdd with
      | true =>
          obtain ⟨other, source, rfl⟩ := isAdd_iff.mp adds
          rw [standing?_concat_add, ← ih]
          exact source?_add _ other source name
      | false =>
          have last := lastAdded?_concat history request name
          rw [sourceFor?_of_not_isAdd adds, Option.none_or] at last
          rw [next_of_not_isAdd adds, ih, standing?, standing?, last, List.any_append,
            List.any_cons, adds, List.any_nil, Bool.or_false, Bool.or_false]

/-! ## Replies -/

private theorem renderWith_of_source (found : engine.source? name = some source) (given : Given) :
    engine.renderWith language name given =
      (language.render engine.source? (some name) source given).mapError (.rendering name) := by
  unfold renderWith
  rw [found]

private theorem renderWith_of_no_source (missing : engine.source? name = none) (given : Given) :
    engine.renderWith language name given = .error (.rendering name (engine.missing name)) := by
  unfold renderWith
  rw [missing]

private theorem containsWith_of_source (found : engine.source? name = some source) :
    engine.containsWith language name = .ok true ↔ language.defect? source = none := by
  unfold containsWith
  simp only [found]
  cases language.defect? source with
  | none => exact iff_of_true rfl rfl
  | some fault => exact iff_of_false nofun nofun

private theorem containsWith_of_no_source (missing : engine.source? name = none) :
    engine.containsWith language name = .ok false := by
  unfold containsWith
  rw [missing]

/-- A language renders a source under a name as it does under none: to the same text, or to none in
both cases. -/
def RendersAlike (language : Language Given) (find : String → Option String)
    (name source : String) (given : Given) : Prop :=
  ∀ text, language.render find (some name) source given = .ok text ↔
    language.render find none source given = .ok text

/-- A source that can not be used renders alike: not at all. -/
theorem rendersAlike_of_defect {fault : TemplateFault}
    (defect : language.defect? source = some fault) (find : String → Option String) (name : String)
    (given : Given) :
    RendersAlike language find name source given := by
  intro text
  rw [language.unusable defect, language.unusable defect]

/-- What a named template renders as is what a source renders as that is given itself: the same
text, or a fault of rendering both times. -/
inductive SameOutcome (name : String) : Except Fault String → Except Fault String → Prop
  | text (text : String) : SameOutcome name (.ok text) (.ok text)
  | fault (first second : TemplateFault) :
      SameOutcome name (.error (.rendering name first)) (.error (.rendering "string" second))

/-- The outcomes are the same exactly if the name makes no difference to the rendering. -/
theorem sameOutcome_iff (found : engine.source? name = some source) :
    SameOutcome name (engine.renderWith language name given)
        (engine.renderStringWith language source given) ↔
      RendersAlike language engine.source? name source given := by
  rw [renderWith_of_source found, renderStringWith, RendersAlike]
  cases language.render engine.source? (some name) source given with
  | error first =>
      cases language.render engine.source? none source given with
      | error second =>
          exact iff_of_true (.fault first second) fun _ => iff_of_false nofun nofun
      | ok text =>
          exact iff_of_false nofun fun alike => nomatch (alike text).mpr rfl
  | ok text =>
      constructor
      · intro same
        cases other : language.render engine.source? none source given with
        | error second =>
            rw [other] at same
            exact nomatch same
        | ok text' =>
            rw [other] at same
            cases same
            exact fun _ => Iff.rfl
      · intro alike
        rw [(alike text).mp rfl]
        exact .text text

/-! ## The known part of the language -/

/-- In the known part of the language the name makes no difference to a template that does not
mention itself. -/
theorem rendersAlike_known (silent : mentionsSelf source = false) (find : String → Option String)
    (name : String) (context : Context) :
    RendersAlike .known find name source context := by
  intro text
  change renderSource _ _ _ = _ ↔ renderSource _ _ _ = _
  rw [renderSource_of_not_mentionsSelf silent]

/-- A template of the known part of the language fails alike under its name and as a source that is
given itself, or it gives the same text but for the places where it prints itself. -/
theorem render_uniform (found : engine.source? name = some source) (context : Context) :
    ∃ result : Except TemplateFault (List (Option String)),
      engine.render name context = (result.map (fill (some name))).mapError (.rendering name) ∧
        engine.renderString source context =
          (result.map (fill none)).mapError (.rendering "string") := by
  obtain ⟨result, same⟩ := uniform_renderSource source context
  exact ⟨result, (renderWith_of_source found context).trans (congrArg _ (same (some name))),
    congrArg _ (same none)⟩

/-! ## Whole histories -/

/-- **Replies follow the sources.** Let templates be written in any language, and let an engine be
asked for any things. What it then renders under a name has the outcome of rendering the source that
stands there as a source that is given itself, exactly if the name makes no difference to what the
language makes of that source. The name is there exactly if the source can be used. Where no source
stands, rendering fails and the name is not there. And of all that was asked for before only the
additions bear on later replies. -/
theorem serves_standing (language : Language Given) (start : Engine)
    (history : List (Request Given)) :
    (∀ name source, start.standing? history name = some source →
      (∀ given,
        SameOutcome name ((start.after history).renderWith language name given)
            ((start.after history).renderStringWith language source given) ↔
          RendersAlike language (start.standing? history) name source given) ∧
      ((start.after history).containsWith language name = .ok true ↔
        language.defect? source = none)) ∧
    (∀ name, start.standing? history name = none →
      (∀ given, ∃ fault, (start.after history).renderWith language name given =
        .error (.rendering name fault)) ∧
      (start.after history).containsWith language name = .ok false) ∧
    ∀ later, (start.after history).replies language later =
      (start.after (history.filter isAdd)).replies language later := by
  refine ⟨fun name source stands => ?_, fun name missing => ?_, fun later => ?_⟩
  · have found := (source?_after start history name).trans stands
    have stand : (start.after history).source? = start.standing? history :=
      funext (source?_after start history)
    exact ⟨fun given => stand ▸ sameOutcome_iff found, containsWith_of_source found⟩
  · have none := (source?_after start history name).trans missing
    exact ⟨fun given => ⟨_, renderWith_of_no_source none given⟩, containsWith_of_no_source none⟩
  · rw [after_filter_isAdd]

/-- An engine with one file. -/
def fileEngine : Engine := ⟨.directory, [("a.j2", "A")]⟩

/-- Requests that render the file, add two templates under one name and ask for it in between. -/
def sampleHistory : List (Request Context) :=
  [.render "a.j2" [], .add "b" "one", .contains "b", .add "b" "\x7b\x7b x \x7d\x7d"]

/-- The template that was added last is rendered and is there, and the file is gone. -/
theorem serves_standing_sample :
    SameOutcome "b" ((fileEngine.after sampleHistory).render "b" [("x", .text "two")])
        ((fileEngine.after sampleHistory).renderString "\x7b\x7b x \x7d\x7d"
          [("x", .text "two")]) ∧
      (fileEngine.after sampleHistory).contains "b" = .ok true ∧
      (fileEngine.after sampleHistory).contains "a.j2" = .ok false := by
  obtain ⟨present, absent, _⟩ := serves_standing .known fileEngine sampleHistory
  obtain ⟨outcome, usable⟩ := present "b" "\x7b\x7b x \x7d\x7d" (by decide +kernel)
  exact ⟨(outcome _).mpr (rendersAlike_known (by decide +kernel) _ _ _),
    usable.mpr (by decide +kernel), (absent "a.j2" (by decide +kernel)).2⟩

/-- A template that prints itself tells its name, and as a source that is given itself it tells
none. -/
theorem render_ne_renderString :
    empty.standing? [(.add "a" "\x7b\x7b self \x7d\x7d" : Request Context)] "a" =
        some "\x7b\x7b self \x7d\x7d" ∧
      (empty.after [(.add "a" "\x7b\x7b self \x7d\x7d" : Request Context)]).render "a" [] =
        .ok "<TemplateReference 'a'>" ∧
      (empty.after [(.add "a" "\x7b\x7b self \x7d\x7d" : Request Context)]).renderString
        "\x7b\x7b self \x7d\x7d" [] = .ok "<TemplateReference None>" := by
  refine ⟨by decide +kernel, ?_, ?_⟩
  · exact eq_ok_of_toOption (by decide +kernel)
  · exact eq_ok_of_toOption (by decide +kernel)

end Engine

end ElementWrap.Template
