import ElementWrap.Proofs.Template.Parts

/-! # Templates that print themselves

A template is rendered under its name, and a source that is given itself under none. The name shows
nowhere in the text but where the template prints itself, and it makes no difference to a failure
(`ElementWrap.Template.uniform_renderSource`). Without a mention of itself a template does not show
it at all (`ElementWrap.Template.Body.renderIn_of_not_asksFor`).
-/

namespace ElementWrap.Template

/-! ## What depends on a name -/

/-- Pieces of text one after the other, with the template's mention of itself for those that are
not there. -/
def fill (name : Option String) (pieces : List (Option String)) : String :=
  String.join (pieces.map fun piece => piece.getD (selfReference name).display)

/-- A datum, or the template itself. -/
def orSelf (name : Option String) (datum : Option Datum) : Datum := datum.getD (selfReference name)

/-- A rendering comes out the same under every name, but for what `shown` makes of the name. -/
def Uniform {α β : Type} (shown : Option String → α → β)
    (rendering : Option String → Except TemplateFault β) : Prop :=
  ∃ result : Except TemplateFault α, ∀ name, rendering name = result.map (shown name)

namespace Uniform

variable {α β γ δ : Type} {shown : Option String → α → β} {printed : Option String → γ → δ}

private theorem ok {rendering : Option String → Except TemplateFault β} (a : α)
    (same : ∀ name, rendering name = .ok (shown name a)) : Uniform shown rendering :=
  ⟨.ok a, same⟩

private theorem error {rendering : Option String → Except TemplateFault β} (fault : TemplateFault)
    (same : ∀ name, rendering name = .error fault) : Uniform shown rendering :=
  ⟨.error fault, same⟩

private theorem bind {rendering : Option String → Except TemplateFault β}
    {next : Option String → β → Except TemplateFault δ} (first : Uniform shown rendering)
    (after : ∀ a, Uniform printed fun name => next name (shown name a)) :
    Uniform printed fun name => rendering name >>= next name := by
  obtain ⟨result, same⟩ := first
  cases result with
  | error fault =>
      refine .error fault fun name => ?_
      exact congrArg (· >>= next name) (same name)
  | ok a =>
      obtain ⟨last, agrees⟩ := after a
      refine ⟨last, fun name => ?_⟩
      rw [← agrees name]
      exact congrArg (· >>= next name) (same name)

private theorem mapM {ι : Type} {items : List ι} {step : Option String → ι → Except TemplateFault β}
    (each : ∀ item ∈ items, Uniform shown fun name => step name item) :
    Uniform (fun name (as : List α) => as.map (shown name)) fun name => items.mapM (step name) := by
  induction items with
  | nil => exact .ok [] fun name => rfl
  | cons item rest ih =>
      obtain ⟨head, tail⟩ := List.forall_mem_cons.mp each
      simp only [List.mapM_cons]
      exact head.bind fun a => (ih tail).bind fun as => .ok (a :: as) fun name => rfl

end Uniform

/-! ## Scopes -/

/-- What names stand for; nothing stands for the template itself. -/
abbrev OpenScope := List (String × Option Datum)

/-- The scope of a template under its name. -/
def OpenScope.under (name : Option String) (scope : OpenScope) : Scope :=
  scope.map fun entry => (entry.1, orSelf name entry.2)

/-- A scope that does not know of the template. -/
def Scope.opened (scope : Scope) : OpenScope := scope.map fun entry => (entry.1, some entry.2)

namespace OpenScope

variable {scope : OpenScope}

private theorem under_opened (name : Option String) (scope : Scope) :
    scope.opened.under name = scope := by
  unfold Scope.opened under
  rw [List.map_map]
  exact List.map_id scope

private theorem get?_under (name : Option String) (scope : OpenScope) (key : String) :
    Ordered.get? key (scope.under name) = (Ordered.get? key scope).map (orSelf name) := by
  induction scope with
  | nil => rfl
  | cons entry rest ih =>
      obtain ⟨other, datum⟩ := entry
      unfold under at ih ⊢
      rw [List.map_cons, Ordered.get?, Ordered.get?, ih]
      split
      · rfl
      · rfl

private theorem binds_under (name : Option String) (scope : OpenScope) (key : String) :
    (scope.under name).binds key = (Ordered.get? key scope).isSome := by
  rw [Scope.binds, get?_under, Option.isSome_map]

private theorem getD_map_orSelf (name : Option String) (found : Option (Option Datum))
    (otherwise : Datum) :
    (found.map (orSelf name)).getD otherwise = orSelf name (found.getD (some otherwise)) := by
  cases found with
  | none => rfl
  | some datum => rfl

/-- What a name of a frame was given is the same under every name of the template, or the template
itself. -/
theorem settled_under (given : List (String × Option (Option Datum))) (key : String) :
    ∃ found : Option (Option Datum), ∀ name,
      Scope.settled (given.map fun entry => (entry.1, entry.2.map (orSelf name))) key =
        found.map (orSelf name) := by
  refine ⟨(given.reverse.find? fun entry =>
    Text.compatibleForm entry.1.toList == Text.compatibleForm key.toList).bind (·.2),
      fun name => ?_⟩
  simp only [Scope.settled, ← List.map_reverse, List.find?_map, Option.bind_map, Option.map_bind]
  rfl

/-- A frame that is entered stands under the name of the template as it did outside. -/
theorem enter_under (context : Scope) (outer defined : OpenScope) (lookups : List String) :
    ∃ inner : OpenScope, ∀ name,
      Scope.enter context (outer.under name) (defined.under name) lookups = inner.under name := by
  let fresh := (lookups.filter fun key =>
    !(Ordered.get? key defined).isSome && !(Ordered.get? key outer).isSome).eraseDups
  let given : List (String × Option (Option Datum)) :=
    defined.map (fun entry => (entry.1, some entry.2)) ++
      fresh.map fun key => (key, (Ordered.get? key context).map some)
  choose found settled using settled_under given
  refine ⟨defined.map (fun entry => (entry.1, (found entry.1).getD (some Scope.lost))) ++
    fresh.map (fun key => (key, (found key).getD (some .undefined))) ++ outer, fun name => ?_⟩
  have given_under : (defined.under name).map (fun entry => (entry.1, some entry.2)) ++
      fresh.map (fun key => (key, Ordered.get? key context)) =
        given.map fun entry => (entry.1, entry.2.map (orSelf name)) := by
    have looked (key : String) :
        ((Ordered.get? key context).map some).map (orSelf name) = Ordered.get? key context := by
      rw [Option.map_map]
      exact Option.map_id_apply
    simp only [given, under, List.map_append, List.map_map, Function.comp_def, Option.map_some,
      looked]
  have fresh_under : (lookups.filter fun key =>
      !(defined.under name).binds key && !(outer.under name).binds key).eraseDups = fresh := by
    simp only [binds_under, fresh]
  simp only [Scope.enter, fresh_under, given_under, settled, getD_map_orSelf]
  simp only [under, List.map_append, List.map_map, Function.comp_def]

end OpenScope

/-! ## Expressions -/

private theorem uniform_of_same {rendering : Option String → Except TemplateFault Datum}
    (same : ∀ name, rendering name = rendering none) : Uniform orSelf rendering := by
  refine ⟨(rendering none).map some, fun name => (same name).trans ?_⟩
  cases rendering none with
  | error fault => rfl
  | ok datum => rfl

/-- An expression stands for the same under every name, or for the template itself. A template has
no members, and no items whose names could be listed. -/
theorem uniform_evaluate (scope : OpenScope) (e : Expression) :
    Uniform orSelf fun name => e.evaluate (scope.under name) := by
  induction e with
  | name s =>
      refine .ok ((Ordered.get? s scope).getD (some .undefined)) fun name => ?_
      rw [Expression.evaluate, OpenScope.get?_under, OpenScope.getD_map_orSelf]
  | bool b => exact uniform_of_same fun _ => rfl
  | null => exact uniform_of_same fun _ => rfl
  | member of key ih =>
      simp only [Expression.evaluate]
      refine ih.bind fun found => ?_
      cases found with
      | none => exact uniform_of_same fun _ => rfl
      | some datum => exact uniform_of_same fun _ => rfl
  | filter of word arguments ih =>
      simp only [Expression.evaluate]
      refine ih.bind fun found => ?_
      cases found with
      | none => exact uniform_of_same fun _ => rfl
      | some datum => exact uniform_of_same fun _ => rfl

/-! ## Pieces of text -/

private theorem fill_append (name : Option String) (first second : List (Option String)) :
    fill name (first ++ second) = fill name first ++ fill name second := by
  unfold fill
  rw [List.map_append, String.join_append]

private theorem fill_cons (name : Option String) (piece : Option String)
    (rest : List (Option String)) :
    fill name (piece :: rest) = piece.getD (selfReference name).display ++ fill name rest := by
  unfold fill
  rw [List.map_cons, String.join_cons]

private theorem fill_flatten (name : Option String) (texts : List (List (Option String))) :
    String.join (texts.map (fill name)) = fill name texts.flatten := by
  induction texts with
  | nil => rfl
  | cons text rest ih =>
      rw [List.map_cons, String.join_cons, List.flatten_cons, fill_append, ih]

private theorem display_orSelf (name : Option String) (datum : Option Datum) :
    (orSelf name datum).display = (datum.map Datum.display).getD (selfReference name).display := by
  cases datum with
  | none => rfl
  | some datum => rfl

private theorem truthy_orSelf (name : Option String) (datum : Option Datum) :
    (orSelf name datum).truthy = (datum.map Datum.truthy).getD true := by
  cases datum with
  | none => rfl
  | some datum => rfl

/-- There is nothing to go through in a template. -/
theorem items?_orSelf (name : Option String) (datum : Option Datum) :
    (orSelf name datum).items? = datum.bind Datum.items? := by
  cases datum with
  | none => rfl
  | some datum => rfl

/-! ## Bodies -/

/-- Inside a frame that does not define the template itself a body depends on the name as it does
anywhere. -/
theorem uniform_enter {body : Body}
    (each : ∀ inner : OpenScope, Uniform fill fun name => body.render context (inner.under name))
    (scope : OpenScope) (defined : Scope) (lookups : List String) :
    Uniform fill fun name =>
      body.render context (.enter context (scope.under name) defined lookups) := by
  obtain ⟨inner, entered⟩ := OpenScope.enter_under context scope defined.opened lookups
  obtain ⟨result, same⟩ := each inner
  refine ⟨result, fun name => ?_⟩
  have inside := entered name
  rw [OpenScope.under_opened] at inside
  exact (congrArg (fun frame => body.render context frame) inside).trans (same name)

/-- What a loop writes depends on the name of the template as its passes do. -/
theorem uniform_passes {body alternative : Body}
    (each : ∀ inner : OpenScope, Uniform fill fun name => body.render context (inner.under name))
    (otherwise : ∀ inner : OpenScope,
      Uniform fill fun name => alternative.render context (inner.under name))
    (scope : OpenScope) (item : String) (items? : Option (List Datum)) :
    Uniform fill fun name =>
      body.passes context (scope.under name) item alternative items? := by
  match items? with
  | none => exact .error .evaluation fun _ => rfl
  | some [] => exact uniform_enter otherwise scope [] alternative.lookups
  | some (first :: others) =>
      have passes : ∀ entry ∈ (first :: others).zipIdx, Uniform fill fun name =>
          body.pass context (scope.under name) item (first :: others) entry :=
        fun entry _ => uniform_enter each scope _ body.lookups
      refine (Uniform.mapM passes).bind fun texts => .ok texts.flatten fun name => ?_
      rw [fill_flatten]

/-- **A body comes out the same under every name**, but for the places where the template prints
itself. -/
theorem uniform_render (scope : OpenScope) (body : Body) :
    Uniform fill fun name => body.render context (scope.under name) := by
  -- The scope varies, since each pass of a loop renders its body in a frame of its own.
  induction body generalizing scope with
  | done => exact .ok [] fun _ => rfl
  | text s next ih =>
      simp only [Body.render_text]
      refine (ih scope).bind fun rest => .ok (some s :: rest) fun name => ?_
      rw [fill_cons, Option.getD_some]
  | output value next ih =>
      simp only [Body.render_output]
      refine (uniform_evaluate scope value).bind fun datum => ?_
      refine (ih scope).bind fun rest => .ok (datum.map Datum.display :: rest) fun name => ?_
      rw [fill_cons, display_orSelf]
  | loop item items body alternative next bodyIh alternativeIh nextIh =>
      simp only [Body.render_loop]
      refine (uniform_evaluate scope items).bind fun datum => ?_
      -- The items are never the template itself, so the passes get the same ones under every name.
      simp only [items?_orSelf]
      refine (uniform_passes bodyIh alternativeIh scope item _).bind fun shown => ?_
      refine (nextIh scope).bind fun rest => .ok (shown ++ rest) fun name => ?_
      rw [fill_append]
  | cond condition body alternative next bodyIh alternativeIh nextIh =>
      simp only [Body.render_cond]
      refine (uniform_evaluate scope condition).bind fun datum => ?_
      simp only [truthy_orSelf]
      have branch : Uniform fill fun name =>
          (if (datum.map Datum.truthy).getD true then body else alternative).render context
            (scope.under name) := by
        split
        · exact bodyIh scope
        · exact alternativeIh scope
      refine branch.bind fun shown => (nextIh scope).bind fun rest =>
        .ok (shown ++ rest) fun name => ?_
      rw [fill_append]

/-! ## Templates -/

namespace Body

private theorem renderIn_of_unbound {context : Context}
    (unbound : ¬ Scope.binds context selfName = true) (name : Option String) (body : Body) :
    body.renderIn context name =
      body.render (context ++ commonNames) (.enter (context ++ commonNames) []
        (body.ownNames.map fun own => (own, selfReference name)) body.lookups) := by
  unfold renderIn
  rw [if_neg unbound]

private theorem uniform_renderIn (context : Context) (body : Body) :
    Uniform fill fun name => body.renderIn context name := by
  by_cases bound : Scope.binds context selfName = true
  · refine .error .evaluation fun name => ?_
    unfold renderIn
    rw [if_pos bound]
  · let own : OpenScope := body.ownNames.map fun own => (own, none)
    obtain ⟨inner, entered⟩ :=
      OpenScope.enter_under (context ++ commonNames) [] own body.lookups
    obtain ⟨result, same⟩ := uniform_render inner body
    refine ⟨result, fun name => ?_⟩
    have defined : own.under name = body.ownNames.map fun own => (own, selfReference name) :=
      List.map_map
    have inside := entered name
    rw [defined] at inside
    exact (renderIn_of_unbound bound name body).trans
      ((congrArg (fun frame => body.render _ frame) inside).trans (same name))

/-- A template that does not mention itself comes out the same under every name. -/
theorem renderIn_of_not_asksFor {body : Body} (silent : body.asksFor selfName = false)
    (context : Context) (name : Option String) :
    body.renderIn context name = body.renderIn context none := by
  have anonymous : body.ownNames = [] := if_neg (Bool.eq_false_iff.mp silent)
  unfold renderIn
  rw [anonymous]
  rfl

end Body

/-- **The name of a template.** A template fails under every name alike, or its text is the same
under every name but for the places where it prints itself. -/
theorem uniform_renderSource (source : String) (context : Context) :
    Uniform fill fun name => renderSource source name context := by
  have compiled : Uniform (fun _ body => body) fun _ => Body.compile source.toList :=
    ⟨Body.compile source.toList, fun _ => (id_map _).symm⟩
  exact compiled.bind fun body => body.uniform_renderIn context

/-- Whether a source asks for itself. One that can not be used never gets to it. -/
def mentionsSelf (source : String) : Bool :=
  match Body.compile source.toList with
  | .ok body => body.asksFor selfName
  | .error _ => false

/-- A source that does not mention itself renders under a name as it does under none. -/
theorem renderSource_of_not_mentionsSelf {source : String} (silent : mentionsSelf source = false)
    (context : Context) (name : Option String) :
    renderSource source name context = renderSource source none context := by
  unfold mentionsSelf at silent
  unfold renderSource
  cases compiled : Body.compile source.toList with
  | error fault => simp only [bind, Except.bind]
  | ok body =>
      rw [compiled] at silent
      exact Body.renderIn_of_not_asksFor silent context name

end ElementWrap.Template
