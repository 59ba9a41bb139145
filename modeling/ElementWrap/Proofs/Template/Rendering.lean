import ElementWrap.Proofs.Lists
import ElementWrap.Proofs.Running
import ElementWrap.Template.Engine

/-! # What a body renders as

`Renders` says that a body has a text in a scope, and it has one rule for each part of a body, so
that the text of a template is put together the way the template is. A frame whose names are ASCII
shows exactly what it was given (`ElementWrap.Template.Scope.enter_eq`), and a template that can be
used has the text of its body in the frame of its own (`ElementWrap.Template.Engine.render_eq`).
-/

namespace ElementWrap.Template

/-- A name of ASCII characters, which is compatible with no other such name. -/
def IsAscii (name : String) : Prop := ∀ c ∈ name.toList, c.toNat < 0x80

instance (name : String) : Decidable (IsAscii name) :=
  List.decidableBAll (fun c : Char => c.toNat < 0x80) name.toList

private theorem compatibleForm_eq_iff {first second : String} (firstAscii : IsAscii first)
    (secondAscii : IsAscii second) :
    (Text.compatibleForm first.toList == Text.compatibleForm second.toList) = true ↔
      first = second := by
  rw [Text.compatibleForm_of_ascii firstAscii, Text.compatibleForm_of_ascii secondAscii,
    beq_iff_eq, String.toList_inj]

/-! ## Frames -/

namespace Scope

private theorem binds_of_mem {scope : Scope} {name : String} (member : name ∈ scope.map Prod.fst) :
    scope.binds name = true := by
  unfold binds
  induction scope with
  | nil => exact absurd member List.not_mem_nil
  | cons entry rest ih =>
      obtain ⟨key, datum⟩ := entry
      rw [Ordered.get?]
      split
      · rfl
      · next other => exact ih ((List.mem_cons.mp member).resolve_left (Ne.symm other))

/-- Among different ASCII names each one shows what it was given itself. -/
theorem settled_of_mem {given : List (String × Option Datum)}
    (ascii : ∀ entry ∈ given, IsAscii entry.1) (different : (given.map Prod.fst).Nodup)
    {name : String} {value : Option Datum} (member : (name, value) ∈ given) :
    settled given name = value := by
  have nameAscii : IsAscii name := ascii _ member
  unfold settled
  cases found : given.reverse.find? fun entry =>
      Text.compatibleForm entry.1.toList == Text.compatibleForm name.toList with
  | none =>
      have unfit := List.find?_eq_none.mp found (name, value) (List.mem_reverse.mpr member)
      exact absurd (beq_self_eq_true _) unfit
  | some entry =>
      have present : entry ∈ given := List.mem_reverse.mp (List.mem_of_find?_eq_some found)
      have compatible := List.find?_some found
      have same : entry.1 = name :=
        (compatibleForm_eq_iff (ascii entry present) nameAscii).mp compatible
      have whole : entry = (name, value) :=
        List.inj_on_of_nodup_map different present member same
      simp only [found, whole, Option.bind_some]

/-- What a frame defines or looks up is what the scope inside it says. -/
theorem enter_eq (context outer defined : Scope) (lookups : List String)
    (definedAscii : ∀ entry ∈ defined, IsAscii entry.1) (ascii : ∀ name ∈ lookups, IsAscii name)
    (different : (defined.map Prod.fst).Nodup) :
    enter context outer defined lookups =
      defined ++
        ((lookups.filter fun name => !defined.binds name && !outer.binds name).eraseDups.map
          fun name => (name, (Ordered.get? name context).getD .undefined)) ++ outer := by
  let fresh :=
    (lookups.filter fun name => !defined.binds name && !outer.binds name).eraseDups
  let given := defined.map (fun entry => (entry.1, some entry.2)) ++
    fresh.map fun name => (name, Ordered.get? name context)
  have unbound : ∀ name ∈ fresh, name ∈ lookups ∧ defined.binds name = false := by
    intro name member
    obtain ⟨looked, condition⟩ := List.mem_filter.mp (List.mem_eraseDups.mp member)
    rw [Bool.and_eq_true, Bool.not_eq_true', Bool.not_eq_true'] at condition
    exact ⟨looked, condition.1⟩
  have givenAscii : ∀ entry ∈ given, IsAscii entry.1 := by
    intro entry member
    rcases List.mem_append.mp member with own | looked
    · obtain ⟨source, present, rfl⟩ := List.mem_map.mp own
      exact definedAscii source present
    · obtain ⟨name, present, rfl⟩ := List.mem_map.mp looked
      exact ascii name (unbound name present).1
  have givenDifferent : (given.map Prod.fst).Nodup := by
    have names : given.map Prod.fst = defined.map Prod.fst ++ fresh := by
      simp only [given, List.map_append, List.map_map, Function.comp_def, List.map_id']
    rw [names]
    apply List.Nodup.append different (nodup_eraseDups _)
    intro name own looked
    exact absurd (binds_of_mem own) (by rw [(unbound name looked).2]; exact Bool.false_ne_true)
  have ownKept : defined.map (fun entry => (entry.1, (settled given entry.1).getD lost)) =
      defined := by
    conv_rhs => rw [← List.map_id defined]
    refine List.map_congr_left fun entry member => ?_
    rw [settled_of_mem givenAscii givenDifferent
      (List.mem_append_left _ (List.mem_map.mpr ⟨entry, member, rfl⟩))]
    rfl
  have lookedUp : fresh.map (fun name => (name, (settled given name).getD .undefined)) =
      fresh.map fun name => (name, (Ordered.get? name context).getD .undefined) := by
    refine List.map_congr_left fun name member => ?_
    rw [settled_of_mem givenAscii givenDifferent
      (List.mem_append_right _ (List.mem_map.mpr ⟨name, member, rfl⟩))]
  change defined.map (fun entry => (entry.1, (settled given entry.1).getD lost)) ++
    fresh.map (fun name => (name, (settled given name).getD .undefined)) ++ outer = _
  rw [ownKept, lookedUp]

private theorem enter_single (context outer : Scope) {item : String} (datum : Datum)
    {lookups : List String} (ascii : IsAscii item) (only : ∀ name ∈ lookups, name = item) :
    enter context outer [(item, datum)] lookups = (item, datum) :: outer := by
  have none_fresh : (lookups.filter fun name =>
      !Scope.binds [(item, datum)] name && !outer.binds name) = [] := by
    refine List.filter_eq_nil_iff.mpr fun name member => ?_
    simp [only name member, binds, Ordered.get?]
  rw [enter_eq context outer [(item, datum)] lookups
    (fun entry member => List.mem_singleton.mp member ▸ ascii)
    (fun name member => only name member ▸ ascii) (List.nodup_singleton item), none_fresh]
  rfl

/-- What a template looks up right in its own frame. -/
theorem enter_own (context : Scope) {lookups : List String}
    (ascii : ∀ name ∈ lookups, IsAscii name) :
    enter context [] [] lookups =
      lookups.eraseDups.map fun name => (name, (Ordered.get? name context).getD .undefined) := by
  have all_fresh : (lookups.filter fun name =>
      !Scope.binds [] name && !Scope.binds [] name) = lookups :=
    List.filter_eq_self.mpr fun name _ => rfl
  rw [enter_eq context [] [] lookups (fun entry member => absurd member List.not_mem_nil) ascii
    List.nodup_nil, all_fresh, List.append_nil, List.nil_append]

end Scope

/-! ## Members -/

namespace Datum

/-- An entry of a table is found under its name unless something comes with tables under it. -/
theorem member?_table {name : String} {entries : List (String × Datum)} {datum : Datum}
    (untold : name ≠ kindMember) (inoperative : name ∉ tableOperations)
    (found : Ordered.get? name entries = some datum) :
    (table entries).member? name = some datum := by
  have no_attribute : attribute? name (table entries) = none := by
    have absent : (table entries).operations.contains name = false := by
      rw [List.contains_eq_mem, decide_eq_false_iff_not]
      exact inoperative
    simp only [attribute?, untold, absent, ↓reduceIte, Bool.false_eq_true, part?]
  simp only [member?, no_attribute, entry?, found]
  rfl

/-- An attribute of an entity is its member. -/
theorem member?_entity {name : String} {attributes : List (String × Datum)} {datum : Datum}
    (found : Ordered.get? name attributes = some datum) :
    (entity attributes).member? name = some datum := by
  simp only [member?, attribute?, found]
  rfl

mutual

private theorem literal_ofValue : (value : Value) → (ofValue value).literal = value.literal
  | .null | .bool _ | .int _ | .real _ | .text _ => rfl
  | .list items => by
      simp only [ofValue, literal, Value.literal, literals_ofValues items]
  | .object fields => by
      simp only [ofValue, literal, Value.literal, entryLiterals_ofFields fields]

/-- The literals of values, one by one. -/
theorem literals_ofValues : (items : List Value) →
    literals (ofValues items) = Value.literalList items
  | [] => rfl
  | item :: rest => by
      simp only [ofValues, literals, Value.literalList, literal_ofValue item,
        literals_ofValues rest]

/-- The literals of fields, one by one. -/
theorem entryLiterals_ofFields : (fields : List (String × Value)) →
    entryLiterals (ofFields fields) = Value.literalFields fields
  | [] => rfl
  | (name, value) :: rest => by
      simp only [ofFields, entryLiterals, Value.literalFields, literal_ofValue value,
        entryLiterals_ofFields rest]

end

/-- A template prints a value as the value stands in a sentence. -/
@[simp]
theorem display_ofValue (value : Value) : (ofValue value).display = value.display := by
  cases value with
  | list items => exact literal_ofValue (.list items)
  | object fields => exact literal_ofValue (.object fields)
  | _ => rfl

private theorem joinNames_entities (name : String) (names : List Value) :
    (list (names.map fun shown => entity [(name, ofValue shown)])).joinNames name =
      .ok (", ".intercalate (names.map (·.display))) := by
  have each : ∀ item ∈ names.map fun shown => entity [(name, ofValue shown)],
      (do return (← item.attributeOf name).display) = Except.ok (ε := Fault)
        ((((item.attribute? name).getD .undefined)).display) := by
    intro item member
    obtain ⟨shown, _, rfl⟩ := List.mem_map.mp member
    simp only [attributeOf, attribute?, Ordered.get?, ↓reduceIte]
    rfl
  simp only [joinNames, items?]
  rw [mapM_ok_of_forall each, List.map_map]
  have shown_names : names.map
      ((fun item : Datum => ((item.attribute? name).getD .undefined).display) ∘
        fun shown => entity [(name, ofValue shown)]) = names.map (·.display) := by
    refine List.map_congr_left fun shown _ => ?_
    simp only [Function.comp_apply, attribute?, Ordered.get?, ↓reduceIte, Option.getD_some,
      display_ofValue]
  rw [shown_names]
  rfl

end Datum

/-! ## Bodies -/

variable {context scope : Scope} {e : Expression} {body alternative next : Body}
  {shown rest : String}

/-- A body has a text in a scope. -/
def Renders (context scope : Scope) (body : Body) (shown : String) : Prop :=
  Body.render context scope body = .ok shown

namespace Renders

/-- A rendering to a text is one to any text that is equal to it. -/
theorem congr (renders : Renders context scope body shown) (same : shown = rest) :
    Renders context scope body rest := same ▸ renders

/-- The end of a body renders as nothing. -/
theorem done : Renders context scope .done "" := rfl

/-- A text renders as itself. -/
theorem text (s : String) (after : Renders context scope next rest) :
    Renders context scope (.text s next) (s ++ rest) := by
  unfold Renders Body.render
  rw [after]
  rfl

/-- An output renders as the display of its value. -/
theorem output {datum : Datum} (value : e.evaluate scope = .ok datum)
    (after : Renders context scope next rest) :
    Renders context scope (.output e next) (datum.display ++ rest) := by
  unfold Renders Body.render
  rw [value, after]
  rfl

/-- A conditional renders as the branch that its value chooses. -/
theorem cond {datum : Datum} (value : e.evaluate scope = .ok datum)
    (branch : Renders context scope (if datum.truthy then body else alternative) shown)
    (after : Renders context scope next rest) :
    Renders context scope (.cond e body alternative next) (shown ++ rest) := by
  unfold Renders Body.render
  rw [value, after]
  unfold Renders at branch
  cases given : datum.truthy <;> rw [given] at branch
  · simp only [bind, Except.bind, given, Bool.false_eq_true, ↓reduceIte] at branch ⊢
    rw [branch]
    rfl
  · simp only [bind, Except.bind, given, ↓reduceIte] at branch ⊢
    rw [branch]
    rfl

/-- A loop that uses nothing but its variable renders its items one by one. -/
theorem loop {item : String} {items : List α} {datum : α → Datum} {each : α → String}
    (source : e.evaluate scope = .ok (.list (items.map datum)))
    (stateless : body.asksForState = false) (ascii : IsAscii item)
    (only : ∀ name ∈ body.lookups, name = item)
    (passes : ∀ a ∈ items, Renders context ((item, datum a) :: scope) body (each a))
    (after : Renders context scope next rest) :
    Renders context scope (.loop item e body .done next)
      (String.join (items.map each) ++ rest) := by
  let pass (entry : Datum × Nat) : Except TemplateFault String :=
    Body.render context
      (.enter context scope (Body.loopScope item body (items.map datum) entry.1 entry.2)
        body.lookups) body
  have pass_eq (a : α) (index : Nat) (member : a ∈ items) :
      pass (datum a, index) = .ok (each a) := by
    simp only [pass, Body.loopScope, stateless]
    exact (congrArg (fun inner => Body.render context inner body)
      (Scope.enter_single context scope (datum a) ascii only)).trans (passes a member)
  have all : (items.map datum).zipIdx.mapM pass = .ok (items.map each) := by
    have passed : ∀ entry ∈ items.zipIdx,
        (pass ∘ Prod.map datum id) entry = .ok ((each ∘ Prod.fst) entry) :=
      fun entry member => pass_eq entry.1 entry.2 (List.fst_mem_of_mem_zipIdx member)
    rw [List.zipIdx_map, List.mapM_map, mapM_ok_of_forall passed, ← List.map_map,
      List.zipIdx_map_fst]
  unfold Renders Body.render
  rw [source, after]
  cases items with
  | nil => rfl
  | cons a items =>
      simp only [pass, bind, Except.bind, Datum.items?, List.map_cons] at all ⊢
      rw [all]
      rfl

end Renders

/-! ## Expressions -/

/-- A name that a scope begins with stands for its datum. -/
theorem evaluate_name {name : String} {datum : Datum} :
    (Expression.name name).evaluate ((name, datum) :: scope) = .ok datum := by
  simp only [Expression.evaluate, Ordered.get?, ↓reduceIte, Option.getD_some]

/-- A member that is there is what the expression stands for. -/
theorem evaluate_member {name : String} {datum found : Datum}
    (value : e.evaluate scope = .ok datum) (holds : datum.member? name = some found) :
    (Expression.member e name).evaluate scope = .ok found := by
  unfold Expression.evaluate
  rw [value]
  simp only [bind, Except.bind, holds]

/-- The filter lists the names of entities. -/
theorem evaluate_joinNames {names : List Value}
    (value : e.evaluate scope = .ok (.list (names.map fun name =>
      .entity [(defaultAttribute, .ofValue name)]))) :
    (Expression.filter e joinFilter []).evaluate scope =
      .ok (.text (", ".intercalate (names.map (·.display)))) := by
  unfold Expression.evaluate
  rw [value]
  simp only [bind, Except.bind, decide_true, List.length_nil, Nat.zero_le, Bool.and_self,
    ↓reduceIte, List.headD_nil, Datum.joinNames_entities]

/-! ## Templates -/

/-- A template that does not mention itself has the text of its body in the frame of its own. -/
theorem Engine.render_eq {engine : Engine} {name source : String} {body : Body} {context : Context}
    (found : engine.source? name = some source) (compiled : Body.compile source.toList = .ok body)
    (unbound : Scope.binds context selfName = false) (anonymous : body.ownNames = [])
    (ascii : ∀ looked ∈ body.lookups, IsAscii looked)
    (renders : Renders (context ++ commonNames)
      (body.lookups.eraseDups.map fun looked =>
        (looked, (Ordered.get? looked (context ++ commonNames)).getD .undefined)) body shown) :
    engine.render name context = .ok shown := by
  have rendered : body.renderIn context (some name) = .ok shown := by
    unfold Body.renderIn
    rw [if_neg (by rw [unbound]; exact Bool.false_ne_true), anonymous]
    exact (congrArg (fun own => Body.render (context ++ commonNames) own body)
      (Scope.enter_own _ ascii)).trans renders
  have shows : renderSource source (some name) context = .ok shown := by
    rw [renderSource, compiled]
    exact rendered
  rw [Engine.render, Engine.renderWith, found]
  exact mapError_eq_ok_iff.mpr shows

end ElementWrap.Template
