import ElementWrap.Analysis.Document
import ElementWrap.Proofs.Lists
import ElementWrap.Proofs.Value.Access
import Mathlib.Data.List.Lex

/-! # The features of a document in order

The scopes of a document make up a tree. Its features are collected from a list of pending scopes,
and what comes out is the pre-order of the tree: the features of a scope, then those of its
namespaces, one namespace after the other (`ElementWrap.Analysis.collect_eq`). As every feature has
a place, given by the way that leads to its scope, this says that each occurrence of a feature is
met once and in the order of the places (`ElementWrap.Analysis.exists_isListing`).
-/

namespace ElementWrap.Analysis

/-! ## Scopes -/

/-- A scope as analyses have it: it lists its features, each of which is fit, and the namespaces
within it are scopes of the same kind. -/
inductive IsScope (key : String) (Fit : Value → Prop) : Value → Prop
  | intro {scope : Value} {own inner : List Value} (features : scope.Lists key own)
    (fit : ∀ feature ∈ own, Fit feature) (namespaces : scope.Lists "namespaces" inner)
    (scopes : ∀ other ∈ inner, IsScope key Fit other) : IsScope key Fit scope

private theorem sizeOf_lt_of_mem_listed {scope item : Value} {name : String}
    (member : item ∈ scope.listed name) : sizeOf item < sizeOf scope := by
  unfold Value.listed Value.part at member
  split at member
  · next items found =>
      cases scope with
      | object fields =>
          cases held : Ordered.get? name fields with
          | none => exact nomatch (congrArg (·.getD .null) held).symm.trans found
          | some value =>
              obtain rfl : value = .list items := (congrArg (·.getD .null) held).symm.trans found
              have inside := List.sizeOf_lt_of_mem member
              have below := sizeOf_get?_lt held
              simp only [Value.list.sizeOf_spec, Value.object.sizeOf_spec] at below ⊢
              omega
      | _ => exact nomatch found
  · exact absurd member List.not_mem_nil

/-- The features of a scope in pre-order: its own, then those of each of its namespaces. -/
def preorder (key : String) (scope : Value) : List Value :=
  scope.listed key ++
    (scope.listed "namespaces").attach.flatMap fun inner => preorder key inner.val
termination_by sizeOf scope
decreasing_by exact sizeOf_lt_of_mem_listed inner.property

private theorem preorder_eq (key : String) (scope : Value) :
    preorder key scope =
      scope.listed key ++ (scope.listed "namespaces").flatMap (preorder key) := by
  rw [preorder, List.flatMap_subtype (fun _ _ => rfl), List.unattach_attach]

/-- Every feature of a well-formed scope is fit. -/
theorem fit_of_mem_preorder {key : String} {Fit : Value → Prop} {scope feature : Value}
    (isScope : IsScope key Fit scope) (member : feature ∈ preorder key scope) : Fit feature := by
  induction isScope with
  | intro features fit namespaces _ ih =>
      rw [preorder_eq, features.listed_eq, namespaces.listed_eq, List.mem_append] at member
      rcases member with own | within
      · exact fit feature own
      · obtain ⟨inner, present, below⟩ := List.mem_flatMap.mp within
        exact ih inner present below

/-! ## Collecting -/

private theorem subscopes_eq {scope : Value} {inner : List Value}
    (namespaces : scope.Lists "namespaces" inner) :
    ∃ found, subscopes scope = .ok found ∧ found.val = inner := by
  obtain ⟨fields, rfl⟩ := namespaces.isObject
  dsimp only [subscopes]
  cases namespaces with
  | unset _ blank =>
      dsimp only [Value.part] at blank
      split
      · exact ⟨_, rfl, rfl⟩
      · next items found =>
          rw [found] at blank
          obtain rfl : items = [] := by simpa [Value.truthy] using blank
          exact ⟨_, rfl, rfl⟩
      · next other _ found =>
          rw [found] at blank
          have ignored : (!other.truthy) = true := congrArg not blank
          rw [if_pos ignored]
          exact ⟨_, rfl, rfl⟩
  | listed _ held =>
      dsimp only [Value.part] at held
      split
      · next found =>
          rw [found] at held
          exact Value.noConfusion held
      · next items found =>
          rw [found] at held
          cases held
          exact ⟨_, rfl, rfl⟩
      · next other unlisted found =>
          rw [found] at held
          exact absurd held (unlisted inner)

/-- A scope at the head of the pending ones gives its own features, and its namespaces take its
place. -/
theorem collect_cons {key : String} {scope : Value} {own inner rest : List Value}
    (features : scope.Lists key own) (namespaces : scope.Lists "namespaces" inner) :
    collect key (scope :: rest) = (collect key (inner ++ rest)).map (own ++ ·) := by
  obtain ⟨found, within, rfl⟩ := subscopes_eq namespaces
  rw [collect, features.isObject.field, within]
  simp only [bind, Except.bind, features.itemsOrNone_eq]
  rfl

/-- The features of the pending scopes are those of one scope after the other. -/
theorem collect_eq {key : String} {Fit : Value → Prop} {pending : List Value}
    (scopes : ∀ scope ∈ pending, IsScope key Fit scope) :
    collect key pending = .ok (pending.flatMap (preorder key)) := by
  induction pending using collect.induct with
  | case1 => rw [collect, List.flatMap_nil]
  | case2 scope rest ih =>
      obtain ⟨isScope, others⟩ := List.forall_mem_cons.mp scopes
      cases isScope with
      | @intro _ own inner features _ namespaces within =>
          obtain ⟨found, _, rfl⟩ := subscopes_eq namespaces
          have all : ∀ other ∈ found.val ++ rest, IsScope key Fit other :=
            List.forall_mem_append.mpr ⟨within, others⟩
          rw [collect_cons features namespaces, ih found.val found.property all,
            List.flatMap_cons, preorder_eq, features.listed_eq, namespaces.listed_eq,
            List.flatMap_append, List.append_assoc]
          rfl

/-! ## Places -/

/-- Where a feature stands: the steps from namespace to namespace that lead to its scope, and its
index among the features of this scope. -/
abbrev Place := List Nat × Nat

namespace Place

/-- The order of the places in a document: a scope comes before the namespaces within it, and a
namespace comes, with all within it, before those behind it. -/
def Before : Place → Place → Prop := Prod.Lex (List.Lex (· < ·)) (· < ·)

/-- The same place, seen from the scope that holds its namespace. -/
def below (step : Nat) (place : Place) : Place := (step :: place.1, place.2)

private theorem Before.below {place other : Place} (before : place.Before other) (step : Nat) :
    (place.below step).Before (other.below step) := by
  cases before with
  | left _ _ earlier => exact .left _ _ (.cons earlier)
  | right _ earlier => exact .right _ earlier

private theorem before_of_lt {step later : Nat} (earlier : step < later) (place other : Place) :
    (place.below step).Before (other.below later) := .left _ _ (.rel earlier)

/-- What comes before something is somewhere else. -/
theorem Before.ne {place other : Place} (before : place.Before other) : place ≠ other := by
  rintro rfl
  cases before with
  | left _ _ earlier => exact List.Lex.to_ne (earlier.imp (fun _ _ => Nat.ne_of_lt)) rfl
  | right _ earlier => exact Nat.lt_irrefl _ earlier

end Place

/-- The scope that steps from namespace to namespace lead to. -/
def scopeAt : (scope : Value) → (path : List Nat) → Option Value
  | scope, [] => some scope
  | scope, step :: path =>
    (scope.listed "namespaces")[step]?.bind fun inner => scopeAt inner path

/-- The feature at a place of a scope. -/
def featureAt (key : String) (scope : Value) (place : Place) : Option Value :=
  (scopeAt scope place.1).bind fun inner => (inner.listed key)[place.2]?

private theorem featureAt_below (key : String) (scope : Value) (step : Nat) (place : Place) :
    featureAt key scope (place.below step) =
      (scope.listed "namespaces")[step]?.bind fun inner => featureAt key inner place :=
  Option.bind_assoc _ _ _

/-- Features with their places make up the listing of a scope: they are ordered by place, they are
the features that stand at some place, and without the places they are the pre-order. -/
structure IsListing (key : String) (scope : Value) (located : List (Place × Value)) : Prop where
  ordered : located.Pairwise fun a b => a.1.Before b.1
  complete : ∀ place feature,
    (place, feature) ∈ located ↔ featureAt key scope place = some feature
  features : located.map Prod.snd = preorder key scope

/-- The own features of a scope with their places, then those of its namespaces. -/
def listing (key : String) (scope : Value) (inner : Value → List (Place × Value)) :
    List (Place × Value) :=
  (scope.listed key).zipIdx.map (fun (feature, index) => (([], index), feature)) ++
    (scope.listed "namespaces").zipIdx.flatMap fun (other, step) =>
      (inner other).map fun (place, feature) => (place.below step, feature)

section Listing

variable {key : String} {scope : Value} {inner : Value → List (Place × Value)}
  (within : ∀ other ∈ scope.listed "namespaces", IsListing key other (inner other))

include within

private theorem pairwise_listing :
    (listing key scope inner).Pairwise fun a b => a.1.Before b.1 := by
  unfold listing
  rw [List.pairwise_append]
  refine ⟨?_, ?_, ?_⟩
  · rw [List.pairwise_map]
    exact (pairwise_zipIdx _ 0).imp fun earlier => .right _ earlier
  · rw [List.pairwise_flatMap]
    constructor
    · rintro ⟨other, step⟩ member
      rw [List.pairwise_map]
      exact (within other (List.fst_mem_of_mem_zipIdx member)).ordered.imp fun before =>
        before.below step
    · refine (pairwise_zipIdx _ 0).imp fun earlier => ?_
      intro a first b second
      obtain ⟨_, _, rfl⟩ := List.mem_map.mp first
      obtain ⟨_, _, rfl⟩ := List.mem_map.mp second
      exact Place.before_of_lt earlier _ _
  · intro a first b second
    obtain ⟨_, _, rfl⟩ := List.mem_map.mp first
    obtain ⟨_, _, later⟩ := List.mem_flatMap.mp second
    obtain ⟨_, _, rfl⟩ := List.mem_map.mp later
    exact .left _ _ .nil

private theorem mem_listing_iff (place : Place) (feature : Value) :
    (place, feature) ∈ listing key scope inner ↔ featureAt key scope place = some feature := by
  obtain ⟨path, index⟩ := place
  unfold listing
  rw [List.mem_append, List.mem_map, List.mem_flatMap]
  cases path with
  | nil =>
      constructor
      · rintro (⟨⟨_, _⟩, own, same⟩ | ⟨_, _, further⟩)
        · cases same
          exact List.mem_zipIdx_iff_getElem?.mp own
        · obtain ⟨_, _, same⟩ := List.mem_map.mp further
          exact nomatch same
      · intro own
        exact .inl ⟨(feature, index), List.mem_zipIdx_iff_getElem?.mpr own, rfl⟩
  | cons step path =>
      have lower := featureAt_below key scope step (path, index)
      rw [Place.below] at lower
      rw [lower, Option.bind_eq_some_iff]
      constructor
      · rintro (⟨_, _, same⟩ | ⟨⟨other, _⟩, present, further⟩)
        · exact nomatch same
        · obtain ⟨⟨_, _⟩, inside, same⟩ := List.mem_map.mp further
          cases same
          exact ⟨other, List.mem_zipIdx_iff_getElem?.mp present,
            ((within other (List.fst_mem_of_mem_zipIdx present)).complete _ _).mp inside⟩
      · rintro ⟨other, present, there⟩
        have inside := ((within other (List.mem_of_getElem? present)).complete _ _).mpr there
        exact .inr ⟨(other, step), List.mem_zipIdx_iff_getElem?.mpr present,
          List.mem_map.mpr ⟨_, inside, rfl⟩⟩

private theorem map_snd_listing : (listing key scope inner).map Prod.snd = preorder key scope := by
  have inner_eq : (scope.listed "namespaces").zipIdx.flatMap
      (fun entry => (inner entry.1).map Prod.snd) =
        (scope.listed "namespaces").flatMap (preorder key) := by
    calc
      _ = ((scope.listed "namespaces").zipIdx.map Prod.fst).flatMap
          fun other => (inner other).map Prod.snd := (List.flatMap_map _ _ _).symm
      _ = _ := by
        rw [List.zipIdx_map_fst]
        exact List.flatMap_congr fun other member => (within other member).features
  unfold listing
  rw [preorder_eq, List.map_append, List.map_map, List.map_flatMap, ← inner_eq]
  simp only [List.map_map]
  exact congrArg (· ++ _) (List.zipIdx_map_fst 0 (scope.listed key))

private theorem isListing_listing : IsListing key scope (listing key scope inner) :=
  ⟨pairwise_listing within, mem_listing_iff within, map_snd_listing within⟩

end Listing

/-- Every scope has a listing. -/
theorem exists_isListing (key : String) (scope : Value) :
    ∃ located, IsListing key scope located := by
  have within (other : Value) (member : other ∈ scope.listed "namespaces") :
      ∃ located, IsListing key other located := exists_isListing key other
  choose! inner listings using within
  exact ⟨listing key scope inner, isListing_listing listings⟩
termination_by sizeOf scope
decreasing_by exact sizeOf_lt_of_mem_listed member

/-! ## Features of a kind -/

/-- The features of the kind that has a name, those with an identifier alone if one is given. -/
def request (analysis : Analysis) (name identifier : Value) : Except Fault (List Value) := do
  analysis.features (← FeatureKind.ofName name) identifier

/-- Without an identifier all features are found, in pre-order. -/
theorem features_null {analysis : Analysis} {kind : FeatureKind} {Fit : Value → Prop}
    (isScope : IsScope kind.key Fit analysis.document) :
    analysis.features kind .null = .ok (preorder kind.key analysis.document) := by
  unfold features
  rw [collect_eq (List.forall_mem_singleton.mpr isScope), List.flatMap_singleton]
  rfl

/-- With an identifier those features are found that have it. -/
theorem features_identified {analysis : Analysis} {kind : FeatureKind} {Fit : Value → Prop}
    (isScope : IsScope kind.key Fit analysis.document)
    (objects : ∀ feature, Fit feature → feature.IsObject) {identifier : Value}
    (given : identifier ≠ .null) :
    analysis.features kind identifier = .ok ((preorder kind.key analysis.document).filter
      fun feature => (feature.part kind.identifier).equal identifier) := by
  have filtered : ((preorder kind.key analysis.document).filterM fun feature => do
      return (← feature.field kind.identifier).equal identifier) =
        Except.ok ((preorder kind.key analysis.document).filter
          fun feature => (feature.part kind.identifier).equal identifier) :=
    filterM_ok_of_forall fun feature member => by
      rw [(objects feature (fit_of_mem_preorder isScope member)).field]
      rfl
  unfold features
  rw [collect_eq (List.forall_mem_singleton.mpr isScope), List.flatMap_singleton]
  cases identifier with
  | null => exact absurd rfl given
  | _ => exact filtered

/-- **The features of a document are met in pre-order.** In a document of scopes that list objects,
the features of a supported kind are those of the scopes in pre-order, each occurrence once, and
those with an identifier are the ones among them whose identifier equals it. -/
theorem request_preorder {analysis : Analysis} {kind : FeatureKind}
    (supported : kind ∈ [FeatureKind.element, FeatureKind.mixin])
    (isScope : IsScope kind.key Value.IsObject analysis.document) :
    analysis.request (.text kind.name) .null = .ok (preorder kind.key analysis.document) ∧
    (∀ identifier, identifier ≠ .null →
      analysis.request (.text kind.name) identifier =
        .ok ((preorder kind.key analysis.document).filter fun feature =>
          (feature.part kind.identifier).equal identifier)) ∧
    ∃ located, IsListing kind.key analysis.document located := by
  have named : FeatureKind.ofName (.text kind.name) = .ok kind := by
    rcases List.mem_pair.mp supported with rfl | rfl
    · rfl
    · rfl
  unfold request
  rw [named]
  exact ⟨features_null isScope,
    fun _ given => features_identified isScope (fun _ => id) given, exists_isListing _ _⟩

/-- The record of an element with a tag name. -/
def tagged (name : String) : Value := .object [("tagName", .text name)]

/-- A record without a tag name. -/
def untagged : Value := .object []

/-- An analysis of three scopes inside one another and a fourth beside them. -/
def nestedAnalysis : Analysis :=
  ⟨[("elements", .list [tagged "x-c"]),
    ("namespaces", .list [
      .object [("elements", .null),
        ("namespaces", .list [.object [("elements", .list [tagged "x-b", tagged "x-a"])]])],
      .object [("elements", .list [untagged, tagged "x-a"]), ("namespaces", .list [])]])]⟩

/-- The sample is a well-formed scope, however its elements are called. -/
theorem isScope_nestedAnalysis {Fit : Value → Prop} (fit : ∀ name, Fit (tagged name))
    (bare : Fit untagged) : IsScope "elements" Fit nestedAnalysis.document := by
  have object (fields : List (String × Value)) : (Value.object fields).IsObject := ⟨fields, rfl⟩
  have leaf {scope : Value} {own : List Value} (features : scope.Lists "elements" own)
      (fits : ∀ feature ∈ own, Fit feature) (alone : scope.Lists "namespaces" []) :
      IsScope "elements" Fit scope :=
    .intro features fits alone fun _ member => absurd member List.not_mem_nil
  have innermost : IsScope "elements" Fit
      (.object [("elements", .list [tagged "x-b", tagged "x-a"])]) :=
    leaf (.listed (object _) rfl) (by simp [fit]) (.unset (object _) rfl)
  have outer : IsScope "elements" Fit (.object [("elements", .null),
      ("namespaces", .list [.object [("elements", .list [tagged "x-b", tagged "x-a"])]])]) :=
    .intro (.unset (object _) rfl) (fun _ member => absurd member List.not_mem_nil)
      (.listed (object _) rfl) (List.forall_mem_singleton.mpr innermost)
  have beside : IsScope "elements" Fit
      (.object [("elements", .list [untagged, tagged "x-a"]), ("namespaces", .list [])]) :=
    leaf (.listed (object _) rfl) (by simp [fit, bare]) (.unset (object _) rfl)
  exact .intro (.listed (object _) rfl) (by simp [fit]) (.listed (object _) rfl)
    (List.forall_mem_cons.mpr ⟨outer, List.forall_mem_singleton.mpr beside⟩)

/-- The elements of the sample in pre-order. -/
theorem preorder_nestedAnalysis :
    preorder "elements" nestedAnalysis.document =
      [tagged "x-c", tagged "x-b", tagged "x-a", untagged, tagged "x-a"] := by
  simp [preorder_eq, nestedAnalysis, document, Value.listed, Value.part, Ordered.get?]

/-- In the nested analysis the elements of the innermost scope are met before those beside it. -/
theorem request_preorder_nested :
    nestedAnalysis.request (.text "element") .null =
        .ok [tagged "x-c", tagged "x-b", tagged "x-a", untagged, tagged "x-a"] ∧
      nestedAnalysis.request (.text "element") (.text "x-a") =
        .ok [tagged "x-a", tagged "x-a"] ∧
      featureAt "elements" nestedAnalysis.document ([0, 0], 1) = some (tagged "x-a") := by
  have isScope : IsScope "elements" Value.IsObject nestedAnalysis.document :=
    isScope_nestedAnalysis (fun name => ⟨_, rfl⟩) ⟨_, rfl⟩
  have supported : FeatureKind.element ∈ [FeatureKind.element, FeatureKind.mixin] :=
    List.mem_cons_self
  have met : preorder FeatureKind.element.key nestedAnalysis.document = _ :=
    preorder_nestedAnalysis
  obtain ⟨all, identified, _⟩ := request_preorder supported isScope
  have chosen := identified (.text "x-a") Value.noConfusion
  rw [met] at all chosen
  exact ⟨all, chosen, rfl⟩

end ElementWrap.Analysis
