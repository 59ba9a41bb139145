import ElementWrap.Proofs.Lists
import ElementWrap.Proofs.Template.Parts

/-! # Templates that end their last line

What a template renders as is often empty or ends with a line feed, whatever the template is given:
the outputs stand inside lines, and each loop writes whole lines. `ElementWrap.Template.Body.closes`
reads this off the parts of a body, and what it says holds of every rendering
(`ElementWrap.Template.closesLine_render`).
-/

namespace ElementWrap

/-- A text is empty or ends with a line feed, so that what follows it opens a line. -/
def ClosesLine (text : String) : Prop := text = "" ∨ ∃ lines, text = lines ++ "\n"

namespace ClosesLine

variable {first second : String}

private theorem empty : ClosesLine "" := .inl rfl

private theorem append (before : ClosesLine first) (after : ClosesLine second) :
    ClosesLine (first ++ second) := by
  rcases after with rfl | ⟨lines, rfl⟩
  · rwa [String.append_empty]
  · exact .inr ⟨first ++ lines, String.append_assoc.symm⟩

private theorem join {texts : List String} (each : ∀ text ∈ texts, ClosesLine text) :
    ClosesLine (String.join texts) := by
  induction texts with
  | nil => exact .inl String.join_nil
  | cons text rest ih =>
      rw [String.join_cons]
      obtain ⟨head, tail⟩ := List.forall_mem_cons.mp each
      exact head.append (ih tail)

/-- A text that ends with a line feed closes a line behind whatever precedes it. -/
theorem append_of_getLast? (ends : second.toList.getLast? = some '\n') :
    ClosesLine (first ++ second) := by
  obtain ⟨lines, same⟩ := List.getLast?_eq_some_iff.mp ends
  refine .inr ⟨first ++ String.ofList lines, ?_⟩
  rw [← String.toList_inj]
  simp [same]

end ClosesLine

namespace Template

namespace Body

/-- Whether a body's rendering closes a line together with a text before it, `closed` telling
whether that text does so alone. Of a value nothing is known. -/
def closes : (closed : Bool) → Body → Bool
  | closed, done => closed
  | closed, text s next =>
    next.closes (if s = "" then closed else s.toList.getLast? = some '\n')
  | _, output _ next => next.closes false
  | closed, loop _ _ body alternative next =>
    next.closes (closed && body.closes true && alternative.closes true)
  | closed, cond _ body alternative next =>
    next.closes (body.closes closed && alternative.closes closed)

end Body

variable {context scope : Scope} {shown before : String} {closed : Bool}

/-- What a loop writes closes a line if its passes and its alternative do. -/
theorem closesLine_passes {item : String} {body alternative : Body} {items? : Option (List Datum)}
    (written : body.passes context scope item alternative items? = .ok shown)
    (each : ∀ inner text, body.render context inner = .ok text → ClosesLine text)
    (otherwise : ∀ inner text, alternative.render context inner = .ok text → ClosesLine text) :
    ClosesLine shown := by
  match items?, written with
  | some [], written => exact otherwise _ shown written
  | some (first :: others), written =>
      obtain ⟨texts, passed, same⟩ := bind_eq_ok_iff.mp written
      cases same
      refine .join fun text member => ?_
      obtain ⟨entry, _, pass⟩ := exists_mem_of_forall₂ (mapM_eq_ok_iff.mp passed).flip member
      exact each _ text pass

/-- **A body closes its last line** where its parts say so, whatever it is rendered with. -/
theorem closesLine_render (body : Body) (rendered : body.render context scope = .ok shown)
    (opens : closed = true → ClosesLine before) (closes : body.closes closed = true) :
    ClosesLine (before ++ shown) := by
  induction body generalizing scope shown before closed with
  | done =>
      cases rendered
      rw [String.append_empty]
      exact opens closes
  | text s next ih =>
      rw [Body.render_text] at rendered
      obtain ⟨rest, nextRendered, same⟩ := bind_eq_ok_iff.mp rendered
      cases same
      rw [← String.append_assoc]
      refine ih nextRendered (fun kept => ?_) closes
      split at kept
      · next none =>
          rw [none, String.append_empty]
          exact opens kept
      · exact .append_of_getLast? (of_decide_eq_true kept)
  | output value next ih =>
      rw [Body.render_output] at rendered
      obtain ⟨datum, _, rendered⟩ := bind_eq_ok_iff.mp rendered
      obtain ⟨rest, nextRendered, same⟩ := bind_eq_ok_iff.mp rendered
      cases same
      rw [← String.append_assoc]
      exact ih nextRendered (fun never : false = true => nomatch never) closes
  | loop item items body alternative next bodyIh alternativeIh nextIh =>
      rw [Body.render_loop] at rendered
      obtain ⟨datum, _, rendered⟩ := bind_eq_ok_iff.mp rendered
      obtain ⟨written, passed, rendered⟩ := bind_eq_ok_iff.mp rendered
      obtain ⟨rest, nextRendered, same⟩ := bind_eq_ok_iff.mp rendered
      cases same
      rw [← String.append_assoc]
      refine nextIh nextRendered (fun all => ?_) closes
      obtain ⟨both, alternativeCloses⟩ := Bool.and_eq_true_iff.mp all
      obtain ⟨kept, bodyCloses⟩ := Bool.and_eq_true_iff.mp both
      -- Every pass starts behind a closed line, so that the body may be taken alone.
      refine (opens kept).append (closesLine_passes passed (fun inner text ran => ?_)
        fun inner text ran => ?_)
      · simpa only [String.empty_append] using bodyIh ran (fun _ => ClosesLine.empty) bodyCloses
      · simpa only [String.empty_append] using
          alternativeIh ran (fun _ => ClosesLine.empty) alternativeCloses
  | cond condition body alternative next bodyIh alternativeIh nextIh =>
      rw [Body.render_cond] at rendered
      obtain ⟨datum, _, rendered⟩ := bind_eq_ok_iff.mp rendered
      obtain ⟨written, branchRendered, rendered⟩ := bind_eq_ok_iff.mp rendered
      obtain ⟨rest, nextRendered, same⟩ := bind_eq_ok_iff.mp rendered
      cases same
      rw [← String.append_assoc]
      refine nextIh nextRendered (fun both => ?_) closes
      obtain ⟨bodyCloses, alternativeCloses⟩ := Bool.and_eq_true_iff.mp both
      split at branchRendered
      · exact bodyIh branchRendered opens bodyCloses
      · exact alternativeIh branchRendered opens alternativeCloses

/-- A template whose body closes its last line gives whole lines in every context. -/
theorem Engine.closesLine_render {engine : Engine} {name source : String} {body : Body}
    (found : engine.source? name = some source) (compiled : Body.compile source.toList = .ok body)
    (closes : body.closes true = true) (rendered : engine.render name context = .ok shown) :
    ClosesLine shown := by
  have written : body.renderIn context (some name) = .ok shown := by
    rw [Engine.render, Engine.renderWith, found] at rendered
    have shows : renderSource source (some name) context = .ok shown :=
      mapError_eq_ok_iff.mp rendered
    rwa [renderSource, compiled] at shows
  unfold Body.renderIn at written
  split at written
  · exact nomatch written
  · have closed := Template.closesLine_render body written (fun _ => .empty) closes
    rwa [String.empty_append] at closed

end Template
end ElementWrap
