import ElementWrap.Proofs.Running
import ElementWrap.Template.Engine

/-! # The parts of a rendering

A loop or a conditional renders as what it writes itself, followed by what comes next. What it
writes depends on the value that it asks for: a conditional writes one of its two bodies, a loop its
body once for each item, or its alternative if there are none.
-/

namespace ElementWrap.Template.Body

/-- What one pass of a loop writes: the body in a frame that knows the item and the pass. -/
def pass (context scope : Scope) (item : String) (body : Body) (data : List Datum)
    (entry : Datum × Nat) : Except TemplateFault String :=
  body.render context
    (.enter context scope (loopScope item body data entry.1 entry.2) body.lookups)

/-- What a loop over some items writes; where there are none to go through, the rendering fails. -/
def passes (context scope : Scope) (item : String) (body alternative : Body) :
    Option (List Datum) → Except TemplateFault String
  | none => .error .evaluation
  | some [] => alternative.render context (.enter context scope [] alternative.lookups)
  | some data => data.zipIdx.mapM (pass context scope item body data) >>= fun texts =>
      .ok (String.join texts)

variable {context scope : Scope} {body alternative next : Body}

/-- How a loop is rendered, part by part. -/
theorem render_loop {item : String} {items : Expression} :
    render context scope (.loop item items body alternative next) =
      items.evaluate scope >>= fun datum =>
        passes context scope item body alternative datum.items? >>= fun shown =>
          next.render context scope >>= fun rest => .ok (shown ++ rest) := by
  conv_lhs => unfold render
  refine congrArg (items.evaluate scope >>= ·) (funext fun datum => ?_)
  match datum.items? with
  | none => rfl
  | some [] => rfl
  | some (first :: others) =>
      simp only [passes, bind_assoc]
      rfl

/-- How a conditional is rendered, part by part. -/
theorem render_cond {condition : Expression} :
    render context scope (.cond condition body alternative next) =
      condition.evaluate scope >>= fun datum =>
        (if datum.truthy then body else alternative).render context scope >>= fun shown =>
          next.render context scope >>= fun rest => .ok (shown ++ rest) := by
  conv_lhs => unfold render
  refine congrArg (condition.evaluate scope >>= ·) (funext fun datum => ?_)
  cases datum.truthy <;> rfl

/-- How an output is rendered, with what comes behind it. -/
theorem render_output {value : Expression} :
    render context scope (.output value next) =
      value.evaluate scope >>= fun datum =>
        next.render context scope >>= fun rest => .ok (datum.display ++ rest) := by
  conv_lhs => unfold render
  rfl

/-- How a text is rendered, with what comes behind it. -/
theorem render_text {s : String} :
    render context scope (.text s next) =
      next.render context scope >>= fun rest => .ok (s ++ rest) := by
  conv_lhs => unfold render
  rfl

end ElementWrap.Template.Body
