import ElementWrap.Template.Member

/-! # The state of a loop

Inside a loop the name `loop` stands for the pass that the loop is in: its place among the passes,
counted from both ends and from one and from zero, and the items before and after.
-/

namespace ElementWrap.Template

/-- The name that stands for the state of a loop. -/
def loopName : String := "loop"

namespace Datum

/-- What a loop over some items tells of the pass with a given index. At the ends there is no item
before or after. -/
def loopState (items : List Datum) (index : Nat) : Datum :=
  let length := items.length
  let before := if index = 0 then undefined else items[index - 1]?.getD undefined
  let after := items[index + 1]?.getD undefined
  thing ("<LoopContext " ++ toString (index + 1) ++ "/" ++ toString length ++ ">")
    [("index", int (index + 1)), ("index0", int index), ("revindex", int (length - index)),
      ("revindex0", int (length - index - 1)), ("first", bool (index == 0)),
      ("last", bool (index + 1 == length)), ("length", int length), ("depth", int 1),
      ("depth0", int 0), ("previtem", before), ("nextitem", after),
      ("cycle", operation "cycle"), ("changed", operation "changed")]

end Datum

end ElementWrap.Template
