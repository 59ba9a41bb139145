import ElementWrap.Text.Case

/-! # Paths

A path is read from text: steps are divided by slashes, empty steps and single dots collapse, and
double dots stay. It starts at a root or at the working directory; exactly two leading slashes are a
root of their own. A path that starts at a root replaces what it is joined to.
-/

namespace ElementWrap.Files

/-- Where a path starts. -/
inductive Anchor
  | relative
  | root
  | doubleRoot
  deriving DecidableEq, Repr

/-- A path: where it starts and its steps, outermost first. -/
structure Path where
  anchor : Anchor := .relative
  steps : List String := []
  deriving DecidableEq, Repr

namespace Path

/-- The steps of a text, empty ones and single dots left out. -/
def stepsOf (cs : List Char) : List String :=
  ((cs.splitOn '/').filter fun step => !(step.isEmpty || step == ['.'])).map String.ofList

/-- The path that a text writes. -/
def ofString (s : String) : Path :=
  let slashes := (s.toList.takeWhile (· == '/')).length
  let anchor :=
    if slashes = 0 then Anchor.relative
    else if slashes = 2 then Anchor.doubleRoot
    else Anchor.root
  ⟨anchor, stepsOf s.toList⟩

/-- The text of a path. -/
def toString (path : Path) : String :=
  let steps := "/".intercalate path.steps
  match path.anchor with
  | .relative => if path.steps.isEmpty then "." else steps
  | .root => "/" ++ steps
  | .doubleRoot => "//" ++ steps

instance : ToString Path := ⟨toString⟩

/-- The second path, seen from the first. -/
def join (base path : Path) : Path :=
  match path.anchor with
  | .relative => { base with steps := base.steps ++ path.steps }
  | _ => path

/-- The path without its last step. -/
def parent (path : Path) : Path := { path with steps := path.steps.dropLast }

/-- The last step. -/
def name (path : Path) : String := path.steps.getLast?.getD ""

/-- The part of the last step from its last dot on, unless that dot opens or ends the step. -/
def suffix (path : Path) : List Char :=
  let name := path.name.toList
  let after := (name.reverse.takeWhile (· ≠ '.')).length
  let before := name.length - after - 1
  if after = 0 || name.length ≤ after || before = 0 then [] else name.drop before

/-- The last step ends in `.json`, in any case. -/
def isJson (path : Path) : Bool := Text.lower path.suffix == ".json".toList

end Path

end ElementWrap.Files
