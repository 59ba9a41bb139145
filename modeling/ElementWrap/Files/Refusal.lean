/-! # Why a file operation is refused

The causes that the file operations of this library can meet, with the number and the wording that
the operating system gives them.
-/

namespace ElementWrap.Files

/-- A reason of the operating system. -/
inductive Refusal
  | missing
  | alreadyThere
  | notDirectory
  | isDirectory
  | nameTooLong
  deriving DecidableEq, Repr

namespace Refusal

/-- The number of a reason. -/
def number : Refusal → Nat
  | missing => 2
  | alreadyThere => 17
  | notDirectory => 20
  | isDirectory => 21
  | nameTooLong => 36

/-- The wording of a reason. -/
def description : Refusal → String
  | missing => "No such file or directory"
  | alreadyThere => "File exists"
  | notDirectory => "Not a directory"
  | isDirectory => "Is a directory"
  | nameTooLong => "File name too long"

end Refusal

end ElementWrap.Files
