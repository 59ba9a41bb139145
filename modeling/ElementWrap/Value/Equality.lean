import ElementWrap.Value.Basic

/-! # Equality of values

Numbers of different kinds are equal if they have one value, and a truth value is the number one or
zero. Objects are equal if they have the same names with equal values, in any order. Not-a-number
differs from itself, yet as the member of a container or as a key it is the same object as itself.
-/

namespace ElementWrap.Value

/-- The integer that a truth value or an integer stands for. -/
def integer? : Value → Option Int
  | bool b => some (if b then 1 else 0)
  | int n => some n
  | _ => none

/-- The value is the given integer. -/
def sameInteger (n : Int) : Value → Bool
  | real x => x.equalInt n
  | other => other.integer? == some n

mutual

/-- The two values are one as keys of a dictionary and as members of containers. -/
def same : Value → Value → Bool
  | null, other => match other with
    | null => true
    | _ => false
  | text s, other => match other with
    | text t => s == t
    | _ => false
  | bool b, other => sameInteger (if b then 1 else 0) other
  | int n, other => sameInteger n other
  | real x, other => match other with
    | real y => (x == .nan && y == .nan) || x.equal y
    | other => match other.integer? with
      | some n => x.equalInt n
      | none => false
  | list items, other => match other with
    | list others => sameList items others
    | _ => false
  | object fields, other => match other with
    | object others => fields.length == others.length && sameFields fields others
    | _ => false

/-- The two lists have the same members in the same order. -/
def sameList : List Value → List Value → Bool
  | [], [] => true
  | x :: xs, y :: ys => same x y && sameList xs ys
  | _, _ => false

/-- Every field has a counterpart of its name and value. -/
def sameFields : List (String × Value) → List (String × Value) → Bool
  | [], _ => true
  | (name, value) :: rest, others =>
    (match Ordered.get? name others with
      | some other => same value other
      | none => false) && sameFields rest others

end

/-- The two values are equal. -/
def equal : Value → Value → Bool
  | real .nan, _ => false
  | _, real .nan => false
  | x, y => same x y

end ElementWrap.Value
