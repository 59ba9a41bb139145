import ElementWrap.Text.CodePoint

/-! # Escapes

A backslash in a quoted text opens an escape: a letter for a control character, up to three octal
digits, or a code point behind `x`, `u` or `U`. A backslash before any other character stands for
itself, and a line feed behind it disappears with it.
-/

namespace ElementWrap.Text.Escape

/-- The character that an escape of one letter stands for. -/
def letter? : Char → Option Char
  | '\\' => some '\\'
  | '\'' => some '\''
  | '"' => some '"'
  | 'a' => some (Char.ofNat 7)
  | 'b' => some (Char.ofNat 8)
  | 't' => some '\t'
  | 'n' => some '\n'
  | 'v' => some (Char.ofNat 11)
  | 'f' => some (Char.ofNat 12)
  | 'r' => some '\r'
  | _ => none

/-- The number of digits behind the letter of an escape by code point. -/
def digitCount? : Char → Option Nat
  | 'x' => some 2
  | 'u' => some 4
  | 'U' => some 8
  | _ => none

/-- A digit below eight. -/
def isOctal (c : Char) : Bool := '0' ≤ c && c ≤ '7'

/-- The number that octal digits write. -/
def octalNumber (digits : List Char) : Nat :=
  digits.foldl (fun value c => value * 8 + (c.toNat - '0'.toNat)) 0

/-- Reads the escape behind a backslash: what it stands for, and how many characters after the first
one belong to it. A name in braces is not known. -/
def read? (c : Char) (rest : List Char) : Option (List Char × Nat) :=
  match digitCount? c with
  | some count =>
    if rest.length < count then none
    else do
      let code ← hexNumber? (rest.take count)
      if code < 0x110000 then some ([character code], count) else none
  | none =>
    if isOctal c then
      let digits := c :: (rest.take 2).takeWhile isOctal
      some ([character (octalNumber digits)], digits.length - 1)
    else if c = '\n' then some ([], 0)
    else if c = 'N' then none
    else
      match letter? c with
      | some d => some ([d], 0)
      | none => some (['\\', c], 0)

/-- The text that a text with escapes stands for. -/
def decode? : List Char → Option (List Char)
  | [] => some []
  | '\\' :: c :: rest => do
    let (shown, length) ← read? c rest
    return shown ++ (← decode? (rest.drop length))
  | c :: rest => (decode? rest).map (c :: ·)
termination_by cs => cs.length
decreasing_by all_goals simp; try omega

/-- A text whose characters beyond ASCII are written by their code points. -/
def spell (cs : List Char) : List Char :=
  cs.flatMap fun c => if c.toNat < 0x80 then [c] else escapedCode c

end ElementWrap.Text.Escape
