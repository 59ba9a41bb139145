import ElementWrap.Text.CaseTable

/-! # Upper and lower case over all of Unicode

A character's upper case is a list, since some characters grow. The lower case of a text is that of
its characters one by one, the capital sigma excepted: at a word's end it takes the final form.
-/

namespace ElementWrap.Text

/-- A code point lies in one of the ranges, ends included. -/
def inRanges (ranges : List (Nat × Nat)) (code : Nat) : Bool :=
  ranges.any fun range => range.1 ≤ code && code ≤ range.2

/-- The image of a character under the first span that covers it, itself if none does. -/
def shiftBy (spans : List CaseSpan) (c : Char) : Char :=
  match spans.find? (·.covers c.toNat) with
  | some span => Char.ofNat (span.image c.toNat)
  | none => c

/-- The upper case of a character. -/
def upperChar (c : Char) : List Char :=
  match upperExpansions.lookup c.toNat with
  | some codes => codes.map Char.ofNat
  | none => [shiftBy upperSpans c]

/-- The lower case of a character that stands alone. The dotted capital I keeps its dot. -/
def lowerChar (c : Char) : List Char :=
  if c = 'İ' then ['i', Char.ofNat 0x307] else [shiftBy lowerSpans c]

/-- A character that the search for a word's end passes over. -/
def isIgnorable (c : Char) : Bool := inRanges ignorableRanges c.toNat

/-- A cased character that the search for a word's end stops at. -/
def isCased (c : Char) : Bool := inRanges casedRanges c.toNat

/-- The first character that is not passed over is cased. -/
def startsCased (cs : List Char) : Bool :=
  match cs.dropWhile isIgnorable with
  | [] => false
  | c :: _ => isCased c

/-- Lower case of the rest of a text, `inWord` telling whether what precedes it ends in a cased
character, those passed over aside. -/
def lowerFrom (inWord : Bool) : List Char → List Char
  | [] => []
  | c :: rest =>
    let image :=
      if c = 'Σ' then [if inWord && !startsCased rest then 'ς' else 'σ'] else lowerChar c
    image ++ lowerFrom (if isIgnorable c then inWord else isCased c) rest

/-- The lower case of a text. -/
def lower (cs : List Char) : List Char := lowerFrom false cs

/-- The text with the upper case of its first character in front. -/
def upperFirst : List Char → List Char
  | [] => []
  | c :: rest => upperChar c ++ rest

end ElementWrap.Text
