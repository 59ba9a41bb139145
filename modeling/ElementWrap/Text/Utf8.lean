import ElementWrap.Text.CodePoint

/-! # Texts as bytes in UTF-8

A text is encoded character by character; a surrogate that stands alone has no encoding. The way
back is a decoder that either returns the characters or says where the first ill-formed sequence
stands and what is wrong with it: its first byte opens no sequence, one of its further bytes
continues none, or the bytes end too soon.
-/

namespace ElementWrap.Text.Utf8

/-- What is wrong with an ill-formed sequence. -/
inductive Defect
  | badStart
  | badContinuation
  | truncated
  deriving DecidableEq, Repr

/-- An ill-formed sequence: its offset, its first byte, its length and what is wrong. -/
structure Malformed where
  offset : Nat
  byte : UInt8
  length : Nat
  defect : Defect
  deriving DecidableEq, Repr

/-- The wording of a defect. -/
def Defect.message : Defect → String
  | .badStart => "invalid start byte"
  | .badContinuation => "invalid continuation byte"
  | .truncated => "unexpected end of data"

/-- The smallest and the largest second byte after a given first one, so that no character has two
forms and none is a surrogate or beyond the last code point. -/
def secondRange (first : UInt8) : UInt8 × UInt8 :=
  if first = 0xE0 then (0xA0, 0xBF)
  else if first = 0xED then (0x80, 0x9F)
  else if first = 0xF0 then (0x90, 0xBF)
  else if first = 0xF4 then (0x80, 0x8F)
  else (0x80, 0xBF)

/-- The number of bytes that follow a first byte, if it opens a sequence. -/
def tailLength (first : UInt8) : Option Nat :=
  if first < 0x80 then some 0
  else if first < 0xC2 then none
  else if first < 0xE0 then some 1
  else if first < 0xF0 then some 2
  else if first < 0xF5 then some 3
  else none

/-- The part of the code point that a first byte carries. -/
def leadBits (first : UInt8) : Nat :=
  if first < 0x80 then first.toNat
  else if first < 0xE0 then first.toNat % 0x20
  else if first < 0xF0 then first.toNat % 0x10
  else first.toNat % 0x08

/-- Reads `count` further bytes, the first of them within `range`. Answers the code point, or the
number of well-formed bytes read before the fault and whether the bytes ended there. -/
def readTail (range : UInt8 × UInt8) (code : Nat) :
    (count : Nat) → List UInt8 → Except (Nat × Bool) Nat
  | 0, _ => .ok code
  | _ + 1, [] => .error (0, true)
  | count + 1, b :: rest =>
    if range.1 ≤ b && b ≤ range.2 then
      match readTail (0x80, 0xBF) (code * 0x40 + b.toNat % 0x40) count rest with
      | .ok result => .ok result
      | .error (read, ended) => .error (read + 1, ended)
    else .error (0, false)

/-- The first character of a non-empty sequence of bytes at `offset`, with the number of further
bytes it takes. -/
def decodeFirst (offset : Nat) (first : UInt8) (rest : List UInt8) :
    Except Malformed (Char × Nat) :=
  match tailLength first with
  | none => .error ⟨offset, first, 1, .badStart⟩
  | some count =>
    match readTail (secondRange first) (leadBits first) count rest with
    | .ok code => .ok (Char.ofNat code, count)
    | .error (read, ended) =>
      .error ⟨offset, first, read + 1, if ended then .truncated else .badContinuation⟩

/-- Decodes the bytes that follow `offset` others, passing over `skip` bytes that the last
character took. -/
def decodeFrom (offset : Nat) : (skip : Nat) → List UInt8 → Except Malformed (List Char)
  | _, [] => .ok []
  | skip + 1, _ :: rest => decodeFrom (offset + 1) skip rest
  | 0, b :: rest => do
    let (c, count) ← decodeFirst offset b rest
    let cs ← decodeFrom (offset + 1) count rest
    return c :: cs

/-- The bytes of a text whose characters all have an encoding. -/
def encode (s : String) : List UInt8 := s.toList.flatMap String.utf8EncodeChar

/-- Every character of a text has an encoding. -/
def isEncodable (s : String) : Bool := !s.toList.any isLone

/-- A stretch of characters without an encoding: its offset, its first character and its length. -/
structure Unencodable where
  offset : Nat
  first : Char
  length : Nat
  deriving DecidableEq, Repr

/-- The first stretch of surrogates of a text that opens with a refused one. -/
def refused? (refuses : Char → Bool) (s : String) : Option Unencodable :=
  match s.toList.dropWhile fun c => !refuses c with
  | [] => none
  | c :: rest =>
    some ⟨(s.toList.takeWhile fun c => !refuses c).length, c, (rest.takeWhile isLone).length + 1⟩

/-- The bytes of a text, or the first characters that have no encoding. -/
def encode? (s : String) : Except Unencodable (List UInt8) :=
  match refused? isLone s with
  | none => .ok (encode s)
  | some stretch => .error stretch

/-- What the writing of a text leaves in an empty file: its bytes, or none where it has no
encoding. -/
def encodeOrEmpty (s : String) : List UInt8 := (encode? s).toOption.getD []

/-- The bytes of a name. A surrogate that stands for a byte is that one. -/
def encodeName (s : String) : List UInt8 :=
  s.toList.flatMap fun c =>
    if isRawByte c then [UInt8.ofNat (codePoint c)] else String.utf8EncodeChar c

/-- The number of bytes of a name. -/
def nameSize (s : String) : Nat := (encodeName s).length

/-- The characters that the bytes stand for. -/
def decode (bytes : List UInt8) : Except Malformed (List Char) := decodeFrom 0 0 bytes

/-- The wording of a failed encoding. -/
def Unencodable.message (fault : Unencodable) : String :=
  let place :=
    if fault.length = 1 then
      "character '" ++ String.ofList (escapedCode fault.first) ++ "' in position " ++
        toString fault.offset
    else
      "characters in position " ++ toString fault.offset ++ "-" ++
        toString (fault.offset + fault.length - 1)
  "'utf-8' codec can't encode " ++ place ++ ": surrogates not allowed"

/-- The wording of a failed decoding. -/
def Malformed.message (fault : Malformed) : String :=
  let place :=
    if fault.length = 1 then
      "byte 0x" ++ String.ofList (hex fault.byte.toNat) ++ " in position " ++
        toString fault.offset
    else
      "bytes in position " ++ toString fault.offset ++ "-" ++
        toString (fault.offset + fault.length - 1)
  "'utf-8' codec can't decode " ++ place ++ ": " ++ fault.defect.message
where
  /-- The two hexadecimal digits of a byte. -/
  hex (byte : Nat) : List Char := [Nat.digitChar (byte / 16), Nat.digitChar (byte % 16)]

end ElementWrap.Text.Utf8
