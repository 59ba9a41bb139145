/-! # Line breaks

A line may end in a line feed, in a carriage return, or in both. `unifyNewlines` leaves line feeds
alone, so that afterwards every line ends in one character.
-/

namespace ElementWrap.Text

/-- Line breaks of every kind become the line feed. -/
def unifyNewlines : List Char → List Char
  | [] => []
  | '\r' :: '\n' :: rest => '\n' :: unifyNewlines rest
  | '\r' :: rest => '\n' :: unifyNewlines rest
  | c :: rest => c :: unifyNewlines rest

end ElementWrap.Text
