/-!
Line ends. A text that is read with its line ends unified has no carriage return left.
-/
namespace Unbundled.Text

/-- The text with a line feed for each line end: a carriage return, alone or with a line feed
behind it, ends a line too. -/
def unifyLineEnds : List Char → List Char
  | '\r' :: '\n' :: cs | '\r' :: cs => '\n' :: unifyLineEnds cs
  | c :: cs => c :: unifyLineEnds cs
  | [] => []

end Unbundled.Text
