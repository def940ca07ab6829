/-!
Three sets of blank characters. Markup separates attributes by `isMarkupBlank`, patterns over
directive values use `isPatternBlank`, and text is condensed and trimmed by `isBlank`.
-/
namespace Unbundled.Text

/-- Space, tab, line feed, form feed and carriage return. -/
def isMarkupBlank (c : Char) : Bool :=
  c = ' ' || c = '\t' || c = '\n' || c = '\x0c' || c = '\r'

/-- The markup blanks and the vertical tab. -/
def isPatternBlank (c : Char) : Bool :=
  isMarkupBlank c || c = '\x0b'

/-- Unicode's property White_Space. -/
def isBlank (c : Char) : Bool :=
  let n := c.toNat
  (9 ≤ n && n ≤ 13) || n = 0x20 || n = 0x85 || n = 0xA0 || n = 0x1680
    || (0x2000 ≤ n && n ≤ 0x200A) || n = 0x2028 || n = 0x2029 || n = 0x202F || n = 0x205F
    || n = 0x3000

end Unbundled.Text
