import Unbundled.Markup.Tag
import Unbundled.Text.Split

/-!
Trees of templates.
-/
namespace Unbundled.Template

inductive Node where
  | element (tag : String) (attributes : List Markup.Attribute) (children : List Node)
  | text (content : String)
  /-- An expression in double braces, without the blanks around it. -/
  | interpolation (source : String)
  deriving Inhabited

namespace Node

def isElement : Node → Bool
  | element .. => true
  | _ => false

/-- Whether the node is text made of white space only. -/
def isBlankText : Node → Bool
  | text content => content.toList.all Text.isBlank
  | _ => false

end Node

/-- Elements that have neither children nor an end tag. -/
def voidElements : List String :=
  ["area", "base", "br", "col", "embed", "hr", "img", "input", "link", "meta", "param", "source",
   "track", "wbr"]

end Unbundled.Template
