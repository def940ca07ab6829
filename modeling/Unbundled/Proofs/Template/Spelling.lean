import Unbundled.Proofs.Template.StartTag
import Unbundled.Template.Whitespace

/-!
# Spellings of templates

`Normal` tells which trees are their own condensed form. `Writes` relates such a tree to all the
ways to write it down: any spelling of its characters, quotes of either kind, comments between the
nodes, and outside `pre` line breaks around elements.
-/

namespace Unbundled.Template

open Markup (Attribute SpellsAll)

/-- A letter, and behind it characters of tags. -/
def isTag (tag : String) : Bool := tag.toList.head?.any Char.isAlpha && tag.toList.all isTagChar

/-- Blanks are single spaces, each with no other one next to it. -/
def isCollapsed : List Char → Bool
  | [] => true
  | c :: cs =>
    (!Text.isBlank c || (c = ' ' && cs.head?.all (!Text.isBlank ·))) && isCollapsed cs

/-- Siblings as they are after condensing, behind the node `before?`; inside `pre` blanks are kept
as they are. -/
inductive Normal : Bool → Option Node → List Node → Prop
  | nil (preserve : Bool) (before? : Option Node) : Normal preserve before? []
  | text {preserve : Bool} {before? : Option Node} {s : String} {ns : List Node} (hs : s ≠ "")
      (apart : ∀ t, before? ≠ some (.text t))
      (blanks : preserve = false → isCollapsed s.toList ∧
        ((Node.text s).isBlankText → before? ≠ none ∧ ns ≠ []))
      (h : Normal preserve (some (.text s)) ns) : Normal preserve before? (.text s :: ns)
  | interpolation {preserve : Bool} {before? : Option Node} {source : String} {ns : List Node}
      (trimmed : Text.trim source = source) (inside : ¬ ['\x7d', '\x7d'] <:+: source.toList)
      (h : Normal preserve (some (.interpolation source)) ns) :
      Normal preserve before? (.interpolation source :: ns)
  | element {preserve : Bool} {before? : Option Node} {tag : String} {as : List Attribute}
      {children ns : List Node} (htag : isTag tag) (hnames : ∀ a ∈ as, isAttributeName a.name)
      (void : voidElements.contains tag → children = [])
      (hchildren : Normal (preserve || tag == "pre") none children)
      (h : Normal preserve (some (.element tag as children)) ns) :
      Normal preserve before? (.element tag as children :: ns)

/-- Whether a line break may be put between two neighbours: outside `pre`, beside elements and the
ends of their list. -/
def admitsLayout (preserve : Bool) (before? after? : Option Node) : Bool :=
  !preserve && before?.all Node.isElement && after?.all Node.isElement

/-- Blanks with a line break among them. -/
def isLayoutText (ws : List Char) : Bool := ws.all Text.isBlank && ws.contains '\n'

/-- A comment ends where it seems to end. -/
def isComment (cs : List Char) : Prop := ¬ ['-', '-', '>'] <:+: '-' :: '-' :: cs

/-- What may be written between two neighbours; blanks only where `layout` allows them. -/
inductive Gap (layout : Bool) : List Char → Prop
  | none : Gap layout []
  | layout {ws : List Char} (hlayout : layout) (hws : isLayoutText ws) : Gap layout ws
  | comment {cs gap : List Char} (hcs : isComment cs) (h : Gap layout gap) :
      Gap layout ('<' :: '!' :: '-' :: '-' :: (cs ++ ['-', '-', '>'] ++ gap))
  | layoutComment {ws cs gap : List Char} (hlayout : layout) (hws : isLayoutText ws)
      (hcs : isComment cs) (h : Gap layout gap) :
      Gap layout (ws ++ '<' :: '!' :: '-' :: '-' :: (cs ++ ['-', '-', '>'] ++ gap))

/-- Characters of texts that may be written as themselves. -/
def isTextChar (c : Char) : Bool := c ≠ '<' && c ≠ '\x7b'

/-- `cs` is a way to write siblings behind the node `before?`. Elements whose tag is in `ends` may
have an end tag. -/
inductive Writes (ends : String → Bool) : Bool → Option Node → List Node → List Char → Prop
  | nil {preserve : Bool} {before? : Option Node} {gap : List Char}
      (hgap : Gap (admitsLayout preserve before? none) gap) :
      Writes ends preserve before? [] gap
  | text {preserve : Bool} {before? : Option Node} {s : String} {ns : List Node}
      {gap written cs : List Char}
      (hgap : Gap (admitsLayout preserve before? (some (.text s))) gap)
      (hs : SpellsAll isTextChar s.toList written)
      (h : Writes ends preserve (some (.text s)) ns cs) :
      Writes ends preserve before? (.text s :: ns) (gap ++ (written ++ cs))
  | interpolation {preserve : Bool} {before? : Option Node} {source : String} {ns : List Node}
      {gap cs : List Char}
      (hgap : Gap (admitsLayout preserve before? (some (.interpolation source))) gap)
      (h : Writes ends preserve (some (.interpolation source)) ns cs) :
      Writes ends preserve before? (.interpolation source :: ns)
        (gap ++ '\x7b' :: '\x7b' :: (' ' :: (source.toList ++ [' ']) ++ ['\x7d', '\x7d'] ++ cs))
  | element {preserve : Bool} {before? : Option Node} {tag : String} {as : List Attribute}
      {children ns : List Node} {gap attributes inner cs : List Char}
      (hgap : Gap (admitsLayout preserve before? (some (.element tag as children))) gap)
      (hends : ends tag) (hattributes : SpellsAttributes as attributes)
      (hchildren : Writes ends (preserve || tag == "pre") none children inner)
      (h : Writes ends preserve (some (.element tag as children)) ns cs) :
      Writes ends preserve before? (.element tag as children :: ns)
        (gap ++ '<' :: (tag.toList ++ (attributes ++ '>' ::
          (inner ++ '<' :: '/' :: (tag.toList ++ ['>'] ++ cs)))))
  | closed {preserve : Bool} {before? : Option Node} {tag : String} {as : List Attribute}
      {ns : List Node} {gap attributes cs : List Char}
      (hgap : Gap (admitsLayout preserve before? (some (.element tag as []))) gap)
      (hattributes : SpellsAttributes as attributes)
      (h : Writes ends preserve (some (.element tag as [])) ns cs) :
      Writes ends preserve before? (.element tag as [] :: ns)
        (gap ++ '<' :: (tag.toList ++ (attributes ++ '/' :: '>' :: cs)))
  | void {preserve : Bool} {before? : Option Node} {tag : String} {as : List Attribute}
      {ns : List Node} {gap attributes cs : List Char}
      (hgap : Gap (admitsLayout preserve before? (some (.element tag as []))) gap)
      (hvoid : voidElements.contains tag) (hattributes : SpellsAttributes as attributes)
      (h : Writes ends preserve (some (.element tag as [])) ns cs) :
      Writes ends preserve before? (.element tag as [] :: ns)
        (gap ++ '<' :: (tag.toList ++ (attributes ++ '>' :: cs)))

end Unbundled.Template
