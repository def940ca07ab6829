import Unbundled.Text.Blank

/-!
The inside of tags: where a tag ends, and its attributes. A `>` between quotes belongs to a
value; quotes that are never closed reach to the end.
-/
namespace Unbundled.Markup

/-- An attribute; without `=` it has no value. -/
structure Attribute where
  name : String
  value? : Option String
  deriving DecidableEq, Repr

def isQuote (c : Char) : Bool := c = '"' || c = '\''

/-- The rest of a tag and the text behind its `>`. `before` is what has been read, from its end,
and `open?` the quote that is open. -/
def tagEndFrom? (open? : Option Char) (before : List Char) :
    List Char → Option (List Char × List Char)
  | [] => none
  | c :: cs =>
    match open? with
    | some q => tagEndFrom? (if c = q then none else some q) (c :: before) cs
    | none =>
      if c = '>' then some (before.reverse, cs)
      else tagEndFrom? (if isQuote c then some c else none) (c :: before) cs

/-- What stands before the `>` that ends a tag, and what stands behind it. -/
def tagEnd? (cs : List Char) : Option (List Char × List Char) := tagEndFrom? none [] cs

theorem tagEndFrom?_eq_some {open? : Option Char} {before cs a b : List Char}
    (h : tagEndFrom? open? before cs = some (a, b)) : before.reverse ++ cs = a ++ '>' :: b := by
  induction cs generalizing open? before with
  | nil => simp [tagEndFrom?] at h
  | cons c cs ih =>
    simp only [tagEndFrom?] at h
    split at h
    · simpa using ih h
    · split at h
      · next hc =>
        obtain ⟨rfl, rfl⟩ := by simpa using h
        rw [hc]
      · simpa using ih h

theorem tagEnd?_eq_some {cs a b : List Char} (h : tagEnd? cs = some (a, b)) :
    cs = a ++ '>' :: b := by
  simpa using tagEndFrom?_eq_some h

/-- The inside of a tag, without the slash that closes it, and whether there is one. -/
def withoutSlash (inside : List Char) : List Char × Bool :=
  if inside.getLast? = some '/' then (inside.dropLast, true) else (inside, false)

def isNameEnd (c : Char) : Bool := Text.isMarkupBlank c || c = '='

/-- The value behind `=` and the blanks there: quoted, or up to the next blank. -/
def attributeValue : List Char → List Char × List Char
  | [] => ([], [])
  | q :: cs =>
    if isQuote q then (cs.takeWhile (· ≠ q), (cs.dropWhile (· ≠ q)).drop 1)
    else
      ((q :: cs).takeWhile fun c => !Text.isMarkupBlank c,
        (q :: cs).dropWhile fun c => !Text.isMarkupBlank c)

theorem length_dropWhile_le {α : Type} (p : α → Bool) (l : List α) :
    (l.dropWhile p).length ≤ l.length :=
  (List.dropWhile_sublist p).length_le

theorem length_attributeValue_le (cs : List Char) : (attributeValue cs).2.length ≤ cs.length := by
  unfold attributeValue
  split
  · simp
  · next q cs =>
    split
    · have := length_dropWhile_le (· ≠ q) cs
      simp only [List.length_drop, List.length_cons]
      omega
    · exact length_dropWhile_le _ _

/-- The next name, which is empty where none begins, and the text behind it and its blanks. -/
def attributeName (cs : List Char) : List Char × List Char :=
  let start := cs.dropWhile fun c => Text.isMarkupBlank c || c = '/'
  (start.takeWhile fun c => !isNameEnd c,
    (start.dropWhile fun c => !isNameEnd c).dropWhile Text.isMarkupBlank)

theorem length_attributeName_lt {cs : List Char} (h : (attributeName cs).1 ≠ []) :
    (attributeName cs).2.length < cs.length := by
  simp only [attributeName] at h ⊢
  generalize hs : (cs.dropWhile fun c => Text.isMarkupBlank c || c = '/') = start at h ⊢
  have h₁ := length_dropWhile_le (fun c => Text.isMarkupBlank c || c = '/') cs
  have h₂ := length_dropWhile_le Text.isMarkupBlank (start.dropWhile fun c => !isNameEnd c)
  have h₃ := congrArg List.length
    (List.takeWhile_append_dropWhile (p := fun c => !isNameEnd c) (l := start))
  have h₄ := List.length_pos_iff.2 h
  rw [hs] at h₁
  rw [List.length_append] at h₃
  omega

/-- The attributes in the inside of a tag. A name reaches to a blank or `=`; slashes before it
are passed over, and where none begins the rest is ignored. -/
def attributes (cs : List Char) : List Attribute :=
  if h : (attributeName cs).1 = [] then []
  else
    have := length_attributeName_lt h
    let name := String.ofList (attributeName cs).1
    match hb : (attributeName cs).2 with
    | [] => [⟨name, none⟩]
    | c :: rest =>
      if c = '=' then
        let value := attributeValue (rest.dropWhile Text.isMarkupBlank)
        have : value.2.length < cs.length := by
          have h₁ : value.2.length ≤ _ := length_attributeValue_le _
          have h₂ := length_dropWhile_le Text.isMarkupBlank rest
          simp only [hb, List.length_cons] at this
          omega
        ⟨name, some (String.ofList value.1)⟩ :: attributes value.2
      else
        have : (c :: rest).length < cs.length := by rw [hb] at this; exact this
        ⟨name, none⟩ :: attributes (c :: rest)
termination_by cs.length

end Unbundled.Markup
