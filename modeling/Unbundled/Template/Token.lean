import Unbundled.Markup.Entity
import Unbundled.Template.Node

/-!
Markup of templates as tokens. A `<` inside double braces belongs to the expression there, and one
that begins no tag is text. What cannot be read ends the tokens with an error.
-/
namespace Unbundled.Template

/-- What is wrong with the markup of a template. -/
inductive MarkupError where
  | unclosedComment
  | unclosedEndTag
  | unclosedStartTag (tag : String)
  | unclosedInterpolation (rest : String)
  | unexpectedEndTag (tag : String)
  | mismatchedEndTag (tag : String) (opened : String)
  | missingEndTag (tag : String)
  deriving DecidableEq, Repr

def MarkupError.text : MarkupError → String
  | unclosedComment => "unclosed comment in template"
  | unclosedEndTag => "unclosed end tag in template"
  | unclosedStartTag tag => "unclosed start tag <" ++ tag ++ ">"
  | unclosedInterpolation rest => "unclosed interpolation: \x7b\x7b" ++ rest
  | unexpectedEndTag tag => "unexpected end tag </" ++ tag ++ ">"
  | mismatchedEndTag tag opened => "end tag </" ++ tag ++ "> does not match <" ++ opened ++ ">"
  | missingEndTag tag => "element <" ++ tag ++ "> is missing its end tag"

inductive Token where
  /-- Text, its character references decoded. -/
  | text (content : String)
  | interpolation (source : String)
  | comment
  /-- `isClosed` holds when a slash ends the tag. -/
  | startTag (tag : String) (attributes : List Markup.Attribute) (isClosed : Bool)
  | endTag (tag : String)
  deriving DecidableEq, Repr

def isTagChar (c : Char) : Bool :=
  c.isAlphanum || c = '-' || c = '_' || c = '.' || c = ':'

/-- Text up to the next `<` or double brace, and what stands there. -/
def textRun : List Char → List Char × List Char
  | [] => ([], [])
  | '<' :: cs => ([], '<' :: cs)
  | '\x7b' :: '\x7b' :: cs => ([], '\x7b' :: '\x7b' :: cs)
  | c :: cs => let (run, rest) := textRun cs; (c :: run, rest)

theorem textRun_append (cs : List Char) : (textRun cs).1 ++ (textRun cs).2 = cs := by
  fun_induction textRun cs <;> simp_all

def decodeAttribute (a : Markup.Attribute) : Markup.Attribute :=
  ⟨a.name, a.value?.map fun v => String.ofList (Markup.decodeEntities v.toList)⟩

def textToken (cs : List Char) : Token := .text (String.ofList (Markup.decodeEntities cs))

/-- The tag that begins with the letter at the start of `cs`, and what follows its `>`. -/
def startTag (cs : List Char) : Except MarkupError (Token × List Char) :=
  let tag := String.ofList (cs.takeWhile isTagChar)
  match Markup.tagEnd? (cs.dropWhile isTagChar) with
  | none => .error (.unclosedStartTag tag)
  | some (inside, rest) =>
    let (inside, isClosed) := Markup.withoutSlash inside
    .ok (.startTag tag ((Markup.attributes inside).map decodeAttribute) isClosed, rest)

/-- The token that begins with the `<` before `cs`, and what follows it. -/
def markup (cs : List Char) : Except MarkupError (Token × List Char) :=
  match Text.dropPrefix? ['!', '-', '-'] cs with
  | some _ =>
    match Text.splitOnce? ['-', '-', '>'] cs with
    | none => .error .unclosedComment
    | some (_, rest) => .ok (.comment, rest)
  | none =>
    match cs with
    | '/' :: cs =>
      match Text.splitOnce? ['>'] cs with
      | none => .error .unclosedEndTag
      | some (name, rest) => .ok (.endTag (String.ofList (Text.trimBy Text.isBlank name)), rest)
    | c :: after => if c.isAlpha then startTag (c :: after) else .ok (textToken ['<'], c :: after)
    | [] => .ok (textToken ['<'], [])

theorem length_startTag_lt {cs : List Char} {t : Token} {rest : List Char}
    (h : startTag cs = .ok (t, rest)) : rest.length < cs.length := by
  unfold startTag at h
  simp only at h
  split at h
  · simp at h
  · next inside rest' hend =>
    simp only [Except.ok.injEq, Prod.mk.injEq] at h
    have h₁ := congrArg List.length (Markup.tagEnd?_eq_some hend)
    have h₂ := Markup.length_dropWhile_le isTagChar cs
    simp only [List.length_append, List.length_cons] at h₁
    rw [← h.2]
    omega

theorem length_splitOnce?_le {pat cs a b : List Char} (h : Text.splitOnce? pat cs = some (a, b)) :
    b.length ≤ cs.length := by
  have := congrArg List.length (Text.splitOnce?_eq_some h)
  simp only [List.length_append] at this
  omega

theorem length_markup_le {cs : List Char} {t : Token} {rest : List Char}
    (h : markup cs = .ok (t, rest)) : rest.length ≤ cs.length := by
  unfold markup at h
  split at h
  · split at h
    · simp at h
    · next hs =>
      simp only [Except.ok.injEq, Prod.mk.injEq] at h
      exact h.2 ▸ length_splitOnce?_le hs
  · split at h
    · split at h
      · simp at h
      · next hs =>
        simp only [Except.ok.injEq, Prod.mk.injEq] at h
        have := length_splitOnce?_le hs
        rw [← h.2, List.length_cons]
        omega
    · split at h
      · exact Nat.le_of_lt (length_startTag_lt h)
      · simp only [Except.ok.injEq, Prod.mk.injEq] at h
        exact h.2 ▸ Nat.le_refl _
    · simp only [Except.ok.injEq, Prod.mk.injEq] at h
      simp [← h.2]

/-- The tokens of `cs`, and the error that ends them, if any. -/
def tokens (cs : List Char) : List Token × Option MarkupError :=
  match cs with
  | [] => ([], none)
  | c :: cs =>
    if c = '<' then
      match h : markup cs with
      | .error e => ([], some e)
      | .ok (t, rest) =>
        have := length_markup_le h
        let (ts, e?) := tokens rest
        (t :: ts, e?)
    else
      match hb : Text.dropPrefix? ['\x7b', '\x7b'] (c :: cs) with
      | some after =>
        match hs : Text.splitOnce? ['\x7d', '\x7d'] after with
        | none => ([], some (.unclosedInterpolation (String.ofList after)))
        | some (source, rest) =>
          have : rest.length < cs.length + 1 := by
            have h₁ := length_splitOnce?_le hs
            have h₂ := congrArg List.length (Text.dropPrefix?_eq_some hb)
            simp only [List.length_cons, List.length_append] at h₂
            omega
          let (ts, e?) := tokens rest
          (.interpolation (String.ofList (Text.trimBy Text.isBlank source)) :: ts, e?)
      | none =>
        have : (textRun cs).2.length < cs.length + 1 := by
          have := congrArg List.length (textRun_append cs)
          simp only [List.length_append] at this
          omega
        let (ts, e?) := tokens (textRun cs).2
        (textToken (c :: (textRun cs).1) :: ts, e?)
termination_by cs.length

end Unbundled.Template
