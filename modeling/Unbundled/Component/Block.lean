import Unbundled.Failure
import Unbundled.Markup.Tag
import Unbundled.Text.Split
import Unbundled.Text.Utf8

/-!
Component files. A file is a list of blocks: at most one template, at most one script, any number
of styles. Other blocks and comments are passed over; what stands between blocks is ignored,
except for a `<` that begins none.
-/
namespace Unbundled.Component

structure Block where
  content : String
  attributes : List Markup.Attribute
  /-- Where the content begins in the file, in octets. -/
  offset : Nat
  deriving DecidableEq, Repr

namespace Block

def attribute? (b : Block) (name : String) : Option Markup.Attribute :=
  b.attributes.find? (·.name == name)

def lang? (b : Block) : Option String := (b.attribute? "lang").bind (·.value?)

end Block

/-- The blocks of a component file that matter. -/
structure Parts where
  template? : Option Block := none
  script? : Option Block := none
  styles : List Block := []
  deriving DecidableEq, Repr

/-- The most octets that a component file may have. -/
def maxFileSize : Nat := 10 * 1024 * 1024

/-- Why a component file is refused. Places count octets. -/
inductive BlockError where
  | tooLarge (size : Nat)
  | unclosedComment (place : Nat)
  | strayBracket (place : Nat)
  | unclosedTag (name : String) (place : Nat)
  | unclosedBlock (name : String) (place : Nat)
  | severalTemplates
  | templateLang (lang : String)
  | scriptSetup
  | severalScripts
  | scriptLang (lang : String)
  deriving DecidableEq, Repr

def BlockError.text : BlockError → String
  | tooLarge size =>
    "file too large: " ++ toString size ++ " bytes (max: " ++ toString maxFileSize ++ ")"
  | unclosedComment place => "unclosed comment at byte " ++ toString place
  | strayBracket place => "unexpected '<' outside of a block at byte " ++ toString place
  | unclosedTag name place => "unclosed <" ++ name ++ "> tag at byte " ++ toString place
  | unclosedBlock name place => "unclosed <" ++ name ++ "> block at byte " ++ toString place
  | severalTemplates => "multiple <template> blocks"
  | templateLang lang => "unsupported template lang \"" ++ lang ++ "\""
  | scriptSetup => "<script setup> is not supported"
  | severalScripts => "multiple <script> blocks"
  | scriptLang lang => "unsupported script lang \"" ++ lang ++ "\""

def isBlockChar (c : Char) : Bool := c.isAlphanum || c = '-'

/-- Whether a template tag that has to be closed begins with the `<` before `cs`. -/
def opensTemplate (cs : List Char) : Bool :=
  match Text.dropPrefix? ['t', 'e', 'm', 'p', 'l', 'a', 't', 'e'] cs with
  | some (c :: rest) =>
    (c = ' ' || c = '\t' || c = '\n' || c = '\r' || c = '>' || c = '/')
      && (Markup.tagEnd? (c :: rest)).all fun (inside, _) => inside.getLast? ≠ some '/'
  | _ => false

/-- The content of a template and what follows its end tag. `depth` counts the inner templates
that are open, and `before` holds the content so far, from its end. -/
def templateEndFrom? (depth : Nat) (before : List Char) :
    List Char → Option (List Char × List Char)
  | [] => none
  | c :: cs =>
    if c = '<' then
      match Text.dropPrefix? ['/', 't', 'e', 'm', 'p', 'l', 'a', 't', 'e', '>'] cs with
      | some rest =>
        match depth with
        | 0 => some (before.reverse, rest)
        | depth + 1 => templateEndFrom? depth (c :: before) cs
      | none =>
        templateEndFrom? (if opensTemplate cs then depth + 1 else depth) (c :: before) cs
    else templateEndFrom? depth (c :: before) cs

/-- The content of the block and what follows its end tag. -/
def blockEnd? (name : List Char) (cs : List Char) : Option (List Char × List Char) :=
  if name = ['t', 'e', 'm', 'p', 'l', 'a', 't', 'e'] then templateEndFrom? 0 [] cs
  else Text.splitOnce? ('<' :: '/' :: name ++ ['>']) cs

theorem length_templateEndFrom?_le {depth : Nat} {before cs a b : List Char}
    (h : templateEndFrom? depth before cs = some (a, b)) : b.length ≤ cs.length := by
  induction cs generalizing depth before with
  | nil => simp [templateEndFrom?] at h
  | cons c cs ih =>
    simp only [templateEndFrom?] at h
    split at h
    · split at h
      · next hp =>
        split at h
        · have := congrArg List.length (Text.dropPrefix?_eq_some hp)
          simp only [List.length_append, List.length_cons] at this
          simp only [Option.some.injEq, Prod.mk.injEq] at h
          rw [← h.2, List.length_cons]
          omega
        · exact Nat.le_succ_of_le (ih h)
      · exact Nat.le_succ_of_le (ih h)
    · exact Nat.le_succ_of_le (ih h)

theorem length_blockEnd?_le {name cs a b : List Char} (h : blockEnd? name cs = some (a, b)) :
    b.length ≤ cs.length := by
  unfold blockEnd? at h
  split at h
  · exact length_templateEndFrom?_le h
  · have := congrArg List.length (Text.splitOnce?_eq_some h)
    simp only [List.length_append] at this
    omega

/-- What the `<` at `place`, before `cs`, begins: a block with its name, or a comment. The place
behind it and the rest of the file follow. -/
def item (place : Nat) (cs : List Char) :
    Except BlockError (Option (String × Block) × Nat × List Char) :=
  if Text.startsWith ['!', '-', '-'] cs then
    match Text.splitOnce? ['-', '-', '>'] cs with
    | none => .error (.unclosedComment place)
    | some (inside, rest) => .ok (none, place + 4 + Utf8.size inside, rest)
  else
    let name := cs.takeWhile isBlockChar
    if name = [] then .error (.strayBracket place)
    else
      match Markup.tagEnd? (cs.dropWhile isBlockChar) with
      | none => .error (.unclosedTag (String.ofList name) place)
      | some (inside, rest) =>
        let offset := place + 2 + Utf8.size name + Utf8.size inside
        let (inside, isClosed) := Markup.withoutSlash inside
        let block (content : List Char) : Block :=
          ⟨String.ofList content, Markup.attributes inside, offset⟩
        if isClosed then .ok (some (String.ofList name, block []), offset, rest)
        else
          match blockEnd? name rest with
          | none => .error (.unclosedBlock (String.ofList name) place)
          | some (content, rest) =>
            .ok (some (String.ofList name, block content),
              offset + Utf8.size content + 3 + Utf8.size name, rest)

theorem length_item_le {place : Nat} {cs : List Char} {found : Option (String × Block)}
    {place' : Nat} {rest : List Char} (h : item place cs = .ok (found, place', rest)) :
    rest.length ≤ cs.length := by
  unfold item at h
  split at h
  · split at h
    · simp at h
    · next hs =>
      simp only [Except.ok.injEq, Prod.mk.injEq] at h
      have := congrArg List.length (Text.splitOnce?_eq_some hs)
      simp only [List.length_append] at this
      rw [← h.2.2]
      omega
  · simp only at h
    split at h
    · simp at h
    · split at h
      · simp at h
      · next hend =>
        have h₁ := congrArg List.length (Markup.tagEnd?_eq_some hend)
        have h₂ := Markup.length_dropWhile_le isBlockChar cs
        simp only [List.length_append, List.length_cons] at h₁
        split at h
        · simp only [Except.ok.injEq, Prod.mk.injEq] at h
          rw [← h.2.2]
          omega
        · split at h
          · simp at h
          · next hb =>
            simp only [Except.ok.injEq, Prod.mk.injEq] at h
            have := length_blockEnd?_le hb
            rw [← h.2.2]
            omega

namespace Parts

def addTemplate (p : Parts) (b : Block) : Except BlockError Parts :=
  if p.template?.isSome then .error .severalTemplates
  else
    match b.lang? with
    | some lang =>
      if lang = "html" then .ok { p with template? := some b } else .error (.templateLang lang)
    | none => .ok { p with template? := some b }

def addScript (p : Parts) (b : Block) : Except BlockError Parts :=
  if (b.attribute? "setup").isSome then .error .scriptSetup
  else if p.script?.isSome then .error .severalScripts
  else
    match b.lang? with
    | some lang =>
      if lang = "js" || lang = "javascript" then .ok { p with script? := some b }
      else .error (.scriptLang lang)
    | none => .ok { p with script? := some b }

def add (p : Parts) (name : String) (b : Block) : Except BlockError Parts :=
  match name with
  | "template" => p.addTemplate b
  | "script" => p.addScript b
  | "style" => .ok { p with styles := p.styles ++ [b] }
  | _ => .ok p

/-- Adds the blocks of the rest of a file, which begins at `place`. -/
def addAll (p : Parts) (place : Nat) (cs : List Char) : Except BlockError Parts :=
  match cs with
  | [] => .ok p
  | c :: cs =>
    if c = '<' then
      match h : item place cs with
      | .error e => .error e
      | .ok (found, place, rest) =>
        have := length_item_le h
        match found with
        | none => p.addAll place rest
        | some (name, b) =>
          match p.add name b with
          | .error e => .error e
          | .ok p => p.addAll place rest
    else p.addAll (place + c.utf8Size) cs
termination_by cs.length

/-- The blocks of a component file. -/
def ofText (source : String) : Except BlockError Parts :=
  if source.utf8ByteSize > maxFileSize then .error (.tooLarge source.utf8ByteSize)
  else ({} : Parts).addAll 0 source.toList

end Parts

end Unbundled.Component
