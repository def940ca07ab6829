import Unbundled.Text.Blank

/-!
Cutting a list of characters at separators and at the first occurrence of a pattern.
-/
namespace Unbundled.Text

/-- The stretches between separators, empty ones included; never an empty list. -/
def splitAt (sep : Char → Bool) : List Char → List (List Char)
  | [] => [[]]
  | c :: cs =>
    if sep c then [] :: splitAt sep cs
    else
      match splitAt sep cs with
      | [] => [[c]]
      | s :: rest => (c :: s) :: rest

/-- What follows `pat`, when the text starts with it. -/
def dropPrefix? : List Char → List Char → Option (List Char)
  | [], cs => some cs
  | _ :: _, [] => none
  | p :: ps, c :: cs => if p = c then dropPrefix? ps cs else none

/-- Looks for `pat` in the text behind `before`, which is given from its end. -/
def splitFrom? (pat before : List Char) : List Char → Option (List Char × List Char)
  | [] => if pat.isEmpty then some (before.reverse, []) else none
  | c :: cs =>
    match dropPrefix? pat (c :: cs) with
    | some rest => some (before.reverse, rest)
    | none => splitFrom? pat (c :: before) cs

/-- The text before and after the first occurrence of `pat`. -/
def splitOnce? (pat cs : List Char) : Option (List Char × List Char) := splitFrom? pat [] cs

theorem dropPrefix?_eq_some {pat cs rest : List Char} (h : dropPrefix? pat cs = some rest) :
    cs = pat ++ rest := by
  induction pat generalizing cs with
  | nil => simpa [dropPrefix?] using h
  | cons p ps ih =>
    cases cs with
    | nil => simp [dropPrefix?] at h
    | cons c cs =>
      by_cases hc : p = c
      · subst hc
        simp only [dropPrefix?, if_true] at h
        rw [ih h, List.cons_append]
      · simp [dropPrefix?, hc] at h

theorem splitFrom?_eq_some {pat before cs a b : List Char}
    (h : splitFrom? pat before cs = some (a, b)) : before.reverse ++ cs = a ++ pat ++ b := by
  induction cs generalizing before with
  | nil =>
    cases pat with
    | nil => simp_all [splitFrom?]
    | cons p ps => simp [splitFrom?] at h
  | cons c cs ih =>
    simp only [splitFrom?] at h
    split at h
    · next rest hp =>
      obtain ⟨rfl, rfl⟩ := by simpa using h
      rw [dropPrefix?_eq_some hp, List.append_assoc]
    · have := ih h
      simpa using this

/-- Nothing is lost where a text is cut. -/
theorem splitOnce?_eq_some {pat cs a b : List Char} (h : splitOnce? pat cs = some (a, b)) :
    cs = a ++ pat ++ b := by
  simpa using splitFrom?_eq_some h

def startsWith (pat cs : List Char) : Bool := (dropPrefix? pat cs).isSome

def contains (pat cs : List Char) : Bool := (splitOnce? pat cs).isSome

/-- The text without the characters of `p` at its end. -/
def dropRightWhile (p : Char → Bool) (cs : List Char) : List Char :=
  (cs.reverse.dropWhile p).reverse

/-- The text without the characters of `p` at its start and end. -/
def trimBy (p : Char → Bool) (cs : List Char) : List Char :=
  dropRightWhile p (cs.dropWhile p)

/-- The text without Unicode white space around it. -/
def trim (s : String) : String := String.ofList (trimBy isBlank s.toList)

def joinWith (sep : List Char) : List (List Char) → List Char
  | [] => []
  | [s] => s
  | s :: rest => s ++ sep ++ joinWith sep rest

end Unbundled.Text
