import Unbundled.Proofs.Octets.Reference
import Unbundled.Proofs.Template.Tokens
import Unbundled.Template.Parser
import Mathlib.Data.List.Infix

/-!
# Expressions in texts, read by places

Two scanners pair double braces. One looks for the next `<` outside expressions, to find where text
ends; the other cuts that text into its expressions and what stands around them. `Pairing` says how
braces are paired, each with the next one behind it, from the left. Both pair them so: the text in
front of the `<` that is found has no open braces, and no `<` outside its expressions; and where no
`<` is found although one stands outside closed expressions, the text is refused for open braces.
-/

namespace Unbundled.Octets

open Template (MarkupError Node OpenElement Token tokens)

def openingBraces : List Char := ['\x7b', '\x7b']

def closingBraces : List Char := ['\x7d', '\x7d']

/-! ## The scanners -/

/-- Passes over the next expression in front of the next `<`. -/
def markupRound (file : List UInt8) (i : Nat) : Checked (Turn Nat (Option Nat)) := do
  let rest ← octetsFrom file i
  match (find (Utf8.encode ['<']) rest).map (i + ·) with
  | none => return .leave none
  | some lt =>
    let front ← octetsBetween file i lt
    match find (Utf8.encode openingBraces) front with
    | none => return .leave (some lt)
    | some opening =>
      let body := i + opening + 2
      let rest ← octetsFrom file body
      match find (Utf8.encode closingBraces) rest with
      | none => return .leave none
      | some closing => return .again (body + closing + 2)

/-- The place of the next `<` that is in no expression. -/
def nextMarkup (file : List UInt8) (start : Nat) : Checked (Option Nat) :=
  loop (file.length - ·) (markupRound file) start

/-- Adds the node to the element that was opened last. -/
def append (n : Node) : List OpenElement → Checked (List OpenElement)
  | [] => .error .emptyStack
  | e :: es => .ok ({ e with earlier := n :: e.earlier } :: es)

def appendText (text : List Char) (stack : List OpenElement) : Checked (List OpenElement) := do
  let content ← decodeEntities text
  append (.text (String.ofList content)) stack

/-- Adds what stands in front of the place, unless that is nothing. -/
def appendFront (text : List Char) (stop : Nat) (stack : List OpenElement) :
    Checked (List OpenElement) :=
  if 0 < stop then do
    let front ← textBetween text 0 stop
    appendText front stack
  else return stack

/-- Adds the text up to the next expression, and the expression. The state is the rest of the text
and the open elements. -/
def textRound (s : List Char × List OpenElement) :
    Checked (Turn (List Char × List OpenElement) (Except MarkupError (List OpenElement))) := do
  match find (Utf8.encode openingBraces) (Utf8.encode s.1) with
  | none =>
    if s.1 = [] then return .leave (.ok s.2)
    else
      let stack ← appendText s.1 s.2
      return .leave (.ok stack)
  | some opening =>
    let stack ← appendFront s.1 opening s.2
    let after ← textFrom s.1 (opening + 2)
    match find (Utf8.encode closingBraces) (Utf8.encode after) with
    | none => return .leave (.error (.unclosedInterpolation (String.ofList after)))
    | some closing =>
      let source ← textBetween after 0 closing
      let stack ← append (.interpolation (String.ofList (Text.trimBy Text.isBlank source))) stack
      let rest ← textFrom after (closing + 2)
      return .again (rest, stack)

/-- Adds the text and the expressions in it to the element that was opened last. -/
def pushText (text : List Char) (stack : List OpenElement) :
    Checked (Except MarkupError (List OpenElement)) :=
  loop (Utf8.size ·.1) textRound (text, stack)

/-! ## How braces are paired -/

/-- In the text, the expressions `closed` are closed, each with the text in front of it. Behind
them stands `plain`, and then `open`, which is empty or begins with braces that are not closed. -/
inductive Pairing : List Char → List (List Char × List Char) → List Char → List Char → Prop
  | plain {cs : List Char} (h : ¬ openingBraces <:+: cs) : Pairing cs [] cs []
  | unclosed {front after : List Char} (hopens : ¬ openingBraces <:+: front ++ ['\x7b'])
      (h : ¬ closingBraces <:+: after) :
      Pairing (front ++ openingBraces ++ after) [] front (openingBraces ++ after)
  | closed {front source rest plain unclosed : List Char} {closed : List (List Char × List Char)}
      (hopens : ¬ openingBraces <:+: front ++ ['\x7b'])
      (hcloses : ¬ closingBraces <:+: source ++ ['\x7d'])
      (h : Pairing rest closed plain unclosed) :
      Pairing (front ++ openingBraces ++ (source ++ closingBraces ++ rest))
        ((front, source) :: closed) plain unclosed

/-- What stands outside closed expressions, up to braces that are not closed. -/
def outside (closed : List (List Char × List Char)) (plain : List Char) : List Char :=
  closed.flatMap (·.1) ++ plain

section Pieces

variable {α : Type} (text interpolation : String → α)

/-- A text in one piece, or in none if it is empty. -/
def piece (cs : List Char) : List α :=
  if cs = [] then [] else [text (String.ofList (Markup.decodeEntities cs))]

/-- The pieces of a text in which all braces are closed. -/
def pieces (closed : List (List Char × List Char)) (plain : List Char) : List α :=
  closed.flatMap (fun (front, source) =>
    piece text front ++ [interpolation (String.ofList (Text.trimBy Text.isBlank source))]) ++
    piece text plain

end Pieces

/-! ## Every text is paired in one way -/

lemma isAscii_openingBraces : IsAscii openingBraces := by decide

lemma isAscii_closingBraces : IsAscii closingBraces := by decide

lemma size_braces : Utf8.size openingBraces = 2 ∧ Utf8.size closingBraces = 2 := by decide

/-- Braces are cut at the first two, where they open. -/
lemma splitOnce?_openingBraces {cs front after : List Char} :
    Text.splitOnce? openingBraces cs = some (front, after) ↔
      cs = front ++ openingBraces ++ after ∧ ¬ openingBraces <:+: front ++ ['\x7b'] :=
  Text.splitOnce?_eq_some_iff (by decide)

lemma splitOnce?_closingBraces {cs source rest : List Char} :
    Text.splitOnce? closingBraces cs = some (source, rest) ↔
      cs = source ++ closingBraces ++ rest ∧ ¬ closingBraces <:+: source ++ ['\x7d'] :=
  Text.splitOnce?_eq_some_iff (by decide)

section Pairing

variable {cs front source rest plain unclosed : List Char} {closed : List (List Char × List Char)}

theorem exists_pairing (cs : List Char) :
    ∃ closed plain unclosed, Pairing cs closed plain unclosed := by
  induction hlength : cs.length using Nat.strong_induction_on generalizing cs with
  | _ n ih =>
    subst hlength
    cases hopen : Text.splitOnce? openingBraces cs with
    | none =>
      exact ⟨[], cs, [], .plain ((Text.splitOnce?_eq_none_iff (by decide)).1 hopen)⟩
    | some parts =>
      obtain ⟨front, after⟩ := parts
      obtain ⟨rfl, hopens⟩ := splitOnce?_openingBraces.1 hopen
      cases hclose : Text.splitOnce? closingBraces after with
      | none =>
        exact ⟨_, _, _, .unclosed hopens ((Text.splitOnce?_eq_none_iff (by decide)).1 hclose)⟩
      | some parts =>
        obtain ⟨source, rest⟩ := parts
        obtain ⟨rfl, hcloses⟩ := splitOnce?_closingBraces.1 hclose
        have hless : rest.length < (front ++ openingBraces ++
            (source ++ closingBraces ++ rest)).length := by
          simp [openingBraces]
          omega
        obtain ⟨closed, plain, unclosed, h⟩ := ih _ hless rest rfl
        exact ⟨_, _, _, .closed hopens hcloses h⟩

/-- How a text is cut tells how it is paired. -/
lemma Pairing.cut (h : Pairing cs closed plain unclosed) :
    match Text.splitOnce? openingBraces cs with
    | none => closed = [] ∧ plain = cs ∧ unclosed = []
    | some (front, after) =>
      match Text.splitOnce? closingBraces after with
      | none => closed = [] ∧ plain = front ∧ unclosed = openingBraces ++ after
      | some (source, rest) =>
        ∃ others, closed = (front, source) :: others ∧ Pairing rest others plain unclosed := by
  cases h with
  | plain h =>
    rw [(Text.splitOnce?_eq_none_iff (by decide)).2 h]
    exact ⟨rfl, rfl, rfl⟩
  | unclosed hopens h =>
    rw [splitOnce?_openingBraces.2 ⟨rfl, hopens⟩]
    dsimp only
    rw [(Text.splitOnce?_eq_none_iff (by decide)).2 h]
    exact ⟨rfl, rfl, rfl⟩
  | closed hopens hcloses h =>
    rw [splitOnce?_openingBraces.2 ⟨rfl, hopens⟩]
    dsimp only
    rw [splitOnce?_closingBraces.2 ⟨rfl, hcloses⟩]
    exact ⟨_, rfl, h⟩

theorem Pairing.unique {plain' unclosed' : List Char} {closed' : List (List Char × List Char)}
    (h : Pairing cs closed plain unclosed) (h' : Pairing cs closed' plain' unclosed') :
    closed = closed' ∧ plain = plain' ∧ unclosed = unclosed' := by
  induction h generalizing closed' plain' unclosed' with
  | plain h =>
    have hcut := h'.cut
    rw [(Text.splitOnce?_eq_none_iff (by decide)).2 h] at hcut
    obtain ⟨rfl, rfl, rfl⟩ := hcut
    exact ⟨rfl, rfl, rfl⟩
  | unclosed hopens h =>
    have hcut := h'.cut
    rw [splitOnce?_openingBraces.2 ⟨rfl, hopens⟩] at hcut
    dsimp only at hcut
    rw [(Text.splitOnce?_eq_none_iff (by decide)).2 h] at hcut
    obtain ⟨rfl, rfl, rfl⟩ := hcut
    exact ⟨rfl, rfl, rfl⟩
  | closed hopens hcloses h ih =>
    have hcut := h'.cut
    rw [splitOnce?_openingBraces.2 ⟨rfl, hopens⟩] at hcut
    dsimp only at hcut
    rw [splitOnce?_closingBraces.2 ⟨rfl, hcloses⟩] at hcut
    obtain ⟨others, rfl, hothers⟩ := hcut
    obtain ⟨rfl, rfl, rfl⟩ := ih hothers
    exact ⟨rfl, rfl, rfl⟩

/-- What stands outside stands in the text. -/
lemma Pairing.mem_of_outside (h : Pairing cs closed plain unclosed) {c : Char}
    (hc : c ∈ outside closed plain) : c ∈ cs := by
  induction h with
  | plain h => simpa [outside] using hc
  | unclosed hopens h =>
    rw [List.append_assoc]
    exact List.mem_append_left _ (by simpa [outside] using hc)
  | closed hopens hcloses h ih =>
    simp only [outside, List.flatMap_cons, List.append_assoc, List.mem_append] at hc ih ⊢
    rcases hc with hc | hc
    · exact .inl hc
    · exact .inr (.inr (.inr (.inr (ih hc))))

end Pairing

/-! ## The next markup -/

/-- What is found from `start`, where `rest` follows: the first `<` outside closed expressions, if
no braces are open in front of it. -/
inductive Found (start : Nat) (rest : List Char) : Option Nat → Prop
  | markup {between after plain : List Char} {closed : List (List Char × List Char)}
      (hrest : rest = between ++ '<' :: after) (hpairing : Pairing between closed plain [])
      (hout : '<' ∉ outside closed plain) : Found start rest (some (start + Utf8.size between))
  | none {plain unclosed : List Char} {closed : List (List Char × List Char)}
      (hpairing : Pairing rest closed plain unclosed) (hout : '<' ∉ outside closed plain) :
      Found start rest none

section Places

variable {text before rest : List Char} {i : Nat}

lemma Found.behind {front source : List Char} {found : Option Nat}
    (hopens : ¬ openingBraces <:+: front ++ ['\x7b'])
    (hcloses : ¬ closingBraces <:+: source ++ ['\x7d']) (hfront : '<' ∉ front)
    (h : Found (i + Utf8.size (front ++ openingBraces ++ (source ++ closingBraces))) rest found) :
    Found i (front ++ openingBraces ++ (source ++ closingBraces) ++ rest) found := by
  rw [List.append_assoc _ (source ++ closingBraces)]
  have hout {closed : List (List Char × List Char)} {plain : List Char}
      (h : '<' ∉ outside closed plain) :
      '<' ∉ outside ((front, source) :: closed) plain := by
    simpa [outside, hfront] using h
  cases h with
  | @markup between after plain closed hrest hpairing hbetween =>
    have hplace : i + Utf8.size (front ++ openingBraces ++ (source ++ closingBraces)) +
        Utf8.size between =
          i + Utf8.size (front ++ openingBraces ++ (source ++ closingBraces ++ between)) := by
      simp only [Utf8.size_append, Nat.add_assoc]
    have hparts : front ++ openingBraces ++ (source ++ closingBraces ++ rest) =
        front ++ openingBraces ++ (source ++ closingBraces ++ between) ++ '<' :: after := by
      simp [hrest]
    rw [hplace]
    exact .markup hparts (.closed hopens hcloses hpairing) (hout hbetween)
  | none hpairing hrest => exact .none (.closed hopens hcloses hpairing) (hout hrest)

/-- A round finds what there is to be found, or passes over an expression. -/
lemma markupRound_eq (h : text = before ++ rest) (hi : i = Utf8.size before) :
    (∃ found, markupRound (Utf8.encode text) i = .ok (.leave found) ∧ Found i rest found) ∨
      ∃ front source behind,
        rest = front ++ openingBraces ++ (source ++ closingBraces) ++ behind ∧
        (¬ openingBraces <:+: front ++ ['\x7b']) ∧ (¬ closingBraces <:+: source ++ ['\x7d']) ∧
        '<' ∉ front ∧ markupRound (Utf8.encode text) i =
          .ok (.again (i + Utf8.size (front ++ openingBraces ++ (source ++ closingBraces)))) := by
  rw [markupRound, octetsFrom_eq h hi, ok_bind, find_encode (by simp) (by decide)]
  cases hlt : Text.splitOnce? ['<'] rest with
  | none =>
    left
    rw [Text.splitOnce?_eq_none_iff (by simp), List.singleton_infix_iff] at hlt
    obtain ⟨closed, plain, unclosed, hpairing⟩ := exists_pairing rest
    exact ⟨none, rfl, .none hpairing fun hmem => hlt (hpairing.mem_of_outside hmem)⟩
  | some parts =>
    obtain ⟨x, y⟩ := parts
    obtain ⟨rfl, hx⟩ := (Text.splitOnce?_eq_some_iff (by simp)).1 hlt
    have hx : '<' ∉ x := by simpa [List.singleton_infix_iff] using hx
    have hrest : x ++ ['<'] ++ y = x ++ '<' :: y := List.append_cons _ _ _ |>.symm
    have hcut : text = before ++ x ++ '<' :: y := by rw [h, hrest, List.append_assoc]
    have hfront : octetsBetween (Utf8.encode text) i (i + Utf8.size x) = .ok (Utf8.encode x) :=
      octetsBetween_eq hcut hi rfl
    simp only [Option.map_some]
    rw [hfront, ok_bind, find_encode (by decide) isAscii_openingBraces]
    cases hopen : Text.splitOnce? openingBraces x with
    | none =>
      left
      rw [Text.splitOnce?_eq_none_iff (by decide)] at hopen
      exact ⟨_, rfl, .markup hrest (.plain hopen) (by simpa [outside] using hx)⟩
    | some parts =>
      obtain ⟨front, z⟩ := parts
      obtain ⟨rfl, hopens⟩ := splitOnce?_openingBraces.1 hopen
      have hfrontLt : '<' ∉ front := fun hmem => hx (by simp [hmem])
      have hbody : text = before ++ front ++ openingBraces ++ (z ++ '<' :: y) := by
        rw [hcut]
        simp
      have hplace : i + Utf8.size front + 2 = Utf8.size (before ++ front ++ openingBraces) := by
        rw [Utf8.size_append, Utf8.size_append, size_braces.1, hi]
      simp only [Option.map_some]
      rw [octetsFrom_eq hbody hplace, ok_bind, find_encode (by decide) isAscii_closingBraces,
        hrest, List.append_assoc _ z]
      cases hclose : Text.splitOnce? closingBraces (z ++ '<' :: y) with
      | none =>
        left
        rw [Text.splitOnce?_eq_none_iff (by decide)] at hclose
        exact ⟨none, rfl, .none (.unclosed hopens hclose) (by simpa [outside] using hfrontLt)⟩
      | some parts =>
        obtain ⟨source, behind⟩ := parts
        obtain ⟨hbehind, hcloses⟩ := splitOnce?_closingBraces.1 hclose
        right
        refine ⟨front, source, behind, by rw [hbehind, List.append_assoc _ (source ++ _)], hopens,
          hcloses, hfrontLt, ?_⟩
        simp only [Option.map_some, Utf8.size_append, size_braces, ← Nat.add_assoc]
        rfl

/-- The scanner does not fail, and finds what there is to be found. -/
theorem nextMarkup_found (h : text = before ++ rest) (hi : i = Utf8.size before) :
    ∃ found, nextMarkup (Utf8.encode text) i = .ok found ∧ Found i rest found := by
  rw [nextMarkup]
  refine loop_spec (R := fun rest i => Stands text i rest) (Q := fun rest i => Found i rest) ?_
    ⟨before, h, hi⟩
  rintro rest i ⟨before, h, hi⟩
  rcases markupRound_eq h hi with hleave |
    ⟨front, source, behind, rfl, hopens, hcloses, hfront, hround⟩
  · exact .inl hleave
  · have hstands : Stands text i (front ++ openingBraces ++ (source ++ closingBraces) ++ behind) :=
      ⟨before, h, hi⟩
    refine .inr ⟨behind, _, hround, ?_, hstands.behind, fun found hfound =>
      hfound.behind hopens hcloses hfront⟩
    rw [Utf8.length_encode]
    exact hstands.less (by simp [openingBraces])

end Places

/-! ## Texts are cut -/

/-- The nodes are added to the element that was opened last. -/
def appendAll (ns : List Node) : List OpenElement → List OpenElement
  | [] => []
  | e :: es => { e with earlier := ns.reverse ++ e.earlier } :: es

lemma appendAll_append (ms ns : List Node) (stack : List OpenElement) :
    appendAll ns (appendAll ms stack) = appendAll (ms ++ ns) stack := by
  cases stack with
  | nil => rfl
  | cons e es => simp [appendAll]

section Stack

variable (e : OpenElement) (es : List OpenElement)

lemma appendText_eq {cs : List Char} (hne : cs ≠ []) :
    appendText cs (e :: es) = .ok (appendAll (piece .text cs) (e :: es)) := by
  rw [appendText, decodeEntities_eq, ok_bind, piece, if_neg hne]
  rfl

lemma textRound_plain {cs : List Char} (h : ¬ openingBraces <:+: cs) :
    textRound (cs, e :: es) = .ok (.leave (.ok (appendAll (piece .text cs) (e :: es)))) := by
  have hnone := (Text.splitOnce?_eq_none_iff (by decide)).2 h
  rw [textRound, find_encode (by decide) isAscii_openingBraces, hnone]
  dsimp only [Option.map_none]
  by_cases hcs : cs = []
  · rw [if_pos hcs, piece, if_pos hcs]
    rfl
  · rw [if_neg hcs, appendText_eq e es hcs]
    rfl

lemma appendFront_eq {text front behind : List Char} (h : text = front ++ behind) :
    appendFront text (Utf8.size front) (e :: es) =
      .ok (appendAll (piece .text front) (e :: es)) := by
  rw [appendFront]
  by_cases hne : front = []
  · rw [hne, if_neg (by simp), piece, if_pos rfl]
    rfl
  · rw [if_pos (size_pos hne), textUpTo_eq h, ok_bind, appendText_eq e es hne]

/-- In a round the text in front of the braces is added, and then what is between them. -/
lemma textRound_braces {front : List Char} (hopens : ¬ openingBraces <:+: front ++ ['\x7b'])
    (after : List Char) :
    textRound (front ++ openingBraces ++ after, e :: es) =
      match Text.splitOnce? closingBraces after with
      | none => .ok (.leave (.error (.unclosedInterpolation (String.ofList after))))
      | some (source, rest) => .ok (.again (rest, appendAll (piece .text front ++
          [.interpolation (String.ofList (Text.trimBy Text.isBlank source))]) (e :: es))) := by
  have hcut : Text.splitOnce? openingBraces (front ++ openingBraces ++ after) =
      some (front, after) := splitOnce?_openingBraces.2 ⟨rfl, hopens⟩
  have hafter : textFrom (front ++ openingBraces ++ after) (Utf8.size front + 2) = .ok after :=
    textFrom_eq rfl (by rw [Utf8.size_append, size_braces.1])
  rw [textRound, find_encode (by decide) isAscii_openingBraces, hcut]
  simp only [Option.map_some]
  rw [appendFront_eq e es (List.append_assoc _ _ _), ok_bind, hafter, ok_bind,
    find_encode (by decide) isAscii_closingBraces]
  cases hclose : Text.splitOnce? closingBraces after with
  | none => rfl
  | some parts =>
    obtain ⟨source, rest⟩ := parts
    obtain ⟨rfl, -⟩ := splitOnce?_closingBraces.1 hclose
    have hsource : textBetween (source ++ closingBraces ++ rest) 0 (Utf8.size source) =
        .ok source := textUpTo_eq (List.append_assoc _ _ _)
    have hrest : textFrom (source ++ closingBraces ++ rest) (Utf8.size source + 2) = .ok rest :=
      textFrom_eq rfl (by rw [Utf8.size_append, size_braces.2])
    have happend (n : Node) : append n (appendAll (piece .text front) (e :: es)) =
        .ok (appendAll (piece .text front ++ [n]) (e :: es)) := by
      rw [← appendAll_append]
      rfl
    simp only [Option.map_some]
    rw [hsource, ok_bind, happend, ok_bind, hrest]
    rfl

end Stack

/-- A text is added in its pieces, or refused where braces are open. -/
theorem pushText_pairing {cs plain unclosed : List Char} {closed : List (List Char × List Char)}
    (h : Pairing cs closed plain unclosed) (e : OpenElement) (es : List OpenElement) :
    pushText cs (e :: es) = .ok (
      if unclosed = [] then .ok (appendAll (pieces .text .interpolation closed plain) (e :: es))
      else .error (.unclosedInterpolation (String.ofList (unclosed.drop 2)))) := by
  induction h generalizing e with
  | plain h => exact loop_leave (textRound_plain e es h)
  | @unclosed front after hopens h =>
    have hround := textRound_braces e es hopens after
    rw [(Text.splitOnce?_eq_none_iff (by decide)).2 h] at hround
    exact loop_leave hround
  | @closed front source rest plain unclosed closed hopens hcloses h ih =>
    have hround := textRound_braces e es hopens (source ++ closingBraces ++ rest)
    rw [splitOnce?_closingBraces.2 ⟨rfl, hcloses⟩] at hround
    have hless : Utf8.size rest <
        Utf8.size (front ++ openingBraces ++ (source ++ closingBraces ++ rest)) := by
      simp only [Utf8.size_append, size_braces]
      omega
    refine (loop_again hround hless).trans ((ih _).trans ?_)
    have hpieces : pieces Node.text .interpolation ((front, source) :: closed) plain =
        piece .text front ++ [.interpolation (String.ofList (Text.trimBy Text.isBlank source))] ++
          pieces .text .interpolation closed plain := by
      simp [pieces]
    rw [hpieces, ← appendAll_append]
    rfl

/-! ## The tokens of a text -/

section Tokens

variable {cs plain unclosed rest : List Char} {closed : List (List Char × List Char)}

/-- In front of braces that open, a text is plain. -/
lemma isPlain_of_opens {front : List Char} (hlt : '<' ∉ front)
    (hopens : ¬ openingBraces <:+: front ++ ['\x7b']) (after : List Char) :
    Template.IsPlain front (openingBraces ++ after) := by
  refine ⟨hlt, fun xs ys hfront hys hprefix => ?_⟩
  have hne : openingBraces ≠ [] := by decide
  rw [← List.append_assoc] at hprefix
  exact Text.not_prefix_of_first hne hopens after xs ys hfront hys hprefix

/-- In front of markup, a text without double braces is plain. -/
lemma isPlain_of_markup {front : List Char} (hlt : '<' ∉ front)
    (hopens : ¬ openingBraces <:+: front) (hrest : rest = [] ∨ ∃ ds, rest = '<' :: ds) :
    Template.IsPlain front rest := by
  refine ⟨hlt, fun xs ys hfront hys hprefix => hopens ?_⟩
  have hinside : openingBraces <+: ys := by
    rcases hrest with rfl | ⟨ds, rfl⟩
    · rwa [List.append_nil] at hprefix
    · exact Text.prefix_of_stop hprefix (by decide)
  rw [hfront]
  exact hinside.isInfix.trans (List.suffix_append xs ys).isInfix

lemma tokens_piece {front : List Char} (h : Template.IsPlain front rest)
    (hrest : Template.Stops rest) :
    tokens (front ++ rest) = (piece .text front ++ (tokens rest).1, (tokens rest).2) := by
  cases front with
  | nil => rfl
  | cons c front => exact Template.tokens_plain h hrest

/-- A text in front of markup is read as its pieces, up to braces that are open. -/
theorem tokens_pairing (h : Pairing cs closed plain unclosed) (hlt : '<' ∉ outside closed plain)
    (hrest : rest = [] ∨ ∃ ds, rest = '<' :: ds) :
    tokens (cs ++ rest) =
      (pieces .text .interpolation closed plain ++ (tokens (unclosed ++ rest)).1,
        (tokens (unclosed ++ rest)).2) := by
  induction h with
  | plain h =>
    have hplain := isPlain_of_markup (by simpa [outside] using hlt) h hrest
    exact tokens_piece hplain (hrest.elim .inl fun h => .inr (.inl h))
  | @unclosed front after hopens h =>
    have hplain := isPlain_of_opens (by simpa [outside] using hlt) hopens (after ++ rest)
    rw [List.append_assoc, List.append_assoc,
      tokens_piece hplain (.inr (.inr ⟨after ++ rest, rfl⟩)), ← List.append_assoc _ after]
    rfl
  | @closed front source behind plain unclosed closed hopens hcloses h ih =>
    have hparts : '<' ∉ front ∧ '<' ∉ outside closed plain := by
      simpa [outside, not_or] using hlt
    have hplain := isPlain_of_opens hparts.1 hopens (source ++ closingBraces ++ (behind ++ rest))
    have hbraces := Template.tokens_braces (splitOnce?_closingBraces.2
      ⟨(rfl : source ++ closingBraces ++ (behind ++ rest) = _), hcloses⟩)
    have hshape : front ++ openingBraces ++ (source ++ closingBraces ++ behind) ++ rest =
        front ++ (openingBraces ++ (source ++ closingBraces ++ (behind ++ rest))) := by simp
    rw [hshape, tokens_piece hplain (.inr (.inr ⟨_, rfl⟩))]
    have hopening : openingBraces ++ (source ++ closingBraces ++ (behind ++ rest)) =
        '\x7b' :: '\x7b' :: (source ++ closingBraces ++ (behind ++ rest)) := rfl
    rw [hopening, hbraces, ih hparts.2]
    simp [pieces]

/-- Braces that are open stand in front of a text in which none close. -/
lemma Pairing.opened (h : Pairing cs closed plain unclosed) :
    unclosed = [] ∨ ∃ after, unclosed = openingBraces ++ after ∧
      Text.splitOnce? closingBraces after = none := by
  induction h with
  | plain h => exact .inl rfl
  | unclosed hopens h => exact .inr ⟨_, rfl, (Text.splitOnce?_eq_none_iff (by decide)).2 h⟩
  | closed hopens hcloses h ih => exact ih

end Tokens

/-! ## Both scanners -/

/-- Text ends at the first `<` outside closed expressions, and up to there it is added in its
pieces. Where there is no such `<` but one behind open braces, the text is refused. -/
theorem nextMarkup_pushText (before rest : List Char) (e : OpenElement) (es : List OpenElement) :
    ∃ found, nextMarkup (Utf8.encode (before ++ rest)) (Utf8.size before) = .ok found ∧
      match found with
      | some lt => ∃ between after closed plain, rest = between ++ '<' :: after ∧
          lt = Utf8.size (before ++ between) ∧
          (Utf8.encode (before ++ rest))[lt]? = some 0x3C ∧
          Pairing between closed plain [] ∧ '<' ∉ outside closed plain ∧
          pushText between (e :: es) =
            .ok (.ok ({ e with earlier :=
              (pieces .text .interpolation closed plain).reverse ++ e.earlier } :: es)) ∧
          tokens rest = (pieces .text .interpolation closed plain ++ (tokens ('<' :: after)).1,
            (tokens ('<' :: after)).2)
      | none => ∀ closed plain unclosed, Pairing rest closed plain unclosed →
          '<' ∈ outside closed plain ++ unclosed →
          ∃ after, unclosed = openingBraces ++ after ∧
            pushText rest (e :: es) =
              .ok (.error (.unclosedInterpolation (String.ofList after))) ∧
            tokens rest = (pieces .text .interpolation closed plain,
              some (.unclosedInterpolation (String.ofList after))) := by
  obtain ⟨found, hfound, h⟩ := nextMarkup_found (rfl : before ++ rest = before ++ rest) rfl
  refine ⟨found, hfound, ?_⟩
  cases h with
  | @markup between after plain closed hrest hpairing hout =>
    have hplace : Utf8.size before + Utf8.size between = Utf8.size (before ++ between) :=
      (Utf8.size_append _ _).symm
    have htext : before ++ rest = before ++ between ++ '<' :: after := by
      rw [hrest, List.append_assoc]
    refine ⟨between, after, closed, plain, hrest, hplace,
      getElem?_octet htext hplace (by decide), hpairing, hout, pushText_pairing hpairing e es, ?_⟩
    rw [hrest]
    exact tokens_pairing hpairing hout (.inr ⟨after, rfl⟩)
  | @none plain' unclosed' closed' hpairing hout =>
    intro closed plain unclosed h hmem
    obtain ⟨rfl, rfl, rfl⟩ := hpairing.unique h
    rcases hpairing.opened with rfl | ⟨after, rfl, hafter⟩
    · exact absurd (by simpa using hmem) hout
    · have htokens := tokens_pairing hpairing hout (.inl rfl)
      have hunclosed : tokens (openingBraces ++ after ++ []) =
          ([], some (.unclosedInterpolation (String.ofList after))) := by
        rw [List.append_nil]
        exact Template.tokens_unclosed hafter
      rw [hunclosed, List.append_nil, List.append_nil] at htokens
      exact ⟨after, rfl, pushText_pairing hpairing e es, htokens⟩

end Unbundled.Octets
