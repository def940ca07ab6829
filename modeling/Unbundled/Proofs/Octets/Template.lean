import Unbundled.Proofs.Octets.Component
import Unbundled.Proofs.Octets.Interpolation

/-!
# Templates read by places

A template is read in its octets: the next markup is looked for from the place behind the last one,
the text in front of it is added, and then what the markup stands for. The open elements are a
stack with an element for the roots at its bottom, which is never empty. No step fails, and the tree
is the one that the tokens of the template build.
-/

namespace Unbundled.Octets

open Template (Builder MarkupError Node OpenElement Token isTagChar textToken tokens voidElements)

/-! ## The scanners -/

/-- Takes the element that was opened last off the stack. -/
def pop : List OpenElement → Checked (OpenElement × List OpenElement)
  | [] => .error .emptyStack
  | e :: es => .ok (e, es)

def decodeAttribute (a : Markup.Attribute) : Checked Markup.Attribute :=
  match a.value? with
  | none => return ⟨a.name, none⟩
  | some v => do
    let decoded ← decodeEntities v.toList
    return ⟨a.name, some (String.ofList decoded)⟩

/-- Closes the element that was opened last. `close` stands behind the `</` at the place. -/
def endTagAt (start : Nat) (close : List Char) (stack : List OpenElement) :
    Checked (Except MarkupError (Nat × List OpenElement)) :=
  match find (Utf8.encode ['>']) (Utf8.encode close) with
  | none => return .error .unclosedEndTag
  | some stop => do
    let name ← textBetween close 0 stop
    let tag := String.ofList (Text.trimBy Text.isBlank name)
    if stack.length < 2 then return .error (.unexpectedEndTag tag)
    else
      let (e, stack) ← pop stack
      if e.tag = tag then
        let stack ← append (.element e.tag e.attributes e.earlier.reverse) stack
        return .ok (start + 2 + stop + 1, stack)
      else return .error (.mismatchedEndTag tag e.tag)

/-- Whether the name behind a `<`, which has `length` octets, is that of a tag. -/
def beginsTag (rest : List Char) (length : Nat) : Checked Bool :=
  if length = 0 then return false
  else do
    let b ← octetAt (Utf8.encode rest) 1
    return (asChar b).isAlpha

/-- Opens the element whose tag begins at the place with the name `name`. -/
def startTagAt (text : List Char) (start : Nat) (name : List Char) (stack : List OpenElement) :
    Checked (Except MarkupError (Nat × List OpenElement)) := do
  let tag := String.ofList name
  match ← tagAt text (start + 1 + Utf8.size name) with
  | none => return .error (.unclosedStartTag tag)
  | some (as, isClosed, next) =>
    let as ← as.mapM decodeAttribute
    if isClosed || voidElements.contains tag then
      let stack ← append (.element tag as []) stack
      return .ok (next, stack)
    else return .ok (next, ⟨tag, as, []⟩ :: stack)

/-- Reads what begins with the `<` at the place, up to the place behind it. -/
def markupAt (text : List Char) (start : Nat) (stack : List OpenElement) :
    Checked (Except MarkupError (Nat × List OpenElement)) := do
  let rest ← textFrom text start
  if Text.startsWith ['<', '!', '-', '-'] rest then
    match ← commentEnd? (Utf8.encode text) start with
    | none => return .error .unclosedComment
    | some next => return .ok (next, stack)
  else
    match Text.dropPrefix? ['<', '/'] rest with
    | some close => endTagAt start close stack
    | none =>
      let length ← nameLength isTagChar rest
      if ← beginsTag rest length then
        let name ← textBetween rest 1 (length + 1)
        startTagAt text start name stack
      else
        match ← pushText ['<'] stack with
        | .error e => return .error e
        | .ok stack => return .ok (start + 1, stack)

/-- Adds what stands in front of the next markup, unless that is nothing. -/
def textAt (text : List Char) (start stop : Nat) (stack : List OpenElement) :
    Checked (Except MarkupError (List OpenElement)) :=
  if start < stop then do
    let front ← textBetween text start stop
    pushText front stack
  else return .ok stack

/-- An error leaves the loop. -/
def turnOf {σ ε α : Type} : Except ε σ → Turn σ (Except ε α)
  | .error e => .leave (.error e)
  | .ok s => .again s

/-- Reads up to the next markup and what stands there. The state is the place and the open
elements. -/
def templateRound (text : List Char) (s : Nat × List OpenElement) :
    Checked (Turn (Nat × List OpenElement) (Except MarkupError (List OpenElement))) := do
  let file := Utf8.encode text
  if s.1 < file.length then
    match ← nextMarkup file s.1 with
    | none =>
      let rest ← textFrom text s.1
      let pushed ← pushText rest s.2
      return .leave pushed
    | some lt =>
      match ← textAt text s.1 lt s.2 with
      | .error e => return .leave (.error e)
      | .ok stack =>
        let read ← markupAt text lt stack
        return turnOf read
  else return .leave (.ok s.2)

/-- The roots, when all elements are closed. -/
def finish : List OpenElement → Checked (Except MarkupError (List Node))
  | e :: _ :: _ => return .error (.missingEndTag e.tag)
  | stack => do
    let (root, _) ← pop stack
    return .ok root.earlier.reverse

/-- The roots of a template, condensed. -/
def parse (source : String) : Checked (Except Script.Diagnostic (List Node)) := do
  let text := source.toList
  match ← loop (Utf8.size text - ·.1) (templateRound text) (0, [⟨"", [], []⟩]) with
  | .error e => return .error (.parseError e.text)
  | .ok stack =>
    match ← finish stack with
    | .error e => return .error (.parseError e.text)
    | .ok roots => return .ok (Template.condense roots)

/-! ## The stack and the builder -/

/-- The open elements and the element of the roots. -/
def frames (b : Builder) : List OpenElement := b.stack ++ [⟨"", [], b.roots⟩]

/-- The builder behind the tokens, or the error among them or behind them. -/
def run (b : Builder) (ts : List Token × Option MarkupError) : Except MarkupError Builder := do
  let b ← ts.1.foldlM Builder.step b
  match ts.2 with
  | some e => throw e
  | none => return b

lemma frames_ne_nil (b : Builder) : ∃ e es, frames b = e :: es :=
  List.exists_cons_of_ne_nil (by simp [frames])

lemma append_frames (b : Builder) (n : Node) : append n (frames b) = .ok (frames (b.append n)) := by
  obtain ⟨stack, roots⟩ := b
  cases stack <;> rfl

lemma appendAll_frames (b : Builder) (ns : List Node) :
    appendAll ns (frames b) = frames (ns.foldl Builder.append b) := by
  induction ns generalizing b with
  | nil =>
    obtain ⟨e, es, h⟩ := frames_ne_nil b
    simp [h, appendAll]
  | cons n ns ih =>
    have hone : appendAll [n] (frames b) = frames (b.append n) := by
      obtain ⟨e, es, h⟩ := frames_ne_nil b
      have happend := append_frames b n
      rw [h] at happend ⊢
      exact Except.ok.inj happend
    rw [← List.singleton_append, ← appendAll_append, hone, ih]
    rfl

lemma finish_frames (b : Builder) : finish (frames b) = .ok b.finish := by
  obtain ⟨stack, roots⟩ := b
  match stack with
  | [] => rfl
  | [e] => rfl
  | e :: f :: es => rfl

lemma foldlM_piece (b : Builder) (cs : List Char) :
    (piece Token.text cs).foldlM Builder.step b =
      .ok ((piece Node.text cs).foldl Builder.append b) := by
  rw [piece, piece]
  split_ifs <;> rfl

lemma foldlM_pieces (b : Builder) (closed : List (List Char × List Char)) (plain : List Char) :
    (pieces Token.text .interpolation closed plain).foldlM Builder.step b =
      .ok ((pieces Node.text .interpolation closed plain).foldl Builder.append b) := by
  induction closed generalizing b with
  | nil => exact foldlM_piece b plain
  | cons pair closed ih =>
    simp only [pieces, List.flatMap_cons, List.append_assoc] at ih ⊢
    rw [List.foldlM_append, foldlM_piece, List.foldl_append]
    exact ih _

/-- The builder goes on behind the first of the tokens. -/
lemma run_cons (b : Builder) (t : Token) (ts : List Token × Option MarkupError) :
    run b (t :: ts.1, ts.2) = (b.step t).bind fun b => run b ts := by
  rw [run, List.foldlM_cons]
  cases b.step t <;> rfl

lemma run_pieces (b : Builder) (closed : List (List Char × List Char)) (plain : List Char)
    (ts : List Token × Option MarkupError) :
    run b (pieces .text .interpolation closed plain ++ ts.1, ts.2) =
      run ((pieces .text .interpolation closed plain).foldl Builder.append b) ts := by
  rw [run, List.foldlM_append, foldlM_pieces]
  rfl

lemma build_eq (ts : List Token × Option MarkupError) :
    Template.build ts.1 ts.2 = (run {} ts).bind Builder.finish := by
  rw [Template.build, run]
  cases ts.1.foldlM Builder.step {} with
  | error e => rfl
  | ok b => cases ts.2 <;> rfl

/-- Text is added to the open element as the builder adds it. -/
lemma pushText_frames {cs plain unclosed : List Char} {closed : List (List Char × List Char)}
    (h : Pairing cs closed plain unclosed) (b : Builder) :
    pushText cs (frames b) = .ok (
      if unclosed = [] then
        .ok (frames ((pieces .text .interpolation closed plain).foldl Builder.append b))
      else .error (.unclosedInterpolation (String.ofList (unclosed.drop 2)))) := by
  obtain ⟨e, es, hframes⟩ := frames_ne_nil b
  rw [hframes, pushText_pairing h, ← hframes, appendAll_frames]

/-! ## Markup -/

lemma decodeAttribute_eq (a : Markup.Attribute) :
    decodeAttribute a = .ok (Template.decodeAttribute a) := by
  obtain ⟨name, value?⟩ := a
  cases value? with
  | none => rfl
  | some v =>
    rw [decodeAttribute]
    dsimp only
    rw [decodeEntities_eq]
    rfl

lemma decodeAttributes_eq (as : List Markup.Attribute) :
    as.mapM decodeAttribute = .ok (as.map Template.decodeAttribute) := by
  induction as with
  | nil => rfl
  | cons a as ih =>
    rw [List.mapM_cons, decodeAttribute_eq, ih]
    rfl

section Markup

variable {text before : List Char} {i : Nat}

/-- What is read where markup begins in front of `cs`, and what it does to the open elements. -/
inductive ReadsAs (i : Nat) (cs : List Char) (b : Builder) :
    Except MarkupError (Nat × List OpenElement) → Prop
  | refused {e : MarkupError} (h : Template.markup cs = .error e) : ReadsAs i cs b (.error e)
  | taken {t : Token} {taken rest : List Char} (h : Template.markup cs = .ok (t, rest))
      (hcs : cs = taken ++ rest) :
      ReadsAs i cs b ((b.step t).map fun b => (i + Utf8.size ('<' :: taken), frames b))

lemma markup_endTag (cs : List Char) : Template.markup ('/' :: cs) =
    match Text.splitOnce? ['>'] cs with
    | none => .error .unclosedEndTag
    | some (name, rest) =>
      .ok (.endTag (String.ofList (Text.trimBy Text.isBlank name)), rest) := rfl

/-- An end tag closes the element that was opened last, unless that is the one of the roots. -/
lemma endTagAt_eq (cs : List Char) (b : Builder) :
    ∃ read, endTagAt i cs (frames b) = .ok read ∧ ReadsAs i ('/' :: cs) b read := by
  have hmarkup := markup_endTag cs
  rw [endTagAt, find_encode (by simp) (by decide)]
  cases hcut : Text.splitOnce? ['>'] cs with
  | none =>
    rw [hcut] at hmarkup
    exact ⟨_, rfl, .refused hmarkup⟩
  | some parts =>
    obtain ⟨name, rest⟩ := parts
    have hcs := Text.splitOnce?_eq_some hcut
    have hname : textBetween cs 0 (Utf8.size name) = .ok name :=
      textUpTo_eq (hcs.trans (List.append_assoc _ _ _))
    rw [hcut] at hmarkup
    have hparts : '/' :: cs = '/' :: name ++ ['>'] ++ rest := by
      rw [hcs, List.cons_append, List.cons_append]
    refine ⟨_, ?_, .taken hmarkup hparts⟩
    simp only [Option.map_some]
    rw [hname, ok_bind]
    obtain ⟨stack, roots⟩ := b
    cases stack with
    | nil => rfl
    | cons e es =>
      have hlength : ¬ (frames ⟨e :: es, roots⟩).length < 2 := by simp [frames]
      have hpop : pop (frames ⟨e :: es, roots⟩) = .ok (e, frames ⟨es, roots⟩) := rfl
      have hplace : i + 2 + Utf8.size name + 1 = i + Utf8.size ('<' :: ('/' :: name ++ ['>'])) := by
        simp only [List.cons_append, Utf8.size_cons, Utf8.size_append, Utf8.size_nil,
          Component.size_marks]
        omega
      rw [if_neg hlength, hpop, ok_bind, Builder.step]
      dsimp only
      by_cases htag : e.tag = String.ofList (Text.trimBy Text.isBlank name)
      · rw [if_pos htag, if_pos htag, append_frames, ok_bind, hplace]
        rfl
      · rw [if_neg htag, if_neg htag]
        rfl

/-- A start tag opens an element, unless it is one without children. -/
lemma startTagAt_eq {c : Char} {cs : List Char} (h : text = before ++ '<' :: c :: cs)
    (hi : i = Utf8.size before) (hc : c.isAlpha) (b : Builder) :
    ∃ read, startTagAt text i ((c :: cs).takeWhile isTagChar) (frames b) = .ok read ∧
      ReadsAs i (c :: cs) b read := by
  have hmarkup := Template.markup_startTag hc cs
  have hparts : c :: cs = (c :: cs).takeWhile isTagChar ++ (c :: cs).dropWhile isTagChar :=
    List.takeWhile_append_dropWhile.symm
  rw [Template.startTag] at hmarkup
  rw [startTagAt, tagAt_eq (by decide) h hi, ok_bind]
  generalize (c :: cs).takeWhile isTagChar = name at *
  generalize (c :: cs).dropWhile isTagChar = after at *
  cases hend : Markup.tagEnd? after with
  | none =>
    rw [hend] at hmarkup
    exact ⟨_, rfl, .refused hmarkup⟩
  | some parts =>
    obtain ⟨inside, rest⟩ := parts
    rw [hend] at hmarkup
    simp only [Option.map_some] at hmarkup ⊢
    generalize Markup.withoutSlash inside = inner at hmarkup ⊢
    rw [decodeAttributes_eq, ok_bind]
    have hrest : c :: cs = (name ++ inside ++ ['>']) ++ rest := by
      rw [hparts, Markup.tagEnd?_eq_some hend]
      simp
    have hbehind : i + 1 + Utf8.size name + Utf8.size inside + 1 =
        i + Utf8.size ('<' :: (name ++ inside ++ ['>'])) := by
      simp only [Utf8.size_cons, Utf8.size_append, Utf8.size_nil, Component.size_marks]
      omega
    rw [hbehind]
    refine ⟨_, ?_, .taken hmarkup hrest⟩
    rw [Builder.step]
    split_ifs
    · rw [append_frames]
      rfl
    · rfl

/-- A `<` in front of anything else is text. -/
lemma markup_text {cs : List Char} (hcomment : ¬ Text.startsWith ['!', '-', '-'] cs)
    (hend : ∀ close, cs ≠ '/' :: close) (hletter : ¬ cs.head?.any Char.isAlpha) :
    Template.markup cs = .ok (textToken ['<'], cs) := by
  have hnone : Text.dropPrefix? ['!', '-', '-'] cs = none := by
    simpa [Text.startsWith] using hcomment
  unfold Template.markup
  rw [hnone]
  dsimp only
  split
  · next close => exact absurd rfl (hend close)
  · next c after => exact if_neg hletter
  · rfl

lemma isAsciiProperty_alpha : IsAsciiProperty Char.isAlpha := by
  have hlarge (c : Char) (hc : 0x7F < c.toNat) : c.isAlpha = false := by
    rw [Bool.eq_false_iff, ne_eq, Markup.isAlpha_iff_toNat]
    omega
  intro c d hc hd
  rw [hlarge c hc, hlarge d hd]

/-- A name begins with a letter. -/
lemma beginsTag_eq (cs : List Char) :
    beginsTag ('<' :: cs) (Utf8.size (cs.takeWhile isTagChar)) =
      .ok (cs.head?.any Char.isAlpha) := by
  have htag {c : Char} (hc : c.isAlpha) : isTagChar c := by
    simp [isTagChar, Char.isAlphanum, hc]
  cases cs with
  | nil => rfl
  | cons c cs =>
    by_cases hname : isTagChar c
    · have hpos : 0 < Utf8.size ((c :: cs).takeWhile isTagChar) := size_pos (by simp [hname])
      have hparts : '<' :: c :: cs = ['<'] ++ c :: cs := rfl
      have hone : 1 = Utf8.size ['<'] := rfl
      obtain ⟨b, hb, hget⟩ := exists_octet hparts hone
      rw [beginsTag, if_neg (by omega), octetAt, hget]
      change Except.ok (asChar b).isAlpha = _
      rw [isAsciiProperty_alpha.octet b hb]
      rfl
    · have hnot : c.isAlpha = false := Bool.eq_false_iff.2 fun hc => hname (htag hc)
      rw [List.takeWhile_cons_of_neg hname, beginsTag, if_pos Utf8.size_nil, List.head?_cons,
        Option.any_some, hnot]
      rfl

/-- Markup is read without a failure, and as the token that it is. -/
lemma markupAt_eq {cs : List Char} (h : text = before ++ '<' :: cs) (hi : i = Utf8.size before)
    (b : Builder) :
    ∃ read, markupAt text i (frames b) = .ok read ∧ ReadsAs i cs b read := by
  rw [markupAt, textFrom_eq h hi, ok_bind]
  by_cases hcomment : Text.startsWith ['!', '-', '-'] cs
  · have hstart : Text.startsWith ['<', '!', '-', '-'] ('<' :: cs) = true := hcomment
    obtain ⟨inside, hinside⟩ := Option.isSome_iff_exists.1 hcomment
    rw [if_pos hstart, commentEnd?_eq h hi, ok_bind]
    cases hend : Text.splitOnce? ['-', '-', '>'] cs with
    | none =>
      have hmarkup : Template.markup cs = .error .unclosedComment := by
        unfold Template.markup
        simp only [hinside, hend]
      exact ⟨_, rfl, .refused hmarkup⟩
    | some parts =>
      have hmarkup : Template.markup cs = .ok (.comment, parts.2) := by
        unfold Template.markup
        simp only [hinside, hend]
      exact ⟨_, rfl, .taken hmarkup (Text.splitOnce?_eq_some hend)⟩
  have hstart : ¬ Text.startsWith ['<', '!', '-', '-'] ('<' :: cs) := hcomment
  rw [if_neg hstart]
  by_cases hend : ∃ close, cs = '/' :: close
  · obtain ⟨close, rfl⟩ := hend
    exact endTagAt_eq close b
  have hclose : Text.dropPrefix? ['<', '/'] ('<' :: cs) = none := by
    refine Text.dropPrefix?_eq_none fun hprefix => hend ?_
    obtain ⟨close, hcs⟩ := hprefix
    exact ⟨close, (List.cons.inj hcs).2.symm⟩
  rw [hclose]
  dsimp only
  rw [nameLength_eq, ok_bind, beginsTag_eq, ok_bind]
  by_cases hletter : cs.head?.any Char.isAlpha
  · cases cs with
    | nil => cases hletter
    | cons c cs =>
      rw [if_pos hletter, textBetween_name, ok_bind]
      exact startTagAt_eq h hi (by simpa using hletter) b
  · have hmarkup := markup_text hcomment (fun close hcs => hend ⟨close, hcs⟩) hletter
    have hpush := pushText_frames (.plain (by decide) : Pairing ['<'] [] ['<'] []) b
    rw [if_pos rfl] at hpush
    rw [if_neg hletter, hpush, ok_bind]
    have hparts : cs = [] ++ cs := rfl
    exact ⟨_, rfl, .taken hmarkup hparts⟩

end Markup

/-! ## Templates -/

section Places

variable {text before rest : List Char} {i : Nat}

/-- The text in front of markup is added in its pieces. -/
lemma textAt_eq {between behind plain : List Char} {closed : List (List Char × List Char)}
    (h : text = before ++ between ++ behind) (hi : i = Utf8.size before)
    (hpairing : Pairing between closed plain []) (b : Builder) :
    textAt text i (i + Utf8.size between) (frames b) =
      .ok (.ok (frames ((pieces .text .interpolation closed plain).foldl Builder.append b))) := by
  rw [textAt]
  by_cases hne : between = []
  · subst hne
    obtain ⟨rfl, rfl, -⟩ := (Pairing.plain (by decide) : Pairing [] [] [] []).unique hpairing
    rw [if_neg (by simp)]
    rfl
  · have hpos := size_pos hne
    rw [if_pos (by omega), textBetween_eq h hi rfl, ok_bind, pushText_frames hpairing, if_pos rfl]

/-- Where no markup follows, the rest is text. -/
lemma templateRound_text {plain unclosed : List Char} {closed : List (List Char × List Char)}
    (h : text = before ++ rest) (hi : i = Utf8.size before) (hne : rest ≠ [])
    (hnext : nextMarkup (Utf8.encode text) i = .ok none)
    (hpairing : Pairing rest closed plain unclosed) (b : Builder) :
    templateRound text (i, frames b) = .ok (.leave (
      if unclosed = [] then
        .ok (frames ((pieces .text .interpolation closed plain).foldl Builder.append b))
      else .error (.unclosedInterpolation (String.ofList (unclosed.drop 2))))) := by
  rw [templateRound]
  dsimp only
  rw [if_pos ((lt_length_iff h hi).2 hne), hnext, ok_bind]
  dsimp only
  rw [textFrom_eq h hi, ok_bind, pushText_frames hpairing]
  rfl

/-- The text in front of markup is added, and the markup is read. -/
lemma templateRound_markup {between after plain : List Char}
    {closed : List (List Char × List Char)} {read : Except MarkupError (Nat × List OpenElement)}
    (h : text = before ++ between ++ '<' :: after) (hi : i = Utf8.size before)
    (hnext : nextMarkup (Utf8.encode text) i = .ok (some (i + Utf8.size between)))
    (hpairing : Pairing between closed plain []) {b : Builder}
    (hread : markupAt text (i + Utf8.size between)
      (frames ((pieces .text .interpolation closed plain).foldl Builder.append b)) = .ok read) :
    templateRound text (i, frames b) = .ok (turnOf read) := by
  have hless : i < (Utf8.encode text).length :=
    (lt_length_iff (h.trans (List.append_assoc _ _ _)) hi).2 (by simp)
  rw [templateRound]
  dsimp only
  rw [if_pos hless, hnext, ok_bind]
  dsimp only
  rw [textAt_eq h hi hpairing, ok_bind]
  dsimp only
  rw [hread]
  rfl

/-- A round ends where the builder ends, or does what the builder does with some tokens and takes
their text off the rest. -/
lemma templateRound_eq (b : Builder) (h : text = before ++ rest) (hi : i = Utf8.size before) :
    templateRound text (i, frames b) = .ok (.leave ((run b (tokens rest)).map frames)) ∨
      ∃ taken behind b', taken ≠ [] ∧ rest = taken ++ behind ∧
        templateRound text (i, frames b) = .ok (.again (i + Utf8.size taken, frames b')) ∧
        run b' (tokens behind) = run b (tokens rest) := by
  by_cases hnil : rest = []
  · left
    rw [templateRound]
    dsimp only
    rw [if_neg fun hless => (lt_length_iff h hi).1 hless hnil, hnil, tokens]
    rfl
  obtain ⟨found, hnext, hfound⟩ := nextMarkup_found h hi
  cases hfound with
  | @none plain unclosed closed hpairing hout =>
    left
    have htokens := tokens_pairing hpairing hout (.inl rfl)
    rw [List.append_nil, List.append_nil] at htokens
    rw [templateRound_text h hi hnil hnext hpairing b, htokens, run_pieces]
    rcases hpairing.opened with rfl | ⟨after, rfl, hafter⟩
    · rw [if_pos rfl, tokens]
      rfl
    · have hunclosed : tokens (openingBraces ++ after) =
          ([], some (.unclosedInterpolation (String.ofList after))) :=
        Template.tokens_unclosed hafter
      rw [if_neg (by simp [openingBraces]), hunclosed]
      rfl
  | @markup between after plain closed hrest hpairing hout =>
    have htokens := tokens_pairing hpairing hout (.inr ⟨after, rfl⟩)
    rw [List.nil_append, ← hrest] at htokens
    have htext : text = before ++ between ++ '<' :: after := by
      rw [h, hrest, List.append_assoc]
    have hplace : i + Utf8.size between = Utf8.size (before ++ between) := by
      rw [Utf8.size_append, hi]
    obtain ⟨read, hread, hreads⟩ := markupAt_eq htext hplace
      ((pieces .text .interpolation closed plain).foldl Builder.append b)
    rw [templateRound_markup htext hi hnext hpairing hread, htokens, run_pieces]
    cases hreads with
    | refused hmarkup =>
      rw [Template.tokens_refused hmarkup]
      exact .inl rfl
    | @taken t taken behind hmarkup hafter =>
      rw [Template.tokens_markup hmarkup, run_cons]
      cases Builder.step ((pieces .text .interpolation closed plain).foldl Builder.append b) t with
      | error e => exact .inl rfl
      | ok b' =>
        refine .inr ⟨between ++ '<' :: taken, behind, b', by simp, by rw [hrest, hafter]; simp,
          ?_, rfl⟩
        rw [Utf8.size_append, ← Nat.add_assoc]
        rfl

/-- From every place between two tokens, the scanner does what the builder does with the tokens
that follow. -/
lemma template_from (b : Builder) (h : Stands text i rest) :
    loop (Utf8.size text - ·.1) (templateRound text) (i, frames b) =
      .ok ((run b (tokens rest)).map frames) := by
  refine loop_eq (R := fun (x : Builder × List Char) (s : Nat × List OpenElement) =>
      s.2 = frames x.1 ∧ Stands text s.1 x.2) (f := fun x _ => (run x.1 (tokens x.2)).map frames)
    (x := (b, rest)) ?_ ⟨rfl, h⟩
  rintro ⟨b, rest⟩ ⟨i, _⟩ ⟨rfl, before, h, hi⟩
  rcases templateRound_eq b h hi with hleave | ⟨taken, behind, b', hne, rfl, hagain, hsame⟩
  · exact .inl hleave
  · have hstands : Stands text i (taken ++ behind) := ⟨before, h, hi⟩
    exact .inr ⟨(b', behind), _, hagain, hstands.less hne, ⟨rfl, hstands.behind⟩, by rw [hsame]⟩

end Places

/-- A template is read without a failure, and as the tokens of its text build it. -/
theorem parse_eq (source : String) : parse source = .ok (Template.parse source) := by
  have hroot : frames {} = [⟨"", [], []⟩] := rfl
  have hloop := template_from {} (stands_start source.toList)
  rw [hroot] at hloop
  rw [parse, hloop, ok_bind, Template.parse]
  dsimp only
  rw [build_eq]
  cases run {} (tokens source.toList) with
  | error e => rfl
  | ok b =>
    simp only [Except.map, Except.bind]
    rw [finish_frames, ok_bind]
    cases b.finish <;> rfl

/-- Whatever the text is, component files and templates are read by places without a failure: no
place is out of range or inside a character, no stretch ends in front of its start, no number falls
below zero, no loop stands still and the stack is never empty. What is read is what the readers of
characters read. -/
theorem read_without_fault (source : String) :
    parts source = .ok (Component.Parts.ofText source) ∧
      parse source = .ok (Template.parse source) :=
  ⟨parts_eq source, parse_eq source⟩

end Unbundled.Octets
