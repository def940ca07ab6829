import Unbundled.Proofs.Template.Spelling

/-!
# Tokens of spelled templates

Each stretch of a spelled template is read as its own tokens, whatever follows it. Text is the
exception: it has to be followed by markup, an expression or the end.
-/

namespace Unbundled.Template

open Markup (Attribute SpellsAll)
open Text (splitOnce?_append dropPrefix?_append dropPrefix?_eq_none)

/-- The stretch `cs` is read as the tokens `ts`. -/
def Reads (cs : List Char) (ts : List Token) : Prop :=
  ∀ rest, tokens (cs ++ rest) = (ts ++ (tokens rest).1, (tokens rest).2)

/-- Where a text ends. -/
def Stops (rest : List Char) : Prop :=
  rest = [] ∨ (∃ cs, rest = '<' :: cs) ∨ ∃ cs, rest = '\x7b' :: '\x7b' :: cs

/-- The stretch `cs` is read as the tokens `ts` where text ends behind it. -/
def ReadsUpTo (cs : List Char) (ts : List Token) : Prop :=
  ∀ rest, Stops rest → tokens (cs ++ rest) = (ts ++ (tokens rest).1, (tokens rest).2)

lemma Reads.upTo {cs : List Char} {ts : List Token} (h : Reads cs ts) : ReadsUpTo cs ts :=
  fun rest _ => h rest

lemma reads_nil : Reads [] [] := fun _ => rfl

lemma Reads.append {cs ds : List Char} {ts us : List Token} (h₁ : Reads cs ts)
    (h₂ : ReadsUpTo ds us) : ReadsUpTo (cs ++ ds) (ts ++ us) := by
  intro rest hrest
  rw [List.append_assoc, h₁, h₂ rest hrest, List.append_assoc]

lemma Reads.trans {cs ds : List Char} {ts us : List Token} (h₁ : Reads cs ts)
    (h₂ : Reads ds us) : Reads (cs ++ ds) (ts ++ us) := by
  intro rest
  rw [List.append_assoc, h₁, h₂, List.append_assoc]

/-- A stretch that ends in text may be followed by one that ends it. -/
lemma ReadsUpTo.append {cs ds : List Char} {ts us : List Token} (h₁ : ReadsUpTo cs ts)
    (h₂ : ReadsUpTo ds us) (hstops : ∀ rest, Stops rest → Stops (ds ++ rest)) :
    ReadsUpTo (cs ++ ds) (ts ++ us) := by
  intro rest hrest
  rw [List.append_assoc, h₁ _ (hstops rest hrest), h₂ rest hrest, List.append_assoc]

/-! ## Single tokens -/

lemma tokens_markup {cs rest : List Char} {t : Token} (h : markup cs = .ok (t, rest)) :
    tokens ('<' :: cs) = (t :: (tokens rest).1, (tokens rest).2) := by
  rw [tokens, if_pos rfl]
  split
  · next he => rw [h] at he; cases he
  · next t' rest' hok =>
    rw [h] at hok
    cases hok
    rfl

lemma tokens_refused {cs : List Char} {e : MarkupError} (h : markup cs = .error e) :
    tokens ('<' :: cs) = ([], some e) := by
  rw [tokens, if_pos rfl]
  split
  · next he =>
    rw [h] at he
    cases he
    rfl
  · next hok => rw [h] at hok; cases hok

lemma tokens_braces {after source rest : List Char}
    (h : Text.splitOnce? ['\x7d', '\x7d'] after = some (source, rest)) :
    tokens ('\x7b' :: '\x7b' :: after) =
      (.interpolation (String.ofList (Text.trimBy Text.isBlank source)) :: (tokens rest).1,
        (tokens rest).2) := by
  have hbraces : Text.dropPrefix? ['\x7b', '\x7b'] ('\x7b' :: '\x7b' :: after) = some after :=
    dropPrefix?_append ['\x7b', '\x7b'] after
  rw [tokens, if_neg (by decide)]
  split
  · next after' hb =>
    rw [hbraces] at hb
    cases hb
    split
    · next hs => rw [h] at hs; cases hs
    · next hs =>
      rw [h] at hs
      cases hs
      rfl
  · next hb => rw [hbraces] at hb; cases hb

lemma tokens_unclosed {after : List Char}
    (h : Text.splitOnce? ['\x7d', '\x7d'] after = none) :
    tokens ('\x7b' :: '\x7b' :: after) =
      ([], some (.unclosedInterpolation (String.ofList after))) := by
  have hbraces : Text.dropPrefix? ['\x7b', '\x7b'] ('\x7b' :: '\x7b' :: after) = some after :=
    dropPrefix?_append ['\x7b', '\x7b'] after
  rw [tokens, if_neg (by decide)]
  split
  · next after' hb =>
    rw [hbraces] at hb
    cases hb
    split
    · rfl
    · next hs => rw [h] at hs; cases hs
  · next hb => rw [hbraces] at hb; cases hb

/-- In front of `rest`, neither markup nor double braces begin in `cs`. -/
def IsPlain (cs rest : List Char) : Prop :=
  '<' ∉ cs ∧ ∀ xs ys, cs = xs ++ ys → ys ≠ [] → ¬ ['\x7b', '\x7b'] <+: ys ++ rest

lemma IsPlain.tail {c : Char} {cs rest : List Char} (h : IsPlain (c :: cs) rest) :
    IsPlain cs rest :=
  ⟨fun hmem => h.1 (List.mem_cons_of_mem c hmem),
    fun xs ys hcs => h.2 (c :: xs) ys (by rw [hcs]; rfl)⟩

lemma isPlain_of_forall {cs : List Char} (h : ∀ c ∈ cs, c ≠ '<' ∧ c ≠ '\x7b')
    (rest : List Char) : IsPlain cs rest := by
  refine ⟨fun hmem => (h _ hmem).1 rfl, fun xs ys hcs hys hprefix => ?_⟩
  obtain ⟨y, ys, rfl⟩ := List.exists_cons_of_ne_nil hys
  rw [List.cons_append, List.cons_prefix_cons] at hprefix
  exact (h y (by simp [hcs])).2 hprefix.1.symm

lemma textRun_stops {cs rest : List Char} (h : IsPlain cs rest) (hrest : Stops rest) :
    textRun (cs ++ rest) = (cs, rest) := by
  induction cs with
  | nil => rcases hrest with rfl | ⟨cs, rfl⟩ | ⟨cs, rfl⟩ <;> rfl
  | cons c cs ih =>
    rw [List.cons_append, textRun, ih h.tail]
    · exact fun hlt => h.1 (by simp [hlt])
    · rintro ds rfl hds
      refine h.2 [] ('\x7b' :: cs) rfl (by simp) ?_
      rw [List.cons_append, hds]
      exact List.prefix_append ['\x7b', '\x7b'] ds

lemma tokens_plain {c : Char} {cs rest : List Char} (h : IsPlain (c :: cs) rest)
    (hrest : Stops rest) :
    tokens (c :: cs ++ rest) = (textToken (c :: cs) :: (tokens rest).1, (tokens rest).2) := by
  have hlt : c ≠ '<' := fun hlt => h.1 (by simp [hlt])
  have hnone : Text.dropPrefix? ['\x7b', '\x7b'] (c :: (cs ++ rest)) = none :=
    dropPrefix?_eq_none (h.2 [] (c :: cs) rfl (by simp))
  rw [List.cons_append, tokens, if_neg hlt]
  split
  · next hb => rw [hnone] at hb; cases hb
  · dsimp only
    rw [textRun_stops h.tail hrest]

lemma tokens_text {c : Char} {cs rest : List Char} (h : ∀ d ∈ c :: cs, d ≠ '<' ∧ d ≠ '\x7b')
    (hrest : Stops rest) :
    tokens (c :: cs ++ rest) = (textToken (c :: cs) :: (tokens rest).1, (tokens rest).2) :=
  tokens_plain (isPlain_of_forall h rest) hrest

/-! ## Comments, expressions and tags -/

/-- The end of a comment is not seen before it comes. -/
lemma splitOnce?_comment {cs : List Char} (h : isComment cs) (rest : List Char) :
    Text.splitOnce? ['-', '-', '>'] ('!' :: '-' :: '-' :: cs ++ ['-', '-', '>'] ++ rest) =
      some ('!' :: '-' :: '-' :: cs, rest) := by
  apply splitOnce?_append (by simp)
  intro xs ys hcs hys hprefix
  match ys with
  | [] => exact hys rfl
  | [a] => simp at hprefix
  | [a, b] => simp at hprefix
  | a :: b :: c :: ys =>
    obtain ⟨rfl, rfl, rfl⟩ : '-' = a ∧ '-' = b ∧ '>' = c := by simpa using hprefix
    have hinfix : ['-', '-', '>'] <:+: '!' :: '-' :: '-' :: cs := ⟨xs, ys, by simp [hcs]⟩
    rw [List.infix_cons_iff] at hinfix
    rcases hinfix with hinfix | hinfix
    · simp at hinfix
    · exact h hinfix

lemma reads_comment {cs : List Char} (h : isComment cs) :
    Reads ('<' :: '!' :: '-' :: '-' :: (cs ++ ['-', '-', '>'])) [.comment] := by
  intro rest
  have hcut := splitOnce?_comment h rest
  have hmarkup : markup ('!' :: '-' :: '-' :: cs ++ ['-', '-', '>'] ++ rest) =
      .ok (.comment, rest) := by
    unfold markup
    rw [hcut]
    rfl
  have hread := tokens_markup hmarkup
  simpa using hread

/-- An expression goes up to the first two braces that close it. -/
lemma reads_braces {source : List Char} (h : ¬ ['\x7d', '\x7d'] <:+: source ++ ['\x7d']) :
    Reads ('\x7b' :: '\x7b' :: (source ++ ['\x7d', '\x7d']))
      [.interpolation (String.ofList (Text.trimBy Text.isBlank source))] := by
  intro rest
  have hread := tokens_braces (Text.splitOnce?_first (by simp) h rest)
  simpa using hread

/-- A blank in front of the closing braces keeps them apart from braces of the expression. -/
lemma not_closed_padded {cs : List Char} (h : ¬ ['\x7d', '\x7d'] <:+: cs) :
    ¬ ['\x7d', '\x7d'] <:+: ' ' :: (cs ++ [' ']) ++ ['\x7d'] := by
  rw [List.infix_concat_iff, List.cons_append, List.infix_cons_iff, List.infix_concat_iff]
  rintro (⟨xs, hxs⟩ | hprefix | ⟨xs, hxs⟩ | hinside)
  · have hends : xs ++ ['\x7d'] = ' ' :: (cs ++ [' ']) :=
      List.append_inj_left' (by simpa using hxs) rfl
    simpa [List.getLast?_cons] using congrArg List.getLast? hends
  · simp at hprefix
  · simpa using congrArg List.getLast? hxs
  · exact h hinside

lemma reads_interpolation {source : String} (trimmed : Text.trim source = source)
    (inside : ¬ ['\x7d', '\x7d'] <:+: source.toList) :
    Reads ('\x7b' :: '\x7b' :: (' ' :: (source.toList ++ [' ']) ++ ['\x7d', '\x7d']))
      [.interpolation source] := by
  have hread := reads_braces (not_closed_padded inside)
  have htrim : Text.trimBy Text.isBlank source.toList = source.toList := by
    rw [Text.trim, ← String.toList_inj, String.toList_ofList] at trimmed
    exact trimmed
  rwa [Text.trimBy_pad (by decide) (by decide) htrim, String.ofList_toList] at hread

lemma reads_text {s : String} {written : List Char} (hs : s ≠ "")
    (h : SpellsAll isTextChar s.toList written) : ReadsUpTo written [.text s] := by
  intro rest hrest
  have hne := Markup.spellsAll_ne_nil h (by simpa using hs)
  have hlt : '<' ∉ written :=
    Markup.not_mem_spellsAll h (by decide) (by decide) (by decide) (by decide)
  have hbrace : '\x7b' ∉ written :=
    Markup.not_mem_spellsAll h (by decide) (by decide) (by decide) (by decide)
  obtain ⟨c, cs, rfl⟩ := List.exists_cons_of_ne_nil hne
  have hplain : ∀ d ∈ c :: cs, d ≠ '<' ∧ d ≠ '\x7b' := fun d hd =>
    ⟨fun he => hlt (he ▸ hd), fun he => hbrace (he ▸ hd)⟩
  rw [tokens_text hplain hrest, textToken, Markup.decodeEntities_spellsAll h,
    String.ofList_toList]
  rfl

lemma isTag_cases {tag : String} (htag : isTag tag) :
    ∃ c cs, tag.toList = c :: cs ∧ c.isAlpha ∧ tag.toList.all isTagChar := by
  rw [isTag, Bool.and_eq_true] at htag
  cases htext : tag.toList with
  | nil => simp [htext] at htag
  | cons c cs =>
    rw [htext] at htag
    exact ⟨c, cs, rfl, by simpa using htag.1, htag.2⟩

lemma not_blank_of_isTagChar {c : Char} (h : isTagChar c) : Text.isBlank c = false := by
  simp only [isTagChar, Bool.or_eq_true, decide_eq_true_eq, Markup.isAlphanum_iff] at h
  rcases h with (((h | rfl) | rfl) | rfl) | rfl
  · rw [Bool.eq_false_iff]
    simp only [Text.isBlank, ne_eq, Bool.or_eq_true, Bool.and_eq_true, decide_eq_true_eq]
    omega
  · rfl
  · rfl
  · rfl
  · rfl

/-- An end tag goes up to the first `>`; blanks around its name are left out. -/
lemma reads_namedEnd {name : List Char} (h : '>' ∉ name) :
    Reads ('<' :: '/' :: (name ++ ['>']))
      [.endTag (String.ofList (Text.trimBy Text.isBlank name))] := by
  intro rest
  have hcut : Text.splitOnce? ['>'] (name ++ ['>'] ++ rest) = some (name, rest) :=
    Text.splitOnce?_first (by simp) (fun hmem => h (by simpa using hmem.subset)) rest
  have hmarkup : markup ('/' :: (name ++ ['>'] ++ rest)) =
      .ok (.endTag (String.ofList (Text.trimBy Text.isBlank name)), rest) := by
    have hdrop : Text.dropPrefix? ['!', '-', '-'] ('/' :: (name ++ ['>'] ++ rest)) = none := rfl
    unfold markup
    rw [hdrop]
    simp only [hcut]
  have hread := tokens_markup hmarkup
  simpa using hread

lemma reads_endTag {tag : String} (htag : isTag tag) :
    Reads ('<' :: '/' :: (tag.toList ++ ['>'])) [.endTag tag] := by
  obtain ⟨-, -, -, -, hall⟩ := isTag_cases htag
  rw [List.all_eq_true] at hall
  have hread := reads_namedEnd fun hmem => absurd (hall '>' hmem) (by decide)
  rwa [Text.trimBy_of_none fun c hc => not_blank_of_isTagChar (hall c hc),
    String.ofList_toList] at hread

lemma markup_startTag {c : Char} (hc : c.isAlpha) (cs : List Char) :
    markup (c :: cs) = startTag (c :: cs) := by
  have hnot (d : Char) (hd : d.isAlpha = false) : c ≠ d := by
    rintro rfl
    rw [hc] at hd
    cases hd
  have hdrop : Text.dropPrefix? ['!', '-', '-'] (c :: cs) = none := by
    rw [Text.dropPrefix?, if_neg (Ne.symm (hnot '!' (by decide)))]
  unfold markup
  rw [hdrop]
  dsimp only
  split
  · next h => exact absurd (List.cons.inj h).1 (hnot '/' (by decide))
  · next h =>
    obtain ⟨rfl, rfl⟩ := List.cons.inj h
    rw [if_pos hc]
  · next h => cases h

/-- What follows `<` is read as a tag where a tag begins. -/
lemma reads_tag {tag : String} {cs : List Char} {t : Token} (htag : isTag tag)
    (h : ∀ rest, startTag (tag.toList ++ (cs ++ rest)) = .ok (t, rest)) :
    Reads ('<' :: (tag.toList ++ cs)) [t] := by
  intro rest
  obtain ⟨d, ds, hd, halpha, -⟩ := isTag_cases htag
  have hmarkup := h rest
  rw [hd, List.cons_append, ← markup_startTag halpha, ← List.cons_append, ← hd] at hmarkup
  have hread := tokens_markup hmarkup
  simpa using hread

lemma reads_startTag {tag : String} {as : List Attribute} {cs : List Char} (htag : isTag tag)
    (h : SpellsAttributes as cs) (hnames : ∀ a ∈ as, isAttributeName a.name) :
    Reads ('<' :: (tag.toList ++ (cs ++ ['>']))) [.startTag tag as false] := by
  obtain ⟨-, -, -, -, hall⟩ := isTag_cases htag
  apply reads_tag htag
  intro rest
  simpa using startTag_spelled hall h hnames rest

lemma reads_closedTag {tag : String} {as : List Attribute} {cs : List Char} (htag : isTag tag)
    (h : SpellsAttributes as cs) (hnames : ∀ a ∈ as, isAttributeName a.name) :
    Reads ('<' :: (tag.toList ++ (cs ++ ['/', '>']))) [.startTag tag as true] := by
  obtain ⟨-, -, -, -, hall⟩ := isTag_cases htag
  apply reads_tag htag
  intro rest
  simpa using startTag_closed hall h hnames rest

end Unbundled.Template
