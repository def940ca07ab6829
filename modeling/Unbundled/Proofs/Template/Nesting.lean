import Unbundled.Proofs.Template.RoundTrip

/-!
# Well-nested documents

A document is any sequence of tags, texts, expressions and comments. It is parsed as a template
exactly when every end tag names the innermost start tag that is still open and no start tag is
open at the end.
-/

namespace Unbundled.Template

/-- A stretch of markup. -/
inductive Mark where
  /-- A tag with its attributes and the blanks among them. -/
  | startTag (tag : String) (attributes : List Char)
  /-- A start tag that ends in a slash. -/
  | closedTag (tag : String) (attributes : List Char)
  | endTag (name : List Char)
  | text (written : List Char)
  | interpolation (source : List Char)
  | comment (content : List Char)

namespace Mark

def written : Mark → List Char
  | startTag tag attributes => '<' :: (tag.toList ++ (attributes ++ ['>']))
  | closedTag tag attributes => '<' :: (tag.toList ++ (attributes ++ ['/', '>']))
  | endTag name => '<' :: '/' :: (name ++ ['>'])
  | text written => written
  | interpolation source => '\x7b' :: '\x7b' :: (source ++ ['\x7d', '\x7d'])
  | comment content => '<' :: '!' :: '-' :: '-' :: (content ++ ['-', '-', '>'])

/-- The mark ends where it seems to end. Attributes have quoted values or none, in texts `<` and
opening braces stand as references, and an end tag may have any name. -/
def WellFormed : Mark → Prop
  | startTag tag attributes | closedTag tag attributes =>
    isTag tag ∧ ∃ as, WritesAttributes as attributes ∧ ∀ a ∈ as, isAttributeName a.name
  | endTag name => '>' ∉ name
  | text written => ∀ c ∈ written, isTextChar c
  | interpolation source => ¬ ['\x7d', '\x7d'] <:+: source ++ ['\x7d']
  | comment content => isComment content

/-- What an end tag names. -/
def nameOf (name : List Char) : String := String.ofList (Text.trimBy Text.isBlank name)

/-- The tags that are open behind a mark, innermost first. Void elements are never open. -/
def openBehind (opened : List String) : Mark → List String
  | startTag tag _ => if voidElements.contains tag then opened else tag :: opened
  | endTag _ => opened.tail
  | _ => opened

end Mark

/-- The text of a document. -/
def document (ms : List Mark) : String := String.ofList (ms.flatMap Mark.written)

/-- The tags that are open behind the marks, innermost first, where `opened` are open before
them. -/
def stillOpen (opened : List String) (ms : List Mark) : List String :=
  ms.foldl Mark.openBehind opened

/-- Every end tag names the innermost tag that is still open. -/
def ClosesInnermost (opened : List String) (ms : List Mark) : Prop :=
  ∀ before name after, ms = before ++ .endTag name :: after →
    (stillOpen opened before).head? = some (Mark.nameOf name)

/-- Every end tag names the innermost open tag, and none is open at the end. -/
def WellNested (ms : List Mark) : Prop := ClosesInnermost [] ms ∧ stillOpen [] ms = []

/-! ## Marks one by one -/

lemma closesInnermost_nil (opened : List String) : ClosesInnermost opened [] := by
  rintro (_ | ⟨m, before⟩) name after hms <;> cases hms

lemma closesInnermost_cons {opened : List String} {m : Mark} {ms : List Mark} :
    ClosesInnermost opened (m :: ms) ↔
      (∀ name, m = .endTag name → opened.head? = some (Mark.nameOf name)) ∧
        ClosesInnermost (m.openBehind opened) ms := by
  constructor
  · intro h
    refine ⟨?_, fun before name after hms => h (m :: before) name after (by rw [hms]; rfl)⟩
    rintro name rfl
    exact h [] name ms rfl
  · rintro ⟨hfirst, hlater⟩ before name after hms
    cases before with
    | nil => exact hfirst name (List.cons.inj hms).1
    | cons n before =>
      obtain ⟨rfl, rfl⟩ := List.cons.inj hms
      exact hlater before name after rfl

instance Mark.decidableNames (opened : List String) : (m : Mark) →
    Decidable (∀ name, m = .endTag name → opened.head? = some (nameOf name))
  | .endTag name => decidable_of_iff (opened.head? = some (nameOf name)) (by simp)
  | .startTag .. | .closedTag .. | .text _ | .interpolation _ | .comment _ => .isTrue (by simp)

instance decidableClosesInnermost :
    (opened : List String) → (ms : List Mark) → Decidable (ClosesInnermost opened ms)
  | opened, [] => .isTrue (closesInnermost_nil opened)
  | opened, m :: ms =>
    have := decidableClosesInnermost (m.openBehind opened) ms
    decidable_of_iff _ closesInnermost_cons.symm

instance (ms : List Mark) : Decidable (WellNested ms) :=
  inferInstanceAs (Decidable (_ ∧ _))

/-- The tags of the open elements, innermost first. -/
def Builder.openTags (b : Builder) : List String := b.stack.map OpenElement.tag

lemma Builder.openTags_append (b : Builder) (n : Node) : (b.append n).openTags = b.openTags := by
  unfold Builder.append Builder.openTags
  split
  · next h => rw [h]
  · next h => rw [h]; rfl

/-- The token does to the open elements what the mark does to the open tags. -/
def Token.Follows (t : Token) (m : Mark) : Prop :=
  ∀ b : Builder,
    (∀ b', b.step t = .ok b' → b'.openTags = m.openBehind b.openTags) ∧
      ((∃ b', b.step t = .ok b') ↔
        ∀ name, m = .endTag name → b.openTags.head? = some (Mark.nameOf name))

lemma follows_of_append {t : Token} {m : Mark} (n? : Option Node)
    (hstep : ∀ b : Builder, b.step t = .ok (n?.elim b b.append))
    (hopen : ∀ opened, m.openBehind opened = opened) (hend : ∀ name, m ≠ .endTag name) :
    t.Follows m := by
  intro b
  refine ⟨fun b' hb' => ?_, fun _ name hm => absurd hm (hend name), fun _ => ⟨_, hstep b⟩⟩
  rw [hstep, Except.ok.injEq] at hb'
  rw [hopen, ← hb']
  cases n? with
  | none => rfl
  | some n => exact b.openTags_append n

lemma follows_startTag (tag : String) (as : List Markup.Attribute) (attributes : List Char) :
    (Token.startTag tag as false).Follows (.startTag tag attributes) := by
  intro b
  by_cases hvoid : voidElements.contains tag
  · have hstep : b.step (.startTag tag as false) = .ok (b.append (.element tag as [])) := by
      rw [Builder.step, if_pos (by simpa using hvoid)]
    rw [hstep, Mark.openBehind, if_pos hvoid]
    exact ⟨by rintro b' ⟨⟩; exact b.openTags_append _, by simp⟩
  · have hstep : b.step (.startTag tag as false) =
        .ok { b with stack := ⟨tag, as, []⟩ :: b.stack } := by
      rw [Builder.step, if_neg (by simpa using hvoid)]
    rw [hstep, Mark.openBehind, if_neg hvoid]
    exact ⟨by rintro b' ⟨⟩; rfl, by simp⟩

lemma follows_endTag (name : List Char) :
    (Token.endTag (Mark.nameOf name)).Follows (.endTag name) := by
  intro b
  rw [Builder.step]
  cases hstack : b.stack with
  | nil => simp [Builder.openTags, hstack]
  | cons e es =>
    by_cases htag : e.tag = Mark.nameOf name
    · dsimp only
      rw [if_pos htag]
      refine ⟨?_, by simp [Builder.openTags, hstack, htag]⟩
      rintro b' ⟨⟩
      rw [Builder.openTags_append]
      simp [Builder.openTags, hstack, Mark.openBehind]
    · simp [Builder.openTags, hstack, htag]

/-- A mark that is no text is read as one token, which does what the mark does. -/
lemma reads_mark {m : Mark} (h : m.WellFormed) (hm : ∀ cs, m ≠ .text cs) :
    ∃ t, Reads m.written [t] ∧ t.Follows m := by
  cases m with
  | startTag tag attributes =>
    obtain ⟨htag, as, has, hnames⟩ := h
    obtain ⟨-, -, -, -, hall⟩ := isTag_cases htag
    refine ⟨_, reads_tag htag fun rest => ?_, follows_startTag tag (as.map decodeAttribute) _⟩
    simpa using startTag_written hall has hnames rest
  | closedTag tag attributes =>
    obtain ⟨htag, as, has, hnames⟩ := h
    obtain ⟨-, -, -, -, hall⟩ := isTag_cases htag
    refine ⟨.startTag tag (as.map decodeAttribute) true, reads_tag htag fun rest => ?_,
      follows_of_append (some _) (fun _ => rfl) (fun _ => rfl) (by simp)⟩
    simpa using startTag_writtenClosed hall has hnames rest
  | endTag name => exact ⟨_, reads_namedEnd h, follows_endTag name⟩
  | text written => exact absurd rfl (hm written)
  | interpolation source =>
    exact ⟨_, reads_braces h,
      follows_of_append (some _) (fun _ => rfl) (fun _ => rfl) (by simp)⟩
  | comment content =>
    exact ⟨_, reads_comment h, follows_of_append none (fun _ => rfl) (fun _ => rfl) (by simp)⟩

/-! ## Documents -/

/-- Building from the tokens succeeds exactly where the marks are nested, and leaves open what they
leave open. -/
def Tracks (ts : List Token) (ms : List Mark) : Prop :=
  ∀ b : Builder,
    (∀ b', ts.foldlM Builder.step b = .ok b' → b'.openTags = stillOpen b.openTags ms) ∧
      ((∃ b', ts.foldlM Builder.step b = .ok b') ↔ ClosesInnermost b.openTags ms)

lemma tracks_nil : Tracks [] [] := by
  intro b
  refine ⟨?_, fun _ => closesInnermost_nil _, fun _ => ⟨b, rfl⟩⟩
  rintro b' ⟨⟩
  rfl

lemma Tracks.cons {t : Token} {ts : List Token} {m : Mark} {ms : List Mark} (hm : t.Follows m)
    (h : Tracks ts ms) : Tracks (t :: ts) (m :: ms) := by
  intro b
  obtain ⟨hopen, hok⟩ := hm b
  rw [List.foldlM_cons, closesInnermost_cons, ← hok]
  cases hstep : b.step t with
  | error e => simp [bind, Except.bind]
  | ok c =>
    obtain ⟨hopenLater, hokLater⟩ := h c
    rw [hopen c hstep] at hopenLater hokLater
    exact ⟨hopenLater, by simpa [bind, Except.bind] using hokLater⟩

/-- A text changes nothing about the tags, whether it is one token with others or none. -/
lemma Tracks.text {ts : List Token} {ms : List Mark} (h : Tracks ts ms) (cs : List Char) :
    Tracks ts (.text cs :: ms) := by
  intro b
  rw [closesInnermost_cons]
  simpa [stillOpen, Mark.openBehind] using h b

lemma Tracks.textToken {ts : List Token} {ms : List Mark} (h : Tracks ts ms) (content : String) :
    Tracks (.text content :: ts) ms := by
  intro b
  have hlater := h (b.append (.text content))
  rwa [Builder.openTags_append] at hlater

lemma Mark.stops_written {m : Mark} (hm : ∀ cs, m ≠ .text cs) (rest : List Char) :
    Stops (m.written ++ rest) := by
  cases m with
  | text cs => exact absurd rfl (hm cs)
  | interpolation source => exact .inr (.inr ⟨_, rfl⟩)
  | _ => exact stops_markup _

/-- Text in front of what ends it adds at most one token. -/
lemma exists_tokens_behind {cs rest : List Char} {ts : List Token} {ms : List Mark}
    (hcs : ∀ c ∈ cs, isTextChar c) (hrest : Stops rest) (htokens : tokens rest = (ts, none))
    (h : Tracks ts ms) : ∃ us, tokens (cs ++ rest) = (us, none) ∧ Tracks us ms := by
  cases cs with
  | nil => exact ⟨ts, htokens, h⟩
  | cons c cs =>
    have hplain : ∀ d ∈ c :: cs, d ≠ '<' ∧ d ≠ '\x7b' := by
      simpa only [isTextChar, Bool.and_eq_true, decide_eq_true_eq] using hcs
    rw [tokens_text hplain hrest, htokens]
    exact ⟨_, rfl, h.textToken _⟩

/-- A document behind a text is read as tokens that build what its marks say. -/
lemma exists_tokens_document {cs : List Char} {ms : List Mark} (hcs : ∀ c ∈ cs, isTextChar c)
    (hms : ∀ m ∈ ms, m.WellFormed) :
    ∃ ts, tokens (cs ++ ms.flatMap Mark.written) = (ts, none) ∧ Tracks ts ms := by
  -- Texts side by side are read as one token, so the text before the marks is carried along.
  induction ms generalizing cs with
  | nil =>
    have hnil : tokens [] = ([], none) := by rw [tokens]
    exact exists_tokens_behind hcs (.inl rfl) hnil tracks_nil
  | cons m ms ih =>
    obtain ⟨hm, hlater⟩ := List.forall_mem_cons.1 hms
    by_cases htext : ∃ ds, m = .text ds
    · obtain ⟨ds, rfl⟩ := htext
      obtain ⟨ts, htokens, htracks⟩ := ih (List.forall_mem_append.2 ⟨hcs, hm⟩) hlater
      rw [List.append_assoc] at htokens
      exact ⟨ts, htokens, htracks.text ds⟩
    · rw [not_exists] at htext
      obtain ⟨t, hreads, hfollows⟩ := reads_mark hm htext
      have hnone : ∀ c ∈ ([] : List Char), isTextChar c := by simp
      obtain ⟨ts, htokens, htracks⟩ := ih hnone hlater
      rw [List.nil_append] at htokens
      have hmark := hreads (ms.flatMap Mark.written)
      rw [htokens] at hmark
      exact exists_tokens_behind hcs (Mark.stops_written htext _) hmark (htracks.cons hfollows)

lemma Builder.finish_isOk_iff (b : Builder) : (∃ ns, b.finish = .ok ns) ↔ b.openTags = [] := by
  unfold Builder.finish Builder.openTags
  cases b.stack <;> simp

lemma parse_eq_ok_iff {source : String} {ts : List Token}
    (htokens : tokens source.toList = (ts, none)) : (∃ ns, parse source = .ok ns) ↔
      ∃ b, ts.foldlM Builder.step {} = .ok b ∧ ∃ ns, b.finish = .ok ns := by
  rw [parse, htokens]
  dsimp only
  rw [build]
  cases hfold : ts.foldlM Builder.step {} with
  | error e => simp [bind, Except.bind]
  | ok b => cases hfinish : b.finish <;> simp [bind, Except.bind, hfinish]

/-- Exactly the well-nested documents are parsed as templates. -/
theorem parse_isOk_iff_wellNested {ms : List Mark} (h : ∀ m ∈ ms, m.WellFormed) :
    (∃ ns, parse (document ms) = .ok ns) ↔ WellNested ms := by
  have hnone : ∀ c ∈ ([] : List Char), isTextChar c := by simp
  obtain ⟨ts, htokens, htracks⟩ := exists_tokens_document hnone h
  obtain ⟨hopen, hok⟩ := htracks {}
  have hsource : tokens (document ms).toList = (ts, none) := by
    rwa [document, String.toList_ofList]
  rw [parse_eq_ok_iff hsource, WellNested]
  constructor
  · rintro ⟨b, hb, hfinish⟩
    exact ⟨hok.1 ⟨b, hb⟩, (hopen b hb).symm.trans (b.finish_isOk_iff.1 hfinish)⟩
  · rintro ⟨hcloses, hend⟩
    obtain ⟨b, hb⟩ := hok.2 hcloses
    exact ⟨b, hb, b.finish_isOk_iff.2 ((hopen b hb).trans hend)⟩

/-- A value with `>`, an expression with `<`, a void element, a comment with an end tag in it, and
blanks in the end tag. -/
def paragraph : List Mark :=
  [.startTag "p" [' ', 'i', 'd', '=', '\'', '>', '\''], .text ['a'],
   .interpolation ['b', '<', 'c'], .startTag "br" [], .comment ['<', '/', 'p', '>'],
   .endTag ['p', ' ']]

/-- The paragraph is parsed, and it is not with an end tag for its void element behind it. -/
theorem parse_isOk_iff_wellNested_paragraph :
    let stray := paragraph ++ [.endTag ['b', 'r']]
    (∀ m ∈ stray, m.WellFormed) ∧
      WellNested paragraph ∧ (∃ ns, parse (document paragraph) = .ok ns) ∧
      ¬ WellNested stray ∧ ¬ ∃ ns, parse (document stray) = .ok ns := by
  intro stray
  have hattributes : WritesAttributes [⟨"id", some ">"⟩] [' ', 'i', 'd', '=', '\'', '>', '\''] :=
    @WritesAttributes.valued [' '] [] [] [] "id" ">" '\'' [] (by simp) rfl rfl rfl rfl (by decide)
      (.done rfl)
  have hstray : ∀ m ∈ stray, m.WellFormed := by
    simp only [stray, paragraph, List.cons_append, List.nil_append, List.forall_mem_cons]
    have hid : ∀ a ∈ [(⟨"id", some ">"⟩ : Markup.Attribute)], isAttributeName a.name := by decide
    have hblank : WritesAttributes [] [] := .done rfl
    refine ⟨⟨by decide, _, hattributes, hid⟩, ?_, ?_, ⟨by decide, [], hblank, by simp⟩, ?_, ?_, ?_,
      by simp⟩
    · exact List.forall_mem_singleton.2 (by decide)
    · exact show ¬ ['\x7d', '\x7d'] <:+: ['b', '<', 'c', '\x7d'] by decide
    · exact show ¬ ['-', '-', '>'] <:+: ['-', '-', '<', '/', 'p', '>'] by decide
    · exact show '>' ∉ ['p', ' '] by decide
    · exact show '>' ∉ ['b', 'r'] by decide
  have hnested : WellNested paragraph := by decide +kernel
  have hnot : ¬ WellNested stray := by decide +kernel
  have hparagraph : ∀ m ∈ paragraph, m.WellFormed :=
    fun m hm => hstray m (List.mem_append_left _ hm)
  exact ⟨hstray, hnested, (parse_isOk_iff_wellNested hparagraph).2 hnested, hnot,
    fun hok => hnot ((parse_isOk_iff_wellNested hstray).1 hok)⟩

end Unbundled.Template
