import Unbundled.Proofs.Template.Condense
import Unbundled.Proofs.Template.Tokens
import Unbundled.Template.Parser

/-!
# Templates are read as they were meant

A spelled template is read as tokens, the tokens build the tree with its layout, and condensing
removes the layout. So every spelling of a normal tree is parsed as that tree.
-/

namespace Unbundled.Template

open Markup (Attribute SpellsAll)

/-! ## Building -/

/-- The tokens add the nodes, and leave the same elements open. -/
def Builds (ts : List Token) (raw : List Node) : Prop :=
  ∀ b : Builder, ts.foldlM Builder.step b = .ok (raw.foldl Builder.append b)

lemma builds_nil : Builds [] [] := fun _ => rfl

lemma Builds.append {ts us : List Token} {raw more : List Node} (h₁ : Builds ts raw)
    (h₂ : Builds us more) : Builds (ts ++ us) (raw ++ more) := by
  intro b
  rw [List.foldlM_append, h₁ b, List.foldl_append]
  exact h₂ _

lemma builds_text (s : String) : Builds [.text s] [.text s] := fun _ => rfl

lemma builds_interpolation (source : String) :
    Builds [.interpolation source] [.interpolation source] := fun _ => rfl

lemma builds_comment : Builds [.comment] [] := fun _ => rfl

lemma foldl_append_open (e : OpenElement) (es : List OpenElement) (roots raw : List Node) :
    raw.foldl Builder.append ⟨e :: es, roots⟩ =
      ⟨{ e with earlier := raw.reverse ++ e.earlier } :: es, roots⟩ := by
  induction raw generalizing e with
  | nil => rfl
  | cons n raw ih =>
    rw [List.foldl_cons, Builder.append, ih]
    simp

lemma foldl_append_roots (roots raw : List Node) :
    raw.foldl Builder.append ⟨[], roots⟩ = ⟨[], raw.reverse ++ roots⟩ := by
  induction raw generalizing roots with
  | nil => rfl
  | cons n raw ih =>
    rw [List.foldl_cons, Builder.append, ih]
    simp

lemma builds_void {tag : String} {as : List Attribute} {isClosed : Bool}
    (h : isClosed || voidElements.contains tag) :
    Builds [.startTag tag as isClosed] [.element tag as []] := by
  intro b
  rw [List.foldlM_cons, Builder.step, if_pos h]
  rfl

lemma builds_element {tag : String} {as : List Attribute} {ts : List Token} {raw : List Node}
    (h : voidElements.contains tag = false) (hraw : Builds ts raw) :
    Builds (.startTag tag as false :: (ts ++ [.endTag tag])) [.element tag as raw] := by
  intro b
  have hstart : Builder.step b (.startTag tag as false) =
      .ok { b with stack := ⟨tag, as, []⟩ :: b.stack } := by
    rw [Builder.step, if_neg (by simpa using h)]
  rw [List.foldlM_cons, hstart]
  show List.foldlM Builder.step _ (ts ++ [.endTag tag]) = _
  rw [List.foldlM_append, hraw, foldl_append_open]
  show List.foldlM Builder.step _ [.endTag tag] = _
  simp [Builder.step]

/-! ## Gaps -/

lemma spellsAll_self {raw : Char → Bool} {cs : List Char} (h : ∀ c ∈ cs, raw c ∧ c ≠ '&') :
    SpellsAll raw cs cs := by
  induction cs with
  | nil => exact .nil
  | cons c cs ih =>
    obtain ⟨⟨hraw, hamp⟩, hcs⟩ := List.forall_mem_cons.1 h
    exact .cons (.raw hraw hamp) (ih hcs)

lemma reads_layout {ws : List Char} (h : isLayoutText ws) :
    ReadsUpTo ws [.text (String.ofList ws)] := by
  rw [isLayoutText, Bool.and_eq_true] at h
  have hne : String.ofList ws ≠ "" := by
    intro hnil
    obtain rfl : ws = [] := by simpa using congrArg String.toList hnil
    cases h.2
  have hplain : ∀ c ∈ ws, isTextChar c ∧ c ≠ '&' := by
    intro c hc
    have hblank := List.all_eq_true.1 h.1 c hc
    have hnot (d : Char) (hd : Text.isBlank d = false) : c ≠ d := by
      rintro rfl
      rw [hblank] at hd
      cases hd
    rw [isTextChar, Bool.and_eq_true, decide_eq_true_iff, decide_eq_true_iff]
    exact ⟨⟨hnot '<' (by decide), hnot '\x7b' (by decide)⟩, hnot '&' (by decide)⟩
  apply reads_text hne
  rw [String.toList_ofList]
  exact spellsAll_self hplain

lemma stops_markup (cs : List Char) : Stops ('<' :: cs) := .inr (.inl ⟨cs, rfl⟩)

lemma reads_gap {layout : Bool} {gap : List Char} (h : Gap layout gap) :
    ∃ ts ws, ReadsUpTo gap ts ∧ Builds ts (layoutNodes ws) ∧
      (∀ w ∈ ws, isLayoutText w.toList) ∧ (ws = [] ∨ layout) := by
  induction h with
  | none => exact ⟨[], [], reads_nil.upTo, builds_nil, by simp, .inl rfl⟩
  | @layout ws hlayout hws =>
    refine ⟨_, [String.ofList ws], reads_layout hws, builds_text _, ?_, .inr hlayout⟩
    simpa using hws
  | @comment cs gap hcs h ih =>
    obtain ⟨ts, ws, hreads, hbuilds, hlayout, hadmits⟩ := ih
    exact ⟨.comment :: ts, ws, (reads_comment hcs).append hreads, builds_comment.append hbuilds,
      hlayout, hadmits⟩
  | @layoutComment ws cs gap hlayout hws hcs h ih =>
    obtain ⟨ts, vs, hreads, hbuilds, hvs, -⟩ := ih
    refine ⟨_, String.ofList ws :: vs,
      (reads_layout hws).append ((reads_comment hcs).append hreads) fun rest _ => stops_markup _,
      (builds_text _).append (builds_comment.append hbuilds), ?_, .inr hlayout⟩
    exact List.forall_mem_cons.2 ⟨by simpa using hws, hvs⟩

/-- Where no layout is admitted, there are comments only. -/
lemma reads_comments {gap : List Char} (h : Gap false gap) :
    ∃ ts, Reads gap ts ∧ Builds ts [] := by
  induction h with
  | none => exact ⟨[], reads_nil, builds_nil⟩
  | layout hlayout => cases hlayout
  | @comment cs gap hcs h ih =>
    obtain ⟨ts, hreads, hbuilds⟩ := ih
    exact ⟨.comment :: ts, (reads_comment hcs).trans hreads, builds_comment.append hbuilds⟩
  | layoutComment hlayout => cases hlayout

lemma stops_comments {gap : List Char} (h : Gap false gap) {rest : List Char}
    (hrest : Stops rest) : Stops (gap ++ rest) := by
  cases h with
  | none => exact hrest
  | layout hlayout => cases hlayout
  | comment => exact stops_markup _
  | layoutComment hlayout => cases hlayout

lemma stops_behind_gap {preserve : Bool} {s : String} {after? : Option Node} {gap : List Char}
    (h : Gap (admitsLayout preserve (some (.text s)) after?) gap) {rest : List Char}
    (hrest : Stops rest) : Stops (gap ++ rest) := by
  have htight : admitsLayout preserve (some (.text s)) after? = false := by
    simp [admitsLayout, Node.isElement]
  rw [htight] at h
  exact stops_comments h hrest

/-- Behind a text stands something that ends it. -/
lemma stops_behind_text {ends : String → Bool} {preserve : Bool} {s : String} {ns : List Node}
    {cs rest : List Char} (hnormal : Normal preserve (some (.text s)) ns)
    (h : Writes ends preserve (some (.text s)) ns cs) (hrest : Stops rest) :
    Stops (cs ++ rest) := by
  cases h with
  | nil hgap => exact stops_behind_gap hgap hrest
  | text =>
    cases hnormal with
    | text hs apart => exact absurd rfl (apart s)
  | interpolation hgap =>
    rw [List.append_assoc]
    exact stops_behind_gap hgap (.inr (.inr ⟨_, rfl⟩))
  | element hgap =>
    rw [List.append_assoc]
    exact stops_behind_gap hgap (stops_markup _)
  | closed hgap =>
    rw [List.append_assoc]
    exact stops_behind_gap hgap (stops_markup _)
  | void hgap =>
    rw [List.append_assoc]
    exact stops_behind_gap hgap (stops_markup _)

/-! ## The round trip -/

lemma reads_childless {preserve isClosed : Bool} {before? : Option Node} {tag : String}
    {as : List Attribute} {ns : List Node} {gap opening cs : List Char}
    (hgap : Gap (admitsLayout preserve before? (some (.element tag as []))) gap)
    (hopening : Reads ('<' :: opening) [.startTag tag as isClosed])
    (hclosed : isClosed || voidElements.contains tag)
    (hrest : ∃ us raw, ReadsUpTo cs us ∧ Builds us raw ∧
      Loose preserve (some (.element tag as [])) ns raw) :
    ∃ ts raw, ReadsUpTo (gap ++ ('<' :: opening ++ cs)) ts ∧ Builds ts raw ∧
      Loose preserve before? (.element tag as [] :: ns) raw := by
  obtain ⟨ts, ws, hreads, hbuilds, hlayout, hadmits⟩ := reads_gap hgap
  obtain ⟨us, raw, hreadsRest, hbuildsRest, hloose⟩ := hrest
  have hchildren : Loose (preserve || tag == "pre") none [] (layoutNodes []) :=
    .nil (by simp) (.inl rfl)
  exact ⟨ts ++ ([.startTag tag as isClosed] ++ us), layoutNodes ws ++ .element tag as [] :: raw,
    hreads.append (hopening.append hreadsRest) fun rest _ => stops_markup _,
    hbuilds.append ((builds_void hclosed).append hbuildsRest),
    .element hlayout hadmits hchildren hloose⟩

/-- A spelled list of siblings is read as tokens that build it, layout included. -/
theorem reads_writes {ends : String → Bool}
    (hends : ∀ tag, ends tag → voidElements.contains tag = false) {preserve : Bool}
    {before? : Option Node} {ns : List Node} {cs : List Char}
    (hnormal : Normal preserve before? ns) (h : Writes ends preserve before? ns cs) :
    ∃ ts raw, ReadsUpTo cs ts ∧ Builds ts raw ∧ Loose preserve before? ns raw := by
  -- The last sibling may be a text, so the stretch is only read as meant where text ends behind it.
  induction h with
  | nil hgap =>
    obtain ⟨ts, ws, hreads, hbuilds, hlayout, hadmits⟩ := reads_gap hgap
    exact ⟨ts, layoutNodes ws, hreads, hbuilds, .nil hlayout hadmits⟩
  | @text preserve before? s ns gap written cs hgap hs h ih =>
    cases hnormal with
    | text hne apart blanks hnormal =>
      have htight : admitsLayout preserve before? (some (.text s)) = false := by
        simp [admitsLayout, Node.isElement]
      rw [htight] at hgap
      obtain ⟨ts, hreads, hbuilds⟩ := reads_comments hgap
      obtain ⟨us, raw, hreadsRest, hbuildsRest, hloose⟩ := ih hnormal
      refine ⟨ts ++ (.text s :: us), .text s :: raw, ?_, ?_, .text hloose⟩
      · exact hreads.append ((reads_text hne hs).append hreadsRest fun rest hrest =>
          stops_behind_text hnormal h hrest)
      · exact hbuilds.append ((builds_text s).append hbuildsRest)
  | @interpolation preserve before? source ns gap cs hgap h ih =>
    cases hnormal with
    | interpolation trimmed inside hnormal =>
      have htight : admitsLayout preserve before? (some (.interpolation source)) = false := by
        simp [admitsLayout, Node.isElement]
      rw [htight] at hgap
      obtain ⟨ts, hreads, hbuilds⟩ := reads_comments hgap
      obtain ⟨us, raw, hreadsRest, hbuildsRest, hloose⟩ := ih hnormal
      exact ⟨ts ++ (.interpolation source :: us), .interpolation source :: raw,
        hreads.append ((reads_interpolation trimmed inside).append hreadsRest),
        hbuilds.append ((builds_interpolation source).append hbuildsRest), .interpolation hloose⟩
  | @element preserve before? tag as children ns gap attributes inner cs hgap htag hattributes
      hchildren h ihchildren ih =>
    cases hnormal with
    | element hname hnames void hnormalChildren hnormal =>
      obtain ⟨ts, ws, hreads, hbuilds, hlayout, hadmits⟩ := reads_gap hgap
      obtain ⟨vs, below, hreadsBelow, hbuildsBelow, hlooseBelow⟩ := ihchildren hnormalChildren
      obtain ⟨us, raw, hreadsRest, hbuildsRest, hloose⟩ := ih hnormal
      have hend := (reads_endTag hname).append hreadsRest
      have hinside := hreadsBelow.append hend fun rest _ => stops_markup _
      have hstart := (reads_startTag hname hattributes hnames).append hinside
      have hall := hreads.append hstart fun rest _ => stops_markup _
      refine ⟨ts ++ ((.startTag tag as false :: (vs ++ [.endTag tag])) ++ us),
        layoutNodes ws ++ .element tag as below :: raw, ?_, ?_,
        .element hlayout hadmits hlooseBelow hloose⟩
      · simpa using hall
      · exact hbuilds.append ((builds_element (hends tag htag) hbuildsBelow).append hbuildsRest)
  | @closed preserve before? tag as ns gap attributes cs hgap hattributes h ih =>
    cases hnormal with
    | element hname hnames void hnormalChildren hnormal =>
      have hread := reads_childless hgap (reads_closedTag hname hattributes hnames) rfl (ih hnormal)
      simpa using hread
  | @void preserve before? tag as ns gap attributes cs hgap hvoid hattributes h ih =>
    cases hnormal with
    | element hname hnames void hnormalChildren hnormal =>
      have hread := reads_childless hgap (reads_startTag hname hattributes hnames)
        (by rw [hvoid]; rfl) (ih hnormal)
      simpa using hread

/-- Whether an element may have an end tag. -/
def mayEnd (tag : String) : Bool := !voidElements.contains tag

/-- Every spelling of a normal template, void elements written without end tags, is parsed as that
template. -/
theorem parse_writes {ns : List Node} {cs : List Char} (hnormal : Normal false none ns)
    (h : Writes mayEnd false none ns cs) : parse (String.ofList cs) = .ok ns := by
  have hends : ∀ tag, mayEnd tag → voidElements.contains tag = false := by simp [mayEnd]
  obtain ⟨ts, raw, hreads, hbuilds, hloose⟩ := reads_writes hends hnormal h
  have htokens : tokens cs = (ts, none) := by
    have hread := hreads [] (.inl rfl)
    have hnil : tokens [] = ([], none) := by rw [tokens]
    simpa [hnil] using hread
  have hbuild : build ts none = .ok raw := by
    have hroots := foldl_append_roots [] raw
    rw [List.append_nil] at hroots
    rw [build, hbuilds]
    show Builder.finish (raw.foldl Builder.append ⟨[], []⟩) = _
    rw [hroots, Builder.finish, List.reverse_reverse]
  rw [parse, String.toList_ofList, htokens]
  dsimp only
  rw [hbuild]
  dsimp only
  rw [condense_loose hnormal hloose]

/-- A value with a reference, a text with a reference, an expression, a comment and a void
element. -/
theorem parse_writes_paragraph :
    let ns := [Node.element "p" [⟨"id", some "a&b"⟩]
      [.text "a ", .interpolation "b", .element "br" [] []]]
    let cs := "<p id='a&amp;b'>a&#x20;\x7b\x7b b \x7d\x7d<!--c--><br></p>".toList
    Normal false none ns ∧ Writes mayEnd false none ns cs ∧ parse (String.ofList cs) = .ok ns := by
  intro ns cs
  have hnormal : Normal false none ns := by
    have hbr : Normal false (some (.interpolation "b")) [.element "br" [] []] :=
      .element (by decide) (by simp) (fun _ => rfl) (.nil _ _) (.nil _ _)
    have hchildren : Normal false none [.text "a ", .interpolation "b", .element "br" [] []] :=
      .text (by decide) (by simp) (fun _ => ⟨by decide, fun hblank => absurd hblank (by decide)⟩)
        (.interpolation (by decide) (by decide) hbr)
    exact .element (by decide) (by simp; decide) (fun hvoid => absurd hvoid (by decide)) hchildren
      (.nil _ _)
  have hwrites : Writes mayEnd false none ns cs := by
    have hvalue : SpellsAll (· ≠ '\'') "a&b".toList "a&amp;b".toList :=
      .cons (.raw (by decide) (by decide)) (.cons (.named (.head _))
        (.cons (.raw (by decide) (by decide)) .nil))
    have hattributes : SpellsAttributes [⟨"id", some "a&b"⟩]
        ([' '] ++ "id".toList ++ ([] ++ '=' :: ([] ++ '\'' :: ("a&amp;b".toList ++ '\'' :: [])))) :=
      .valued (by simp) (by decide) rfl rfl (by decide) hvalue (.done rfl)
    have hspace : ['2', '0'].map Char.toLower = Nat.toDigits 16 ' '.toNat := by decide
    have htext : SpellsAll isTextChar "a ".toList "a&#x20;".toList :=
      .cons (.raw (by decide) (by decide)) (.cons (.hex (.inl rfl) hspace) .nil)
    have hcomment : Gap false ('<' :: '!' :: '-' :: '-' :: (['c'] ++ ['-', '-', '>'] ++ [])) :=
      .comment (by unfold isComment; decide) .none
    have hblank : SpellsAttributes [] [] := .done rfl
    have hbr : Writes mayEnd (false || "p" == "pre") (some (.interpolation "b"))
        [.element "br" [] []] _ :=
      .void hcomment (by decide) hblank (.nil .none)
    have hchildren : Writes mayEnd (false || "p" == "pre") none
        [.text "a ", .interpolation "b", .element "br" [] []] _ :=
      .text .none htext (.interpolation .none hbr)
    exact .element .none (show mayEnd "p" by decide) hattributes hchildren (.nil .none)
  exact ⟨hnormal, hwrites, parse_writes hnormal hwrites⟩

/-- A void element may not be written with an end tag, although it has no children. -/
theorem parse_void_endTag :
    Normal false none [.element "br" [] []] ∧
      Writes (fun _ => true) false none [.element "br" [] []] "<br></br>".toList ∧
      parse "<br></br>" = .error (.parseError "unexpected end tag </br>") := by
  have hnames : ∀ a ∈ ([] : List Attribute), isAttributeName a.name := by simp
  refine ⟨.element (by decide) hnames (fun _ => rfl) (.nil _ _) (.nil _ _), ?_, ?_⟩
  · have hblank : SpellsAttributes [] [] := .done rfl
    exact .element .none rfl hblank (.nil .none) (.nil .none)
  · have hread : (match parse "<br></br>" with
        | .error e => decide (e = .parseError "unexpected end tag </br>")
        | .ok _ => false) = true := by decide +kernel
    split at hread
    · next e he => rw [he, of_decide_eq_true hread]
    · cases hread

end Unbundled.Template
