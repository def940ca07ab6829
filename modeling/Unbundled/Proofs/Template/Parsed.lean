import Mathlib
import Unbundled.Proofs.Success
import Unbundled.Proofs.Template.Whitespace

/-!
# The form of parsed templates

The tokens of a source have no empty texts, and the trees that are built of them give void elements
no children. Condensing keeps both, so at every depth a parsed template has the form of condensed
siblings.
-/

namespace Unbundled.Template

open Markup (Attribute)

/-- A tree without empty texts, whose void elements have no children. -/
inductive Node.Sound : Node → Prop
  | text {s : String} (hs : s ≠ "") : Sound (.text s)
  | interpolation (source : String) : Sound (.interpolation source)
  | element {tag : String} {as : List Attribute} {cs : List Node}
      (void : voidElements.contains tag → cs = []) (hcs : ∀ n ∈ cs, n.Sound) :
      Sound (.element tag as cs)

/-! ## Texts are not empty -/

lemma textToken_ne_empty (c : Char) (cs : List Char) : textToken (c :: cs) ≠ .text "" := by
  have hne : Markup.decodeEntities (c :: cs) ≠ [] := by
    rw [Markup.decodeEntities, Markup.decodeFrom]
    repeat' split
    all_goals simp
  intro h
  exact hne (by simpa [textToken] using h)

lemma startTag_ne_empty {cs rest : List Char} {t : Token} (h : startTag cs = .ok (t, rest)) :
    t ≠ .text "" := by
  unfold startTag at h
  dsimp only at h
  split at h
  · cases h
  · cases h
    simp

lemma markup_ne_empty {cs rest : List Char} {t : Token} (h : markup cs = .ok (t, rest)) :
    t ≠ .text "" := by
  unfold markup at h
  split at h
  · split at h
    · cases h
    · cases h
      simp
  · split at h
    · split at h
      · cases h
      · cases h
        simp
    · split at h
      · exact startTag_ne_empty h
      · cases h
        exact textToken_ne_empty '<' []
    · cases h
      exact textToken_ne_empty '<' []

lemma tokens_ne_empty (cs : List Char) : ∀ t ∈ (tokens cs).1, t ≠ .text "" := by
  fun_induction tokens cs with
  | case1 | case2 | case4 => simp
  | case3 cs t rest hmarkup _ ts e? htokens ih =>
    rw [htokens] at ih
    exact List.forall_mem_cons.2 ⟨markup_ne_empty hmarkup, ih⟩
  | case5 c cs hlt after hb source rest hs _ ts e? htokens ih =>
    rw [htokens] at ih
    exact List.forall_mem_cons.2 ⟨by simp, ih⟩
  | case6 c cs hlt hb _ ts e? htokens ih =>
    rw [htokens] at ih
    exact List.forall_mem_cons.2 ⟨textToken_ne_empty c _, ih⟩

/-! ## Building -/

/-- What has been built so far is sound, and no void element is open. -/
structure Builder.Sound (b : Builder) : Prop where
  roots : ∀ n ∈ b.roots, n.Sound
  stack : ∀ e ∈ b.stack, voidElements.contains e.tag = false ∧ ∀ n ∈ e.earlier, n.Sound

lemma Builder.Sound.append {b : Builder} (hb : b.Sound) {n : Node} (hn : n.Sound) :
    (b.append n).Sound := by
  unfold Builder.append
  split
  next h => exact ⟨List.forall_mem_cons.2 ⟨hn, hb.roots⟩, hb.stack⟩
  next e es h =>
    have hstack := hb.stack
    rw [h] at hstack
    obtain ⟨⟨hvoid, hearlier⟩, hes⟩ := List.forall_mem_cons.1 hstack
    exact ⟨hb.roots, List.forall_mem_cons.2 ⟨⟨hvoid, List.forall_mem_cons.2 ⟨hn, hearlier⟩⟩, hes⟩⟩

lemma Builder.Sound.step {b b' : Builder} (hb : b.Sound) {t : Token} (ht : t ≠ .text "")
    (h : b.step t = .ok b') : b'.Sound := by
  cases t with
  | text s =>
    cases h
    exact hb.append (.text fun hs => ht (congrArg Token.text hs))
  | interpolation source =>
    cases h
    exact hb.append (.interpolation source)
  | comment =>
    cases h
    exact hb
  | startTag tag as isClosed =>
    rw [Builder.step] at h
    split at h
    next =>
      cases h
      exact hb.append (.element (fun _ => rfl) (by simp))
    next hopen =>
      cases h
      have hvoid : voidElements.contains tag = false := by
        rw [Bool.or_eq_true, not_or] at hopen
        exact Bool.eq_false_iff.2 hopen.2
      exact ⟨hb.roots, List.forall_mem_cons.2 ⟨⟨hvoid, by simp⟩, hb.stack⟩⟩
  | endTag tag =>
    rw [Builder.step] at h
    split at h
    next => cases h
    next e es hstack =>
      split at h
      next =>
        cases h
        have hall := hb.stack
        rw [hstack] at hall
        obtain ⟨⟨hvoid, hearlier⟩, hes⟩ := List.forall_mem_cons.1 hall
        have hrest : Builder.Sound { b with stack := es } := ⟨hb.roots, hes⟩
        refine hrest.append (.element (fun hv => ?_) fun n hn => hearlier n (List.mem_reverse.1 hn))
        rw [hvoid] at hv
        cases hv
      next => cases h

lemma Builder.Sound.foldlM {b b' : Builder} (hb : b.Sound) {ts : List Token}
    (hts : ∀ t ∈ ts, t ≠ .text "") (h : ts.foldlM Builder.step b = .ok b') : b'.Sound := by
  induction ts generalizing b with
  | nil =>
    cases h
    exact hb
  | cons t ts ih =>
    obtain ⟨ht, hlater⟩ := List.forall_mem_cons.1 hts
    rw [List.foldlM_cons] at h
    obtain ⟨c, hc, h⟩ := bind_eq_ok.1 h
    exact ih (hb.step ht hc) hlater h

lemma sound_of_build {ts : List Token} {e? : Option MarkupError} {raw : List Node}
    (hts : ∀ t ∈ ts, t ≠ .text "") (h : build ts e? = .ok raw) : ∀ n ∈ raw, n.Sound := by
  obtain ⟨b, hfold, h⟩ := bind_eq_ok.1 h
  have hempty : Builder.Sound {} := ⟨by simp, by simp⟩
  have hb := hempty.foldlM hts hfold
  cases e? with
  | some e => cases h
  | none =>
    change b.finish = .ok raw at h
    unfold Builder.finish at h
    split at h
    next =>
      cases h
      exact fun n hn => hb.roots n (List.mem_reverse.1 hn)
    next => cases h

/-! ## At every depth -/

lemma not_mem_mergeTexts {ns : List Node} (h : .text "" ∉ ns) : .text "" ∉ mergeTexts ns := by
  induction ns with
  | nil => exact h
  | cons n ns ih =>
    obtain ⟨hn, hns⟩ := not_or.1 (mt List.mem_cons.2 h)
    cases n with
    | text a =>
      unfold mergeTexts
      split
      next b rest hrest =>
        have hlater := ih hns
        rw [hrest, List.mem_cons, not_or] at hlater
        rw [List.mem_cons, not_or]
        refine ⟨fun heq => hn ?_, hlater.2⟩
        have hempty := congrArg String.toList (Node.text.inj heq)
        rw [String.toList_append] at hempty
        rw [String.toList_eq_nil_iff.1 (List.append_eq_nil_iff.1 hempty.symm).1]
      next => exact mt List.mem_cons.1 (not_or.2 ⟨hn, ih hns⟩)
    | _ => simpa [mergeTexts] using ih hns

lemma Tidies.not_mem {preserve : Bool} {ns out : List Node} (h : Tidies ns preserve out)
    (hns : .text "" ∉ ns) : .text "" ∉ out := by
  cases h with
  | preserved => exact not_mem_mergeTexts hns
  | @spaced out h =>
    intro hmem
    obtain ⟨n, hn, hcollapse⟩ := List.mem_map.1 hmem
    cases n with
    | text s =>
      have hempty := congrArg String.toList (Node.text.inj hcollapse)
      rw [String.toList_ofList, String.toList_empty, collapseRuns_eq_nil,
        String.toList_eq_nil_iff] at hempty
      subst hempty
      exact not_mem_mergeTexts hns (h.sublist.subset hn)
    | _ => cases hcollapse

lemma Condenses.text_mem {preserve : Bool} {ns ms : List Node} (h : Condenses preserve ns ms)
    {s : String} : .text s ∈ ms ↔ .text s ∈ ns := by
  induction h with
  | nil => rfl
  | text h ih | interpolation h ih | element hraw hbelow h ihraw ih => simp [ih]

/-- Siblings at any depth of the result have been condensed from sound ones. -/
lemma exists_of_siblingsAt {preserve keep : Bool} {raw below out cs : List Node}
    (hraw : ∀ n ∈ raw, n.Sound) (hcondenses : Condenses preserve raw below)
    (htidies : Tidies below preserve out) (h : SiblingsAt preserve out keep cs) :
    ∃ ns ms, (∀ n ∈ ns, n.Sound) ∧ Condenses keep ns ms ∧ Tidies ms keep cs := by
  induction h with
  | top => exact ⟨raw, below, hraw, hcondenses, htidies⟩
  | inside h hmem ih =>
    obtain ⟨ns, ms, hns, hcondenses, htidies⟩ := ih
    obtain ⟨children, inner, hchildren, hinner, hcs⟩ :=
      hcondenses.element_mem (htidies.element_mem.1 hmem)
    cases hns _ hchildren with
    | element void hsound => exact ⟨children, inner, hsound, hinner, hcs⟩

lemma childless_of_condenses {keep : Bool} {ns ms cs children : List Node} {tag : String}
    {as : List Attribute} (hns : ∀ n ∈ ns, n.Sound) (hcondenses : Condenses keep ns ms)
    (htidies : Tidies ms keep cs) (hmem : .element tag as children ∈ cs)
    (hvoid : voidElements.contains tag) : children = [] := by
  obtain ⟨raw, below, hraw, hbelow, hchildren⟩ :=
    hcondenses.element_mem (htidies.element_mem.1 hmem)
  cases hns _ hraw with
  | element void hsound =>
    obtain rfl := void hvoid
    generalize (keep || tag == "pre") = inside at hbelow hchildren
    cases hbelow
    cases hchildren with
    | preserved => rfl
    | spaced h =>
      cases h
      rfl

/-- Siblings of a template as they are after parsing. -/
structure Finished (preserve : Bool) (ns : List Node) : Prop extends Condensed preserve ns where
  written : .text "" ∉ ns
  childless : ∀ tag as cs, .element tag as cs ∈ ns → voidElements.contains tag → cs = []

/-- A template is condensed from the trees of its tokens: what is left out only lays out the
markup, nothing but blanks is lost, siblings at every depth are finished, and condensing again
changes nothing. -/
theorem parse_condensed {source : String} {ns : List Node} (h : parse source = .ok ns) :
    ∃ raw below, build (tokens source.toList).1 (tokens source.toList).2 = .ok raw ∧
      condense raw = ns ∧ Condenses false raw below ∧ Tidies below false ns ∧
      Node.inkAll false ns = Node.inkAll false raw ∧
      (∀ keep cs, SiblingsAt false ns keep cs → Finished keep cs) ∧ condense ns = ns := by
  unfold parse at h
  dsimp only at h
  split at h
  next raw hbuild =>
    cases h
    have hraw := sound_of_build (tokens_ne_empty source.toList) hbuild
    have hcondenses := condenses_condenseList false raw
    have htidies := tidies_tidy false (Node.condenseList false raw)
    refine ⟨raw, Node.condenseList false raw, hbuild, rfl, hcondenses, htidies,
      inkAll_condense raw, fun keep cs hcs => ?_, condense_condense raw⟩
    obtain ⟨ns, ms, hns, hinner, hout⟩ := exists_of_siblingsAt hraw hcondenses htidies hcs
    refine ⟨hout.condensed, hout.not_mem fun hmem => ?_, fun tag as children hmem =>
      childless_of_condenses hns hinner hout hmem⟩
    cases hns _ (hinner.text_mem.1 hmem) with
    | text hs => exact hs rfl
  next => cases h

/-- The texts around a comment are one, a line break between elements is left out, and blanks inside
`pre` are kept. -/
theorem parse_condensed_comment :
    let ns := [Node.element "b" [] [.text "a c"], .element "pre" [] [.text " "]]
    parse "<b>a <!----> c</b>\n<pre> </pre>" = .ok ns ∧
      (∀ keep cs, SiblingsAt false ns keep cs → Finished keep cs) ∧ condense ns = ns := by
  intro ns
  have hparse : parse "<b>a <!----> c</b>\n<pre> </pre>" = .ok ns := by cbv
  obtain ⟨raw, below, -, -, -, -, -, hfinished, hagain⟩ := parse_condensed hparse
  exact ⟨hparse, hfinished, hagain⟩

end Unbundled.Template
