import Unbundled.Proofs.Template.Spelling

/-!
# Condensing what surrounds a normal tree

`Loose` describes a normal tree with layout between its nodes. Condensing removes the layout and
leaves the tree as it was.
-/

namespace Unbundled.Template

open Markup (Attribute)

/-- Layout as texts of their own. -/
def layoutNodes (ws : List String) : List Node := ws.map .text

/-- The second list has the nodes of the first one, with layout where it is admitted. -/
inductive Loose : Bool → Option Node → List Node → List Node → Prop
  | nil {preserve : Bool} {before? : Option Node} {ws : List String}
      (layout : ∀ w ∈ ws, isLayoutText w.toList)
      (admits : ws = [] ∨ admitsLayout preserve before? none) :
      Loose preserve before? [] (layoutNodes ws)
  | text {preserve : Bool} {before? : Option Node} {s : String} {ns raw : List Node}
      (h : Loose preserve (some (.text s)) ns raw) :
      Loose preserve before? (.text s :: ns) (.text s :: raw)
  | interpolation {preserve : Bool} {before? : Option Node} {source : String}
      {ns raw : List Node} (h : Loose preserve (some (.interpolation source)) ns raw) :
      Loose preserve before? (.interpolation source :: ns) (.interpolation source :: raw)
  | element {preserve : Bool} {before? : Option Node} {ws : List String} {tag : String}
      {as : List Attribute} {children below ns raw : List Node}
      (layout : ∀ w ∈ ws, isLayoutText w.toList)
      (admits : ws = [] ∨ admitsLayout preserve before? (some (.element tag as children)))
      (hchildren : Loose (preserve || tag == "pre") none children below)
      (h : Loose preserve (some (.element tag as children)) ns raw) :
      Loose preserve before? (.element tag as children :: ns)
        (layoutNodes ws ++ .element tag as below :: raw)

/-! ## Merging texts -/

lemma isLayoutText_append {as bs : List Char} (ha : isLayoutText as) (hb : isLayoutText bs) :
    isLayoutText (as ++ bs) := by
  simp_all [isLayoutText]

lemma mergeTexts_cons {n : Node} (hn : ∀ s, n ≠ .text s) (ns : List Node) :
    mergeTexts (n :: ns) = n :: mergeTexts ns := by
  cases n with
  | text s => exact absurd rfl (hn s)
  | _ => rfl

lemma mergeTexts_text {s : String} {ns : List Node}
    (h : ∀ t, (mergeTexts ns).head? ≠ some (.text t)) :
    mergeTexts (.text s :: ns) = .text s :: mergeTexts ns := by
  rw [mergeTexts]
  split
  · next b rest hrest => exact absurd (by rw [hrest]; rfl) (h b)
  · rfl

lemma mergeTexts_layout {ws : List String} (layout : ∀ w ∈ ws, isLayoutText w.toList)
    {ns : List Node} (h : ∀ t, (mergeTexts ns).head? ≠ some (.text t)) :
    mergeTexts (layoutNodes ws ++ ns) = mergeTexts ns ∧ ws = [] ∨
      ∃ w : String, isLayoutText w.toList ∧
        mergeTexts (layoutNodes ws ++ ns) = .text w :: mergeTexts ns := by
  induction ws with
  | nil => exact .inl ⟨rfl, rfl⟩
  | cons w ws ih =>
    obtain ⟨hw, hws⟩ := List.forall_mem_cons.1 layout
    have hcons : layoutNodes (w :: ws) ++ ns = .text w :: (layoutNodes ws ++ ns) := rfl
    rw [hcons]
    rcases ih hws with ⟨hmerge, -⟩ | ⟨v, hv, hmerge⟩
    · refine .inr ⟨w, hw, ?_⟩
      rw [mergeTexts_text (by rwa [hmerge]), hmerge]
    · refine .inr ⟨w ++ v, ?_, ?_⟩
      · rw [String.toList_append]
        exact isLayoutText_append hw hv
      · rw [mergeTexts, hmerge]

/-! ## Dropping layout -/

lemma isBlankText_of_layout {w : String} (hw : isLayoutText w.toList) :
    (Node.text w).isBlankText ∧ (Node.text w).breaksLine := by
  rw [isLayoutText, Bool.and_eq_true] at hw
  exact hw

lemma isLayout_of_admits {preserve : Bool} {before? after? : Option Node} {w : String}
    (hw : isLayoutText w.toList) (admits : admitsLayout preserve before? after?) :
    isLayout before? (.text w) after? := by
  obtain ⟨hblank, hbreaks⟩ := isBlankText_of_layout hw
  rw [admitsLayout, Bool.and_eq_true, Bool.and_eq_true] at admits
  obtain ⟨⟨-, hbefore⟩, hafter⟩ := admits
  unfold isLayout
  rw [hblank]
  cases before? with
  | none => rfl
  | some before =>
    cases after? with
    | none => rfl
    | some after => simp_all

lemma dropLayout_keep {before? : Option Node} {n : Node} {ns : List Node}
    (h : isLayout before? n ns.head? = false) :
    dropLayout before? (n :: ns) = n :: dropLayout (some n) ns := by
  rw [dropLayout, h]
  rfl

lemma dropLayout_drop {before? : Option Node} {n : Node} {ns : List Node}
    (h : isLayout before? n ns.head?) : dropLayout before? (n :: ns) = dropLayout (some n) ns := by
  rw [dropLayout, if_pos h]

lemma isLayout_of_not_blank {n : Node} (h : n.isBlankText = false) (before? after? : Option Node) :
    isLayout before? n after? = false := by
  unfold isLayout
  rw [h]
  rfl

/-! ## Collapsing blanks -/

lemma collapseRuns_true {cs : List Char} (h : cs.head?.all (!Text.isBlank ·)) :
    collapseRuns true cs = collapseRuns false cs := by
  cases cs with
  | nil => rfl
  | cons c cs =>
    have hc : Text.isBlank c = false := by simpa using h
    rw [collapseRuns, collapseRuns, hc]
    rfl

lemma collapseRuns_of_collapsed {cs : List Char} (h : isCollapsed cs) :
    collapseRuns false cs = cs := by
  induction cs with
  | nil => rfl
  | cons c cs ih =>
    rw [isCollapsed, Bool.and_eq_true] at h
    rw [collapseRuns]
    cases hc : Text.isBlank c with
    | false =>
      rw [if_neg (by simp), ih h.2]
    | true =>
      obtain ⟨rfl, hhead⟩ : c = ' ' ∧ cs.head?.all (!Text.isBlank ·) := by simpa [hc] using h.1
      rw [if_pos rfl, collapseRuns_true hhead, ih h.2]
      rfl

lemma not_mem_of_collapsed {cs : List Char} (h : isCollapsed cs) : '\n' ∉ cs := by
  induction cs with
  | nil => simp
  | cons c cs ih =>
    rw [isCollapsed, Bool.and_eq_true] at h
    rw [List.mem_cons, not_or]
    refine ⟨?_, ih h.2⟩
    rintro rfl
    simp [Text.isBlank] at h

lemma isLayout_of_collapsed {s : String} {before? after? : Option Node}
    (h : isCollapsed s.toList) (hbefore : before? ≠ none) (hafter : after? ≠ none) :
    isLayout before? (.text s) after? = false := by
  obtain ⟨before, rfl⟩ := Option.ne_none_iff_exists'.1 hbefore
  obtain ⟨after, rfl⟩ := Option.ne_none_iff_exists'.1 hafter
  have hbreaks : (Node.text s).breaksLine = false := by
    have hnot := not_mem_of_collapsed h
    simpa [Node.breaksLine] using hnot
  rw [isLayout, hbreaks, Bool.and_false, Bool.and_false]

/-! ## Normal trees -/

/-- One list of siblings behind `before?`, whose own children have been condensed. -/
def tidyBehind (preserve : Bool) (before? : Option Node) (ns : List Node) : List Node :=
  if preserve then mergeTexts ns else (dropLayout before? (mergeTexts ns)).map Node.collapse

lemma tidy_eq (preserve : Bool) (ns : List Node) : tidy preserve ns = tidyBehind preserve none ns :=
  rfl

lemma condenseList_append (preserve : Bool) (ms ns : List Node) :
    Node.condenseList preserve (ms ++ ns) =
      Node.condenseList preserve ms ++ Node.condenseList preserve ns := by
  induction ms with
  | nil => rfl
  | cons m ms ih =>
    rw [List.cons_append, Node.condenseList, Node.condenseList, ih, List.cons_append]

lemma condenseList_layout (preserve : Bool) (ws : List String) :
    Node.condenseList preserve (layoutNodes ws) = layoutNodes ws := by
  induction ws with
  | nil => rfl
  | cons w ws ih =>
    have hcons : layoutNodes (w :: ws) = .text w :: layoutNodes ws := rfl
    rw [hcons, Node.condenseList, ih]
    rfl

lemma condenseList_interpolation (preserve : Bool) (source : String) (ns : List Node) :
    Node.condenseList preserve (.interpolation source :: ns) =
      .interpolation source :: Node.condenseList preserve ns := rfl

lemma condenseList_element (preserve : Bool) (tag : String) (as : List Attribute)
    (children ns : List Node) :
    Node.condenseList preserve (.element tag as children :: ns) =
      .element tag as (tidy (preserve || tag == "pre")
          (Node.condenseList (preserve || tag == "pre") children)) ::
        Node.condenseList preserve ns := rfl

/-- Only elements and the ends of a list have layout beside them. -/
lemma eq_nil_of_admits {preserve : Bool} {before : Node} {after? : Option Node}
    {ws : List String} (hbefore : before.isElement = false)
    (admits : ws = [] ∨ admitsLayout preserve (some before) after?) : ws = [] := by
  rcases admits with hws | admits
  · exact hws
  · simp [admitsLayout, hbefore] at admits

/-- Behind a text comes no text, and no layout either. -/
lemma head_behind_text {preserve : Bool} {s : String} {ns raw : List Node}
    (hnormal : Normal preserve (some (.text s)) ns)
    (h : Loose preserve (some (.text s)) ns raw) :
    (∀ t, (mergeTexts (Node.condenseList preserve raw)).head? ≠ some (.text t)) ∧
      (ns ≠ [] → mergeTexts (Node.condenseList preserve raw) ≠ []) := by
  cases h with
  | nil layout admits =>
    rw [eq_nil_of_admits rfl admits]
    exact ⟨by simp [layoutNodes, Node.condenseList, mergeTexts], fun hne => absurd rfl hne⟩
  | text h =>
    cases hnormal with
    | text hs apart => exact absurd rfl (apart s)
  | interpolation h =>
    rw [condenseList_interpolation, mergeTexts_cons (by simp)]
    simp
  | element layout admits hchildren h =>
    rw [eq_nil_of_admits rfl admits, layoutNodes, List.map_nil, List.nil_append,
      condenseList_element, mergeTexts_cons (by simp)]
    simp

lemma tidyBehind_cons {preserve : Bool} {before? : Option Node} {n : Node} {ns : List Node}
    (hmerge : mergeTexts (n :: ns) = n :: mergeTexts ns)
    (hkeep : preserve = false →
      isLayout before? n (mergeTexts ns).head? = false ∧ n.collapse = n) :
    tidyBehind preserve before? (n :: ns) = n :: tidyBehind preserve (some n) ns := by
  cases preserve with
  | true => rw [tidyBehind, if_pos rfl, hmerge, tidyBehind, if_pos rfl]
  | false =>
    obtain ⟨hlayout, hcollapse⟩ := hkeep rfl
    rw [tidyBehind, if_neg (by simp), hmerge, dropLayout_keep hlayout, List.map_cons, hcollapse,
      tidyBehind, if_neg (by simp)]

/-- Layout before an element or the end is gone. -/
lemma tidyBehind_layout {preserve : Bool} {before? : Option Node} {ws : List String}
    (layout : ∀ w ∈ ws, isLayoutText w.toList) {ns : List Node}
    (hns : ∀ t, (mergeTexts ns).head? ≠ some (.text t))
    (admits : ws = [] ∨ admitsLayout preserve before? (mergeTexts ns).head?)
    (hnext : ∀ n ∈ (mergeTexts ns).head?, n.isBlankText = false) :
    tidyBehind preserve before? (layoutNodes ws ++ ns) = tidyBehind preserve before? ns := by
  rcases mergeTexts_layout layout hns with ⟨hmerge, -⟩ | ⟨w, hw, hmerge⟩
  · rw [tidyBehind, tidyBehind, hmerge]
  rcases admits with rfl | admits
  · rfl
  cases preserve with
  | true => simp [admitsLayout] at admits
  | false =>
    have hdrop : dropLayout before? (.text w :: mergeTexts ns) =
        dropLayout before? (mergeTexts ns) := by
      rw [dropLayout_drop (isLayout_of_admits hw admits)]
      cases hm : mergeTexts ns with
      | nil => rfl
      | cons n m =>
        have hkeep := isLayout_of_not_blank (hnext n (by rw [hm]; rfl))
        rw [dropLayout_keep (hkeep _ _), dropLayout_keep (hkeep _ _)]
    rw [tidyBehind, tidyBehind, hmerge, if_neg (by simp), if_neg (by simp), hdrop]

/-- Condensing a normal tree with layout in it gives back the tree. -/
theorem tidyBehind_loose {preserve : Bool} {before? : Option Node} {ns raw : List Node}
    (hnormal : Normal preserve before? ns) (h : Loose preserve before? ns raw) :
    tidyBehind preserve before? (Node.condenseList preserve raw) = ns := by
  -- `before?` is the last node that is kept: dropped layout is never a neighbour.
  induction h with
  | nil layout admits =>
    have hhead : ∀ t, (mergeTexts []).head? ≠ some (.text t) := by simp [mergeTexts]
    have hdropped := tidyBehind_layout layout hhead (by simpa [mergeTexts] using admits)
      (by simp [mergeTexts])
    rw [List.append_nil] at hdropped
    rw [condenseList_layout, hdropped]
    simp [tidyBehind, mergeTexts, dropLayout]
  | @text preserve before? s ns raw h ih =>
    cases hnormal with
    | text hs apart blanks hnormal =>
      obtain ⟨hhead, hnonempty⟩ := head_behind_text hnormal h
      have hcons : Node.condenseList preserve (.text s :: raw) =
          .text s :: Node.condenseList preserve raw := rfl
      rw [hcons, tidyBehind_cons (mergeTexts_text hhead), ih hnormal]
      intro hpreserve
      obtain ⟨hcollapsed, hbetween⟩ := blanks hpreserve
      constructor
      · cases hblank : (Node.text s).isBlankText with
        | false => exact isLayout_of_not_blank hblank _ _
        | true =>
          obtain ⟨hbefore, hne⟩ := hbetween hblank
          exact isLayout_of_collapsed hcollapsed hbefore (by simpa using hnonempty hne)
      · rw [Node.collapse, collapseRuns_of_collapsed hcollapsed, String.ofList_toList]
  | interpolation h ih =>
    cases hnormal with
    | interpolation trimmed inside hnormal =>
      rw [condenseList_interpolation, tidyBehind_cons (mergeTexts_cons (by simp) _), ih hnormal]
      exact fun _ => ⟨isLayout_of_not_blank rfl _ _, rfl⟩
  | @element preserve before? ws tag as children below ns raw layout admits hchildren h
      ihchildren ih =>
    cases hnormal with
    | element htag hnames void hnormalChildren hnormal =>
      have htidy := ihchildren hnormalChildren
      have hmerge := mergeTexts_cons (n := .element tag as children) (by simp)
        (Node.condenseList preserve raw)
      rw [condenseList_append, condenseList_layout, condenseList_element, tidy_eq, htidy,
        tidyBehind_layout layout, tidyBehind_cons hmerge, ih hnormal]
      · exact fun _ => ⟨isLayout_of_not_blank rfl _ _, rfl⟩
      · simp [hmerge]
      · simpa [hmerge] using admits
      · simp [hmerge, Node.isBlankText]

/-- The roots of a normal template are found behind the layout around them. -/
theorem condense_loose {ns raw : List Node} (hnormal : Normal false none ns)
    (h : Loose false none ns raw) : condense raw = ns := by
  rw [condense, tidy_eq, tidyBehind_loose hnormal h]

end Unbundled.Template
