import Unbundled.Proofs.Template.Parsed

/-!
# Hard spaces

Outside `pre` condensing does not tell blanks apart, line breaks excepted: a tree in which one
blank stands for another is condensed to the same tree. So a no-break space is condensed like a
space that has been typed, however it has been written.
-/

namespace Unbundled.Template

/-- `f` puts blanks for blanks, and touches neither line breaks nor other characters. -/
structure Respells (f : Char → Char) : Prop where
  blank : ∀ c, Text.isBlank (f c) = Text.isBlank c
  other : ∀ c, Text.isBlank c = false → f c = c
  newline : ∀ c, f c = '\n' ↔ c = '\n'

/-- A text with `f` put through its characters, or as it is where blanks are kept. -/
def Node.mapText (f : Char → Char) (preserve : Bool) : Node → Node
  | text s => if preserve then .text s else .text (String.ofList (s.toList.map f))
  | n => n

mutual

/-- The node with `f` put through all texts outside `pre`. -/
def Node.respell (f : Char → Char) (preserve : Bool) : Node → Node
  | .element tag as cs => .element tag as (Node.respellAll f (preserve || tag == "pre") cs)
  | n => n.mapText f preserve

def Node.respellAll (f : Char → Char) (preserve : Bool) : List Node → List Node
  | [] => []
  | n :: ns => n.respell f preserve :: Node.respellAll f preserve ns

end

variable {f : Char → Char}

lemma mapText_true : Node.mapText f true = id := by
  funext n
  cases n <;> rfl

/-! ## One list of siblings -/

lemma mergeTexts_mapText (ns : List Node) :
    mergeTexts (ns.map (Node.mapText f false)) = (mergeTexts ns).map (Node.mapText f false) := by
  induction ns with
  | nil => rfl
  | cons n ns ih =>
    cases n with
    | text a =>
      rw [List.map_cons, Node.mapText, if_neg Bool.false_ne_true, mergeTexts, ih, mergeTexts]
      cases mergeTexts ns with
      | nil => rfl
      | cons m rest => cases m <;> simp [Node.mapText, String.toList_append]
    | _ => exact congrArg (_ :: ·) ih

lemma isLayout_mapText (hf : Respells f) (before? after? : Option Node) (n : Node) :
    isLayout (before?.map (Node.mapText f false)) (n.mapText f false)
      (after?.map (Node.mapText f false)) = isLayout before? n after? := by
  have helement (n : Node) : (n.mapText f false).isElement = n.isElement := by
    cases n <;> rfl
  have hblank : (n.mapText f false).isBlankText = n.isBlankText := by
    cases n with
    | text s => simp [Node.mapText, Node.isBlankText, Function.comp_def, hf.blank]
    | _ => rfl
  have hbreaks : (n.mapText f false).breaksLine = n.breaksLine := by
    cases n with
    | text s =>
      rw [Bool.eq_iff_iff]
      simp [Node.mapText, Node.breaksLine, hf.newline]
    | _ => rfl
  unfold isLayout
  rw [hblank, hbreaks]
  cases before? <;> cases after? <;> simp [helement]

lemma dropLayout_mapText (hf : Respells f) (before? : Option Node) (ns : List Node) :
    dropLayout (before?.map (Node.mapText f false)) (ns.map (Node.mapText f false)) =
      (dropLayout before? ns).map (Node.mapText f false) := by
  induction ns generalizing before? with
  | nil => rfl
  | cons n ns ih =>
    rw [List.map_cons, dropLayout, dropLayout, List.head?_map, isLayout_mapText hf]
    have hrest := ih (some n)
    rw [Option.map_some] at hrest
    rw [hrest]
    split
    · rfl
    · rw [List.map_cons]

lemma collapseRuns_map (hf : Respells f) (inRun : Bool) (cs : List Char) :
    collapseRuns inRun (cs.map f) = collapseRuns inRun cs := by
  induction cs generalizing inRun with
  | nil => rfl
  | cons c cs ih =>
    rw [List.map_cons, collapseRuns, collapseRuns, hf.blank, ih, ih]
    cases hc : Text.isBlank c with
    | false => rw [hf.other c hc]
    | true => rfl

lemma collapse_mapText (hf : Respells f) (n : Node) :
    (n.mapText f false).collapse = n.collapse := by
  cases n with
  | text s => simp [Node.mapText, Node.collapse, collapseRuns_map hf]
  | _ => rfl

lemma tidy_mapText (hf : Respells f) (preserve : Bool) (ns : List Node) :
    tidy preserve (ns.map (Node.mapText f preserve)) = tidy preserve ns := by
  cases preserve with
  | true => rw [mapText_true, List.map_id]
  | false =>
    have hdrop := dropLayout_mapText hf none (mergeTexts ns)
    rw [Option.map_none] at hdrop
    rw [tidy, tidy, mergeTexts_mapText, hdrop, List.map_map]
    exact List.map_congr_left fun n _ => collapse_mapText hf n

/-! ## The whole tree -/

mutual

lemma condense_respell (hf : Respells f) (preserve : Bool) : (n : Node) →
    (n.respell f preserve).condense preserve = (n.condense preserve).mapText f preserve
  | .text s => by cases preserve <;> rfl
  | .interpolation _ => rfl
  | .element tag as cs => by
    rw [Node.respell, Node.condense, Node.condense,
      condenseList_respellAll hf (preserve || tag == "pre") cs, tidy_mapText hf]
    rfl

lemma condenseList_respellAll (hf : Respells f) (preserve : Bool) : (ns : List Node) →
    Node.condenseList preserve (Node.respellAll f preserve ns) =
      (Node.condenseList preserve ns).map (Node.mapText f preserve)
  | [] => rfl
  | n :: ns => by
    rw [Node.respellAll, Node.condenseList, Node.condenseList, List.map_cons,
      condense_respell hf preserve n, condenseList_respellAll hf preserve ns]

end

/-- Outside `pre` condensing does not tell blanks apart, line breaks excepted. -/
theorem condense_respellAll (hf : Respells f) (ns : List Node) :
    condense (Node.respellAll f false ns) = condense ns := by
  rw [condense, condenseList_respellAll hf, tidy_mapText hf, condense]

/-! ## No-break spaces -/

/-- A space for a no-break space. -/
def softened (c : Char) : Char := if c = '\u00a0' then ' ' else c

lemma respells_softened : Respells softened := by
  refine ⟨fun c => ?_, fun c hc => ?_, fun c => ?_⟩
  · unfold softened
    split
    next h => rw [h]; decide
    next => rfl
  · unfold softened
    split
    next h => rw [h] at hc; cases hc
    next => rfl
  · unfold softened
    split
    next h => rw [h]; decide
    next => rfl

lemma eq_space_of_collapsed {cs : List Char} (h : isCollapsed cs) {c : Char} (hc : c ∈ cs)
    (hblank : Text.isBlank c) : c = ' ' := by
  induction cs with
  | nil => cases hc
  | cons d cs ih =>
    rw [isCollapsed, Bool.and_eq_true] at h
    rcases List.mem_cons.1 hc with rfl | hc
    · have hspace : c = ' ' ∧ cs.head?.all (!Text.isBlank ·) := by simpa [hblank] using h.1
      exact hspace.1
    · exact ih h.2 hc

/-- Outside `pre` a no-break space is parsed like a space, and no blank but spaces is left. -/
theorem parse_softened {source : String} {ns : List Node} (h : parse source = .ok ns) :
    ∃ raw, build (tokens source.toList).1 (tokens source.toList).2 = .ok raw ∧
      condense (Node.respellAll softened false raw) = ns ∧
      ∀ cs, SiblingsAt false ns false cs → ∀ s, .text s ∈ cs → ∀ c ∈ s.toList,
        Text.isBlank c → c = ' ' := by
  obtain ⟨raw, below, hbuild, hcondense, -, -, -, hfinished, -⟩ := parse_condensed h
  refine ⟨raw, hbuild, ?_, fun cs hcs s hs => ?_⟩
  · rw [condense_respellAll respells_softened, hcondense]
  · exact fun c hc => eq_space_of_collapsed ((hfinished false cs hcs).collapsed rfl s hs) hc

example : parse "<p>a&nbsp;b</p><pre>&nbsp;</pre><p>&nbsp;</p>" =
    .ok [.element "p" [] [.text "a b"], .element "pre" [] [.text "\u00a0"], .element "p" [] []] := by
  cbv

end Unbundled.Template
