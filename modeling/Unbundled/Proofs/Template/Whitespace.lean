import Unbundled.Proofs.Template.Condense
import Unbundled.Template.Parser
import Mathlib.Data.List.Chain

/-!
# What condensing does to a tree

`Condenses` tells which trees a tree may be condensed to: adjacent texts are one, blanks that only
lay out the markup are left out, and every other run of blanks is one space. Nothing else is lost,
the result has a fixed form at every depth, and condensing it again changes nothing.
-/

namespace Unbundled.Template

open Markup (Attribute)

/-- A text that only lays out the markup between its neighbours: blanks at an end of their list, or
with a line break between elements. -/
def LaysOut (before? : Option Node) (s : String) (after? : Option Node) : Prop :=
  (∀ c ∈ s.toList, Text.isBlank c) ∧
    ∀ before ∈ before?, ∀ after ∈ after?, before.isElement ∧ after.isElement ∧ '\n' ∈ s.toList

/-- The second list are the siblings behind `before?` without the texts that only lay them out. -/
inductive LeavesOut : Option Node → List Node → List Node → Prop
  | nil {before? : Option Node} : LeavesOut before? [] []
  | kept {before? : Option Node} {n : Node} {ns out : List Node}
      (hn : ∀ s, n = .text s → ¬ LaysOut before? s ns.head?) (h : LeavesOut (some n) ns out) :
      LeavesOut before? (n :: ns) (n :: out)
  | dropped {before? : Option Node} {s : String} {ns out : List Node}
      (hs : LaysOut before? s ns.head?) (h : LeavesOut (some (.text s)) ns out) :
      LeavesOut before? (.text s :: ns) out

/-- What becomes of siblings whose own children have been condensed. -/
inductive Tidies (ns : List Node) : Bool → List Node → Prop
  | preserved : Tidies ns true (mergeTexts ns)
  | spaced {out : List Node} (h : LeavesOut none (mergeTexts ns) out) :
      Tidies ns false (out.map Node.collapse)

/-- The second list are the nodes of the first one, each with what it contains condensed; inside
`pre` blanks are kept as they are. -/
inductive Condenses : Bool → List Node → List Node → Prop
  | nil {preserve : Bool} : Condenses preserve [] []
  | text {preserve : Bool} {s : String} {ns ms : List Node} (h : Condenses preserve ns ms) :
      Condenses preserve (.text s :: ns) (.text s :: ms)
  | interpolation {preserve : Bool} {source : String} {ns ms : List Node}
      (h : Condenses preserve ns ms) :
      Condenses preserve (.interpolation source :: ns) (.interpolation source :: ms)
  | element {preserve : Bool} {tag : String} {as : List Attribute}
      {raw below children ns ms : List Node} (hraw : Condenses (preserve || tag == "pre") raw below)
      (hbelow : Tidies below (preserve || tag == "pre") children) (h : Condenses preserve ns ms) :
      Condenses preserve (.element tag as raw :: ns) (.element tag as children :: ms)

/-- The siblings `cs` are `ns` or stand somewhere below them; the flags tell whether blanks are kept
as they are. -/
inductive SiblingsAt (preserve : Bool) (ns : List Node) : Bool → List Node → Prop
  | top : SiblingsAt preserve ns preserve ns
  | inside {keep : Bool} {tag : String} {as : List Attribute} {cs children : List Node}
      (h : SiblingsAt preserve ns keep cs) (hmem : .element tag as children ∈ cs) :
      SiblingsAt preserve ns (keep || tag == "pre") children

def Node.isText : Node → Bool
  | text _ => true
  | _ => false

/-- Texts do not stand side by side. -/
def Apart (m n : Node) : Prop := m.isText = false ∨ n.isText = false

/-- Siblings as they are after condensing. -/
structure Condensed (preserve : Bool) (ns : List Node) : Prop where
  apart : ns.IsChain Apart
  collapsed : preserve = false → ∀ s, .text s ∈ ns → isCollapsed s.toList
  first : preserve = false → ∀ n ∈ ns.head?, n.isBlankText = false
  last : preserve = false → ∀ n ∈ ns.getLast?, n.isBlankText = false

/-- What cannot be lost: the characters of texts, expressions, and where elements begin and end. -/
inductive Ink where
  | char (c : Char)
  | interpolation (source : String)
  | opening (tag : String) (attributes : List Attribute)
  | closing

mutual

/-- The ink of a node. Blanks are ink where they are kept as they are. -/
def Node.ink (preserve : Bool) : Node → List Ink
  | text s => (s.toList.filter fun c => preserve || !Text.isBlank c).map .char
  | interpolation source => [.interpolation source]
  | element tag as cs => .opening tag as :: (Node.inkAll (preserve || tag == "pre") cs ++ [.closing])

def Node.inkAll (preserve : Bool) : List Node → List Ink
  | [] => []
  | n :: ns => n.ink preserve ++ Node.inkAll preserve ns

end

/-! ## Condensing follows the relation -/

lemma isBlankText_text {s : String} :
    (Node.text s).isBlankText ↔ ∀ c ∈ s.toList, Text.isBlank c :=
  List.all_eq_true

lemma isLayout_text {before? after? : Option Node} {s : String} :
    isLayout before? (.text s) after? ↔ LaysOut before? s after? := by
  unfold isLayout
  rw [Bool.and_eq_true, isBlankText_text, LaysOut, and_congr_right_iff]
  intro _
  cases before? with
  | none => simp
  | some before =>
    cases after? with
    | none => simp
    | some after => simp [Node.breaksLine, and_assoc]

lemma leavesOut_dropLayout (before? : Option Node) (ns : List Node) :
    LeavesOut before? ns (dropLayout before? ns) := by
  induction ns generalizing before? with
  | nil => exact .nil
  | cons n ns ih =>
    cases hlayout : isLayout before? n ns.head? with
    | false =>
      rw [dropLayout_keep hlayout]
      refine .kept ?_ (ih _)
      rintro s rfl hs
      rw [isLayout_text.2 hs] at hlayout
      cases hlayout
    | true =>
      rw [dropLayout_drop hlayout]
      cases n with
      | text s => exact .dropped (isLayout_text.1 hlayout) (ih _)
      | _ => cases hlayout

lemma tidies_tidy (preserve : Bool) (ns : List Node) : Tidies ns preserve (tidy preserve ns) := by
  cases preserve with
  | false => exact .spaced (leavesOut_dropLayout none _)
  | true => exact .preserved

mutual

lemma condenses_cons (preserve : Bool) : (n : Node) → {ns ms : List Node} →
    Condenses preserve ns ms → Condenses preserve (n :: ns) (n.condense preserve :: ms)
  | .text _, _, _, h => .text h
  | .interpolation _, _, _, h => .interpolation h
  | .element tag _ cs, _, _, h =>
    .element (condenses_condenseList (preserve || tag == "pre") cs) (tidies_tidy _ _) h

lemma condenses_condenseList (preserve : Bool) :
    (ns : List Node) → Condenses preserve ns (Node.condenseList preserve ns)
  | [] => .nil
  | n :: ns => condenses_cons preserve n (condenses_condenseList preserve ns)

end

/-! ## Elements stay where they are -/

lemma element_mem_mergeTexts {tag : String} {as : List Attribute} {cs ns : List Node} :
    .element tag as cs ∈ mergeTexts ns ↔ .element tag as cs ∈ ns := by
  induction ns with
  | nil => rfl
  | cons n ns ih =>
    cases n with
    | text a =>
      rw [mergeTexts]
      split
      next b rest hrest => simpa [hrest] using ih
      next => simpa using ih
    | _ => simp [mergeTexts, ih]

lemma LeavesOut.sublist {before? : Option Node} {ns out : List Node}
    (h : LeavesOut before? ns out) : out.Sublist ns := by
  induction h with
  | nil => exact .refl _
  | kept hn h ih => exact ih.cons_cons _
  | dropped hs h ih => exact ih.cons _

lemma LeavesOut.element_mem {before? : Option Node} {ns out : List Node} {tag : String}
    {as : List Attribute} {cs : List Node} (h : LeavesOut before? ns out) :
    .element tag as cs ∈ out ↔ .element tag as cs ∈ ns := by
  induction h with
  | nil => rfl
  | kept hn h ih => simp [ih]
  | dropped hs h ih => simp [ih]

lemma element_mem_collapse {ns : List Node} {tag : String} {as : List Attribute}
    {cs : List Node} : .element tag as cs ∈ ns.map Node.collapse ↔ .element tag as cs ∈ ns := by
  rw [List.mem_map]
  constructor
  · rintro ⟨n, hn, heq⟩
    cases n with
    | text s => cases heq
    | _ => exact heq ▸ hn
  · exact fun hmem => ⟨_, hmem, rfl⟩

lemma Tidies.element_mem {preserve : Bool} {ns out : List Node} (h : Tidies ns preserve out)
    {tag : String} {as : List Attribute} {cs : List Node} :
    .element tag as cs ∈ out ↔ .element tag as cs ∈ ns := by
  cases h with
  | preserved => exact element_mem_mergeTexts
  | spaced h => rw [element_mem_collapse, h.element_mem, element_mem_mergeTexts]

lemma Condenses.element_mem {preserve : Bool} {ns ms : List Node} (h : Condenses preserve ns ms)
    {tag : String} {as : List Attribute} {cs : List Node} (hmem : .element tag as cs ∈ ms) :
    ∃ raw below, .element tag as raw ∈ ns ∧ Condenses (preserve || tag == "pre") raw below ∧
      Tidies below (preserve || tag == "pre") cs := by
  induction h with
  | nil => cases hmem
  | text h ih | interpolation h ih =>
    obtain ⟨raw, below, hraw, hcondenses, htidies⟩ := ih (by simpa using hmem)
    exact ⟨raw, below, .tail _ hraw, hcondenses, htidies⟩
  | element hraw hbelow h ihraw ih =>
    rcases List.mem_cons.1 hmem with heq | hmem
    · cases heq
      exact ⟨_, _, .head _, hraw, hbelow⟩
    · obtain ⟨raw, below, hmem, hcondenses, htidies⟩ := ih hmem
      exact ⟨raw, below, .tail _ hmem, hcondenses, htidies⟩

/-! ## The form of siblings -/

lemma isChain_mergeTexts (ns : List Node) : (mergeTexts ns).IsChain Apart := by
  induction ns with
  | nil => exact .nil
  | cons n ns ih =>
    cases n with
    | text a =>
      unfold mergeTexts
      split
      next b rest hrest =>
        rw [hrest, List.isChain_cons] at ih
        exact List.isChain_cons.2 ih
      next hother =>
        refine List.isChain_cons.2 ⟨fun m hm => ?_, ih⟩
        obtain ⟨rest, hrest⟩ := List.head?_eq_some_iff.1 hm
        cases m with
        | text b => exact absurd hrest (hother b rest)
        | _ => exact .inr rfl
    | _ => exact List.isChain_cons.2 ⟨fun _ _ => .inl rfl, ih⟩

/-- No text that is dropped stands in front of what is no text. -/
lemma LeavesOut.head {before? : Option Node} {ns out : List Node} (h : LeavesOut before? ns out)
    (hns : ∀ n ∈ ns.head?, n.isText = false) : out.head? = ns.head? := by
  cases h with
  | nil => rfl
  | kept => rfl
  | dropped => cases hns _ rfl

lemma LeavesOut.isChain {before? : Option Node} {ns out : List Node}
    (h : LeavesOut before? ns out) (hns : ns.IsChain Apart) : out.IsChain Apart := by
  induction h with
  | nil => exact hns
  | @kept before? n ns out hn h ih =>
    obtain ⟨hnext, hns⟩ := List.isChain_cons.1 hns
    refine List.isChain_cons.2 ⟨fun m hm => ?_, ih hns⟩
    cases htext : n.isText with
    | false => exact .inl htext
    | true =>
      have hhead := h.head fun m hm => (hnext m hm).resolve_left (by simp [htext])
      exact hnext m (hhead ▸ hm)
  | dropped hs h ih => exact ih (List.isChain_cons.1 hns).2

lemma exists_text_of_blank {n : Node} (h : n.isBlankText) :
    ∃ s, n = .text s ∧ ∀ c ∈ s.toList, Text.isBlank c := by
  cases n with
  | text s => exact ⟨s, rfl, isBlankText_text.1 h⟩
  | _ => cases h

/-- What stands behind a text is no text. -/
lemma not_isText_behind {s : String} {ns : List Node} (h : (Node.text s :: ns).IsChain Apart) :
    ∀ n ∈ ns.head?, n.isText = false := fun n hn =>
  ((List.isChain_cons.1 h).1 n hn).resolve_left (by simp [Node.isText])

/-- The first sibling that stays is not blank. -/
lemma LeavesOut.first {ns out : List Node} (h : LeavesOut none ns out) (hns : ns.IsChain Apart) :
    ∀ n ∈ out.head?, n.isBlankText = false := by
  intro n hn
  rw [Bool.eq_false_iff]
  intro hblank
  obtain ⟨s, rfl, hs⟩ := exists_text_of_blank hblank
  cases h with
  | nil => cases hn
  | kept hfirst h =>
    cases hn
    exact hfirst s rfl ⟨hs, by simp⟩
  | dropped hdropped h =>
    have hnext := not_isText_behind hns
    cases hnext _ (h.head hnext ▸ hn)

/-- The last sibling that stays is not blank. -/
lemma LeavesOut.last {before? : Option Node} {ns out : List Node} (h : LeavesOut before? ns out)
    (hns : ns.IsChain Apart) : ∀ n ∈ out.getLast?, n.isBlankText = false := by
  induction h with
  | nil => simp
  | @kept before? n ns out hn h ih =>
    cases out with
    | cons m out =>
      rw [List.getLast?_cons_cons]
      exact ih (List.isChain_cons.1 hns).2
    | nil =>
      rintro _ ⟨⟩
      rw [Bool.eq_false_iff]
      intro hblank
      obtain ⟨s, rfl, hs⟩ := exists_text_of_blank hblank
      -- a blank text that stays has a neighbour, which is no text and stays, too
      have hend : ns.head? = none := (h.head (not_isText_behind hns)).symm
      exact hn s rfl ⟨hs, by simp [hend]⟩
  | dropped hs h ih => exact ih (List.isChain_cons.1 hns).2

lemma collapseRuns_eq_nil {cs : List Char} : collapseRuns false cs = [] ↔ cs = [] := by
  cases cs with
  | nil => simp [collapseRuns]
  | cons c cs =>
    rw [collapseRuns]
    split <;> simp

lemma all_collapseRuns (inRun : Bool) (cs : List Char) :
    (collapseRuns inRun cs).all Text.isBlank = true ↔ cs.all Text.isBlank = true := by
  induction cs generalizing inRun with
  | nil => rfl
  | cons c cs ih =>
    rw [collapseRuns]
    have hspace : Text.isBlank ' ' = true := by decide
    cases hc : Text.isBlank c with
    | false => simp [hc]
    | true => cases inRun <;> simp [hc, ih, hspace]

lemma isCollapsed_collapseRuns (cs : List Char) :
    isCollapsed (collapseRuns false cs) ∧ isCollapsed (collapseRuns true cs) ∧
      (collapseRuns true cs).head?.all (!Text.isBlank ·) := by
  induction cs with
  | nil => exact ⟨rfl, rfl, rfl⟩
  | cons c cs ih =>
    obtain ⟨hout, hin, hhead⟩ := ih
    have hspace : Text.isBlank ' ' = true := by decide
    cases hc : Text.isBlank c with
    | false => simp [collapseRuns, isCollapsed, hc, hout]
    | true => simp [collapseRuns, isCollapsed, hc, hin, hhead, hspace]

lemma isText_collapse (n : Node) : n.collapse.isText = n.isText := by
  cases n <;> rfl

lemma isBlankText_collapse (n : Node) : n.collapse.isBlankText = n.isBlankText := by
  cases n with
  | text s =>
    rw [Bool.eq_iff_iff, Node.collapse, Node.isBlankText, String.toList_ofList, all_collapseRuns]
    rfl
  | _ => rfl

/-- Condensed siblings have their form, whatever they were before. -/
lemma Tidies.condensed {preserve : Bool} {ns out : List Node} (h : Tidies ns preserve out) :
    Condensed preserve out := by
  cases h with
  | preserved => exact ⟨isChain_mergeTexts ns, by simp, by simp, by simp⟩
  | @spaced out h =>
    have hns := isChain_mergeTexts ns
    refine ⟨?_, fun _ s hs => ?_, fun _ => ?_, fun _ => ?_⟩
    · rw [List.isChain_map]
      exact (h.isChain hns).imp fun m n hmn => by rwa [Apart, isText_collapse, isText_collapse]
    · obtain ⟨n, -, hn⟩ := List.mem_map.1 hs
      cases n with
      | text t =>
        cases hn
        rw [String.toList_ofList]
        exact (isCollapsed_collapseRuns t.toList).1
      | _ => cases hn
    · simpa [isBlankText_collapse] using h.first hns
    · simpa [isBlankText_collapse] using h.last hns

/-! ## Condensing again -/

lemma mergeTexts_of_apart {ns : List Node} (h : ns.IsChain Apart) : mergeTexts ns = ns := by
  induction ns with
  | nil => rfl
  | cons n ns ih =>
    have hns := ih (List.isChain_cons.1 h).2
    cases n with
    | text s =>
      rw [mergeTexts_text, hns]
      rw [hns]
      intro t ht
      cases not_isText_behind h _ ht
    | _ => rw [mergeTexts_cons (by simp), hns]

lemma dropLayout_of_collapsed {before? : Option Node} {ns : List Node}
    (hcollapsed : ∀ s, .text s ∈ ns → isCollapsed s.toList)
    (hfirst : before? = none → ∀ n ∈ ns.head?, n.isBlankText = false)
    (hlast : ∀ n ∈ ns.getLast?, n.isBlankText = false) : dropLayout before? ns = ns := by
  induction ns generalizing before? with
  | nil => rfl
  | cons n ns ih =>
    have hkeep : isLayout before? n ns.head? = false := by
      cases hblank : n.isBlankText with
      | false => exact isLayout_of_not_blank hblank _ _
      | true =>
        obtain ⟨s, rfl, -⟩ := exists_text_of_blank hblank
        refine isLayout_of_collapsed (hcollapsed s (.head _)) (fun hbefore => ?_) fun hafter => ?_
        · rw [hfirst hbefore _ rfl] at hblank
          cases hblank
        · obtain rfl := List.head?_eq_none_iff.1 hafter
          have hnot := hlast (.text s) rfl
          rw [hblank] at hnot
          cases hnot
    rw [dropLayout_keep hkeep, ih (fun s hs => hcollapsed s (.tail _ hs)) (by simp) fun m hm => ?_]
    exact hlast m (by simp [List.getLast?_cons, Option.mem_def.1 hm])

lemma map_collapse_of_collapsed {ns : List Node}
    (h : ∀ s, .text s ∈ ns → isCollapsed s.toList) : ns.map Node.collapse = ns := by
  have hsame : ∀ n ∈ ns, n.collapse = id n := by
    intro n hn
    cases n with
    | text s => rw [Node.collapse, collapseRuns_of_collapsed (h s hn), String.ofList_toList, id]
    | _ => rfl
  rw [List.map_congr_left hsame, List.map_id]

/-- Siblings in this form stay as they are. -/
lemma tidy_of_condensed {preserve : Bool} {ns : List Node} (h : Condensed preserve ns) :
    tidy preserve ns = ns := by
  rw [tidy, mergeTexts_of_apart h.apart]
  cases preserve with
  | true => rfl
  | false =>
    rw [if_neg (by simp), dropLayout_of_collapsed (h.collapsed rfl) (fun _ => h.first rfl)
      (h.last rfl), map_collapse_of_collapsed (h.collapsed rfl)]

lemma condenseList_eq_self_iff {preserve : Bool} {ns : List Node} :
    Node.condenseList preserve ns = ns ↔ ∀ tag as cs, .element tag as cs ∈ ns →
      tidy (preserve || tag == "pre") (Node.condenseList (preserve || tag == "pre") cs) = cs := by
  induction ns with
  | nil => simp [Node.condenseList]
  | cons n ns ih =>
    rw [Node.condenseList, List.cons.injEq, ih]
    cases n with
    | element tag as cs =>
      simp only [Node.condense, Node.element.injEq, true_and, List.mem_cons]
      refine ⟨?_, fun h => ⟨h tag as cs (.inl ⟨rfl, rfl, rfl⟩), fun t bs ds hmem =>
        h t bs ds (.inr hmem)⟩⟩
      rintro ⟨hfirst, hrest⟩ t bs ds (⟨rfl, rfl, rfl⟩ | hmem)
      · exact hfirst
      · exact hrest t bs ds hmem
    | _ => simp [Node.condense]

lemma Tidies.again {preserve : Bool} {ns out : List Node} (h : Tidies ns preserve out)
    (hns : Node.condenseList preserve ns = ns) :
    tidy preserve (Node.condenseList preserve out) = out := by
  have hout : Node.condenseList preserve out = out :=
    condenseList_eq_self_iff.2 fun tag as cs hmem =>
      condenseList_eq_self_iff.1 hns tag as cs (h.element_mem.1 hmem)
  rw [hout, tidy_of_condensed h.condensed]

lemma Condenses.again {preserve : Bool} {ns ms : List Node} (h : Condenses preserve ns ms) :
    Node.condenseList preserve ms = ms := by
  induction h with
  | nil => rfl
  | text h ih | interpolation h ih => exact congrArg (_ :: ·) ih
  | element hraw hbelow h ihraw ih => rw [condenseList_element, ih, hbelow.again ihraw]

/-- Condensing twice is condensing once. -/
theorem condense_condense (ns : List Node) : condense (condense ns) = condense ns :=
  (tidies_tidy false _).again (condenses_condenseList false ns).again

/-! ## Nothing else is lost -/

lemma inkAll_mergeTexts (preserve : Bool) (ns : List Node) :
    Node.inkAll preserve (mergeTexts ns) = Node.inkAll preserve ns := by
  induction ns with
  | nil => rfl
  | cons n ns ih =>
    cases n with
    | text a =>
      unfold mergeTexts
      split
      next b rest hrest => simp [Node.inkAll, Node.ink, ← ih, hrest]
      next => rw [Node.inkAll, Node.inkAll, ih]
    | _ => rw [mergeTexts_cons (by simp), Node.inkAll, Node.inkAll, ih]

lemma LeavesOut.inkAll {before? : Option Node} {ns out : List Node}
    (h : LeavesOut before? ns out) : Node.inkAll false out = Node.inkAll false ns := by
  induction h with
  | nil => rfl
  | kept hn h ih => rw [Node.inkAll, Node.inkAll, ih]
  | dropped hs h ih =>
    rw [Node.inkAll, ih]
    simpa [Node.ink] using hs.1

lemma filter_collapseRuns (inRun : Bool) (cs : List Char) :
    (collapseRuns inRun cs).filter (!Text.isBlank ·) = cs.filter (!Text.isBlank ·) := by
  induction cs generalizing inRun with
  | nil => rfl
  | cons c cs ih =>
    rw [collapseRuns]
    have hspace : Text.isBlank ' ' = true := by decide
    cases hc : Text.isBlank c with
    | false => simp [hc, ih]
    | true => cases inRun <;> simp [hc, ih, hspace]

lemma inkAll_map_collapse (ns : List Node) :
    Node.inkAll false (ns.map Node.collapse) = Node.inkAll false ns := by
  induction ns with
  | nil => rfl
  | cons n ns ih =>
    rw [List.map_cons, Node.inkAll, Node.inkAll, ih]
    cases n with
    | text s => simp [Node.collapse, Node.ink, filter_collapseRuns]
    | _ => rfl

lemma Tidies.inkAll {preserve : Bool} {ns out : List Node} (h : Tidies ns preserve out) :
    Node.inkAll preserve out = Node.inkAll preserve ns := by
  cases h with
  | preserved => exact inkAll_mergeTexts true ns
  | spaced h => rw [inkAll_map_collapse, h.inkAll, inkAll_mergeTexts]

lemma Condenses.inkAll {preserve : Bool} {ns ms : List Node} (h : Condenses preserve ns ms) :
    Node.inkAll preserve ms = Node.inkAll preserve ns := by
  induction h with
  | nil => rfl
  | text h ih | interpolation h ih => rw [Node.inkAll, Node.inkAll, ih]
  | element hraw hbelow h ihraw ih =>
    rw [Node.inkAll, Node.inkAll, ih, Node.ink, Node.ink, hbelow.inkAll, ihraw]

/-- Only blanks are lost, and none inside `pre`. -/
theorem inkAll_condense (ns : List Node) :
    Node.inkAll false (condense ns) = Node.inkAll false ns := by
  rw [condense, (tidies_tidy false _).inkAll, (condenses_condenseList false ns).inkAll]

end Unbundled.Template
