import Unbundled.Proofs.Template.Authorship
import Unbundled.Proofs.Template.LexicalScope

/-!
# Imports and constants of a render module

A render module imports a helper exactly when its function refers to it, and resolves a component
exactly when an element that it is generated for is one. The names a function refers to are those
in its chunks, so a text of the author is never taken for one. What is imported and resolved is what
the generator on a stack has noted down when it is done.
-/

namespace Unbundled.Template

open Script (Diagnostic)

/-! ## The text of a render module -/

/-- A helper under its name in the runtime, and the name that the module has for it. -/
def specifierChunks (h : Helper) : List Chunk :=
  [.fixed (h.name ++ " as "), .name (.helper h)]

/-- The line that imports `helpers`, one after the other. Without helpers there is no line. -/
def importChunks : List Helper → List Chunk
  | [] => []
  | h :: hs => .fixed "import \x7b " :: separated ", " ((h :: hs).map specifierChunks) ++
      [.fixed " \x7d from \"vue\"\n\n"]

/-- The constant that holds the component of `tag`. -/
def constantChunks (tag : String) : List Chunk :=
  .fixed "  const " :: .name (.component tag) :: .fixed " = " ::
    .name (.helper .resolveComponent) :: .fixed "(" :: .literal tag :: [.fixed ")\n"]

/-- What stands behind `return`. -/
def returnChunks (shape? : Option Shape) : List Chunk :=
  (shape?.map Shape.chunks).getD [.fixed "null"]

/-- The function that resolves `tags` and then returns the expression. -/
def functionChunks (tags : List String) (shape? : Option Shape) : List Chunk :=
  .fixed "export function render(_ctx, _cache) \x7b\n" :: tags.flatMap constantChunks ++
    .fixed "  return " :: returnChunks shape? ++ [.fixed "\n\x7d\n"]

lemma wording_import (helpers : List Helper) :
    wording (importChunks helpers) = importText helpers := by
  have hspecifier (h : Helper) : wording (specifierChunks h) = h.name ++ " as " ++ h.text := by
    simp [specifierChunks, Chunk.text, Name.text]
  cases helpers with
  | nil => rfl
  | cons h hs =>
    rw [importChunks, wording_append, wording_cons, wording_separated, importText,
      if_neg (by simp), List.map_map]
    simp only [Function.comp_def, hspecifier, commaSeparated, wording_cons, wording_nil, Chunk.text,
      String.append_empty]

lemma namesIn_import (helpers : List Helper) :
    namesIn (importChunks helpers) = helpers.map .helper := by
  cases helpers with
  | nil => rfl
  | cons h hs =>
    rw [importChunks, namesIn_append, namesIn_fixed, namesIn_separated, List.flatMap_map,
      List.map_eq_flatMap]
    simp [specifierChunks]

lemma importChunks_eq_nil {helpers : List Helper} : importChunks helpers = [] ↔ helpers = [] := by
  cases helpers <;> simp [importChunks]

lemma wording_constants (tags : List String) :
    wording (tags.flatMap constantChunks) = String.join (tags.map componentText) := by
  induction tags with
  | nil => rfl
  | cons tag tags ih =>
    rw [List.flatMap_cons, wording_append, ih, List.map_cons, String.join_cons]
    simp [constantChunks, componentText, callText, commaSeparated, Chunk.text, Name.text,
      String.append_assoc]

lemma wording_function (tags : List String) (shape? : Option Shape) :
    wording (functionChunks tags shape?) =
      "export function render(_ctx, _cache) \x7b\n" ++ String.join (tags.map componentText)
        ++ "  return " ++ (shape?.map Shape.text).getD "null" ++ "\n\x7d\n" := by
  have hreturned : wording (returnChunks shape?) = (shape?.map Shape.text).getD "null" := by
    cases shape? with
    | none => rfl
    | some s => exact wording_shape s
  rw [functionChunks, wording_append, wording_append, wording_cons, wording_cons, wording_cons,
    wording_constants, hreturned, wording_nil]
  simp [Chunk.text, String.append_assoc]

lemma mem_names_constants (n : Name) (tags : List String) :
    n ∈ namesIn (tags.flatMap constantChunks) ↔
      (∃ tag ∈ tags, n = .component tag) ∨ (tags ≠ [] ∧ n = .helper .resolveComponent) := by
  induction tags with
  | nil => simp
  | cons tag tags ih =>
    rw [List.flatMap_cons, namesIn_append, List.mem_append, ih]
    by_cases hn : n = .helper .resolveComponent <;> simp [constantChunks, hn]

lemma namesIn_function (tags : List String) (shape? : Option Shape) :
    namesIn (functionChunks tags shape?) =
      namesIn (tags.flatMap constantChunks) ++ namesIn (returnChunks shape?) := by
  simp [functionChunks]

lemma plain_function (tags : List String) {shape? : Option Shape}
    (h : ∀ s, shape? = some s → Plain s.chunks) : Plain (functionChunks tags shape?) := by
  have hconstants : Plain (tags.flatMap constantChunks) := by
    induction tags with
    | nil => exact plain_nil
    | cons tag tags ih => simp [ih, constantChunks, Chunk.words]
  have hreturned : Plain (returnChunks shape?) := by
    cases shape? with
    | none => simp [returnChunks, Chunk.words]
    | some s => exact h s rfl
  simp [functionChunks, hconstants, hreturned, Chunk.words]

/-! ## Elements that code is generated for -/

/-- Code is generated for siblings, and for what is below them unless a directive of the element
takes the place of its children. -/
inductive Emitted : List Node → Node → Prop
  | here {ns : List Node} {n : Node} (h : n ∈ ns) : Emitted ns n
  | inside {ns cs : List Node} {tag : String} {as : List Markup.Attribute} {n : Node}
      (h : .element tag as cs ∈ ns) (unfilled : Node.isFilled tag as = false)
      (deeper : Emitted cs n) : Emitted ns n

/-- Some element that code is generated for is a component of this tag. -/
def Uses (tag : String) (ns : List Node) : Prop :=
  isComponentTag tag = true ∧ ∃ as cs, Emitted ns (.element tag as cs)

lemma not_uses_nil (tag : String) : ¬ Uses tag [] := by
  rintro ⟨-, as, cs, h⟩
  cases h with
  | here h => cases h
  | inside h => cases h

lemma uses_cons {tag : String} {n : Node} {ns : List Node} :
    Uses tag (n :: ns) ↔ Uses tag [n] ∨ Uses tag ns := by
  constructor
  · rintro ⟨hcomponent, as, cs, h⟩
    cases h with
    | here h =>
      rcases List.mem_cons.1 h with rfl | h
      · exact .inl ⟨hcomponent, as, cs, .here (by simp)⟩
      · exact .inr ⟨hcomponent, as, cs, .here h⟩
    | inside h unfilled deeper =>
      rcases List.mem_cons.1 h with rfl | h
      · exact .inl ⟨hcomponent, as, cs, .inside (by simp) unfilled deeper⟩
      · exact .inr ⟨hcomponent, as, cs, .inside h unfilled deeper⟩
  · rintro (⟨hcomponent, as, cs, h⟩ | ⟨hcomponent, as, cs, h⟩) <;>
      refine ⟨hcomponent, as, cs, ?_⟩
    · cases h with
      | here h => exact .here (by simp_all)
      | inside h unfilled deeper => exact .inside (by simp_all) unfilled deeper
    · cases h with
      | here h => exact .here (by simp [h])
      | inside h unfilled deeper => exact .inside (by simp [h]) unfilled deeper

lemma uses_element {tag name : String} {as : List Markup.Attribute} {cs : List Node} :
    Uses tag [.element name as cs] ↔
      (tag = name ∧ isComponentTag name = true) ∨
        (Node.isFilled name as = false ∧ Uses tag cs) := by
  constructor
  · rintro ⟨hcomponent, bs, ds, h⟩
    cases h with
    | here h =>
      cases List.mem_singleton.1 h
      exact .inl ⟨rfl, hcomponent⟩
    | inside h unfilled deeper =>
      cases List.mem_singleton.1 h
      exact .inr ⟨unfilled, hcomponent, bs, ds, deeper⟩
  · rintro (⟨rfl, hcomponent⟩ | ⟨unfilled, hcomponent, bs, ds, h⟩)
    · exact ⟨hcomponent, as, cs, .here (by simp)⟩
    · exact ⟨hcomponent, bs, ds, .inside (by simp) unfilled h⟩

lemma not_uses_of_not_element {tag : String} {n : Node} (hn : n.isElement = false) :
    ¬ Uses tag [n] := by
  rintro ⟨-, as, cs, h⟩
  cases h with
  | here h =>
    cases List.mem_singleton.1 h
    cases hn
  | inside h =>
    cases List.mem_singleton.1 h
    cases hn

/-! ## Components of siblings -/

/-- The rendering of the branch succeeds with `r`. -/
def Branch.Gives (b : Branch) (r : Render) : Prop := b.result = .ok r

def Piece.branch? : Piece → Option Branch
  | text .. => none
  | element b => some b

/-- The elements among the pieces. -/
def branchesOf (ps : List Piece) : List Branch := ps.filterMap Piece.branch?

lemma branchesOf_texts {ps : List Piece} (h : ∀ p ∈ ps, p.isText) : branchesOf ps = [] := by
  apply List.filterMap_eq_nil_iff.2
  intro p hp
  cases p with
  | text => rfl
  | element b => cases h _ hp

lemma branchesOf_append (ps qs : List Piece) :
    branchesOf (ps ++ qs) = branchesOf ps ++ branchesOf qs :=
  List.filterMap_append

/-- A chain takes elements from the front. -/
lemma branchesOf_takeBranches (blanks ps : List Piece) (hblanks : ∀ p ∈ blanks, p.isText) :
    branchesOf ps = (takeBranches blanks ps).1 ++ branchesOf (takeBranches blanks ps).2 := by
  fun_induction takeBranches blanks ps with
  | case1 blanks =>
    rw [branchesOf_texts hblanks]
    rfl
  | case2 blanks part ps ih =>
    refine ih fun p hp => ?_
    rcases List.mem_append.1 hp with hp | hp
    · exact hblanks p hp
    · cases List.mem_singleton.1 hp
      rfl
  | case3 blanks part ps => simp [branchesOf_append, branchesOf_texts hblanks]
  | case4 blanks b ps => simp [branchesOf_append, branchesOf_texts hblanks]
  | case5 blanks b ps => rfl
  | case6 blanks b ps _ _ bs rest hrest ih =>
    rw [hrest] at ih
    have hps := ih (by simp)
    rw [List.cons_append, ← hps]
    rfl

lemma componentsAll_append (rs ss : List Render) :
    Render.componentsAll (rs ++ ss) = Render.componentsAll rs ++ Render.componentsAll ss := by
  induction rs with
  | nil => rfl
  | cons r rs ih => rw [List.cons_append, Render.componentsAll, ih, Render.componentsAll,
      List.append_assoc]

lemma conditions_components {scope : List String} {bs : List Branch} {no r : Render}
    (hr : bs.foldrM (Branch.over scope) no = .ok r) :
    ∃ rs, List.Forall₂ Branch.Gives bs rs ∧
      ∀ tag, tag ∈ r.components ↔ tag ∈ Render.componentsAll rs ∨ tag ∈ no.components := by
  induction bs generalizing r with
  | nil =>
    cases hr
    exact ⟨[], .nil, by simp [Render.componentsAll]⟩
  | cons b bs ih =>
    rw [List.foldrM_cons] at hr
    obtain ⟨rest, hrest, hr⟩ := bind_eq_ok.1 hr
    obtain ⟨test, yes, -, hyes, rfl⟩ := over_eq_ok.1 hr
    obtain ⟨rs, hrs, hmem⟩ := ih hrest
    refine ⟨yes :: rs, .cons hyes hrs, fun tag => ?_⟩
    rw [Render.components, List.mem_append, hmem, Render.componentsAll, List.mem_append]
    tauto

lemma conditionalOf_components {scope : List String} {bs : List Branch} {r : Render}
    (hr : conditionalOf scope bs = .ok r) :
    ∃ rs, List.Forall₂ Branch.Gives bs rs ∧
      ∀ tag, tag ∈ r.components ↔ tag ∈ Render.componentsAll rs := by
  obtain hr | ⟨init, last, no, rfl, hno, hr⟩ := conditionalOf_cases hr
  · obtain ⟨rs, hrs, hmem⟩ := conditions_components hr
    exact ⟨rs, hrs, fun tag => by simp [hmem, Render.components]⟩
  · obtain ⟨rs, hrs, hmem⟩ := conditions_components hr
    refine ⟨rs ++ [no], List.rel_append hrs (.cons hno .nil), fun tag => ?_⟩
    rw [hmem, componentsAll_append, List.mem_append]
    simp [Render.componentsAll]

/-- Siblings in order refer to the components that their elements refer to. -/
theorem assemble_components {scope : List String} {ps : List Piece} {rs : List Render}
    (hrs : assemble scope ps = .ok rs) :
    ∃ ss, List.Forall₂ Branch.Gives (branchesOf ps) ss ∧
      ∀ tag, tag ∈ Render.componentsAll rs ↔ tag ∈ Render.componentsAll ss := by
  fun_induction assemble scope ps generalizing rs with
  | case1 =>
    cases hrs
    exact ⟨[], .nil, fun tag => Iff.rfl⟩
  | case2 blank part ps run =>
    rename_i ih
    obtain ⟨parts, -, hrs⟩ := bind_eq_ok.1 hrs
    obtain ⟨below, hbelow, hrs⟩ := bind_eq_ok.1 hrs
    cases hrs
    obtain ⟨ss, hss, hmem⟩ := ih hbelow
    -- the run of texts at the front holds no element
    have hbranches : branchesOf (Piece.text blank part :: ps) =
        branchesOf (ps.dropWhile Piece.isText) := by
      have hfront : branchesOf (ps.takeWhile Piece.isText) = [] :=
        branchesOf_texts fun p hp => List.all_eq_true.1 List.all_takeWhile p hp
      have hps := branchesOf_append (ps.takeWhile Piece.isText) (ps.dropWhile Piece.isText)
      rw [List.takeWhile_append_dropWhile, hfront, List.nil_append] at hps
      exact hps
    rw [hbranches]
    exact ⟨ss, hss, fun tag => by simp [Render.componentsAll, Render.components, hmem]⟩
  | case3 b ps hif hlt ih =>
    obtain ⟨node, hnode, hrs⟩ := bind_eq_ok.1 hrs
    obtain ⟨below, hbelow, hrs⟩ := bind_eq_ok.1 hrs
    cases hrs
    obtain ⟨ss, hss, hmem⟩ := conditionalOf_components hnode
    obtain ⟨ts, hts, hbelowMem⟩ := ih hbelow
    have hbranches : branchesOf (.element b :: ps) =
        (b :: (takeBranches [] ps).1) ++ branchesOf (takeBranches [] ps).2 := by
      rw [List.cons_append, ← branchesOf_takeBranches [] ps (by simp)]
      rfl
    rw [hbranches]
    refine ⟨ss ++ ts, List.rel_append hss hts, fun tag => ?_⟩
    rw [componentsAll_append, Render.componentsAll, List.mem_append, List.mem_append, hmem,
      hbelowMem]
  | case4 => cases hrs
  | case5 b ps hif hcontinues ih =>
    obtain ⟨node, hnode, hrs⟩ := bind_eq_ok.1 hrs
    obtain ⟨below, hbelow, hrs⟩ := bind_eq_ok.1 hrs
    cases hrs
    obtain ⟨ss, hss, hmem⟩ := ih hbelow
    refine ⟨node :: ss, .cons hnode hss, fun tag => ?_⟩
    rw [Render.componentsAll, Render.componentsAll, List.mem_append, List.mem_append, hmem]

/-! ## Components of an element -/

lemma withShow_components {scope : List String} {h : Host} {node r : Render}
    (hr : withShow scope h node = .ok r) : r.components = node.components := by
  obtain rfl | ⟨source, condition, -, rfl⟩ := withShow_cases hr <;> rfl

lemma elementRender_components {scope : List String} {h : Host}
    {below : Except Diagnostic (List Render)} {r : Render}
    (hcomponent : h.isComponent = isComponentTag h.tag)
    (hr : elementRender scope h below = .ok r) :
    ∃ children, (Node.isFilled h.tag h.attributes = true → children = []) ∧
      (Node.isFilled h.tag h.attributes = false → below = .ok children) ∧
      ∀ tag, tag ∈ r.components ↔ (tag = h.tag ∧ isComponentTag h.tag = true) ∨
        tag ∈ Render.componentsAll children := by
  obtain ⟨htag, rs, hrs, rfl⟩ | ⟨htag, props, rs, -, hrs, rfl⟩ |
    ⟨htemplate, hslot, props, children, -, hchildren, hr⟩ := elementRender_cases hr
  · have hplain : isComponentTag "template" = false := by decide +kernel
    rw [htag]
    exact ⟨rs, fun h => by simp [Node.isFilled] at h, fun _ => hrs, fun tag => by
      simp [Render.components, Tag.components, hplain]⟩
  · have hplain : isComponentTag "slot" = false := by decide +kernel
    rw [htag]
    exact ⟨rs, fun h => by simp [Node.isFilled] at h, fun _ => hrs, fun tag => by
      simp [Render.components, hplain]⟩
  · have hfilled : Node.isFilled h.tag h.attributes = h.isFilled := by
      rw [Host.isFilled, isSome_attribute?, isSome_attribute?]
      simp only [Node.isFilled]
    have hown (tag : String) :
        tag ∈ h.tagged.components ↔ tag = h.tag ∧ isComponentTag h.tag = true := by
      rw [Host.tagged, hcomponent]
      cases isComponentTag h.tag <;> simp [Tag.components]
    rw [hfilled]
    refine ⟨children, fun hpure => ?_, fun hpure => ?_, fun tag => ?_⟩
    · rwa [if_pos hpure] at hchildren
    · rwa [if_neg (by simp [hpure])] at hchildren
    · rw [withShow_components hr, Render.components, List.mem_append, hown]

lemma loopedRender_components {scope : List String} {h : Host}
    {loop? : Except Diagnostic (Option Loop)} {below : Except Diagnostic (List Render)}
    {r : Render} (hr : loopedRender scope h loop? below = .ok r) :
    ∃ inner item, elementRender inner h below = .ok item ∧ r.components = item.components := by
  obtain ⟨-, hr⟩ | ⟨l, item, -, hitem, rfl⟩ := loopedRender_cases hr
  · exact ⟨scope, r, hr, rfl⟩
  · exact ⟨scope ++ l.names, item, hitem, rfl⟩

mutual

/-- An element refers to the components that code is generated for, from itself downwards. -/
theorem mem_components_toPiece (scope : List String) (tag : String) : (n : Node) → {b : Branch} →
    n.toPiece scope = .element b → {r : Render} → b.Gives r →
      (tag ∈ r.components ↔ Uses tag [n])
  | .text s, b, hb, r, hr => by cases hb
  | .interpolation source, b, hb, r, hr => by cases hb
  | .element name as cs, b, hb, r, hr => by
    cases hb
    obtain ⟨inner, item, hitem, hcomponents⟩ := loopedRender_components hr
    obtain ⟨children, hfilled, hunfilled, hmem⟩ := elementRender_components rfl hitem
    rw [hcomponents, hmem, uses_element]
    refine or_congr_right ?_
    cases hpure : Node.isFilled name as with
    | true => simp [hfilled hpure, Render.componentsAll]
    | false =>
      obtain ⟨ss, hss, hbelow⟩ := assemble_components (hunfilled hpure)
      rw [hbelow, mem_components_toPieces _ tag cs hss]
      simp

theorem mem_components_toPieces (scope : List String) (tag : String) : (ns : List Node) →
    {rs : List Render} → List.Forall₂ Branch.Gives (branchesOf (Node.toPieces scope ns)) rs →
      (tag ∈ Render.componentsAll rs ↔ Uses tag ns)
  | [], rs, hrs => by
    cases hrs
    simp [Render.componentsAll, not_uses_nil]
  | .text s :: ns, rs, hrs => by
    rw [uses_cons, mem_components_toPieces scope tag ns hrs]
    simp [not_uses_of_not_element (n := .text s) rfl]
  | .interpolation source :: ns, rs, hrs => by
    rw [uses_cons, mem_components_toPieces scope tag ns hrs]
    simp [not_uses_of_not_element (n := .interpolation source) rfl]
  | .element name as cs :: ns, rs, hrs => by
    obtain ⟨r, ss, hr, hss, rfl⟩ := List.forall₂_cons_left_iff.1 hrs
    rw [uses_cons, Render.componentsAll, List.mem_append,
      mem_components_toPiece scope tag (.element name as cs) rfl hr,
      mem_components_toPieces scope tag ns hss]

end

/-! ## The whole module -/

/-- What a render module declares is what its function uses: each helper once and in the order of
their declaration, each component once. The line of imports has these helpers and no others, and
there is no line without one. The names used are those in the chunks: none is hidden in a fixed
word, and the author's texts are the author's. -/
structure DeclaresUsed (roots : List Node) (shape? : Option Shape) (helpers : List Helper)
    (tags : List String) : Prop where
  silent {t : String} (h : .fixed t ∈ functionChunks tags shape?) (n : Name) :
    ¬ n.text.toList <:+: t.toList
  authored {t : String} (h : .author t ∈ functionChunks tags shape?) : Authored t
  imported : namesIn (importChunks helpers) = helpers.map .helper
  line_iff : importChunks helpers = [] ↔ helpers = []
  ordered : helpers.Pairwise fun a b => a.ctorIdx < b.ctorIdx
  distinct : (helpers.map Helper.name).Nodup
  helper_iff (h : Helper) : h ∈ helpers ↔ .helper h ∈ namesIn (functionChunks tags shape?)
  nodup : tags.Nodup
  component_iff (tag : String) : tag ∈ tags ↔ .component tag ∈ namesIn (returnChunks shape?)
  uses_iff (tag : String) : tag ∈ tags ↔ Uses tag roots

lemma rootHelpers_sublist (root? : Option Render) : (rootHelpers root?).Sublist Helper.all := by
  cases root? with
  | none => exact List.nil_sublist _
  | some r => exact List.filter_sublist

lemma rootHelpers_ordered (root? : Option Render) :
    (rootHelpers root?).Pairwise fun a b => a.ctorIdx < b.ctorIdx := by
  have hall : Helper.all.Pairwise fun a b => a.ctorIdx < b.ctorIdx := by decide +kernel
  exact hall.sublist (rootHelpers_sublist root?)

lemma rootHelpers_distinct (root? : Option Render) :
    ((rootHelpers root?).map Helper.name).Nodup := by
  have hall : (Helper.all.map Helper.name).Nodup := by decide +kernel
  exact hall.sublist ((rootHelpers_sublist root?).map _)

lemma nodup_eraseDups {α : Type} [BEq α] [LawfulBEq α] (as : List α) : as.eraseDups.Nodup := by
  match as with
  | [] => exact .nil
  | a :: as =>
    have : (as.filter (!· == a)).length ≤ as.length := List.length_filter_le _ _
    rw [List.eraseDups_cons, List.nodup_cons, List.mem_eraseDups]
    exact ⟨by simp, nodup_eraseDups _⟩
termination_by as.length

lemma mem_names_root (root? : Option Render) (n : Name) :
    n ∈ namesIn (returnChunks (root?.map Render.shape)) ↔
      ∃ r, root? = some r ∧ n.In r.helpers r.components := by
  cases root? with
  | none => simp [returnChunks]
  | some r => simpa [returnChunks] using mem_names_shape n r

lemma mem_rootComponents (root? : Option Render) (tag : String) :
    tag ∈ rootComponents root? ↔ ∃ r, root? = some r ∧ tag ∈ r.components := by
  cases root? <;> simp [rootComponents]

lemma mem_rootHelpers (root? : Option Render) (h : Helper) :
    h ∈ rootHelpers root? ↔
      (rootComponents root? ≠ [] ∧ h = .resolveComponent) ∨
        ∃ r, root? = some r ∧ h ∈ r.helpers := by
  cases root? with
  | none => simp [rootHelpers, rootComponents]
  | some r =>
    have hempty : r.components.eraseDups = [] ↔ r.components = [] := by
      simp [List.eq_nil_iff_forall_not_mem]
    simp only [rootHelpers, rootComponents, List.mem_filter, Helper.mem_all, true_and,
      List.contains_iff_mem, List.mem_append, ne_eq, hempty]
    by_cases hr : r.components = [] <;> simp [hr]

lemma components_rootOf {rs : List Render} (tag : String) :
    (∃ r, rootOf rs = some r ∧ tag ∈ r.components) ↔ tag ∈ Render.componentsAll rs := by
  unfold rootOf
  split <;> simp [Render.components, Render.componentsAll, Tag.components]

lemma proper_rootOf {rs : List Render} (hrs : ∀ r ∈ rs, r.Proper) {r : Render}
    (hr : rootOf rs = some r) : r.Proper := by
  unfold rootOf at hr
  split at hr
  · cases hr
  · cases hr
    exact Render.proper_vnode (by simp) hrs
  · cases hr
    exact hrs _ (by simp)
  · cases hr
    exact Render.proper_vnode (by simp) hrs

/-- A render module is an import line and a function, and declares what the function uses. The
generator on a stack comes to the same module, and what it has noted down then is what the module
imports and resolves. -/
theorem generate_declares {roots : List Node} {code : String} (hcode : generate roots = .ok code) :
    ∃ (shape? : Option Shape) (helpers : List Helper) (tags : List String) (left : Generator),
      translation roots = .ok shape? ∧
      code = wording (importChunks helpers) ++ wording (functionChunks tags shape?) ∧
      DeclaresUsed roots shape? helpers tags ∧
      (Gen.module roots).run.run {} = (.ok code, left) ∧
      left.demands.imports = helpers ∧ left.demands.components = tags := by
  obtain ⟨rs, hrs, rfl⟩ := generate_eq_ok.1 hcode
  obtain ⟨log, hrun, -⟩ := Gen.run_module hrs {} []
  have hplain : Plain (functionChunks (rootComponents (rootOf rs))
      ((rootOf rs).map Render.shape)) := by
    refine plain_function _ fun s hs => ?_
    obtain ⟨r, hr, rfl⟩ := Option.map_eq_some_iff.1 hs
    exact proper_rootOf (proper_ofNodes hrs) hr
  refine ⟨_, rootHelpers (rootOf rs), rootComponents (rootOf rs), _, translation_eq_ok hrs, ?_, ?_,
    hrun, imports_rootDemands _, components_rootDemands _⟩
  · rw [wording_import, wording_function, text_root, moduleText, moduleWith]
    simp [String.append_assoc]
  refine ⟨fun ht n => not_spelt n _ (hplain _ ht), fun ht => hplain _ ht, namesIn_import _,
    importChunks_eq_nil, rootHelpers_ordered _, rootHelpers_distinct _, fun h => ?_, ?_, fun tag => ?_, fun tag => ?_⟩
  · rw [namesIn_function, List.mem_append, mem_names_constants, mem_names_root, mem_rootHelpers]
    simp [Name.In]
  · cases hroot : rootOf rs with
    | none => exact List.nodup_nil
    | some r => exact nodup_eraseDups _
  · rw [mem_names_root, mem_rootComponents]
    rfl
  · obtain ⟨ss, hss, hmem⟩ := assemble_components hrs
    rw [mem_rootComponents, components_rootOf, hmem, mem_components_toPieces [] tag roots hss]

theorem generate_declares_listOrNote :
    ∃ code, generate listOrNote = .ok code ∧
      ∃ (shape? : Option Shape) (helpers : List Helper) (tags : List String) (left : Generator),
        translation listOrNote = .ok shape? ∧
        code = wording (importChunks helpers) ++ wording (functionChunks tags shape?) ∧
        DeclaresUsed listOrNote shape? helpers tags ∧
        (Gen.module listOrNote).run.run {} = (.ok code, left) ∧
        left.demands.imports = helpers ∧ left.demands.components = tags := by
  have hok : (generate listOrNote).isOk = true := by decide +kernel
  cases hcode : generate listOrNote with
  | error e => rw [hcode] at hok; cases hok
  | ok code => exact ⟨code, rfl, generate_declares hcode⟩

example : (fun g : Generator => (g.demands.imports, g.demands.components))
    ((Gen.module listOrNote).run.run {}).2 =
      ([.resolveComponent, .createVNode, .createTextVNode, .toDisplayString, .fragment,
        .renderList], ["my-note"]) := by
  decide +kernel

end Unbundled.Template
