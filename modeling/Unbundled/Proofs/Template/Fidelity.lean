import Unbundled.Proofs.Template.Attributes
import Unbundled.Template.Compile

/-!
# The returned expression shows the template

Each node of a template stands for a piece among its siblings. Putting the pieces in order keeps
what they show: texts side by side become one run, the branches of a chain become one ternary, and
nothing is lost, repeated or moved. The expression behind `return` is written down from a shape,
and the shape shows exactly what the nodes show.
-/

namespace Unbundled.Template

open Script (Diagnostic)

/-- What rendered siblings show. -/
def Render.shownBy (ns : List Render) : List Content := Shape.contentsAll (Render.shapes ns)

@[simp] lemma Render.shownBy_nil : Render.shownBy [] = [] := rfl

@[simp] lemma Render.shownBy_cons (n : Render) (ns : List Render) :
    Render.shownBy (n :: ns) = n.shape.contents ++ Render.shownBy ns := rfl

lemma contentsOption_childrenShape? (tag : Tag) (ns : List Render) :
    Shape.contentsOption (Render.childrenShape? tag ns) = Render.shownBy ns := by
  cases ns with
  | nil => cases tag <;> rfl
  | cons n ns =>
    unfold Render.childrenShape?
    split
    · simp [Shape.contentsOption, Shape.contents, Render.shape]
    · rfl
    · rfl

lemma isList_childrenShape? (tag : Tag) (ns : List Render) :
    Shape.isList (Render.childrenShape? tag ns) = false := by
  cases ns with
  | nil => cases tag <;> rfl
  | cons n ns =>
    unfold Render.childrenShape?
    split <;> rfl

lemma contentsOption_fallbackShape? (ns : List Render) :
    Shape.contentsOption (Render.fallbackShape? ns) = Render.shownBy ns := by
  cases ns <;> rfl

lemma contents_vnode (tag : Tag) (props : List Entry) (ns : List Render) :
    (Render.vnode tag props ns).shape.contents =
      [.element tag.kind (fixedOf props) (Render.shownBy ns)] := by
  rw [Render.shape, Shape.contents, isList_childrenShape?, contentsOption_childrenShape?]
  rfl

lemma contents_slot (name : String) (props : List Entry) (ns : List Render) :
    (Render.slot name props ns).shape.contents =
      [.element (.slot name) (fixedOf props) (Render.shownBy ns)] := by
  rw [Render.shape, Shape.contents, contentsOption_fallbackShape?]

lemma contents_loop (source params : String) (item : Render) :
    (Render.loop source params item).shape.contents = item.shape.contents := rfl

/-! ## Pieces that stand for nodes -/

/-- Where the rendering of `b` succeeds, it shows `c`. -/
def BranchAgrees (c : Content) (b : Branch) : Prop :=
  ∀ r, b.result = .ok r → Content.AgreesAll [c] r.shape.contents

/-- The piece has been made from the node. -/
inductive Stands : Node → Piece → Prop
  | text (s : String) : Stands (.text s) (.text (isBlank s) (.ok (.literal s)))
  | interpolation {source : String} {part : Except Diagnostic TextPart}
      (h : ∀ p, part = .ok p → ∃ text, p = .display text ∧ IsScoped source text) :
      Stands (.interpolation source) (.text false part)
  | element {tag : String} {as : List Markup.Attribute} {cs : List Node} {b : Branch}
      (attributes : b.host.attributes = as)
      (agrees : BranchAgrees (Node.element tag as cs).content b) :
      Stands (.element tag as cs) (.element b)

lemma isSome_attribute? (h : Host) (name : String) :
    (h.attribute? name).isSome = hasAttribute name h.attributes :=
  List.isSome_find?

lemma has_eq (b : Branch) (name : String) : b.has name = hasAttribute name b.host.attributes :=
  isSome_attribute? b.host name

lemma continues_eq (b : Branch) (tag : String) (cs : List Node) :
    b.continues = (Node.element tag b.host.attributes cs).continuesChain := by
  rw [Branch.continues, has_eq, has_eq, Node.continuesChain]

namespace Node

/-- Where no branch follows, it makes no difference whether a chain is open. -/
lemma contents_true_eq {ns : List Node} (h : nextContinues ns = false) :
    contents true ns = contents false ns := by
  cases ns with
  | nil => rfl
  | cons n ns =>
    rw [nextContinues] at h
    have hopens : n.opensChain true = n.opensChain false := by
      cases n with
      | element tag as cs =>
        have hc : (element tag as cs).continuesChain = false := by simpa [isBlankText] using h
        simp [opensChain, hc]
      | _ => rfl
    cases hblank : n.isBlankText with
    | true =>
      have hnext : nextContinues ns = false := by simpa [hblank] using h
      simp [contents, hnext, hopens]
    | false => simp [contents, hblank, hopens]

lemma nextContinues_append {blanks : List Node} (h : ∀ n ∈ blanks, n.isBlankText)
    (ns : List Node) : nextContinues (blanks ++ ns) = nextContinues ns := by
  induction blanks with
  | nil => rfl
  | cons n blanks ih =>
    rw [List.cons_append, nextContinues, if_pos (h n (by simp))]
    exact ih fun m hm => h m (by simp [hm])

/-- Blank texts between two branches of a chain show nothing. -/
lemma contents_blanks {blanks : List Node} (h : ∀ n ∈ blanks, n.isBlankText) {ns : List Node}
    (hnext : nextContinues ns) : contents true (blanks ++ ns) = contents true ns := by
  induction blanks with
  | nil => rfl
  | cons n blanks ih =>
    have hrest : ∀ m ∈ blanks, m.isBlankText := fun m hm => h m (by simp [hm])
    have hdrop : nextContinues (blanks ++ ns) = true := by rw [nextContinues_append hrest, hnext]
    rw [List.cons_append, contents, hdrop, h n (by simp)]
    exact ih hrest

/-- A chain ends at a node that is neither blank nor a branch. -/
lemma contents_stop {blanks : List Node} (h : ∀ n ∈ blanks, n.isBlankText) {n : Node}
    (hblank : n.isBlankText = false) (hchain : n.continuesChain = false) (ns : List Node) :
    contents true (blanks ++ n :: ns) = contents false (blanks ++ n :: ns) := by
  apply contents_true_eq
  rw [nextContinues_append h, nextContinues, hblank, hchain]
  rfl

/-- A branch shows itself, and the blank texts before it are gone. -/
lemma contents_branch {blanks : List Node} (h : ∀ n ∈ blanks, n.isBlankText) {tag : String}
    {as : List Markup.Attribute} {cs : List Node}
    (hchain : (element tag as cs).continuesChain = true) (ns : List Node) :
    contents true (blanks ++ element tag as cs :: ns) =
      (element tag as cs).content :: contents (!hasAttribute "v-else" as) ns := by
  have hnext : nextContinues (element tag as cs :: ns) = true := by
    rw [nextContinues, if_neg (by simp [isBlankText]), hchain]
  have hopens : opensChain true (element tag as cs) = !hasAttribute "v-else" as := by
    rw [opensChain, hchain]
    rfl
  rw [contents_blanks h hnext, contents, hopens]
  simp [isBlankText]

lemma contents_element (tag : String) (as : List Markup.Attribute) (cs ns : List Node) :
    contents false (element tag as cs :: ns) =
      (element tag as cs).content :: contents (hasAttribute "v-if" as) ns := by
  simp [contents, opensChain]

lemma contents_texts {ts : List Node} (h : ∀ n ∈ ts, n.isElement = false) (ns : List Node) :
    contents false (ts ++ ns) = ts.map content ++ contents false ns := by
  induction ts with
  | nil => rfl
  | cons n ts ih =>
    have hopens : n.opensChain false = false := by
      cases n with
      | element tag as cs => simp [isElement] at h
      | _ => rfl
    rw [List.cons_append, contents, hopens, ih fun m hm => h m (by simp [hm])]
    rfl

end Node

/-! ## Siblings in order -/

lemma Stands.isElement_eq {n : Node} {p : Piece} (h : Stands n p) : n.isElement = !p.isText := by
  cases h <;> rfl

lemma Stands.isBlankText_eq {n : Node} {blank : Bool} {part : Except Diagnostic TextPart}
    (h : Stands n (.text blank part)) : n.isBlankText = blank := by
  generalize hp : Piece.text blank part = p at h
  cases h with
  | text s => exact (Piece.text.inj hp).1.symm
  | interpolation h => exact (Piece.text.inj hp).1.symm
  | element => cases hp

lemma Stands.continuesChain_of_text {n : Node} {blank : Bool} {part : Except Diagnostic TextPart}
    (h : Stands n (.text blank part)) : n.continuesChain = false := by
  cases n with
  | element tag as cs => cases h
  | _ => rfl

/-- A chain takes its branches and the blank texts between them, nothing else. -/
lemma takeBranches_agrees {blanks ps rest : List Piece} {bs : List Branch}
    {blankNodes ns : List Node} (hblanks : List.Forall₂ Stands blankNodes blanks)
    (hblank : ∀ n ∈ blankNodes, n.isBlankText) (hns : List.Forall₂ Stands ns ps)
    (htake : takeBranches blanks ps = (bs, rest)) :
    ∃ cs after, List.Forall₂ BranchAgrees cs bs ∧ List.Forall₂ Stands after rest ∧
      Node.contents true (blankNodes ++ ns) = cs ++ Node.contents false after := by
  -- Blanks behind the last branch are given back, so their nodes are carried along until it is
  -- known whether another branch comes.
  induction hns generalizing blanks blankNodes bs rest with
  | nil =>
    cases htake
    refine ⟨[], blankNodes, .nil, hblanks, ?_⟩
    have hnext := Node.nextContinues_append hblank []
    rw [List.append_nil] at hnext ⊢
    exact Node.contents_true_eq hnext
  | @cons n p ns ps hn hns ih =>
    match p with
    | .text true part =>
      rw [takeBranches] at htake
      have hall : ∀ m ∈ blankNodes ++ [n], m.isBlankText := by
        simpa [or_imp, forall_and] using ⟨hblank, hn.isBlankText_eq⟩
      simpa using ih (List.rel_append hblanks (.cons hn .nil)) hall htake
    | .text false part =>
      cases htake
      exact ⟨[], blankNodes ++ n :: ns, .nil, List.rel_append hblanks (.cons hn hns),
        Node.contents_stop hblank hn.isBlankText_eq hn.continuesChain_of_text ns⟩
    | .element b =>
      cases hn with
      | @element tag as cs _ hattributes hagrees =>
        have hchain : b.continues = (Node.element tag as cs).continuesChain := by
          rw [continues_eq b tag cs, hattributes]
        have helse : b.has "v-else" = hasAttribute "v-else" as := by rw [has_eq, hattributes]
        rw [takeBranches] at htake
        cases hc : b.continues with
        | false =>
          rw [hc] at htake hchain
          cases htake
          exact ⟨[], _, .nil, List.rel_append hblanks (.cons (.element hattributes hagrees) hns),
            Node.contents_stop hblank rfl hchain.symm ns⟩
        | true =>
          rw [hc] at hchain
          rw [hc, if_neg (by simp)] at htake
          rw [Node.contents_branch hblank hchain.symm, ← helse]
          cases hlast : b.has "v-else" with
          | true =>
            rw [hlast] at htake
            cases htake
            exact ⟨[_], ns, .cons hagrees .nil, hns, rfl⟩
          | false =>
            rw [hlast, if_neg (by simp)] at htake
            obtain ⟨hbs, hrest⟩ := Prod.mk.inj htake
            obtain ⟨cs, after, hcs, hafter, hcontents⟩ := ih .nil (by simp) rfl
            subst hbs hrest
            exact ⟨_ :: cs, after, .cons hagrees hcs, hafter, by simpa using hcontents⟩

/-- What a chain of conditions shows when its last `no` shows `ds`. -/
lemma conditions_agree {scope : List String} {cs ds : List Content} {bs : List Branch}
    {no r : Render} (hbs : List.Forall₂ BranchAgrees cs bs)
    (hno : Content.AgreesAll ds no.shape.contents)
    (hr : bs.foldrM (Branch.over scope) no = .ok r) :
    Content.AgreesAll (cs ++ ds) r.shape.contents := by
  induction hbs generalizing r with
  | nil =>
    cases hr
    exact hno
  | cons hb hbs ih =>
    rw [List.foldrM_cons] at hr
    obtain ⟨rest, hrest, hr⟩ := bind_eq_ok.1 hr
    obtain ⟨test, yes, -, hyes, rfl⟩ := over_eq_ok.1 hr
    exact (hb yes hyes).append (ih hrest)

lemma conditionalOf_agrees {scope : List String} {cs : List Content} {bs : List Branch}
    {r : Render} (hbs : List.Forall₂ BranchAgrees cs bs) (hr : conditionalOf scope bs = .ok r) :
    Content.AgreesAll cs r.shape.contents := by
  obtain hr | ⟨init, last, no, rfl, hno, hr⟩ := conditionalOf_cases hr
  · have hplaceholder : Content.AgreesAll [] Render.placeholder.shape.contents := .nil
    simpa using conditions_agree hbs hplaceholder hr
  · have hinit := List.forall₂_take_append _ _ _ hbs
    obtain ⟨c, ds, hlast, hnil, heq⟩ :=
      List.forall₂_cons_right_iff.1 (List.forall₂_drop_append _ _ _ hbs)
    cases hnil
    have hagrees := conditions_agree hinit (hlast no hno) hr
    rwa [← heq, List.take_append_drop] at hagrees

lemma filterMap_part?_text (blank : Bool) (part : Except Diagnostic TextPart) (ps : List Piece) :
    (Piece.text blank part :: ps).filterMap Piece.part? = part :: ps.filterMap Piece.part? := rfl

lemma run_agrees {ns : List Node} {ps : List Piece} {parts : List TextPart}
    (hns : List.Forall₂ Stands ns ps) (htext : ∀ p ∈ ps, p.isText)
    (hparts : (ps.filterMap Piece.part?).mapM id = .ok parts) :
    Content.AgreesAll (ns.map Node.content) (parts.map TextPart.content) := by
  induction hns generalizing parts with
  | nil =>
    cases hparts
    exact .nil
  | @cons n p ns ps hn hns ih =>
    have hrest : ∀ q ∈ ps, q.isText := fun q hq => htext q (by simp [hq])
    cases p with
    | element b => simp [Piece.isText] at htext
    | text blank part =>
      rw [filterMap_part?_text, List.mapM_cons] at hparts
      obtain ⟨q, hq, hparts⟩ := bind_eq_ok.1 hparts
      obtain ⟨qs, hqs, hparts⟩ := bind_eq_ok.1 hparts
      cases hparts
      refine .cons ?_ (ih hrest hqs)
      cases hn with
      | text s =>
        cases hq
        exact .text s
      | interpolation h =>
        obtain ⟨text, rfl, hscoped⟩ := h q hq
        exact .expression hscoped

lemma stands_split {ns : List Node} {ps qs : List Piece}
    (h : List.Forall₂ Stands ns (ps ++ qs)) :
    ∃ ms ls, ns = ms ++ ls ∧ List.Forall₂ Stands ms ps ∧ List.Forall₂ Stands ls qs :=
  ⟨_, _, (List.take_append_drop ps.length ns).symm, List.forall₂_take_append _ _ _ h,
    List.forall₂_drop_append _ _ _ h⟩

lemma not_element_of_text {ns : List Node} {ps : List Piece} (h : List.Forall₂ Stands ns ps)
    (htext : ∀ p ∈ ps, p.isText) : ∀ n ∈ ns, n.isElement = false := by
  induction h with
  | nil => simp
  | cons hn _ ih =>
    have hfirst := hn.isElement_eq
    rw [htext _ (by simp)] at hfirst
    intro n hmem
    rcases List.mem_cons.1 hmem with rfl | hmem
    · exact hfirst
    · exact ih (fun p hp => htext p (by simp [hp])) n hmem

/-- The siblings in order show what their nodes show. -/
theorem assemble_agrees {scope : List String} {ns : List Node} {ps : List Piece}
    {rs : List Render} (hns : List.Forall₂ Stands ns ps) (hrs : assemble scope ps = .ok rs) :
    Content.AgreesAll (Node.contents false ns) (Render.shownBy rs) := by
  fun_induction assemble scope ps generalizing ns rs with
  | case1 =>
    cases hns
    cases hrs
    exact .nil
  | case2 blank part ps run =>
    rename_i ih
    obtain ⟨parts, hparts, hrs⟩ := bind_eq_ok.1 hrs
    obtain ⟨below, hbelow, hrs⟩ := bind_eq_ok.1 hrs
    cases hrs
    have hsplit : Piece.text blank part :: ps =
        (Piece.text blank part :: ps.takeWhile Piece.isText) ++ ps.dropWhile Piece.isText := by
      rw [List.cons_append, List.takeWhile_append_dropWhile]
    rw [hsplit] at hns
    obtain ⟨ms, ls, rfl, hms, hls⟩ := stands_split hns
    have htext : ∀ p ∈ Piece.text blank part :: ps.takeWhile Piece.isText, p.isText := by
      intro p hp
      rcases List.mem_cons.1 hp with rfl | hp
      · rfl
      · exact List.all_eq_true.1 List.all_takeWhile p hp
    rw [Node.contents_texts (not_element_of_text hms htext)]
    exact (run_agrees hms htext hparts).append (ih hls hbelow)
  | case3 b ps hif hlt ih =>
    obtain ⟨node, hnode, hrs⟩ := bind_eq_ok.1 hrs
    obtain ⟨below, hbelow, hrs⟩ := bind_eq_ok.1 hrs
    cases hrs
    cases hns with
    | cons hn hns =>
      cases hn with
      | element hattributes hagrees =>
        rw [has_eq, hattributes] at hif
        obtain ⟨cs, after, hcs, hafter, hcontents⟩ := takeBranches_agrees .nil (by simp) hns rfl
        rw [List.nil_append] at hcontents
        rw [Node.contents_element, hif, hcontents]
        exact (conditionalOf_agrees (.cons hagrees hcs) hnode).append (ih hafter hbelow)
  | case4 => cases hrs
  | case5 b ps hif hcontinues ih =>
    obtain ⟨node, hnode, hrs⟩ := bind_eq_ok.1 hrs
    obtain ⟨below, hbelow, hrs⟩ := bind_eq_ok.1 hrs
    cases hrs
    cases hns with
    | cons hn hns =>
      cases hn with
      | element hattributes hagrees =>
        rw [has_eq, hattributes, Bool.not_eq_true] at hif
        rw [Node.contents_element, hif]
        exact (hagrees node hnode).append (ih hns hbelow)

/-! ## Elements -/

/-- Hiding a node does not change what it shows. -/
lemma withShow_contents {scope : List String} {h : Host} {node r : Render}
    (hr : withShow scope h node = .ok r) : r.shape.contents = node.shape.contents := by
  obtain rfl | ⟨source, condition, -, rfl⟩ := withShow_cases hr <;> rfl

lemma agrees_element {kind : ElementKind} {as bs : List (Key × String)} {cs ds : List Content}
    (attributes : List.Forall₂ AttributeAgrees as bs) (children : Content.AgreesAll cs ds) :
    Content.AgreesAll [.element kind as cs] [.element kind bs ds] :=
  .cons (.element attributes children) .nil

lemma content_element {tag : String} (htemplate : tag ≠ "template") (hslot : tag ≠ "slot")
    (as : List Markup.Attribute) (cs : List Node) :
    (Node.element tag as cs).content =
      .element (if isComponentTag tag then .component (componentBinding tag) else .plain tag)
        (fixedAttributes as)
        (if hasAttribute "v-html" as || hasAttribute "v-text" as then []
          else Node.contents false cs) := by
  rw [Node.content]
  simp only [Node.kindOf, Node.attributesOf, Node.isFilled]

lemma elementRender_agrees {scope : List String} {h : Host} {cs : List Node}
    {below : Except Diagnostic (List Render)} {r : Render}
    (hcomponent : h.isComponent = isComponentTag h.tag)
    (hbelow : ∀ rs, below = .ok rs →
      Content.AgreesAll (Node.contents false cs) (Render.shownBy rs))
    (hr : elementRender scope h below = .ok r) :
    Content.AgreesAll [(Node.element h.tag h.attributes cs).content] r.shape.contents := by
  obtain ⟨htag, rs, hrs, rfl⟩ | ⟨htag, props, rs, hprops, hrs, rfl⟩ |
    ⟨htemplate, hslot, props, children, hprops, hchildren, hr⟩ := elementRender_cases hr
  · rw [contents_vnode, htag]
    exact agrees_element .nil (hbelow rs hrs)
  · rw [contents_slot, htag]
    exact agrees_element (fixed_properties hprops) (hbelow rs hrs)
  · have hkind : h.tagged.kind =
        if h.isComponent then .component (componentBinding h.tag) else .plain h.tag := by
      unfold Host.tagged
      split <;> rfl
    have hinside : Content.AgreesAll
        (if hasAttribute "v-html" h.attributes || hasAttribute "v-text" h.attributes then []
          else Node.contents false cs) (Render.shownBy children) := by
      have hfilled : h.isFilled =
          (hasAttribute "v-html" h.attributes || hasAttribute "v-text" h.attributes) := by
        rw [Host.isFilled, isSome_attribute?, isSome_attribute?]
      rw [← hfilled]
      split at hchildren
      next hpure =>
        rw [if_pos hpure, hchildren]
        exact .nil
      next hpure =>
        rw [if_neg hpure]
        exact hbelow children hchildren
    rw [withShow_contents hr, contents_vnode, content_element htemplate hslot, ← hcomponent, hkind]
    exact agrees_element (fixed_properties hprops) hinside

lemma loopedRender_agrees {scope : List String} {h : Host} {cs : List Node}
    {loop? : Except Diagnostic (Option Loop)} {below : Except Diagnostic (List Render)}
    {r : Render} (hcomponent : h.isComponent = isComponentTag h.tag)
    (hbelow : ∀ rs, below = .ok rs →
      Content.AgreesAll (Node.contents false cs) (Render.shownBy rs))
    (hr : loopedRender scope h loop? below = .ok r) :
    Content.AgreesAll [(Node.element h.tag h.attributes cs).content] r.shape.contents := by
  obtain ⟨-, hr⟩ | ⟨l, item, -, hitem, rfl⟩ := loopedRender_cases hr
  · exact elementRender_agrees hcomponent hbelow hr
  · rw [contents_loop]
    exact elementRender_agrees hcomponent hbelow hitem

mutual

/-- The piece that is made from a node stands for it. -/
theorem stands_toPiece (scope : List String) : (n : Node) → Stands n (n.toPiece scope)
  | .text s => .text s
  | .interpolation source => by
    apply Stands.interpolation
    intro p hp
    obtain ⟨text, htext, rfl⟩ := map_eq_ok.1 hp
    exact ⟨text, rfl, scope, htext⟩
  | .element tag as cs =>
    .element rfl fun r hr => loopedRender_agrees rfl
      (fun _ hrs => assemble_agrees (stands_toPieces _ cs) hrs) hr

theorem stands_toPieces (scope : List String) :
    (ns : List Node) → List.Forall₂ Stands ns (Node.toPieces scope ns)
  | [] => .nil
  | n :: ns => .cons (stands_toPiece scope n) (stands_toPieces scope ns)

end

/-! ## The whole template -/

/-- What the render function returns, as an expression; there is none without roots. -/
def translation (roots : List Node) : Except Diagnostic (Option Shape) := do
  return (rootOf (← Render.ofNodes roots)).map Render.shape

lemma translation_eq_ok {roots : List Node} {ns : List Render}
    (hns : Render.ofNodes roots = .ok ns) :
    translation roots = .ok ((rootOf ns).map Render.shape) := by
  rw [translation, hns]
  rfl

lemma text_root (root? : Option Render) :
    (root?.map Render.shape).map Shape.text = root?.map Render.exprText := by
  rw [Option.map_map]
  exact congrArg (Option.map · root?) (funext Render.text_shape)

/-- What is behind `return` for siblings that show `cs`: nothing, the only one of them, or the
group of all. -/
inductive Returns : List Content → Option Shape → Prop
  | nothing : Returns [] none
  | only {s : Shape} (h : ∀ parts, s ≠ .textNode parts) : Returns s.contents (some s)
  | together (items : List Shape) :
      Returns (Shape.contentsAll items) (some (.element .fragment [] (some (.array items))))

lemma returns_rootOf (ns : List Render) :
    Returns (Render.shownBy ns) ((rootOf ns).map Render.shape) := by
  have hgroup (ns : List Render) :
      Render.childrenShape? .fragment ns = some (.array (Render.shapes ns)) := by
    cases ns <;> rfl
  unfold rootOf
  split
  · exact .nothing
  · exact .together (Render.shapes _)
  next n hn =>
    have honly : ∀ parts, n.shape ≠ .textNode parts := by
      intro parts hshape
      cases n with
      | text parts => exact hn parts rfl
      | _ => cases hshape
    simpa using Returns.only honly
  · rw [Option.map_some, Render.shape, hgroup]
    exact .together (Render.shapes _)

/-- A render module returns the translation of its template, which shows exactly what the
template shows. -/
theorem generate_faithful {roots : List Node} {code : String} (hcode : generate roots = .ok code) :
    ∃ (shape? : Option Shape) (helpers : List Helper) (tags : List String) (cs : List Content),
      translation roots = .ok shape? ∧
      code = importText helpers ++ "export function render(_ctx, _cache) \x7b\n"
        ++ String.join (tags.map componentText)
        ++ "  return " ++ (shape?.map Shape.text).getD "null" ++ "\n\x7d\n" ∧
      Returns cs shape? ∧ Content.AgreesAll (Node.contents false roots) cs := by
  obtain ⟨ns, hns, rfl⟩ := generate_eq_ok.1 hcode
  refine ⟨_, rootHelpers (rootOf ns), rootComponents (rootOf ns), _, translation_eq_ok hns, ?_,
    returns_rootOf ns, assemble_agrees (stands_toPieces [] roots) hns⟩
  rw [text_root, moduleText, moduleWith]

/-- A list, or what is shown in its place. -/
def listOrNote : List Node :=
  [.element "ul" [⟨"v-if", some "a"⟩, ⟨"id", some "x"⟩]
    [.element "li" [⟨"v-for", some "b in c"⟩] [.interpolation "b"]],
   .text " ", .element "my-note" [⟨"v-else", none⟩] [.text "none"]]

theorem generate_faithful_listOrNote :
    ∃ code, generate listOrNote = .ok code ∧
      ∃ (shape? : Option Shape) (helpers : List Helper) (tags : List String) (cs : List Content),
        translation listOrNote = .ok shape? ∧
        code = importText helpers ++ "export function render(_ctx, _cache) \x7b\n"
          ++ String.join (tags.map componentText)
          ++ "  return " ++ (shape?.map Shape.text).getD "null" ++ "\n\x7d\n" ∧
        Returns cs shape? ∧ Content.AgreesAll (Node.contents false listOrNote) cs := by
  have hok : (generate listOrNote).isOk = true := by decide +kernel
  cases hcode : generate listOrNote with
  | error e => rw [hcode] at hok; cases hok
  | ok code => exact ⟨code, rfl, generate_faithful hcode⟩

end Unbundled.Template
