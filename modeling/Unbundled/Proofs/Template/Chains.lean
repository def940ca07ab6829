import Unbundled.Proofs.Template.Declarations
import Unbundled.Proofs.Template.Siblings
import Unbundled.Proofs.Text.Split

/-!
# Chains of conditions

Siblings with a stray branch are refused. All others fall into groups, and each group becomes one
node. The node of a chain is the branch whose condition is the first to hold. This speaks of nodes
before they are written: a condition is written between parentheses, and one whose text closes the
first of them makes another node of what is written.
-/

namespace Unbundled.Template

open Script (Diagnostic)

/-- What is left of a node when its conditions have been decided. `truth` tells for each condition,
by its place and its text, whether it holds. -/
def Render.decided (truth : Nat → String → Bool) (k : Nat) : Render → Render
  | conditional test yes no =>
    if truth k test then yes.decided truth (k + 1) else no.decided truth (k + 1)
  | r => r

/-- `test ? result : ...` for each of the cases, and at last `otherwise`. -/
def nested (cases : List (String × Render)) (otherwise : Render) : Render :=
  cases.foldr (fun c no => .conditional c.1 c.2 no) otherwise

/-- The first case whose condition holds. -/
def firstHolding (truth : Nat → String → Bool) (cases : List (String × Render)) : Option Render :=
  (cases.zipIdx.find? fun c => truth c.2 c.1.1).map (·.1.2)

/-- The condition of an element. -/
def Node.condition? : Node → Option String
  | element _ as _ =>
    if hasAttribute "v-if" as then firstValue? "v-if" as else firstValue? "v-else-if" as
  | _ => none

section

variable (scope : List String)

/-- The condition of the element is `test`, with what it takes from the component. -/
def Node.Tests (n : Node) (test : String) : Prop :=
  ∃ source, n.condition? = some source ∧ expression scope source = .ok test

/-- The element, its condition left out, becomes `r`. -/
def Node.Renders (n : Node) (r : Render) : Prop :=
  ∃ b, n.toPiece scope = .element b ∧ b.Gives r

inductive Node.Shows : Node → TextPart → Prop
  | text (s : String) : Shows (.text s) (.literal s)
  | interpolation {source text : String} (h : expression scope source = .ok text) :
      Shows (.interpolation source) (.display text)

/-- The node compiles, and its condition does, if it has to have one. -/
structure Node.Compiles (n : Node) : Prop where
  shows : n.isElement = false → ∃ part, n.Shows scope part
  renders : n.isElement → ∃ r, n.Renders scope r
  tests : n.has "v-if" || n.has "v-else-if" → ∃ test, n.Tests scope test

/-- A branch with its condition is the text of the condition and what the branch becomes. -/
def Node.IsCase (n : Node) (c : String × Render) : Prop :=
  n.has "v-else" = false ∧ n.Tests scope c.1 ∧ n.Renders scope c.2

/-- What is shown where no condition holds: the branch without one, or a comment. -/
inductive Otherwise (conditions : List Node) : List Node → Render → Prop
  | comment : Otherwise conditions conditions .placeholder
  | branch {n : Node} {r : Render} (hn : n.has "v-else") (hr : n.Renders scope r) :
      Otherwise conditions (conditions ++ [n]) r

/-- What becomes of a group. -/
inductive Gives : Group → Render → Prop
  | run {texts : List Node} {parts : List TextPart}
      (h : List.Forall₂ (Node.Shows scope) texts parts) : Gives (.run texts) (.text parts)
  | single {n : Node} {r : Render} (h : n.Renders scope r) : Gives (.single n) r
  | chain {conditions branches : List Node} {cases : List (String × Render)}
      {otherwise : Render} (hcases : List.Forall₂ (Node.IsCase scope) conditions cases)
      (hotherwise : Otherwise scope conditions branches otherwise)
      (h : ∀ truth, (nested cases otherwise).decided truth 0 =
        (firstHolding truth cases).getD otherwise) :
      Gives (.chain branches) (nested cases otherwise)

end

/-! ## Putting groups in order -/

section

variable {scope : List String}

lemma toPieces_eq_map (ns : List Node) : Node.toPieces scope ns = ns.map (Node.toPiece scope) := by
  induction ns with
  | nil => rfl
  | cons n ns ih => rw [Node.toPieces, ih, List.map_cons]

lemma toPieces_append (ms ns : List Node) :
    Node.toPieces scope (ms ++ ns) = Node.toPieces scope ms ++ Node.toPieces scope ns := by
  simp only [toPieces_eq_map, List.map_append]

lemma isText_toPiece (n : Node) : (n.toPiece scope).isText = !n.isElement := by
  cases n <;> rfl

lemma exists_toPiece_text (scope : List String) {n : Node} (hn : n.isElement = false) :
    ∃ part, n.toPiece scope = .text n.isBlankText part := by
  cases n with
  | element => cases hn
  | _ => exact ⟨_, rfl⟩

lemma exists_toPiece_element (scope : List String) {n : Node} (hn : n.isElement) :
    ∃ b, n.toPiece scope = .element b := by
  cases n with
  | element => exact ⟨_, rfl⟩
  | _ => cases hn

lemma has_of_toPiece {n : Node} {b : Branch} (hb : n.toPiece scope = .element b) (name : String) :
    b.has name = n.has name := by
  cases n with
  | element tag as cs =>
    cases hb
    exact has_eq _ name
  | _ => cases hb

lemma continues_of_toPiece {n : Node} {b : Branch} (hb : n.toPiece scope = .element b) :
    b.continues = n.continuesChain := by
  rw [Branch.continues, has_of_toPiece hb, has_of_toPiece hb, continuesChain_eq]

lemma assemble_text (blank : Bool) (part : Except Diagnostic TextPart) (ps : List Piece) :
    assemble scope (.text blank part :: ps) = (do
      let parts ←
        ((Piece.text blank part :: ps.takeWhile Piece.isText).filterMap Piece.part?).mapM id
      return .text parts :: (← assemble scope (ps.dropWhile Piece.isText))) := by
  rw [assemble]

lemma assemble_run {texts ns : List Node} (hne : texts ≠ [])
    (htexts : ∀ n ∈ texts, n.isElement = false) (hns : ∀ n ∈ ns.head?, n.isElement) :
    assemble scope (Node.toPieces scope (texts ++ ns)) = (do
      let parts ← ((Node.toPieces scope texts).filterMap Piece.part?).mapM id
      return .text parts :: (← assemble scope (Node.toPieces scope ns))) := by
  obtain ⟨n, texts, rfl⟩ := List.exists_cons_of_ne_nil hne
  obtain ⟨hn, hlater⟩ := List.forall_mem_cons.1 htexts
  obtain ⟨part, hpart⟩ := exists_toPiece_text scope hn
  have hfront : (Node.toPieces scope texts).all Piece.isText := by
    rw [toPieces_eq_map, List.all_map, List.all_eq_true]
    intro m hm
    simp [isText_toPiece, hlater m hm]
  have hstop : ∀ p ∈ (Node.toPieces scope ns).head?, p.isText = false := by
    cases ns with
    | nil => simp [Node.toPieces]
    | cons m ns => simpa [Node.toPieces, isText_toPiece] using hns
  rw [List.cons_append, Node.toPieces, Node.toPieces, toPieces_append, hpart, assemble_text,
    Text.takeWhile_append_stop hfront hstop, Text.dropWhile_append_stop hfront hstop]

lemma assemble_begins {b : Branch} (hif : b.has "v-if") (ps : List Piece) :
    assemble scope (.element b :: ps) = (do
      let node ← conditionalOf scope (b :: (takeBranches [] ps).1)
      return node :: (← assemble scope (takeBranches [] ps).2)) := by
  rw [assemble, if_pos hif]

lemma assemble_single {n : Node} {b : Branch} (hb : n.toPiece scope = .element b)
    (hif : n.has "v-if" = false) (hnot : n.continuesChain = false) (ns : List Node) :
    assemble scope (Node.toPieces scope (n :: ns)) = (do
      let node ← b.result
      return node :: (← assemble scope (Node.toPieces scope ns))) := by
  rw [Node.toPieces, hb, assemble, has_of_toPiece hb, hif, continues_of_toPiece hb, hnot]
  rfl

lemma assemble_stray (scope : List String) {n : Node} (hif : n.has "v-if" = false)
    (hn : n.continuesChain) (ns : List Node) :
    ∃ e, assemble scope (Node.toPieces scope (n :: ns)) = .error e := by
  obtain ⟨b, hb⟩ := exists_toPiece_element scope (isElement_of_continuesChain hn)
  rw [Node.toPieces, hb, assemble, has_of_toPiece hb, hif, continues_of_toPiece hb, hn]
  exact ⟨_, rfl⟩

/-- The elements among the nodes, on their way to their places. -/
def branches (scope : List String) (ns : List Node) : List Branch :=
  branchesOf (Node.toPieces scope ns)

lemma branches_cons {n : Node} {b : Branch} (hb : n.toPiece scope = .element b) (ns : List Node) :
    branches scope (n :: ns) = b :: branches scope ns := by
  rw [branches, Node.toPieces, hb]
  rfl

lemma branches_append (ms ns : List Node) :
    branches scope (ms ++ ns) = branches scope ms ++ branches scope ns := by
  rw [branches, toPieces_append, branchesOf_append]
  rfl

lemma takeBranches_blanks {blanks : List Node} (h : ∀ n ∈ blanks, n.isBlankText)
    (passed ps : List Piece) : takeBranches passed (Node.toPieces scope blanks ++ ps) =
      takeBranches (passed ++ Node.toPieces scope blanks) ps := by
  induction blanks generalizing passed with
  | nil => simp [Node.toPieces]
  | cons n blanks ih =>
    obtain ⟨hn, hblanks⟩ := List.forall_mem_cons.1 h
    obtain ⟨part, hpart⟩ : ∃ part, n.toPiece scope = .text true part := by
      cases n with
      | text s => exact ⟨_, congrArg (Piece.text · _) hn⟩
      | _ => cases hn
    rw [Node.toPieces, hpart, List.cons_append, takeBranches, ih hblanks, List.append_assoc,
      List.singleton_append]

lemma takeBranches_stop {ns : List Node} (h : Node.nextContinues ns = false)
    (passed : List Piece) : takeBranches passed (Node.toPieces scope ns) =
      ([], passed ++ Node.toPieces scope ns) := by
  induction ns generalizing passed with
  | nil => simp [Node.toPieces, takeBranches]
  | cons n ns ih =>
    rw [Node.nextContinues] at h
    cases hblank : n.isBlankText with
    | true =>
      rw [hblank, if_pos rfl] at h
      have hpassed := @takeBranches_blanks scope [n] (by simpa using hblank) passed
        (Node.toPieces scope ns)
      simpa [Node.toPieces, ih h] using hpassed
    | false =>
      rw [hblank, if_neg (by simp)] at h
      cases helement : n.isElement with
      | true =>
        obtain ⟨b, hb⟩ := exists_toPiece_element scope helement
        rw [Node.toPieces, hb, takeBranches, continues_of_toPiece hb, h]
        rfl
      | false =>
        obtain ⟨part, hpart⟩ := exists_toPiece_text scope helement
        rw [Node.toPieces, hpart, hblank, takeBranches]

lemma takeBranches_continues {ns bs rest : List Node} (h : Continues ns bs rest) :
    takeBranches [] (Node.toPieces scope ns) = (branches scope bs, Node.toPieces scope rest) := by
  induction h with
  | stop h => exact takeBranches_stop h []
  | last hblanks hn =>
    obtain ⟨b, hb⟩ := exists_toPiece_element scope (isElement_of_has hn)
    rw [toPieces_append, takeBranches_blanks hblanks, Node.toPieces, hb, takeBranches,
      continues_of_toPiece hb, has_of_toPiece hb, continuesChain_eq, hn, Bool.or_true,
      branches_cons hb]
    rfl
  | further hblanks hn hopen h ih =>
    obtain ⟨b, hb⟩ := exists_toPiece_element scope (isElement_of_has hn)
    rw [toPieces_append, takeBranches_blanks hblanks, Node.toPieces, hb, takeBranches,
      continues_of_toPiece hb, has_of_toPiece hb, continuesChain_eq, hn, Bool.true_or, hopen, ih,
      branches_cons hb]
    rfl

lemma assemble_chain {n : Node} {ns bs rest : List Node} (hif : n.has "v-if")
    (h : Continues ns bs rest) : assemble scope (Node.toPieces scope (n :: ns)) = (do
      let node ← conditionalOf scope (branches scope (n :: bs))
      return node :: (← assemble scope (Node.toPieces scope rest))) := by
  obtain ⟨b, hb⟩ := exists_toPiece_element scope (isElement_of_has hif)
  rw [Node.toPieces, hb, assemble_begins (by rw [has_of_toPiece hb, hif]),
    takeBranches_continues h, branches_cons hb]

/-! ## What becomes of a group -/

lemma exists_shows {texts : List Node} (h : ∀ n ∈ texts, n.Compiles scope)
    (htexts : ∀ n ∈ texts, n.isElement = false) :
    ∃ parts, List.Forall₂ (Node.Shows scope) texts parts := by
  induction texts with
  | nil => exact ⟨[], .nil⟩
  | cons n texts ih =>
    obtain ⟨hn, hlater⟩ := List.forall_mem_cons.1 h
    obtain ⟨htext, htexts⟩ := List.forall_mem_cons.1 htexts
    obtain ⟨part, hpart⟩ := hn.shows htext
    obtain ⟨parts, hparts⟩ := ih hlater htexts
    exact ⟨part :: parts, .cons hpart hparts⟩

lemma mapM_shows {texts : List Node} {parts : List TextPart}
    (h : List.Forall₂ (Node.Shows scope) texts parts) :
    ((Node.toPieces scope texts).filterMap Piece.part?).mapM id = .ok parts := by
  induction h with
  | nil => rfl
  | @cons n part texts parts hn h ih =>
    have hpart : n.toPiece scope = .text n.isBlankText (.ok part) := by
      cases hn with
      | text s => rfl
      | interpolation hsource =>
        rw [Node.toPiece, hsource]
        rfl
    rw [Node.toPieces, hpart, filterMap_part?_text, List.mapM_cons, ih]
    rfl

lemma foldrM_over {bs : List Branch} {cases : List (String × Render)}
    (h : List.Forall₂ (fun b c => b.condition scope = .ok c.1 ∧ b.result = .ok c.2) bs cases)
    (no : Render) : bs.foldrM (Branch.over scope) no = .ok (nested cases no) := by
  induction h with
  | nil => rfl
  | @cons b c bs cases hb h ih =>
    have hover : b.over scope (nested cases no) = .ok (.conditional c.1 c.2 (nested cases no)) :=
      over_eq_ok.2 ⟨_, _, hb.1, hb.2, rfl⟩
    rw [List.foldrM_cons, ih]
    exact hover

lemma condition_of_tests {n : Node} {b : Branch} {test : String}
    (hb : n.toPiece scope = .element b) (h : n.Tests scope test) :
    b.condition scope = .ok test := by
  obtain ⟨source, hsource, htest⟩ := h
  cases n with
  | element tag as cs =>
    cases hb
    have hvalue : ((as.find? (·.name == "v-if")).or (as.find? (·.name == "v-else-if"))).bind
        (·.value?) = some source := by
      rw [← hsource, Node.condition?, hasAttribute, ← List.isSome_find?, firstValue?, firstValue?]
      cases as.find? (·.name == "v-if") <;> rfl
    unfold Branch.condition Host.attribute?
    dsimp only
    rw [hvalue]
    exact htest
  | _ => cases hb

lemma branches_of_cases {conditions : List Node} {cases : List (String × Render)}
    (h : List.Forall₂ (Node.IsCase scope) conditions cases) :
    List.Forall₂ (fun b c => b.condition scope = .ok c.1 ∧ b.result = .ok c.2)
        (branches scope conditions) cases ∧
      ∀ b ∈ branches scope conditions, b.has "v-else" = false := by
  induction h with
  | nil => exact ⟨.nil, List.forall_mem_nil _⟩
  | @cons n c conditions cases hn h ih =>
    obtain ⟨helse, htest, b, hb, hr⟩ := hn
    obtain ⟨hcases, hnone⟩ := ih
    rw [branches_cons hb]
    exact ⟨.cons ⟨condition_of_tests hb htest, hr⟩ hcases,
      List.forall_mem_cons.2 ⟨(has_of_toPiece hb "v-else").trans helse, hnone⟩⟩

/-- A chain becomes its cases, nested, around what is shown where no condition holds. -/
lemma conditionalOf_cases_otherwise {conditions bs : List Node} {cases : List (String × Render)}
    {otherwise : Render} (hcases : List.Forall₂ (Node.IsCase scope) conditions cases)
    (hotherwise : Otherwise scope conditions bs otherwise) :
    conditionalOf scope (branches scope bs) = .ok (nested cases otherwise) := by
  obtain ⟨hbranches, hnone⟩ := branches_of_cases hcases
  have hfold := foldrM_over hbranches
  cases hotherwise with
  | comment =>
    unfold conditionalOf
    split
    next last hlast =>
      rw [hnone last (List.mem_of_getLast? hlast)]
      exact hfold _
    next => exact hfold _
  | @branch n r hn hr =>
    obtain ⟨b, hb, hr⟩ := hr
    have happend : branches scope (conditions ++ [n]) = branches scope conditions ++ [b] := by
      rw [branches_append, branches_cons hb]
      rfl
    have helse : b.has "v-else" := by rw [has_of_toPiece hb, hn]
    simp only [conditionalOf, happend, List.getLast?_concat, List.dropLast_concat]
    rw [if_pos helse, hr]
    exact hfold _

end

/-- What an element becomes does not depend on conditions. -/
lemma decided_of_renders {scope : List String} {n : Node} {r : Render} (h : n.Renders scope r)
    (truth : Nat → String → Bool) (k : Nat) : r.decided truth k = r := by
  obtain ⟨b, hb, hr⟩ := h
  cases n with
  | element tag as cs =>
    cases hb
    obtain ⟨-, hr⟩ | ⟨l, item, -, -, rfl⟩ := loopedRender_cases hr
    · obtain ⟨-, rs, -, rfl⟩ | ⟨-, props, rs, -, -, rfl⟩ |
        ⟨-, -, props, children, -, -, hr⟩ := elementRender_cases hr
      · rfl
      · rfl
      · obtain rfl | ⟨source, condition, -, rfl⟩ := withShow_cases hr <;> rfl
    · rfl
  | _ => cases hb

lemma decided_nested {truth : Nat → String → Bool} {cases : List (String × Render)}
    {otherwise : Render} (hcases : ∀ c ∈ cases, ∀ k, c.2.decided truth k = c.2)
    (hotherwise : ∀ k, otherwise.decided truth k = otherwise) (k : Nat) :
    (nested cases otherwise).decided truth k =
      (((cases.zipIdx k).find? fun c => truth c.2 c.1.1).map (·.1.2)).getD otherwise := by
  induction cases generalizing k with
  | nil => exact hotherwise k
  | cons c cases ih =>
    obtain ⟨hc, hlater⟩ := List.forall_mem_cons.1 hcases
    rw [nested, List.foldr_cons, Render.decided, List.zipIdx_cons]
    cases htruth : truth k c.1 with
    | true => simp [htruth, hc]
    | false =>
      rw [if_neg (by simp), List.find?_cons_of_neg (by simp [htruth])]
      exact ih hlater (k + 1)

section

variable {scope : List String}

lemma Otherwise.cons {n : Node} {conditions bs : List Node} {r : Render}
    (h : Otherwise scope conditions bs r) : Otherwise scope (n :: conditions) (n :: bs) r := by
  cases h with
  | comment => exact .comment
  | branch hm hr => exact .branch hm hr

lemma Otherwise.decided {conditions bs : List Node} {r : Render}
    (h : Otherwise scope conditions bs r) (truth : Nat → String → Bool) (k : Nat) :
    r.decided truth k = r := by
  cases h with
  | comment => rfl
  | branch hm hr => exact decided_of_renders hr truth k

lemma decided_of_cases {conditions : List Node} {cases : List (String × Render)}
    (h : List.Forall₂ (Node.IsCase scope) conditions cases) (truth : Nat → String → Bool) :
    ∀ c ∈ cases, ∀ k, c.2.decided truth k = c.2 := by
  induction h with
  | nil => simp
  | cons hn h ih => exact List.forall_mem_cons.2 ⟨decided_of_renders hn.2.2 truth, ih⟩

/-- The further branches of a chain are its further cases, and maybe a branch without condition. -/
lemma Continues.exists_cases {ns bs rest : List Node} (h : Continues ns bs rest)
    (hcompiles : ∀ n ∈ ns, n.Compiles scope) : ∃ conditions cases otherwise,
      List.Forall₂ (Node.IsCase scope) conditions cases ∧
        Otherwise scope conditions bs otherwise := by
  induction h with
  | stop => exact ⟨[], [], .placeholder, .nil, .comment⟩
  | @last blanks rest n hblanks hn =>
    obtain ⟨r, hr⟩ := (hcompiles n (by simp)).renders (isElement_of_has hn)
    exact ⟨[], [], r, .nil, .branch hn hr⟩
  | @further blanks ns bs rest n hblanks hn hopen h ih =>
    have hfirst := hcompiles n (by simp)
    obtain ⟨r, hr⟩ := hfirst.renders (isElement_of_has hn)
    obtain ⟨test, htest⟩ := hfirst.tests (by rw [hn, Bool.or_true])
    obtain ⟨conditions, cases, otherwise, hcases, hotherwise⟩ :=
      ih fun m hm => hcompiles m (by simp [hm])
    exact ⟨n :: conditions, (test, r) :: cases, otherwise, .cons ⟨hopen, htest, hr⟩ hcases,
      hotherwise.cons⟩

/-- Siblings are rendered only with all that follow the first group. -/
lemma rest_rendered {α : Type} {first : Except Diagnostic α} {f : α → Render} {ps : List Piece}
    {rs : List Render}
    (h : (do let a ← first; return f a :: (← assemble scope ps)) = .ok rs) :
    ∃ ss, assemble scope ps = .ok ss := by
  obtain ⟨a, -, h⟩ := bind_eq_ok.1 h
  obtain ⟨ss, hss, -⟩ := bind_eq_ok.1 h
  exact ⟨ss, hss⟩

/-- Siblings fall into groups, or one of them is a stray branch and they are not rendered. -/
lemma exists_groups (ns : List Node) : (∃ gs, Groups ns gs) ∨
    Stray false ns ∧ ∀ rs, assemble scope (Node.toPieces scope ns) ≠ .ok rs := by
  induction ns using groupInduction with
  | nil => exact .inl ⟨[], .nil⟩
  | run texts ns hne htexts hns ih =>
    rcases ih with ⟨gs, h⟩ | ⟨hstray, hfails⟩
    · exact .inl ⟨_, .run hne htexts hns h⟩
    · refine .inr ⟨(stray_texts htexts).2 hstray, fun rs hrs => ?_⟩
      rw [assemble_run hne htexts hns] at hrs
      obtain ⟨ss, hss⟩ := rest_rendered hrs
      exact hfails ss hss
  | chain n ns bs rest hif hcontinues ih =>
    rcases ih with ⟨gs, h⟩ | ⟨hstray, hfails⟩
    · exact .inl ⟨_, .chain hif hcontinues h⟩
    · refine .inr ⟨?_, fun rs hrs => ?_⟩
      · rw [stray_cons, leavesOpen_element (isElement_of_has hif), hif]
        simpa [hcontinues.stray_iff] using .inr hstray
      · rw [assemble_chain hif hcontinues] at hrs
        obtain ⟨ss, hss⟩ := @rest_rendered scope _ _ id _ _ hrs
        exact hfails ss hss
  | single n ns hn hif hnot ih =>
    rcases ih with ⟨gs, h⟩ | ⟨hstray, hfails⟩
    · exact .inl ⟨_, .single hn hif hnot h⟩
    · refine .inr ⟨?_, fun rs hrs => ?_⟩
      · rw [stray_cons, leavesOpen_element hn, hif]
        simpa using .inr hstray
      · obtain ⟨b, hb⟩ := exists_toPiece_element scope hn
        rw [assemble_single hb hif hnot] at hrs
        obtain ⟨ss, hss⟩ := @rest_rendered scope _ _ id _ _ hrs
        exact hfails ss hss
  | stray n ns hif hn =>
    refine .inr ⟨stray_cons.2 (.inl ⟨hn, rfl⟩), fun rs hrs => ?_⟩
    obtain ⟨e, he⟩ := assemble_stray scope hif hn ns
    rw [he] at hrs
    cases hrs

/-- Where the nodes compile, each group becomes one node. -/
lemma assemble_groups {ns : List Node} {gs : List Group} (hroles : ∀ n ∈ ns, n.HasOneRole)
    (hcompiles : ∀ n ∈ ns, n.Compiles scope) (h : Groups ns gs) :
    ∃ rs, assemble scope (Node.toPieces scope ns) = .ok rs ∧ List.Forall₂ (Gives scope) gs rs := by
  induction h with
  | nil => exact ⟨[], by rw [Node.toPieces, assemble], .nil⟩
  | @run texts ns gs hne htexts hns h ih =>
    obtain ⟨hfirst, hlater⟩ := List.forall_mem_append.1 hcompiles
    obtain ⟨rs, hrs, hgives⟩ := ih (List.forall_mem_append.1 hroles).2 hlater
    obtain ⟨parts, hparts⟩ := exists_shows hfirst htexts
    refine ⟨.text parts :: rs, ?_, .cons (.run hparts) hgives⟩
    rw [assemble_run hne htexts hns, mapM_shows hparts, hrs]
    rfl
  | @single n ns gs hn hif hnot h ih =>
    obtain ⟨hfirst, hlater⟩ := List.forall_mem_cons.1 hcompiles
    obtain ⟨rs, hrs, hgives⟩ := ih (List.forall_mem_cons.1 hroles).2 hlater
    obtain ⟨r, b, hb, hr⟩ := hfirst.renders hn
    refine ⟨r :: rs, ?_, .cons (.single ⟨b, hb, hr⟩) hgives⟩
    rw [assemble_single hb hif hnot, hr, hrs]
    rfl
  | @chain n ns bs rest gs hif hbranches h ih =>
    obtain ⟨hfirst, hlater⟩ := List.forall_mem_cons.1 hcompiles
    obtain ⟨hrole, hroles⟩ := List.forall_mem_cons.1 hroles
    have hinside : ∀ m ∈ rest, m ∈ ns := fun m hm => hbranches.suffix.subset hm
    obtain ⟨rs, hrs, hgives⟩ := ih (fun m hm => hroles m (hinside m hm))
      fun m hm => hlater m (hinside m hm)
    obtain ⟨r, hr⟩ := hfirst.renders (isElement_of_has hif)
    obtain ⟨test, htest⟩ := hfirst.tests (by rw [hif, Bool.true_or])
    obtain ⟨conditions, cases, otherwise, hcases, hotherwise⟩ := hbranches.exists_cases hlater
    have helse : n.has "v-else" = false := by
      have hnot := hrole.begins hif
      rw [continuesChain_eq, Bool.or_eq_false_iff] at hnot
      exact hnot.2
    have hall : List.Forall₂ (Node.IsCase scope) (n :: conditions) ((test, r) :: cases) :=
      .cons ⟨helse, htest, hr⟩ hcases
    refine ⟨nested ((test, r) :: cases) otherwise :: rs, ?_, .cons (.chain hall hotherwise.cons
      fun truth => ?_) hgives⟩
    · rw [assemble_chain hif hbranches, conditionalOf_cases_otherwise hall hotherwise.cons, hrs]
      rfl
    · exact decided_nested (decided_of_cases hall truth) (hotherwise.decided truth) 0

/-- Siblings with a stray branch are refused. All others fall into groups, and where the nodes
compile, each group becomes one node: a chain the branch whose condition is the first to hold, or
what is shown where none holds. -/
theorem assemble_chains {ns : List Node} (hroles : ∀ n ∈ ns, n.HasOneRole) :
    (Stray false ns → ∃ e, assemble scope (Node.toPieces scope ns) = .error e) ∧
      (¬ Stray false ns → (∀ n ∈ ns, n.Compiles scope) → ∃ gs rs, Groups ns gs ∧
        assemble scope (Node.toPieces scope ns) = .ok rs ∧ List.Forall₂ (Gives scope) gs rs) := by
  rcases @exists_groups scope ns with ⟨gs, h⟩ | ⟨hstray, hfails⟩
  · refine ⟨fun hstray => absurd hstray (h.not_stray hroles), fun _ hcompiles => ?_⟩
    obtain ⟨rs, hrs, hgives⟩ := assemble_groups hroles hcompiles h
    exact ⟨gs, rs, h, hrs, hgives⟩
  · refine ⟨fun _ => ?_, fun hnot => absurd hstray hnot⟩
    cases hassemble : assemble scope (Node.toPieces scope ns) with
    | error e => exact ⟨e, rfl⟩
    | ok rs => exact absurd hassemble (hfails rs)

end

example : (∀ n ∈ listOrNote, n.HasOneRole) ∧ ¬ Stray false listOrNote ∧
    Stray false listOrNote.tail := by
  decide

end Unbundled.Template
