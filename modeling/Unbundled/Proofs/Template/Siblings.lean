import Unbundled.Proofs.Template.Content

/-!
# Siblings and their chains of conditions

An element with `v-if` begins a chain, which goes on across blank texts with `v-else-if` and ends
behind `v-else`, or where no branch follows. A branch outside of a chain is a stray one. Siblings
without stray branches fall into runs of texts, single elements and chains.
-/

namespace Unbundled.Template

/-- Whether the node is an element with an attribute called `name`. -/
def Node.has (n : Node) (name : String) : Bool :=
  match n with
  | element _ as _ => hasAttribute name as
  | _ => false

/-- At most one of the directives that make up chains. -/
def Node.HasOneRole (n : Node) : Prop :=
  (["v-if", "v-else-if", "v-else"].filter n.has).length ≤ 1

instance (n : Node) : Decidable n.HasOneRole := inferInstanceAs (Decidable (_ ≤ _))

/-- Whether a chain is open behind the node; blank text leaves it as it is. -/
def Node.leavesOpen (open? : Bool) (n : Node) : Bool :=
  if n.isBlankText then open? else n.opensChain open?

/-- One of the siblings goes on with a chain where none is open; `open?` tells of the place before
them. -/
def Stray (open? : Bool) (ns : List Node) : Prop :=
  ∃ before n after, ns = before ++ n :: after ∧ n.continuesChain ∧
    before.foldl Node.leavesOpen open? = false

/-- What siblings fall into. -/
inductive Group where
  /-- Texts and expressions side by side. -/
  | run (texts : List Node)
  | single (n : Node)
  | chain (branches : List Node)

/-- The further branches of a chain in front of `ns`, and what follows the chain. -/
inductive Continues : List Node → List Node → List Node → Prop
  | stop {ns : List Node} (h : Node.nextContinues ns = false) : Continues ns [] ns
  | last {blanks rest : List Node} {n : Node} (hblanks : ∀ m ∈ blanks, m.isBlankText)
      (hn : n.has "v-else") : Continues (blanks ++ n :: rest) [n] rest
  | further {blanks ns branches rest : List Node} {n : Node}
      (hblanks : ∀ m ∈ blanks, m.isBlankText) (hn : n.has "v-else-if")
      (hopen : n.has "v-else" = false) (h : Continues ns branches rest) :
      Continues (blanks ++ n :: ns) (n :: branches) rest

/-- The siblings fall into the groups, in their order. Only blank texts between two branches of one
chain are in no group. -/
inductive Groups : List Node → List Group → Prop
  | nil : Groups [] []
  | run {texts ns : List Node} {gs : List Group} (hne : texts ≠ [])
      (htexts : ∀ n ∈ texts, n.isElement = false) (hns : ∀ n ∈ ns.head?, n.isElement)
      (h : Groups ns gs) : Groups (texts ++ ns) (.run texts :: gs)
  | single {n : Node} {ns : List Node} {gs : List Group} (hn : n.isElement)
      (hif : n.has "v-if" = false) (hnot : n.continuesChain = false) (h : Groups ns gs) :
      Groups (n :: ns) (.single n :: gs)
  | chain {n : Node} {ns branches rest : List Node} {gs : List Group} (hif : n.has "v-if")
      (hbranches : Continues ns branches rest) (h : Groups rest gs) :
      Groups (n :: ns) (.chain (n :: branches) :: gs)

/-! ## Places where a chain is open -/

lemma continuesChain_eq (n : Node) : n.continuesChain = (n.has "v-else-if" || n.has "v-else") := by
  cases n <;> rfl

lemma isElement_of_has {n : Node} {name : String} (h : n.has name) : n.isElement := by
  cases n with
  | element => rfl
  | _ => cases h

lemma isElement_of_continuesChain {n : Node} (h : n.continuesChain) : n.isElement := by
  cases n with
  | element => rfl
  | _ => cases h

lemma continuesChain_of_blank {n : Node} (h : n.isBlankText) : n.continuesChain = false := by
  cases n with
  | text s => rfl
  | _ => cases h

/-- An element that begins a chain does not go on with one. -/
lemma Node.HasOneRole.begins {n : Node} (h : n.HasOneRole) (hif : n.has "v-if") :
    n.continuesChain = false := by
  unfold HasOneRole at h
  rw [continuesChain_eq]
  cases helseif : n.has "v-else-if" <;> cases helse : n.has "v-else" <;>
    simp [hif, helseif, helse] at h ⊢

lemma leavesOpen_element {n : Node} (hn : n.isElement) (open? : Bool) :
    n.leavesOpen open? = if open? && n.continuesChain then !n.has "v-else" else n.has "v-if" := by
  cases n with
  | element => rfl
  | _ => cases hn

lemma stray_cons {open? : Bool} {n : Node} {ns : List Node} : Stray open? (n :: ns) ↔
    (n.continuesChain ∧ open? = false) ∨ Stray (n.leavesOpen open?) ns := by
  constructor
  · rintro ⟨before, m, after, heq, hm, hclosed⟩
    cases before with
    | nil =>
      obtain ⟨rfl, rfl⟩ := List.cons.inj heq
      exact .inl ⟨hm, hclosed⟩
    | cons n' before =>
      obtain ⟨rfl, rfl⟩ := List.cons.inj heq
      exact .inr ⟨before, m, after, rfl, hm, hclosed⟩
  · rintro (⟨hn, hclosed⟩ | ⟨before, m, after, rfl, hm, hclosed⟩)
    · exact ⟨[], n, ns, rfl, hn, hclosed⟩
    · exact ⟨n :: before, m, after, rfl, hm, hclosed⟩

lemma not_stray_nil (open? : Bool) : ¬ Stray open? [] := by
  rintro ⟨before, n, after, heq, -⟩
  simp at heq

instance decidableStray : (open? : Bool) → (ns : List Node) → Decidable (Stray open? ns)
  | open?, [] => .isFalse (not_stray_nil open?)
  | open?, n :: ns =>
    have := decidableStray (n.leavesOpen open?) ns
    decidable_of_iff _ stray_cons.symm

lemma stray_blanks {open? : Bool} {blanks ns : List Node} (h : ∀ n ∈ blanks, n.isBlankText) :
    Stray open? (blanks ++ ns) ↔ Stray open? ns := by
  induction blanks with
  | nil => rfl
  | cons n blanks ih =>
    obtain ⟨hn, hblanks⟩ := List.forall_mem_cons.1 h
    rw [List.cons_append, stray_cons, Node.leavesOpen, if_pos hn, ih hblanks,
      continuesChain_of_blank hn]
    simp

lemma stray_texts {texts ns : List Node} (h : ∀ n ∈ texts, n.isElement = false) :
    Stray false (texts ++ ns) ↔ Stray false ns := by
  induction texts with
  | nil => rfl
  | cons n texts ih =>
    obtain ⟨hn, htexts⟩ := List.forall_mem_cons.1 h
    have hnot : n.continuesChain = false ∧ n.leavesOpen false = false := by
      cases n with
      | element => cases hn
      | text s => simp [Node.continuesChain, Node.leavesOpen, Node.opensChain]
      | interpolation source => exact ⟨rfl, rfl⟩
    rw [List.cons_append, stray_cons, hnot.1, hnot.2, ih htexts]
    simp

/-- Where no branch follows, it makes no difference whether a chain is open. -/
lemma stray_stop {ns : List Node} (h : Node.nextContinues ns = false) :
    Stray true ns ↔ Stray false ns := by
  induction ns with
  | nil => exact iff_of_false (not_stray_nil true) (not_stray_nil false)
  | cons n ns ih =>
    rw [Node.nextContinues] at h
    rw [stray_cons, stray_cons]
    cases hblank : n.isBlankText with
    | true =>
      rw [hblank, if_pos rfl] at h
      simp [Node.leavesOpen, hblank, continuesChain_of_blank hblank, ih h]
    | false =>
      rw [hblank, if_neg (by simp)] at h
      have hsame : n.leavesOpen true = n.leavesOpen false := by
        cases n with
        | element tag as cs => simp [Node.leavesOpen, Node.isBlankText, Node.opensChain, h]
        | _ => simp [Node.leavesOpen, Node.opensChain, hblank]
      simp [hsame, h]

lemma Continues.stray_iff {ns branches rest : List Node} (h : Continues ns branches rest) :
    Stray true ns ↔ Stray false rest := by
  induction h with
  | stop h => exact stray_stop h
  | last hblanks hn =>
    rw [stray_blanks hblanks, stray_cons, leavesOpen_element (isElement_of_has hn),
      continuesChain_eq, hn]
    simp
  | further hblanks hn hopen h ih =>
    rw [stray_blanks hblanks, stray_cons, leavesOpen_element (isElement_of_has hn),
      continuesChain_eq, hn, hopen]
    simpa using ih

lemma Continues.suffix {ns branches rest : List Node} (h : Continues ns branches rest) :
    rest <:+ ns := by
  induction h with
  | stop => exact List.suffix_refl _
  | @last blanks rest n => exact ⟨blanks ++ [n], by simp⟩
  | further hblanks hn hopen h ih =>
    exact (ih.trans (List.suffix_cons _ _)).trans (List.suffix_append _ _)

/-- Siblings that fall into groups have no stray branch. -/
lemma Groups.not_stray {ns : List Node} {gs : List Group} (hroles : ∀ n ∈ ns, n.HasOneRole)
    (h : Groups ns gs) : ¬ Stray false ns := by
  induction h with
  | nil => exact not_stray_nil false
  | run hne htexts hns h ih =>
    rw [stray_texts htexts]
    exact ih (List.forall_mem_append.1 hroles).2
  | single hn hif hnot h ih =>
    rw [stray_cons, leavesOpen_element hn, hif, hnot]
    simpa using ih (List.forall_mem_cons.1 hroles).2
  | chain hif hbranches h ih =>
    obtain ⟨hrole, hlater⟩ := List.forall_mem_cons.1 hroles
    rw [stray_cons, leavesOpen_element (isElement_of_has hif), hif, hrole.begins hif]
    simpa [hbranches.stray_iff] using ih fun n hn => hlater n (hbranches.suffix.subset hn)

/-! ## From the first sibling on -/

lemma exists_branch_of_nextContinues {ns : List Node} (h : Node.nextContinues ns) :
    ∃ blanks n rest, ns = blanks ++ n :: rest ∧ (∀ m ∈ blanks, m.isBlankText) ∧
      n.continuesChain := by
  induction ns with
  | nil => cases h
  | cons n ns ih =>
    rw [Node.nextContinues] at h
    cases hblank : n.isBlankText with
    | true =>
      rw [if_pos hblank] at h
      obtain ⟨blanks, m, rest, rfl, hblanks, hm⟩ := ih h
      exact ⟨n :: blanks, m, rest, rfl, List.forall_mem_cons.2 ⟨hblank, hblanks⟩, hm⟩
    | false =>
      rw [hblank, if_neg (by simp)] at h
      exact ⟨[], n, ns, rfl, by simp, h⟩

/-- Every chain comes to an end. -/
lemma exists_continues (ns : List Node) : ∃ bs rest, Continues ns bs rest := by
  induction hlength : ns.length using Nat.strongRecOn generalizing ns with
  | ind length ih =>
    cases hnext : Node.nextContinues ns with
    | false => exact ⟨[], ns, .stop hnext⟩
    | true =>
      obtain ⟨blanks, n, rest, rfl, hblanks, hn⟩ := exists_branch_of_nextContinues hnext
      cases helse : n.has "v-else" with
      | true => exact ⟨[n], rest, .last hblanks helse⟩
      | false =>
        rw [continuesChain_eq, helse, Bool.or_false] at hn
        obtain ⟨bs, after, h⟩ := ih rest.length (by simp [← hlength]; omega) rest rfl
        exact ⟨n :: bs, after, .further hblanks hn helse h⟩

/-- Texts at the front are a run, up to the first element. -/
lemma exists_run {n : Node} (hn : n.isElement = false) (ns : List Node) :
    ∃ texts rest, n :: ns = texts ++ rest ∧ texts ≠ [] ∧ (∀ m ∈ texts, m.isElement = false) ∧
      ∀ m ∈ rest.head?, m.isElement := by
  induction ns generalizing n with
  | nil => exact ⟨[n], [], rfl, by simp, by simpa using hn, by simp⟩
  | cons m ns ih =>
    cases hm : m.isElement with
    | true => exact ⟨[n], m :: ns, rfl, by simp, by simpa using hn, by simpa using hm⟩
    | false =>
      obtain ⟨texts, rest, heq, -, htexts, hrest⟩ := ih hm
      exact ⟨n :: texts, rest, by rw [heq]; rfl, by simp, List.forall_mem_cons.2 ⟨hn, htexts⟩, hrest⟩

/-- Siblings begin with a run of texts, a chain, a single element or a stray branch. What holds of
them is shown from what follows. -/
@[elab_as_elim]
lemma groupInduction {motive : List Node → Prop} (nil : motive [])
    (run : ∀ texts ns, texts ≠ [] → (∀ n ∈ texts, n.isElement = false) →
      (∀ n ∈ ns.head?, n.isElement) → motive ns → motive (texts ++ ns))
    (chain : ∀ n ns branches rest, n.has "v-if" → Continues ns branches rest → motive rest →
      motive (n :: ns))
    (single : ∀ n ns, n.isElement → n.has "v-if" = false → n.continuesChain = false → motive ns →
      motive (n :: ns))
    (stray : ∀ n ns, n.has "v-if" = false → n.continuesChain → motive (n :: ns))
    (ns : List Node) : motive ns := by
  induction hlength : ns.length using Nat.strongRecOn generalizing ns with
  | ind length ih =>
    subst hlength
    cases ns with
    | nil => exact nil
    | cons n ns =>
      cases helement : n.isElement with
      | false =>
        obtain ⟨texts, rest, heq, hne, htexts, hrest⟩ := exists_run helement ns
        have hshorter : rest.length < (n :: ns).length := by
          have := List.length_pos_iff.2 hne
          rw [heq, List.length_append]
          omega
        have hrun := run texts rest hne htexts hrest (ih _ hshorter rest rfl)
        rwa [← heq] at hrun
      | true =>
        cases hif : n.has "v-if" with
        | true =>
          obtain ⟨branches, rest, h⟩ := exists_continues ns
          have hshorter := Nat.lt_succ_of_le h.suffix.length_le
          exact chain n ns branches rest hif h (ih _ hshorter rest rfl)
        | false =>
          cases hchain : n.continuesChain with
          | true => exact stray n ns hif hchain
          | false => exact single n ns helement hif hchain (ih _ (Nat.lt_succ_self _) ns rfl)

end Unbundled.Template
