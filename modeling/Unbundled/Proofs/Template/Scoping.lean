import Unbundled.Proofs.Script.References
import Unbundled.Proofs.Success
import Unbundled.Template.Expression

/-!
# Expressions are scoped exactly

The spans of an ordinary expression nest, and its parts stand apart. So the free names that the
walk finds stand one behind the other, every insertion has a place of its own between two
characters, and the scoped text is the author's text with exactly those insertions.
-/

namespace Unbundled.Script

/-- The parts of an expression that have free names of their own. -/
def Node.parts : Node → List Node
  | .arrow _ _ _ body => [body]
  | n => n.operands?.getD []

/-- A place between two characters of the source, or at one of its ends. Places count octets from
the parenthesis that is put before the source. -/
def IsPlace (cs : List Char) (k : Nat) : Prop := ∃ as bs, cs = as ++ bs ∧ k = Utf8.size as + 1

lemma isPlace_iff (cs : List Char) (k : Nat) :
    IsPlace cs k ↔ ∃ n ∈ List.range (cs.length + 1), k = Utf8.size (cs.take n) + 1 := by
  constructor
  · rintro ⟨as, bs, rfl, rfl⟩
    have hlength : as.length < (as ++ bs).length + 1 := by
      rw [List.length_append]
      omega
    exact ⟨as.length, List.mem_range.2 hlength, by simp⟩
  · rintro ⟨n, -, rfl⟩
    exact ⟨cs.take n, cs.drop n, (List.take_append_drop n cs).symm, rfl⟩

instance (cs : List Char) (k : Nat) : Decidable (IsPlace cs k) :=
  decidable_of_iff _ (isPlace_iff cs k).symm

/-- The spans below an expression lie in the source, each inside the one around it, and what
stands side by side has something in between. -/
inductive Exact (cs : List Char) : Node → Prop
  | intro {n : Node} (lo : IsPlace cs n.lo) (hi : IsPlace cs n.hi)
      (inside : ∀ e ∈ n.parts, n.lo ≤ e.lo ∧ e.hi ≤ n.hi) (nonempty : n.lo < n.hi)
      (apart : n.parts.Pairwise fun a b => a.hi < b.lo) (parts : ∀ e ∈ n.parts, Exact cs e) :
      Exact cs n

/-- Where the text for a use goes: behind a shorthand property, before any other name. -/
def FreeUse.place (u : FreeUse) : Nat := if u.isShorthand then u.span.hi else u.span.lo

lemma parts_of_operands {n : Node} {es : List Node} (operands : n.operands? = some es) :
    n.parts = es := by
  cases n with
  | arrow => cases operands
  | _ => simp [Node.parts, operands]

lemma place_of_refers {cs : List Char} {n : Node} {ps : List Node} {u : FreeUse}
    (h : Refers n ps u) (hexact : Exact cs n) :
    n.lo ≤ u.place ∧ u.place ≤ n.hi ∧ IsPlace cs u.place := by
  induction h with
  | ident sp x =>
    obtain ⟨hlo, -, -, hne, -, -⟩ := hexact
    exact ⟨Nat.le_refl _, Nat.le_of_lt hne, hlo⟩
  | shorthand sp x =>
    obtain ⟨-, hhi, -, hne, -, -⟩ := hexact
    exact ⟨Nat.le_of_lt hne, Nat.le_refl _, hhi⟩
  | @compound n e es ps u operands he h ih =>
    obtain ⟨-, -, hinside, -, -, hparts⟩ := hexact
    rw [parts_of_operands operands] at hinside hparts
    obtain ⟨hlo, hhi, hplace⟩ := ih (hparts e he)
    have hspan := hinside e he
    exact ⟨Nat.le_trans hspan.1 hlo, Nat.le_trans hhi hspan.2, hplace⟩
  | @arrow sp isAsync ps qs body u h ih =>
    obtain ⟨-, -, hinside, -, -, hparts⟩ := hexact
    have hbody : body ∈ (Node.arrow sp isAsync ps body).parts := List.mem_singleton_self body
    obtain ⟨hlo, hhi, hplace⟩ := ih (hparts body hbody)
    have hspan := hinside body hbody
    exact ⟨Nat.le_trans hspan.1 hlo, Nat.le_trans hhi hspan.2, hplace⟩

lemma place_of_mem {cs : List Char} {n : Node} {bound : List String} {u : FreeUse}
    (hordinary : Ordinary n) (hexact : Exact cs n) (hu : u ∈ n.freeUses bound) :
    n.lo ≤ u.place ∧ u.place ≤ n.hi ∧ IsPlace cs u.place := by
  obtain ⟨ps, hrefers, -⟩ := (mem_freeUses_iff hordinary bound u).1 hu
  exact place_of_refers hrefers hexact

/-- The free uses stand one behind the other. -/
theorem places_increase {cs : List Char} {n : Node} (hordinary : Ordinary n)
    (hexact : Exact cs n) (bound : List String) :
    (n.freeUses bound).Pairwise fun u v => u.place < v.place := by
  induction hordinary generalizing bound with
  | ident sp x =>
    rw [freeUses_ident]
    split <;> simp
  | shorthand sp x =>
    rw [freeUses_shorthand]
    split <;> simp
  | @compound n es operands h ih =>
    obtain ⟨-, -, -, -, hapart, hparts⟩ := hexact
    rw [parts_of_operands operands] at hapart hparts
    rw [freeUses_compound operands h, List.pairwise_flatMap]
    refine ⟨fun e he => ih e he (hparts e he) bound,
      hapart.imp_of_mem fun ha hb hab u hu v hv => ?_⟩
    have hfirst := place_of_mem (h _ ha) (hparts _ ha) hu
    have hsecond := place_of_mem (h _ hb) (hparts _ hb) hv
    omega
  | arrow params h ih =>
    obtain ⟨-, -, -, -, -, hparts⟩ := hexact
    exact ih (hparts _ (List.mem_singleton_self _)) _

end Unbundled.Script

namespace Unbundled.Template

open Script (FreeUse Ordinary Exact IsFree IsPlace)

/-- A text with insertions made in it: each with the text before it, and the text behind them. -/
structure Edited where
  steps : List (List Char × Insertion)
  rest : List Char

namespace Edited

/-- The text with the insertions deleted. -/
def source (t : Edited) : List Char := t.steps.flatMap (·.1) ++ t.rest

/-- The text with the insertions made. -/
def result (t : Edited) : List Char :=
  t.steps.flatMap (fun (cs, i) => cs ++ i.text.toList) ++ t.rest

def insertions (t : Edited) : List Insertion := t.steps.map (·.2)

end Edited

/-- Each insertion is made at its offset in the text without the insertions. -/
def Placed : Nat → List (List Char × Insertion) → Prop
  | _, [] => True
  | lo, (cs, i) :: steps => i.offset = lo + Utf8.size cs ∧ Placed i.offset steps

/-- What has to be put in for a free name. Spans count from the parenthesis before the source. -/
inductive Needs : FreeUse → Insertion → Prop
  | name (lo hi : Nat) (x : String) : Needs ⟨⟨lo + 1, hi⟩, x, false⟩ ⟨lo, "_ctx."⟩
  | shorthand (lo hi : Nat) (x : String) : Needs ⟨⟨lo, hi + 1⟩, x, true⟩ ⟨hi, ": _ctx." ++ x⟩

/-! ## Making the insertions -/

lemma insertedAt_eq_nil {edits : List Insertion} {lo : Nat} (h : ∀ i ∈ edits, lo < i.offset) :
    insertedAt edits lo = [] := by
  have hnone : edits.filter (·.offset == lo) = [] := by
    rw [List.filter_eq_nil_iff]
    intro i hi
    have hlt := h i hi
    simp
    omega
  rw [insertedAt, hnone]
  rfl

/-- Where no insertion is due, the text stays. -/
lemma splice_append {edits : List Insertion} {lo : Nat} {as : List Char}
    (h : ∀ i ∈ edits, lo + Utf8.size as ≤ i.offset) (bs : List Char) :
    splice edits lo (as ++ bs) = as ++ splice edits (lo + Utf8.size as) bs := by
  induction as generalizing lo with
  | nil => rfl
  | cons c as ih =>
    have hc := c.utf8Size_pos
    rw [Utf8.size_cons, ← Nat.add_assoc] at h ⊢
    have hnone : insertedAt edits lo = [] := insertedAt_eq_nil fun i hi => by
      have hle := h i hi
      omega
    rw [List.cons_append, splice, hnone, ih h]
    rfl

lemma insertedAt_cons {i : Insertion} {edits : List Insertion} {lo : Nat} (h : i.offset ≠ lo) :
    insertedAt (i :: edits) lo = insertedAt edits lo := by
  rw [insertedAt, List.filter_cons_of_neg (by simpa using h)]
  rfl

/-- An insertion that lies behind is not made again. -/
lemma splice_behind {i : Insertion} {edits : List Insertion} {lo : Nat} (h : i.offset < lo)
    (cs : List Char) : splice (i :: edits) lo cs = splice edits lo cs := by
  induction cs generalizing lo with
  | nil => rw [splice, splice, insertedAt_cons (by omega)]
  | cons c cs ih => rw [splice, splice, insertedAt_cons (by omega), ih (by omega)]

lemma splice_here {i : Insertion} {edits : List Insertion} (h : ∀ j ∈ edits, i.offset < j.offset)
    (cs : List Char) :
    splice (i :: edits) i.offset cs = i.text.toList ++ splice edits i.offset cs := by
  have hothers := insertedAt_eq_nil h
  have hfirst : insertedAt (i :: edits) i.offset = i.text.toList := by
    rw [insertedAt, List.filter_cons_of_pos (by simp), List.reverse_cons, List.flatMap_append]
    rw [insertedAt] at hothers
    rw [hothers]
    simp
  cases cs with
  | nil => rw [splice, splice, hfirst, hothers, List.append_nil]
  | cons c cs =>
    have hc := c.utf8Size_pos
    rw [splice, splice, hfirst, hothers, splice_behind (by omega)]
    rfl

lemma place_behind {as bs cs ds : List Char} (htext : as ++ bs = cs ++ ds)
    (hk : Utf8.size as ≤ Utf8.size cs) : ∃ es, cs = as ++ es ∧ bs = es ++ ds := by
  rcases List.append_eq_append_iff.1 htext with ⟨es, hcs, hbs⟩ | ⟨es, has, hds⟩
  · exact ⟨es, hcs, hbs⟩
  · cases es with
    | nil => exact ⟨[], by simpa using has.symm, by simpa using hds.symm⟩
    | cons e es =>
      have he := e.utf8Size_pos
      rw [has, Utf8.size_append, Utf8.size_cons] at hk
      omega

/-- Insertions with increasing offsets between characters are all made. -/
lemma splice_placed {edits : List Insertion} {lo : Nat} {cs : List Char}
    (hincrease : edits.Pairwise fun i j => i.offset < j.offset)
    (hplace : ∀ i ∈ edits, ∃ as bs, cs = as ++ bs ∧ i.offset = lo + Utf8.size as) :
    ∃ t : Edited, t.source = cs ∧ t.insertions = edits ∧ Placed lo t.steps ∧
      splice edits lo cs = t.result := by
  induction edits generalizing lo cs with
  | nil =>
    have hsame : splice [] lo cs = cs := by
      have hnone : ∀ i ∈ ([] : List Insertion), lo + Utf8.size cs ≤ i.offset := by simp
      simpa [splice, insertedAt] using splice_append hnone []
    exact ⟨⟨[], cs⟩, rfl, rfl, trivial, hsame⟩
  | cons i edits ih =>
    obtain ⟨hfirst, hincrease⟩ := List.pairwise_cons.1 hincrease
    obtain ⟨as, bs, rfl, hoffset⟩ := hplace i (by simp)
    -- The later places count from the start of the text; the rest counts from the first insertion.
    have hrest : ∀ j ∈ edits, ∃ as' bs', bs = as' ++ bs' ∧ j.offset = i.offset + Utf8.size as' := by
      intro j hj
      obtain ⟨as', bs', htext, hj'⟩ := hplace j (by simp [hj])
      have hlt := hfirst j hj
      obtain ⟨es, rfl, hbs⟩ := place_behind htext (by omega)
      rw [Utf8.size_append] at hj'
      exact ⟨es, bs', hbs, by omega⟩
    obtain ⟨t, hsource, hinsertions, hplaced, hresult⟩ := ih hincrease hrest
    have hdue : ∀ j ∈ i :: edits, lo + Utf8.size as ≤ j.offset := by
      intro j hj
      rcases List.mem_cons.1 hj with rfl | hj
      · omega
      · have hlt := hfirst j hj
        omega
    refine ⟨⟨(as, i) :: t.steps, t.rest⟩, ?_, ?_, ⟨hoffset, hplaced⟩, ?_⟩
    · rw [← hsource]
      simp [Edited.source]
    · rw [← hinsertions]
      rfl
    · rw [splice_append hdue, ← hoffset, splice_here hfirst, hresult]
      simp [Edited.result]

/-! ## Scoped expressions -/

lemma needs_iff {u : FreeUse} (h : 1 ≤ u.place) (i : Insertion) :
    Needs u i ↔ insertion 1 u = i := by
  obtain ⟨⟨lo, hi⟩, x, isShorthand⟩ := u
  cases isShorthand with
  | false =>
    obtain ⟨k, rfl⟩ : ∃ k, lo = k + 1 := ⟨lo - 1, by simp [FreeUse.place] at h; omega⟩
    constructor
    · rintro ⟨⟩
      rfl
    · rintro rfl
      exact .name k hi x
  | true =>
    obtain ⟨k, rfl⟩ : ∃ k, hi = k + 1 := ⟨hi - 1, by simp [FreeUse.place] at h; omega⟩
    constructor
    · rintro ⟨⟩
      rfl
    · rintro rfl
      exact .shorthand lo k x

lemma insertion_offset (u : FreeUse) : (insertion 1 u).offset = u.place - 1 := by
  unfold insertion FreeUse.place
  split <;> rfl

/-- The scoped text of an ordinary expression is its own text with an insertion for each free name
in reference position, and with no other one. -/
theorem prefixedExpression_exact {scope : List String} {source : String} {sp : Script.Span}
    {e : Script.Node} (hparse : Script.parseExpression source = .ok (.paren sp e))
    (hordinary : Ordinary e) (hexact : Exact source.toList e) :
    ∃ t : Edited, prefixedExpression scope source = .ok (String.ofList t.result) ∧
      t.source = source.toList ∧ Placed 0 t.steps ∧
      t.insertions.Pairwise (fun i j => i.offset < j.offset) ∧
      ∀ i, i ∈ t.insertions ↔ ∃ u, IsFree (globals ++ scope) e u ∧ Needs u i := by
  have hplace (u : FreeUse) (hu : u ∈ e.freeUses (globals ++ scope)) :
      IsPlace source.toList u.place :=
    (Script.place_of_mem hordinary hexact hu).2.2
  have hincrease : ((e.freeUses (globals ++ scope)).map (insertion 1)).Pairwise
      fun i j => i.offset < j.offset := by
    rw [List.pairwise_map]
    apply (Script.places_increase hordinary hexact _).imp_of_mem
    intro u v hu hv huv
    obtain ⟨as, bs, -, has⟩ := hplace _ hu
    rw [insertion_offset, insertion_offset]
    omega
  have hbetween : ∀ i ∈ (e.freeUses (globals ++ scope)).map (insertion 1),
      ∃ as bs, source.toList = as ++ bs ∧ i.offset = 0 + Utf8.size as := by
    intro i hi
    obtain ⟨u, hu, rfl⟩ := List.mem_map.1 hi
    obtain ⟨as, bs, htext, has⟩ := hplace u hu
    exact ⟨as, bs, htext, by rw [insertion_offset]; omega⟩
  obtain ⟨t, hsource, hinsertions, hplaced, hresult⟩ := splice_placed hincrease hbetween
  refine ⟨t, ?_, hsource, hplaced, hinsertions ▸ hincrease, fun i => ?_⟩
  · rw [prefixedExpression, hparse, ← hresult]
    rfl
  · rw [hinsertions, List.mem_map]
    apply exists_congr
    intro u
    rw [← Script.mem_freeUses_iff hordinary]
    apply and_congr_right
    intro hu
    obtain ⟨as, bs, -, has⟩ := hplace u hu
    rw [needs_iff (by omega)]

/-- An arrow function that returns a sum of two names, with the spans it has in `x => x + a`. -/
def isArrowToSum : Script.Node → Bool
  | .paren _ (.arrow sp _ [.binding _ _] (.binary sq _ (.ident sx _) (.ident sa _))) =>
    sp = ⟨1, 11⟩ && sq = ⟨6, 11⟩ && sx = ⟨6, 7⟩ && sa = ⟨10, 11⟩
  | _ => false

/-- The parameter of an arrow function keeps its name, another name gets the prefix. -/
theorem prefixedExpression_exact_arrow :
    ∃ sp e, Script.parseExpression "x => x + a" = .ok (.paren sp e) ∧
      Ordinary e ∧ Exact "x => x + a".toList e ∧
      ∃ t : Edited, prefixedExpression [] "x => x + a" = .ok (String.ofList t.result) ∧
        t.source = "x => x + a".toList ∧ Placed 0 t.steps ∧
        t.insertions.Pairwise (fun i j => i.offset < j.offset) ∧
        ∀ i, i ∈ t.insertions ↔ ∃ u, IsFree (globals ++ []) e u ∧ Needs u i := by
  have hread : (Script.parseExpression "x => x + a").toOption.any isArrowToSum = true := by
    decide +kernel
  cases hparse : Script.parseExpression "x => x + a" with
  | error e => rw [hparse] at hread; cases hread
  | ok n =>
  rw [hparse] at hread
  change isArrowToSum n = true at hread
  unfold isArrowToSum at hread
  split at hread
  · rename_i sp sq isAsync sb x sc op sx y sa a
    obtain ⟨rfl, rfl, rfl, rfl⟩ : sq = ⟨1, 11⟩ ∧ sc = ⟨6, 11⟩ ∧ sx = ⟨6, 7⟩ ∧ sa = ⟨10, 11⟩ := by
      simpa [and_assoc] using hread
    have hname {lo hi : Nat} (z : String) (hlo : IsPlace "x => x + a".toList lo)
        (hhi : IsPlace "x => x + a".toList hi) (hlt : lo < hi) :
        Exact "x => x + a".toList (.ident ⟨lo, hi⟩ z) :=
      .intro hlo hhi (by simp [Script.Node.parts, Script.Node.operands?]) hlt .nil
        (by simp [Script.Node.parts, Script.Node.operands?])
    have hbody : Exact "x => x + a".toList
        (.binary ⟨6, 11⟩ op (.ident ⟨6, 7⟩ y) (.ident ⟨10, 11⟩ a)) := by
      have hparts : (Script.Node.binary ⟨6, 11⟩ op (.ident ⟨6, 7⟩ y) (.ident ⟨10, 11⟩ a)).parts =
          [.ident ⟨6, 7⟩ y, .ident ⟨10, 11⟩ a] := rfl
      refine .intro (show IsPlace _ 6 by decide) (show IsPlace _ 11 by decide) ?_
        (show 6 < 11 by decide) ?_ ?_
      · simp [hparts, Script.Node.lo, Script.Node.hi, Script.Node.span]
      · simp [hparts, Script.Node.lo, Script.Node.hi, Script.Node.span]
      · rw [hparts]
        simp only [List.forall_mem_cons]
        exact ⟨hname y (by decide) (by decide) (by decide),
          hname a (by decide) (by decide) (by decide), by simp⟩
    have hordinary : Ordinary (.arrow ⟨1, 11⟩ isAsync [.binding sb x]
        (.binary ⟨6, 11⟩ op (.ident ⟨6, 7⟩ y) (.ident ⟨10, 11⟩ a))) := by
      refine .arrow (by simpa using .binding sb x) (.compound rfl ?_)
      simp only [List.forall_mem_cons]
      exact ⟨.ident _ y, .ident _ a, by simp⟩
    have hexact : Exact "x => x + a".toList (.arrow ⟨1, 11⟩ isAsync [.binding sb x]
        (.binary ⟨6, 11⟩ op (.ident ⟨6, 7⟩ y) (.ident ⟨10, 11⟩ a))) := by
      refine .intro (show IsPlace _ 1 by decide) (show IsPlace _ 11 by decide) ?_
        (show 1 < 11 by decide) (List.pairwise_singleton _ _) ?_
      · simp [Script.Node.parts, Script.Node.lo, Script.Node.hi, Script.Node.span]
      · simpa [Script.Node.parts] using hbody
    exact ⟨_, _, rfl, hordinary, hexact, prefixedExpression_exact hparse hordinary hexact⟩
  · cases hread

end Unbundled.Template
