import Unbundled.Component.Block
import Unbundled.Proofs.Template.StartTag

/-!
# Where a template ends

The content of a template may hold templates of its own. `TemplateContent` tells how such content
is written. Reading it opens and closes the same number of templates, so that the template around
it ends behind it and nowhere before.
-/

namespace Unbundled.Component

open Markup (Attribute isNameEnd isQuote tagEnd?)
open Template (WritesAttributes head_written isAttributeName isNameEnd_of_blank)
open Text (dropPrefix? dropPrefix?_append dropPrefix?_eq_none isMarkupBlank)

/-- What the tag of a template begins with. -/
def openingMark : List Char := ['<', 't', 'e', 'm', 'p', 'l', 'a', 't', 'e']

/-- The end tag of a template. -/
def closingMark : List Char := ['<', '/', 't', 'e', 'm', 'p', 'l', 'a', 't', 'e', '>']

/-- Text in which no template begins or ends. -/
def IsMarkFree (cs : List Char) : Prop := ¬ openingMark <:+: cs ∧ ¬ closingMark <:+: cs

/-- `cs` is a way to write the attributes of an inner template. Their names are among `names`. -/
structure InnerAttributes (names : String → Prop) (as : List Attribute) (cs : List Char) :
    Prop where
  writes : WritesAttributes as cs
  named : ∀ a ∈ as, isAttributeName a.name
  admitted : ∀ a ∈ as, names a.name
  values : ∀ a ∈ as, ∀ v, a.value? = some v → IsMarkFree v.toList
  noFormFeed : cs.head? ≠ some '\x0c'

/-- `cs` is a way to write the content of a template: text, and between two texts an inner
template, which is closed by an end tag or by a slash. -/
inductive TemplateContent (names : String → Prop) : List Char → Prop
  | text {cs : List Char} (free : IsMarkFree cs) : TemplateContent names cs
  | inner {cs attributes content rest : List Char} {as : List Attribute} (free : IsMarkFree cs)
      (hattributes : InnerAttributes names as attributes)
      (hcontent : TemplateContent names content) (hrest : TemplateContent names rest) :
      TemplateContent names
        (cs ++ (openingMark ++ (attributes ++ '>' :: (content ++ (closingMark ++ rest)))))
  | closed {cs attributes rest : List Char} {as : List Attribute} (free : IsMarkFree cs)
      (hattributes : InnerAttributes names as attributes)
      (hrest : TemplateContent names rest) :
      TemplateContent names (cs ++ (openingMark ++ (attributes ++ '/' :: '>' :: rest)))

/-! ## Stretches without templates -/

/-- Where `rest` follows, as many templates are open behind `cs` as before it. -/
def Passes (cs rest : List Char) : Prop :=
  ∀ depth before,
    templateEndFrom? depth before (cs ++ rest) = templateEndFrom? depth (cs.reverse ++ before) rest

lemma passes_nil (rest : List Char) : Passes [] rest := fun _ _ => rfl

lemma Passes.append {cs ds rest : List Char} (h₁ : Passes cs (ds ++ rest)) (h₂ : Passes ds rest) :
    Passes (cs ++ ds) rest := by
  intro depth before
  rw [List.append_assoc, h₁, h₂, List.reverse_append, List.append_assoc]

/-- A stretch passes when no `<` in it begins the tag of a template. -/
lemma passes_of_forall {cs rest : List Char}
    (h : ∀ xs ys, cs = xs ++ '<' :: ys → ¬ closingMark.tail <+: ys ++ rest ∧
      opensTemplate (ys ++ rest) = false) : Passes cs rest := by
  induction cs with
  | nil => exact passes_nil rest
  | cons c cs ih =>
    have hlater : Passes cs rest := ih fun xs ys hcs => h (c :: xs) ys (by rw [hcs]; rfl)
    intro depth before
    have hstep : templateEndFrom? depth before (c :: (cs ++ rest)) =
        templateEndFrom? depth (c :: before) (cs ++ rest) := by
      rw [templateEndFrom?]
      by_cases hc : c = '<'
      · subst hc
        obtain ⟨hclosing, hopening⟩ := h [] cs rfl
        have hnone := dropPrefix?_eq_none hclosing
        rw [closingMark, List.tail_cons] at hnone
        rw [if_pos rfl, hnone, hopening]
        rfl
      · rw [if_neg hc]
    rw [List.cons_append, hstep, hlater]
    simp

lemma passes_plain {cs : List Char} (h : '<' ∉ cs) (rest : List Char) : Passes cs rest := by
  apply passes_of_forall
  intro xs ys hcs
  exact absurd (by simp [hcs]) h

lemma opensTemplate_eq_false {cs : List Char} (h : ¬ openingMark.tail <+: cs) :
    opensTemplate cs = false := by
  have hnone := dropPrefix?_eq_none h
  rw [openingMark, List.tail_cons] at hnone
  rw [opensTemplate, hnone]

lemma not_opens_behind {cs xs ys rest : List Char} {c : Char} (h : ¬ openingMark <:+: cs)
    (hcs : cs = xs ++ '<' :: ys) (hc : c ∉ openingMark.tail) :
    opensTemplate (ys ++ c :: rest) = false := by
  apply opensTemplate_eq_false
  intro hstart
  obtain ⟨zs, hzs⟩ := Text.prefix_of_stop hstart hc
  exact h ⟨xs, zs, by simp [hcs, ← hzs, openingMark]⟩

/-- Free text passes in front of a character that is in no tag of a template. -/
lemma passes_free {cs rest : List Char} {c : Char} (free : IsMarkFree cs)
    (hc : c ∉ closingMark.tail) : Passes cs (c :: rest) := by
  have hsub : openingMark.tail ⊆ closingMark.tail := by decide
  have hopening : c ∉ openingMark.tail := fun hmem => hc (hsub hmem)
  apply passes_of_forall
  intro xs ys hcs
  refine ⟨fun hstart => ?_, not_opens_behind free.1 hcs hopening⟩
  obtain ⟨zs, hzs⟩ := Text.prefix_of_stop hstart hc
  exact free.2 ⟨xs, zs, by simp [hcs, ← hzs, closingMark]⟩

/-! ## Attributes -/

/-- What may follow the name of an attribute. -/
def FollowsName (cs : List Char) : Prop :=
  (∃ c rest, cs = c :: rest ∧ isNameEnd c) ∨ (∃ rest, cs = '>' :: rest) ∨
    ∃ rest, cs = '/' :: '>' :: rest

/-- A name has no slash, so that no end tag reaches into it. -/
lemma passes_name {name : String} {rest : List Char} {c : Char} (hname : isAttributeName name)
    (free : ¬ openingMark <:+: name.toList) (hc : c ∉ openingMark.tail)
    (hend : ¬ closingMark.tail <+: c :: rest) : Passes name.toList (c :: rest) := by
  apply passes_of_forall
  intro xs ys hcs
  refine ⟨fun hstart => ?_, not_opens_behind free hcs hc⟩
  cases ys with
  | nil => exact hend hstart
  | cons y ys =>
    have hslash : '/' = y := by
      rw [closingMark, List.tail_cons, List.cons_append, List.cons_prefix_cons] at hstart
      exact hstart.1
    obtain ⟨-, -, -, hnot, -⟩ := (Template.isAttributeName_iff hname).2 y (by simp [hcs])
    exact hnot hslash.symm

lemma nameEnd_not_mem {c : Char} (h : isNameEnd c) :
    c ∉ closingMark.tail ∧ c ∉ openingMark.tail ∧ c ≠ '<' := by
  simp only [isNameEnd, isMarkupBlank, Bool.or_eq_true, decide_eq_true_eq] at h
  rcases h with ((((rfl | rfl) | rfl) | rfl) | rfl) | rfl <;> decide

lemma quote_not_mem_mark {q : Char} (h : isQuote q) : q ∉ closingMark.tail ∧ q ≠ '<' := by
  simp only [isQuote, Bool.or_eq_true, decide_eq_true_eq] at h
  rcases h with rfl | rfl <;> decide

lemma passes_blanks {ws : List Char} (blanks : ws.all isMarkupBlank) (rest : List Char) :
    Passes ws rest := by
  apply passes_plain
  intro hmem
  have hblank := List.all_eq_true.1 blanks _ hmem
  exact (nameEnd_not_mem (isNameEnd_of_blank hblank)).2.2 rfl

lemma followsName_written {as : List Attribute} {cs rest : List Char}
    (h : WritesAttributes as cs) (hrest : FollowsName rest) : FollowsName (cs ++ rest) := by
  cases hcs : cs with
  | nil => exact hrest
  | cons c cs' =>
    have hblank := head_written h c (by rw [hcs]; rfl)
    exact .inl ⟨c, cs' ++ rest, rfl, isNameEnd_of_blank hblank⟩

lemma passes_named {name : String} {rest : List Char} (hname : isAttributeName name)
    (free : ¬ openingMark <:+: name.toList) (hrest : FollowsName rest) :
    Passes name.toList rest := by
  obtain ⟨c, rest, rfl, hnameEnd⟩ | ⟨rest, rfl⟩ | ⟨rest, rfl⟩ := hrest
  · obtain ⟨hclosing, hopening, -⟩ := nameEnd_not_mem hnameEnd
    apply passes_name hname free hopening
    intro hstart
    rw [closingMark, List.tail_cons, List.cons_prefix_cons] at hstart
    exact hclosing (by simp [← hstart.1, closingMark])
  · exact passes_name hname free (by decide) (by simp [closingMark])
  · exact passes_name hname free (by decide) (by simp [closingMark])

/-- Attributes pass when no tag of a template is in one of their names or values. -/
lemma passes_attributes {as : List Attribute} {cs rest : List Char} (h : WritesAttributes as cs)
    (named : ∀ a ∈ as, isAttributeName a.name)
    (names : ∀ a ∈ as, ¬ openingMark <:+: a.name.toList)
    (values : ∀ a ∈ as, ∀ v, a.value? = some v → IsMarkFree v.toList)
    (hrest : FollowsName rest) : Passes cs rest := by
  induction h with
  | done blanks => exact passes_blanks blanks rest
  | @bare ws cs name as hws blanks h ih =>
    obtain ⟨hname, hnamed⟩ := List.forall_mem_cons.1 named
    obtain ⟨hfree, hnames⟩ := List.forall_mem_cons.1 names
    have hlater := ih hnamed hnames fun a ha => values a (List.mem_cons_of_mem _ ha)
    have hend := followsName_written h hrest
    exact ((passes_blanks blanks _).append (passes_named hname hfree hend)).append hlater
  | @valued ws before after cs name value q as hws blanks hbefore hafter quote hvalue h ih =>
    obtain ⟨hname, hnamed⟩ := List.forall_mem_cons.1 named
    obtain ⟨hfree, hnames⟩ := List.forall_mem_cons.1 names
    have hlater := ih hnamed hnames fun a ha => values a (List.mem_cons_of_mem _ ha)
    obtain ⟨hmark, hlt⟩ := quote_not_mem_mark quote
    have hquote (rest : List Char) : Passes [q] rest := passes_plain (by simpa using hlt.symm) rest
    have hvalueFree := values ⟨name, some value⟩ (by simp) value rfl
    have hend : FollowsName
        (before ++ '=' :: (after ++ q :: (value.toList ++ q :: cs)) ++ rest) := by
      by_cases hnil : before = []
      · subst hnil
        exact .inl ⟨'=', _, rfl, rfl⟩
      · obtain ⟨b, bs, rfl⟩ := List.exists_cons_of_ne_nil hnil
        have hblank := List.all_eq_true.1 hbefore b (by simp)
        exact .inl ⟨b, _, rfl, isNameEnd_of_blank hblank⟩
    have hbehind : Passes (q :: (value.toList ++ q :: cs)) rest :=
      (hquote _).append ((passes_free hvalueFree hmark).append ((hquote _).append hlater))
    have hequals : Passes ['='] (after ++ q :: (value.toList ++ q :: cs) ++ rest) :=
      passes_plain (by simp) _
    have hassigned := (passes_blanks hbefore _).append
      (hequals.append ((passes_blanks hafter _).append hbehind))
    exact ((passes_blanks blanks _).append (passes_named hname hfree hend)).append hassigned

/-! ## Inner templates -/

/-- The name of an attribute that does not look like the tag of a template. -/
def IsFreeName (name : String) : Prop := ¬ openingMark <:+: name.toList

lemma InnerAttributes.passes {as : List Attribute} {cs rest : List Char}
    (h : InnerAttributes IsFreeName as cs) (hrest : FollowsName rest) : Passes cs rest :=
  passes_attributes h.writes h.named h.admitted h.values hrest

/-- Whether the tag of a template has to be closed depends on the slash at its end. -/
lemma opensTemplate_tag {c : Char} {cs inside rest : List Char}
    (hc : c = ' ' ∨ c = '\t' ∨ c = '\n' ∨ c = '\r' ∨ c = '>' ∨ c = '/')
    (h : tagEnd? (c :: cs) = some (inside, rest)) :
    opensTemplate (openingMark.tail ++ c :: cs) = decide (inside.getLast? ≠ some '/') := by
  have hdrop := dropPrefix?_append openingMark.tail (c :: cs)
  rw [openingMark, List.tail_cons] at hdrop ⊢
  have hname : (c = ' ' || c = '\t' || c = '\n' || c = '\r' || c = '>' || c = '/') = true := by
    simpa [or_assoc] using hc
  rw [opensTemplate, hdrop]
  dsimp only
  rw [hname, h]
  rfl

/-- The name of an inner template is followed by a blank, unless the tag ends there. -/
lemma InnerAttributes.begins {names : String → Prop} {as : List Attribute} {cs : List Char}
    (h : InnerAttributes names as cs) {c : Char} (hc : c = '>' ∨ c = '/') (rest : List Char) :
    ∃ d ds, cs ++ c :: rest = d :: ds ∧
      (d = ' ' ∨ d = '\t' ∨ d = '\n' ∨ d = '\r' ∨ d = '>' ∨ d = '/') := by
  cases hcs : cs with
  | nil => exact ⟨c, rest, rfl, by rcases hc with rfl | rfl <;> simp⟩
  | cons d ds =>
    have hblank := head_written h.writes d (by rw [hcs]; rfl)
    have hfeed : d ≠ '\x0c' := by
      rintro rfl
      exact h.noFormFeed (by rw [hcs]; rfl)
    refine ⟨d, ds ++ c :: rest, rfl, ?_⟩
    simp only [isMarkupBlank, Bool.or_eq_true, decide_eq_true_eq] at hblank
    rcases hblank with (((rfl | rfl) | rfl) | hd) | rfl
    · simp
    · simp
    · simp
    · exact absurd hd hfeed
    · simp

lemma InnerAttributes.opens {names : String → Prop} {as : List Attribute} {cs : List Char}
    (h : InnerAttributes names as cs) (rest : List Char) :
    opensTemplate (openingMark.tail ++ (cs ++ '>' :: rest)) = true := by
  have hend := Template.tagEnd?_written h.writes h.named rest
  obtain ⟨d, ds, hcs, hd⟩ := h.begins (.inl rfl) rest
  rw [hcs] at hend ⊢
  rw [opensTemplate_tag hd hend, decide_eq_true_iff]
  exact Template.getLast?_written h.writes h.named

lemma InnerAttributes.closes {names : String → Prop} {as : List Attribute} {cs : List Char}
    (h : InnerAttributes names as cs) (rest : List Char) :
    opensTemplate (openingMark.tail ++ (cs ++ '/' :: '>' :: rest)) = false := by
  have hend := Template.tagEnd?_closed h.writes h.named rest
  obtain ⟨d, ds, hcs, hd⟩ := h.begins (.inr rfl) ('>' :: rest)
  rw [hcs] at hend ⊢
  rw [opensTemplate_tag hd hend, List.getLast?_concat]
  rfl

lemma templateEndFrom?_opening (depth : Nat) (before cs : List Char) :
    templateEndFrom? depth before (openingMark ++ cs) =
      templateEndFrom? (if opensTemplate (openingMark.tail ++ cs) then depth + 1 else depth)
        (openingMark.reverse ++ before) cs := by
  have hname : Passes openingMark.tail cs := passes_plain (by decide) cs
  have hstep : templateEndFrom? depth before ('<' :: (openingMark.tail ++ cs)) =
      templateEndFrom? (if opensTemplate (openingMark.tail ++ cs) then depth + 1 else depth)
        ('<' :: before) (openingMark.tail ++ cs) := by
    rw [templateEndFrom?, if_pos rfl]
    rfl
  have hmark : openingMark ++ cs = '<' :: (openingMark.tail ++ cs) := rfl
  rw [hmark, hstep, hname]
  rfl

lemma templateEndFrom?_inner (depth : Nat) (before cs : List Char) :
    templateEndFrom? (depth + 1) before (closingMark ++ cs) =
      templateEndFrom? depth (closingMark.reverse ++ before) cs := by
  have hname : Passes closingMark.tail cs := passes_plain (by decide) cs
  have hdrop := dropPrefix?_append closingMark.tail cs
  have hmark : closingMark ++ cs = '<' :: (closingMark.tail ++ cs) := rfl
  have hstep : templateEndFrom? (depth + 1) before ('<' :: (closingMark.tail ++ cs)) =
      templateEndFrom? depth ('<' :: before) (closingMark.tail ++ cs) := by
    rw [templateEndFrom?, if_pos rfl]
    rw [closingMark, List.tail_cons] at hdrop ⊢
    rw [hdrop]
  rw [hmark, hstep, hname]
  rfl

lemma templateEndFrom?_outer (before cs : List Char) :
    templateEndFrom? 0 before (closingMark ++ cs) = some (before.reverse, cs) := by
  have hdrop := dropPrefix?_append closingMark.tail cs
  have hmark : closingMark ++ cs = '<' :: (closingMark.tail ++ cs) := rfl
  rw [hmark, templateEndFrom?, if_pos rfl]
  rw [closingMark, List.tail_cons] at hdrop ⊢
  rw [hdrop]

/-- The content of a template passes in front of an end tag. -/
theorem passes_content {content : List Char} (h : TemplateContent IsFreeName content)
    (rest : List Char) : Passes content (closingMark ++ rest) := by
  have hlt : '<' ∉ closingMark.tail := by decide
  have hgt (rest : List Char) : Passes ['>'] rest := passes_plain (by simp) rest
  induction h generalizing rest with
  | text free => exact passes_free free hlt
  | @inner cs attributes content tail as free hattributes hcontent htail ih ihTail =>
    -- the inner template is one deeper between its tags, and its content passes there
    have hmark : Passes (openingMark ++ (attributes ++ '>' :: (content ++ (closingMark ++ tail))))
        (closingMark ++ rest) := by
      intro depth before
      have hinside : Passes attributes ('>' :: (content ++ (closingMark ++ (tail ++
          (closingMark ++ rest))))) := hattributes.passes (.inr (.inl ⟨_, rfl⟩))
      simp only [List.append_assoc, List.cons_append]
      rw [templateEndFrom?_opening, hattributes.opens, if_pos rfl, hinside, ← List.singleton_append,
        hgt, ih, templateEndFrom?_inner, ihTail]
      simp
    exact (passes_free free hlt).append hmark
  | @closed cs attributes tail as free hattributes htail ihTail =>
    have hmark : Passes (openingMark ++ (attributes ++ '/' :: '>' :: tail))
        (closingMark ++ rest) := by
      intro depth before
      have hinside : Passes attributes ('/' :: '>' :: (tail ++ (closingMark ++ rest))) :=
        hattributes.passes (.inr (.inr ⟨_, rfl⟩))
      have hslash : Passes ['/', '>'] (tail ++ (closingMark ++ rest)) := passes_plain (by simp) _
      have hbehind := hslash.append (ihTail rest)
      simp only [List.append_assoc, List.cons_append]
      rw [templateEndFrom?_opening, hattributes.closes, if_neg (by simp), hinside]
      simpa using hbehind depth (attributes.reverse ++ (openingMark.reverse ++ before))
    exact (passes_free free hlt).append hmark

end Unbundled.Component
