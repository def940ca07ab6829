import Unbundled.Proofs.Template.Stack

/-!
# What is noted down while code is generated

`Ensures pre g post` says how a part of the generator changes what the module has to declare. It is
about success alone: after an error there is no module. The stack plays no part, so the rules that
change it keep what is said inside.
-/

namespace Unbundled.Template

open Script (Diagnostic)

namespace Demands

variable {n : Demands} {hs hs' : List Helper} {tags tags' : List String}

@[simp] lemma add_nil : n.add [] [] = n := by simp [add]

lemma add_add : (n.add hs tags).add hs' tags' = n.add (hs ++ hs') (tags ++ tags') := by
  simp [add, Finset.union_assoc]

/-- The order in which helpers come up, and how often, makes no difference. -/
lemma add_congr (h : ∀ k, k ∈ hs ↔ k ∈ hs') : n.add hs tags = n.add hs' tags := by
  have hsame : hs.toFinset = hs'.toFinset := by
    ext k
    simp [h]
  rw [add, add, hsame]

lemma foldl_addComponent (seen tags : List String) :
    tags.foldl addComponent seen = seen ++ (tags.filter (· ∉ seen)).eraseDups := by
  induction tags generalizing seen with
  | nil => simp
  | cons tag tags ih =>
    rw [List.foldl_cons, ih, addComponent]
    by_cases h : tag ∈ seen
    · simp [h]
    · have hrest : tags.filter (· ∉ seen ++ [tag]) =
          (tags.filter (· ∉ seen)).filter fun t => !t == tag := by
        rw [List.filter_filter]
        congr! 2 with t
        by_cases ht : t = tag <;> simp [ht]
      rw [if_neg h, hrest, List.filter_cons_of_pos (by simpa using h), List.eraseDups_cons,
        List.append_assoc]
      rfl

end Demands

namespace Gen

variable {α β : Type}

/-- Where `g` begins with demands that `pre` allows and succeeds, it ends with demands that `post`
allows. -/
def Ensures (pre : Demands → Prop) (g : Gen α) (post : α → Demands → Prop) : Prop :=
  ∀ st a st', pre st.demands → g.run.run st = (.ok a, st') → post a st'.demands

namespace Ensures

variable {pre : Demands → Prop} {g : Gen α} {post post' : α → Demands → Prop} {f : α → Gen β}
  {last : β → Demands → Prop}

lemma bind (hg : Ensures pre g post) (hf : ∀ a, Ensures (post a) (f a) last) :
    Ensures pre (g >>= f) last := by
  intro st b st' hpre hrun
  obtain ⟨a, mid, ha, hb⟩ := run_bind_eq_ok.1 hrun
  exact hf a mid b st' (hg st a mid hpre ha) hb

lemma weaken (hg : Ensures pre g post) (h : ∀ a n, post a n → post' a n) : Ensures pre g post' :=
  fun st a st' hpre hrun => h a st'.demands (hg st a st' hpre hrun)

lemma from_eq (h : ∀ n, pre n → Ensures (· = n) g post) : Ensures pre g post :=
  fun st a st' hpre hrun => h st.demands hpre st a st' rfl hrun

lemma pure {a : α} (h : ∀ n, pre n → post a n) : Ensures pre (Pure.pure a) post := by
  rintro st b st' hpre ⟨⟩
  exact h st.demands hpre

/-- A result may refer to what has been noted down in any order. -/
lemma noted {n : Demands} {hs : List Helper} {tags : List String} {a : α} {of : α → List Helper}
    (h : ∀ k, k ∈ hs ↔ k ∈ of a) :
    Ensures (· = n.add hs tags) (Pure.pure a) fun a m => m = n.add (of a) tags :=
  pure fun _ hm => hm.trans (Demands.add_congr h)

lemma throw (e : Diagnostic) : Ensures pre (throw e : Gen α) post := by
  rintro st a st' - ⟨⟩

lemma of (r : Except Diagnostic α) : Ensures pre (ofResult r) fun _ => pre := by
  rintro st a st' hpre hrun
  cases hrun
  exact hpre

lemma ite {c : Prop} {_ : Decidable c} {g' : Gen α} (hthen : Ensures pre g post)
    (helse : Ensures pre g' post) : Ensures pre (if c then g else g') post := by
  split
  · exact hthen
  · exact helse

lemma map {f : α → β} (hg : Ensures pre g fun a => last (f a)) : Ensures pre (f <$> g) last := by
  rw [map_eq_pure_bind]
  exact hg.bind fun a => pure fun _ => id

lemma refer {n : Demands} {hs : List Helper} {tags : List String} (h : Helper) :
    Ensures (· = n.add hs tags) (refer h) fun _ m => m = n.add (hs ++ [h]) tags := by
  rintro st _ st' hst ⟨⟩
  simp only [hst, Demands.add_add, List.append_nil]

lemma refer_first {n : Demands} (h : Helper) :
    Ensures (· = n) (Gen.refer h) fun _ m => m = n.add [h] [] := by
  rintro st _ st' rfl ⟨⟩
  rfl

lemma resolve {n : Demands} {hs : List Helper} {tags : List String} (tag : String) :
    Ensures (· = n.add hs tags) (resolve tag) fun _ m => m = n.add hs (tags ++ [tag]) := by
  rintro st _ st' hst ⟨⟩
  simp only [hst, Demands.add_add, List.append_nil]

lemma scopeWith {f : List String → String → Except Diagnostic α} {site : Site} {source : String} :
    Ensures pre (scopeWith f site source) fun _ => pre := by
  intro st a st' hpre hrun
  obtain ⟨_, _, ⟨⟩, hrun⟩ := run_bind_eq_ok.1 hrun
  obtain ⟨_, _, ⟨⟩, hrun⟩ := run_bind_eq_ok.1 hrun
  obtain ⟨-, rfl⟩ := Prod.mk.inj hrun
  exact hpre

lemma compile {site : Site} {source : String} : Ensures pre (compile site source) fun _ => pre :=
  scopeWith

/-- How a source is scoped is noted nowhere, not even if that fails. -/
lemma outcome_scopeWith {f : List String → String → Except Diagnostic α} {site : Site}
    {source : String} : Ensures pre (outcome (Gen.scopeWith f site source)) fun _ => pre := by
  rintro st r st' hpre ⟨⟩
  exact hpre

lemma bracket (enter leave : List String → List String) (hg : Ensures pre g post) :
    Ensures pre (bracket enter leave g) post := by
  intro st a st' hpre hrun
  obtain ⟨_, _, ⟨⟩, hrun⟩ := run_bind_eq_ok.1 hrun
  obtain ⟨r, left, hr, hrun⟩ := run_bind_eq_ok.1 hrun
  obtain ⟨_, _, ⟨⟩, hrun⟩ := run_bind_eq_ok.1 hrun
  obtain ⟨rfl, rfl⟩ := Prod.mk.inj hrun
  refine hg ⟨enter st.stack, st.demands, st.log⟩ a left hpre ?_
  obtain ⟨hok, rfl⟩ := Prod.mk.inj hr
  exact Prod.ext (Except.ok.inj hok) rfl

lemma within {params : String} {names : List String} (hg : Ensures pre g post) :
    Ensures pre (within params names g) post := by
  intro st a st' hpre hrun
  obtain ⟨_, _, ⟨⟩, hrun⟩ := run_bind_eq_ok.1 hrun
  obtain ⟨_, _, ⟨⟩, hrun⟩ := run_bind_eq_ok.1 hrun
  exact bracket (· ++ names) (·.take st.stack.length) hg
    ⟨st.stack, st.demands, st.log ++ [.entered params names]⟩ a st' hpre hrun

lemma pushing {name : String} (hg : Ensures pre g post) : Ensures pre (pushing name g) post :=
  bracket _ _ hg

lemma foldlM {as : List α} {step : β → α → Gen β}
    (h : ∀ b, ∀ a ∈ as, Ensures (last b) (step b a) last) (b : β) :
    Ensures (last b) (as.foldlM step b) last := by
  induction as generalizing b with
  | nil => exact pure fun _ => id
  | cons a as ih =>
    rw [List.foldlM_cons]
    exact (h b a (by simp)).bind fun c => ih (fun d a ha => h d a (by simp [ha])) c

end Ensures

end Gen

end Unbundled.Template
