import Unbundled.Proofs.Template.Declarations
import Mathlib.Data.List.Nodup

/-!
# Constants of components

The constant of a component is named after its tag: letters and digits stay, and every other
character becomes a low line. So two tags share a constant exactly when they have the same letters
and digits in the same places. Tags of letters, digits and hyphens never do.
-/

namespace Unbundled.Template

/-- The two characters look the same in the name of a constant. -/
def SameInName (c d : Char) : Prop := c = d ∨ c.isAlphanum = false ∧ d.isAlphanum = false

instance (c d : Char) : Decidable (SameInName c d) := inferInstanceAs (Decidable (_ ∨ _))

lemma sameInName_iff {c d : Char} :
    SameInName c d ↔ (if c.isAlphanum then c else '_') = if d.isAlphanum then d else '_' := by
  have hline : '_'.isAlphanum = false := by decide
  have hstands {x : Char} (hx : x.isAlphanum = true) : x ≠ '_' := by
    rintro rfl
    rw [hline] at hx
    cases hx
  unfold SameInName
  by_cases hc : c.isAlphanum = true <;> by_cases hd : d.isAlphanum = true
  · simp [hc, hd]
  · simpa [hc, hd, hstands hc] using fun heq : c = d => hd (heq ▸ hc)
  · simpa [hc, hd, (hstands hd).symm] using fun heq : c = d => hc (heq ▸ hd)
  · simp [hc, hd]

/-- Two components share a constant when their tags agree in letters and digits. -/
theorem componentBinding_eq_iff {a b : String} :
    componentBinding a = componentBinding b ↔ List.Forall₂ SameInName a.toList b.toList := by
  rw [componentBinding, componentBinding, String.append_right_inj, String.ofList_inj,
    ← List.forall₂_eq_eq_eq, List.forall₂_map_left_iff, List.forall₂_map_right_iff]
  simp only [← sameInName_iff]

example : componentBinding "My-list" = componentBinding "My_list" :=
  componentBinding_eq_iff.2 (by decide)

/-- Tags of letters, digits and hyphens have constants of their own. -/
theorem eq_of_componentBinding_eq {a b : String}
    (ha : ∀ c ∈ a.toList, c.isAlphanum ∨ c = '-') (hb : ∀ c ∈ b.toList, c.isAlphanum ∨ c = '-')
    (h : componentBinding a = componentBinding b) : a = b := by
  have hsame {c d : Char} (hc : c.isAlphanum ∨ c = '-') (hd : d.isAlphanum ∨ d = '-')
      (hcd : SameInName c d) : c = d := by
    rcases hcd with rfl | ⟨hcn, hdn⟩
    · rfl
    · simp_all
  have hall := componentBinding_eq_iff.1 h
  rw [← String.toList_inj]
  generalize a.toList = cs at ha hall
  generalize b.toList = ds at hb hall
  induction hall with
  | nil => rfl
  | cons hcd _ ih =>
    obtain ⟨hc, hcs⟩ := List.forall_mem_cons.1 ha
    obtain ⟨hd, hds⟩ := List.forall_mem_cons.1 hb
    rw [hsame hc hd hcd, ih hcs hds]

lemma mem_rootComponents_iff_uses {roots : List Node} {rs : List Render}
    (hrs : Render.ofNodes roots = .ok rs) (tag : String) :
    tag ∈ rootComponents (rootOf rs) ↔ Uses tag roots := by
  obtain ⟨ss, hss, hmem⟩ := assemble_components hrs
  rw [mem_rootComponents, components_rootOf, hmem, mem_components_toPieces [] tag roots hss]

/-- No constant of a module is declared twice exactly when no two of the components that code is
generated for share one. -/
theorem nodup_constants_iff {roots : List Node} {rs : List Render}
    (hrs : Render.ofNodes roots = .ok rs) :
    ((rootComponents (rootOf rs)).map componentBinding).Nodup ↔
      ∀ a b, Uses a roots → Uses b roots → componentBinding a = componentBinding b → a = b := by
  have hnodup : (rootComponents (rootOf rs)).Nodup := by
    cases hroot : rootOf rs with
    | none => exact List.nodup_nil
    | some r => exact nodup_eraseDups _
  rw [List.nodup_map_iff_inj_on hnodup]
  simp only [mem_rootComponents_iff_uses hrs]
  exact ⟨fun h a b ha hb => h a ha b hb, fun h a ha b hb => h a b ha hb⟩

/-- Where all components have tags of letters, digits and hyphens, no constant is declared twice. -/
theorem nodup_constants {roots : List Node} {rs : List Render}
    (hrs : Render.ofNodes roots = .ok rs)
    (htags : ∀ tag, Uses tag roots → ∀ c ∈ tag.toList, c.isAlphanum ∨ c = '-') :
    ((rootComponents (rootOf rs)).map componentBinding).Nodup :=
  (nodup_constants_iff hrs).2 fun a b ha hb => eq_of_componentBinding_eq (htags a ha) (htags b hb)

end Unbundled.Template
