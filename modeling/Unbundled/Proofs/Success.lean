import Mathlib.Tactic.Lemma

/-!
# Steps that succeed

A sequence of steps succeeds exactly when each of them does, on the result of the one before.
-/

namespace Unbundled

variable {ε σ α β : Type}

lemma bind_eq_ok {x : Except ε α} {f : α → Except ε β} {b : β} :
    x >>= f = .ok b ↔ ∃ a, x = .ok a ∧ f a = .ok b := by
  cases x with
  | error e => simp [bind, Except.bind]
  | ok a => simp [bind, Except.bind]

lemma map_eq_ok {x : Except ε α} {f : α → β} {b : β} :
    x.map f = .ok b ↔ ∃ a, x = .ok a ∧ f a = b := by
  cases x with
  | error e => simp [Except.map]
  | ok a => simp [Except.map]

/-- A step on a state that succeeds hands its result and its state to the next one. -/
lemma run_bind_ok {x : ExceptT ε (StateM σ) α} {f : α → ExceptT ε (StateM σ) β} {a : α}
    {s s' : σ} (h : x.run.run s = (.ok a, s')) : (x >>= f).run.run s = (f a).run.run s' := by
  rw [ExceptT.run_bind, StateT.run_bind, h]
  rfl

lemma run_bind_eq_ok {x : ExceptT ε (StateM σ) α} {f : α → ExceptT ε (StateM σ) β} {b : β}
    {s s' : σ} : (x >>= f).run.run s = (.ok b, s') ↔
      ∃ a mid, x.run.run s = (.ok a, mid) ∧ (f a).run.run mid = (.ok b, s') := by
  constructor
  · intro h
    obtain ⟨r, mid, hx⟩ : ∃ r mid, x.run.run s = (r, mid) := ⟨_, _, rfl⟩
    cases r with
    | error e =>
      rw [ExceptT.run_bind, StateT.run_bind, hx] at h
      cases h
    | ok a => exact ⟨a, mid, hx, by rwa [run_bind_ok hx] at h⟩
  · rintro ⟨a, mid, hx, h⟩
    rw [run_bind_ok hx, h]

end Unbundled
