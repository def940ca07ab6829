import Unbundled.Proofs.Success
import Unbundled.Template.Piece
import Mathlib.Data.Finset.Lattice.Lemmas
import Mathlib.Data.List.Forall2

/-!
# A generator with one stack of names

The names that a template binds can also be kept on one stack, which grows at a loop or a handler
and shrinks behind it, whether the inside succeeds or fails. `Gen` is code generation on such a
stack, which also notes down what the module has to declare; `Computes` says that a part of it comes
to what is computed from the names in force alone, leaves the stack as it was, and does nothing
unexpected on the way.
-/

namespace Unbundled.Template

open Script (Diagnostic)

/-- What the author has written a source for. -/
inductive Role where
  | interpolation
  /-- The list that a loop runs over. -/
  | loopSource
  | condition
  | shown
  | binding
  /-- A key in brackets. -/
  | key
  | model
  | handler
  /-- Code of a handler that is run on the event. -/
  | inline
  deriving DecidableEq

/-- A place for a source: the elements around it from the outside, with the element whose
attribute it is as the last one. -/
structure Site where
  trail : List Node
  role : Role

inductive Event where
  /-- `source` is scoped with the names of the stack. -/
  | compiled (site : Site) (source : String) (stack : List String)
  /-- The names go on the stack for a loop with these parameters. -/
  | entered (params : String) (names : List String)

/-- What a module has to declare for the text that has been written so far. -/
structure Demands where
  helpers : Finset Helper := ∅
  /-- The tags of components, each once, in the order in which they came up. -/
  components : List String := []

namespace Demands

def addComponent (components : List String) (tag : String) : List String :=
  if tag ∈ components then components else components ++ [tag]

def add (n : Demands) (helpers : List Helper) (tags : List String) : Demands where
  helpers := n.helpers ∪ helpers.toFinset
  components := tags.foldl addComponent n.components

/-- The helpers in the order of the import. -/
def imports (n : Demands) : List Helper := Helper.all.filter (· ∈ n.helpers)

end Demands

structure Generator where
  stack : List String := []
  demands : Demands := {}
  log : List Event := []

/-- Code generation on a stack, which outlives errors. -/
abbrev Gen := ExceptT Diagnostic (StateM Generator)

namespace Gen

variable {α β : Type}

def record (e : Event) : Gen Unit := modify fun g => { g with log := g.log ++ [e] }

/-- Writes a helper, which the module has to import. -/
def refer (h : Helper) : Gen Unit :=
  modify fun g => { g with demands := g.demands.add [h] [] }

/-- Writes the constant of a component, which the module has to resolve. -/
def resolve (tag : String) : Gen Unit :=
  modify fun g => { g with demands := g.demands.add [] [tag] }

def ofResult (r : Except Diagnostic α) : Gen α := ExceptT.mk (pure r)

/-- Gives out how `g` ends, an error included. -/
def outcome (g : Gen α) : Gen (Except Diagnostic α) :=
  ExceptT.mk (g.run >>= fun r => pure (.ok r))

/-- Scopes `source` with the names of the stack. -/
def scopeWith (f : List String → String → Except Diagnostic α) (site : Site) (source : String) :
    Gen α := do
  let stack := (← get).stack
  record (.compiled site source stack)
  ofResult (f stack source)

def compile (site : Site) (source : String) : Gen String := scopeWith expression site source

/-- Runs `body` between two changes of the stack; the second one is made whatever has happened. -/
def bracket (enter leave : List String → List String) (body : Gen α) : Gen α := do
  modify fun g => { g with stack := enter g.stack }
  let result ← outcome body
  modify fun g => { g with stack := leave g.stack }
  ofResult result

/-- Runs `body`, the inside of a loop, with `names` on the stack, which is then cut down to what it
was. -/
def within (params : String) (names : List String) (body : Gen α) : Gen α := do
  record (.entered params names)
  let depth := (← get).stack.length
  bracket (· ++ names) (·.take depth) body

/-- Runs `body` with one more name on the stack, which is taken off again. -/
def pushing (name : String) (body : Gen α) : Gen α :=
  bracket (· ++ [name]) (·.dropLast) body

/-- From the stack `s`, `g` comes to `r` and leaves the stack at `s`, on success and on error;
what it records on the way are events `P`. -/
def Computes (g : Gen α) (s : List String) (r : Except Diagnostic α) (P : Event → Prop) : Prop :=
  ∀ demands log, ∃ demands' new,
    g.run.run ⟨s, demands, log⟩ = (r, ⟨s, demands', log ++ new⟩) ∧ ∀ e ∈ new, P e

/-- The stack is the same before and after, on success and on error. -/
def Restores (g : Gen α) : Prop := ∀ s, (g.run.run s).2.stack = s.stack

namespace Computes

variable {g : Gen α} {f : α → Gen β} {s : List String} {r : Except Diagnostic α}
  {k : α → Except Diagnostic β} {P : Event → Prop}

lemma of (r : Except Diagnostic α) : Computes (ofResult r) s r P :=
  fun demands log => ⟨demands, [], by simp [ofResult]; rfl, by simp⟩

lemma pure (a : α) : Computes (Pure.pure a) s (.ok a) P := of (.ok a)

lemma throw (e : Diagnostic) : Computes (throw e : Gen α) s (.error e) P := of (.error e)

lemma bind (hg : Computes g s r P) (hf : ∀ a, r = .ok a → Computes (f a) s (k a) P) :
    Computes (g >>= f) s (r >>= k) P := by
  intro demands log
  obtain ⟨demands', new, hrun, hnew⟩ := hg demands log
  cases r with
  | error e =>
    refine ⟨demands', new, ?_, hnew⟩
    rw [ExceptT.run_bind, StateT.run_bind, hrun]
    rfl
  | ok a =>
    obtain ⟨last, more, hmore, hall⟩ := hf a rfl demands' (log ++ new)
    refine ⟨last, new ++ more, ?_, fun e he => ?_⟩
    · rw [run_bind_ok hrun, hmore, List.append_assoc]
      rfl
    · rcases List.mem_append.1 he with he | he
      · exact hnew e he
      · exact hall e he

lemma bind_ok {a : α} {r' : Except Diagnostic β} (hg : Computes g s (.ok a) P)
    (hf : Computes (f a) s r' P) : Computes (g >>= f) s r' P :=
  bind (k := fun _ => r') hg fun b hb => by
    cases hb
    exact hf

lemma bind_error {e : Diagnostic} (hg : Computes g s (.error e) P) :
    Computes (g >>= f) s (.error e) P :=
  bind (k := fun _ => .error e) hg fun _ ha => by cases ha

lemma ite {c : Prop} {_ : Decidable c} {g' : Gen α} {r' : Except Diagnostic α}
    (hthen : c → Computes g s r P) (helse : ¬ c → Computes g' s r' P) :
    Computes (if c then g else g') s (if c then r else r') P := by
  by_cases hc : c
  · rw [if_pos hc, if_pos hc]
    exact hthen hc
  · rw [if_neg hc, if_neg hc]
    exact helse hc

lemma map (f : α → β) (hg : Computes g s r P) : Computes (f <$> g) s (r.map f) P := by
  intro demands log
  obtain ⟨demands', new, hrun, hnew⟩ := hg demands log
  refine ⟨demands', new, ?_, hnew⟩
  rw [ExceptT.run_map, StateT.run_map, hrun]
  rfl

lemma outcome (hg : Computes g s r P) : Computes (outcome g) s (.ok r) P := by
  intro demands log
  obtain ⟨demands', new, hrun, hnew⟩ := hg demands log
  refine ⟨demands', new, ?_, hnew⟩
  simp only [Gen.outcome, ExceptT.run_mk, StateT.run_bind, hrun]
  rfl

lemma record {e : Event} (h : P e) : Computes (record e) s (.ok ()) P :=
  fun demands _ => ⟨demands, [e], rfl, by simpa using h⟩

/-- What is noted down neither looks at the stack nor changes it. -/
lemma note (f : Demands → Demands) :
    Computes (modify fun g => { g with demands := f g.demands } : Gen Unit) s (.ok ()) P :=
  fun demands log => ⟨f demands, [], by rw [List.append_nil]; rfl, by simp⟩

lemma refer (h : Helper) : Computes (refer h) s (.ok ()) P := note (·.add [h] [])

lemma resolve (tag : String) : Computes (resolve tag) s (.ok ()) P :=
  note (·.add [] [tag])

lemma scopeWith {f : List String → String → Except Diagnostic α} {site : Site} {source : String}
    (h : P (.compiled site source s)) : Computes (scopeWith f site source) s (f s source) P :=
  fun demands _ => ⟨demands, [.compiled site source s], rfl, by simpa using h⟩

lemma compile {site : Site} {source : String} (h : P (.compiled site source s)) :
    Computes (compile site source) s (expression s source) P :=
  scopeWith h

lemma bracket (enter leave : List String → List String) (hg : Computes g (enter s) r P)
    (hleave : leave (enter s) = s) : Computes (bracket enter leave g) s r P := by
  intro demands log
  obtain ⟨demands', new, hrun, hnew⟩ := hg.outcome demands log
  refine ⟨demands', new, ?_, hnew⟩
  have hopen : (modify fun g => { g with stack := enter g.stack } : Gen Unit).run.run
      ⟨s, demands, log⟩ = (.ok (), ⟨enter s, demands, log⟩) := rfl
  have hclose (demands : Demands) (log : List Event) :
      (modify fun g => { g with stack := leave g.stack } : Gen Unit).run.run
        ⟨enter s, demands, log⟩ = (.ok (), ⟨leave (enter s), demands, log⟩) := rfl
  rw [Gen.bracket, run_bind_ok hopen, run_bind_ok hrun, run_bind_ok (hclose _ _), hleave]
  rfl

lemma within {params : String} {names : List String} (hentered : P (.entered params names))
    (hg : Computes g (s ++ names) r P) : Computes (within params names g) s r P :=
  bind_ok (record hentered) (bracket (· ++ names) (·.take s.length) hg List.take_left)

lemma pushing {name : String} (hg : Computes g (s ++ [name]) r P) :
    Computes (pushing name g) s r P :=
  bracket (· ++ [name]) (·.dropLast) hg List.dropLast_concat

lemma foldlM {as : List α} {step : β → α → Gen β} {next : β → α → Except Diagnostic β}
    (h : ∀ b, ∀ a ∈ as, Computes (step b a) s (next b a) P) (b : β) :
    Computes (as.foldlM step b) s (as.foldlM next b) P := by
  induction as generalizing b with
  | nil => exact pure b
  | cons a as ih =>
    rw [List.foldlM_cons, List.foldlM_cons]
    exact bind (h b a (by simp)) fun c _ => ih (fun d a ha => h d a (by simp [ha])) c

lemma mapM {gs : List (Gen α)} {rs : List (Except Diagnostic α)}
    (h : List.Forall₂ (fun g r => Computes g s r P) gs rs) :
    Computes (gs.mapM id) s (rs.mapM id) P := by
  induction h with
  | nil => exact pure []
  | cons hg _ ih =>
    rw [List.mapM_cons, List.mapM_cons]
    exact bind hg fun a _ => bind ih fun as _ => pure (a :: as)

end Computes

lemma Restores.of_computes {g : Gen α} {r : List String → Except Diagnostic α}
    (h : ∀ s, Computes g s (r s) fun _ => True) : g.Restores := by
  rintro ⟨s, demands, log⟩
  obtain ⟨demands', new, hrun, -⟩ := h s demands log
  rw [hrun]

end Gen

end Unbundled.Template
