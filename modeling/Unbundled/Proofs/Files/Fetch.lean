import Unbundled.Files.Lookup
import Unbundled.Proofs.Success

/-!
# What a computation looks at

Beside its value, a computation leaves the list of the paths it looked at on the way. Work looks at
nothing. It has a result of its own when it ends within its budget, and is a failure otherwise.
-/

namespace Unbundled

/-- Work that goes like this ends within the budget, with a result. -/
structure Course.Ends (c : Course) (budgetMs : Nat) : Prop where
  inTime : c.micros ≤ budgetMs * 1000
  whole : c.broken? = none

lemma Course.ends_iff {c : Course} {budgetMs : Nat} :
    c.Ends budgetMs ↔ c.micros ≤ budgetMs * 1000 ∧ c.broken? = none :=
  ⟨fun h => ⟨h.inTime, h.whole⟩, fun h => ⟨h.1, h.2⟩⟩

namespace Lookup

variable {α β : Type} (view : View)

/-- The paths that a computation looks at on a view, the first one first. -/
def paths : Lookup α → List Path
  | done _ => []
  | look path next => path :: (next (view path)).paths
  | work activity next => (next (view.course activity)).paths

@[simp] lemma paths_pure (a : α) : (pure a : Lookup α).paths view = [] := rfl

@[simp] lemma paths_bind (l : Lookup α) (f : α → Lookup β) :
    (l >>= f).paths view = l.paths view ++ (f (l.run view)).paths view := by
  change (l.bind f).paths view = _
  induction l with
  | done a => rfl
  | look path next ih =>
    have hlater := ih (view path)
    simp only [bind, paths, run, hlater, List.cons_append]
  | work activity next ih => exact ih (view.course activity)

@[simp] lemma paths_entry (path : Path) : (entry path).paths view = [path] := rfl

end Lookup

namespace Fetch

variable {α β : Type} (view : View)

/-- What the computation yields on a view, and the paths that it looks at. -/
def On (x : Fetch α) (r : Except Failure α) (looks : List Path) : Prop :=
  x.run.run view = r ∧ x.run.paths view = looks

variable {view} {x : Fetch α} {f : α → Fetch β} {a : α} {e : Failure} {r : Except Failure β}
  {looks more : List Path}

lemma On.bind (hx : On view x (.ok a) looks) (hf : On view (f a) r more) :
    On view (x >>= f) r (looks ++ more) := by
  constructor
  · rw [ExceptT.run_bind, Lookup.run_bind, hx.1]
    exact hf.1
  · rw [ExceptT.run_bind, Lookup.paths_bind, hx.1, hx.2]
    exact congrArg (looks ++ ·) hf.2

lemma On.bind_error (hx : On view x (.error e) looks) : On view (x >>= f) (.error e) looks := by
  constructor
  · rw [ExceptT.run_bind, Lookup.run_bind, hx.1]
    rfl
  · rw [ExceptT.run_bind, Lookup.paths_bind, hx.1, hx.2]
    exact List.append_nil looks

/-- What follows without a look adds no path, whether the computation succeeds or not. -/
lemma On.paths_bind {q : Except Failure α} (hx : On view x q looks)
    (hf : ∀ a, (f a).run.paths view = []) : (x >>= f).run.paths view = looks := by
  cases q with
  | error e => exact hx.bind_error.2
  | ok a =>
    have hboth := (hx.bind ⟨rfl, hf a⟩).2
    rwa [List.append_nil] at hboth

/-- A sequence of two computations succeeds exactly when each of them does. -/
lemma run_bind_eq_ok {b : β} : (x >>= f).run.run view = .ok b ↔
    ∃ a, x.run.run view = .ok a ∧ (f a).run.run view = .ok b := by
  cases hx : x.run.run view with
  | error e =>
    have hbind : On view (x >>= f) (.error e) (x.run.paths view) := On.bind_error ⟨hx, rfl⟩
    rw [hbind.1]
    constructor
    · intro h
      cases h
    · rintro ⟨a, ha, -⟩
      cases ha
  | ok a =>
    have hbind : On view (x >>= f) ((f a).run.run view)
        (x.run.paths view ++ (f a).run.paths view) := On.bind ⟨hx, rfl⟩ ⟨rfl, rfl⟩
    rw [hbind.1]
    constructor
    · exact fun h => ⟨a, rfl, h⟩
    · rintro ⟨a', ha, h⟩
      rwa [Except.ok.inj ha]

lemma on_lift {x r : Except Failure α} (h : x = r) : On view (liftM x : Fetch α) r [] := ⟨h, rfl⟩

lemma on_look (l : Lookup α) : On view (liftM l : Fetch α) (.ok (l.run view)) (l.paths view) := by
  have hlift : (liftM l : Fetch α).run = l >>= fun a => pure (Except.ok a) := rfl
  constructor
  · rw [hlift, Lookup.run_bind, Lookup.run_pure]
  · rw [hlift, Lookup.paths_bind, Lookup.paths_pure, List.append_nil]

/-- On the view, there is a file at `path` that has the given text. -/
def HasText (view : View) (path : Path) (text : String) : Prop :=
  ∃ octets, view path = .ok (.file octets) ∧ Utf8.decode? octets = some text.toList

variable (view) (path : Path) (budgetMs : Nat) (failure : IoFailure → Failure)

lemma exists_on_octets : ∃ r, On view (octets path budgetMs failure) r [path] ∧
    ∀ bs, r = .ok bs ↔ view path = .ok (.file bs) := by
  have hlook : On view (liftM (Lookup.entry path) : Fetch Sighting) (.ok (view path)) [path] :=
    on_look (Lookup.entry path)
  cases hview : view path with
  | error e =>
    rw [hview] at hlook
    exact ⟨.error (failure e), hlook.bind (on_lift rfl), by simp⟩
  | ok entry =>
    rw [hview] at hlook
    cases entry with
    | file bs => exact ⟨.ok bs, hlook.bind (on_lift rfl), by simp⟩
    | silent => exact ⟨.error (.timeout _ _), hlook.bind (on_lift rfl), by simp⟩
    | directory => exact ⟨.error (failure .isDirectory), hlook.bind (on_lift rfl), by simp⟩

/-- Reading a text looks at its path alone, and succeeds when there is a file with a text. -/
lemma exists_on_text : ∃ r, On view (Fetch.text path budgetMs failure) r [path] ∧
    ∀ text, r = .ok text ↔ HasText view path text := by
  obtain ⟨r, hoctets, hr⟩ := exists_on_octets view path budgetMs failure
  cases r with
  | error e =>
    refine ⟨.error e, hoctets.bind_error, fun text => ?_⟩
    have hnone (bs : List UInt8) : view path ≠ .ok (.file bs) := fun h => by cases (hr bs).2 h
    simp [HasText, hnone]
  | ok bs =>
    have hfile := (hr bs).1 rfl
    cases hdecode : Utf8.decode? bs with
    | none =>
      have htext : On view (Fetch.text path budgetMs failure) (.error (failure .notUtf8))
          ([path] ++ []) := by
        apply hoctets.bind
        rw [hdecode]
        exact on_lift rfl
      exact ⟨_, htext, fun text => by simp [HasText, hfile, hdecode]⟩
    | some cs =>
      have htext : On view (Fetch.text path budgetMs failure) (.ok (String.ofList cs))
          ([path] ++ []) := by
        apply hoctets.bind
        rw [hdecode]
        exact on_lift rfl
      exact ⟨_, htext, fun text => by simp [HasText, hfile, hdecode, String.ext_iff]⟩

variable {view path}

lemma on_text {text : String} (h : HasText view path text) :
    On view (Fetch.text path budgetMs failure) (.ok text) [path] := by
  obtain ⟨r, hread, hr⟩ := exists_on_text view path budgetMs failure
  obtain rfl := (hr text).2 h
  exact hread

/-! ## Work -/

variable {activity : String} {budgetMs : Nat} {q : Except Failure α}

lemma on_course {f : Course → Fetch β} (h : On view (f (view.course activity)) r looks) :
    On view (liftM (Lookup.course activity) >>= f) r looks :=
  (on_look (Lookup.course activity)).bind h

lemma on_work (h : (view.course activity).Ends budgetMs) :
    On view (work activity budgetMs q) q [] := by
  refine on_course ?_
  rw [if_neg (Nat.not_lt.2 h.inTime), h.whole]
  exact on_lift rfl

lemma on_work_late (h : budgetMs * 1000 < (view.course activity).micros) :
    On view (work activity budgetMs q) (.error (.timeout activity (budgetMs * 1000))) [] := by
  refine on_course ?_
  rw [if_pos h]
  exact on_lift rfl

lemma on_work_broken {report : String} (htime : (view.course activity).micros ≤ budgetMs * 1000)
    (h : (view.course activity).broken? = some report) :
    On view (work activity budgetMs q) (.error (.io ⟨activity⟩ ⟨false, report⟩)) [] := by
  refine on_course ?_
  rw [if_neg (Nat.not_lt.2 htime), h]
  exact on_lift rfl

/-- Work looks at nothing, and succeeds when it ends within its budget and its result is one. -/
lemma exists_on_work (view : View) (activity : String) (budgetMs : Nat) (q : Except Failure α) :
    ∃ r, On view (work activity budgetMs q) r [] ∧
      ∀ a, r = .ok a ↔ (view.course activity).Ends budgetMs ∧ q = .ok a := by
  by_cases htime : (view.course activity).micros ≤ budgetMs * 1000
  · cases hbroken : (view.course activity).broken? with
    | none =>
      refine ⟨q, on_work ⟨htime, hbroken⟩, fun a => ?_⟩
      simp [Course.ends_iff, htime, hbroken]
    | some report =>
      refine ⟨_, on_work_broken htime hbroken, fun a => ?_⟩
      simp [Course.ends_iff, hbroken]
  · refine ⟨_, on_work_late (Nat.lt_of_not_le htime), fun a => ?_⟩
    simp [Course.ends_iff, htime]

lemma paths_work (view : View) (activity : String) (budgetMs : Nat) (q : Except Failure α) :
    (work activity budgetMs q).run.paths view = [] := by
  obtain ⟨r, hwork, -⟩ := exists_on_work view activity budgetMs q
  exact hwork.2

end Fetch

end Unbundled
