import Unbundled.Proofs.Files.Fetch
import Unbundled.Proofs.Script.StringLiteral
import Unbundled.Server

/-!
# What a request is answered with

A request that succeeds is answered with what was made for it, one that fails with the failure. A
module that fails is answered with a call that has the text of the failure as its one literal:
whatever a path, a script or the file system puts into that text stays inside the literal.
-/

namespace Unbundled

/-! ## Literals in double quotes -/

namespace Text.Quoted

/-- What may stand between double quotes: no control below U+0020, a quote behind a backslash
only, and a backslash in front of a character only. -/
inductive Inside : List Char → Prop
  | nil : Inside []
  | plain {c : Char} {cs : List Char} (hquote : c ≠ '"') (hslash : c ≠ '\\')
      (hcontrol : 0x20 ≤ c.toNat) (h : Inside cs) : Inside (c :: cs)
  | escaped {c : Char} {cs : List Char} (hcontrol : 0x20 ≤ c.toNat) (h : Inside cs) :
      Inside ('\\' :: c :: cs)

/-- The text is one literal in double quotes. -/
def IsLiteral (text : String) : Prop := ∃ cs, text.toList = '"' :: (cs ++ ['"']) ∧ Inside cs

lemma Inside.hexDigit {n : Nat} (hn : n < 16) {cs : List Char} (h : Inside cs) :
    Inside (Quoted.hexDigit n :: cs) := by
  have hdigit : ∀ m < 16, Quoted.hexDigit m ≠ '"' ∧ Quoted.hexDigit m ≠ '\\' ∧
      0x20 ≤ (Quoted.hexDigit m).toNat := by decide
  obtain ⟨hquote, hslash, hcontrol⟩ := hdigit n hn
  exact .plain hquote hslash hcontrol h

lemma Inside.escape (c : Char) {cs : List Char} (h : Inside cs) :
    Inside (Quoted.escape c ++ cs) := by
  unfold Quoted.escape
  split_ifs with hquote hslash _ _ _ _ _ hcontrol
  · exact .escaped (by decide) h
  · exact .escaped (by decide) h
  · exact .escaped (by decide) h
  · exact .escaped (by decide) h
  · exact .escaped (by decide) h
  · exact .escaped (by decide) h
  · exact .escaped (by decide) h
  · have hdigits : Inside (Quoted.hexDigit (c.toNat / 16) ::
        Quoted.hexDigit (c.toNat % 16) :: cs) :=
      (h.hexDigit (Nat.mod_lt _ (by decide))).hexDigit (by omega)
    exact .escaped (by decide) (.plain (by decide) (by decide) (by decide)
      (.plain (by decide) (by decide) (by decide) hdigits))
  · exact .plain hquote hslash (by omega) h

lemma isLiteral_encode (v : String) : IsLiteral (encode v) := by
  refine ⟨v.toList.flatMap Quoted.escape, String.toList_ofList, ?_⟩
  induction v.toList with
  | nil => exact .nil
  | cons c cs ih => exact ih.escape c

end Text.Quoted

/-! ## The kind of what is made -/

namespace Fetch

variable {α β : Type} {view : View} {P : β → Prop}

/-- Whatever the computation yields has the property. -/
def Yields (view : View) (P : β → Prop) (x : Fetch β) : Prop :=
  ∀ b, x.run.run view = .ok b → P b

lemma yields_pure {b : β} (h : P b) : Yields view P (pure b) := by
  intro b' hb
  obtain rfl := Except.ok.inj hb
  exact h

lemma Yields.after (x : Fetch α) {f : α → Fetch β} (hf : ∀ a, Yields view P (f a)) :
    Yields view P (x >>= f) := by
  intro b hb
  obtain ⟨a, -, hfa⟩ := run_bind_eq_ok.1 hb
  exact hf a b hfa

end Fetch

namespace Server

variable {config : Config} {view : View} {path url : String}

lemma yields_serveEntry : Fetch.Yields view (·.kind = .entry) (serveEntry config) :=
  .after _ fun _ => Fetch.yields_pure rfl

lemma yields_serveScript : Fetch.Yields view (·.kind = .script) (serveScript config path) :=
  .after _ fun _ => .after _ fun _ => .after _ fun _ => Fetch.yields_pure rfl

lemma yields_serveLibrary : Fetch.Yields view (·.kind = .library) (serveLibrary config path) :=
  .after _ fun _ => Fetch.yields_pure rfl

lemma yields_serveComponent {type? : Option String} :
    Fetch.Yields view (·.kind = .component) (serveComponent config path type?) :=
  .after _ fun _ => .after _ fun _ => .after _ fun _ => Fetch.yields_pure rfl

lemma yields_serveStatic : Fetch.Yields view (·.kind = .unhandled) (serveStatic config path) := by
  refine .after _ fun file => .after _ fun isFile => ?_
  cases isFile with
  | true => exact .after _ fun _ => Fetch.yields_pure rfl
  | false =>
    intro served hserved
    cases hserved

/-- What is made for a request is of the kind that its URL is classified as. -/
lemma yields_handle : Fetch.Yields view (·.kind = Artifact.ofUrl url) (handle config url) := by
  unfold handle
  cases Artifact.ofUrl url with
  | entry => exact yields_serveEntry
  | script => exact yields_serveScript
  | library => exact yields_serveLibrary
  | component => exact yields_serveComponent
  | unhandled => exact yields_serveStatic

end Server

/-! ## Responses -/

namespace Response

/-- The response hands on what was made for a request of the kind. -/
structure Delivers (r : Response) (kind : Artifact) (served : Served) : Prop where
  status : r.status = 200
  same : r.kind = served.kind ∧ r.contentType = served.contentType ∧ r.body = served.body
  ofKind : served.kind = kind
  immutable_iff : r.cache.header = "max-age=31536000, immutable" ↔
    kind = .entry ∨ kind = .library

/-- The response makes a failure known to one who asked for something of the kind. -/
structure Reports (r : Response) (kind : Artifact) (f : Failure) : Prop where
  status : r.status = f.status
  failed : f.status ≠ 200
  ofKind : r.kind = kind
  uncached : r.cache.header = "no-cache"
  script : kind = .script ∨ kind = .library ∨ kind = .component →
    r.contentType = "application/javascript; charset=utf-8" ∧
      ∃ literal, Text.Quoted.IsLiteral literal ∧
        Script.ReadsAs literal ("[toyvite] " ++ f.message) ∧
        r.body = octetsOf ("console.error(" ++ literal ++ ");\n")
  plain : kind = .entry ∨ kind = .unhandled →
    r.contentType = "text/plain; charset=utf-8" ∧ r.body = octetsOf ("[toyvite] " ++ f.message)

lemma header_eq_immutable_iff (kind : Artifact) :
    kind.cache.header = "max-age=31536000, immutable" ↔ kind = .entry ∨ kind = .library := by
  cases kind <;> decide

lemma delivers_ofServed (served : Served) : (ofServed served).Delivers served.kind served where
  status := rfl
  same := ⟨rfl, rfl, rfl⟩
  ofKind := rfl
  immutable_iff := header_eq_immutable_iff served.kind

end Response

lemma Failure.status_ne_ok (f : Failure) : f.status ≠ 200 := by
  cases f <;> simp [status]

namespace Response

lemma ofFailure_module (f : Failure) {kind : Artifact}
    (h : kind = .script ∨ kind = .library ∨ kind = .component) : ofFailure kind f =
      ⟨f.status, kind, ContentType.javascript, .revalidate,
        octetsOf ("console.error(" ++ Text.Quoted.encode (failureText f) ++ ");\n")⟩ := by
  rcases h with rfl | rfl | rfl <;> rfl

lemma ofFailure_text (f : Failure) {kind : Artifact} (h : kind = .entry ∨ kind = .unhandled) :
    ofFailure kind f = ⟨f.status, kind, ContentType.plainText, .revalidate,
      octetsOf (failureText f)⟩ := by
  rcases h with rfl | rfl <;> rfl

/-- Whatever the failure, it is told to whoever asked. -/
lemma reports_ofFailure (kind : Artifact) (f : Failure) : (ofFailure kind f).Reports kind f where
  status := by cases kind <;> rfl
  failed := f.status_ne_ok
  ofKind := by cases kind <;> rfl
  uncached := by cases kind <;> rfl
  script := by
    intro hkind
    rw [ofFailure_module f hkind, ← failureText]
    refine ⟨rfl, _, Text.Quoted.isLiteral_encode (failureText f),
      Script.readsAs_quoted (failureText f), ?_⟩
    dsimp only
  plain := by
    intro hkind
    rw [ofFailure_text f hkind, ← failureText]
    exact ⟨rfl, rfl⟩

end Response

namespace Server

variable {config : Config} {view : View} {url : String}

lemma run_respond_of_ok {served : Served}
    (h : (handle config url).run.run view = .ok served) :
    (respond config url).run view = .ofServed served := by
  rw [respond, Lookup.run_bind, h]
  rfl

lemma run_respond_of_error {f : Failure} (h : (handle config url).run.run view = .error f) :
    (respond config url).run view = .ofFailure (Artifact.ofUrl url) f := by
  rw [respond, Lookup.run_bind, h]
  rfl

lemma delivers_respond {served : Served} (h : (handle config url).run.run view = .ok served) :
    ((respond config url).run view).Delivers (Artifact.ofUrl url) served := by
  have hkind : served.kind = Artifact.ofUrl url := yields_handle served h
  rw [run_respond_of_ok h, ← hkind]
  exact Response.delivers_ofServed served

lemma reports_respond {f : Failure} (h : (handle config url).run.run view = .error f) :
    ((respond config url).run view).Reports (Artifact.ofUrl url) f := by
  rw [run_respond_of_error h]
  exact Response.reports_ofFailure (Artifact.ofUrl url) f

/-- Every request is answered with what was made for it or with the failure, and never with a
failure that may be kept. The view says how the work for it goes, so a budget that has run out is
among the failures. The last part speaks of all failures, wherever they come from. -/
theorem answers_request (config : Config) (view : View) (url : String) :
    ((respond config url).run view).kind = Artifact.ofUrl url ∧
    (((respond config url).run view).status = 200 ↔
      ∃ served, (handle config url).run.run view = .ok served) ∧
    (∀ served, (handle config url).run.run view = .ok served →
      ((respond config url).run view).Delivers (Artifact.ofUrl url) served) ∧
    (∀ f, (handle config url).run.run view = .error f →
      ((respond config url).run view).Reports (Artifact.ofUrl url) f) ∧
    ∀ kind f, (Response.ofFailure kind f).Reports kind f := by
  refine ⟨?_, ?_, fun served => delivers_respond, fun f => reports_respond,
    Response.reports_ofFailure⟩
  · cases hresult : (handle config url).run.run view with
    | ok served =>
      have hdelivers := delivers_respond hresult
      exact hdelivers.same.1.trans hdelivers.ofKind
    | error f => exact (reports_respond hresult).ofKind
  · cases hresult : (handle config url).run.run view with
    | ok served => exact iff_of_true (delivers_respond hresult).status ⟨served, rfl⟩
    | error f =>
      have hreports := reports_respond hresult
      refine iff_of_false (fun hok => hreports.failed (hreports.status ▸ hok)) ?_
      rintro ⟨served, hserved⟩
      cases hserved

/-- A script that is missing, with a quote and a line end in its name. -/
theorem answers_request_quote :
    ((respond (Config.ofEntry ⟨"/p"⟩ ⟨"index.html"⟩) "/\");alert(\"\n.js").run
      ⟨fun _ => .error .noEntry, fun _ => {}⟩).Reports .script
        (.notFound ⟨"/p/\");alert(\"\n.js"⟩) := by
  obtain ⟨-, -, -, hreports, -⟩ := answers_request (Config.ofEntry ⟨"/p"⟩ ⟨"index.html"⟩)
    ⟨fun _ => .error .noEntry, fun _ => {}⟩ "/\");alert(\"\n.js"
  exact hreports _ (by decide +kernel)

/-- Work that takes longer than its budget, and work that breaks off. -/
example :
    (handle (Config.ofEntry ⟨"/p"⟩ ⟨"index.html"⟩) "/a.js").run.run
      ⟨fun _ => .ok (.file []), fun _ => ⟨500001, none⟩⟩ =
        .error (.timeout "rewriting /a.js" 500000) ∧
    (handle (Config.ofEntry ⟨"/p"⟩ ⟨"index.html"⟩) "/a.vue").run.run
      ⟨fun _ => .ok (.file []), fun _ => ⟨0, some "task 7 was cancelled"⟩⟩ =
        .error (.io ⟨"compiling /a.vue"⟩ ⟨false, "task 7 was cancelled"⟩) := by
  decide +kernel

end Server

end Unbundled
