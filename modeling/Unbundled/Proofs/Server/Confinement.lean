import Unbundled.Proofs.Files.Fetch
import Unbundled.Proofs.Url.Resolution
import Unbundled.Server

/-!
# Requests stay inside their directories

What a path resolves to is fixed by the octets that it stands for. A request for a script, a
component or a static file looks at one such file, so at nothing outside the directory of the
sources and that of the packages.
-/

namespace Unbundled

namespace Fetch

variable {α β : Type} {view : View} {P : Path → Prop} {x : Fetch α} {f : α → Fetch β}

/-- The computation looks at no path but those with the property. -/
def LooksOnly (view : View) (P : Path → Prop) (x : Fetch α) : Prop :=
  ∀ path ∈ x.run.paths view, P path

lemma LooksOnly.bind (hx : LooksOnly view P x)
    (hf : ∀ a, x.run.run view = .ok a → LooksOnly view P (f a)) : LooksOnly view P (x >>= f) := by
  cases hrun : x.run.run view with
  | error e =>
    have hbind : On view (x >>= f) (.error e) (x.run.paths view) := On.bind_error ⟨hrun, rfl⟩
    intro path hpath
    rw [hbind.2] at hpath
    exact hx path hpath
  | ok a =>
    have hbind : On view (x >>= f) ((f a).run.run view)
        (x.run.paths view ++ (f a).run.paths view) := On.bind ⟨hrun, rfl⟩ ⟨rfl, rfl⟩
    intro path hpath
    rw [hbind.2, List.mem_append] at hpath
    rcases hpath with hpath | hpath
    · exact hx path hpath
    · exact hf a hrun path hpath

lemma looksOnly_lift (r : Except Failure α) : LooksOnly view P (liftM r : Fetch α) := by
  intro path hpath
  rw [(on_lift rfl : On view (liftM r : Fetch α) r []).2] at hpath
  cases hpath

/-- A step that reads no file hands its result on. -/
lemma looksOnly_after {r : Except Failure α} (hf : ∀ a, r = .ok a → LooksOnly view P (f a)) :
    LooksOnly view P (liftM r >>= f) :=
  (looksOnly_lift r).bind fun a ha => hf a ((on_lift rfl).1.symm.trans ha)

lemma looksOnly_octets {path : Path} (h : P path) (budgetMs : Nat)
    (failure : IoFailure → Failure) : LooksOnly view P (octets path budgetMs failure) := by
  obtain ⟨r, hread, -⟩ := exists_on_octets view path budgetMs failure
  intro p hp
  rw [hread.2, List.mem_singleton] at hp
  exact hp ▸ h

lemma looksOnly_text {path : Path} (h : P path) (budgetMs : Nat)
    (failure : IoFailure → Failure) : LooksOnly view P (text path budgetMs failure) := by
  obtain ⟨r, hread, -⟩ := exists_on_text view path budgetMs failure
  intro p hp
  rw [hread.2, List.mem_singleton] at hp
  exact hp ▸ h

lemma looksOnly_work (activity : String) (budgetMs : Nat) (r : Except Failure α) :
    LooksOnly view P (work activity budgetMs r) := by
  intro path hpath
  rw [paths_work] at hpath
  cases hpath

lemma looksOnly_isFile {path : Path} (h : P path) :
    LooksOnly view P (liftM (Lookup.isFile path) : Fetch Bool) := by
  have hlook : On view (liftM (Lookup.isFile path) : Fetch Bool) _ _ := on_look _
  have hpaths : (Lookup.isFile path).paths view = [path] := by
    rw [Lookup.isFile, Lookup.paths_bind, Lookup.paths_entry, Lookup.run_entry]
    cases view path with
    | error e => rfl
    | ok entry => cases entry <;> rfl
  intro p hp
  rw [hlook.2, hpaths, List.mem_singleton] at hp
  exact hp ▸ h

end Fetch

/-! ## Files of the project -/

namespace Server

/-- The file belongs to the sources of the project or to the packages. -/
def IsServed (config : Config) (file : Path) : Prop :=
  config.sourceDir.IsBelow file ∨ config.modulesDir.IsBelow file

variable {config : Config} {view : View} {path url : String}

lemma isServed_of_scriptFile {file : Path} (h : scriptFile config path = .ok file) :
    IsServed config file := by
  unfold scriptFile at h
  split at h
  · exact .inr (Url.isBelow_of_resolve h)
  · exact .inl (Url.isBelow_of_resolve h)

lemma looksOnly_serveScript :
    Fetch.LooksOnly view (IsServed config) (serveScript config path) := by
  refine Fetch.looksOnly_after fun file hfile => ?_
  refine (Fetch.looksOnly_text (isServed_of_scriptFile hfile) _ _).bind fun text _ => ?_
  exact (Fetch.looksOnly_work _ _ _).bind fun code _ => Fetch.looksOnly_lift (.ok _)

lemma looksOnly_serveComponent {type? : Option String} :
    Fetch.LooksOnly view (IsServed config) (serveComponent config path type?) := by
  refine Fetch.looksOnly_after fun file hfile => ?_
  refine (Fetch.looksOnly_text (.inl (Url.isBelow_of_resolve hfile)) _ _).bind fun text _ => ?_
  exact (Fetch.looksOnly_work _ _ _).bind fun code _ => Fetch.looksOnly_lift (.ok _)

lemma looksOnly_serveStatic :
    Fetch.LooksOnly view (IsServed config) (serveStatic config path) := by
  refine Fetch.looksOnly_after fun file hfile => ?_
  have hserved : IsServed config file := .inl (Url.isBelow_of_resolve hfile)
  refine (Fetch.looksOnly_isFile hserved).bind fun isFile _ => ?_
  have hread : Fetch.LooksOnly view (IsServed config) (do
      let octets ← Fetch.octets file config.readMs fun e =>
        if e.missing then .unhandled path else .ofIo file e
      return (⟨.unhandled, ContentType.ofPath path, octets⟩ : Served)) :=
    (Fetch.looksOnly_octets hserved _ _).bind fun octets _ => Fetch.looksOnly_lift (.ok _)
  cases isFile with
  | true => exact hread
  | false => exact Fetch.looksOnly_lift (.error _)

lemma paths_respond (config : Config) (view : View) (url : String) :
    (respond config url).paths view = (handle config url).run.paths view := by
  rw [respond, Lookup.paths_bind]
  cases (handle config url).run.run view with
  | error f => exact List.append_nil _
  | ok served => exact List.append_nil _

/-- A request for a script, a component or a static file looks at files of the project alone. -/
lemma isServed_of_mem_paths (hkind : Artifact.ofUrl url ∈ [.script, .component, .unhandled])
    {file : Path} (hfile : file ∈ (respond config url).paths view) : IsServed config file := by
  rw [paths_respond, handle] at hfile
  cases hurl : Artifact.ofUrl url with
  | entry => simp [hurl] at hkind
  | library => simp [hurl] at hkind
  | script =>
    rw [hurl] at hfile
    exact looksOnly_serveScript file hfile
  | component =>
    rw [hurl] at hfile
    exact looksOnly_serveComponent file hfile
  | unhandled =>
    rw [hurl] at hfile
    exact looksOnly_serveStatic file hfile

end Server

/-! ## Resolution -/

/-- `r` is what `path` resolves to below `base`, said of the octets that the path stands for. -/
structure ResolvesTo (base : Path) (path : String) (octets : List UInt8)
    (r : Except Failure Path) : Prop where
  notFound_iff : r = .error (.notFound ⟨path⟩) ↔ ¬ ∃ text, Utf8.encode text = octets
  forbidden_iff : ∀ text, Utf8.encode text = octets →
    (r = .error (.forbidden path) ↔ ['.', '.'] ∈ Url.segments text)
  resolved : ∀ text, Utf8.encode text = octets → ['.', '.'] ∉ Url.segments text →
    r = .ok (base.extend (Url.segments text)) ∧
      (base.extend (Url.segments text)).components =
        base.components ++ (Url.segments text).map Path.named
  below : ∀ file, r = .ok file → base.IsBelow file

lemma resolvesTo_resolve (base : Path) (path : String) :
    ResolvesTo base path (Url.octets path) (Url.resolve base path) where
  notFound_iff := by
    constructor
    · rintro hr ⟨text, htext⟩
      rw [Url.resolve_of_text htext] at hr
      split at hr <;> cases hr
    · intro hno
      exact Url.resolve_of_no_text (not_exists.1 hno)
  forbidden_iff := by
    intro text htext
    rw [Url.resolve_of_text htext]
    constructor
    · intro hr
      split at hr
      · next hup => exact hup
      · cases hr
    · intro hup
      rw [if_pos hup]
  resolved := by
    intro text htext hup
    rw [Url.resolve_of_text htext, if_neg hup]
    exact ⟨rfl, Path.components_extend base (Url.isName_of_mem_segments hup)⟩
  below := fun _ => Url.isBelow_of_resolve

/-- Paths resolve exactly and stay inside. A path stands for one sequence of octets, and these
decide what it resolves to; whichever way names are spelled as a path, it leads to them; and the
requests that resolve their paths look at nothing outside the directories of the project. -/
theorem resolution_confined :
    (∀ (base : Path) (path : String), ∃ octets,
      (∀ other, Percent.Reads (Utf8.encode path.toList) other ↔ other = octets) ∧
        ResolvesTo base path octets (Url.resolve base path)) ∧
    (∀ (base : Path) (names : List (List Char)) (path : String), (∀ s ∈ names, Path.IsName s) →
      Url.WritesPath names (Utf8.encode path.toList) →
        Url.resolve base path = .ok (base.extend names)) ∧
    (∀ (config : Config) (view : View) (url : String),
      Artifact.ofUrl url ∈ [.script, .component, .unhandled] →
        ∀ file ∈ (Server.respond config url).paths view,
          config.sourceDir.IsBelow file ∨ config.modulesDir.IsBelow file) := by
  refine ⟨fun base path => ?_, fun base names path hnames hpath => ?_,
    fun config view url hkind file hfile => ?_⟩
  · exact ⟨Url.octets path, fun other => Percent.reads_iff, resolvesTo_resolve base path⟩
  · exact Url.resolve_of_writesPath base hnames hpath
  · exact Server.isServed_of_mem_paths hkind hfile

/-- A project with a script in a package. -/
def packagedScript : View where
  sight path :=
    if path.text = "/p/node_modules/b/c.js" then .ok (.file (octetsOf "export default 1"))
    else .error .noEntry

theorem resolution_confined_escapes :
    Url.resolve ⟨"/p/src"⟩ "/a%20/%C3%a9.js" = .ok ⟨"/p/src/a /é.js"⟩ ∧
    (Server.respond (Config.ofEntry ⟨"/p"⟩ ⟨"src/index.html"⟩)
      "/node_modules//b/%63.js?d").paths packagedScript = [⟨"/p/node_modules/b/c.js"⟩] ∧
    ((⟨"/p/src"⟩ : Path).IsBelow ⟨"/p/node_modules/b/c.js"⟩ ∨
      (⟨"/p/node_modules"⟩ : Path).IsBelow ⟨"/p/node_modules/b/c.js"⟩) := by
  have hspace : Percent.IsEscape 0x32 0x30 0x20 :=
    ⟨2, 0, ⟨by decide, by decide⟩, ⟨by decide, by decide⟩, by decide⟩
  have hlead : Percent.IsEscape 0x43 0x33 0xC3 :=
    ⟨12, 3, ⟨by decide, by decide⟩, ⟨by decide, by decide⟩, by decide⟩
  have htail : Percent.IsEscape 0x61 0x39 0xA9 :=
    ⟨10, 9, ⟨by decide, by decide⟩, ⟨by decide, by decide⟩, by decide⟩
  have hfirst : Percent.Writes (Utf8.encode ['a', ' ']) [0x61, 0x25, 0x32, 0x30] :=
    .raw (by decide) (.escape hspace .nil)
  have hsecond : Percent.Writes (Utf8.encode ['é', '.', 'j', 's'])
      [0x25, 0x43, 0x33, 0x25, 0x61, 0x39, 0x2E, 0x6A, 0x73] :=
    .escape hlead (.escape htail (.raw (by decide) (.raw (by decide) (.raw (by decide) .nil))))
  have hspelled : Url.WritesPath [['a', ' '], ['é', '.', 'j', 's']]
      (0x2F :: ([0x61, 0x25, 0x32, 0x30] ++
        0x2F :: ([0x25, 0x43, 0x33, 0x25, 0x61, 0x39, 0x2E, 0x6A, 0x73] ++ []))) :=
    .cons hfirst (.cons hsecond .nil)
  have hnames : ∀ s ∈ [['a', ' '], ['é', '.', 'j', 's']], Path.IsName s := by
    simp only [List.forall_mem_cons]
    exact ⟨⟨by decide, by decide, by decide, by decide⟩,
      ⟨by decide, by decide, by decide, by decide⟩, by simp⟩
  have hlooks : (Server.respond (Config.ofEntry ⟨"/p"⟩ ⟨"src/index.html"⟩)
      "/node_modules//b/%63.js?d").paths packagedScript = [⟨"/p/node_modules/b/c.js"⟩] := by
    decide +kernel
  obtain ⟨-, hpaths, hrequests⟩ := resolution_confined
  refine ⟨hpaths ⟨"/p/src"⟩ _ "/a%20/%C3%a9.js" hnames hspelled, hlooks, ?_⟩
  exact hrequests (Config.ofEntry ⟨"/p"⟩ ⟨"src/index.html"⟩) packagedScript
    "/node_modules//b/%63.js?d" (by decide +kernel) _ (by rw [hlooks]; exact List.mem_singleton_self _)

end Unbundled
