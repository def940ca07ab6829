import Unbundled.Proofs.Files.Fetch
import Unbundled.Proofs.Script.StringLiteral
import Unbundled.Server

/-!
# The two modules of a component

The script of a component imports its render function by a URL that the server writes into it. What
the server answers under that URL is the render module of the same file.
-/

namespace Unbundled

/-! ## The URL of the render module -/

/-- Where the script of the component at `url` imports its render function from. -/
def renderUrl (url : String) : String := Url.path url ++ "?type=template"

lemma toList_renderUrl (url : String) :
    (renderUrl url).toList = Url.pathChars url.toList ++ '?' :: "type=template".toList := by
  rw [renderUrl, String.toList_append, Url.path, String.toList_ofList]
  rfl

lemma all_pathChars (cs : List Char) :
    (Url.pathChars cs).all fun c => !(c = '?' || c = '#') := List.all_takeWhile

lemma path_renderUrl (url : String) : Url.path (renderUrl url) = Url.path url := by
  have hstop : ∀ c ∈ ('?' :: "type=template".toList).head?, (!(c = '?' || c = '#')) = false := by
    simp
  rw [Url.path, toList_renderUrl, Url.pathChars,
    Text.takeWhile_append_stop (all_pathChars url.toList) hstop, Url.path]

lemma queryChars?_renderUrl (url : String) :
    Url.queryChars? (renderUrl url).toList = some "type=template".toList := by
  have hpath : (Url.pathChars url.toList).all (· ≠ '?') := by
    have hall := all_pathChars url.toList
    rw [List.all_eq_true] at hall ⊢
    intro c hc
    have hfree := hall c hc
    simp at hfree
    simpa using hfree.1
  have hstop : ∀ c ∈ ('?' :: "type=template".toList).head?, decide (c ≠ '?') = false := by simp
  rw [toList_renderUrl, Url.queryChars?, Text.dropWhile_append_stop hpath hstop]
  rfl

lemma type?_renderUrl (url : String) : Url.type? (renderUrl url) = some "template" := by
  rw [Url.type?, queryChars?_renderUrl]
  decide +kernel

lemma ofUrl_renderUrl (url : String) : Artifact.ofUrl (renderUrl url) = Artifact.ofUrl url := by
  rw [Artifact.ofUrl, path_renderUrl, Artifact.ofUrl]

/-! ## The text of the script module -/

namespace Component

/-- The script of a component, with its options bound to `__script`. -/
def Parts.boundScript (path : String) (parts : Parts) : Except Failure String :=
  match parts.script? with
  | some block => Component.boundScript path block.content
  | none => .ok "const __script = \x7b\x7d\n"

/-- A script as it is, or with a line end put behind it. -/
def lineClosed (code : String) : String := if code.endsWith "\n" then code else code ++ "\n"

/-- `body` is the script of the component, bound and rewritten, and behind it the import of the
render function from `literal`, its attachment to the options, and their export. -/
def IsScriptModule (path source literal body : String) : Prop :=
  ∃ parts bound code, Parts.ofText source = .ok parts ∧
    parts.boundScript path = .ok bound ∧ redirectImports path bound = .ok code ∧
    body = lineClosed code ++ ("import \x7b render as __render \x7d from " ++ literal ++ "\n" ++
      (if parts.template?.isSome then "" else "if (!__script.render) ") ++
      "__script.render = __render\n" ++ "export default __script\n")

lemma scriptModule_eq (path : String) (parts : Parts) :
    scriptModule path parts = do
      let bound ← parts.boundScript path
      let code ← redirectImports path bound
      return lineClosed code ++ attachment path parts.template?.isSome := by
  rw [scriptModule, Parts.boundScript]
  cases parts.script? <;> rfl

lemma attachment_eq (path : String) (hasTemplate : Bool) :
    attachment path hasTemplate = "import \x7b render as __render \x7d from " ++
      Text.Quoted.encode (path ++ "?type=template") ++ "\n" ++
      (if hasTemplate then "" else "if (!__script.render) ") ++
      "__script.render = __render\n" ++ "export default __script\n" := by
  have hquery : "?type=" ++ renderType = "?type=template" := by decide +kernel
  have hguard : "if (!" ++ scriptBinding ++ ".render) " = "if (!__script.render) " := by
    decide +kernel
  have hattach : scriptBinding ++ ".render = __render\n" = "__script.render = __render\n" := by
    decide +kernel
  have hexport : "export default " ++ scriptBinding ++ "\n" = "export default __script\n" := by
    decide +kernel
  have hgroup (a b c d e f : String) :
      a ++ b ++ c ++ d ++ e ++ f = a ++ (b ++ c) ++ (d ++ e ++ f) := by
    simp only [String.append_assoc]
  calc attachment path hasTemplate
      = "import \x7b render as __render \x7d from " ++
          Text.Quoted.encode (path ++ ("?type=" ++ renderType)) ++ "\n" ++
          (if hasTemplate then "" else "if (!" ++ scriptBinding ++ ".render) ") ++
          (scriptBinding ++ ".render = __render\n") ++
          ("export default " ++ scriptBinding ++ "\n") := by
        unfold attachment
        rw [@String.append_assoc path]
        exact hgroup ..
    _ = _ := by rw [hquery, hguard, hattach, hexport]

lemma isScriptModule_of_split {path source body : String} {type? : Option String}
    (htype : type? ≠ some "template") (h : split path source type? = .ok body) :
    IsScriptModule path source (Text.Quoted.encode (path ++ "?type=template")) body := by
  have hpart : Part.ofType type? = .script := if_neg htype
  unfold split at h
  cases hparts : Parts.ofText source with
  | error e => simp [hparts] at h
  | ok parts =>
    rw [hparts, hpart] at h
    change scriptModule path parts = .ok body at h
    rw [scriptModule_eq, bind_eq_ok] at h
    obtain ⟨bound, hbound, hrest⟩ := h
    rw [bind_eq_ok] at hrest
    obtain ⟨code, hcode, hbody⟩ := hrest
    rw [attachment_eq] at hbody
    exact ⟨parts, bound, code, hparts, hbound, hcode, (Except.ok.inj hbody).symm⟩

end Component

/-! ## Requests for a component -/

namespace Server

variable {config : Config} {view : View} {path source : String} {file : Path}
  {served : Served}

/-- What a module of a component is served as. -/
def serveModule (code : String) : Served := ⟨.component, ContentType.javascript, octetsOf code⟩

lemma on_serveComponent (type? : Option String)
    (hfile : Url.resolve config.sourceDir path = .ok file)
    (htext : Fetch.HasText view file source)
    (hends : (view.course (Component.activity path)).Ends config.compileMs) :
    Fetch.On view (serveComponent config path type?)
      ((Component.split path source type?).map serveModule) [file] := by
  have hread := Fetch.on_text config.readMs (.ofIo file) htext
  have hserve : Fetch.On view (do
      let code ← Fetch.work (Component.activity path) config.compileMs
        (Component.split path source type?)
      return serveModule code) ((Component.split path source type?).map serveModule) [] := by
    cases hcode : Component.split path source type? with
    | error e => exact (Fetch.on_work hends).bind_error
    | ok code => exact (Fetch.on_work hends).bind (Fetch.on_lift rfl)
  exact (Fetch.on_lift hfile).bind (hread.bind hserve)

/-- A component that is served has a file with a text, and is made within the budget. -/
lemma exists_file_of_served {type? : Option String}
    (h : (serveComponent config path type?).run.run view = .ok served) :
    ∃ file source, Url.resolve config.sourceDir path = .ok file ∧
      Fetch.HasText view file source ∧
      (view.course (Component.activity path)).Ends config.compileMs := by
  obtain ⟨file, hfile, h⟩ := Fetch.run_bind_eq_ok.1 h
  obtain ⟨source, htext, h⟩ := Fetch.run_bind_eq_ok.1 h
  obtain ⟨code, hcode, -⟩ := Fetch.run_bind_eq_ok.1 h
  obtain ⟨r, hread, hr⟩ := Fetch.exists_on_text view file config.readMs (.ofIo file)
  obtain ⟨q, hwork, hq⟩ := Fetch.exists_on_work view (Component.activity path) config.compileMs
    (Component.split path source type?)
  exact ⟨file, source, (Fetch.on_lift rfl).1.symm.trans hfile,
    (hr source).1 (hread.1.symm.trans htext), ((hq code).1 (hwork.1.symm.trans hcode)).1⟩

end Server

/-- The script of the component at `url` has been served, and goes with its render module: both are
made from `source`, the text of `file`, and the script imports the other by `literal`. -/
structure ServedWithRender (config : Config) (view : View) (url : String)
    (served : Served) (file : Path) (source literal : String) : Prop where
  hasText : Fetch.HasText view file source
  looks : (Server.handle config url).run.paths view = [file]
  script : ∃ body, Component.IsScriptModule (Url.path url) source literal body ∧
    served = ⟨.component, ContentType.javascript, octetsOf body⟩
  readsAs : Script.ReadsAs literal (renderUrl url)
  kind : Artifact.ofUrl (renderUrl url) = .component
  sameLooks : (Server.handle config (renderUrl url)).run.paths view = [file]
  render : (Server.handle config (renderUrl url)).run.run view =
    (Component.split (Url.path url) source (some "template")).map fun code =>
      ⟨.component, ContentType.javascript, octetsOf code⟩

/-- The script of a component that is served goes with the render module that it imports. -/
theorem servedWithRender_of_handle {config : Config} {view : View} {url : String}
    {served : Served} (hkind : Artifact.ofUrl url = .component)
    (htype : Url.type? url ≠ some "template")
    (hserved : (Server.handle config url).run.run view = .ok served) :
    ∃ file source literal, ServedWithRender config view url served file source literal := by
  have hhandle : Server.handle config url =
      Server.serveComponent config (Url.path url) (Url.type? url) := by
    rw [Server.handle, hkind]
  have hkind' : Artifact.ofUrl (renderUrl url) = .component := by rw [ofUrl_renderUrl, hkind]
  have hhandle' : Server.handle config (renderUrl url) =
      Server.serveComponent config (Url.path url) (some "template") := by
    rw [Server.handle, hkind', path_renderUrl, type?_renderUrl]
  rw [hhandle] at hserved
  -- both requests are the same work, which ends within the budget
  obtain ⟨file, source, hfile, htext, hends⟩ := Server.exists_file_of_served hserved
  obtain ⟨hrun, hlooks⟩ := Server.on_serveComponent (Url.type? url) hfile htext hends
  obtain ⟨hrun', hlooks'⟩ := Server.on_serveComponent (some "template") hfile htext hends
  rw [hrun, map_eq_ok] at hserved
  obtain ⟨body, hbody, hserved⟩ := hserved
  exact ⟨file, source, Text.Quoted.encode (renderUrl url), {
    hasText := htext
    looks := by rw [hhandle, hlooks]
    script := ⟨body, Component.isScriptModule_of_split htype hbody, hserved.symm⟩
    readsAs := Script.readsAs_quoted (renderUrl url)
    kind := hkind'
    sameLooks := by rw [hhandle', hlooks']
    render := by
      rw [hhandle', hrun']
      rfl }⟩

/-- A project with one component, whose name takes escapes in a literal. -/
def oneComponent : View where
  sight path :=
    if path.text = "/p/a\"b\n.vue" then
      .ok (.file (octetsOf
        "<script>export default \x7b\x7d</script><template><p>hi</p></template>"))
    else .error .noEntry

theorem servedWithRender_of_handle_quote :
    ∃ served file source literal, ServedWithRender (Config.ofEntry ⟨"/p"⟩ ⟨"index.html"⟩)
      oneComponent "/a\"b\n.vue?t=1#type=template" served file source literal := by
  have hok : ((Server.handle (Config.ofEntry ⟨"/p"⟩ ⟨"index.html"⟩)
      "/a\"b\n.vue?t=1#type=template").run.run oneComponent).toOption.isSome = true := by
    decide +kernel
  cases hserved : (Server.handle (Config.ofEntry ⟨"/p"⟩ ⟨"index.html"⟩)
      "/a\"b\n.vue?t=1#type=template").run.run oneComponent with
  | error e =>
    rw [hserved] at hok
    cases hok
  | ok served =>
    exact ⟨served, servedWithRender_of_handle (by decide +kernel) (by decide +kernel) hserved⟩

end Unbundled
