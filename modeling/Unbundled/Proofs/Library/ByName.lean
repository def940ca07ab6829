import Unbundled.Files.Tree
import Unbundled.Proofs.Library.Entry
import Unbundled.Proofs.Library.RelativeImport

/-!
# Packages imported by name

A script that imports a package by its name is given the URL of the package, and the request for
that URL leads to the manifest of the package and to the file that it names. Names that end like a
script lead elsewhere: the extension decides before the directory does.
-/

namespace Unbundled

/-! ## The name as text -/

namespace Library

/-- The text of a package's name: its parts, with slashes between them. -/
def nameOf (names : List (List Char)) : String := String.ofList (Text.joinWith ['/'] names)

/-- The URL that the name is redirected to. -/
def urlOf (names : List (List Char)) : String := libraryRoot ++ nameOf names

variable {names : List (List Char)}

lemma joinWith_cons (s : List Char) (rest : List (List Char)) :
    Text.joinWith ['/'] (s :: rest) = s ++ Url.joined rest := by
  induction rest generalizing s with
  | nil => exact (List.append_nil s).symm
  | cons t rest ih =>
    rw [Text.joinWith, ih t, List.append_assoc, List.singleton_append]
    · rfl
    · exact List.cons_ne_nil t rest

lemma slash_joinWith (hne : names ≠ []) :
    '/' :: Text.joinWith ['/'] names = Url.joined names := by
  obtain ⟨s, rest, rfl⟩ := List.exists_cons_of_ne_nil hne
  rw [joinWith_cons]
  rfl

lemma toList_nameOf (names : List (List Char)) :
    (nameOf names).toList = Text.joinWith ['/'] names := String.toList_ofList

lemma segments_nameOf (hne : names ≠ []) (h : ∀ s ∈ names, Path.IsName s) :
    Url.segments (nameOf names).toList = names := by
  rw [toList_nameOf, ← Url.segments_cons_slash, slash_joinWith hne, Url.segments_joined h]

/-- Neither end of a name is a slash. -/
lemma trimBy_slash_nameOf (hne : names ≠ []) (h : ∀ s ∈ names, Path.IsName s) :
    Text.trimBy (· = '/') (nameOf names).toList = (nameOf names).toList := by
  have hends (s : List Char) (hs : s ∈ names) (c : Char) (hc : c ∈ s) :
      decide (c = '/') = false := by
    rw [decide_eq_false_iff_not]
    rintro rfl
    exact (h s hs).slash hc
  apply Text.trimBy_of_ends
  · intro c hc
    obtain ⟨s, rest, rfl⟩ := List.exists_cons_of_ne_nil hne
    obtain ⟨d, ds, rfl⟩ := List.exists_cons_of_ne_nil (h s (by simp)).ne_nil
    rw [toList_nameOf, joinWith_cons, List.cons_append, List.head?_cons] at hc
    exact hends (d :: ds) (by simp) c (by simp [Option.some.inj hc])
  · intro c hc
    obtain ⟨init, last, rfl⟩ : ∃ init last, names = init ++ [last] :=
      ⟨_, _, (List.dropLast_concat_getLast hne).symm⟩
    obtain ⟨ds, d, rfl⟩ : ∃ ds d, last = ds ++ [d] :=
      ⟨_, _, (List.dropLast_concat_getLast (h last (by simp)).ne_nil).symm⟩
    have hwhole : '/' :: (nameOf (init ++ [ds ++ [d]])).toList =
        Url.joined init ++ '/' :: ds ++ [d] := by
      rw [toList_nameOf, slash_joinWith (by simp), Url.joined_append, Url.joined_singleton]
      simp
    have hlast := congrArg List.getLast? hwhole
    rw [List.getLast?_concat, List.getLast?_cons, Option.mem_def.1 hc, Option.getD_some] at hlast
    exact hends (ds ++ [d]) (by simp) c (by simp [Option.some.inj hlast])

lemma nameOf_ne (hne : names ≠ []) (h : ∀ s ∈ names, Path.IsName s) :
    (nameOf names).toList ≠ [] := by
  obtain ⟨s, rest, rfl⟩ := List.exists_cons_of_ne_nil hne
  rw [toList_nameOf, joinWith_cons]
  exact List.append_ne_nil_of_left_ne_nil (h s (by simp)).ne_nil _

lemma all_ne_slash {s : List Char} (hs : '/' ∉ s) : s.all (· ≠ '/') := by
  rw [List.all_eq_true]
  intro c hc
  rw [decide_eq_true_iff]
  rintro rfl
  exact hs hc

/-- What begins a name up to a slash is the first part of the name. -/
lemma eq_of_startsWith {s p : List Char} {rest : List (List Char)} (hs : '/' ∉ s) (hp : '/' ∉ p)
    (h : Text.startsWith (p ++ ['/']) (nameOf (s :: rest)).toList) : p = s := by
  obtain ⟨more, hdrop⟩ := Option.isSome_iff_exists.1 h
  have hname := Text.dropPrefix?_eq_some hdrop
  rw [toList_nameOf, joinWith_cons, List.append_assoc, List.singleton_append] at hname
  have hstop : ∀ c ∈ (Url.joined rest).head?, decide (c ≠ '/') = false := by
    cases rest with
    | nil => simp [Url.joined]
    | cons t rest => simp [Url.joined]
  calc p = (p ++ '/' :: more).takeWhile (· ≠ '/') :=
        (Text.takeWhile_append_stop (all_ne_slash hp) (by simp)).symm
    _ = (s ++ Url.joined rest).takeWhile (· ≠ '/') := by rw [hname]
    _ = s := Text.takeWhile_append_stop (all_ne_slash hs) hstop

/-- A name is neither a path from the root nor one from where it is imported. -/
lemma isLegal_nameOf (hne : names ≠ []) (h : ∀ s ∈ names, Path.IsName s) :
    Specifier.isLegal (nameOf names) = false := by
  obtain ⟨s, rest, rfl⟩ := List.exists_cons_of_ne_nil hne
  have hs : Path.IsName s := h s (by simp)
  have hroot : ¬ Text.startsWith ['/'] (nameOf (s :: rest)).toList :=
    fun hstart => hs.ne_nil (eq_of_startsWith (p := []) hs.slash (by decide) hstart).symm
  have hhere : ¬ Text.startsWith ['.', '/'] (nameOf (s :: rest)).toList :=
    fun hstart => hs.ne_here (eq_of_startsWith (p := ['.']) hs.slash (by decide) hstart).symm
  have hup : ¬ Text.startsWith ['.', '.', '/'] (nameOf (s :: rest)).toList :=
    fun hstart => hs.ne_up (eq_of_startsWith (p := ['.', '.']) hs.slash (by decide) hstart).symm
  simp [Specifier.isLegal, hroot, hhere, hup]

lemma redirected?_nameOf (hne : names ≠ []) (h : ∀ s ∈ names, Path.IsName s)
    (hurl : Specifier.isUrl (nameOf names) = false) :
    Specifier.redirected? (nameOf names) = some (urlOf names) := by
  have hempty : nameOf names ≠ "" := fun heq => nameOf_ne hne h (by rw [heq]; rfl)
  have hbare : Specifier.isBare (nameOf names) := by
    rw [Specifier.isBare, isLegal_nameOf hne h, hurl]
    simp [hempty]
  rw [Specifier.redirected?, if_pos hbare, urlOf]

/-! ## The URL -/

lemma isPlainName_rootName : IsPlainName rootName := by decide

lemma toList_urlOf (names : List (List Char)) :
    (urlOf names).toList = libraryRoot.toList ++ (nameOf names).toList := String.toList_append

lemma urlOf_eq (hne : names ≠ []) : urlOf names = Url.ofNames (rootName :: names) := by
  have hroot : libraryRoot.toList = '/' :: (rootName ++ ['/']) := by decide +kernel
  have hsplit : Url.joined (rootName :: names) = '/' :: (rootName ++ Url.joined names) := rfl
  rw [Url.ofNames, hsplit, ← slash_joinWith hne, ← String.ofList_toList (s := urlOf names),
    toList_urlOf, hroot, toList_nameOf, List.cons_append, List.append_assoc,
    List.singleton_append]

lemma extension?_urlOf (names : List (List Char)) :
    Url.extension? (urlOf names) = Url.extension? (nameOf names) := by
  have hroot : libraryRoot.toList = ('/' :: rootName) ++ ['/'] := by decide +kernel
  rw [Url.extension?, toList_urlOf, hroot, List.append_assoc, List.singleton_append,
    Url.extensionChars?_slash, Url.extension?]

variable (hne : names ≠ []) (h : ∀ s ∈ names, IsPlainName s)
include hne h

lemma path_urlOf : Url.path (urlOf names) = urlOf names := by
  rw [urlOf_eq hne, Url.path_ofNames (List.forall_mem_cons.2 ⟨isPlainName_rootName, h⟩)]

/-- The URL is that of a package, unless it ends like that of a script. -/
lemma ofUrl_urlOf (hext : Url.extension? (nameOf names) ≠ some ".js") :
    Artifact.ofUrl (urlOf names) = .library := by
  have hstart : Text.startsWith libraryRoot.toList (urlOf names).toList := by
    rw [toList_urlOf, Text.startsWith, Text.dropPrefix?_append]
    rfl
  have hentry : urlOf names ≠ "/" := by
    intro heq
    rw [heq] at hstart
    exact absurd hstart (by decide +kernel)
  rw [Artifact.ofUrl, path_urlOf hne h, if_neg hentry, extension?_urlOf, if_neg hext,
    if_pos hstart]

lemma packageName_urlOf : packageName (urlOf names) = .ok (nameOf names) := by
  have hname : ∀ s ∈ names, Path.IsName s := fun s hs => (h s hs).name
  rw [packageName, toList_urlOf, Text.dropPrefix?_append, Option.getD_some,
    trimBy_slash_nameOf hne hname]
  split
  · next hnil => exact absurd hnil (nameOf_ne hne hname)
  · rw [String.ofList_toList]

lemma resolve_nameOf (base : Path) : Url.resolve base (nameOf names) = .ok (base.extend names) := by
  have hname : ∀ s ∈ names, Path.IsName s := fun s hs => (h s hs).name
  have hpercent : '%' ∉ (nameOf names).toList := by
    have hnot := Url.not_mem_joined (by decide) fun s hs => (h s hs).percent
    rw [← slash_joinWith hne, List.mem_cons, not_or, ← toList_nameOf] at hnot
    exact hnot.2
  have hup : ['.', '.'] ∉ names := fun hmem => (hname _ hmem).ne_up rfl
  rw [Url.resolve_of_plain base hpercent, segments_nameOf hne hname, if_neg hup]

end Library

/-! ## The package -/

namespace Library

/-- The text leads to the file: it is the path of the file, with `./` before it any number of
times. -/
inductive LeadsTo (file : List Char) : List Char → Prop
  | self : LeadsTo file file
  | here {cs : List Char} (h : LeadsTo file cs) : LeadsTo file ('.' :: '/' :: cs)

/-- What the manifest of a package calls its module is a file of the package. -/
structure NamesFile (module : String) (file : Path) : Prop where
  leadsTo : LeadsTo file.text.toList module.toList
  short : ¬ ['.', '/'] <+: file.text.toList
  relative : file.isAbsolute = false
  notBlank : ∃ c ∈ module.toList, Text.isBlank c = false

/-- A package is installed under its name: there is a manifest in its directory that names a file
as its module, and that file has a text that can be served, as `code`, within the budget. -/
structure Installed (config : Config) (view : View) (names : List (List Char))
    (file : Path) (code : String) : Prop where
  manifest : ∃ text module,
    Fetch.HasText view ((config.modulesDir.extend names).join ⟨"package.json"⟩) text ∧
      Manifest.schema.ofText text = .ok ⟨some module⟩ ∧ NamesFile module file
  bundle : ∃ text, Fetch.HasText view ((config.modulesDir.extend names).join file) text ∧
    redirectImports ((config.modulesDir.extend names).join file).text text = .ok code
  inTime : (view.course ("rewriting " ++ ((config.modulesDir.extend names).join file).text)).Ends
    config.compileMs

lemma LeadsTo.dropHere_eq {file cs : List Char} (h : LeadsTo file cs)
    (hshort : ¬ ['.', '/'] <+: file) : dropHere cs = file := by
  induction h with
  | self =>
    unfold dropHere
    split
    · next cs => exact absurd ⟨cs, rfl⟩ hshort
    · rfl
  | here h ih => rw [dropHere, ih]

lemma NamesFile.moduleOf_eq {module : String} {file : Path} (h : NamesFile module file)
    (package : String) : moduleOf package ⟨some module⟩ = .ok file := by
  have hblank : module.toList.all Text.isBlank = false := by
    obtain ⟨c, hc, hnot⟩ := h.notBlank
    exact List.all_eq_false.2 ⟨c, hc, by simp [hnot]⟩
  simp only [moduleOf, hblank, h.leadsTo.dropHere_eq h.short, Path.ofChars_toList]
  rfl

variable {config : Config} {view : View} {names : List (List Char)} {file : Path}
  {code : String}

/-- The request for an installed package reads its manifest and the file that this names. -/
lemma Installed.on_code (h : Installed config view names file code) (hne : names ≠ [])
    (hplain : ∀ s ∈ names, IsPlainName s) :
    Fetch.On view (Library.code config (urlOf names)) (.ok code)
      [(config.modulesDir.extend names).join ⟨"package.json"⟩,
        (config.modulesDir.extend names).join file] := by
  obtain ⟨text, module, htext, hschema, hfile⟩ := h.manifest
  obtain ⟨source, hsource, hcode⟩ := h.bundle
  have hresolve : Fetch.On view (resolve config (urlOf names))
      (.ok ⟨nameOf names, (config.modulesDir.extend names).join file⟩)
      [(config.modulesDir.extend names).join ⟨"package.json"⟩] := by
    refine (Fetch.on_lift (packageName_urlOf hne hplain)).bind
      ((Fetch.on_lift (resolve_nameOf hne hplain config.modulesDir)).bind
        ((Fetch.on_text _ _ htext).bind ?_))
    rw [hschema]
    exact (Fetch.on_lift (hfile.moduleOf_eq _)).bind (Fetch.on_lift rfl)
  exact hresolve.bind ((Fetch.on_text _ _ hsource).bind (hcode ▸ Fetch.on_work h.inTime))

/-- An installed package is served under the URL that its name is redirected to, unless the name
ends like that of a script. A name is one part, a scope and a part, or more of them; one that
begins like a URL is taken for that and not redirected. -/
theorem served_of_installed (hne : names ≠ []) (hplain : ∀ s ∈ names, IsPlainName s)
    (hurl : Specifier.isUrl (nameOf names) = false)
    (hext : Url.extension? (nameOf names) ≠ some ".js")
    (h : Installed config view names file code) :
    ∃ url, Specifier.redirected? (nameOf names) = some url ∧ Artifact.ofUrl url = .library ∧
      Fetch.On view (Server.handle config url)
        (.ok ⟨.library, ContentType.javascript, octetsOf code⟩)
        [(config.modulesDir.extend names).join ⟨"package.json"⟩,
          (config.modulesDir.extend names).join file] := by
  have hkind := ofUrl_urlOf hne hplain hext
  refine ⟨urlOf names, redirected?_nameOf hne (fun s hs => (hplain s hs).name) hurl, hkind, ?_⟩
  have hhandle : Server.handle config (urlOf names) =
      Server.serveLibrary config (urlOf names) := by
    rw [Server.handle, hkind, path_urlOf hne hplain]
  rw [hhandle]
  exact (h.on_code hne hplain).bind (Fetch.on_lift rfl)

/-- A project at `p` with one package, which has a manifest and a module in `dist`. -/
def projectWith (names : List String) (module code : String) : Tree :=
  let package := Tree.directory
    [("package.json", .file (octetsOf ("\x7b\"module\":\"./dist/" ++ module ++ "\"\x7d"))),
      ("dist", .directory [(module, .file (octetsOf code))])]
  .directory [("p", .directory [("node_modules",
    names.foldr (fun name inner => .directory [(name, inner)]) package)])]

lemma hasText_of_view {path : Path} {text : String}
    (h : view path = .ok (.file (octetsOf text))) : Fetch.HasText view path text :=
  ⟨octetsOf text, h, Utf8.decode?_eq_some_iff.2 rfl⟩

lemma installed_scoped : Installed (Config.ofEntry ⟨"p"⟩ ⟨"index.html"⟩)
    (projectWith ["@a", "b.vue"] "c.js" "export * from 'd'\n").view
    [['@', 'a'], ['b', '.', 'v', 'u', 'e']] ⟨"dist/c.js"⟩
    "export * from '/node_modules/d';\n" where
  manifest := ⟨"\x7b\"module\":\"./dist/c.js\"\x7d", "./dist/c.js",
    hasText_of_view (by decide +kernel), by decide +kernel,
    ⟨.here .self, by decide, by decide, '.', by decide, by decide⟩⟩
  bundle := ⟨"export * from 'd'\n", hasText_of_view (by decide +kernel), by decide +kernel⟩
  inTime := ⟨Nat.zero_le _, rfl⟩

/-- A package with a scope, and with the name of a component behind it. -/
theorem served_of_installed_scoped :
    Installed (Config.ofEntry ⟨"p"⟩ ⟨"index.html"⟩)
      (projectWith ["@a", "b.vue"] "c.js" "export * from 'd'\n").view
      [['@', 'a'], ['b', '.', 'v', 'u', 'e']] ⟨"dist/c.js"⟩ "export * from '/node_modules/d';\n" ∧
    ∃ url, Specifier.redirected? "@a/b.vue" = some url ∧ Artifact.ofUrl url = .library ∧
      Fetch.On (projectWith ["@a", "b.vue"] "c.js" "export * from 'd'\n").view
        (Server.handle (Config.ofEntry ⟨"p"⟩ ⟨"index.html"⟩) url)
        (.ok ⟨.library, ContentType.javascript, octetsOf "export * from '/node_modules/d';\n"⟩)
        [⟨"p/node_modules/@a/b.vue/package.json"⟩, ⟨"p/node_modules/@a/b.vue/dist/c.js"⟩] := by
  have hplain : ∀ s ∈ [['@', 'a'], ['b', '.', 'v', 'u', 'e']], IsPlainName s := by decide
  exact ⟨installed_scoped, served_of_installed (by simp) hplain (by decide +kernel)
    (by decide +kernel) installed_scoped⟩

lemma installed_scriptName : Installed (Config.ofEntry ⟨"p"⟩ ⟨"index.html"⟩)
    (projectWith ["chart.js"] "chart.js" "export default 1\n").view
    [['c', 'h', 'a', 'r', 't', '.', 'j', 's']] ⟨"dist/chart.js"⟩ "export default 1\n" where
  manifest := ⟨"\x7b\"module\":\"./dist/chart.js\"\x7d", "./dist/chart.js",
    hasText_of_view (by decide +kernel), by decide +kernel,
    ⟨.here .self, by decide, by decide, '.', by decide, by decide⟩⟩
  bundle := ⟨"export default 1\n", hasText_of_view (by decide +kernel), by decide +kernel⟩
  inTime := ⟨Nat.zero_le _, rfl⟩

/-- A package whose name ends like that of a script is installed and its name is redirected, but
the request is taken for that of a script, and finds a directory in its place. A name that begins
like a URL is not redirected. -/
theorem unserved_scriptName :
    Installed (Config.ofEntry ⟨"p"⟩ ⟨"index.html"⟩)
      (projectWith ["chart.js"] "chart.js" "export default 1\n").view
      [['c', 'h', 'a', 'r', 't', '.', 'j', 's']] ⟨"dist/chart.js"⟩ "export default 1\n" ∧
    IsPlainName ['c', 'h', 'a', 'r', 't', '.', 'j', 's'] ∧
    Specifier.redirected? "chart.js" = some "/node_modules/chart.js" ∧
    (Server.handle (Config.ofEntry ⟨"p"⟩ ⟨"index.html"⟩) "/node_modules/chart.js").run.run
      (projectWith ["chart.js"] "chart.js" "export default 1\n").view =
        .error (.io ⟨"p/node_modules/chart.js"⟩ .isDirectory) ∧
    Specifier.redirected? "data:chart" = none := by
  exact ⟨installed_scriptName, by decide, by decide +kernel, by decide +kernel,
    by decide +kernel⟩

end Library

end Unbundled
