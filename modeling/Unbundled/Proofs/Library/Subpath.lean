import Unbundled.Proofs.Library.ByName
import Unbundled.Proofs.Script.Redirection

/-!
# The file behind a redirected specifier

A bare specifier names a package, or a file or directory inside one. The URL that it is redirected
to gives the specifier back, and the request for that URL looks for the manifest of just that
directory; where the specifier ends like a script, it looks for that file and nothing else.
-/

namespace Unbundled

namespace Path

/-! ## Paths behind paths -/

/-- A text that neither begins nor ends with a slash, and is not empty. -/
structure IsTrimmed (s : List Char) : Prop where
  ne_nil : s ≠ []
  head : s.head? ≠ some '/'
  last : s.getLast? ≠ some '/'

lemma IsName.isTrimmed {s : List Char} (hs : IsName s) : IsTrimmed s :=
  ⟨hs.ne_nil, fun h => hs.slash (List.mem_of_head? h), fun h => hs.slash (List.mem_of_getLast? h)⟩

lemma IsTrimmed.not_isAbsolute {s : List Char} (hs : IsTrimmed s) :
    (ofChars s).isAbsolute = false := by
  rw [Bool.eq_false_iff, Ne, isAbsolute_ofChars]
  exact hs.head

lemma IsTrimmed.slash {s t : List Char} (hs : IsTrimmed s) (ht : IsTrimmed t) :
    IsTrimmed (s ++ '/' :: t) := by
  obtain ⟨c, s, rfl⟩ := List.exists_cons_of_ne_nil hs.ne_nil
  obtain ⟨d, t, rfl⟩ := List.exists_cons_of_ne_nil ht.ne_nil
  refine ⟨by simp, by simpa using hs.head, ?_⟩
  rw [List.getLast?_append, List.getLast?_cons_cons]
  simpa [List.getLast?_cons] using ht.last

/-- A path behind one that was put behind a directory is behind the directory, too. -/
lemma join_join (dir : Path) {s t : List Char} (hs : IsTrimmed s) (ht : IsTrimmed t) :
    (dir.join (ofChars s)).join (ofChars t) = dir.join (ofChars (s ++ '/' :: t)) := by
  obtain ⟨cs, rfl⟩ : ∃ cs, dir = ofChars cs := ⟨_, (ofChars_toList dir).symm⟩
  -- the text in front of `t` ends with `s`, so a slash is needed there
  have hneeded (as : List Char) : ¬ (as ++ s = [] ∨ (as ++ s).getLast? = some '/') := by
    obtain ⟨c, s, rfl⟩ := List.exists_cons_of_ne_nil hs.ne_nil
    rw [List.getLast?_append]
    simpa [List.getLast?_cons] using hs.last
  rw [join_relative cs hs.not_isAbsolute, join_relative cs (hs.slash ht).not_isAbsolute,
    toList_ofChars, toList_ofChars]
  split
  · rw [join_relative _ ht.not_isAbsolute, if_neg (hneeded cs), toList_ofChars, List.append_assoc]
  · have hslash : cs ++ '/' :: s = (cs ++ ['/']) ++ s := by simp
    rw [hslash, join_relative _ ht.not_isAbsolute, if_neg (hneeded _), toList_ofChars]
    simp

lemma extend_join (dir : Path) {s : List Char} {names : List (List Char)} (hs : IsTrimmed s)
    (h : ∀ t ∈ names, IsName t) :
    (dir.join (ofChars s)).extend names = dir.join (ofChars (s ++ Url.joined names)) := by
  induction names generalizing s with
  | nil => simp [extend, Url.joined]
  | cons t names ih =>
    obtain ⟨ht, hnames⟩ := List.forall_mem_cons.1 h
    have hstep : (dir.join (ofChars s)).extend (t :: names) =
        ((dir.join (ofChars s)).join (ofChars t)).extend names := rfl
    rw [hstep, join_join dir hs ht.isTrimmed, ih (hs.slash ht.isTrimmed) hnames]
    simp [Url.joined]

end Path

namespace Library

variable {names : List (List Char)}

/-! ## The specifier as names -/

lemma joined_splitOn (cs : List Char) : Url.joined (cs.splitOn '/') = '/' :: cs := by
  induction cs with
  | nil => rfl
  | cons c cs ih =>
    rw [List.splitOn_cons_eq_if_modifyHead]
    split
    next hc =>
      rw [eq_of_beq hc]
      exact congrArg ('/' :: ·) ih
    next =>
      obtain ⟨s, rest, hsplit⟩ := List.exists_cons_of_ne_nil (List.splitOn_ne_nil '/' cs)
      rw [hsplit] at ih ⊢
      exact congrArg (fun cs => '/' :: c :: cs) (List.cons.inj ih).2

/-- A text is the name made of what stands between its slashes. -/
lemma nameOf_splitOn (spec : String) : nameOf (spec.toList.splitOn '/') = spec := by
  have hjoined := joined_splitOn spec.toList
  rw [← slash_joinWith (List.splitOn_ne_nil '/' spec.toList)] at hjoined
  rw [nameOf, (List.cons.inj hjoined).2, String.ofList_toList]

/-- The directory extended by the parts of a name is the directory with the name behind it. -/
lemma extend_eq_join (dir : Path) (hne : names ≠ []) (h : ∀ s ∈ names, Path.IsName s) :
    dir.extend names = dir.join ⟨nameOf names⟩ := by
  obtain ⟨s, rest, rfl⟩ := List.exists_cons_of_ne_nil hne
  obtain ⟨hs, hrest⟩ := List.forall_mem_cons.1 h
  have hjoin := Path.extend_join dir hs.isTrimmed hrest
  rw [nameOf, joinWith_cons]
  exact hjoin

/-! ## The requests -/

section

variable {config : Config} {view : View} (hne : names ≠ [])
  (h : ∀ s ∈ names, IsPlainName s)

include hne h

/-- To find a package, its manifest is looked at, and nothing else, whatever comes of it. -/
lemma paths_resolve : (resolve config (urlOf names)).run.paths view =
    [(config.modulesDir.extend names).join ⟨"package.json"⟩] := by
  let manifest := (config.modulesDir.extend names).join ⟨"package.json"⟩
  obtain ⟨r, hread, -⟩ := Fetch.exists_on_text view manifest config.readMs (.ofIo manifest)
  have hresolve : Fetch.On view (resolve config (urlOf names)) _ ([] ++ ([] ++ [manifest])) :=
    (Fetch.on_lift (packageName_urlOf hne h)).bind
      ((Fetch.on_lift (resolve_nameOf hne h config.modulesDir)).bind
        ⟨rfl, hread.paths_bind fun text => ?_⟩)
  · exact hresolve.2
  · cases Manifest.schema.ofText text with
    | error reason => rfl
    | ok manifest =>
      dsimp only
      cases moduleOf (nameOf names) manifest <;> rfl

lemma ofUrl_urlOf_script (hext : Url.extension? (nameOf names) = some ".js") :
    Artifact.ofUrl (urlOf names) = .script := by
  have hentry : urlOf names ≠ "/" := by
    intro heq
    rw [← extension?_urlOf, heq] at hext
    exact absurd hext (by decide +kernel)
  rw [Artifact.ofUrl, path_urlOf hne h, if_neg hentry, extension?_urlOf, if_pos hext]

lemma paths_handle_script (hext : Url.extension? (nameOf names) = some ".js") :
    (Server.handle config (urlOf names)).run.paths view = [config.modulesDir.extend names] := by
  rw [Server.handle, ofUrl_urlOf_script hne h hext, path_urlOf hne h]
  dsimp only
  rw [urlOf_eq hne]
  exact Server.paths_serveScript (Server.scriptFile_ofNames hne h)

end

/-- A bare specifier that is made of plain names is redirected to a URL that is left alone from then
on. It is the URL of a library, whose name is the specifier, and to find that one looks at the
manifest below the specifier; or, where the specifier ends like a script, it is the URL of that
script, and its file is looked at. -/
theorem paths_of_specifier {spec : String} (hbare : Specifier.isBare spec)
    (hplain : ∀ s ∈ spec.toList.splitOn '/', IsPlainName s) :
    ∃ url, Specifier.redirected? spec = some url ∧ Specifier.isLegal url ∧
      Specifier.redirected? url = none ∧
      (Url.extension? spec ≠ some ".js" → Artifact.ofUrl url = .library ∧
        packageName (Url.path url) = .ok spec ∧
        ∀ config view, (resolve config url).run.paths view =
          [(config.modulesDir.join ⟨spec⟩).join ⟨"package.json"⟩]) ∧
      (Url.extension? spec = some ".js" → Artifact.ofUrl url = .script ∧
        ∀ config view, (Server.handle config url).run.paths view =
          [config.modulesDir.join ⟨spec⟩]) := by
  obtain ⟨names, hne, hspec, hparts⟩ : ∃ names, names ≠ [] ∧ spec = nameOf names ∧
      ∀ s ∈ names, IsPlainName s :=
    ⟨_, List.splitOn_ne_nil '/' _, (nameOf_splitOn spec).symm, hplain⟩
  have hnames : ∀ s ∈ names, Path.IsName s := fun s hs => (hparts s hs).name
  have hagain : Specifier.redirected? (libraryRoot ++ spec) = none :=
    if_neg (Bool.eq_false_iff.1 (isBare_libraryRoot spec))
  refine ⟨libraryRoot ++ spec, if_pos hbare, isLegal_libraryRoot spec, hagain, ?_⟩
  subst hspec
  refine ⟨fun hext => ⟨ofUrl_urlOf hne hparts hext, ?_, fun config view => ?_⟩,
    fun hext => ⟨ofUrl_urlOf_script hne hparts hext, fun config view => ?_⟩⟩
  · rw [← urlOf, path_urlOf hne hparts, packageName_urlOf hne hparts]
  · rw [← extend_eq_join config.modulesDir hne hnames]
    exact paths_resolve hne hparts
  · rw [← extend_eq_join config.modulesDir hne hnames]
    exact paths_handle_script hne hparts hext

/-- A directory inside a package, and a script beside it. -/
theorem paths_of_specifier_lodash :
    (resolve (Config.ofEntry ⟨"p"⟩ ⟨"index.html"⟩) "/node_modules/lodash/fp").run.paths
        (Tree.directory []).view = [⟨"p/node_modules/lodash/fp/package.json"⟩] ∧
      (Server.handle (Config.ofEntry ⟨"p"⟩ ⟨"index.html"⟩) "/node_modules/lodash/fp.js").run.paths
        (Tree.directory []).view = [⟨"p/node_modules/lodash/fp.js"⟩] := by
  have hdirectory : ∀ s ∈ "lodash/fp".toList.splitOn '/', IsPlainName s := by decide +kernel
  have hscript : ∀ s ∈ "lodash/fp.js".toList.splitOn '/', IsPlainName s := by decide +kernel
  constructor
  · obtain ⟨url, hurl, -, -, hlibrary, -⟩ := paths_of_specifier (by decide +kernel) hdirectory
    have hgiven : Specifier.redirected? "lodash/fp" = some "/node_modules/lodash/fp" := by
      decide +kernel
    obtain rfl := Option.some.inj (hurl.symm.trans hgiven)
    exact (hlibrary (by decide +kernel)).2.2 _ _
  · obtain ⟨url, hurl, -, -, -, hfile⟩ := paths_of_specifier (by decide +kernel) hscript
    have hgiven : Specifier.redirected? "lodash/fp.js" = some "/node_modules/lodash/fp.js" := by
      decide +kernel
    obtain rfl := Option.some.inj (hurl.symm.trans hgiven)
    exact (hfile (by decide +kernel)).2 _ _

end Library

end Unbundled
