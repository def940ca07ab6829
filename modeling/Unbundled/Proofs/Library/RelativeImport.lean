import Unbundled.Proofs.Server.Confinement
import Unbundled.Proofs.Url.Plain

/-!
# Relative imports of a package

The bundle of a package is served under the URL of the package, and its relative imports are left
as they are. A browser resolves them against that URL, which names neither the directory of the
bundle nor, once its last name is dropped, the package: the file that such a request looks at is
never the one beside the bundle.
-/

namespace Unbundled

/-- Where a browser gets to from a page by the names of a relative specifier: the last name of the
page is dropped, `.` stays, and `..` goes up. -/
def Url.reference (page spec : List (List Char)) : List (List Char) :=
  spec.foldl (fun dir s => if s = ['.'] then dir else if s = ['.', '.'] then dir.dropLast
    else dir ++ [s]) page.dropLast

/-- The first name of the URL of a package. -/
def Library.rootName : List Char := "node_modules".toList

lemma Url.reference_here {page spec : List (List Char)} (h : ∀ s ∈ spec, Path.IsName s) :
    Url.reference page (['.'] :: spec) = page.dropLast ++ spec := by
  have hnames (dir : List (List Char)) : spec.foldl (fun dir s => if s = ['.'] then dir
      else if s = ['.', '.'] then dir.dropLast else dir ++ [s]) dir = dir ++ spec := by
    induction spec generalizing dir with
    | nil => exact (List.append_nil dir).symm
    | cons s spec ih =>
      rw [List.forall_mem_cons] at h
      rw [List.foldl_cons, if_neg h.1.ne_here, if_neg h.1.ne_up, ih h.2, List.append_assoc,
        List.singleton_append]
  exact hnames page.dropLast

namespace Server

variable {config : Config} {view : View} {names : List (List Char)}

lemma scriptFile_ofNames (hne : names ≠ []) (h : ∀ s ∈ names, IsPlainName s) :
    scriptFile config (Url.ofNames (Library.rootName :: names)) =
      .ok (config.modulesDir.extend names) := by
  obtain ⟨s, rest, rfl⟩ := List.exists_cons_of_ne_nil hne
  have hjoined : Url.joined (s :: rest) = '/' :: (s ++ Url.joined rest) := rfl
  have htext : (Url.ofNames (Library.rootName :: s :: rest)).toList =
      libraryRoot.toList ++ (s ++ Url.joined rest) := by
    rw [Url.ofNames, String.toList_ofList]
    change '/' :: (Library.rootName ++ Url.joined (s :: rest)) = _
    have hroot : libraryRoot.toList = '/' :: (Library.rootName ++ ['/']) := by decide +kernel
    rw [hjoined, hroot, List.cons_append, List.append_assoc, List.singleton_append]
  have hsegments : Url.segments (s ++ Url.joined rest) = s :: rest := by
    rw [← Url.segments_cons_slash, ← hjoined]
    exact Url.segments_joined fun t ht => (h t ht).name
  have hpercent : '%' ∉ (String.ofList (s ++ Url.joined rest)).toList := by
    rw [String.toList_ofList]
    have hnot := Url.not_mem_joined (by decide) fun t ht => (h t ht).percent
    rw [hjoined] at hnot
    exact fun hmem => hnot (List.mem_cons_of_mem _ hmem)
  have hup : ['.', '.'] ∉ s :: rest := fun hmem => (h _ hmem).name.ne_up rfl
  rw [scriptFile, htext, Text.dropPrefix?_append]
  change Url.resolve config.modulesDir _ = _
  rw [Url.resolve_of_plain _ hpercent, String.toList_ofList, hsegments, if_neg hup]

lemma paths_serveScript {path : String} {file : Path} (hfile : scriptFile config path = .ok file) :
    (serveScript config path).run.paths view = [file] := by
  obtain ⟨r, hread, -⟩ := Fetch.exists_on_text view file config.readMs (.ofIo file)
  have hserve : Fetch.On view (serveScript config path) _ ([] ++ [file]) :=
    (Fetch.on_lift hfile).bind ⟨rfl, hread.paths_bind fun text => ?_⟩
  · exact hserve.2
  · have hwork : Fetch.On view (Fetch.work ("rewriting " ++ path) config.compileMs
        (redirectImports path text)) _ _ := ⟨rfl, Fetch.paths_work ..⟩
    exact hwork.paths_bind fun code => rfl

lemma ofUrl_ofNames {init : List (List Char)} {last : List Char}
    (h : ∀ s ∈ init ++ [last], IsPlainName s)
    (hext : Url.extensionChars? last = some ['.', 'j', 's']) :
    Artifact.ofUrl (Url.ofNames (init ++ [last])) = .script := by
  have hextension : Url.extension? (Url.ofNames (init ++ [last])) = some ".js" := by
    rw [Url.extension?, Url.extensionChars?_ofNames init last, hext]
    rfl
  have hroot : Url.ofNames (init ++ [last]) ≠ "/" := by
    intro heq
    rw [heq] at hextension
    exact absurd hextension (by decide +kernel)
  rw [Artifact.ofUrl, Url.path_ofNames h]
  rw [if_neg hroot, hextension, if_pos rfl]

/-- The request that a relative import of a package leads to looks at one file, in the directory
of the package and not in the package. -/
lemma paths_reference {package spec : List (List Char)} {last : List Char}
    (hpackage : package ≠ []) (h : ∀ s ∈ package ++ (spec ++ [last]), IsPlainName s)
    (hext : Url.extensionChars? last = some ['.', 'j', 's']) :
    (respond config (Url.ofNames (Url.reference (Library.rootName :: package)
        (['.'] :: (spec ++ [last]))))).paths view =
      [config.modulesDir.extend (package.dropLast ++ (spec ++ [last]))] := by
  obtain ⟨hpackageNames, hspec⟩ := List.forall_mem_append.1 h
  have hnames : ∀ s ∈ package.dropLast ++ (spec ++ [last]), IsPlainName s :=
    List.forall_mem_append.2
      ⟨fun s hs => hpackageNames s (List.dropLast_subset package hs), hspec⟩
  have hroot : IsPlainName Library.rootName :=
    ⟨⟨by decide, by decide, by decide, by decide⟩, by decide, by decide, by decide⟩
  have hall := List.forall_mem_cons.2 ⟨hroot, hnames⟩
  have hkind : Artifact.ofUrl (Url.ofNames
      (Library.rootName :: (package.dropLast ++ (spec ++ [last])))) = .script := by
    rw [← List.append_assoc, ← List.cons_append]
    refine ofUrl_ofNames ?_ hext
    rw [List.cons_append, List.append_assoc]
    exact hall
  rw [Url.reference_here fun s hs => (hspec s hs).name, List.dropLast_cons_of_ne_nil hpackage,
    List.cons_append, paths_respond, handle, hkind, Url.path_ofNames hall]
  exact paths_serveScript (scriptFile_ofNames (by simp) hnames)

end Server

/-- Extended by more names or by fewer, a directory gives another path. -/
lemma Path.extend_ne {base : Path} {names others : List (List Char)}
    (h : ∀ s ∈ names, IsName s) (h' : ∀ s ∈ others, IsName s)
    (hlength : names.length ≠ others.length) : base.extend names ≠ base.extend others := by
  intro heq
  have hcomponents := congrArg (fun p => p.components.length) heq
  simp only [components_extend base h, components_extend base h', List.length_append,
    List.length_map] at hcomponents
  omega

/-- A relative import of a package's bundle looks at one file: in the directory of the package and
not in the package. Wherever the bundle lies, that is not the file beside it. -/
theorem Server.paths_relativeImport (config : Config) (view : View)
    {package spec : List (List Char)} {last : List Char} (hpackage : package ≠ [])
    (h : ∀ s ∈ package ++ (spec ++ [last]), IsPlainName s)
    (hext : Url.extensionChars? last = some ['.', 'j', 's']) :
    (Server.respond config (Url.ofNames (Url.reference (Library.rootName :: package)
        (['.'] :: (spec ++ [last]))))).paths view =
      [config.modulesDir.extend (package.dropLast ++ (spec ++ [last]))] ∧
    ∀ dir : List (List Char), (∀ s ∈ dir, Path.IsName s) →
      config.modulesDir.extend (package ++ dir ++ (spec ++ [last])) ≠
        config.modulesDir.extend (package.dropLast ++ (spec ++ [last])) := by
  refine ⟨paths_reference hpackage h hext, fun dir hdir => ?_⟩
  obtain ⟨hpackageNames, hspec⟩ := List.forall_mem_append.1 fun s hs => (h s hs).name
  apply Path.extend_ne
  · exact List.forall_mem_append.2 ⟨List.forall_mem_append.2 ⟨hpackageNames, hdir⟩, hspec⟩
  · exact List.forall_mem_append.2
      ⟨fun s hs => hpackageNames s (List.dropLast_subset package hs), hspec⟩
  · -- the last name of the package is missing in the second one
    have hpositive := List.length_pos_iff.2 hpackage
    simp only [List.length_append, List.length_dropLast]
    omega

end Unbundled
