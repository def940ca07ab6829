import Unbundled.Library
import Unbundled.Proofs.Files.Fetch
import Unbundled.Proofs.Url.Resolution

/-!
# The file that a package is served from

A package is served from the file that its manifest names. That text is only stripped of the `./`
before it: an absolute one replaces the directory of the package, and a relative one leaves it or
not, as there is a `..` in it.
-/

namespace Unbundled

namespace Path

lemma filterMap_innerComponent? {ss : List (List Char)} (hup : ['.', '.'] ∉ ss) :
    ss.filterMap innerComponent? = (ss.filter fun s => s ≠ [] ∧ s ≠ ['.']).map named := by
  induction ss with
  | nil => rfl
  | cons s ss ih =>
    rw [List.mem_cons, not_or] at hup
    by_cases hblank : s = [] ∨ s = ['.']
    · rw [List.filterMap_cons_none (by rw [innerComponent?, if_pos hblank]),
        List.filter_cons_of_neg (by simpa [← not_or] using hblank), ih hup.2]
    · have hs : innerComponent? s = some (named s) := by
        rw [innerComponent?, if_neg hblank, if_neg (Ne.symm hup.1), named]
      rw [List.filterMap_cons_some hs, List.filter_cons_of_pos (by simpa [← not_or] using hblank),
        List.map_cons, ih hup.2]

lemma up_mem_segments {p : Path} :
    ['.', '.'] ∈ Url.segments p.text.toList ↔ ['.', '.'] ∈ p.segments := by
  rw [Url.segments, segments_eq_splitOn, List.mem_filter]
  exact and_iff_left (by decide)

/-- A relative path stays below the directory that it is put behind exactly when there is no `..`
in it, and then it adds its segments. -/
lemma isBelow_join_iff {dir p : Path} (hdir : dir.text ≠ "") (hp : p.isAbsolute = false) :
    dir.IsBelow (dir.join p) ↔ ['.', '.'] ∉ Url.segments p.text.toList := by
  rw [up_mem_segments]
  constructor
  · rintro ⟨names, -, hcomponents⟩ hup
    rw [components_join_relative hdir hp, List.append_cancel_left_eq] at hcomponents
    have hmem : Component.up ∈ names.map named := by
      rw [← hcomponents, List.mem_filterMap]
      exact ⟨_, hup, rfl⟩
    obtain ⟨s, -, hs⟩ := List.mem_map.1 hmem
    cases hs
  · intro hup
    refine ⟨Url.segments p.text.toList, Url.isName_of_mem_segments (mt up_mem_segments.1 hup), ?_⟩
    rw [components_join_relative hdir hp, filterMap_innerComponent? hup, Url.segments,
      segments_eq_splitOn]

end Path

namespace Library

variable {config : Config} {view : View} {path : String} {resolved : Resolved}

/-- Where a package that is found lies, and which file its manifest names there. -/
structure Names (config : Config) (view : View) (resolved : Resolved) (dir file : Path) :
    Prop where
  directory : Url.resolve config.modulesDir resolved.package = .ok dir
  manifest : ∃ text module, Fetch.HasText view (dir.join ⟨"package.json"⟩) text ∧
    Manifest.schema.ofText text = .ok ⟨some module⟩ ∧
    file = Path.ofChars (dropHere module.toList)
  entry : resolved.entry = dir.join file

lemma moduleOf_eq_ok {package : String} {manifest : Manifest} {file : Path}
    (h : moduleOf package manifest = .ok file) : ∃ module, manifest = ⟨some module⟩ ∧
      file = Path.ofChars (dropHere module.toList) := by
  unfold moduleOf at h
  split at h
  · cases h
  · next module hmodule =>
    split at h
    · cases h
    · exact ⟨module, congrArg Manifest.mk hmodule, (Except.ok.inj h).symm⟩

/-- To find a package, its manifest is read and nothing else. -/
lemma names_of_resolve (h : (resolve config path).run.run view = .ok resolved) :
    ∃ dir file, Names config view resolved dir file ∧
      Fetch.On view (resolve config path) (.ok resolved) [dir.join ⟨"package.json"⟩] := by
  obtain ⟨package, hpackage, hdirectory⟩ := Fetch.run_bind_eq_ok.1 h
  obtain ⟨dir, hdir, hread⟩ := Fetch.run_bind_eq_ok.1 hdirectory
  obtain ⟨text, htext, hlast⟩ := Fetch.run_bind_eq_ok.1 hread
  obtain ⟨r, hon, hr⟩ := Fetch.exists_on_text view (dir.join ⟨"package.json"⟩) config.readMs
    (.ofIo (dir.join ⟨"package.json"⟩))
  obtain rfl : r = .ok text := hon.1.symm.trans htext
  cases hschema : Manifest.schema.ofText text with
  | error reason =>
    rw [hschema] at hlast
    cases hlast
  | ok manifest =>
    rw [hschema] at hlast
    obtain ⟨file, hmodule, hfound⟩ := Fetch.run_bind_eq_ok.1 hlast
    obtain ⟨module, rfl, hfile⟩ := moduleOf_eq_ok hmodule
    obtain rfl := Except.ok.inj hfound
    refine ⟨dir, file, ⟨hdir, ⟨text, module, (hr text).1 rfl, hschema, hfile⟩, rfl⟩, ?_⟩
    refine (Fetch.on_lift hpackage).bind ((Fetch.on_lift hdir).bind (hon.bind ?_))
    rw [hschema]
    exact (Fetch.on_lift hmodule).bind (Fetch.on_lift rfl)

/-- The request for a package that is found looks at its manifest and at the file it names. -/
lemma paths_code {dir : Path}
    (h : Fetch.On view (resolve config path) (.ok resolved) [dir.join ⟨"package.json"⟩]) :
    (code config path).run.paths view = [dir.join ⟨"package.json"⟩, resolved.entry] := by
  obtain ⟨r, hread, -⟩ := Fetch.exists_on_text view resolved.entry config.readMs
    (.ofIo resolved.entry)
  exact (h.bind ⟨rfl, hread.paths_bind fun text => Fetch.paths_work ..⟩).2

end Library

/-- A request for a package that is found looks at the manifest in the directory of the package
and at the file that the manifest names. An absolute one is taken as it is, wherever it lies; a
relative one is in the directory of the package exactly when there is no `..` in it. -/
theorem Library.entry_below_iff {config : Config} {view : View} {path : String}
    {resolved : Resolved} (hmodules : config.modulesDir.text ≠ "")
    (h : (Library.resolve config path).run.run view = .ok resolved) :
    ∃ dir file, Names config view resolved dir file ∧
      (code config path).run.paths view = [dir.join ⟨"package.json"⟩, resolved.entry] ∧
      (file.isAbsolute = true → resolved.entry = file) ∧
      (file.isAbsolute = false →
        (dir.IsBelow resolved.entry ↔ ['.', '.'] ∉ Url.segments file.text.toList)) := by
  obtain ⟨dir, file, hnames, hlooks⟩ := names_of_resolve h
  refine ⟨dir, file, hnames, paths_code hlooks, fun habsolute => ?_, fun hrelative => ?_⟩
  · rw [hnames.entry, Path.join, if_pos habsolute]
  · obtain ⟨names, -, hdir⟩ := Url.exists_names_of_resolve hnames.directory
    have htext : dir.text ≠ "" := hdir ▸ Path.text_extend_ne hmodules names
    rw [hnames.entry]
    exact Path.isBelow_join_iff htext hrelative

end Unbundled
