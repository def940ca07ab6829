import Unbundled.Proofs.Files.Below
import Unbundled.Proofs.Text.Percent
import Unbundled.Proofs.Text.Utf8
import Unbundled.Url

/-!
# The file that a path names

A path is read as octets with escapes, these as a text, and the text as names between slashes. The
file is the directory extended by those names; a `..` among them is refused.
-/

namespace Unbundled.Url

/-- The stretches between slashes that carry meaning: neither empty ones nor `.`. -/
def segments (cs : List Char) : List (List Char) :=
  (cs.splitOn '/').filter fun s => s ≠ [] ∧ s ≠ ['.']

/-! ## Segments -/

lemma segments_slash (as bs : List Char) :
    segments (as ++ '/' :: bs) = segments as ++ segments bs := by
  rw [segments, List.splitOn_append_cons_self, List.filter_append]
  rfl

lemma segments_cons_slash (cs : List Char) : segments ('/' :: cs) = segments cs :=
  segments_slash [] cs

lemma segments_dropWhile (cs : List Char) :
    segments (cs.dropWhile (· = '/')) = segments cs := by
  induction cs with
  | nil => rfl
  | cons c cs ih =>
    by_cases hc : c = '/'
    · rw [hc, List.dropWhile_cons_of_pos (by decide), ih, segments_cons_slash]
    · rw [List.dropWhile_cons_of_neg (by simpa using hc)]

lemma segments_name {s : List Char} (hs : Path.IsName s) : segments s = [s] := by
  rw [segments, List.splitOn_eq_singleton hs.slash, List.filter_cons_of_pos]
  · rfl
  · simpa using ⟨hs.ne_nil, hs.ne_here⟩

/-- The text of names, each behind a slash. -/
def joined (names : List (List Char)) : List Char := names.flatMap ('/' :: ·)

lemma segments_joined {names : List (List Char)} (h : ∀ s ∈ names, Path.IsName s) :
    segments (joined names) = names := by
  induction names with
  | nil => rfl
  | cons s names ih =>
    rw [List.forall_mem_cons] at h
    have hrest := ih h.2
    have hstep : joined (s :: names) = '/' :: (s ++ joined names) := rfl
    rw [hstep, segments_cons_slash]
    cases names with
    | nil => rw [joined, List.flatMap_nil, List.append_nil, segments_name h.1]
    | cons t names =>
      have hnext : joined (t :: names) = '/' :: (t ++ joined names) := rfl
      rw [hnext, segments_cons_slash] at hrest
      rw [hnext, segments_slash, segments_name h.1, hrest, List.singleton_append]

lemma not_mem_of_mem_splitOn {cs s : List Char} (hs : s ∈ cs.splitOn '/') : '/' ∉ s := by
  induction cs generalizing s with
  | nil =>
    rw [List.splitOn_nil, List.mem_singleton] at hs
    simp [hs]
  | cons c cs ih =>
    rw [List.splitOn_cons_eq_if_modifyHead] at hs
    split at hs
    · rcases List.mem_cons.1 hs with rfl | hs
      · simp
      · exact ih hs
    · next hc =>
      obtain ⟨t, ts, hsplit⟩ := List.exists_cons_of_ne_nil (List.splitOn_ne_nil '/' cs)
      rw [hsplit, List.modifyHead_cons, List.mem_cons] at hs
      rcases hs with rfl | hs
      · rw [List.mem_cons, not_or]
        exact ⟨fun heq => hc (by simp [← heq]), ih (by simp [hsplit])⟩
      · exact ih (by simp [hsplit, hs])

lemma isName_of_mem_segments {cs : List Char} (hup : ['.', '.'] ∉ segments cs) :
    ∀ s ∈ segments cs, Path.IsName s := by
  intro s hs
  have hmem := List.mem_filter.1 hs
  have hplain := of_decide_eq_true hmem.2
  exact ⟨hplain.1, hplain.2, fun heq => hup (heq ▸ hs), not_mem_of_mem_splitOn hmem.1⟩

/-! ## The directory and the segments -/

/-- The directory with one more component; `..` and a root are refused. -/
def appendComponent (path : String) (dir : Path) : Path.Component → Except Failure Path
  | .name s => .ok (dir.join ⟨s⟩)
  | .here => .ok dir
  | .up | .root => .error (.forbidden path)

/-- The directory with one more segment; `..` is refused. -/
def appendSegment (path : String) (dir : Path) (s : List Char) : Except Failure Path :=
  if s = ['.', '.'] then .error (.forbidden path) else .ok (dir.join (Path.ofChars s))

lemma appendComponent_inner (path : String) (dir : Path) {s : List Char}
    (h : ¬ (s = [] ∨ s = ['.'])) : ∃ c, Path.innerComponent? s = some c ∧
      appendComponent path dir c = appendSegment path dir s := by
  rw [Path.innerComponent?, if_neg h, appendSegment]
  by_cases hup : s = ['.', '.']
  · rw [if_pos hup, if_pos hup]
    exact ⟨.up, rfl, rfl⟩
  · rw [if_neg hup, if_neg hup]
    exact ⟨.name (String.ofList s), rfl, rfl⟩

lemma foldlM_innerComponent? (path : String) (dir : Path) (ss : List (List Char)) :
    (ss.filterMap Path.innerComponent?).foldlM (appendComponent path) dir =
      (ss.filter fun s => s ≠ [] ∧ s ≠ ['.']).foldlM (appendSegment path) dir := by
  induction ss generalizing dir with
  | nil => rfl
  | cons s ss ih =>
    by_cases hblank : s = [] ∨ s = ['.']
    · rw [List.filterMap_cons_none (by rw [Path.innerComponent?, if_pos hblank]),
        List.filter_cons_of_neg (by simpa [← not_or] using hblank), ih]
    · obtain ⟨c, hc, hsame⟩ := appendComponent_inner path dir hblank
      rw [List.filterMap_cons_some hc, List.filter_cons_of_pos (by simpa [← not_or] using hblank),
        List.foldlM_cons, List.foldlM_cons, hsame]
      exact congrArg (appendSegment path dir s >>= ·) (funext ih)

/-- Of a text that begins with no slash, the components are the segments. -/
lemma foldlM_components (path : String) (dir : Path) {cs : List Char}
    (h : (Path.ofChars cs).isAbsolute = false) :
    (Path.ofChars cs).components.foldlM (appendComponent path) dir =
      (segments cs).foldlM (appendSegment path) dir := by
  obtain ⟨s, rest, hsegments⟩ := Path.exists_segments (Path.ofChars cs)
  have hsplit : cs.splitOn '/' = s :: rest := by
    rw [← hsegments, Path.segments_eq_splitOn, Path.toList_ofChars]
  rw [Path.components_of_segments hsegments, h, segments, hsplit]
  by_cases hhere : s = ['.']
  · subst hhere
    exact foldlM_innerComponent? path dir rest
  · have hfirst : Path.firstComponent? false s = Path.innerComponent? s := by
      rw [Path.firstComponent?, if_neg Bool.false_ne_true, if_neg hhere]
    have hcons : (Path.innerComponent? s).toList ++ rest.filterMap Path.innerComponent? =
        (s :: rest).filterMap Path.innerComponent? := by
      cases hinner : Path.innerComponent? s with
      | none => rw [List.filterMap_cons_none hinner, Option.toList_none, List.nil_append]
      | some c => rw [List.filterMap_cons_some hinner, Option.toList_some, List.singleton_append]
    rw [hfirst, hcons, foldlM_innerComponent?]

lemma foldlM_appendSegment (path : String) (dir : Path) (ss : List (List Char)) :
    ss.foldlM (appendSegment path) dir =
      if ['.', '.'] ∈ ss then .error (.forbidden path) else .ok (dir.extend ss) := by
  induction ss generalizing dir with
  | nil => rfl
  | cons s ss ih =>
    rw [List.foldlM_cons]
    by_cases hup : s = ['.', '.']
    · rw [if_pos (by simp [hup]), appendSegment, if_pos hup]
      rfl
    · have hiff : ['.', '.'] ∈ s :: ss ↔ ['.', '.'] ∈ ss := by
        rw [List.mem_cons, or_iff_right (Ne.symm hup)]
      have hstep : dir.extend (s :: ss) = (dir.join (Path.ofChars s)).extend ss := rfl
      rw [appendSegment, if_neg hup, hstep]
      simp only [hiff]
      exact ih (dir.join (Path.ofChars s))

/-! ## Resolving a path -/

/-- The octets that a path stands for. -/
def octets (path : String) : List UInt8 := Percent.decode (Utf8.encode path.toList)

lemma resolve_of_no_text {base : Path} {path : String}
    (h : ∀ text, Utf8.encode text ≠ octets path) :
    resolve base path = .error (.notFound ⟨path⟩) := by
  rw [resolve, ← octets, Utf8.decode?_eq_none_iff.2 h]

/-- A path that stands for a text resolves to the directory extended by its segments, and is
refused if there is a `..` among them. -/
lemma resolve_of_text {base : Path} {path : String} {text : List Char}
    (h : Utf8.encode text = octets path) : resolve base path =
      if ['.', '.'] ∈ segments text then .error (.forbidden path)
      else .ok (base.extend (segments text)) := by
  have hrelative : (Path.ofChars (text.dropWhile (· = '/'))).isAbsolute = false := by
    rw [Bool.eq_false_iff, Ne, Path.isAbsolute_ofChars]
    intro hhead
    have hnot := List.head?_dropWhile_not (fun c : Char => decide (c = '/')) text
    rw [hhead] at hnot
    exact absurd hnot (by decide)
  rw [resolve, ← octets, Utf8.decode?_eq_some_iff.2 h]
  change (Path.ofChars (text.dropWhile (· = '/'))).components.foldlM (appendComponent path) base = _
  rw [foldlM_components path base hrelative, segments_dropWhile, foldlM_appendSegment]

/-- `bs` are the octets of a path that spells the names, each behind a slash: octets stand for
themselves or are written as escapes. -/
inductive WritesPath : List (List Char) → List UInt8 → Prop
  | nil : WritesPath [] []
  | cons {s : List Char} {names : List (List Char)} {bs rest : List UInt8}
      (hs : Percent.Writes (Utf8.encode s) bs) (hrest : WritesPath names rest) :
      WritesPath (s :: names) (0x2F :: (bs ++ rest))

lemma WritesPath.writes {names : List (List Char)} {bs : List UInt8} (h : WritesPath names bs) :
    Percent.Writes (Utf8.encode (joined names)) bs := by
  induction h with
  | nil => exact .nil
  | @cons s names bs rest hs hrest ih =>
    have hstep : Utf8.encode (joined (s :: names)) =
        0x2F :: (Utf8.encode s ++ Utf8.encode (joined names)) := by
      change Utf8.encode ('/' :: (s ++ joined names)) = _
      rw [Utf8.encode, List.flatMap_cons, List.flatMap_append]
      rfl
    rw [hstep]
    exact .raw (by decide) (hs.append ih)

/-- Whichever way names are spelled, the path resolves to the directory extended by them. -/
lemma resolve_of_writesPath (base : Path) {names : List (List Char)} {path : String}
    (h : ∀ s ∈ names, Path.IsName s) (hpath : WritesPath names (Utf8.encode path.toList)) :
    resolve base path = .ok (base.extend names) := by
  have htext : Utf8.encode (joined names) = octets path :=
    Percent.reads_iff.1 hpath.writes.reads
  have hup : ['.', '.'] ∉ names := fun hmem => (h _ hmem).ne_up rfl
  rw [resolve_of_text htext, segments_joined h, if_neg hup]

lemma exists_names_of_resolve {base file : Path} {path : String}
    (h : resolve base path = .ok file) :
    ∃ names : List (List Char), (∀ s ∈ names, Path.IsName s) ∧ file = base.extend names := by
  by_cases htext : ∃ text, Utf8.encode text = octets path
  · obtain ⟨text, htext⟩ := htext
    rw [resolve_of_text htext] at h
    split at h
    · cases h
    · next hup => exact ⟨segments text, isName_of_mem_segments hup, (Except.ok.inj h).symm⟩
  · rw [resolve_of_no_text (not_exists.1 htext)] at h
    cases h

/-- A file that a path resolves to lies below the directory. -/
lemma isBelow_of_resolve {base file : Path} {path : String} (h : resolve base path = .ok file) :
    base.IsBelow file := by
  obtain ⟨names, hnames, rfl⟩ := exists_names_of_resolve h
  exact Path.isBelow_extend base hnames

end Unbundled.Url
