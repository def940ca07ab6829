import Unbundled.Proofs.Template.LoopReadings

/-!
# Values of loops

A value that is written as an alias, a separator and a source is read back as these, whatever the
source holds. A value is refused exactly where nothing in it can be a separator.
-/

namespace Unbundled.Template

open Text (isPatternBlank dropRightWhile)

/-! ## Separators in a value -/

/-- A separator at the start of a text, with something to read behind it. -/
def StartsSeparated (cs : List Char) : Prop :=
  ∃ before word behind rest, cs = before ++ (word ++ (behind ++ rest)) ∧ isGap before ∧
    word ∈ loopWords ∧ isGap behind ∧ ¬ rest.all isPatternBlank

/-- One of the words stands between blanks, and more than blanks follows. -/
def IsSeparated (cs : List Char) : Prop :=
  ∃ front b word b' behind, cs = front ++ b :: (word ++ b' :: behind) ∧ isPatternBlank b ∧
    word ∈ loopWords ∧ isPatternBlank b' ∧ ∃ c ∈ behind, isPatternBlank c = false

lemma sourcesBehind_eq_nil_iff {word cs : List Char} : sourcesBehind word cs = [] ↔
    ∀ gap rest, cs = word ++ (gap ++ rest) → isGap gap → rest.all isPatternBlank := by
  simp only [sourcesBehind, List.flatMap_eq_nil_iff, Option.mem_toList, Prod.forall, mem_longest,
    sourcesAt_eq_nil_iff]
  constructor
  · rintro h gap rest rfl hgap
    exact h _ (Text.dropPrefix?_append word _) gap rest ⟨rfl, hgap⟩
  · rintro h _ hdrop gap rest ⟨rfl, hgap⟩
    exact h gap rest (Text.dropPrefix?_eq_some hdrop) hgap

lemma separatedSources_eq_nil_iff {cs : List Char} :
    separatedSources cs = [] ↔ ¬ StartsSeparated cs := by
  simp only [separatedSources, List.flatMap_eq_nil_iff, Prod.forall, mem_longest,
    sourcesBehind_eq_nil_iff, StartsSeparated, not_exists, not_and, not_not]
  constructor
  · rintro h before word behind rest rfl hbefore hword hbehind
    exact h before _ ⟨rfl, hbefore⟩ word hword behind rest rfl hbehind
  · rintro h before _ ⟨rfl, hbefore⟩ word hword behind rest rfl hbehind
    exact h before word behind rest rfl hbefore hword hbehind

lemma loopSource?_eq_none_iff {cs : List Char} : loopSource? cs = none ↔ ¬ StartsSeparated cs := by
  rw [loopSource?_eq_head?, List.head?_eq_none_iff, separatedSources_eq_nil_iff]

lemma splitLoop?_eq_none_iff {value : String} : splitLoop? value = none ↔
    ∀ front rest, value.toList = front ++ rest → ¬ StartsSeparated rest := by
  rw [splitLoop?_eq_head?_readings, Option.map_eq_none_iff, List.head?_eq_none_iff, readings]
  simp only [List.flatMap_eq_nil_iff, List.map_eq_nil_iff, Prod.forall, mem_longest, mem_cuts,
    separatedSources_eq_nil_iff]
  constructor
  · intro h front rest hvalue
    exact h [] value.toList ⟨rfl, rfl⟩ front rest hvalue
  · rintro h blanks cs ⟨hvalue, -⟩ front rest rfl
    exact h (blanks ++ front) rest (by rw [hvalue, List.append_assoc])

lemma isSeparated_iff {cs : List Char} :
    IsSeparated cs ↔ ∃ front rest, cs = front ++ rest ∧ StartsSeparated rest := by
  constructor
  · rintro ⟨front, b, word, b', behind, rfl, hb, hword, hb', c, hc, hvisible⟩
    refine ⟨front, _, rfl, [b], word, [b'], behind, rfl, ?_, hword, ?_, fun hall => ?_⟩
    · simp [isGap, hb]
    · simp [isGap, hb']
    · rw [List.all_eq_true.1 hall c hc] at hvisible
      cases hvisible
  · rintro ⟨front, _, rfl, before, word, behind, rest, rfl, hbefore, hword, hbehind, hrest⟩
    rw [isGap_iff] at hbefore hbehind
    obtain ⟨blanks, b, rfl⟩ := (List.eq_nil_or_concat before).resolve_left hbefore.1
    obtain ⟨b', gap, rfl⟩ := List.exists_cons_of_ne_nil hbehind.1
    refine ⟨front ++ blanks, b, word, b', gap ++ rest, by simp, ?_, hword, ?_, ?_⟩
    · exact List.all_eq_true.1 hbefore.2 b (by simp)
    · exact List.all_eq_true.1 hbehind.2 b' (by simp)
    · obtain ⟨c, hc, hvisible⟩ := by simpa using hrest
      exact ⟨c, List.mem_append_right gap hc, hvisible⟩

/-! ## Values as they are written -/

/-- A text that is not empty, with no character of `p` at its ends. -/
structure IsTight (p : Char → Bool) (cs : List Char) : Prop where
  some : cs ≠ []
  first : ∀ c ∈ cs.head?, p c = false
  last : ∀ c ∈ cs.getLast?, p c = false

/-- An alias and a source with a separator between them and blanks around. The first word of the
alias may be any, since no alias can end in front of it. -/
structure WritesLoop (binder source value : List Char) : Prop where
  tight : IsTight Text.isBlank binder
  words : ∀ word ∈ (Text.splitAt isPatternBlank binder).tail, word ∉ loopWords
  tightSource : IsTight isPatternBlank source
  parts : ∃ front before word behind back,
    value = front ++ (binder ++ (before ++ (word ++ (behind ++ (source ++ back))))) ∧
      front.all isPatternBlank ∧ isGap before ∧ word ∈ loopWords ∧ isGap behind ∧
      back.all isPatternBlank

lemma head_of_gap {gap : List Char} (h : isGap gap) (rest : List Char) :
    ∀ c ∈ (gap ++ rest).head?, isPatternBlank c := by
  obtain ⟨b, blanks, rfl⟩ := List.exists_cons_of_ne_nil (isGap_iff.1 h).1
  rintro c ⟨⟩
  exact List.all_eq_true.1 (isGap_iff.1 h).2 b List.mem_cons_self

lemma dropLoopWord_eq_some {word cs rest : List Char} (hword : word ∈ loopWords)
    (h : dropWordAndBlank? word cs = some rest) :
    (dropWordAndBlank? ['i', 'n'] cs).or (dropWordAndBlank? ['o', 'f'] cs) = some rest := by
  obtain rfl | rfl : word = ['i', 'n'] ∨ word = ['o', 'f'] := by simpa [loopWords] using hword
  · rw [h, Option.some_or]
  · obtain hin | hof := one_loopWord cs
    · rw [hin, h, Option.none_or]
    · rw [hof] at h
      cases h

lemma loopSource?_written {before word behind source back : List Char} (hbefore : isGap before)
    (hword : word ∈ loopWords) (hbehind : isGap behind) (hsource : IsTight isPatternBlank source)
    (hback : back.all isPatternBlank) :
    loopSource? (before ++ (word ++ (behind ++ (source ++ back)))) = some source := by
  obtain ⟨someWord, hvisible⟩ := loopWord_cases hword
  rw [isGap_iff] at hbefore hbehind
  have hdropped : (before ++ (word ++ (behind ++ (source ++ back)))).dropWhile isPatternBlank =
      word ++ (behind ++ (source ++ back)) := by
    apply Text.dropWhile_append_stop hbefore.2
    intro c hc
    rw [List.head?_append_of_ne_nil _ someWord] at hc
    exact hvisible c (List.mem_of_mem_head? hc)
  have hrest : dropWordAndBlank? word (word ++ (behind ++ (source ++ back))) =
      some (source ++ back) := by
    refine dropWordAndBlank?_eq_some_iff.2 ⟨behind, rfl, hbehind.1, hbehind.2, ?_⟩
    rw [List.head?_append_of_ne_nil _ hsource.some]
    exact hsource.first
  have htrimmed : dropRightWhile isPatternBlank (source ++ back) = source :=
    Text.dropRightWhile_eq_iff.2 ⟨back, rfl, hback, hsource.last⟩
  obtain ⟨b, blanks, rfl⟩ := List.exists_cons_of_ne_nil hbefore.1
  obtain ⟨s, ss, rfl⟩ := List.exists_cons_of_ne_nil hsource.some
  have hb : isPatternBlank b := List.all_eq_true.1 hbefore.2 b List.mem_cons_self
  unfold loopSource?
  rw [List.cons_append] at hdropped ⊢
  dsimp only
  rw [hdropped, dropLoopWord_eq_some hword hrest, Option.map_some, htrimmed, hb]
  rfl

/-- A word in front of a blank does not reach over what ends in front of a blank. -/
lemma exists_behind_word {cs rest word more : List Char}
    (hword : ∀ c ∈ word, isPatternBlank c = false) (hrest : ∀ c ∈ rest.head?, isPatternBlank c)
    (hmore : ∀ c ∈ more.head?, isPatternBlank c) (h : cs ++ rest = word ++ more) :
    ∃ behind, cs = word ++ behind ∧ ∀ c ∈ behind.head?, isPatternBlank c := by
  rw [List.append_eq_append_iff] at h
  obtain ⟨extra, rfl, rfl⟩ | ⟨behind, rfl, rfl⟩ := h
  · cases extra with
    | nil => exact ⟨[], by simp, by simp⟩
    | cons c extra =>
      have hc := hword c (by simp)
      rw [hrest c rfl] at hc
      cases hc
  · refine ⟨behind, rfl, fun c hc => hmore c ?_⟩
    rw [List.head?_append, Option.mem_def.1 hc]
    rfl

/-- No separator begins inside an alias whose later words are not those of a separator. -/
lemma not_startsSeparated {binder rest front cs : List Char}
    (words : ∀ word ∈ (Text.splitAt isPatternBlank binder).tail, word ∉ loopWords)
    (hlast : ∀ c ∈ binder.getLast?, isPatternBlank c = false)
    (hrest : ∀ c ∈ rest.head?, isPatternBlank c) (hbinder : binder = front ++ cs) (hcs : cs ≠ []) :
    ¬ StartsSeparated (cs ++ rest) := by
  rintro ⟨before, word, behind, more, hcut, hbefore, hword, hbehind, -⟩
  rw [isGap_iff] at hbefore
  rw [List.append_eq_append_iff] at hcut
  obtain ⟨extra, rfl, -⟩ | ⟨inside, rfl, hcut⟩ := hcut
  · -- the alias would end with a blank
    obtain ⟨init, c, rfl⟩ := (List.eq_nil_or_concat cs).resolve_left hcs
    have hc := hlast c (by simp [hbinder])
    rw [List.all_eq_true.1 hbefore.2 c (by simp)] at hc
    cases hc
  · have hvisible := (loopWord_cases hword).2
    obtain ⟨tail, rfl, htail⟩ :=
      exists_behind_word hvisible hrest (head_of_gap hbehind more) hcut.symm
    obtain ⟨blanks, b, rfl⟩ := (List.eq_nil_or_concat before).resolve_left hbefore.1
    have hb : isPatternBlank b := List.all_eq_true.1 hbefore.2 b (by simp)
    have hbinder' : binder = (front ++ blanks) ++ b :: (word ++ tail) := by simp [hbinder]
    exact words word (hbinder' ▸ Text.mem_tail_splitAt hb hvisible htail) hword

lemma splitLoopFrom?_append {as rest source : List Char} (h : loopSource? rest = some source)
    (hearlier : ∀ xs ys, as = xs ++ ys → ys ≠ [] → loopSource? (ys ++ rest) = none)
    (before : List Char) :
    splitLoopFrom? before (as ++ rest) = some (before.reverse ++ as, source) := by
  induction as generalizing before with
  | nil =>
    cases rest with
    | nil => cases h
    | cons c rest =>
      rw [List.nil_append, splitLoopFrom?_cons, h, Option.map_some, Option.some_or, List.append_nil]
  | cons a as ih =>
    have hnone : loopSource? (a :: (as ++ rest)) = none := hearlier [] (a :: as) rfl (by simp)
    have hlater : ∀ xs ys, as = xs ++ ys → ys ≠ [] → loopSource? (ys ++ rest) = none :=
      fun xs ys has => hearlier (a :: xs) ys (by rw [has, List.cons_append])
    rw [List.cons_append, splitLoopFrom?_cons, hnone, Option.map_none, Option.none_or]
    simpa using ih hlater (a :: before)

lemma splitLoop?_of_writes {binder source value : String}
    (h : WritesLoop binder.toList source.toList value.toList) :
    splitLoop? value = some (binder, source) := by
  obtain ⟨hbinder, words, hsource, front, before, word, behind, back, hvalue, hfront, hbefore,
    hword, hbehind, hback⟩ := h
  have hfound := loopSource?_written hbefore hword hbehind hsource hback
  have hblank := head_of_gap hbefore (word ++ (behind ++ (source.toList ++ back)))
  generalize before ++ (word ++ (behind ++ (source.toList ++ back))) = rest at *
  have hdropped : value.toList.dropWhile isPatternBlank = binder.toList ++ rest := by
    rw [hvalue]
    apply Text.dropWhile_append_stop hfront
    rw [List.head?_append_of_ne_nil _ hbinder.some]
    exact fun c hc => not_isPatternBlank (hbinder.first c hc)
  have hsplit : splitLoopFrom? [] (binder.toList ++ rest) = some (binder.toList, source.toList) := by
    apply splitLoopFrom?_append hfound
    intro xs ys has hys
    exact loopSource?_eq_none_iff.2 (not_startsSeparated words
      (fun c hc => not_isPatternBlank (hbinder.last c hc)) hblank has hys)
  rw [splitLoop?]
  dsimp only
  rw [hdropped, hsplit, Option.some_or, Option.map_some, String.ofList_toList,
    String.ofList_toList, Text.trim, Text.trimBy_of_ends hbinder.first hbinder.last,
    String.ofList_toList]

/-- A value is split at the first word that can separate it, and refused exactly where no word
can. -/
theorem loopValue_split (value : String) :
    (∀ binder source : String, WritesLoop binder.toList source.toList value.toList →
      splitLoop? value = some (binder, source)) ∧
    (splitLoop? value = none ↔ ¬ IsSeparated value.toList) := by
  refine ⟨fun binder source => splitLoop?_of_writes, ?_⟩
  rw [splitLoop?_eq_none_iff, isSeparated_iff]
  constructor
  · rintro h ⟨front, rest, hvalue, hrest⟩
    exact h front rest hvalue hrest
  · intro h front rest hvalue hrest
    exact h ⟨front, rest, hvalue, hrest⟩

theorem loopValue_split_words :
    WritesLoop "in x".toList "a of b in c".toList " in x\tof\n a of b in c ".toList ∧
      splitLoop? " in x\tof\n a of b in c " = some ("in x", "a of b in c") := by
  have hbinder : IsTight Text.isBlank "in x".toList :=
    ⟨by decide, by rintro _ ⟨⟩; decide, by rintro _ ⟨⟩; decide⟩
  have hsource : IsTight isPatternBlank "a of b in c".toList :=
    ⟨by decide, by rintro _ ⟨⟩; decide, by rintro _ ⟨⟩; decide⟩
  have hwrites : WritesLoop "in x".toList "a of b in c".toList
      " in x\tof\n a of b in c ".toList :=
    ⟨hbinder, by decide, hsource, [' '], ['\t'], ['o', 'f'], ['\n', ' '], [' '], by decide,
      by decide, by decide, by decide, by decide, by decide⟩
  exact ⟨hwrites, (loopValue_split _).1 _ _ hwrites⟩

end Unbundled.Template
