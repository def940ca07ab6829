import Unbundled.Proofs.Markup.Reference
import Unbundled.Proofs.Text.Split
import Unbundled.Template.Token

/-!
# Spellings of start tags

Attributes are written behind blanks, each value in quotes of either kind. Whatever the spelling,
the end of the tag is found behind the last one, and its attributes are read as they were meant.
-/

namespace Unbundled.Template

open Markup (Attribute SpellsAll attributes attributeName attributeValue tagEndFrom? isQuote
  isNameEnd)
open Text (isMarkupBlank dropWhile_append_stop takeWhile_append_stop dropWhile_dropWhile)

/-- Names of attributes are free of blanks, quotes and the signs that end them. -/
def isAttributeName (name : String) : Bool :=
  name.toList ≠ [] && name.toList.all fun c =>
    !isMarkupBlank c && !isQuote c && c ≠ '=' && c ≠ '/' && c ≠ '>'

/-- `cs` is a way to write the attributes behind the tag, each value as it is. -/
inductive WritesAttributes : List Attribute → List Char → Prop
  | done {ws : List Char} (blanks : ws.all isMarkupBlank) : WritesAttributes [] ws
  | bare {ws cs : List Char} {name : String} {as : List Attribute} (hws : ws ≠ [])
      (blanks : ws.all isMarkupBlank) (h : WritesAttributes as cs) :
      WritesAttributes (⟨name, none⟩ :: as) (ws ++ name.toList ++ cs)
  | valued {ws before after cs : List Char} {name value : String} {q : Char}
      {as : List Attribute} (hws : ws ≠ []) (blanks : ws.all isMarkupBlank)
      (hbefore : before.all isMarkupBlank) (hafter : after.all isMarkupBlank)
      (quote : isQuote q) (hvalue : q ∉ value.toList) (h : WritesAttributes as cs) :
      WritesAttributes (⟨name, some value⟩ :: as)
        (ws ++ name.toList ++ (before ++ '=' :: (after ++ q :: (value.toList ++ q :: cs))))

/-- `cs` is a way to write the attributes behind the tag, characters of values also as
references. -/
inductive SpellsAttributes : List Attribute → List Char → Prop
  | done {ws : List Char} (blanks : ws.all isMarkupBlank) : SpellsAttributes [] ws
  | bare {ws cs : List Char} {name : String} {as : List Attribute} (hws : ws ≠ [])
      (blanks : ws.all isMarkupBlank) (h : SpellsAttributes as cs) :
      SpellsAttributes (⟨name, none⟩ :: as) (ws ++ name.toList ++ cs)
  | valued {ws before after written cs : List Char} {name value : String} {q : Char}
      {as : List Attribute} (hws : ws ≠ []) (blanks : ws.all isMarkupBlank)
      (hbefore : before.all isMarkupBlank) (hafter : after.all isMarkupBlank)
      (quote : isQuote q) (hvalue : SpellsAll (· ≠ q) value.toList written)
      (h : SpellsAttributes as cs) :
      SpellsAttributes (⟨name, some value⟩ :: as)
        (ws ++ name.toList ++ (before ++ '=' :: (after ++ q :: (written ++ q :: cs))))

/-! ## Names and values -/

lemma isAttributeName_iff {name : String} (h : isAttributeName name) :
    name.toList ≠ [] ∧ ∀ c ∈ name.toList,
      isMarkupBlank c = false ∧ isQuote c = false ∧ c ≠ '=' ∧ c ≠ '/' ∧ c ≠ '>' := by
  simpa [isAttributeName, and_assoc] using h

/-- A name is over at a blank, at `=` and at the end. -/
def EndsName (cs : List Char) : Prop := ∀ c ∈ cs.head?, isNameEnd c

lemma isNameEnd_of_blank {c : Char} (h : isMarkupBlank c) : isNameEnd c := by
  rw [isNameEnd, h]
  rfl

lemma head_blanks {ws cs : List Char} (hws : ws ≠ []) (blanks : ws.all isMarkupBlank) :
    ∀ c ∈ (ws ++ cs).head?, isMarkupBlank c := by
  obtain ⟨w, us, rfl⟩ := List.exists_cons_of_ne_nil hws
  intro c hc
  obtain rfl : w = c := by simpa using hc
  exact List.all_eq_true.1 blanks w (by simp)

/-- Attributes begin with a blank. -/
lemma head_written {as : List Attribute} {cs : List Char} (h : WritesAttributes as cs) :
    ∀ c ∈ cs.head?, isMarkupBlank c := by
  cases h with
  | done blanks =>
    by_cases hcs : cs = []
    · simp [hcs]
    · simpa using @head_blanks _ [] hcs blanks
  | bare hws blanks h =>
    rw [List.append_assoc]
    exact head_blanks hws blanks
  | valued hws blanks _ _ _ _ _ =>
    rw [List.append_assoc]
    exact head_blanks hws blanks

lemma endsName_of_writes {as : List Attribute} {cs : List Char} (h : WritesAttributes as cs) :
    EndsName cs := fun c hc => isNameEnd_of_blank (head_written h c hc)

lemma attributeName_written {ws tail : List Char} {name : String}
    (blanks : ws.all isMarkupBlank) (hname : isAttributeName name) (hend : EndsName tail) :
    attributeName (ws ++ name.toList ++ tail) = (name.toList, tail.dropWhile isMarkupBlank) := by
  obtain ⟨hne, hchars⟩ := isAttributeName_iff hname
  have hstart : (ws ++ name.toList ++ tail).dropWhile (fun c => isMarkupBlank c || c = '/') =
      name.toList ++ tail := by
    rw [List.append_assoc]
    apply dropWhile_append_stop
    · exact List.all_eq_true.2 fun c hc => by simp [List.all_eq_true.1 blanks c hc]
    · intro c hc
      have hmem : c ∈ name.toList := by
        obtain ⟨d, ds, hd⟩ := List.exists_cons_of_ne_nil hne
        rw [hd, List.cons_append, List.head?_cons, Option.mem_some_iff] at hc
        simp [hd, hc]
      obtain ⟨hblank, -, -, hslash, -⟩ := hchars c hmem
      simp [hblank, hslash]
  have hall : name.toList.all fun c => !isNameEnd c := by
    rw [List.all_eq_true]
    intro c hc
    obtain ⟨hblank, -, heq, -, -⟩ := hchars c hc
    simp [isNameEnd, hblank, heq]
  have hstop : ∀ c ∈ tail.head?, (!isNameEnd c) = false := fun c hc => by simp [hend c hc]
  rw [attributeName, hstart, takeWhile_append_stop hall hstop, dropWhile_append_stop hall hstop]

lemma attributeValue_written {written cs : List Char} {q : Char} (quote : isQuote q)
    (hq : q ∉ written) : attributeValue (q :: (written ++ q :: cs)) = (written, cs) := by
  have hall : written.all (· ≠ q) := by
    rw [List.all_eq_true]
    intro c hc
    rw [decide_eq_true_iff]
    rintro rfl
    exact hq hc
  have hstop : ∀ c ∈ (q :: cs).head?, decide (c ≠ q) = false := by simp
  rw [attributeValue, if_pos quote, takeWhile_append_stop hall hstop,
    dropWhile_append_stop hall hstop]
  rfl

lemma quote_not_mem {value written : List Char} {q : Char} (quote : isQuote q)
    (h : SpellsAll (· ≠ q) value written) : q ∉ written := by
  have hq : q = '"' ∨ q = '\'' := by simpa [isQuote] using quote
  rcases hq with rfl | rfl
  · exact Markup.not_mem_spellsAll h (by simp) (by decide) (by decide) (by decide)
  · exact Markup.not_mem_spellsAll h (by simp) (by decide) (by decide) (by decide)

/-- What spells attributes writes others, which are those once their references are decoded. -/
lemma SpellsAttributes.writes {as : List Attribute} {cs : List Char} (h : SpellsAttributes as cs)
    (hnames : ∀ a ∈ as, isAttributeName a.name) :
    ∃ raw, WritesAttributes raw cs ∧ (∀ a ∈ raw, isAttributeName a.name) ∧
      raw.map decodeAttribute = as := by
  induction h with
  | done blanks => exact ⟨[], .done blanks, by simp, rfl⟩
  | @bare ws cs name as hws blanks h ih =>
    obtain ⟨hname, hothers⟩ := List.forall_mem_cons.1 hnames
    obtain ⟨raw, hraw, hrawNames, rfl⟩ := ih hothers
    exact ⟨⟨name, none⟩ :: raw, .bare hws blanks hraw,
      List.forall_mem_cons.2 ⟨hname, hrawNames⟩, rfl⟩
  | @valued ws before after written cs name value q as hws blanks hbefore hafter quote hvalue h
      ih =>
    obtain ⟨hname, hothers⟩ := List.forall_mem_cons.1 hnames
    obtain ⟨raw, hraw, hrawNames, rfl⟩ := ih hothers
    have hq : q ∉ (String.ofList written).toList := by
      rw [String.toList_ofList]
      exact quote_not_mem quote hvalue
    have hwrites : WritesAttributes (⟨name, some (String.ofList written)⟩ :: raw) _ :=
      .valued hws blanks hbefore hafter quote hq hraw
    rw [String.toList_ofList] at hwrites
    refine ⟨_, hwrites, List.forall_mem_cons.2 ⟨hname, hrawNames⟩, ?_⟩
    rw [List.map_cons, decodeAttribute, Option.map_some, String.toList_ofList,
      Markup.decodeEntities_spellsAll hvalue, String.ofList_toList]

/-! ## Reading the attributes -/

lemma attributes_nil {cs : List Char} (h : (attributeName cs).1 = []) : attributes cs = [] := by
  rw [attributes, dif_pos h]

lemma attributes_last {cs : List Char} {name : String} (hname : name.toList ≠ [])
    (h : attributeName cs = (name.toList, [])) : attributes cs = [⟨name, none⟩] := by
  rw [attributes, dif_neg (by simp [h, hname])]
  split
  · simp [h]
  · next hb => simp [h] at hb

lemma attributes_bare {cs rest : List Char} {name : String} {c : Char} (hname : name.toList ≠ [])
    (h : attributeName cs = (name.toList, c :: rest)) (hc : c ≠ '=') :
    attributes cs = ⟨name, none⟩ :: attributes (c :: rest) := by
  rw [attributes, dif_neg (by simp [h, hname])]
  split
  · next hb => simp [h] at hb
  · next hb =>
    rw [h] at hb
    obtain ⟨rfl, rfl⟩ := List.cons.inj hb
    rw [if_neg hc, h, String.ofList_toList]

lemma attributes_valued {cs rest : List Char} {name : String} (hname : name.toList ≠ [])
    (h : attributeName cs = (name.toList, '=' :: rest)) :
    attributes cs =
      ⟨name, some (String.ofList (attributeValue (rest.dropWhile isMarkupBlank)).1)⟩ ::
        attributes (attributeValue (rest.dropWhile isMarkupBlank)).2 := by
  rw [attributes, dif_neg (by simp [h, hname])]
  split
  · next hb => simp [h] at hb
  · next hb =>
    rw [h] at hb
    obtain ⟨rfl, rfl⟩ := List.cons.inj hb
    rw [if_pos rfl]
    dsimp only
    rw [h, String.ofList_toList]

lemma attributes_dropWhile (cs : List Char) :
    attributes (cs.dropWhile isMarkupBlank) = attributes cs := by
  have hname : attributeName (cs.dropWhile isMarkupBlank) = attributeName cs := by
    rw [attributeName, attributeName, dropWhile_dropWhile fun c hc => by simp [hc]]
  cases h : attributeName cs with
  | mk name tail =>
    rw [h] at hname
    by_cases hne : name = []
    · rw [attributes_nil (by rw [hname, hne]), attributes_nil (by rw [h, hne])]
    rw [← String.toList_ofList (l := name)] at hname h hne
    cases tail with
    | nil => rw [attributes_last hne hname, attributes_last hne h]
    | cons c rest =>
      by_cases hc : c = '='
      · subst hc
        rw [attributes_valued hne hname, attributes_valued hne h]
      · rw [attributes_bare hne hname hc, attributes_bare hne h hc]

lemma dropWhile_blanks {ws : List Char} (blanks : ws.all isMarkupBlank) :
    ws.dropWhile isMarkupBlank = [] := by
  simpa using @dropWhile_append_stop _ _ _ [] blanks (by simp)

lemma head_dropWhile_written {as : List Attribute} {cs : List Char}
    (h : WritesAttributes as cs) (hnames : ∀ a ∈ as, isAttributeName a.name) :
    ∀ c ∈ (cs.dropWhile isMarkupBlank).head?, c ≠ '=' := by
  have hbegins {ws tail : List Char} {name : String} (blanks : ws.all isMarkupBlank)
      (hname : isAttributeName name) :
      ∀ c ∈ ((ws ++ name.toList ++ tail).dropWhile isMarkupBlank).head?, c ≠ '=' := by
    obtain ⟨hne, hchars⟩ := isAttributeName_iff hname
    obtain ⟨d, ds, hd⟩ := List.exists_cons_of_ne_nil hne
    obtain ⟨hblank, -, heq, -, -⟩ := hchars d (by simp [hd])
    rw [List.append_assoc, hd, dropWhile_append_stop blanks (by simpa using hblank)]
    simpa using heq
  cases h with
  | done blanks => rw [dropWhile_blanks blanks]; simp
  | bare hws blanks h => exact hbegins blanks (List.forall_mem_cons.1 hnames).1
  | valued hws blanks _ _ _ _ _ => exact hbegins blanks (List.forall_mem_cons.1 hnames).1

/-- Attributes are read as they are written. -/
theorem attributes_written {as : List Attribute} {cs : List Char} (h : WritesAttributes as cs)
    (hnames : ∀ a ∈ as, isAttributeName a.name) : attributes cs = as := by
  induction h with
  | @done ws blanks =>
    rw [← attributes_dropWhile, dropWhile_blanks blanks]
    exact attributes_nil rfl
  | @bare ws cs name as hws blanks h ih =>
    obtain ⟨hname, hothers⟩ := List.forall_mem_cons.1 hnames
    have hread := attributeName_written blanks hname (endsName_of_writes h)
    have hne := (isAttributeName_iff hname).1
    have hrest := ih hothers
    have hhead := head_dropWhile_written h hothers
    rw [← attributes_dropWhile] at hrest
    cases hcs : cs.dropWhile isMarkupBlank with
    | nil =>
      rw [hcs] at hread hrest
      rw [attributes_nil rfl] at hrest
      rw [attributes_last hne hread, hrest]
    | cons c rest =>
      rw [hcs] at hread hrest hhead
      rw [attributes_bare hne hread (hhead c rfl), hrest]
  | @valued ws before after cs name value q as hws blanks hbefore hafter quote hvalue h ih =>
    obtain ⟨hname, hothers⟩ := List.forall_mem_cons.1 hnames
    have hne := (isAttributeName_iff hname).1
    have hend : EndsName (before ++ '=' :: (after ++ q :: (value.toList ++ q :: cs))) := by
      by_cases hnil : before = []
      · simp [EndsName, hnil, isNameEnd]
      · exact fun c hc => isNameEnd_of_blank (head_blanks hnil hbefore c hc)
    have hread := attributeName_written blanks hname hend
    rw [dropWhile_append_stop hbefore (by simp [isMarkupBlank])] at hread
    have hblank : isMarkupBlank q = false := by
      have hq : q = '"' ∨ q = '\'' := by simpa [isQuote] using quote
      rcases hq with rfl | rfl <;> rfl
    have hvalueRead : attributeValue (q :: (value.toList ++ q :: cs)) = (value.toList, cs) :=
      attributeValue_written quote hvalue
    rw [attributes_valued hne hread, dropWhile_append_stop hafter (by simpa using hblank),
      hvalueRead, ih hothers, String.ofList_toList]

/-! ## The end of the tag -/

lemma tagEndFrom?_plain {xs : List Char} (h : ∀ c ∈ xs, isQuote c = false ∧ c ≠ '>')
    (before rest : List Char) :
    tagEndFrom? none before (xs ++ rest) = tagEndFrom? none (xs.reverse ++ before) rest := by
  induction xs generalizing before with
  | nil => rfl
  | cons x xs ih =>
    obtain ⟨⟨hquote, hend⟩, hxs⟩ := List.forall_mem_cons.1 h
    rw [List.cons_append, tagEndFrom?]
    rw [if_neg hend, hquote, if_neg (by decide), ih hxs]
    simp

lemma tagEndFrom?_open {q : Char} {xs : List Char} (h : q ∉ xs) (before rest : List Char) :
    tagEndFrom? (some q) before (xs ++ rest) =
      tagEndFrom? (some q) (xs.reverse ++ before) rest := by
  induction xs generalizing before with
  | nil => rfl
  | cons x xs ih =>
    rw [List.mem_cons, not_or] at h
    rw [List.cons_append, tagEndFrom?]
    rw [if_neg (Ne.symm h.1), ih h.2]
    simp

lemma tagEndFrom?_equals (before rest : List Char) :
    tagEndFrom? none before ('=' :: rest) = tagEndFrom? none ('=' :: before) rest := rfl

lemma tagEndFrom?_quoted {q : Char} {xs : List Char} (quote : isQuote q) (h : q ∉ xs)
    (before rest : List Char) :
    tagEndFrom? none before (q :: (xs ++ q :: rest)) =
      tagEndFrom? none ((q :: (xs ++ [q])).reverse ++ before) rest := by
  have hend : q ≠ '>' := by
    rintro rfl
    cases quote
  rw [tagEndFrom?]
  rw [if_neg hend, quote, if_pos rfl, tagEndFrom?_open h, tagEndFrom?]
  rw [if_pos rfl]
  simp

lemma blank_plain {ws : List Char} (blanks : ws.all isMarkupBlank) :
    ∀ c ∈ ws, isQuote c = false ∧ c ≠ '>' := by
  intro c hc
  have hblank := List.all_eq_true.1 blanks c hc
  simp only [isMarkupBlank, Bool.or_eq_true, decide_eq_true_eq] at hblank
  rcases hblank with (((rfl | rfl) | rfl) | rfl) | rfl <;> decide

lemma name_plain {name : String} (hname : isAttributeName name) :
    ∀ c ∈ name.toList, isQuote c = false ∧ c ≠ '>' := by
  intro c hc
  obtain ⟨-, hquote, -, -, hend⟩ := (isAttributeName_iff hname).2 c hc
  exact ⟨hquote, hend⟩

/-- No attribute ends the tag. -/
lemma tagEndFrom?_written {as : List Attribute} {cs : List Char} (h : WritesAttributes as cs)
    (hnames : ∀ a ∈ as, isAttributeName a.name) (before rest : List Char) :
    tagEndFrom? none before (cs ++ rest) = tagEndFrom? none (cs.reverse ++ before) rest := by
  induction h generalizing before with
  | done blanks => exact tagEndFrom?_plain (blank_plain blanks) before rest
  | bare hws blanks h ih =>
    obtain ⟨hname, hothers⟩ := List.forall_mem_cons.1 hnames
    simp only [List.append_assoc]
    rw [tagEndFrom?_plain (blank_plain blanks), tagEndFrom?_plain (name_plain hname), ih hothers]
    simp
  | valued hws blanks hbefore hafter quote hvalue h ih =>
    obtain ⟨hname, hothers⟩ := List.forall_mem_cons.1 hnames
    simp only [List.append_assoc, List.cons_append]
    rw [tagEndFrom?_plain (blank_plain blanks), tagEndFrom?_plain (name_plain hname),
      tagEndFrom?_plain (blank_plain hbefore), tagEndFrom?_equals,
      tagEndFrom?_plain (blank_plain hafter), tagEndFrom?_quoted quote hvalue,
      ih hothers]
    simp

lemma tagEnd?_written {as : List Attribute} {cs : List Char} (h : WritesAttributes as cs)
    (hnames : ∀ a ∈ as, isAttributeName a.name) (rest : List Char) :
    Markup.tagEnd? (cs ++ '>' :: rest) = some (cs, rest) := by
  rw [Markup.tagEnd?, tagEndFrom?_written h hnames, tagEndFrom?, if_pos rfl]
  simp

lemma tagEnd?_closed {as : List Attribute} {cs : List Char} (h : WritesAttributes as cs)
    (hnames : ∀ a ∈ as, isAttributeName a.name) (rest : List Char) :
    Markup.tagEnd? (cs ++ '/' :: '>' :: rest) = some (cs ++ ['/'], rest) := by
  have hslash (before : List Char) : tagEndFrom? none before ('/' :: '>' :: rest) =
      some (before.reverse ++ ['/'], rest) := by
    simp [tagEndFrom?, isQuote]
  rw [Markup.tagEnd?, tagEndFrom?_written h hnames, hslash]
  simp

lemma getLast?_written {as : List Attribute} {cs : List Char} (h : WritesAttributes as cs)
    (hnames : ∀ a ∈ as, isAttributeName a.name) : cs.getLast? ≠ some '/' := by
  induction h with
  | done blanks =>
    intro hlast
    exact absurd (List.all_eq_true.1 blanks _ (List.mem_of_getLast? hlast)) (by decide)
  | @bare ws cs name as hws blanks h ih =>
    obtain ⟨hname, hothers⟩ := List.forall_mem_cons.1 hnames
    obtain ⟨hne, hchars⟩ := isAttributeName_iff hname
    intro hlast
    cases hcs : cs.getLast? with
    | none =>
      rw [List.getLast?_append, hcs, Option.none_or, List.getLast?_append,
        List.getLast?_eq_some_getLast hne, Option.some_or] at hlast
      obtain ⟨-, -, -, hslash, -⟩ := hchars _ (List.getLast_mem hne)
      exact hslash (Option.some.inj hlast)
    | some c =>
      rw [List.getLast?_append, hcs, Option.some_or, ← hcs] at hlast
      exact ih hothers hlast
  | @valued ws before after cs name value q as hws blanks hbefore hafter quote hvalue h ih =>
    have hothers := (List.forall_mem_cons.1 hnames).2
    have hq : q ≠ '/' := by
      rintro rfl
      cases quote
    have hend : (ws ++ name.toList ++
        (before ++ '=' :: (after ++ q :: (value.toList ++ q :: cs)))).getLast? =
          (q :: cs).getLast? := by
      simp [List.getLast?_append, List.getLast?_cons]
    cases hcs : cs.getLast? with
    | none => simpa [hend, List.getLast?_cons, hcs] using hq
    | some c =>
      have hlast := ih hothers
      rw [hcs] at hlast
      simpa [hend, List.getLast?_cons, hcs] using hlast

lemma withoutSlash_written {as : List Attribute} {cs : List Char} (h : WritesAttributes as cs)
    (hnames : ∀ a ∈ as, isAttributeName a.name) : Markup.withoutSlash cs = (cs, false) := by
  rw [Markup.withoutSlash, if_neg (getLast?_written h hnames)]

lemma withoutSlash_closed (cs : List Char) : Markup.withoutSlash (cs ++ ['/']) = (cs, true) := by
  rw [Markup.withoutSlash, if_pos List.getLast?_concat, List.dropLast_concat]

lemma isTagChar_of_endsName {cs : List Char} (hend : EndsName cs) {c : Char}
    (hc : isTagChar c = false) (rest : List Char) :
    ∀ d ∈ (cs ++ c :: rest).head?, isTagChar d = false := by
  cases cs with
  | nil => simpa using hc
  | cons e es =>
    have he := hend e rfl
    simp only [isNameEnd, isMarkupBlank, Bool.or_eq_true, decide_eq_true_eq] at he
    rw [List.cons_append, List.head?_cons]
    rintro d ⟨⟩
    rcases he with ((((rfl | rfl) | rfl) | rfl) | rfl) | rfl <;> decide

/-- A start tag is read with the attributes that are written in it. -/
theorem startTag_written {tag : String} {as : List Attribute} {cs : List Char}
    (htag : tag.toList.all isTagChar) (h : WritesAttributes as cs)
    (hnames : ∀ a ∈ as, isAttributeName a.name) (rest : List Char) :
    startTag (tag.toList ++ (cs ++ '>' :: rest)) =
      .ok (.startTag tag (as.map decodeAttribute) false, rest) := by
  have hstop := isTagChar_of_endsName (endsName_of_writes h) (c := '>') (by decide) rest
  rw [startTag, takeWhile_append_stop htag hstop, dropWhile_append_stop htag hstop,
    tagEnd?_written h hnames]
  dsimp only
  rw [withoutSlash_written h hnames, attributes_written h hnames, String.ofList_toList]

theorem startTag_writtenClosed {tag : String} {as : List Attribute} {cs : List Char}
    (htag : tag.toList.all isTagChar) (h : WritesAttributes as cs)
    (hnames : ∀ a ∈ as, isAttributeName a.name) (rest : List Char) :
    startTag (tag.toList ++ (cs ++ '/' :: '>' :: rest)) =
      .ok (.startTag tag (as.map decodeAttribute) true, rest) := by
  have hstop := isTagChar_of_endsName (endsName_of_writes h) (c := '/') (by decide) ('>' :: rest)
  rw [startTag, takeWhile_append_stop htag hstop, dropWhile_append_stop htag hstop,
    tagEnd?_closed h hnames]
  dsimp only
  rw [withoutSlash_closed, attributes_written h hnames, String.ofList_toList]

/-- A start tag is read with the attributes that are spelled in it. -/
theorem startTag_spelled {tag : String} {as : List Attribute} {cs : List Char}
    (htag : tag.toList.all isTagChar) (h : SpellsAttributes as cs)
    (hnames : ∀ a ∈ as, isAttributeName a.name) (rest : List Char) :
    startTag (tag.toList ++ (cs ++ '>' :: rest)) = .ok (.startTag tag as false, rest) := by
  obtain ⟨raw, hraw, hrawNames, rfl⟩ := h.writes hnames
  exact startTag_written htag hraw hrawNames rest

theorem startTag_closed {tag : String} {as : List Attribute} {cs : List Char}
    (htag : tag.toList.all isTagChar) (h : SpellsAttributes as cs)
    (hnames : ∀ a ∈ as, isAttributeName a.name) (rest : List Char) :
    startTag (tag.toList ++ (cs ++ '/' :: '>' :: rest)) = .ok (.startTag tag as true, rest) := by
  obtain ⟨raw, hraw, hrawNames, rfl⟩ := h.writes hnames
  exact startTag_writtenClosed htag hraw hrawNames rest

end Unbundled.Template
