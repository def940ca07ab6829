import Unbundled.Proofs.Component.TemplateContent
import Unbundled.Proofs.Template.Tokens

/-!
# Component files are read as they were meant

A component file is a list of items: blocks, comments and filler between them. `Item.WellFormed`
tells how they are written. Whatever their number and order, the blocks of the file are found with
their attributes, their content and the place where it begins.
-/

namespace Unbundled.Component

open Markup (Attribute)
open Template (WritesAttributes isAttributeName isComment)
open Text (dropWhile_append_stop takeWhile_append_stop)

/-- What stands at the top level of a component file. The tag of a block is given by its
attributes and by the text that writes them. -/
inductive Item where
  | filler (text : String)
  | comment (inside : String)
  | block (name : String) (attributes : List Attribute) (written : List Char) (content : String)
  | closed (name : String) (attributes : List Attribute) (written : List Char)

namespace Item

/-- The item as it stands in the file. -/
def text : Item → List Char
  | filler text => text.toList
  | comment inside => '<' :: '!' :: '-' :: '-' :: (inside.toList ++ ['-', '-', '>'])
  | block name _ written content =>
    '<' :: (name.toList ++ (written ++ '>' ::
      (content.toList ++ '<' :: '/' :: (name.toList ++ ['>']))))
  | closed name _ written => '<' :: (name.toList ++ (written ++ ['/', '>']))

/-- The block that begins with the item at `place`, and its name. -/
def block? (place : Nat) : Item → Option (String × Block)
  | filler _ | comment _ => none
  | block name attributes written content =>
    some (name,
      ⟨content, attributes, place + Utf8.size ('<' :: (name.toList ++ (written ++ ['>'])))⟩)
  | closed name attributes written =>
    some (name,
      ⟨"", attributes, place + Utf8.size ('<' :: (name.toList ++ (written ++ ['/', '>'])))⟩)

end Item

/-- The value of the first attribute `lang`. -/
def langOf (attributes : List Attribute) : Option String :=
  (attributes.find? (·.name == "lang")).bind (·.value?)

/-- The tag of a block can be read, and asks for nothing that is not supported. -/
structure BlockTag (name : String) (attributes : List Attribute) (written : List Char) : Prop where
  name_ne_nil : name.toList ≠ []
  name_chars : name.toList.all isBlockChar
  writes : WritesAttributes attributes written
  named : ∀ a ∈ attributes, isAttributeName a.name
  template : name = "template" → langOf attributes ∈ [none, some "html"]
  script : name = "script" → (∀ a ∈ attributes, a.name ≠ "setup") ∧
    langOf attributes ∈ [none, some "js", some "javascript"]

/-- The content ends where the end tag of its block stands. -/
def IsContent (names : String → Prop) (name content : String) : Prop :=
  if name = "template" then TemplateContent names content.toList
  else ¬ '<' :: '/' :: (name.toList ++ ['>']) <:+: content.toList

/-- Items as they may be written. In the content of a template, attributes of inner templates have
names among `names`. -/
inductive Item.WellFormed (names : String → Prop) : Item → Prop
  | filler {text : String} (h : '<' ∉ text.toList) : WellFormed names (.filler text)
  | comment {inside : String} (h : isComment inside.toList) : WellFormed names (.comment inside)
  | block {name content : String} {attributes : List Attribute} {written : List Char}
      (tag : BlockTag name attributes written) (h : IsContent names name content) :
      WellFormed names (.block name attributes written content)
  | closed {name : String} {attributes : List Attribute} {written : List Char}
      (tag : BlockTag name attributes written) : WellFormed names (.closed name attributes written)

/-- The text of a file. -/
def fileText (items : List Item) : List Char := items.flatMap Item.text

/-- The blocks of the items that begin at `place`, with their names. -/
def blocksFrom (place : Nat) : List Item → List (String × Block)
  | [] => []
  | i :: items => (i.block? place).toList ++ blocksFrom (place + Utf8.size i.text) items

/-- The blocks of that name. -/
def blocksNamed (name : String) (blocks : List (String × Block)) : List Block :=
  (blocks.filter (·.1 = name)).map (·.2)

/-- The parts of a file that has these blocks. -/
def partsOf (blocks : List (String × Block)) : Parts where
  template? := (blocksNamed "template" blocks).head?
  script? := (blocksNamed "script" blocks).head?
  styles := blocksNamed "style" blocks

/-! ## Single items -/

lemma size_marks : '<'.utf8Size = 1 ∧ '>'.utf8Size = 1 ∧ '/'.utf8Size = 1 ∧ '!'.utf8Size = 1 ∧
    '-'.utf8Size = 1 := by decide

lemma item_comment {inside : String} (h : isComment inside.toList) (place : Nat)
    (rest : List Char) :
    item place ((Item.comment inside).text.tail ++ rest) =
      .ok (none, place + Utf8.size (Item.comment inside).text, rest) := by
  have hstart : Text.startsWith ['!', '-', '-'] ((Item.comment inside).text.tail ++ rest) = true :=
    rfl
  have hcut : Text.splitOnce? ['-', '-', '>'] ((Item.comment inside).text.tail ++ rest) =
      some ('!' :: '-' :: '-' :: inside.toList, rest) := by
    simpa [Item.text] using Template.splitOnce?_comment h rest
  have hsize : place + 4 + Utf8.size ('!' :: '-' :: '-' :: inside.toList) =
      place + Utf8.size (Item.comment inside).text := by
    simp only [Item.text, Utf8.size_cons, Utf8.size_append, Utf8.size_nil, size_marks]
    omega
  rw [item, if_pos hstart, hcut]
  dsimp only
  rw [hsize]

lemma blockEnd?_content {name content : String} (hname : name.toList.all isBlockChar)
    (h : IsContent IsFreeName name content) (rest : List Char) :
    blockEnd? name.toList (content.toList ++ '<' :: '/' :: (name.toList ++ ['>']) ++ rest) =
      some (content.toList, rest) := by
  unfold IsContent at h
  by_cases htemplate : name = "template"
  · subst htemplate
    rw [if_pos rfl] at h
    have hpasses := passes_content h rest 0 []
    rw [templateEndFrom?_outer] at hpasses
    rw [blockEnd?, if_pos (by decide), List.append_assoc]
    simpa [closingMark] using hpasses
  · rw [if_neg htemplate] at h
    have hlt : '<' ∉ '/' :: (name.toList ++ ['>']) := by
      intro hmem
      have hchar : '<' ∈ name.toList := by simpa using hmem
      exact absurd (List.all_eq_true.1 hname _ hchar) (by decide)
    have hne : name.toList ≠ ['t', 'e', 'm', 'p', 'l', 'a', 't', 'e'] := fun he =>
      htemplate (String.toList_inj.1 he)
    rw [blockEnd?, if_neg hne]
    exact Text.splitOnce?_behind hlt h rest

lemma not_blockChar_of_blank {c : Char} (h : Text.isMarkupBlank c) : isBlockChar c = false := by
  simp only [Text.isMarkupBlank, Bool.or_eq_true, decide_eq_true_eq] at h
  rcases h with (((rfl | rfl) | rfl) | rfl) | rfl <;> decide

namespace BlockTag

variable {name : String} {attributes : List Attribute} {written : List Char}

lemma not_comment (tag : BlockTag name attributes written) (rest : List Char) :
    Text.startsWith ['!', '-', '-'] (name.toList ++ rest) = false := by
  obtain ⟨c, cs, hname⟩ := List.exists_cons_of_ne_nil tag.name_ne_nil
  have hc : isBlockChar c := List.all_eq_true.1 tag.name_chars c (by simp [hname])
  have hne : '!' ≠ c := by
    rintro rfl
    exact absurd hc (by decide)
  rw [hname, List.cons_append, Text.startsWith, Text.dropPrefix?, if_neg hne]
  rfl

/-- The name of a block ends where its attributes begin. -/
lemma name_ends (tag : BlockTag name attributes written) {c : Char} (hc : isBlockChar c = false)
    (rest : List Char) : ∀ d ∈ (written ++ c :: rest).head?, isBlockChar d = false := by
  intro d hd
  cases hwritten : written with
  | nil =>
    rw [hwritten] at hd
    obtain rfl : c = d := by simpa using hd
    exact hc
  | cons w ws =>
    rw [hwritten] at hd
    obtain rfl : w = d := by simpa using hd
    exact not_blockChar_of_blank (Template.head_written tag.writes w (by rw [hwritten]; rfl))

lemma item_block (tag : BlockTag name attributes written) {content : String}
    (h : IsContent IsFreeName name content) (place : Nat) (rest : List Char) :
    item place ((Item.block name attributes written content).text.tail ++ rest) =
      .ok ((Item.block name attributes written content).block? place,
        place + Utf8.size (Item.block name attributes written content).text, rest) := by
  have hshape : (Item.block name attributes written content).text.tail ++ rest =
      name.toList ++ (written ++ '>' ::
        (content.toList ++ '<' :: '/' :: (name.toList ++ ['>']) ++ rest)) := by
    simp [Item.text]
  have hstop := tag.name_ends (c := '>') (by decide)
    (content.toList ++ '<' :: '/' :: (name.toList ++ ['>']) ++ rest)
  have hoffset : place + 2 + Utf8.size name.toList + Utf8.size written =
      place + Utf8.size ('<' :: (name.toList ++ (written ++ ['>']))) := by
    simp only [Utf8.size_cons, Utf8.size_append, Utf8.size_nil, size_marks]
    omega
  have hend : place + Utf8.size ('<' :: (name.toList ++ (written ++ ['>']))) +
      Utf8.size content.toList + 3 + Utf8.size name.toList =
      place + Utf8.size (Item.block name attributes written content).text := by
    simp only [Item.text, Utf8.size_cons, Utf8.size_append, Utf8.size_nil, size_marks]
    omega
  rw [hshape, item, tag.not_comment, takeWhile_append_stop tag.name_chars hstop,
    dropWhile_append_stop tag.name_chars hstop, Template.tagEnd?_written tag.writes tag.named]
  simp only [Bool.false_eq_true, if_false, if_neg tag.name_ne_nil,
    Template.withoutSlash_written tag.writes tag.named, blockEnd?_content tag.name_chars h,
    Template.attributes_written tag.writes tag.named, hoffset, hend, String.ofList_toList,
    Item.block?]

lemma item_closed (tag : BlockTag name attributes written) (place : Nat) (rest : List Char) :
    item place ((Item.closed name attributes written).text.tail ++ rest) =
      .ok ((Item.closed name attributes written).block? place,
        place + Utf8.size (Item.closed name attributes written).text, rest) := by
  have hshape : (Item.closed name attributes written).text.tail ++ rest =
      name.toList ++ (written ++ '/' :: '>' :: rest) := by
    simp [Item.text]
  have hstop := tag.name_ends (c := '/') (by decide) ('>' :: rest)
  have hoffset : place + 2 + Utf8.size name.toList + Utf8.size (written ++ ['/']) =
      place + Utf8.size ('<' :: (name.toList ++ (written ++ ['/', '>']))) := by
    simp only [Utf8.size_cons, Utf8.size_append, Utf8.size_nil, size_marks]
    omega
  rw [hshape, item, tag.not_comment, takeWhile_append_stop tag.name_chars hstop,
    dropWhile_append_stop tag.name_chars hstop, Template.tagEnd?_closed tag.writes tag.named]
  simp only [Bool.false_eq_true, if_false, if_neg tag.name_ne_nil, Template.withoutSlash_closed,
    Template.attributes_written tag.writes tag.named, hoffset, String.ofList_toList, if_true,
    Item.block?, Item.text, String.ofList_nil]

end BlockTag

/-! ## All items -/

namespace Parts

variable (p : Parts)

lemma addAll_nil (place : Nat) : p.addAll place [] = .ok p := by
  rw [addAll]

lemma addAll_plain {cs : List Char} (h : '<' ∉ cs) (place : Nat) (rest : List Char) :
    p.addAll place (cs ++ rest) = p.addAll (place + Utf8.size cs) rest := by
  induction cs generalizing place with
  | nil => simp
  | cons c cs ih =>
    have hc : c ≠ '<' := fun he => h (by simp [he])
    have hcs : '<' ∉ cs := fun hmem => h (List.mem_cons_of_mem _ hmem)
    rw [List.cons_append, addAll, if_neg hc, ih hcs, Utf8.size_cons, Nat.add_assoc]

lemma addAll_passed {place place' : Nat} {cs rest : List Char}
    (h : item place cs = .ok (none, place', rest)) :
    p.addAll place ('<' :: cs) = p.addAll place' rest := by
  rw [addAll, if_pos rfl]
  split
  · next he => rw [h] at he; cases he
  · next found place'' rest' hok =>
    rw [h] at hok
    cases hok
    rfl

lemma addAll_block {place place' : Nat} {cs rest : List Char} {name : String} {b : Block}
    {q : Parts} (h : item place cs = .ok (some (name, b), place', rest))
    (hadd : p.add name b = .ok q) : p.addAll place ('<' :: cs) = q.addAll place' rest := by
  rw [addAll, if_pos rfl]
  split
  · next he => rw [h] at he; cases he
  · next found place'' rest' hok =>
    rw [h] at hok
    cases hok
    dsimp only
    rw [hadd]

/-- The parts with one more block. -/
def plus (name : String) (b : Block) : Parts where
  template? := if name = "template" then some b else p.template?
  script? := if name = "script" then some b else p.script?
  styles := if name = "style" then p.styles ++ [b] else p.styles

end Parts

/-- A block is added where its kind has a place left. -/
lemma BlockTag.add_eq {name : String} {b : Block} {written : List Char}
    (tag : BlockTag name b.attributes written) {p : Parts}
    (htemplate : name = "template" → p.template? = none)
    (hscript : name = "script" → p.script? = none) : p.add name b = .ok (p.plus name b) := by
  have hlang : b.lang? = langOf b.attributes := rfl
  by_cases h₁ : name = "template"
  · subst h₁
    have hadd : p.addTemplate b = .ok (p.plus "template" b) := by
      have hsupported := tag.template rfl
      rw [← hlang, List.mem_cons, List.mem_singleton] at hsupported
      rw [Parts.addTemplate, htemplate rfl]
      rcases hsupported with h | h
      · rw [h]
        rfl
      · rw [h]
        rfl
    exact hadd
  by_cases h₂ : name = "script"
  · subst h₂
    have hadd : p.addScript b = .ok (p.plus "script" b) := by
      obtain ⟨hsetup, hsupported⟩ := tag.script rfl
      have hnone : b.attribute? "setup" = none := by
        rw [Block.attribute?, List.find?_eq_none]
        simpa using hsetup
      rw [← hlang, List.mem_cons, List.mem_cons, List.mem_singleton] at hsupported
      rw [Parts.addScript, hnone, hscript rfl]
      rcases hsupported with h | h | h
      · rw [h]
        rfl
      · rw [h]
        rfl
      · rw [h]
        rfl
    exact hadd
  by_cases h₃ : name = "style"
  · subst h₃
    rfl
  · unfold Parts.add Parts.plus
    split
    · contradiction
    · contradiction
    · contradiction
    · rw [if_neg h₁, if_neg h₂, if_neg h₃]

lemma blocksNamed_cons (name kind : String) (b : Block) (bs : List (String × Block)) :
    blocksNamed kind ((name, b) :: bs) =
      if name = kind then b :: blocksNamed kind bs else blocksNamed kind bs := by
  by_cases h : name = kind
  · simp [blocksNamed, h]
  · simp [blocksNamed, h]

/-- The parts with more blocks. -/
def Parts.plusAll (p : Parts) (bs : List (String × Block)) : Parts where
  template? := p.template?.or (blocksNamed "template" bs).head?
  script? := p.script?.or (blocksNamed "script" bs).head?
  styles := p.styles ++ blocksNamed "style" bs

/-- Of templates and of scripts there is at most one in the parts and the blocks together. -/
structure Parts.HasRoom (p : Parts) (bs : List (String × Block)) : Prop where
  template : p.template?.toList.length + (blocksNamed "template" bs).length ≤ 1
  script : p.script?.toList.length + (blocksNamed "script" bs).length ≤ 1

section Room

variable {name kind : String} {b : Block} {bs : List (String × Block)} {o : Option Block}

lemma eq_none_of_room (h : o.toList.length + (blocksNamed kind ((name, b) :: bs)).length ≤ 1)
    (hname : name = kind) : o = none := by
  rw [blocksNamed_cons, if_pos hname, List.length_cons] at h
  cases o with
  | none => rfl
  | some c =>
    rw [Option.toList_some, List.length_singleton] at h
    omega

lemma room_behind (h : o.toList.length + (blocksNamed kind ((name, b) :: bs)).length ≤ 1) :
    (if name = kind then some b else o).toList.length + (blocksNamed kind bs).length ≤ 1 := by
  rw [blocksNamed_cons] at h
  by_cases hname : name = kind
  · rw [if_pos hname, List.length_cons] at h
    rw [if_pos hname, Option.toList_some, List.length_singleton]
    omega
  · rw [if_neg hname] at h
    rwa [if_neg hname]

lemma or_head?_blocksNamed (h : name = kind → o = none) :
    (if name = kind then some b else o).or (blocksNamed kind bs).head? =
      o.or (blocksNamed kind ((name, b) :: bs)).head? := by
  rw [blocksNamed_cons]
  by_cases hname : name = kind
  · simp [hname, h hname]
  · simp [hname]

end Room

namespace Parts.HasRoom

variable {p : Parts} {name : String} {b : Block} {bs : List (String × Block)}

lemma template_free (room : p.HasRoom ((name, b) :: bs)) (h : name = "template") :
    p.template? = none := eq_none_of_room room.template h

lemma script_free (room : p.HasRoom ((name, b) :: bs)) (h : name = "script") :
    p.script? = none := eq_none_of_room room.script h

lemma plus (room : p.HasRoom ((name, b) :: bs)) : (p.plus name b).HasRoom bs :=
  ⟨room_behind room.template, room_behind room.script⟩

lemma plusAll_eq (room : p.HasRoom ((name, b) :: bs)) :
    (p.plus name b).plusAll bs = p.plusAll ((name, b) :: bs) := by
  have hstyles : (p.plus name b).styles ++ blocksNamed "style" bs =
      p.styles ++ blocksNamed "style" ((name, b) :: bs) := by
    rw [blocksNamed_cons, Parts.plus]
    by_cases h : name = "style" <;> simp [h]
  have htemplate : (if name = "template" then some b else p.template?).or
      (blocksNamed "template" bs).head? = _ := or_head?_blocksNamed room.template_free
  have hscript : (if name = "script" then some b else p.script?).or
      (blocksNamed "script" bs).head? = _ := or_head?_blocksNamed room.script_free
  rw [Parts.plusAll, Parts.plusAll, hstyles, ← htemplate, ← hscript]
  rfl

end Parts.HasRoom

/-- The blocks of well-formed items are added in their order. -/
theorem Parts.addAll_items {items : List Item} (h : ∀ i ∈ items, i.WellFormed IsFreeName)
    {p : Parts} {place : Nat} (room : p.HasRoom (blocksFrom place items)) :
    p.addAll place (fileText items) = .ok (p.plusAll (blocksFrom place items)) := by
  induction items generalizing p place with
  | nil => simp [fileText, blocksFrom, Parts.addAll_nil, Parts.plusAll, blocksNamed]
  | cons i items ih =>
    obtain ⟨hi, hitems⟩ := List.forall_mem_cons.1 h
    have htext : fileText (i :: items) = i.text ++ fileText items := by simp [fileText]
    -- a block, whether it has an end tag or not, is read and added to the parts before it
    have hblock {name : String} {b : Block} {written cs : List Char} {place' : Nat}
        (hitem : item place cs = .ok (some (name, b), place', fileText items))
        (tag : BlockTag name b.attributes written)
        (hroom : p.HasRoom ((name, b) :: blocksFrom place' items)) :
        p.addAll place ('<' :: cs) = .ok (p.plusAll ((name, b) :: blocksFrom place' items)) := by
      have hadd := tag.add_eq hroom.template_free hroom.script_free
      rw [addAll_block p hitem hadd, ih hitems hroom.plus, hroom.plusAll_eq]
    rw [htext]
    cases hi with
    | filler hplain =>
      exact (addAll_plain p hplain place (fileText items)).trans (ih hitems room)
    | comment hcomment =>
      have hitem := item_comment hcomment place (fileText items)
      exact (addAll_passed p hitem).trans (ih hitems room)
    | block tag hcontent =>
      exact hblock (tag.item_block hcontent place (fileText items)) tag room
    | closed tag => exact hblock (tag.item_closed place (fileText items)) tag room

/-- The content of the block stands in the text where the block says. -/
def Block.StandsIn (b : Block) (cs : List Char) : Prop :=
  ∃ before after, cs = before ++ b.content.toList ++ after ∧ Utf8.size before = b.offset

lemma Item.block_stands {i : Item} {place : Nat} {b : String × Block}
    (h : i.block? place = some b) : ∃ before after,
      i.text = before ++ b.2.content.toList ++ after ∧ place + Utf8.size before = b.2.offset := by
  cases i with
  | filler | comment => cases h
  | block name attributes written content =>
    cases h
    refine ⟨'<' :: (name.toList ++ (written ++ ['>'])), '<' :: '/' :: (name.toList ++ ['>']),
      ?_, rfl⟩
    simp [Item.text]
  | closed name attributes written =>
    cases h
    refine ⟨'<' :: (name.toList ++ (written ++ ['/', '>'])), [], ?_, rfl⟩
    simp [Item.text]

lemma blocksFrom_stand {items : List Item} {place : Nat} {b : String × Block}
    (h : b ∈ blocksFrom place items) : ∃ before after,
      fileText items = before ++ b.2.content.toList ++ after ∧
        place + Utf8.size before = b.2.offset := by
  induction items generalizing place with
  | nil => cases h
  | cons i items ih =>
    have htext : fileText (i :: items) = i.text ++ fileText items := by simp [fileText]
    rw [htext]
    rw [blocksFrom, List.mem_append, Option.mem_toList] at h
    rcases h with h | h
    · obtain ⟨before, after, hi, hplace⟩ := Item.block_stands h
      exact ⟨before, after ++ fileText items, by simp [hi], hplace⟩
    · obtain ⟨before, after, hitems, hplace⟩ := ih h
      refine ⟨i.text ++ before, after, by simp [hitems], ?_⟩
      rw [Utf8.size_append, ← hplace]
      omega

/-- A component file is read as the blocks of its items, with their attributes, their content and
its offset. Inner templates have no attribute whose name looks like the tag of a template. -/
theorem ofText_fileText {items : List Item} (h : ∀ i ∈ items, i.WellFormed IsFreeName)
    (template : (blocksNamed "template" (blocksFrom 0 items)).length ≤ 1)
    (script : (blocksNamed "script" (blocksFrom 0 items)).length ≤ 1)
    (size : (String.ofList (fileText items)).utf8ByteSize ≤ maxFileSize) :
    Parts.ofText (String.ofList (fileText items)) = .ok (partsOf (blocksFrom 0 items)) ∧
      ∀ b ∈ blocksFrom 0 items, b.2.StandsIn (fileText items) := by
  constructor
  · have room : Parts.HasRoom {} (blocksFrom 0 items) :=
      ⟨by simpa using template, by simpa using script⟩
    rw [Parts.ofText, if_neg (Nat.not_lt.2 size), String.toList_ofList, Parts.addAll_items h room]
    simp [Parts.plusAll, partsOf]
  · intro b hb
    obtain ⟨before, after, htext, hplace⟩ := blocksFrom_stand hb
    exact ⟨before, after, htext, by rw [← hplace, Nat.zero_add]⟩

/-- A comment, a template with one inner template inside another, a script, and a style that is
closed by a slash. -/
theorem ofText_fileText_inner :
    let items := [
      Item.comment " < ",
      Item.block "template" [⟨"lang", some "html"⟩] " lang='html'".toList
        "a<template v-if=\"<\">b<template/></template>",
      Item.filler "\n",
      Item.block "script" [] [] "a < b",
      Item.closed "style" [⟨"scoped", none⟩] " scoped ".toList]
    (∀ i ∈ items, i.WellFormed IsFreeName) ∧
      (blocksNamed "template" (blocksFrom 0 items)).length ≤ 1 ∧
      (blocksNamed "script" (blocksFrom 0 items)).length ≤ 1 ∧
      (String.ofList (fileText items)).utf8ByteSize ≤ maxFileSize ∧
      Parts.ofText (String.ofList (fileText items)) = .ok {
        template? := some ⟨"a<template v-if=\"<\">b<template/></template>",
          [⟨"lang", some "html"⟩], 32⟩
        script? := some ⟨"a < b", [], 95⟩
        styles := [⟨"", [⟨"scoped", none⟩], 125⟩] } := by
  intro items
  have hinner : TemplateContent IsFreeName
      "a<template v-if=\"<\">b<template/></template>".toList := by
    have hfree (cs : List Char) (h : ¬ openingMark <:+: cs ∧ ¬ closingMark <:+: cs) :
        TemplateContent IsFreeName cs := .text h
    have hempty : InnerAttributes IsFreeName [] [] :=
      ⟨.done rfl, by simp, by simp, by simp, by simp⟩
    have hcondition : InnerAttributes IsFreeName [⟨"v-if", some "<"⟩] " v-if=\"<\"".toList := by
      refine ⟨?_, by decide, by unfold IsFreeName; decide, ?_, by decide⟩
      · have hwrites : WritesAttributes [⟨"v-if", some "<"⟩]
            ([' '] ++ "v-if".toList ++ ([] ++ '=' :: ([] ++ '"' :: ("<".toList ++ '"' :: [])))) :=
          .valued (by simp) (by decide) rfl rfl (by decide) (by decide) (.done rfl)
        exact hwrites
      · intro a ha v hv
        obtain rfl := List.mem_singleton.1 ha
        cases hv
        exact ⟨by decide, by decide⟩
    have hclosed : TemplateContent IsFreeName
        ("b".toList ++ (openingMark ++ ([] ++ '/' :: '>' :: []))) :=
      .closed ⟨by decide, by decide⟩ hempty (hfree [] ⟨by decide, by decide⟩)
    have hwhole : TemplateContent IsFreeName ("a".toList ++ (openingMark ++ (" v-if=\"<\"".toList ++
        '>' :: ("b<template/>".toList ++ (closingMark ++ []))))) :=
      .inner ⟨by decide, by decide⟩ hcondition hclosed (hfree [] ⟨by decide, by decide⟩)
    exact hwhole
  have hlang : WritesAttributes [⟨"lang", some "html"⟩]
      ([' '] ++ "lang".toList ++ ([] ++ '=' :: ([] ++ '\'' :: ("html".toList ++ '\'' :: [])))) :=
    .valued (by simp) (by decide) rfl rfl (by decide) (by decide) (.done rfl)
  have hscoped : WritesAttributes [⟨"scoped", none⟩] ([' '] ++ "scoped".toList ++ [' ']) :=
    .bare (by simp) (by decide) (.done rfl)
  have htemplateTag : BlockTag "template" [⟨"lang", some "html"⟩] " lang='html'".toList :=
    ⟨by decide, by decide, hlang, by decide, fun _ => by decide, fun h => absurd h (by decide)⟩
  have hscriptTag : BlockTag "script" [] [] :=
    ⟨by decide, by decide, .done rfl, by simp, fun h => absurd h (by decide),
      fun _ => ⟨by simp, by decide⟩⟩
  have hstyleTag : BlockTag "style" [⟨"scoped", none⟩] " scoped ".toList :=
    ⟨by decide, by decide, hscoped, by decide, fun h => absurd h (by decide),
      fun h => absurd h (by decide)⟩
  have hwell : ∀ i ∈ items, i.WellFormed IsFreeName := by
    intro i hi
    simp only [items, List.mem_cons, List.not_mem_nil, or_false] at hi
    rcases hi with rfl | rfl | rfl | rfl | rfl
    · exact .comment (by unfold isComment; decide)
    · exact .block htemplateTag hinner
    · exact .filler (by decide)
    · exact .block hscriptTag (by rw [IsContent, if_neg (by decide)]; decide)
    · exact .closed hstyleTag
  have htemplate : (blocksNamed "template" (blocksFrom 0 items)).length ≤ 1 := by decide +kernel
  have hscript : (blocksNamed "script" (blocksFrom 0 items)).length ≤ 1 := by decide +kernel
  have hsize : (String.ofList (fileText items)).utf8ByteSize ≤ maxFileSize := by decide +kernel
  refine ⟨hwell, htemplate, hscript, hsize, ?_⟩
  rw [(ofText_fileText hwell htemplate hscript hsize).1]
  exact congrArg Except.ok (by decide +kernel)

/-- The file has a template that is not closed. -/
def leavesTemplateOpen (cs : List Char) : Bool :=
  match Parts.ofText (String.ofList cs) with
  | .error e => decide (e = .unclosedBlock "template" 0)
  | .ok _ => false

/-- An attribute of an inner template whose name looks like the tag of a template counts as one
more inner template. -/
theorem ofText_innerName :
    let items := [Item.block "template" [] [] "<template <template>a</template>"]
    (∀ i ∈ items, i.WellFormed fun _ => True) ∧
      (blocksNamed "template" (blocksFrom 0 items)).length ≤ 1 ∧
      (blocksNamed "script" (blocksFrom 0 items)).length ≤ 1 ∧
      (String.ofList (fileText items)).utf8ByteSize ≤ maxFileSize ∧
      Parts.ofText (String.ofList (fileText items)) = .error (.unclosedBlock "template" 0) := by
  intro items
  have hcontent : TemplateContent (fun _ => True) "<template <template>a</template>".toList := by
    have hname : WritesAttributes [⟨"<template", none⟩] ([' '] ++ "<template".toList ++ []) :=
      .bare (by simp) (by decide) (.done rfl)
    have hattributes : InnerAttributes (fun _ => True) [⟨"<template", none⟩] " <template".toList :=
      ⟨hname, by decide, by simp, by simp, by decide⟩
    have hwhole : TemplateContent (fun _ => True) ([] ++ (openingMark ++ (" <template".toList ++
        '>' :: ("a".toList ++ (closingMark ++ []))))) :=
      .inner ⟨by decide, by decide⟩ hattributes (.text ⟨by decide, by decide⟩)
        (.text ⟨by decide, by decide⟩)
    exact hwhole
  have htag : BlockTag "template" [] [] :=
    ⟨by decide, by decide, .done rfl, by simp, fun _ => by decide, fun h => absurd h (by decide)⟩
  refine ⟨?_, by decide +kernel, by decide +kernel, by decide +kernel, ?_⟩
  · intro i hi
    obtain rfl := List.mem_singleton.1 hi
    exact .block htag hcontent
  · have hread : leavesTemplateOpen (fileText items) = true := by decide +kernel
    unfold leavesTemplateOpen at hread
    split at hread
    · next e he => rw [he, of_decide_eq_true hread]
    · cases hread

end Unbundled.Component
