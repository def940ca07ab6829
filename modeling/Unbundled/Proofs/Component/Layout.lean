import Unbundled.Proofs.Component.FileText
import Unbundled.Proofs.Text.Utf8
import Mathlib.Data.List.Basic

/-!
# The layout of a component file

A component file that is read is made of stretches: comments and blocks, each of these with its
tags. They do not overlap, no `<` stands outside them, and each block is a slice of the file. What
is kept are the blocks of three names, in their order.
-/

namespace Unbundled.Component

open Markup (isQuote tagEnd? tagEndFrom?)

/-! ## How stretches are written -/

/-- No `>` stands outside quotes, and every quote is closed. -/
inductive QuotesClosed : List Char → Prop
  | nil : QuotesClosed []
  | plain {c : Char} {cs : List Char} (hmark : c ≠ '>') (hquote : isQuote c = false)
      (h : QuotesClosed cs) : QuotesClosed (c :: cs)
  | quoted {q : Char} {value cs : List Char} (hquote : isQuote q) (hvalue : q ∉ value)
      (h : QuotesClosed cs) : QuotesClosed (q :: (value ++ q :: cs))

/-- The tag that begins a block. Behind the name stands `inside`. -/
def openingTag (name : String) (inside : List Char) : List Char :=
  '<' :: (name.toList ++ (inside ++ ['>']))

/-- The tag that ends a block. -/
def endTag (name : String) : List Char := '<' :: '/' :: (name.toList ++ ['>'])

/-- The block is written as the opening tag with `inside`, its content, and `ending`. -/
structure IsBlock (name : String) (inside : List Char) (content : String) (ending : List Char) :
    Prop where
  name_ne_nil : name.toList ≠ []
  name_chars : name.toList.all isBlockChar
  name_ends : ∀ c ∈ inside.head?, isBlockChar c = false
  quotes : QuotesClosed inside
  closed : inside.getLast? = some '/' → content = "" ∧ ending = []
  ended : inside.getLast? ≠ some '/' → ending = endTag name
  first : name ≠ "template" → ¬ endTag name <:+: content.toList

/-- A comment ends at the first `-->` behind its `<`. -/
def IsComment (cs : List Char) : Prop :=
  ['<', '!', '-', '-'] <+: cs ∧
    ∃ inside, cs = inside ++ ['-', '-', '>'] ∧ ¬ ['-', '-', '>'] <:+: inside ++ ['-', '-']

/-! ## Stretches of a file -/

/-- The text stands in the file from the octet `start` up to the octet `stop`. -/
def StandsAt (file : List UInt8) (start stop : Nat) (cs : List Char) : Prop :=
  stop = start + Utf8.size cs ∧ file.extract start stop = Utf8.encode cs

/-- What a comment or a block takes of a file, in octets. A block is given with its name. -/
structure Stretch where
  start : Nat
  stop : Nat
  block? : Option (String × Block)

/-- The block stands in the file from `start` up to `stop`, and its content at its offset, right
behind the `>` of its opening tag. -/
def BlockStands (file : List UInt8) (name : String) (b : Block) (start stop : Nat) : Prop :=
  ∃ inside ending, IsBlock name inside b.content ending ∧
    StandsAt file start b.offset (openingTag name inside) ∧
    file[b.offset - 1]? = some 0x3E ∧
    StandsAt file b.offset (b.offset + b.content.utf8ByteSize) b.content.toList ∧
    StandsAt file (b.offset + b.content.utf8ByteSize) stop ending

/-- The stretch is in the file what it is said to be. -/
def Stretch.StandsIn (file : List UInt8) (s : Stretch) : Prop :=
  match s.block? with
  | none => ∃ cs, IsComment cs ∧ StandsAt file s.start s.stop cs
  | some (name, b) => BlockStands file name b s.start s.stop

/-- The blocks of the stretches, with their names. -/
def blocksOf (ss : List Stretch) : List (String × Block) := ss.filterMap (·.block?)

/-- The file is made of these stretches, with no `<` outside them, and the parts are their blocks
of three names. -/
structure IsLayout (file : List UInt8) (parts : Parts) (ss : List Stretch) : Prop where
  stands : ∀ s ∈ ss, s.StandsIn file
  disjoint : ss.Pairwise fun s t => s.stop ≤ t.start
  covers : ∀ i, file[i]? = some 0x3C → ∃ s ∈ ss, s.start ≤ i ∧ i < s.stop
  template : parts.template?.toList = blocksNamed "template" (blocksOf ss)
  script : parts.script?.toList = blocksNamed "script" (blocksOf ss)
  styles : parts.styles = blocksNamed "style" (blocksOf ss)
  increasing : parts.styles.Pairwise (·.offset < ·.offset)

/-! ## One stretch is read -/

lemma quotesClosed_of_tagEndFrom? {open? : Option Char} {before cs a b : List Char}
    (h : tagEndFrom? open? before cs = some (a, b)) (hopen : ∀ q ∈ open?, isQuote q) :
    ∃ as, a = before.reverse ++ as ∧
      match open? with
      | none => QuotesClosed as
      | some q => ∃ value rest, as = value ++ q :: rest ∧ q ∉ value ∧ QuotesClosed rest := by
  induction cs generalizing open? before with
  | nil => simp [tagEndFrom?] at h
  | cons c cs ih =>
    cases open? with
    | none =>
      rw [tagEndFrom?] at h
      by_cases hmark : c = '>'
      · simp only [if_pos hmark, Option.some.injEq, Prod.mk.injEq] at h
        exact ⟨[], by simp [h.1], .nil⟩
      · rw [if_neg hmark] at h
        by_cases hquote : isQuote c
        · rw [if_pos hquote] at h
          obtain ⟨as, rfl, value, rest, rfl, hvalue, hrest⟩ := ih h (by simpa using hquote)
          exact ⟨c :: (value ++ c :: rest), by simp, .quoted hquote hvalue hrest⟩
        · rw [if_neg hquote] at h
          obtain ⟨as, rfl, hrest⟩ := ih h (by simp)
          exact ⟨c :: as, by simp, .plain hmark (by simpa using hquote) hrest⟩
    | some q =>
      rw [tagEndFrom?] at h
      by_cases hend : c = q
      · rw [if_pos hend] at h
        obtain ⟨as, rfl, hrest⟩ := ih h (by simp)
        exact ⟨c :: as, by simp, [], as, by rw [hend]; rfl, by simp, hrest⟩
      · rw [if_neg hend] at h
        obtain ⟨as, rfl, value, rest, rfl, hvalue, hrest⟩ := ih h hopen
        refine ⟨c :: (value ++ q :: rest), by simp, c :: value, rest, by simp, ?_, hrest⟩
        exact List.not_mem_cons_of_ne_of_not_mem (Ne.symm hend) hvalue

lemma quotesClosed_of_tagEnd? {cs a b : List Char} (h : tagEnd? cs = some (a, b)) :
    QuotesClosed a := by
  obtain ⟨as, rfl, has⟩ := quotesClosed_of_tagEndFrom? h (by simp)
  exact has

lemma templateEndFrom?_eq_some {depth : Nat} {before cs a b : List Char}
    (h : templateEndFrom? depth before cs = some (a, b)) :
    before.reverse ++ cs = a ++ closingMark ++ b := by
  induction cs generalizing depth before with
  | nil => simp [templateEndFrom?] at h
  | cons c cs ih =>
    have hnext {depth : Nat} (h : templateEndFrom? depth (c :: before) cs = some (a, b)) :
        before.reverse ++ c :: cs = a ++ closingMark ++ b := by
      simpa using ih h
    rw [templateEndFrom?] at h
    split at h
    · next hc =>
      split at h
      · next rest hdrop =>
        split at h
        · obtain ⟨rfl, rfl⟩ := by simpa using h
          rw [hc, Text.dropPrefix?_eq_some hdrop]
          simp [closingMark]
        · exact hnext h
      · exact hnext h
    · exact hnext h

/-- A text that stands behind an opening tag without slash is cut at its end tag. -/
lemma blockEnd?_eq_some {name : String} {cs content rest : List Char}
    (h : blockEnd? name.toList cs = some (content, rest)) :
    cs = content ++ endTag name ++ rest ∧ (name ≠ "template" → ¬ endTag name <:+: content) := by
  rw [blockEnd?] at h
  split at h
  · next hname =>
    obtain rfl : name = "template" := String.toList_inj.1 hname
    exact ⟨templateEndFrom?_eq_some h, fun hne => absurd rfl hne⟩
  · obtain ⟨hcs, hfirst⟩ := (Text.splitOnce?_eq_some_iff (by simp)).1 h
    exact ⟨hcs, fun _ hoccurs => hfirst (hoccurs.trans (List.prefix_append _ _).isInfix)⟩

/-- How the stretch is written that begins at `place` and has the block, or is a comment. -/
inductive Written (place : Nat) : Option (String × Block) → List Char → Prop
  | comment {cs : List Char} (h : IsComment cs) : Written place none cs
  | block {name : String} {b : Block} {inside ending : List Char}
      (h : IsBlock name inside b.content ending)
      (hoffset : b.offset = place + Utf8.size (openingTag name inside)) :
      Written place (some (name, b)) (openingTag name inside ++ b.content.toList ++ ending)

lemma written_comment {cs inside rest : List Char} (place : Nat)
    (hstart : Text.startsWith ['!', '-', '-'] cs)
    (hend : Text.splitOnce? ['-', '-', '>'] cs = some (inside, rest)) :
    '<' :: cs = '<' :: (inside ++ ['-', '-', '>']) ++ rest ∧
      Written place none ('<' :: (inside ++ ['-', '-', '>'])) := by
  obtain ⟨hcs, hfirst⟩ := (Text.splitOnce?_eq_some_iff (by simp)).1 hend
  obtain ⟨tail, htail⟩ := Text.startsWith_iff.1 hstart
  refine ⟨by rw [hcs]; rfl, .comment ⟨?_, '<' :: inside, rfl, ?_⟩⟩
  · rw [List.cons_prefix_cons]
    have hdashes : ['!', '-', '-'] <+: cs := ⟨tail, htail.symm⟩
    have htaken : inside ++ ['-', '-', '>'] <+: cs := ⟨rest, hcs.symm⟩
    refine ⟨rfl, List.prefix_of_prefix_length_le hdashes htaken ?_⟩
    simp
  · rw [List.cons_append, List.infix_cons_iff, not_or]
    exact ⟨by simp, hfirst⟩

section Tag

variable {cs inside behind : List Char}

lemma opens_with_tag (hend : tagEnd? (cs.dropWhile isBlockChar) = some (inside, behind)) :
    '<' :: cs = openingTag (String.ofList (cs.takeWhile isBlockChar)) inside ++ behind := by
  have hcs : cs.takeWhile isBlockChar ++ (inside ++ '>' :: behind) = cs := by
    rw [← Markup.tagEnd?_eq_some hend, List.takeWhile_append_dropWhile]
  calc '<' :: cs = '<' :: (cs.takeWhile isBlockChar ++ (inside ++ '>' :: behind)) := by rw [hcs]
    _ = _ := by simp [openingTag]

lemma size_openingTag (name : String) (inside : List Char) :
    Utf8.size (openingTag name inside) = 2 + Utf8.size name.toList + Utf8.size inside := by
  simp only [openingTag, Utf8.size_cons, Utf8.size_append, Utf8.size_nil, size_marks]
  omega

lemma isBlock_of_tag {content : String} {ending : List Char}
    (hname : cs.takeWhile isBlockChar ≠ [])
    (hend : tagEnd? (cs.dropWhile isBlockChar) = some (inside, behind))
    (hclosed : inside.getLast? = some '/' → content = "" ∧ ending = [])
    (hended : inside.getLast? ≠ some '/' →
      ending = endTag (String.ofList (cs.takeWhile isBlockChar)))
    (hfirst : String.ofList (cs.takeWhile isBlockChar) ≠ "template" →
      ¬ endTag (String.ofList (cs.takeWhile isBlockChar)) <:+: content.toList) :
    IsBlock (String.ofList (cs.takeWhile isBlockChar)) inside content ending where
  name_ne_nil := by rwa [String.toList_ofList]
  name_chars := by
    rw [String.toList_ofList]
    exact List.all_takeWhile
  name_ends := by
    intro c hc
    obtain ⟨-, -, -, hstop⟩ := Text.dropWhile_eq_iff.1 (Markup.tagEnd?_eq_some hend)
    exact hstop c (by rw [List.head?_append, hc]; rfl)
  quotes := quotesClosed_of_tagEnd? hend
  closed := hclosed
  ended := hended
  first := hfirst

end Tag

/-- What is read where a `<` stands is written there. -/
lemma written_of_item {place place' : Nat} {cs rest : List Char} {found : Option (String × Block)}
    (h : item place cs = .ok (found, place', rest)) :
    ∃ text, '<' :: cs = text ++ rest ∧ place' = place + Utf8.size text ∧
      Written place found text := by
  unfold item at h
  split at h
  · next hstart =>
    split at h
    · cases h
    · next inside rest' hend =>
      obtain ⟨rfl, rfl, rfl⟩ := by simpa using h
      obtain ⟨htext, hwritten⟩ := written_comment place hstart hend
      refine ⟨_, htext, ?_, hwritten⟩
      simp only [Utf8.size_cons, Utf8.size_append, Utf8.size_nil, size_marks]
      omega
  · dsimp only at h
    split at h
    · cases h
    · next hname =>
      split at h
      · cases h
      · next inside behind hend =>
        have hopens := opens_with_tag hend
        have hsize := size_openingTag (String.ofList (cs.takeWhile isBlockChar)) inside
        rw [String.toList_ofList] at hsize
        by_cases hslash : inside.getLast? = some '/'
        · simp only [Markup.withoutSlash, hslash, if_true, Except.ok.injEq, Prod.mk.injEq] at h
          obtain ⟨rfl, rfl, rfl⟩ := h
          have hblock : IsBlock _ inside "" [] := isBlock_of_tag hname hend
            (fun _ => ⟨rfl, rfl⟩) (fun hne => absurd hslash hne) fun _ => by simp [endTag]
          refine ⟨_, ?_, ?_, .block hblock ?_⟩
          · simpa using hopens
          · simp only [String.ofList_nil, String.toList_empty, List.append_nil]
            omega
          · dsimp only
            omega
        · simp only [Markup.withoutSlash, hslash, if_false, Bool.false_eq_true] at h
          split at h
          · cases h
          · next content rest' hcontent =>
            simp only [Except.ok.injEq, Prod.mk.injEq] at h
            obtain ⟨rfl, rfl, rfl⟩ := h
            rw [← String.toList_ofList (l := cs.takeWhile isBlockChar)] at hcontent
            obtain ⟨hbehind, hfirst⟩ := blockEnd?_eq_some hcontent
            have hblock : IsBlock _ inside (String.ofList content) _ := isBlock_of_tag hname hend
              (fun h => absurd h hslash) (fun _ => rfl) (by rwa [String.toList_ofList])
            refine ⟨_, ?_, ?_, .block hblock ?_⟩
            · rw [hopens, hbehind]
              simp
            · simp only [String.toList_ofList, Utf8.size_append, endTag, Utf8.size_cons,
                Utf8.size_nil, size_marks]
              omega
            · dsimp only
              omega

/-! ## The whole file is read -/

/-- The rest of a file, which begins at `place`, is made of these stretches. -/
inductive Follows : Nat → List Char → List Stretch → Prop
  | nil {place : Nat} : Follows place [] []
  | plain {place : Nat} {c : Char} {cs : List Char} {ss : List Stretch} (hc : c ≠ '<')
      (h : Follows (place + c.utf8Size) cs ss) : Follows place (c :: cs) ss
  | stretch {place : Nat} {found : Option (String × Block)} {text cs : List Char}
      {ss : List Stretch} (hfound : Written place found text)
      (h : Follows (place + Utf8.size text) cs ss) :
      Follows place (text ++ cs) (⟨place, place + Utf8.size text, found⟩ :: ss)

/-- The parts `q` are `p` and the blocks behind it. -/
structure Gains (p q : Parts) (bs : List (String × Block)) : Prop where
  template : q.template?.toList = p.template?.toList ++ blocksNamed "template" bs
  script : q.script?.toList = p.script?.toList ++ blocksNamed "script" bs
  styles : q.styles = p.styles ++ blocksNamed "style" bs

lemma Gains.refl (p : Parts) : Gains p p [] := by
  constructor <;> simp [blocksNamed]

lemma Gains.trans {p q r : Parts} {as bs : List (String × Block)} (h₁ : Gains p q as)
    (h₂ : Gains q r bs) : Gains p r (as ++ bs) := by
  have hnamed (name : String) : blocksNamed name (as ++ bs) =
      blocksNamed name as ++ blocksNamed name bs := by simp [blocksNamed]
  constructor
  · rw [h₂.template, h₁.template, hnamed, List.append_assoc]
  · rw [h₂.script, h₁.script, hnamed, List.append_assoc]
  · rw [h₂.styles, h₁.styles, hnamed, List.append_assoc]

lemma addTemplate_eq_ok {p q : Parts} {b : Block} (h : p.addTemplate b = .ok q) :
    p.template? = none ∧ q = { p with template? := some b } := by
  unfold Parts.addTemplate at h
  split at h
  · cases h
  · next hnone =>
    refine ⟨by simpa using hnone, ?_⟩
    split at h
    · split at h
      · exact (Except.ok.inj h).symm
      · cases h
    · exact (Except.ok.inj h).symm

lemma addScript_eq_ok {p q : Parts} {b : Block} (h : p.addScript b = .ok q) :
    p.script? = none ∧ q = { p with script? := some b } := by
  unfold Parts.addScript at h
  split at h
  · cases h
  · split at h
    · cases h
    · next hnone =>
      refine ⟨by simpa using hnone, ?_⟩
      split at h
      · split at h
        · exact (Except.ok.inj h).symm
        · cases h
      · exact (Except.ok.inj h).symm

lemma gains_of_add {p q : Parts} {name : String} {b : Block} (h : p.add name b = .ok q) :
    Gains p q [(name, b)] := by
  unfold Parts.add at h
  split at h
  · obtain ⟨hnone, rfl⟩ := addTemplate_eq_ok h
    constructor <;> simp [blocksNamed, hnone]
  · obtain ⟨hnone, rfl⟩ := addScript_eq_ok h
    constructor <;> simp [blocksNamed, hnone]
  · obtain rfl := Except.ok.inj h
    constructor <;> simp [blocksNamed]
  · next h₁ h₂ h₃ =>
    obtain rfl := Except.ok.inj h
    constructor <;> simpa [blocksNamed] using by assumption

lemma Follows.item {place place' : Nat} {cs rest : List Char} {ss : List Stretch}
    {found : Option (String × Block)} (hitem : item place cs = .ok (found, place', rest))
    (h : Follows place' rest ss) : Follows place ('<' :: cs) (⟨place, place', found⟩ :: ss) := by
  obtain ⟨text, htext, rfl, hwritten⟩ := written_of_item hitem
  rw [htext]
  exact .stretch hwritten h

/-- Adding the blocks of the rest of a file follows its stretches. -/
lemma follows_of_addAll {p q : Parts} {place : Nat} {cs : List Char}
    (h : p.addAll place cs = .ok q) :
    ∃ ss, Follows place cs ss ∧ Gains p q (blocksOf ss) := by
  fun_induction Parts.addAll p place cs with
  | case1 p place =>
    obtain rfl := Except.ok.inj h
    exact ⟨[], .nil, .refl p⟩
  | case2 => cases h
  | case3 p place cs place' rest _ hitem _ ih =>
    obtain ⟨ss, hfollows, hgains⟩ := ih h
    exact ⟨_, hfollows.item hitem, hgains⟩
  | case4 => cases h
  | case5 p place cs place' rest name b _ q hadd hitem _ ih =>
    obtain ⟨ss, hfollows, hgains⟩ := ih h
    exact ⟨_, hfollows.item hitem, (gains_of_add hadd).trans hgains⟩
  | case6 p place c cs hc ih =>
    obtain ⟨ss, hfollows, hgains⟩ := ih h
    exact ⟨ss, .plain hc hfollows, hgains⟩

/-! ## Stretches in octets -/

section Octets

variable {file : List UInt8} {start stop : Nat} {as bs : List Char}

lemma standsAt_of_split (before cs after : List Char) :
    StandsAt (Utf8.encode (before ++ cs ++ after)) (Utf8.size before)
      (Utf8.size before + Utf8.size cs) cs := by
  refine ⟨rfl, ?_⟩
  rw [List.extract_eq_take_drop, Nat.add_sub_cancel_left, Utf8.encode_append, Utf8.encode_append,
    List.append_assoc, List.drop_left' (Utf8.length_encode before),
    List.take_left' (Utf8.length_encode cs)]

/-- The parts of a text stand one behind the other. -/
lemma StandsAt.split (h : StandsAt file start stop (as ++ bs)) :
    StandsAt file start (start + Utf8.size as) as ∧
      StandsAt file (start + Utf8.size as) stop bs := by
  obtain ⟨hstop, htext⟩ := h
  rw [Utf8.size_append] at hstop
  rw [Utf8.encode_append, List.extract_eq_take_drop] at htext
  have hfirst : stop - start = Utf8.size as + Utf8.size bs := by omega
  have hrest : stop - (start + Utf8.size as) = stop - start - Utf8.size as := by omega
  refine ⟨⟨rfl, ?_⟩, by omega, ?_⟩
  · have htake := congrArg (List.take (Utf8.size as)) htext
    rwa [List.take_take, List.take_left' (Utf8.length_encode as), hfirst,
      Nat.min_eq_left (Nat.le_add_right _ _), ← Nat.add_sub_cancel_left start (Utf8.size as),
      ← List.extract_eq_take_drop] at htake
  · have hdrop := congrArg (List.drop (Utf8.size as)) htext
    rwa [List.drop_take, List.drop_drop, List.drop_left' (Utf8.length_encode as), ← hrest,
      ← List.extract_eq_take_drop] at hdrop

lemma StandsAt.le (h : StandsAt file start stop as) : start ≤ stop := by
  have hstop := h.1
  omega

/-- In front of the end of a text stands its last octet. -/
lemma StandsAt.getElem?_last {c : Char} (h : StandsAt file start stop (as ++ [c]))
    (hc : c.toNat ≤ 0x7F) : file[stop - 1]? = some (UInt8.ofNat c.toNat) := by
  obtain ⟨hstop, hlast⟩ := h.split.2
  have hsize : Utf8.size [c] = 1 := by
    rw [← Utf8.length_encode, Utf8.encode_cons, Utf8.octets_one hc]
    rfl
  have hplace : stop - 1 = start + Utf8.size as := by omega
  rw [Utf8.encode_cons, Utf8.octets_one hc, List.extract_eq_take_drop] at hlast
  have hhead := congrArg List.head? hlast
  rwa [List.head?_take, if_neg (by omega), List.head?_drop, ← hplace] at hhead

/-- A stretch that is written in a file stands there. -/
lemma standsIn_of_written {found : Option (String × Block)} {text : List Char}
    (hwritten : Written start found text) (h : StandsAt file start stop text) :
    Stretch.StandsIn file ⟨start, stop, found⟩ := by
  cases hwritten with
  | comment hcomment => exact ⟨text, hcomment, h⟩
  | @block name b inside ending hblock hoffset =>
    obtain ⟨hfront, hending⟩ := h.split
    obtain ⟨htag, hcontent⟩ := hfront.split
    rw [← hoffset] at htag hcontent
    rw [Utf8.size_append, ← Nat.add_assoc, ← hoffset, ← Utf8.utf8ByteSize_eq] at hending hcontent
    have hmark : file[b.offset - 1]? = some 0x3E := by
      have hopen : openingTag name inside = '<' :: (name.toList ++ inside) ++ ['>'] := by
        simp [openingTag]
      exact (hopen ▸ htag).getElem?_last (by decide)
    exact ⟨inside, ending, hblock, htag, hmark, hcontent, hending⟩

end Octets

/-! ## The layout -/

lemma Follows.standsIn {place : Nat} {cs before : List Char} {ss : List Stretch}
    (h : Follows place cs ss) (hplace : place = Utf8.size before) :
    ∀ s ∈ ss, s.StandsIn (Utf8.encode (before ++ cs)) := by
  induction h generalizing before with
  | nil => simp
  | @plain place c cs ss hc h ih =>
    rw [List.append_cons]
    exact ih (by simp [Utf8.size_append, hplace])
  | @stretch place found text cs ss hfound h ih =>
    rw [← List.append_assoc]
    refine List.forall_mem_cons.2 ⟨?_, ih (by rw [Utf8.size_append, hplace])⟩
    rw [hplace] at hfound ⊢
    exact standsIn_of_written hfound (standsAt_of_split before text cs)

lemma Follows.le_start {place : Nat} {cs : List Char} {ss : List Stretch}
    (h : Follows place cs ss) : ∀ s ∈ ss, place ≤ s.start := by
  induction h with
  | nil => simp
  | plain hc h ih => exact fun s hs => Nat.le_trans (Nat.le_add_right _ _) (ih s hs)
  | stretch hfound h ih =>
    exact List.forall_mem_cons.2
      ⟨Nat.le_refl _, fun s hs => Nat.le_trans (Nat.le_add_right _ _) (ih s hs)⟩

lemma Follows.disjoint {place : Nat} {cs : List Char} {ss : List Stretch}
    (h : Follows place cs ss) : ss.Pairwise fun s t => s.stop ≤ t.start := by
  induction h with
  | nil => exact .nil
  | plain hc h ih => exact ih
  | stretch hfound h ih => exact .cons h.le_start ih

/-- Every `<` is in a stretch. -/
lemma Follows.covers {place : Nat} {cs : List Char} {ss : List Stretch} (h : Follows place cs ss)
    {i : Nat} (hi : (Utf8.encode cs)[i]? = some 0x3C) :
    ∃ s ∈ ss, s.start ≤ place + i ∧ place + i < s.stop := by
  induction h generalizing i with
  | nil => simp at hi
  | @plain place c cs ss hc h ih =>
    rw [Utf8.encode_cons, List.getElem?_append] at hi
    split at hi
    · -- the octet of a `<` is in no other character
      have hmem : (0x3C : UInt8) ∈ Utf8.encode [c] := by
        simpa using List.mem_of_getElem? hi
      exact absurd (List.mem_singleton.1 (Utf8.mem_encode_ascii (by decide) hmem)).symm hc
    · next hlength =>
      rw [String.length_utf8EncodeChar] at hi hlength
      obtain ⟨s, hs, hstart, hstop⟩ := ih hi
      exact ⟨s, hs, by omega, by omega⟩
  | @stretch place found text cs ss hfound h ih =>
    rw [Utf8.encode_append, List.getElem?_append, Utf8.length_encode] at hi
    split at hi
    · next hlength => exact ⟨_, List.mem_cons_self, by simp, by simpa using hlength⟩
    · next hlength =>
      obtain ⟨s, hs, hstart, hstop⟩ := ih hi
      exact ⟨s, List.mem_cons_of_mem _ hs, by omega, by omega⟩

/-- A block begins before its content, and its content before its end. -/
lemma BlockStands.offset_between {file : List UInt8} {name : String} {b : Block}
    {start stop : Nat} (h : BlockStands file name b start stop) :
    start < b.offset ∧ b.offset ≤ stop := by
  obtain ⟨inside, ending, -, htag, -, hcontent, hending⟩ := h
  have hsize := size_openingTag name inside
  have hoffset := htag.1
  exact ⟨by omega, Nat.le_trans hcontent.le hending.le⟩

lemma increasing_of_disjoint {file : List UInt8} {ss : List Stretch}
    (hstands : ∀ s ∈ ss, s.StandsIn file) (hdisjoint : ss.Pairwise fun s t => s.stop ≤ t.start)
    (name : String) : (blocksNamed name (blocksOf ss)).Pairwise (·.offset < ·.offset) := by
  rw [blocksNamed, List.pairwise_map]
  refine List.Pairwise.filter _ ?_
  rw [blocksOf, List.pairwise_filterMap]
  refine hdisjoint.imp_of_mem fun {s t} hs ht hle b hb c hc => ?_
  have hsb := hstands s hs
  have htc := hstands t ht
  rw [Stretch.StandsIn, hb] at hsb
  rw [Stretch.StandsIn, hc] at htc
  exact Nat.lt_of_le_of_lt (Nat.le_trans hsb.offset_between.2 hle) htc.offset_between.1

/-- A file that is read is laid out as stretches. -/
theorem exists_isLayout {source : String} {parts : Parts} (h : Parts.ofText source = .ok parts) :
    ∃ ss, IsLayout (Utf8.encode source.toList) parts ss := by
  unfold Parts.ofText at h
  split at h
  · cases h
  · obtain ⟨ss, hfollows, hgains⟩ := follows_of_addAll h
    have hstands := hfollows.standsIn (Utf8.size_nil.symm)
    refine ⟨ss, hstands, hfollows.disjoint, fun i hi => ?_, hgains.template, hgains.script,
      hgains.styles, ?_⟩
    · simpa using hfollows.covers hi
    · rw [hgains.styles]
      exact increasing_of_disjoint hstands hfollows.disjoint "style"

/-- A comment that is closed at once, a block that is not kept, a template with another one in it,
and two styles, of which a slash closes the first. -/
theorem exists_isLayout_styles :
    let source := "<!--><i18n>é <</i18n>\n<template><template>ü</template></template>" ++
      "<style scoped/><style a='>'>< </style>"
    let parts : Parts := {
      template? := some ⟨"<template>ü</template>", [], 33⟩
      styles := [⟨"", [⟨"scoped", none⟩], 82⟩, ⟨"< ", [⟨"a", some ">"⟩], 95⟩] }
    Parts.ofText source = .ok parts ∧ ∃ ss, IsLayout (Utf8.encode source.toList) parts ss := by
  intro source parts
  have hparts : Parts.ofText source = .ok parts := by decide +kernel
  exact ⟨hparts, exists_isLayout hparts⟩

end Unbundled.Component
