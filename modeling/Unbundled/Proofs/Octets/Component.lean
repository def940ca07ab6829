import Unbundled.Proofs.Component.Layout
import Unbundled.Proofs.Octets.Tag

/-!
# Component files read by places

A component file is read in its octets: a `<` is searched from the place behind the last item, the
ends of tags and blocks are found as places, and contents are cut from the text. No step fails, and
what is read is what the reader of characters reads.
-/

namespace Unbundled.Octets

open Component (Block BlockError Parts blockEnd? closingMark isBlockChar item openingMark
  opensTemplate templateEndFrom?)

/-! ## The scanners -/

/-- What may stand behind the name in the tag of a template. -/
def endsTemplateName (c : Char) : Bool :=
  c = ' ' || c = '\t' || c = '\n' || c = '\r' || c = '>' || c = '/'

/-- Whether a template that has to be closed begins with the name that ends at the place. -/
def opensAt (file : List UInt8) (i : Nat) : Checked Bool :=
  match file[i]? with
  | none => return false
  | some b =>
    if endsTemplateName (asChar b) then do
      match ← tagEnd? file i with
      | none => return true
      | some stop =>
        let isClosed ← slashBefore file stop
        return !isClosed
    else return false

/-- Goes to the next tag of a template. The state is the number of open templates and the place. -/
def closeRound (file : List UInt8) (s : Nat × Nat) :
    Checked (Turn (Nat × Nat) (Option (Nat × Nat))) := do
  let rest ← octetsFrom file s.2
  match (find (Utf8.encode closingMark) rest).map (s.2 + ·) with
  | none => return .leave none
  | some close =>
    match ((find (Utf8.encode openingMark) rest).map (s.2 + ·)).filter (· < close) with
    | some opening =>
      let behind := opening + openingMark.length
      let isOpen ← opensAt file behind
      return .again (if isOpen then s.1 + 1 else s.1, behind)
    | none =>
      let depth ← minus s.1 1
      if depth = 0 then return .leave (some (close, closingMark.length))
      else return .again (depth, close + closingMark.length)

/-- The place and the length of the end tag of the template whose content begins at the place. -/
def templateClose? (file : List UInt8) (start : Nat) : Checked (Option (Nat × Nat)) :=
  loop (file.length - ·.2) (closeRound file) (1, start)

/-- The place and the length of the end tag of the block whose content begins at the place. -/
def blockClose? (file : List UInt8) (name : List Char) (start : Nat) :
    Checked (Option (Nat × Nat)) :=
  if name = openingMark.tail then templateClose? file start
  else do
    let closing := '<' :: '/' :: name ++ ['>']
    let rest ← octetsFrom file start
    return (find (Utf8.encode closing) rest).map fun i => (start + i, Utf8.size closing)

/-- The block whose tag begins at the place, with its name, and the place behind it. -/
def blockAt (text : List Char) (start : Nat) (name : List Char) :
    Checked (Except BlockError (Option (String × Block) × Nat)) := do
  match ← tagAt text (start + 1 + Utf8.size name) with
  | none => return .error (.unclosedTag (String.ofList name) start)
  | some (as, isClosed, offset) =>
    if isClosed then return .ok (some (String.ofList name, ⟨"", as, offset⟩), offset)
    else
      match ← blockClose? (Utf8.encode text) name offset with
      | none => return .error (.unclosedBlock (String.ofList name) start)
      | some (close, length) =>
        let content ← textBetween text offset close
        return .ok (some (String.ofList name, ⟨String.ofList content, as, offset⟩), close + length)

/-- What begins with the `<` at the place: a block with its name, or a comment. The place behind
it follows. -/
def itemAt (text : List Char) (start : Nat) :
    Checked (Except BlockError (Option (String × Block) × Nat)) := do
  let rest ← textFrom text start
  if Text.startsWith ['<', '!', '-', '-'] rest then
    match ← commentEnd? (Utf8.encode text) start with
    | none => return .error (.unclosedComment start)
    | some next => return .ok (none, next)
  else
    let length ← nameLength isBlockChar rest
    if length = 0 then return .error (.strayBracket start)
    else
      let name ← textBetween rest 1 (length + 1)
      blockAt text start name

/-- Reads one item. The state is the place and the parts so far. -/
def partsRound (text : List Char) (s : Nat × Parts) :
    Checked (Turn (Nat × Parts) (Except BlockError Parts)) := do
  let rest ← octetsFrom (Utf8.encode text) s.1
  match find (Utf8.encode ['<']) rest with
  | none => return .leave (.ok s.2)
  | some i =>
    match ← itemAt text (s.1 + i) with
    | .error e => return .leave (.error e)
    | .ok (none, next) => return .again (next, s.2)
    | .ok (some (name, b), next) =>
      match s.2.add name b with
      | .error e => return .leave (.error e)
      | .ok p => return .again (next, p)

/-- The blocks of a component file. -/
def parts (source : String) : Checked (Except BlockError Parts) :=
  if source.utf8ByteSize > Component.maxFileSize then return .error (.tooLarge source.utf8ByteSize)
  else loop (source.utf8ByteSize - ·.1) (partsRound source.toList) (0, {})

/-! ## Tags of templates -/

lemma isAsciiProperty_templateName : IsAsciiProperty endsTemplateName :=
  (((((isAsciiProperty_eq (by decide)).or (isAsciiProperty_eq (by decide))).or
    (isAsciiProperty_eq (by decide))).or (isAsciiProperty_eq (by decide))).or
    (isAsciiProperty_eq (by decide))).or (isAsciiProperty_eq (by decide))

lemma isAscii_openingMark : IsAscii openingMark := by decide

lemma isAscii_closingMark : IsAscii closingMark := by decide

lemma opensTemplate_cons (c : Char) (cs : List Char) :
    opensTemplate (openingMark.tail ++ c :: cs) = (endsTemplateName c &&
      (Markup.tagEnd? (c :: cs)).all fun parts => decide (parts.1.getLast? ≠ some '/')) := by
  have hdrop := Text.dropPrefix?_append openingMark.tail (c :: cs)
  rw [openingMark, List.tail_cons] at hdrop ⊢
  rw [opensTemplate, hdrop]
  rfl

section Places

variable {text before behind : List Char} {i : Nat}

lemma opensAt_eq (h : text = before ++ openingMark ++ behind)
    (hi : i = Utf8.size (before ++ openingMark)) :
    opensAt (Utf8.encode text) i = .ok (opensTemplate (openingMark.tail ++ behind)) := by
  cases behind with
  | nil =>
    have hend : (Utf8.encode text)[i]? = none := by
      rw [List.getElem?_eq_none_iff, Utf8.length_encode, h, List.append_nil, hi]
    rw [opensAt, hend]
    rfl
  | cons c cs =>
    obtain ⟨b, hb, hget⟩ := exists_octet h hi
    have hname : endsTemplateName (asChar b) = endsTemplateName c :=
      isAsciiProperty_templateName.octet b hb
    rw [opensAt, hget, opensTemplate_cons]
    dsimp only
    rw [hname]
    cases endsTemplateName c with
    | false => rfl
    | true =>
      rw [if_pos rfl, tagEnd?_eq h hi, ok_bind, Bool.true_and]
      cases hend : Markup.tagEnd? (c :: cs) with
      | none => rfl
      | some parts =>
        have hparts : text = before ++ openingMark ++ parts.1 ++ '>' :: parts.2 := by
          rw [h, List.append_assoc _ parts.1, ← Markup.tagEnd?_eq_some hend]
        have hlast : (before ++ openingMark).getLast? ≠ some '/' := by
          simp [List.getLast?_append, openingMark]
        have hstop : i + Utf8.size parts.1 = Utf8.size (before ++ openingMark ++ parts.1) := by
          rw [Utf8.size_append _ parts.1, hi]
        have hslash := slashBefore_inside hparts hstop (by simp [openingMark]) hlast
        rw [Option.map_some]
        dsimp only
        rw [hslash, ok_bind]
        exact congrArg Except.ok (by simp)

/-- Nothing passes a template on the way to the first tag of one. -/
lemma passes_before {a rest : List Char} (h : behind = a ++ rest)
    (hclosing : ∀ xs zs, behind = xs ++ closingMark ++ zs → a <+: xs)
    (hopening : ∀ xs zs, behind = xs ++ openingMark ++ zs → a <+: xs) :
    Component.Passes a rest := by
  have hnot {xs ys : List Char} (ha : a = xs ++ '<' :: ys) : ¬ a <+: xs := by
    intro hprefix
    have hlength := hprefix.length_le
    rw [ha, List.length_append, List.length_cons] at hlength
    omega
  apply Component.passes_of_forall
  intro xs ys ha
  refine ⟨?_, Component.opensTemplate_eq_false ?_⟩
  · rintro ⟨zs, hzs⟩
    refine hnot ha (hclosing xs zs ?_)
    rw [h, ha, List.append_assoc, List.cons_append, ← hzs, List.append_assoc]
    rfl
  · rintro ⟨zs, hzs⟩
    refine hnot ha (hopening xs zs ?_)
    rw [h, ha, List.append_assoc, List.cons_append, ← hzs, List.append_assoc]
    rfl

lemma templateEndFrom?_eq_none {cs : List Char} (h : ¬ closingMark <:+: cs) (depth : Nat)
    (before : List Char) : templateEndFrom? depth before cs = none := by
  induction cs generalizing depth before with
  | nil => rfl
  | cons c cs ih =>
    rw [List.infix_cons_iff, not_or] at h
    rw [templateEndFrom?]
    by_cases hc : c = '<'
    · have hdrop : Text.dropPrefix? closingMark.tail cs = none := by
        refine Text.dropPrefix?_eq_none fun hprefix => h.1 ?_
        rw [hc, closingMark, List.cons_prefix_cons]
        exact ⟨rfl, hprefix⟩
      rw [closingMark, List.tail_cons] at hdrop
      rw [if_pos hc, hdrop]
      exact ih h.2 _ _
    · rw [if_neg hc]
      exact ih h.2 _ _

variable {d : Nat}

lemma closeRound_none (h : text = before ++ behind) (hi : i = Utf8.size before)
    (hclose : Text.splitOnce? closingMark behind = none) :
    closeRound (Utf8.encode text) (d, i) = .ok (.leave none) := by
  rw [closeRound]
  dsimp only
  rw [octetsFrom_eq h hi, ok_bind, find_encode (by decide) isAscii_closingMark, hclose]
  rfl

variable {a b x y : List Char}

lemma closeRound_opening (h : text = before ++ behind) (hi : i = Utf8.size before)
    (hclose : Text.splitOnce? closingMark behind = some (a, b))
    (hopen : Text.splitOnce? openingMark behind = some (x, y))
    (hless : Utf8.size x < Utf8.size a) :
    closeRound (Utf8.encode text) (d, i) =
      .ok (.again (if opensTemplate (openingMark.tail ++ y) then d + 1 else d,
        i + Utf8.size (x ++ openingMark))) := by
  have htext : text = before ++ x ++ openingMark ++ y := by
    rw [h, Text.splitOnce?_eq_some hopen]
    simp
  have hplace : i + Utf8.size x + openingMark.length = Utf8.size (before ++ x ++ openingMark) := by
    rw [Utf8.size_append, Utf8.size_append, size_of_ascii isAscii_openingMark, hi]
  rw [closeRound]
  dsimp only
  rw [octetsFrom_eq h hi, ok_bind, find_encode (by decide) isAscii_closingMark, hclose,
    find_encode (by decide) isAscii_openingMark, hopen]
  simp only [Option.map_some]
  rw [Option.filter_some, if_pos (by simpa using hless)]
  dsimp only
  rw [opensAt_eq htext hplace, ok_bind, Utf8.size_append, size_of_ascii isAscii_openingMark,
    Nat.add_assoc]
  rfl

lemma closeRound_closing (h : text = before ++ behind) (hi : i = Utf8.size before)
    (hclose : Text.splitOnce? closingMark behind = some (a, b))
    (hopen : ∀ parts ∈ Text.splitOnce? openingMark behind, Utf8.size a ≤ Utf8.size parts.1) :
    closeRound (Utf8.encode text) (d + 1, i) =
      .ok (if d = 0 then .leave (some (i + Utf8.size a, closingMark.length))
        else .again (d, i + Utf8.size (a ++ closingMark))) := by
  have hnone : (((Text.splitOnce? openingMark behind).map fun parts => Utf8.size parts.1).map
      (i + ·)).filter (· < i + Utf8.size a) = none := by
    rw [Option.map_map, Option.filter_eq_none_iff]
    intro place hplace
    obtain ⟨parts, hparts, rfl⟩ := Option.map_eq_some_iff.1 hplace
    simpa using hopen parts hparts
  rw [closeRound]
  dsimp only
  rw [octetsFrom_eq h hi, ok_bind, find_encode (by decide) isAscii_closingMark, hclose,
    find_encode (by decide) isAscii_openingMark]
  simp only [Option.map_some]
  rw [hnone]
  dsimp only
  rw [minus_eq (Nat.le_add_left 1 d), ok_bind, Nat.add_sub_cancel, Utf8.size_append,
    size_of_ascii isAscii_closingMark]
  split_ifs <;> rfl

/-- In front of an inner template that begins before the next end tag, nothing is a tag. -/
lemma passes_opening (hclose : Text.splitOnce? closingMark behind = some (a, b))
    (hopen : Text.splitOnce? openingMark behind = some (x, y))
    (hless : Utf8.size x < Utf8.size a) : Component.Passes x (openingMark ++ y) := by
  have hbehind : behind = x ++ (openingMark ++ y) := by
    rw [Text.splitOnce?_eq_some hopen, List.append_assoc]
  refine passes_before hbehind (fun xs zs hxs => ?_) fun xs zs hxs =>
    Text.prefix_of_splitOnce? (by decide) hopen hxs
  have ha := size_le_of_prefix (Text.prefix_of_splitOnce? (by decide) hclose hxs)
  refine prefix_of_size_le ⟨_, hbehind.symm⟩ ⟨closingMark ++ zs, ?_⟩ (by omega)
  rw [hxs, List.append_assoc]

/-- In front of an end tag before which no inner template begins, nothing is a tag. -/
lemma passes_closing (hclose : Text.splitOnce? closingMark behind = some (a, b))
    (hopen : ∀ parts ∈ Text.splitOnce? openingMark behind, Utf8.size a ≤ Utf8.size parts.1) :
    Component.Passes a (closingMark ++ b) := by
  have hbehind : behind = a ++ (closingMark ++ b) := by
    rw [Text.splitOnce?_eq_some hclose, List.append_assoc]
  refine passes_before hbehind (fun xs zs hxs => Text.prefix_of_splitOnce? (by decide) hclose hxs)
    fun xs zs hxs => ?_
  cases hcut : Text.splitOnce? openingMark behind with
  | none => exact absurd ⟨xs, zs, hxs.symm⟩ ((Text.splitOnce?_eq_none_iff (by decide)).1 hcut)
  | some parts =>
    have hx := size_le_of_prefix (Text.prefix_of_splitOnce? (by decide) hcut hxs)
    have ha := hopen parts hcut
    refine prefix_of_size_le ⟨_, hbehind.symm⟩ ⟨openingMark ++ zs, ?_⟩ (by omega)
    rw [hxs, List.append_assoc]

/-- A round ends at the end tag of the template or where there is none, or takes a tag off the rest
and keeps count of the open templates. -/
lemma closeRound_eq {start : List Char} (h : text = start ++ before ++ behind)
    (hi : i = Utf8.size (start ++ before)) :
    closeRound (Utf8.encode text) (d + 1, i) =
        .ok (.leave ((templateEndFrom? d before.reverse behind).map fun parts =>
          (Utf8.size start + Utf8.size parts.1, closingMark.length))) ∨
      ∃ taken rest e, taken ≠ [] ∧ behind = taken ++ rest ∧
        closeRound (Utf8.encode text) (d + 1, i) = .ok (.again (e + 1, i + Utf8.size taken)) ∧
        templateEndFrom? e (before ++ taken).reverse rest =
          templateEndFrom? d before.reverse behind := by
  cases hclose : Text.splitOnce? closingMark behind with
  | none =>
    left
    rw [templateEndFrom?_eq_none ((Text.splitOnce?_eq_none_iff (by decide)).1 hclose)]
    exact closeRound_none h hi hclose
  | some parts =>
    obtain ⟨a, b⟩ := parts
    by_cases hopen : ∃ parts ∈ Text.splitOnce? openingMark behind, Utf8.size parts.1 < Utf8.size a
    · right
      obtain ⟨⟨x, y⟩, hcut, hx⟩ := hopen
      have hbehind := Text.splitOnce?_eq_some hcut
      have hdepth : (if opensTemplate (openingMark.tail ++ y) then d + 1 + 1 else d + 1) =
          (if opensTemplate (openingMark.tail ++ y) then d + 1 else d) + 1 := by
        split_ifs <;> rfl
      refine ⟨_, y, _, by simp [openingMark], hbehind,
        hdepth ▸ closeRound_opening h hi hclose hcut hx, ?_⟩
      rw [hbehind, List.append_assoc, passes_opening hclose hcut hx,
        Component.templateEndFrom?_opening]
      simp
    · have hlate : ∀ parts ∈ Text.splitOnce? openingMark behind,
          Utf8.size a ≤ Utf8.size parts.1 := fun parts hparts =>
        Nat.le_of_not_lt fun hlt => hopen ⟨parts, hparts, hlt⟩
      have hbehind := Text.splitOnce?_eq_some hclose
      have hpasses := passes_closing hclose hlate
      have hround := closeRound_closing (d := d) h hi hclose hlate
      cases d with
      | zero =>
        left
        rw [if_pos rfl] at hround
        rw [hround, hbehind, List.append_assoc, hpasses, Component.templateEndFrom?_outer]
        simp [hi, Utf8.size_append, Nat.add_assoc]
      | succ d =>
        right
        rw [if_neg (Nat.succ_ne_zero d)] at hround
        refine ⟨_, b, d, by simp [closingMark], hbehind, hround, ?_⟩
        rw [hbehind, List.append_assoc, hpasses, Component.templateEndFrom?_inner]
        simp

/-- The end tag of a template is found where the reader of characters finds it. -/
lemma templateClose?_eq {start : List Char} (h : text = start ++ behind)
    (hi : i = Utf8.size start) :
    templateClose? (Utf8.encode text) i =
      .ok ((templateEndFrom? 0 [] behind).map fun parts =>
        (i + Utf8.size parts.1, closingMark.length)) := by
  subst hi
  rw [templateClose?]
  -- what has been passed over since the start is kept beside what follows
  refine loop_eq (R := fun (x : Nat × List Char × List Char) (s : Nat × Nat) =>
      s.1 = x.1 + 1 ∧ text = start ++ x.2.1 ++ x.2.2 ∧ s.2 = Utf8.size (start ++ x.2.1))
    (f := fun x _ => (templateEndFrom? x.1 x.2.1.reverse x.2.2).map fun parts =>
      (Utf8.size start + Utf8.size parts.1, closingMark.length))
    (x := (0, [], behind)) (s := (1, Utf8.size start)) ?_
    ⟨rfl, by rw [h, List.append_nil], by rw [List.append_nil]⟩
  rintro ⟨d, before, behind⟩ ⟨depth, i⟩ ⟨hdepth, h, hi⟩
  obtain rfl : depth = d + 1 := hdepth
  rcases closeRound_eq h hi with hleave | ⟨taken, rest, e, hne, rfl, hagain, hsame⟩
  · exact .inl hleave
  · have hstands : Stands text i (taken ++ rest) := ⟨_, h, hi⟩
    refine .inr ⟨(e, before ++ taken, rest), _, hagain, ?_, ⟨rfl, ?_, ?_⟩, ?_⟩
    · rw [Utf8.length_encode]
      exact hstands.less hne
    · simpa using h
    · dsimp only at hi ⊢
      rw [hi, ← List.append_assoc, Utf8.size_append _ taken]
    · dsimp only
      rw [hsame]

/-! ## Blocks -/

lemma isAscii_name {name : List Char} (h : name.all isBlockChar) : IsAscii name := by
  intro c hc
  have hchar := List.all_eq_true.1 h c hc
  simp only [isBlockChar, Bool.or_eq_true, decide_eq_true_eq, Markup.isAlphanum_iff] at hchar
  rcases hchar with hchar | rfl
  · omega
  · decide

/-- The end of a block is found where the reader of characters finds it. -/
lemma blockClose?_eq {name : List Char} (hname : name.all isBlockChar)
    (h : text = before ++ behind) (hi : i = Utf8.size before) :
    blockClose? (Utf8.encode text) name i =
      .ok ((blockEnd? name behind).map fun parts =>
        (i + Utf8.size parts.1, 3 + Utf8.size name)) := by
  have hmarks := Component.size_marks
  have hsize : Utf8.size ('<' :: '/' :: name ++ ['>']) = 3 + Utf8.size name := by
    simp only [List.cons_append, Utf8.size_cons, Utf8.size_append, Utf8.size_nil, hmarks]
    omega
  by_cases htemplate : name = openingMark.tail
  · have hmark : closingMark.length = 3 + Utf8.size openingMark.tail := by decide
    rw [htemplate, blockClose?, blockEnd?, if_pos rfl, templateClose?_eq h hi, hmark]
    rfl
  · have hascii : IsAscii ('<' :: '/' :: name ++ ['>']) := by
      have hchars := isAscii_name hname
      intro c hc
      simp only [List.cons_append, List.mem_cons, List.mem_append, List.not_mem_nil, or_false]
        at hc
      rcases hc with rfl | rfl | hc | rfl
      · decide
      · decide
      · exact hchars c hc
      · decide
    have hother : ¬ name = ['t', 'e', 'm', 'p', 'l', 'a', 't', 'e'] := htemplate
    rw [blockClose?, blockEnd?, if_neg htemplate, if_neg hother]
    dsimp only
    rw [octetsFrom_eq h hi, ok_bind, find_encode (by simp) hascii, hsize, Option.map_map]
    rfl

/-- The tag and the content of a block are cut from the text where its parts meet. -/
lemma blockAt_eq {cs : List Char} (h : text = before ++ '<' :: cs) (hi : i = Utf8.size before)
    (hcomment : ¬ Text.startsWith ['!', '-', '-'] cs) (hne : cs.takeWhile isBlockChar ≠ []) :
    blockAt text i (cs.takeWhile isBlockChar) =
      .ok ((item i cs).map fun found => (found.1, found.2.1)) := by
  have hmarks := Component.size_marks
  have hname : (cs.takeWhile isBlockChar).all isBlockChar := List.all_takeWhile
  have hcs : cs = cs.takeWhile isBlockChar ++ cs.dropWhile isBlockChar :=
    List.takeWhile_append_dropWhile.symm
  rw [item, if_neg hcomment, blockAt, tagAt_eq (by decide) h hi, ok_bind]
  dsimp only
  rw [if_neg hne]
  generalize cs.takeWhile isBlockChar = name at *
  generalize cs.dropWhile isBlockChar = after at *
  cases hend : Markup.tagEnd? after with
  | none => rfl
  | some parts =>
    obtain ⟨inside, rest⟩ := parts
    have hoffset : i + 1 + Utf8.size name + Utf8.size inside + 1 =
        i + 2 + Utf8.size name + Utf8.size inside := by omega
    have hrest : text = (before ++ '<' :: name ++ inside ++ ['>']) ++ rest := by
      rw [h, hcs, Markup.tagEnd?_eq_some hend]
      simp
    have hcontent : i + 2 + Utf8.size name + Utf8.size inside =
        Utf8.size (before ++ '<' :: name ++ inside ++ ['>']) := by
      simp only [Utf8.size_append, Utf8.size_cons, Utf8.size_nil, hmarks, hi]
      omega
    rw [Option.map_some]
    dsimp only
    rw [hoffset]
    split_ifs
    · rfl
    · rw [blockClose?_eq hname hrest hcontent, ok_bind]
      cases hclose : blockEnd? name rest with
      | none => rfl
      | some parts =>
        obtain ⟨content, rest'⟩ := parts
        have hstring : blockEnd? (String.ofList name).toList rest = some (content, rest') := by
          rwa [String.toList_ofList]
        obtain ⟨hends, -⟩ := Component.blockEnd?_eq_some hstring
        have hcut : text = (before ++ '<' :: name ++ inside ++ ['>']) ++ content ++
            (Component.endTag (String.ofList name) ++ rest') := by
          rw [hrest, hends, List.append_assoc content, ← List.append_assoc _ content]
        have hvalue := textBetween_eq hcut hcontent rfl
        rw [Option.map_some]
        dsimp only
        rw [hvalue, ok_bind, ← Nat.add_assoc]
        rfl

/-- What begins with a `<` is what the reader of characters reads there. -/
lemma itemAt_eq {cs : List Char} (h : text = before ++ '<' :: cs) (hi : i = Utf8.size before) :
    itemAt text i = .ok ((item i cs).map fun found => (found.1, found.2.1)) := by
  rw [itemAt, textFrom_eq h hi, ok_bind]
  by_cases hcomment : Text.startsWith ['!', '-', '-'] cs
  · have hstart : Text.startsWith ['<', '!', '-', '-'] ('<' :: cs) = true := hcomment
    rw [if_pos hstart, commentEnd?_eq h hi, ok_bind, item, if_pos hcomment]
    cases Text.splitOnce? ['-', '-', '>'] cs with
    | none => rfl
    | some parts =>
      have hplace : i + Utf8.size ('<' :: (parts.1 ++ ['-', '-', '>'])) =
          i + 4 + Utf8.size parts.1 := by
        simp only [Utf8.size_cons, Utf8.size_append, Utf8.size_nil, Component.size_marks]
        omega
      rw [Option.map_some, hplace]
      rfl
  · have hstart : ¬ Text.startsWith ['<', '!', '-', '-'] ('<' :: cs) := hcomment
    rw [if_neg hstart, nameLength_eq, ok_bind]
    by_cases hempty : cs.takeWhile isBlockChar = []
    · rw [if_pos (by rw [hempty]; rfl), item, if_neg hcomment]
      dsimp only
      rw [if_pos hempty]
      rfl
    · have hpos := size_pos hempty
      rw [if_neg (by omega), textBetween_name, ok_bind, blockAt_eq h hi hcomment hempty]

/-! ## Files -/

lemma addAll_error {p : Parts} {place : Nat} {cs : List Char} {e : BlockError}
    (h : item place cs = .error e) : p.addAll place ('<' :: cs) = .error e := by
  rw [Parts.addAll, if_pos rfl]
  split
  · next he =>
    rw [h] at he
    cases he
    rfl
  · next hok => rw [h] at hok; cases hok

lemma addAll_refused {p : Parts} {place place' : Nat} {cs rest : List Char} {name : String}
    {b : Block} {e : BlockError} (h : item place cs = .ok (some (name, b), place', rest))
    (hadd : p.add name b = .error e) : p.addAll place ('<' :: cs) = .error e := by
  rw [Parts.addAll, if_pos rfl]
  split
  · next he => rw [h] at he; cases he
  · next hok =>
    rw [h] at hok
    cases hok
    dsimp only
    rw [hadd]

/-- What is taken with an item is not empty, and ends where the rest begins. -/
lemma taken_of_item {found : Option (String × Block)} {a b rest : List Char} {next : Nat}
    (h : item (i + Utf8.size a) b = .ok (found, next, rest)) :
    ∃ taken, a ++ taken ≠ [] ∧ a ++ '<' :: b = a ++ taken ++ rest ∧
      next = i + Utf8.size (a ++ taken) := by
  obtain ⟨taken, htaken, rfl, -⟩ := Component.written_of_item h
  have hlengths := congrArg List.length htaken
  have hshorter := Component.length_item_le h
  rw [List.length_cons, List.length_append] at hlengths
  have hne : taken ≠ [] := List.ne_nil_of_length_pos (by omega)
  refine ⟨taken, by simp [hne], by rw [htaken, List.append_assoc], ?_⟩
  rw [Utf8.size_append, Nat.add_assoc]

/-- What stands in front of the next `<` is passed over. -/
lemma partsRound_eq (p : Parts) {a b : List Char} (h : text = before ++ a ++ '<' :: b)
    (ha : '<' ∉ a) (hi : i = Utf8.size before) :
    partsRound text (i, p) = .ok (match item (i + Utf8.size a) b with
      | .error e => .leave (.error e)
      | .ok (none, next, _) => .again (next, p)
      | .ok (some (name, b), next, _) =>
        match p.add name b with
        | .error e => .leave (.error e)
        | .ok p => .again (next, p)) := by
  have hcut : Text.splitOnce? ['<'] (a ++ '<' :: b) = some (a, b) := by
    rw [Text.splitOnce?_eq_some_iff (by simp)]
    simpa [List.singleton_infix_iff] using ha
  have hplace : i + Utf8.size a = Utf8.size (before ++ a) := by rw [Utf8.size_append, hi]
  rw [partsRound]
  dsimp only
  rw [octetsFrom_eq (h.trans (List.append_assoc _ _ _)) hi, ok_bind,
    find_encode (by simp) (by decide), hcut, Option.map_some]
  dsimp only
  rw [itemAt_eq h hplace, ok_bind]
  rcases item (i + Utf8.size a) b with e | ⟨_ | ⟨name, b⟩, next, rest⟩
  · rfl
  · rfl
  · simp only [Except.map]
    cases p.add name b <;> rfl

lemma partsRound_nil (p : Parts) (h : text = before ++ behind) (hlt : '<' ∉ behind)
    (hi : i = Utf8.size before) : partsRound text (i, p) = .ok (.leave (.ok p)) := by
  have hcut : Text.splitOnce? ['<'] behind = none := by
    rw [Text.splitOnce?_eq_none_iff (by simp), List.singleton_infix_iff]
    exact hlt
  rw [partsRound]
  dsimp only
  rw [octetsFrom_eq h hi, ok_bind, find_encode (by simp) (by decide), hcut]
  rfl

/-- A round takes an item off the rest, and the parts behind it are those that the reader of
characters goes on with. -/
lemma partsRound_addAll (p : Parts) (h : text = before ++ behind) (hi : i = Utf8.size before) :
    partsRound text (i, p) = .ok (.leave (p.addAll i behind)) ∨
      ∃ taken rest q, taken ≠ [] ∧ behind = taken ++ rest ∧
        partsRound text (i, p) = .ok (.again (i + Utf8.size taken, q)) ∧
        q.addAll (i + Utf8.size taken) rest = p.addAll i behind := by
  by_cases hlt : '<' ∈ behind
  · obtain ⟨a, b, rfl, ha⟩ := List.eq_append_cons_of_mem hlt
    have hround := partsRound_eq p (h.trans (List.append_assoc _ _ _).symm) ha hi
    rw [hround, Parts.addAll_plain p ha]
    cases hitem : item (i + Utf8.size a) b with
    | error e =>
      rw [addAll_error hitem]
      exact .inl rfl
    | ok found =>
      obtain ⟨_ | ⟨name, block⟩, next, rest⟩ := found
      · obtain ⟨taken, hne, hparts, rfl⟩ := taken_of_item hitem
        rw [Parts.addAll_passed p hitem]
        exact .inr ⟨_, rest, p, hne, hparts, rfl, rfl⟩
      · obtain ⟨taken, hne, hparts, rfl⟩ := taken_of_item hitem
        cases hadd : p.add name block with
        | error e =>
          rw [addAll_refused hitem hadd]
          exact .inl (by simp only [hadd])
        | ok q =>
          rw [Parts.addAll_block p hitem hadd]
          exact .inr ⟨_, rest, q, hne, hparts, by simp only [hadd], rfl⟩
  · have hadd := Parts.addAll_plain p hlt i []
    rw [List.append_nil, Parts.addAll_nil] at hadd
    rw [hadd]
    exact .inl (partsRound_nil p h hlt hi)

end Places

/-- A component file is read without a failure, and as the reader of characters reads it. -/
theorem parts_eq (source : String) : parts source = .ok (Parts.ofText source) := by
  rw [parts, Parts.ofText, Utf8.utf8ByteSize_eq]
  split_ifs
  · rfl
  refine loop_eq (R := fun behind (s : Nat × Parts) => Stands source.toList s.1 behind)
    (f := fun behind s => s.2.addAll s.1 behind) ?_ (stands_start source.toList)
  rintro behind ⟨i, p⟩ ⟨before, h, hi⟩
  rcases partsRound_addAll p h hi with hleave | ⟨taken, rest, q, hne, rfl, hagain, hsame⟩
  · exact .inl hleave
  · have hstands : Stands source.toList i (taken ++ rest) := ⟨before, h, hi⟩
    exact .inr ⟨rest, _, hagain, hstands.less hne, hstands.behind, hsame⟩

end Unbundled.Octets
