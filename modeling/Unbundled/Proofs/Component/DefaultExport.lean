import Unbundled.Component.Binding
import Unbundled.Proofs.Text.Split
import Unbundled.Proofs.Text.Utf8
import Mathlib.Control.Monad.Basic

/-!
# The default export of a script

A script exports something as `default` by an item that begins with these two words, by a
specifier of a list, or by naming all that another module exports. The first is bound, the second
is refused, and the third is taken for neither: it is still there when the script has been bound.

The first is looked for in the text of the script, at the place where the parser has seen it: the
two words have to stand there with white space between them. A comment in its place hides them, and
so does a byte order mark, which the place does not count: it may even lead into a character, where
a text cannot be cut.
-/

namespace Unbundled

namespace Component

open Script

/-- The item lists something that it exports under `name`. -/
inductive Lists : Node → String → Prop
  | specifier {span inner : Span} {specifiers : List Node} {source exported : Option Node}
      {localName : Node} {name : String}
      (hmem : .exportSpecifier inner localName exported ∈ specifiers)
      (hname : nameOf? (exported.getD localName) = some name) :
      Lists (.exportNamed span specifiers source) name

/-- The item exports another module as a whole under `name`. -/
inductive ExportsModule : Node → String → Prop
  | whole {span inner : Span} {specifiers : List Node} {source : Option Node} {exported : Node}
      {name : String} (hmem : .exportNamespace inner exported ∈ specifiers)
      (hname : nameOf? exported = some name) :
      ExportsModule (.exportNamed span specifiers source) name

/-- The item exports something under `name`, and the name stands at the export. What is declared
where it is exported has another name: `default` names no variable. -/
inductive Exports : Node → String → Prop
  | expression (span : Span) (e : Node) : Exports (.exportDefaultExpr span e) "default"
  | declaration (span : Span) (decl : Node) : Exports (.exportDefaultDecl span decl) "default"
  | listed {item : Node} {name : String} (h : Lists item name) : Exports item name
  | whole {item : Node} {name : String} (h : ExportsModule item name) : Exports item name

variable {item : Node} {body : List Node} {code text : String}

lemma specifiesDefault_iff : specifiesDefault item ↔ ∃ span localName exported,
    item = .exportSpecifier span localName exported ∧
      nameOf? (exported.getD localName) = some "default" := by
  cases item with
  | exportSpecifier span localName exported =>
    rw [specifiesDefault, beq_iff_eq]
    constructor
    · exact fun hname => ⟨span, localName, exported, rfl, hname⟩
    · rintro ⟨_, _, _, hitem, hname⟩
      cases hitem
      exact hname
  | _ => simp [specifiesDefault]

lemma listsDefault_iff : listsDefault item ↔ Lists item "default" := by
  constructor
  · intro h
    cases item with
    | exportNamed span specifiers source =>
      rw [listsDefault, List.any_eq_true] at h
      obtain ⟨s, hmem, hs⟩ := h
      obtain ⟨inner, localName, exported, rfl, hname⟩ := specifiesDefault_iff.1 hs
      exact .specifier hmem hname
    | _ => cases h
  · rintro ⟨hmem, hname⟩
    rw [listsDefault, List.any_eq_true]
    exact ⟨_, hmem, specifiesDefault_iff.2 ⟨_, _, _, rfl, hname⟩⟩

lemma ofItem?_expression (span : Span) (e : Node) :
    (DefaultExport.ofItem? (.exportDefaultExpr span e)).isSome := rfl

lemma ofItem?_declaration (span : Span) (decl : Node) :
    (DefaultExport.ofItem? (.exportDefaultDecl span decl)).isSome := by
  cases decl with
  | _ => rfl

lemma cutDefault_ne_listed (offset : Nat) (cs : List Char) :
    cutDefault offset cs ≠ .error .listed := by
  unfold cutDefault
  split
  · simp
  · split <;> simp

/-- A script is refused for what it lists, and for nothing else that it exports. -/
lemma bindDefault_eq_listed :
    bindDefault body code = .error .listed ↔ ∃ item ∈ body, Lists item "default" := by
  have hany : body.any listsDefault ↔ ∃ item ∈ body, Lists item "default" := by
    simp only [List.any_eq_true, listsDefault_iff]
  rw [← hany, bindDefault]
  constructor
  · intro h
    split at h
    · next hlisted => exact hlisted
    · split at h
      · cases h
      · split at h
        · next hcut =>
          obtain rfl := Except.error.inj h
          exact absurd hcut (cutDefault_ne_listed _ _)
        · split at h <;> cases h
  · intro h
    rw [if_pos h]

/-- Whatever a bound script exports as `default` begins with these words or is a whole module. -/
theorem exports_default_of_bound (h : bindDefault body code = .ok text) (hitem : item ∈ body)
    (hexports : Exports item "default") :
    (DefaultExport.ofItem? item).isSome ∨ ExportsModule item "default" := by
  have hlisted : ¬ ∃ item ∈ body, Lists item "default" := by
    intro hlisted
    rw [bindDefault_eq_listed.2 hlisted] at h
    cases h
  cases hexports with
  | expression span e => exact .inl (ofItem?_expression span e)
  | declaration span decl => exact .inl (ofItem?_declaration span decl)
  | listed hlists => exact absurd ⟨item, hitem, hlists⟩ hlisted
  | whole hwhole => exact .inr hwhole

/-! ## Where the words stand -/

/-- The two words stand behind `before`, with white space between them, and `rest` stands behind
them. -/
def Words (before rest code : List Char) : Prop :=
  ∃ blanks : List Char, blanks.all Text.isBlank ∧
    code = before ++ (['e', 'x', 'p', 'o', 'r', 't'] ++ (blanks ++
      (['d', 'e', 'f', 'a', 'u', 'l', 't'] ++ rest)))

/-- The text can be cut at the place: it is not inside of a character, nor behind the end. -/
def IsPlace (offset : Nat) (code : List Char) : Prop :=
  ∃ before behind, code = before ++ behind ∧ Utf8.size before = offset

lemma isPlace_iff {offset : Nat} {cs : List Char} :
    IsPlace offset cs ↔ ∃ before behind, Utf8.splitAt? offset cs = some (before, behind) := by
  simp only [IsPlace, Utf8.splitAt?_eq_some_iff]

lemma dropWords?_eq_some_iff {cs rest : List Char} :
    dropWords? cs = some rest ↔ Words [] rest cs := by
  constructor
  · intro h
    obtain ⟨afterExport, hexport, hdefault⟩ := Option.bind_eq_some_iff.1 h
    have hblanks : afterExport.takeWhile Text.isBlank ++
        (['d', 'e', 'f', 'a', 'u', 'l', 't'] ++ rest) = afterExport := by
      rw [← Text.dropPrefix?_eq_some hdefault, List.takeWhile_append_dropWhile]
    refine ⟨afterExport.takeWhile Text.isBlank, List.all_takeWhile, ?_⟩
    rw [hblanks, List.nil_append, ← Text.dropPrefix?_eq_some hexport]
  · rintro ⟨blanks, hblanks, rfl⟩
    have hdrop := Text.dropWhile_append_stop hblanks
      (show ∀ c ∈ (['d', 'e', 'f', 'a', 'u', 'l', 't'] ++ rest).head?, Text.isBlank c = false by
        rintro c ⟨⟩
        decide)
    simp only [dropWords?, List.nil_append, Text.dropPrefix?_append, Option.bind_eq_bind,
      Option.bind_some, hdrop]

lemma words_append {before rest behind : List Char} :
    Words before rest (before ++ behind) ↔ Words [] rest behind := by
  simp only [Words, List.append_cancel_left_eq, List.nil_append]

lemma cutDefault_eq_ok_iff {offset : Nat} {cs before rest : List Char} :
    cutDefault offset cs = .ok (before, rest) ↔
      Words before rest cs ∧ Utf8.size before = offset := by
  constructor
  · intro h
    unfold cutDefault at h
    split at h
    · cases h
    · next hsplit =>
      split at h
      · cases h
      · next hdrop =>
        obtain ⟨rfl, rfl⟩ := Prod.mk.inj (Except.ok.inj h)
        obtain ⟨rfl, hsize⟩ := Utf8.splitAt?_eq_some_iff.1 hsplit
        exact ⟨words_append.2 (dropWords?_eq_some_iff.1 hdrop), hsize⟩
  · rintro ⟨hwords, hsize⟩
    obtain ⟨blanks, -, hcode⟩ := id hwords
    subst hcode
    simp only [cutDefault, Utf8.splitAt?_eq_some_iff.2 ⟨rfl, hsize⟩,
      dropWords?_eq_some_iff.2 (words_append.1 hwords)]

section Hidden

variable {offset : Nat} {cs : List Char}

lemma cutDefault_inside (hplace : ¬ IsPlace offset cs) :
    cutDefault offset cs = .error .insideCharacter := by
  cases hsplit : Utf8.splitAt? offset cs with
  | some parts => exact absurd (isPlace_iff.2 ⟨_, _, hsplit⟩) hplace
  | none => simp only [cutDefault, hsplit]

lemma cutDefault_notLocated (hplace : IsPlace offset cs)
    (hhidden : ∀ before rest, Words before rest cs → Utf8.size before ≠ offset) :
    cutDefault offset cs = .error .notLocated := by
  obtain ⟨before, behind, hsplit⟩ := isPlace_iff.1 hplace
  obtain ⟨rfl, hsize⟩ := Utf8.splitAt?_eq_some_iff.1 hsplit
  cases hdrop : dropWords? behind with
  | some rest =>
    exact absurd hsize (hhidden before rest (words_append.2 (dropWords?_eq_some_iff.1 hdrop)))
  | none => simp only [cutDefault, hsplit, hdrop]

end Hidden

/-- The script with the words taken away: what they bind has a name and stays declared, or becomes
the value of the constant. -/
def boundText (name? : Option String) (before rest : List Char) : String :=
  match name? with
  | some name => withBinding (String.ofList (before ++ rest.dropWhile Text.isBlank)) name
  | none => String.ofList before ++ "const " ++ scriptBinding ++ " =" ++ String.ofList rest

/-- The last item of a script that begins with the words. -/
def lastDefault? (body : List Node) : Option DefaultExport :=
  (body.filterMap DefaultExport.ofItem?).getLast?

section Bound

variable (hnot : ¬ ∃ item ∈ body, Lists item "default") {e : DefaultExport}
  {before rest : List Char}
include hnot

lemma any_listsDefault_eq_false : body.any listsDefault = false := by
  rw [List.any_eq_false]
  exact fun item hitem hlists => hnot ⟨item, hitem, listsDefault_iff.1 hlists⟩

lemma bindDefault_none (hlast : lastDefault? body = none) :
    bindDefault body code = .ok (withBinding code "\x7b\x7d") := by
  rw [lastDefault?] at hlast
  simp only [bindDefault, any_listsDefault_eq_false hnot, hlast]
  rfl

lemma bindDefault_words (hlast : lastDefault? body = some e)
    (hwords : Words before rest code.toList) (hsize : Utf8.size before = e.offset) :
    bindDefault body code = .ok (boundText e.name? before rest) := by
  have hcut := cutDefault_eq_ok_iff.2 ⟨hwords, hsize⟩
  rw [lastDefault?] at hlast
  simp only [bindDefault, any_listsDefault_eq_false hnot, hlast, hcut]
  cases e.name? <;> rfl

lemma bindDefault_uncut {error : BindingError} (hlast : lastDefault? body = some e)
    (hcut : cutDefault e.offset code.toList = .error error) :
    bindDefault body code = .error error := by
  rw [lastDefault?] at hlast
  simp only [bindDefault, any_listsDefault_eq_false hnot, hlast, hcut]
  rfl

end Bound

/-- A script is bound exactly when it lists nothing as `default` and the words stand where its last
default export begins; what comes out has another text in their place. -/
theorem bindDefault_eq_ok_iff : bindDefault body code = .ok text ↔
    (¬ ∃ item ∈ body, Lists item "default") ∧
      ((lastDefault? body = none ∧ text = withBinding code "\x7b\x7d") ∨
        ∃ e before rest, lastDefault? body = some e ∧ Words before rest code.toList ∧
          Utf8.size before = e.offset ∧ text = boundText e.name? before rest) := by
  constructor
  · intro h
    have hnot : ¬ ∃ item ∈ body, Lists item "default" := by
      intro hlisted
      rw [bindDefault_eq_listed.2 hlisted] at h
      cases h
    refine ⟨hnot, ?_⟩
    cases hlast : lastDefault? body with
    | none =>
      rw [bindDefault_none hnot hlast] at h
      exact .inl ⟨rfl, (Except.ok.inj h).symm⟩
    | some e =>
      cases hcut : cutDefault e.offset code.toList with
      | error error =>
        rw [bindDefault_uncut hnot hlast hcut] at h
        cases h
      | ok parts =>
        obtain ⟨hwords, hsize⟩ := cutDefault_eq_ok_iff.1 hcut
        rw [bindDefault_words hnot hlast hwords hsize] at h
        exact .inr ⟨e, parts.1, parts.2, rfl, hwords, hsize, (Except.ok.inj h).symm⟩
  · rintro ⟨hnot, ⟨hlast, rfl⟩ | ⟨e, before, rest, hlast, hwords, hsize, rfl⟩⟩
    · exact bindDefault_none hnot hlast
    · exact bindDefault_words hnot hlast hwords hsize

/-- An export needs nothing behind it and a constant does: what stands on the next line here is an
item of its own, and becomes a part of the value. -/
example :
    (boundScript "a" "export default function () \x7b\x7d\n(1)").toOption =
      some "const __script = function () \x7b\x7d\n(1)" ∧
    (parseModule "a" "export default function () \x7b\x7d\n(1)").toOption.map
      (·.module.body.length) = some 2 ∧
    (parseModule "a" "const __script = function () \x7b\x7d\n(1)").toOption.map
      (·.module.body.length) = some 1 := by
  decide +kernel

/-! ## A mark in front of the script -/

/-- The word `export` does not stand three octets behind itself. -/
lemma export_not_shifted {mid more more' : List Char}
    (h : 'e' :: 'x' :: 'p' :: 'o' :: more = mid ++ 'e' :: more') : Utf8.size mid ≠ 3 := by
  have hsizes : 'e'.utf8Size = 1 ∧ 'x'.utf8Size = 1 ∧ 'p'.utf8Size = 1 := by decide
  obtain ⟨he, hx, hp⟩ := hsizes
  rcases mid with _ | ⟨a, _ | ⟨b, _ | ⟨c, _ | ⟨d, mid⟩⟩⟩⟩
  · simp
  · simp at h
  · simp at h
  · simp at h
  · obtain ⟨rfl, rfl, rfl, -, -⟩ : 'e' = a ∧ 'x' = b ∧ 'p' = c ∧ 'o' = d ∧ _ := by
      simpa using h
    have hpos := d.utf8Size_pos
    simp only [Utf8.size_cons, he, hx, hp]
    omega

/-- Where the words stand without a mark they do not stand with one: there the same number of
octets ends three octets before them. -/
lemma not_words_behindMark {before rest before' rest' code : List Char}
    (h : Words before rest code) (h' : Words before' rest' ('\ufeff' :: code)) :
    Utf8.size before' ≠ Utf8.size before := by
  obtain ⟨blanks, -, rfl⟩ := h
  obtain ⟨blanks', -, hcode⟩ := h'
  cases before' with
  | nil => simp at hcode
  | cons m before' =>
    obtain ⟨hm, hbehind⟩ := List.cons.inj hcode
    have hmark : m.utf8Size = 3 := by
      rw [← hm]
      decide
    rw [Utf8.size_cons, hmark]
    rcases List.append_eq_append_iff.1 hbehind with ⟨mid, rfl, -⟩ | ⟨mid, rfl, hmid⟩
    · rw [Utf8.size_append]
      omega
    · have hshift := export_not_shifted hmid
      rw [Utf8.size_append]
      omega

/-- The parser passes over a mark and counts from behind it. -/
lemma parseModule_behindMark (file : String) {code : String}
    (hmark : code.toList.head? ≠ some '\ufeff') :
    parseModule file ("\ufeff" ++ code) = parseModule file code := by
  have hskip : withoutMark ("\ufeff" ++ code).toList = code.toList := by
    rw [String.toList_append]
    rfl
  have hkeep : withoutMark code.toList = code.toList := by
    unfold withoutMark
    split
    · next hcode =>
      rw [hcode] at hmark
      exact absurd rfl hmark
    · rfl
  rw [parseModule, hskip, parseModule, hkeep]

lemma boundScript_eq_ok_iff {file code text : String} {parsed : Parsed}
    (hparse : parseModule file code = .ok parsed) :
    boundScript file code = .ok text ↔ bindDefault parsed.module.body code = .ok text := by
  simp only [boundScript, hparse]
  cases bindDefault parsed.module.body code with
  | error e => simp
  | ok text' => simp

lemma boundScript_eq_error {file code : String} {parsed : Parsed} {e : BindingError}
    (hparse : parseModule file code = .ok parsed)
    (h : bindDefault parsed.module.body code = .error e) :
    boundScript file code = .error (e.failure file) := by
  simp only [boundScript, hparse, h]

/-- With a byte order mark in front of it no script with a default export can be bound, however it
is bound without one: the words are not where they are looked for, or this is inside of a
character. -/
theorem boundScript_behindMark {file code text : String} {parsed : Parsed} {e : DefaultExport}
    (hmark : code.toList.head? ≠ some '\ufeff') (hparse : parseModule file code = .ok parsed)
    (hlast : lastDefault? parsed.module.body = some e) (hbound : boundScript file code = .ok text) :
    (IsPlace e.offset ("\ufeff" ++ code).toList →
      boundScript file ("\ufeff" ++ code) = .error (BindingError.notLocated.failure file)) ∧
    (¬ IsPlace e.offset ("\ufeff" ++ code).toList →
      boundScript file ("\ufeff" ++ code) =
        .error (BindingError.insideCharacter.failure file)) := by
  have hbind := (boundScript_eq_ok_iff hparse).1 hbound
  obtain ⟨hnot, ⟨hnone, -⟩ | ⟨e', before, rest, hlast', hwords, hsize, -⟩⟩ :=
    bindDefault_eq_ok_iff.1 hbind
  · rw [hlast] at hnone
    cases hnone
  obtain rfl := Option.some.inj (hlast.symm.trans hlast')
  have hhidden : ∀ before' rest', Words before' rest' ("\ufeff" ++ code).toList →
      Utf8.size before' ≠ e.offset := by
    intro before' rest' hwords'
    rw [← hsize]
    rw [String.toList_append] at hwords'
    exact not_words_behindMark hwords hwords'
  have hparse' := (parseModule_behindMark file hmark).trans hparse
  exact ⟨fun hplace => boundScript_eq_error hparse'
      (bindDefault_uncut hnot hlast (cutDefault_notLocated hplace hhidden)),
    fun hplace => boundScript_eq_error hparse'
      (bindDefault_uncut hnot hlast (cutDefault_inside hplace))⟩

example :
    boundScript "/a.vue" "\ufeffexport default \x7b\x7d" =
      .error (.parse "/a.vue" "could not locate \x60export default\x60") ∧
    boundScript "/a.vue" "\ufeff\nexport default \x7b\x7d" =
      .error (.io ⟨"compiling /a.vue"⟩ .panicked) := by
  decide +kernel

end Component

end Unbundled
