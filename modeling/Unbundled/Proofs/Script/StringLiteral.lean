import Unbundled.Proofs.Success
import Unbundled.Proofs.Text.Split
import Unbundled.Script.Lexer
import Unbundled.Script.Sources
import Unbundled.Text.Quoted
import Mathlib.Tactic.IntervalCases

/-!
# String literals are read as they were meant

A literal is written with its value escaped, or between quotes that need no escapes. The scanner
reads the one and the other back as a single token with that value.
-/

namespace Unbundled.Script

namespace Scan

variable {α β : Type}

/-- In front of `rest`, `x` passes over `cs`, yields `a`, and notes nothing. -/
def Consumes (x : Scan α) (cs : List Char) (a : α) (rest : List Char) : Prop :=
  ∀ s : Scanner, s.rest = cs ++ rest →
    x.run.run s = (.ok a, { s with rest := rest, pos := s.pos + Utf8.size cs })

lemma Consumes.bind {x : Scan α} {f : α → Scan β} {cs ds rest : List Char} {a : α} {b : β}
    (hx : Consumes x cs a (ds ++ rest)) (hf : Consumes (f a) ds b rest) :
    Consumes (x >>= f) (cs ++ ds) b rest := by
  intro s hs
  rw [List.append_assoc] at hs
  rw [run_bind_ok (hx s hs), hf _ rfl, Utf8.size_append, Nat.add_assoc]

lemma consumes_of_forall {x : Scan α} {cs rest : List Char} {a : α}
    (h : ∀ s : Scanner, x.run.run { s with rest := cs ++ rest } =
      (.ok a, { s with rest := rest, pos := s.pos + Utf8.size cs })) : Consumes x cs a rest := by
  intro s hs
  have hstep := h s
  rw [← hs] at hstep
  exact hstep

lemma consumes_pure (a : α) (rest : List Char) : Consumes (pure a) [] a rest :=
  consumes_of_forall fun _ => rfl

lemma consumes_next? (rest : List Char) : Consumes next? [] rest.head? rest :=
  consumes_of_forall fun _ => rfl

/-- A step may look at what is to be passed over. -/
lemma Consumes.look {f : Option Char → Scan β} {cs rest : List Char} {b : β}
    (hf : Consumes (f (cs ++ rest).head?) cs b rest) : Consumes (next? >>= f) cs b rest := by
  have hnext : Consumes next? [] (cs ++ rest).head? ([] ++ (cs ++ rest)) :=
    consumes_next? (cs ++ rest)
  have hboth : Consumes (next? >>= f) ([] ++ cs) b rest := Consumes.bind hnext hf
  exact hboth

lemma consumes_bump (c : Char) (rest : List Char) : Consumes bump [c] () rest :=
  consumes_of_forall fun _ => rfl

lemma consumes_takeWhile {p : Char → Bool} {cs rest : List Char} (h : cs.all p)
    (hrest : ∀ c ∈ rest.head?, p c = false) : Consumes (takeWhile p) cs cs rest := by
  intro s hs
  have hstep : (takeWhile p).run.run s = (.ok (s.rest.takeWhile p),
      { s with
        rest := s.rest.drop (s.rest.takeWhile p).length
        pos := s.pos + Utf8.size (s.rest.takeWhile p) }) := rfl
  rw [hstep, hs, Text.takeWhile_append_stop h hrest, List.drop_left]

/-! ## The inside of a literal -/

/-- Characters that stand for themselves between quotes. -/
def isPlain (quote c : Char) : Bool := !(c = quote || c = '\\' || c = '\n' || c = '\r')

variable {quote : Char} {plain : List Char}

lemma stringBody_closed (h : plain.all (isPlain quote)) (fuel : Nat) (value rest : List Char) :
    Consumes (stringBody quote (fuel + 1) value) (plain ++ [quote]) (value ++ plain, true)
      rest := by
  have htake : Consumes (takeWhile (isPlain quote)) plain plain ([quote] ++ rest) :=
    consumes_takeWhile h (by simp [isPlain])
  have hbump : Consumes bump [quote] () ([] ++ rest) := consumes_bump quote rest
  have hend : Consumes (do bump; return (value ++ plain, true)) [quote] (value ++ plain, true)
      rest := hbump.bind (consumes_pure _ rest)
  rw [stringBody]
  refine Consumes.bind htake (Consumes.look ?_)
  simpa using hend

lemma stringBody_escape {esc cs tail rest : List Char} {r : List Char × Bool} {fuel : Nat}
    {value : List Char} (h : plain.all (isPlain quote)) (hquote : quote ≠ '\\')
    (hesc : Consumes (escape false) ('\\' :: esc) cs (tail ++ rest))
    (htail : Consumes (stringBody quote fuel (value ++ plain ++ cs)) tail r rest) :
    Consumes (stringBody quote (fuel + 1) value) (plain ++ ('\\' :: esc ++ tail)) r rest := by
  have htake : Consumes (takeWhile (isPlain quote)) plain plain ('\\' :: esc ++ tail ++ rest) :=
    consumes_takeWhile h (by simp [isPlain])
  have hbehind : Consumes (do stringBody quote fuel (value ++ plain ++ (← escape false)))
      ('\\' :: esc ++ tail) r rest := hesc.bind htail
  rw [stringBody]
  refine Consumes.bind htake (Consumes.look ?_)
  simpa [hquote.symm] using hbehind

/-- At the end of a line a literal is over, but not closed. -/
lemma stringBody_broken {c : Char} (h : plain.all (isPlain quote)) (hc : c = '\n' ∨ c = '\r')
    (hquote : c ≠ quote) (fuel : Nat) (value rest : List Char) :
    Consumes (stringBody quote (fuel + 1) value) plain (value ++ plain, false) (c :: rest) := by
  have hstop : ∀ d ∈ (c :: rest).head?, isPlain quote d = false := by
    rcases hc with rfl | rfl <;> simp [isPlain]
  have hslash : c ≠ '\\' := by rcases hc with rfl | rfl <;> decide
  have htake : Consumes (takeWhile (isPlain quote)) plain plain ([] ++ c :: rest) :=
    consumes_takeWhile h hstop
  have hend : Consumes _ [] _ _ := consumes_pure (value ++ plain, false) (c :: rest)
  rw [stringBody, ← List.append_nil plain]
  refine Consumes.bind htake (Consumes.look ?_)
  simpa [hquote, hslash] using hend

/-! ## Escapes -/

/-- A control character is written with four hexadecimal digits. -/
lemma escape_control {n : Nat} (h : n < 0x20) (rest : List Char) :
    Consumes (escape false)
      ['\\', 'u', '0', '0', Text.Quoted.hexDigit (n / 16), Text.Quoted.hexDigit (n % 16)]
      [Char.ofNat n] rest := by
  apply consumes_of_forall
  intro s
  interval_cases n <;> rfl

/-- In a quoted text a character stands for itself, or an escape is read back as the character. -/
lemma escape_cases (c : Char) : (Text.Quoted.escape c = [c] ∧ isPlain '"' c) ∨
    ∃ esc, Text.Quoted.escape c = '\\' :: esc ∧
      ∀ rest, Consumes (escape false) ('\\' :: esc) [c] rest := by
  unfold Text.Quoted.escape
  by_cases hquote : c = '"'
  · subst hquote
    exact .inr ⟨['"'], rfl, fun _ => consumes_of_forall fun _ => rfl⟩
  by_cases hslash : c = '\\'
  · subst hslash
    exact .inr ⟨['\\'], rfl, fun _ => consumes_of_forall fun _ => rfl⟩
  by_cases hb : c = '\x08'
  · subst hb
    exact .inr ⟨['b'], rfl, fun _ => consumes_of_forall fun _ => rfl⟩
  by_cases ht : c = '\t'
  · subst ht
    exact .inr ⟨['t'], rfl, fun _ => consumes_of_forall fun _ => rfl⟩
  by_cases hn : c = '\n'
  · subst hn
    exact .inr ⟨['n'], rfl, fun _ => consumes_of_forall fun _ => rfl⟩
  by_cases hf : c = '\x0c'
  · subst hf
    exact .inr ⟨['f'], rfl, fun _ => consumes_of_forall fun _ => rfl⟩
  by_cases hr : c = '\r'
  · subst hr
    exact .inr ⟨['r'], rfl, fun _ => consumes_of_forall fun _ => rfl⟩
  rw [if_neg hquote, if_neg hslash, if_neg hb, if_neg ht, if_neg hn, if_neg hf, if_neg hr]
  by_cases hcontrol : c.toNat < 0x20
  · rw [if_pos hcontrol]
    refine .inr ⟨_, rfl, fun rest => ?_⟩
    have hread := escape_control hcontrol rest
    rwa [Char.ofNat_toNat] at hread
  · rw [if_neg hcontrol]
    exact .inl ⟨rfl, by simp [isPlain, hquote, hslash, hn, hr]⟩

/-- The inside of a quoted text is read as that text. -/
lemma stringBody_quoted (cs : List Char) {plain : List Char} (h : plain.all (isPlain '"'))
    {fuel : Nat} (hfuel : cs.length < fuel) (value rest : List Char) :
    Consumes (stringBody '"' fuel value) (plain ++ (cs.flatMap Text.Quoted.escape ++ ['"']))
      (value ++ plain ++ cs, true) rest := by
  obtain ⟨fuel, rfl⟩ : ∃ n, fuel = n + 1 := ⟨fuel - 1, by omega⟩
  induction cs generalizing plain fuel value with
  | nil =>
    have hread := stringBody_closed h fuel value rest
    simpa using hread
  | cons c cs ih =>
    rw [List.length_cons] at hfuel
    rcases escape_cases c with ⟨hself, hplain⟩ | ⟨esc, hesc, hescape⟩
    · have hmore : (plain ++ [c]).all (isPlain '"') := by simp [h, hplain]
      have hread := ih hmore value fuel (by omega)
      rw [List.flatMap_cons, hself]
      simpa using hread
    · obtain ⟨fuel, rfl⟩ : ∃ n, fuel = n + 1 := ⟨fuel - 1, by omega⟩
      have hlater := ih (List.all_nil) (value ++ plain ++ [c]) fuel (by omega)
      have hread := stringBody_escape h (by decide) (hescape _) hlater
      rw [List.flatMap_cons, hesc]
      simpa using hread

lemma length_le_quoted (cs : List Char) : cs.length ≤ (cs.flatMap Text.Quoted.escape).length := by
  induction cs with
  | nil => simp
  | cons c cs ih =>
    have hpos : 0 < (Text.Quoted.escape c).length := by
      rcases escape_cases c with ⟨hself, -⟩ | ⟨esc, hesc, -⟩
      · simp [hself]
      · simp [hesc]
    rw [List.flatMap_cons, List.length_append, List.length_cons]
    omega

/-! ## The literal -/

lemma string_closed {quote : Char} {inside value rest : List Char}
    (h : Consumes (stringBody quote ((quote :: inside ++ rest).length + 1) []) inside (value, true)
      rest) :
    Consumes (string quote) (quote :: inside)
      (.str (String.ofList value) (String.ofList (quote :: inside))) rest := by
  intro s hs
  have hbump := consumes_bump quote (inside ++ rest) s hs
  have hposition : position.run.run s = (.ok s.pos, s) := rfl
  have hget : (get : Scan Scanner).run.run s = (.ok s, s) := rfl
  have hsince : s.rest.take (s.rest.length - rest.length) = quote :: inside := by
    rw [hs, List.length_append, Nat.add_sub_cancel, List.take_left]
  rw [← hs] at h
  have hbody := h _ (show ({ s with
    rest := inside ++ rest, pos := s.pos + Utf8.size [quote] } : Scanner).rest = inside ++ rest
      from rfl)
  rw [string, run_bind_ok hposition, run_bind_ok hget, run_bind_ok hbump, run_bind_ok hbody]
  have hend : (do
      return Tok.str (String.ofList value) (String.ofList (← since s.rest)) : Scan Tok).run.run
        { s with rest := rest, pos := s.pos + Utf8.size [quote] + Utf8.size inside } =
      (.ok (.str (String.ofList value) (String.ofList (s.rest.take (s.rest.length - rest.length)))),
        { s with rest := rest, pos := s.pos + Utf8.size [quote] + Utf8.size inside }) := rfl
  rw [hsince, Nat.add_assoc, ← Utf8.size_append] at hend
  rw [Nat.add_assoc, ← Utf8.size_append]
  exact hend

/-- A line end between the quotes cuts the value short. -/
lemma string_broken {quote c : Char} {plain rest : List Char} (h : plain.all (isPlain quote))
    (hc : c = '\n' ∨ c = '\r') (hquote : c ≠ quote) {s : Scanner}
    (hs : s.rest = quote :: (plain ++ c :: rest)) :
    ∃ raw s', (string quote).run.run s = (.ok (.str (String.ofList plain) raw), s') := by
  have hbump := consumes_bump quote (plain ++ c :: rest) s hs
  have hposition : position.run.run s = (.ok s.pos, s) := rfl
  have hget : (get : Scan Scanner).run.run s = (.ok s, s) := rfl
  have hbody := stringBody_broken h hc hquote s.rest.length [] rest _
    (show ({ s with
      rest := plain ++ c :: rest, pos := s.pos + Utf8.size [quote] } : Scanner).rest =
        plain ++ c :: rest from rfl)
  rw [string, run_bind_ok hposition, run_bind_ok hget, run_bind_ok hbump, run_bind_ok hbody]
  exact ⟨_, _, rfl⟩

/-- A quote begins a string wherever a token can begin. -/
lemma token?_string {quote : Char} (hquote : quote = '"' ∨ quote = '\'') (n : Nat) {s : Scanner}
    {cs : List Char} (hs : s.rest = quote :: cs) :
    (token? (n + 1)).run.run s = (some <$> string quote : Scan (Option Tok)).run.run s := by
  have hget : (get : Scan Scanner).run.run s = (.ok s, s) := rfl
  have hmark : conflictMarks.find? (fun mark => Text.startsWith mark (quote :: cs)) = none := by
    rcases hquote with rfl | rfl <;> rfl
  rw [token?, run_bind_ok hget]
  rcases hquote with rfl | rfl
  · cases hbreak : s.lineBreak <;> simp [hs, hmark]
  · cases hbreak : s.lineBreak <;> simp [hs, hmark]

end Scan

open Scan

/-- Wherever a token can begin, the scanner reads the text as one string with the value `v`. -/
def ReadsAs (text v : String) : Prop :=
  ∀ n rest, Consumes (token? (n + 1)) text.toList (some (.str v text)) rest

lemma readsAs_iff {text v : String} {quote : Char} {inside : List Char}
    (hquote : quote = '"' ∨ quote = '\'') (htext : text.toList = quote :: inside) :
    ReadsAs text v ↔ ∀ rest, Consumes (string quote) text.toList (.str v text) rest := by
  have hsome (s : Scanner) (tok : Tok) (s' : Scanner) :
      (some <$> string quote : Scan (Option Tok)).run.run s = (.ok (some tok), s') ↔
        (string quote).run.run s = (.ok tok, s') := by
    have hmap : (some <$> string quote : Scan (Option Tok)).run.run s =
        (((string quote).run.run s).1.map some, ((string quote).run.run s).2) := by
      rw [ExceptT.run_map, StateT.run_map]
      rfl
    rw [hmap]
    obtain ⟨r, t⟩ := (string quote).run.run s
    cases r with
    | error e => constructor <;> intro h <;> cases h
    | ok tok => constructor <;> intro h <;> cases h <;> rfl
  have hstep (n : Nat) (rest : List Char) : Consumes (token? (n + 1)) text.toList
      (some (.str v text)) rest ↔ Consumes (string quote) text.toList (.str v text) rest := by
    refine forall_congr' fun s => forall_congr' fun hs => ?_
    have hbegin : s.rest = quote :: (inside ++ rest) := by rw [hs, htext, List.cons_append]
    rw [token?_string hquote n hbegin, hsome]
  exact ⟨fun h rest => (hstep 0 rest).1 (h 0 rest), fun h n rest => (hstep n rest).2 (h rest)⟩

/-- A quoted text is read as one string that has the text as its value. -/
theorem readsAs_quoted (v : String) : ReadsAs (Text.Quoted.encode v) v := by
  have htext : (Text.Quoted.encode v).toList =
      '"' :: (v.toList.flatMap Text.Quoted.escape ++ ['"']) := String.toList_ofList
  rw [readsAs_iff (.inl rfl) htext]
  intro rest
  have hbody : Consumes (stringBody '"'
        (('"' :: (v.toList.flatMap Text.Quoted.escape ++ ['"']) ++ rest).length + 1) [])
      (v.toList.flatMap Text.Quoted.escape ++ ['"']) (v.toList, true) rest := by
    apply stringBody_quoted v.toList List.all_nil
    have hless := length_le_quoted v.toList
    simp only [List.length_append, List.length_cons]
    omega
  have hread := string_closed hbody
  rwa [String.ofList_toList, ← htext, String.ofList_toList] at hread

/-! ## Values between the quotes of the literal that was there -/

lemma requote?_eq_some {raw : Option String} {value literal : String}
    (h : requote? raw value = some literal) : ∃ quote, (quote = '"' ∨ quote = '\'') ∧
      literal.toList = quote :: (value.toList ++ [quote]) ∧
      quote ∉ value.toList ∧ '\\' ∉ value.toList := by
  have hfrom {quote : Char} (h : (if value.toList.contains quote || value.toList.contains '\\'
      then none else some (String.ofList (quote :: value.toList ++ [quote]))) = some literal) :
      literal.toList = quote :: (value.toList ++ [quote]) ∧
        quote ∉ value.toList ∧ '\\' ∉ value.toList := by
    split_ifs at h with hfree
    rw [← Option.some.inj h]
    simpa using hfree
  unfold requote? at h
  split at h
  · exact ⟨'\'', .inr rfl, hfrom h⟩
  · exact ⟨'"', .inl rfl, hfrom h⟩

/-- Without the quote and backslashes, only a line end can stop the inside of a string. -/
lemma plain_or_broken {quote : Char} {cs : List Char} (hfree : quote ∉ cs) (hslash : '\\' ∉ cs) :
    cs.all (isPlain quote) ∨ ∃ plain c more, cs = plain ++ c :: more ∧
      plain.all (isPlain quote) ∧ (c = '\n' ∨ c = '\r') ∧ c ≠ quote := by
  induction cs with
  | nil => exact .inl rfl
  | cons c cs ih =>
    obtain ⟨hquote, hfree⟩ : quote ≠ c ∧ quote ∉ cs := by simpa using hfree
    obtain ⟨hback, hslash⟩ : '\\' ≠ c ∧ '\\' ∉ cs := by simpa using hslash
    by_cases hbreak : c = '\n' ∨ c = '\r'
    · exact .inr ⟨[], c, cs, rfl, rfl, hbreak, hquote.symm⟩
    · have hplain : isPlain quote c := by
        simp [isPlain, hquote.symm, hback.symm, not_or.1 hbreak]
      rcases ih hfree hslash with hall | ⟨plain, d, more, rfl, hall, hd⟩
      · exact .inl (by rw [List.all_cons, hplain, hall, Bool.and_self])
      · exact .inr ⟨c :: plain, d, more, rfl, by rw [List.all_cons, hplain, hall, Bool.and_self], hd⟩

/-- A value that is set between the quotes of another literal is read back exactly when it has no
line end; with one the string is over before its quote. -/
theorem readsAs_requote?_iff {raw : Option String} {value literal : String}
    (h : requote? raw value = some literal) :
    ReadsAs literal value ↔ '\n' ∉ value.toList ∧ '\r' ∉ value.toList := by
  obtain ⟨quote, hquote, htext, hfree, hslash⟩ := requote?_eq_some h
  rw [readsAs_iff hquote htext]
  constructor
  · intro hread
    rcases plain_or_broken hfree hslash with hplain | ⟨plain, c, more, hvalue, hplain, hc, hne⟩
    · rw [List.all_eq_true] at hplain
      exact ⟨fun hmem => by simpa [isPlain] using hplain _ hmem,
        fun hmem => by simpa [isPlain] using hplain _ hmem⟩
    · -- the string that is read ends at the line end, so its value is too short
      have hstart : literal.toList = quote :: (plain ++ c :: (more ++ [quote])) := by
        rw [htext, hvalue, List.append_assoc, List.cons_append]
      obtain ⟨raw, s', hpart⟩ := string_broken hplain hc hne
        (show ({ rest := literal.toList } : Scanner).rest = _ from hstart)
      have hwhole := hread [] { rest := literal.toList } (List.append_nil _).symm
      rw [hpart] at hwhole
      have hcut : String.ofList plain = value := by
        injection hwhole with hresult
        injection hresult with htok
        injection htok
      have hlength := congrArg List.length hvalue
      rw [← hcut, String.toList_ofList, List.length_append, List.length_cons] at hlength
      omega
  · rintro ⟨hfeed, hreturn⟩ rest
    have hplain : value.toList.all (isPlain quote) := by
      rw [List.all_eq_true]
      intro c hc
      have hne {d : Char} (hd : d ∉ value.toList) : c ≠ d := fun he => hd (he ▸ hc)
      simp [isPlain, hne hfree, hne hslash, hne hfeed, hne hreturn]
    have hbody := stringBody_closed hplain
      (quote :: (value.toList ++ [quote]) ++ rest).length [] rest
    have hread := string_closed hbody
    rwa [List.nil_append, String.ofList_toList, ← htext, String.ofList_toList] at hread

example : requote? (some "'a\\n'") "/node_modules/a\n" = some "'/node_modules/a\n'" := by decide

end Unbundled.Script
