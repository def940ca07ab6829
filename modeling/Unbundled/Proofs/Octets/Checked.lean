import Unbundled.Proofs.Text.Split
import Unbundled.Proofs.Text.Utf8
import Mathlib.Data.List.TakeWhile

/-!
# Reading by places

A scanner of octets keeps places, and takes octets, stretches and texts by them. Each such step is
an operation of its own here, and fails where the place is none: behind the end, in front of the
start, inside a character. A loop fails where it goes round without coming closer to its end. What
is computed by these operations without a failure is computed in bounds, and ends.

Where a text has been put together, the places between its parts are the sizes of what stands in
front of them.
-/

namespace Unbundled.Octets

/-! ## Operations -/

/-- Why a step of a scanner fails. -/
inductive Fault where
  /-- There is no octet at the place. -/
  | noOctet
  /-- A stretch ends in front of its start, or behind the end. -/
  | noStretch
  /-- A text is cut inside a character. -/
  | insideChar
  /-- A number is taken from a smaller one. -/
  | negative
  /-- A loop goes round and has as much in front of it as before. -/
  | stalled
  /-- No element is open, not even the one that holds the roots. -/
  | emptyStack
  deriving DecidableEq, Repr

abbrev Checked := Except Fault

def octetAt (file : List UInt8) (i : Nat) : Checked UInt8 :=
  match file[i]? with
  | some b => .ok b
  | none => .error .noOctet

def octetsBetween (file : List UInt8) (i j : Nat) : Checked (List UInt8) :=
  if i ≤ j ∧ j ≤ file.length then .ok (file.extract i j) else .error .noStretch

def octetsFrom (file : List UInt8) (i : Nat) : Checked (List UInt8) :=
  octetsBetween file i file.length

def textBetween (text : List Char) (i j : Nat) : Checked (List Char) :=
  if i ≤ j ∧ j ≤ Utf8.size text then
    match Utf8.splitAt? i text with
    | none => .error .insideChar
    | some (_, behind) =>
      match Utf8.splitAt? (j - i) behind with
      | none => .error .insideChar
      | some (stretch, _) => .ok stretch
  else .error .noStretch

def textFrom (text : List Char) (i : Nat) : Checked (List Char) :=
  textBetween text i (Utf8.size text)

def minus (m n : Nat) : Checked Nat := if n ≤ m then .ok (m - n) else .error .negative

/-- The place where the pattern first occurs. -/
def find (pat : List UInt8) : List UInt8 → Option Nat
  | [] => if pat = [] then some 0 else none
  | b :: bs => if pat <+: b :: bs then some 0 else (find pat bs).map (· + 1)

/-- The place of the first character with the property. -/
def findChar (p : Char → Bool) (text : List Char) : Option Nat :=
  if text.any p then some (Utf8.size (text.takeWhile (!p ·))) else none

/-- What one round of a loop comes to. -/
inductive Turn (σ α : Type) where
  | again (s : σ)
  | leave (a : α)

/-- Goes round until the loop is left. After each round, less has to be left in front of it. -/
def loop {σ α : Type} (left : σ → Nat) (round : σ → Checked (Turn σ α)) (s : σ) : Checked α :=
  match round s with
  | .error f => .error f
  | .ok (.leave a) => .ok a
  | .ok (.again t) => if left t < left s then loop left round t else .error .stalled
termination_by left s

/-! ## Steps that do not fail -/

lemma ok_bind {α β : Type} (a : α) (f : α → Checked β) : (Except.ok a : Checked α) >>= f = f a :=
  rfl

section Loop

variable {σ α : Type} {left : σ → Nat} {round : σ → Checked (Turn σ α)} {s : σ}

lemma loop_leave {a : α} (h : round s = .ok (.leave a)) : loop left round s = .ok a := by
  rw [loop, h]

lemma loop_again {t : σ} (h : round s = .ok (.again t)) (hless : left t < left s) :
    loop left round s = loop left round t := by
  rw [loop, h]
  exact if_pos hless

/-- What holds of each round holds of the loop. `R x s` says that the state `s` stands for `x`, and
`Q x s a` that `a` is a result from there. -/
theorem loop_spec {ι : Type} {R : ι → σ → Prop} {Q : ι → σ → α → Prop}
    (h : ∀ x s, R x s → (∃ a, round s = .ok (.leave a) ∧ Q x s a) ∨
      ∃ y t, round s = .ok (.again t) ∧ left t < left s ∧ R y t ∧ ∀ a, Q y t a → Q x s a)
    {x : ι} (hx : R x s) : ∃ a, loop left round s = .ok a ∧ Q x s a := by
  induction hleft : left s using Nat.strong_induction_on generalizing x s with
  | _ n ih =>
    subst hleft
    rcases h x s hx with ⟨a, hround, ha⟩ | ⟨y, t, hround, hless, hy, hresult⟩
    · exact ⟨a, loop_leave hround, ha⟩
    · obtain ⟨a, hloop, ha⟩ := ih _ hless hy rfl
      exact ⟨a, (loop_again hround hless).trans hloop, hresult a ha⟩

/-- The same where there is one result `f x s`. -/
theorem loop_eq {ι : Type} {R : ι → σ → Prop} {f : ι → σ → α}
    (h : ∀ x s, R x s → round s = .ok (.leave (f x s)) ∨
      ∃ y t, round s = .ok (.again t) ∧ left t < left s ∧ R y t ∧ f y t = f x s)
    {x : ι} (hx : R x s) : loop left round s = .ok (f x s) := by
  obtain ⟨a, hloop, rfl⟩ := loop_spec (R := R) (Q := fun x s a => a = f x s) (fun x s hx => by
    rcases h x s hx with hround | ⟨y, t, hround, hless, hy, hresult⟩
    · exact .inl ⟨_, hround, rfl⟩
    · exact .inr ⟨y, t, hround, hless, hy, fun a ha => ha.trans hresult⟩) hx
  exact hloop

end Loop

lemma minus_eq {m n : Nat} (h : n ≤ m) : minus m n = .ok (m - n) := if_pos h

lemma size_pos {cs : List Char} (h : cs ≠ []) : 0 < Utf8.size cs := by
  obtain ⟨c, cs, rfl⟩ := List.exists_cons_of_ne_nil h
  have hpos := c.utf8Size_pos
  rw [Utf8.size_cons]
  omega

lemma size_le_of_prefix {as bs : List Char} (h : as <+: bs) : Utf8.size as ≤ Utf8.size bs := by
  obtain ⟨rest, rfl⟩ := h
  rw [Utf8.size_append]
  exact Nat.le_add_right _ _

lemma prefix_of_size_le {as bs cs : List Char} (has : as <+: cs) (hbs : bs <+: cs)
    (h : Utf8.size as ≤ Utf8.size bs) : as <+: bs := by
  rcases List.prefix_or_prefix_of_prefix has hbs with hprefix | ⟨rest, rfl⟩
  · exact hprefix
  · rw [Utf8.size_append] at h
    by_cases hrest : rest = []
    · simp [hrest]
    · have hpos := size_pos hrest
      omega

/-- From the place on, `rest` stands in the text. -/
def Stands (text : List Char) (i : Nat) (rest : List Char) : Prop :=
  ∃ before, text = before ++ rest ∧ i = Utf8.size before

lemma stands_start (text : List Char) : Stands text 0 text := ⟨[], rfl, rfl⟩

section Stands

variable {text taken rest : List Char} {i : Nat}

lemma Stands.behind (h : Stands text i (taken ++ rest)) :
    Stands text (i + Utf8.size taken) rest := by
  obtain ⟨before, rfl, rfl⟩ := h
  exact ⟨before ++ taken, (List.append_assoc _ _ _).symm, (Utf8.size_append _ _).symm⟩

/-- Behind what has been taken, less is left. -/
lemma Stands.less (h : Stands text i (taken ++ rest)) (hne : taken ≠ []) :
    Utf8.size text - (i + Utf8.size taken) < Utf8.size text - i := by
  obtain ⟨before, rfl, rfl⟩ := h
  have hpos := size_pos hne
  rw [Utf8.size_append, Utf8.size_append]
  omega

end Stands

section Places

variable {text before stretch behind : List Char} {i j : Nat}

lemma octetsBetween_eq (h : text = before ++ stretch ++ behind) (hi : i = Utf8.size before)
    (hj : j = i + Utf8.size stretch) :
    octetsBetween (Utf8.encode text) i j = .ok (Utf8.encode stretch) := by
  subst h hi hj
  have hle : Utf8.size before + Utf8.size stretch ≤
      (Utf8.encode (before ++ stretch ++ behind)).length := by
    rw [Utf8.length_encode, Utf8.size_append, Utf8.size_append]
    exact Nat.le_add_right _ _
  rw [octetsBetween, if_pos ⟨Nat.le_add_right _ _, hle⟩, List.extract_eq_take_drop,
    Nat.add_sub_cancel_left, Utf8.encode_append, Utf8.encode_append, List.append_assoc,
    List.drop_left' (Utf8.length_encode before), List.take_left' (Utf8.length_encode stretch)]

lemma octetsFrom_eq (h : text = before ++ behind) (hi : i = Utf8.size before) :
    octetsFrom (Utf8.encode text) i = .ok (Utf8.encode behind) := by
  have hend : text = before ++ behind ++ [] := by rw [h, List.append_nil]
  refine octetsBetween_eq hend hi ?_
  rw [Utf8.length_encode, h, Utf8.size_append, hi]

lemma textBetween_eq (h : text = before ++ stretch ++ behind) (hi : i = Utf8.size before)
    (hj : j = i + Utf8.size stretch) : textBetween text i j = .ok stretch := by
  subst h hi hj
  have hle : Utf8.size before + Utf8.size stretch ≤ Utf8.size (before ++ stretch ++ behind) := by
    rw [Utf8.size_append, Utf8.size_append]
    exact Nat.le_add_right _ _
  rw [textBetween, if_pos ⟨Nat.le_add_right _ _, hle⟩, List.append_assoc,
    Utf8.splitAt?_append, Nat.add_sub_cancel_left]
  dsimp only
  rw [Utf8.splitAt?_append]

lemma textUpTo_eq (h : text = stretch ++ behind) :
    textBetween text 0 (Utf8.size stretch) = .ok stretch := by
  have hstart : text = [] ++ stretch ++ behind := h
  exact textBetween_eq hstart rfl (Nat.zero_add _).symm

lemma textFrom_eq (h : text = before ++ behind) (hi : i = Utf8.size before) :
    textFrom text i = .ok behind := by
  have hend : text = before ++ behind ++ [] := by rw [h, List.append_nil]
  refine textBetween_eq hend hi ?_
  rw [h, Utf8.size_append, hi]

lemma exists_octet {c : Char} (h : text = before ++ c :: behind) (hi : i = Utf8.size before) :
    ∃ b ∈ String.utf8EncodeChar c, (Utf8.encode text)[i]? = some b := by
  obtain ⟨b, bs, hbs⟩ := List.exists_cons_of_ne_nil (@String.utf8EncodeChar_ne_nil c)
  refine ⟨b, by simp [hbs], ?_⟩
  rw [h, hi, Utf8.encode_append, Utf8.encode_cons, hbs,
    List.getElem?_append_right (Utf8.length_encode before ▸ Nat.le_refl _),
    Utf8.length_encode, Nat.sub_self]
  rfl

lemma lt_length_iff (h : text = before ++ behind) (hi : i = Utf8.size before) :
    i < (Utf8.encode text).length ↔ behind ≠ [] := by
  rw [Utf8.length_encode, h, Utf8.size_append, hi]
  constructor
  · rintro hless rfl
    exact absurd hless (Nat.lt_irrefl _)
  · intro hne
    have hpos := size_pos hne
    omega

lemma getElem?_octet {c : Char} (h : text = before ++ c :: behind) (hi : i = Utf8.size before)
    (hc : c.toNat ≤ 0x7F) : (Utf8.encode text)[i]? = some (UInt8.ofNat c.toNat) := by
  rw [h, hi, Utf8.encode_append, Utf8.encode_cons, Utf8.octets_one hc,
    List.getElem?_append_right (Utf8.length_encode before ▸ Nat.le_refl _),
    Utf8.length_encode, Nat.sub_self]
  rfl

end Places

/-! ## Searching octets for texts -/

def IsAscii (cs : List Char) : Prop := ∀ c ∈ cs, c.toNat ≤ 0x7F

instance (cs : List Char) : Decidable (IsAscii cs) :=
  List.decidableBAll (fun c : Char => c.toNat ≤ 0x7F) cs

lemma utf8Size_of_ascii {c : Char} (hc : c.toNat ≤ 0x7F) : c.utf8Size = 1 := by
  rw [← String.length_utf8EncodeChar, Utf8.octets_one hc, List.length_singleton]

lemma size_of_ascii {cs : List Char} (h : IsAscii cs) : Utf8.size cs = cs.length := by
  induction cs with
  | nil => rfl
  | cons c cs ih =>
    rw [IsAscii, List.forall_mem_cons] at h
    rw [Utf8.size_cons, utf8Size_of_ascii h.1, ih h.2, List.length_cons, Nat.add_comm]

/-- No octet of an ASCII character is one of another character. -/
lemma not_mem_octets {p c : Char} (hp : p.toNat ≤ 0x7F) (hc : p ≠ c) :
    UInt8.ofNat p.toNat ∉ String.utf8EncodeChar c := by
  intro hmem
  have hoctet : (UInt8.ofNat p.toNat).toNat = p.toNat := Utf8.toNat_octet (by omega)
  have hin : UInt8.ofNat p.toNat ∈ Utf8.encode [c] := by simpa using hmem
  have hchar := Utf8.mem_encode_ascii (by omega) hin
  rw [hoctet, Char.ofNat_toNat, List.mem_singleton] at hchar
  exact hc hchar

/-- An ASCII text begins a text when its octets begin those of the text. -/
lemma prefix_encode_iff {pat cs : List Char} (hpat : IsAscii pat) :
    Utf8.encode pat <+: Utf8.encode cs ↔ pat <+: cs := by
  induction pat generalizing cs with
  | nil => simp
  | cons p ps ih =>
    rw [IsAscii, List.forall_mem_cons] at hpat
    cases cs with
    | nil => simp [Utf8.octets_one hpat.1]
    | cons c cs =>
      rw [Utf8.encode_cons, Utf8.encode_cons, Utf8.octets_one hpat.1, List.cons_prefix_cons,
        List.singleton_append]
      by_cases hc : p = c
      · rw [← hc, Utf8.octets_one hpat.1, List.singleton_append, List.cons_prefix_cons,
          ih hpat.2]
        simp
      · obtain ⟨b, bs, hoctets⟩ := List.exists_cons_of_ne_nil (@String.utf8EncodeChar_ne_nil c)
        have hfirst : UInt8.ofNat p.toNat ≠ b := by
          rintro rfl
          exact not_mem_octets hpat.1 hc (by simp [hoctets])
        rw [hoctets, List.cons_append, List.cons_prefix_cons]
        simp [hc, hfirst]

lemma find_skip {pat bs rest : List UInt8}
    (h : ∀ xs ys, bs = xs ++ ys → ys ≠ [] → ¬ pat <+: ys ++ rest) :
    find pat (bs ++ rest) = (find pat rest).map (· + bs.length) := by
  induction bs with
  | nil => simp
  | cons b bs ih =>
    have hfirst : ¬ pat <+: b :: (bs ++ rest) := h [] (b :: bs) rfl (by simp)
    rw [List.cons_append, find, if_neg hfirst,
      ih fun xs ys hbs => h (b :: xs) ys (by rw [hbs]; rfl), Option.map_map]
    rfl

/-- Inside the octets of a character no ASCII text begins. -/
lemma not_prefix_inside {pat cs : List Char} {c : Char} (hne : pat ≠ []) (hpat : IsAscii pat)
    (hstart : ¬ pat <+: c :: cs) {xs ys : List UInt8} (hc : String.utf8EncodeChar c = xs ++ ys)
    (hys : ys ≠ []) : ¬ Utf8.encode pat <+: ys ++ Utf8.encode cs := by
  intro hprefix
  obtain ⟨p, ps, rfl⟩ := List.exists_cons_of_ne_nil hne
  obtain ⟨y, ys, rfl⟩ := List.exists_cons_of_ne_nil hys
  have hp : p.toNat ≤ 0x7F := hpat p (by simp)
  have hfirst : UInt8.ofNat p.toNat = y := by
    rw [Utf8.encode_cons, Utf8.octets_one hp, List.cons_append, List.cons_append,
      List.cons_prefix_cons] at hprefix
    exact hprefix.1
  obtain rfl : p = c :=
    Decidable.byContradiction fun hpc => not_mem_octets hp hpc (by simp [hc, hfirst])
  -- an ASCII character has one octet, so that its octets begin there
  rw [Utf8.octets_one hp] at hc
  obtain rfl : xs = [] := by
    have hlength := congrArg List.length hc
    rw [List.length_append, List.length_singleton, List.length_cons] at hlength
    exact List.length_eq_zero_iff.1 (by omega)
  rw [List.nil_append] at hc
  rw [← hc, ← Utf8.octets_one hp, ← Utf8.encode_cons, prefix_encode_iff hpat] at hprefix
  exact hstart hprefix

/-- The place where an ASCII text is found in octets is the one where the text is cut. -/
theorem find_encode {pat : List Char} (hne : pat ≠ []) (hpat : IsAscii pat) (cs : List Char) :
    find (Utf8.encode pat) (Utf8.encode cs) =
      (Text.splitOnce? pat cs).map fun parts => Utf8.size parts.1 := by
  have hoctets : Utf8.encode pat ≠ [] := by
    obtain ⟨p, ps, rfl⟩ := List.exists_cons_of_ne_nil hne
    simp [String.utf8EncodeChar_ne_nil]
  induction cs with
  | nil =>
    have hnone : Text.splitOnce? pat [] = none := by
      rw [Text.splitOnce?_eq_none_iff hne]
      simpa using hne
    rw [hnone, Utf8.encode_nil, find, if_neg hoctets]
    rfl
  | cons c cs ih =>
    rw [Text.splitOnce?_cons]
    cases hdrop : Text.dropPrefix? pat (c :: cs) with
    | some rest =>
      have hprefix : Utf8.encode pat <+: Utf8.encode (c :: cs) := by
        rw [prefix_encode_iff hpat, Text.dropPrefix?_eq_some hdrop]
        exact List.prefix_append pat rest
      obtain ⟨b, bs, hbs⟩ := List.exists_cons_of_ne_nil (l := Utf8.encode (c :: cs))
        (by simp [String.utf8EncodeChar_ne_nil])
      rw [hbs] at hprefix ⊢
      rw [find, if_pos hprefix]
      rfl
    | none =>
      have hstart := Text.dropPrefix?_eq_none_iff.1 hdrop
      rw [Utf8.encode_cons, find_skip fun xs ys hc hys => not_prefix_inside hne hpat hstart hc hys,
        ih, Option.map_map, Option.map_map, String.length_utf8EncodeChar]
      simp only [Function.comp_def, Utf8.size_cons, Nat.add_comm]

/-- The first character without the property ends the stretch of those with it. -/
lemma findChar_getD (p : Char → Bool) (cs : List Char) :
    (findChar (!p ·) cs).getD (Utf8.size cs) = Utf8.size (cs.takeWhile p) := by
  rw [findChar]
  split_ifs with hany
  · simp
  · have hall : cs.takeWhile p = cs := by
      rw [List.takeWhile_eq_self_iff]
      simpa using hany
    rw [hall]
    rfl

end Unbundled.Octets
