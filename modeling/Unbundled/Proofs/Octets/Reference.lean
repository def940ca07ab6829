import Unbundled.Proofs.Markup.Reference
import Unbundled.Proofs.Octets.Checked

/-!
# References decoded by places

Text is copied up to the next ampersand, and the reference there is cut from it by the place of its
semicolon. No step fails, and what is decoded is what the reader of characters decodes.
-/

namespace Unbundled.Octets

open Markup (decodeFrom decodeFrom_skip reference? referenced?)

/-! ## The scanner -/

/-- The character that the reference at the start of the text stands for, and the place of its
semicolon. -/
def referenceAt (text : List Char) : Checked (Option (Char × Nat)) :=
  match (findChar (· = ';') text).filter (· ≤ 10) with
  | none => return none
  | some stop => do
    let entity ← textBetween text 1 stop
    return (referenced? entity).map (·, stop)

/-- Decodes up to the next ampersand and behind it. The state is the rest and what has been
decoded. -/
def referenceRound (s : List Char × List Char) :
    Checked (Turn (List Char × List Char) (List Char)) :=
  match findChar (· = '&') s.1 with
  | none => return .leave (s.2 ++ s.1)
  | some amp => do
    let front ← textBetween s.1 0 amp
    let text ← textFrom s.1 amp
    match ← referenceAt text with
    | some (c, stop) =>
      let rest ← textFrom text (stop + 1)
      return .again (rest, s.2 ++ front ++ [c])
    | none =>
      let rest ← textFrom text 1
      return .again (rest, s.2 ++ front ++ ['&'])

/-- The text with its references decoded. -/
def decodeEntities (text : List Char) : Checked (List Char) :=
  if '&' ∈ text then loop (Utf8.size ·.1) referenceRound (text, []) else return text

/-! ## It does not fail -/

lemma findChar_first {p : Char → Bool} {front rest : List Char} {c : Char}
    (hfront : ∀ d ∈ front, p d = false) (hc : p c) :
    findChar p (front ++ c :: rest) = some (Utf8.size front) := by
  have htake : (front ++ c :: rest).takeWhile (!p ·) = front := by
    rw [List.takeWhile_append_of_pos fun d hd => by simp [hfront d hd],
      List.takeWhile_cons_of_neg (by simp [hc]), List.append_nil]
  rw [findChar, if_pos (by simp [hc]), htake]

lemma findChar_none {p : Char → Bool} {cs : List Char} (h : ∀ c ∈ cs, p c = false) :
    findChar p cs = none := if_neg (by simpa using h)

/-- At an ampersand, the reference is read that stands there, if any. -/
lemma referenceAt_eq (cs : List Char) :
    (reference? cs = none ∧ referenceAt ('&' :: cs) = .ok none) ∨
      ∃ entity rest c, cs = entity ++ ';' :: rest ∧ reference? cs = some (c, entity.length + 1) ∧
        referenceAt ('&' :: cs) = .ok (some (c, 1 + Utf8.size entity)) := by
  by_cases hmem : ';' ∈ cs
  · obtain ⟨entity, rest, rfl, hentity⟩ := List.eq_append_cons_of_mem hmem
    have htake : (entity ++ ';' :: rest).takeWhile (· ≠ ';') = entity := by
      refine Text.takeWhile_append_stop ?_ (by simp)
      rw [List.all_eq_true]
      intro c hc
      simpa using ne_of_mem_of_not_mem hc hentity
    have hparts : '&' :: (entity ++ ';' :: rest) = ['&'] ++ entity ++ ';' :: rest := rfl
    have hfind : findChar (· = ';') ('&' :: (entity ++ ';' :: rest)) =
        some (1 + Utf8.size entity) := by
      have hne : ';' ∉ ['&'] ++ entity := by simpa using hentity
      rw [hparts, findChar_first (fun c hc => by simpa using ne_of_mem_of_not_mem hc hne) (by simp)]
      rfl
    have hcut : textBetween ('&' :: (entity ++ ';' :: rest)) 1 (1 + Utf8.size entity) =
        .ok entity := textBetween_eq hparts rfl rfl
    by_cases hsize : Utf8.size entity ≤ 9
    · have href : reference? (entity ++ ';' :: rest) =
          (referenced? entity).map (·, entity.length + 1) := by
        rw [reference?, htake]
        exact if_pos ⟨by simp, hsize⟩
      have hread : referenceAt ('&' :: (entity ++ ';' :: rest)) =
          .ok ((referenced? entity).map (·, 1 + Utf8.size entity)) := by
        rw [referenceAt, hfind, Option.filter_some, if_pos (decide_eq_true (by omega))]
        dsimp only
        rw [hcut]
        rfl
      rw [href, hread]
      cases referenced? entity with
      | none => exact .inl ⟨rfl, rfl⟩
      | some c => exact .inr ⟨entity, rest, c, rfl, rfl, rfl⟩
    · left
      rw [reference?, referenceAt, hfind, Option.filter_some, htake]
      exact ⟨if_neg fun h => hsize h.2, by rw [if_neg (by simp; omega)]; rfl⟩
  · left
    have hall : cs.takeWhile (· ≠ ';') = cs := by
      rw [List.takeWhile_eq_self_iff]
      intro c hc
      simpa using ne_of_mem_of_not_mem hc hmem
    have hnone : findChar (· = ';') ('&' :: cs) = none := by
      refine findChar_none fun c hc => ?_
      have hne : ';' ∉ '&' :: cs := by simpa using hmem
      simpa using ne_of_mem_of_not_mem hc hne
    rw [reference?, referenceAt, hnone, hall, if_neg fun h => Nat.lt_irrefl _ h.1]
    exact ⟨rfl, rfl⟩

/-- What stands in front of an ampersand is copied. -/
lemma decodeFrom_plain {front : List Char} (h : '&' ∉ front) (rest : List Char) :
    decodeFrom 0 (front ++ rest) = front ++ decodeFrom 0 rest := by
  induction front with
  | nil => rfl
  | cons c front ih =>
    rw [List.mem_cons, not_or] at h
    rw [List.cons_append, decodeFrom, if_neg (Ne.symm h.1), ih h.2]
    rfl

/-- A round takes an ampersand off the rest and what belongs to it. -/
lemma referenceRound_eq {front : List Char} (h : '&' ∉ front) (cs out : List Char) :
    ∃ taken rest c, cs = taken ++ rest ∧
      referenceRound (front ++ '&' :: cs, out) = .ok (.again (rest, out ++ front ++ [c])) ∧
      decodeFrom 0 ('&' :: cs) = c :: decodeFrom 0 rest := by
  have hfind : findChar (· = '&') (front ++ '&' :: cs) = some (Utf8.size front) :=
    findChar_first (fun c hc => by simpa using ne_of_mem_of_not_mem hc h) (by simp)
  rw [referenceRound, hfind]
  dsimp only
  rw [textUpTo_eq rfl, ok_bind, textFrom_eq rfl rfl, ok_bind, decodeFrom, if_pos rfl]
  rcases referenceAt_eq cs with ⟨hnone, hread⟩ | ⟨entity, rest, c, rfl, hsome, hread⟩
  · have hparts : '&' :: cs = ['&'] ++ cs := rfl
    have hbehind : textFrom ('&' :: cs) 1 = .ok cs := textFrom_eq hparts rfl
    refine ⟨[], cs, '&', rfl, ?_, by rw [hnone]⟩
    rw [hread, ok_bind]
    dsimp only
    rw [hbehind, ok_bind]
    rfl
  · have hbehind : textFrom ('&' :: (entity ++ ';' :: rest)) (1 + Utf8.size entity + 1) =
        .ok rest := by
      have hparts : '&' :: (entity ++ ';' :: rest) = '&' :: (entity ++ [';']) ++ rest := by simp
      refine textFrom_eq hparts ?_
      simp only [Utf8.size_cons, Utf8.size_append, Utf8.size_nil, Nat.add_assoc]
      rfl
    have hskip := decodeFrom_skip (entity ++ [';']) rest
    rw [List.length_append, List.append_assoc] at hskip
    refine ⟨entity ++ [';'], rest, c, by simp, ?_, ?_⟩
    · rw [hread, ok_bind]
      dsimp only
      rw [hbehind]
      rfl
    · rw [hsome]
      exact congrArg (c :: ·) hskip

/-- References are decoded without a failure, and as the reader of characters decodes them. -/
theorem decodeEntities_eq (text : List Char) :
    decodeEntities text = .ok (Markup.decodeEntities text) := by
  have hplain {cs : List Char} (h : '&' ∉ cs) : decodeFrom 0 cs = cs := by
    have hfront := decodeFrom_plain h []
    rwa [List.append_nil, decodeFrom, List.append_nil] at hfront
  rw [decodeEntities, Markup.decodeEntities]
  by_cases hamp : '&' ∈ text
  · rw [if_pos hamp]
    refine loop_eq (R := Eq) (f := fun x _ => x.2 ++ decodeFrom 0 x.1) (x := (text, [])) ?_ rfl
    rintro ⟨rest, out⟩ - rfl
    by_cases hrest : '&' ∈ rest
    · obtain ⟨front, cs, rfl, hfront⟩ := List.eq_append_cons_of_mem hrest
      obtain ⟨taken, rest, c, hcs, hround, hdecode⟩ := referenceRound_eq hfront cs out
      refine .inr ⟨_, _, hround, ?_, rfl, ?_⟩
      · have hpos := '&'.utf8Size_pos
        dsimp only
        rw [hcs, Utf8.size_append, Utf8.size_cons, Utf8.size_append]
        omega
      · rw [decodeFrom_plain hfront, hdecode]
        simp
    · left
      rw [referenceRound, findChar_none fun c hc => by simpa using ne_of_mem_of_not_mem hc hrest,
        hplain hrest]
      rfl
  · rw [if_neg hamp, hplain hamp]
    rfl

end Unbundled.Octets
