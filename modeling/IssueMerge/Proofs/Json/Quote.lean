import IssueMerge.Json.Printer
import IssueMerge.Json.Parser
import IssueMerge.Proofs.Outcome

/-!
A quoted string reads back as the text it was written from, single surrogates included: only
characters below `0x20` are written as numbers, and no two of them make a pair.
-/

namespace IssueMerge

namespace Json

open Outcome

/-- What a written character is read as. -/
def Piece.ofCodePoint (c : CodePoint) : Piece :=
  ⟨c, (escapeLetter? c).isNone && decide (c.val < 0x20)⟩

theorem unescape_escapeLetter {c letter : CodePoint} (h : escapeLetter? c = some letter) :
    unescape? letter = some c ∧ letter ≠ CodePoint.ofChar 'u' := by
  obtain ⟨p, hp, hc⟩ := List.exists_of_findSome?_eq_some h
  split at hc
  · next hpc =>
    cases hc
    subst hpc
    have hall : ∀ p ∈ ([('"', '"'), ('\\', '\\'), ('\n', 'n'), ('\r', 'r'), ('\t', 't'),
        ('\x08', 'b'), ('\x0C', 'f')] : List (Char × Char)),
        unescape? (CodePoint.ofChar p.2) = some (CodePoint.ofChar p.1) ∧
          CodePoint.ofChar p.2 ≠ CodePoint.ofChar 'u' := by
      decide
    exact hall p hp
  · cases hc

theorem ne_of_escapeLetter_none {c : CodePoint} (h : escapeLetter? c = none) :
    c ≠ CodePoint.ofChar '"' ∧ c ≠ CodePoint.ofChar '\\' := by
  constructor <;> rintro rfl <;> exact absurd h (by decide)

theorem hexUnit_unitEscape {n : Nat} (h : n < 0x20) : ∃ h₁ h₂ h₃ h₄ unit : CodePoint,
    unitEscape n = [CodePoint.ofChar '\\', CodePoint.ofChar 'u', h₁, h₂, h₃, h₄] ∧
      hexUnit? h₁ h₂ h₃ h₄ = some unit ∧ unit.val = n := by
  have hall : ∀ m < 0x20, (unitEscape m).length = 6 ∧
      (unitEscape m).take 2 = [CodePoint.ofChar '\\', CodePoint.ofChar 'u'] ∧
      (hexUnit? ((unitEscape m).getD 2 default) ((unitEscape m).getD 3 default)
        ((unitEscape m).getD 4 default) ((unitEscape m).getD 5 default)).map CodePoint.val =
        some m := by
    decide
  obtain ⟨hlen, htake, hunit⟩ := hall n h
  obtain ⟨unit, hu, hv⟩ := Option.map_eq_some_iff.mp hunit
  match he : unitEscape n, hlen with
  | [a, b, h₁, h₂, h₃, h₄], _ =>
      simp only [he, List.take_succ_cons, List.take_zero, List.cons.injEq, and_true] at htake
      simp only [he] at hu
      exact ⟨h₁, h₂, h₃, h₄, unit, by rw [htake.1, htake.2], hu, hv⟩

theorem pieces_escapeMinimal (opening : Text) (c : CodePoint) {t : Text} (ht : t ≠ []) :
    pieces opening (escapeMinimal c ++ t) = Piece.before (.ofCodePoint c) <$> pieces opening t := by
  cases he : escapeLetter? c with
  | some letter =>
      obtain ⟨hplain, hu⟩ := unescape_escapeLetter he
      have hquote : CodePoint.ofChar '\\' ≠ CodePoint.ofChar '"' := by decide
      simp only [escapeMinimal, he, List.cons_append, List.nil_append]
      rw [pieces.eq_def]
      simp only [hquote, ↓reduceIte, hu, hplain, Piece.ofCodePoint, he, Option.isNone_some,
        Bool.false_and]
  | none =>
      obtain ⟨hq, hb⟩ := ne_of_escapeLetter_none he
      by_cases hc : c.val < 0x20
      · obtain ⟨h₁, h₂, h₃, h₄, unit, htext, hunit, hval⟩ := hexUnit_unitEscape hc
        have hquote : CodePoint.ofChar '\\' ≠ CodePoint.ofChar '"' := by decide
        have hempty : t.isEmpty = false := by
          cases t with
          | nil => exact absurd rfl ht
          | cons _ _ => rfl
        simp only [escapeMinimal, he, hc, ↓reduceIte, htext, List.cons_append, List.nil_append]
        rw [pieces.eq_def]
        simp only [hquote, ↓reduceIte, hunit, hempty, Piece.ofCodePoint, he, Option.isNone_none,
          hc, decide_true, Bool.and_self, CodePoint.ext_val hval]
      · simp only [escapeMinimal, he, hc, ↓reduceIte, List.cons_append, List.nil_append]
        rw [pieces.eq_def]
        simp only [hq, hb, hc, ↓reduceIte, Piece.ofCodePoint, he, Option.isNone_none,
          decide_false, Bool.and_false]

theorem pieces_quoted (opening s rest : Text) :
    pieces opening (s.flatMap escapeMinimal ++ CodePoint.ofChar '"' :: rest) =
      .ok (s.map Piece.ofCodePoint, rest) := by
  induction s with
  | nil =>
      simp only [List.flatMap_nil, List.nil_append, List.map_nil]
      rw [pieces.eq_def]
      simp only [↓reduceIte]
  | cons c s ih =>
      simp only [List.flatMap_cons, List.append_assoc]
      rw [pieces_escapeMinimal opening c (by simp), ih]
      rfl

theorem attach_ofCodePoint (c : CodePoint) (s : Text) :
    Piece.attach (.ofCodePoint c) (s.map Piece.ofCodePoint) =
      (c :: s).map Piece.ofCodePoint := by
  cases s with
  | nil => rfl
  | cons d s =>
      simp only [List.map_cons, Piece.attach]
      split
      · next hnum =>
        have hc : c.val < 0x20 := of_decide_eq_true (Bool.and_eq_true_iff.mp hnum.1).2
        have hjoin : joinSurrogates? c d = none := by
          simp only [joinSurrogates?]
          rw [if_neg]
          omega
        simp only [Piece.ofCodePoint] at hjoin ⊢
        rw [hjoin]
      · rfl

theorem text_map_ofCodePoint (s : Text) : Piece.text (s.map Piece.ofCodePoint) = s := by
  have hfold : (s.map Piece.ofCodePoint).foldr Piece.attach [] = s.map Piece.ofCodePoint := by
    induction s with
    | nil => rfl
    | cons c s ih => rw [List.map_cons, List.foldr_cons, ih, attach_ofCodePoint, List.map_cons]
  rw [Piece.text, hfold, List.map_map]
  exact List.map_id s

/-- A quoted string reads back. -/
theorem stringBody_quoted (opening s rest : Text) :
    stringBody opening (s.flatMap escapeMinimal ++ CodePoint.ofChar '"' :: rest) =
      .ok (s, rest) := by
  simp only [stringBody, pieces_quoted, Functor.map, Except.map, text_map_ofCodePoint]

end Json

end IssueMerge
