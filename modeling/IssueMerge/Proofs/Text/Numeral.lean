import IssueMerge.Proofs.Json.Scalar
import Mathlib.Data.List.Basic
import Mathlib.Data.List.Induction

/-!
The digits of numbers. A larger number does not have fewer digits, and digits are those of their value
unless there are zeros in front.
-/

namespace IssueMerge

namespace Numeral

theorem length_digits_le_iff {n k : Nat} (hk : 0 < k) : (digits n).length ≤ k ↔ n < 10 ^ k := by
  rw [digits, List.length_map]
  exact Nat.length_toDigits_le_iff (by decide) hk

theorem length_digits_pos (n : Nat) : 0 < (digits n).length :=
  List.length_pos_iff.mpr (digits_ne_nil n)

theorem length_digits_mono {m n : Nat} (h : m ≤ n) : (digits m).length ≤ (digits n).length := by
  have hn : n < 10 ^ (digits n).length :=
    (length_digits_le_iff (length_digits_pos n)).mp (Nat.le_refl _)
  exact (length_digits_le_iff (length_digits_pos n)).mpr (Nat.lt_of_le_of_lt h hn)

/-- A zero stands in front of other digits. -/
def IsPadded (t : Text) : Prop :=
  t.head? = some (CodePoint.ofChar '0') ∧ 1 < t.length

theorem not_isPadded_digits (n : Nat) : ¬ IsPadded (digits n) := by
  intro h
  obtain ⟨hhead, hlength⟩ := h
  cases hdigits : digits n with
  | nil => exact digits_ne_nil n hdigits
  | cons c rest =>
      rw [hdigits] at hhead hlength
      cases hhead
      rw [digits_cons hdigits] at hlength
      exact Nat.lt_irrefl _ hlength

theorem digits_digitValue {c : CodePoint} (h : c.isDigit = true) : digits c.digitValue = [c] := by
  have hlt := digitValue_lt h
  have hchar := Nat.toNat_digitChar_of_lt_ten hlt
  rw [digits, Nat.toDigits_of_lt_base hlt, List.map_singleton]
  congr 1
  apply CodePoint.ext_val
  simp only [CodePoint.isDigit, Bool.and_eq_true, decide_eq_true_eq] at h
  simp only [CodePoint.digitValue] at hchar
  simp only [CodePoint.ofChar, CodePoint.digitValue]
  omega

theorem digits_append_digit {n : Nat} {c : CodePoint} (hn : 0 < n) (hc : c.isDigit = true) :
    digits (10 * n + c.digitValue) = digits n ++ [c] := by
  rw [← digits_digitValue hc, digits, digits, digits, ← List.map_append,
    Nat.toDigits_append_toDigits (by decide) hn (digitValue_lt hc)]

theorem value_append_digit (t : Text) (c : CodePoint) :
    value (t ++ [c]) = 10 * value t + c.digitValue := by
  simp [value]

/-- Digits are those of their value unless there are zeros in front. -/
theorem digits_value_iff {t : Text} (hne : t ≠ []) (hdigits : ∀ c ∈ t, c.isDigit = true) :
    digits (value t) = t ↔ ¬ IsPadded t := by
  constructor
  · intro h
    rw [← h]
    exact not_isPadded_digits _
  · intro hpad
    induction t using List.reverseRecOn with
    | nil => exact absurd rfl hne
    | append_singleton t c ih =>
        have hc : c.isDigit = true := hdigits c List.mem_concat_self
        by_cases ht : t = []
        · subst ht
          rw [value_append_digit]
          exact (congrArg digits (Nat.zero_add _)).trans (digits_digitValue hc)
        · have hfront : ∀ d ∈ t, d.isDigit = true :=
            fun d hd => hdigits d (List.mem_append_left _ hd)
          have hhead : (t ++ [c]).head? = t.head? := List.head?_append_of_ne_nil t ht
          have hlong : 1 < (t ++ [c]).length := by
            have hpos := List.length_pos_iff.mpr ht
            simpa using hpos
          have hfirst : t.head? ≠ some (CodePoint.ofChar '0') :=
            fun hzero => hpad ⟨hhead.trans hzero, hlong⟩
          have hsame : digits (value t) = t := ih ht hfront fun hpad => hfirst hpad.1
          have hpos : 0 < value t := by
            refine Nat.pos_of_ne_zero fun hzero => hfirst ?_
            rw [← hsame, hzero]
            decide
          rw [value_append_digit, digits_append_digit hpos hc, hsame]

end Numeral

end IssueMerge
