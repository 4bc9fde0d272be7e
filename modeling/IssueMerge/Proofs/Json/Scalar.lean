import IssueMerge.Json.Printer
import IssueMerge.Proofs.Json.Shape

/-!
Strings and numbers read back as they were written. Of the floating-point numbers only those that
are not finite are written as words; the layout of the others is not looked at here.
-/

namespace IssueMerge

namespace Numeral

theorem isDigit_of_mem_digits {n : Nat} {c : CodePoint} (h : c ∈ digits n) : c.isDigit = true := by
  obtain ⟨d, hd, rfl⟩ := List.mem_map.mp h
  have hdigit := Nat.isDigit_of_mem_toDigits (by decide) (by decide) hd
  simp only [Char.isDigit, Bool.and_eq_true, decide_eq_true_eq, UInt32.le_iff_toNat_le] at hdigit
  simp only [CodePoint.isDigit, CodePoint.ofChar, Bool.and_eq_true]
  exact ⟨decide_eq_true hdigit.1, decide_eq_true hdigit.2⟩

theorem digits_ne_nil (n : Nat) : digits n ≠ [] := by
  simp only [digits, ne_eq, List.map_eq_nil_iff]
  exact Nat.toDigits_ne_nil

theorem head?_toDigits {n : Nat} (h : 0 < n) : (Nat.toDigits 10 n).head? ≠ some '0' := by
  induction n using Nat.strongRecOn with
  | ind n ih =>
      by_cases hn : n < 10
      · have hall : ∀ m < 10, 0 < m → [Nat.digitChar m].head? ≠ some '0' := by decide
        rw [Nat.toDigits_of_lt_base hn]
        exact hall n hn h
      · have hrec := ih (n / 10) (by omega) (by omega)
        rw [Nat.toDigits_of_base_le (by decide) (by omega),
          List.head?_append]
        cases hd : Nat.toDigits 10 (n / 10) with
        | nil => exact absurd hd Nat.toDigits_ne_nil
        | cons d ds => simpa [hd] using hrec

theorem digits_cons {n : Nat} {t : Text} (h : digits n = CodePoint.ofChar '0' :: t) : t = [] := by
  by_cases hn : n = 0
  · subst hn
    have hz : digits 0 = [CodePoint.ofChar '0'] := by decide
    rw [hz] at h
    exact (List.cons.inj h).2.symm
  · have hhead := head?_toDigits (Nat.pos_of_ne_zero hn)
    cases hd : Nat.toDigits 10 n with
    | nil => exact absurd hd Nat.toDigits_ne_nil
    | cons d ds =>
        rw [digits, hd, List.map_cons] at h
        have hval := congrArg CodePoint.val (List.cons.inj h).1
        have hchar : d = '0' := Char.toNat_inj.mp hval
        simp [hd, hchar] at hhead

end Numeral

namespace Json

/-- Texts at whose front no number or word goes on. -/
def Ends (rest : Text) : Prop :=
  ∀ c ∈ rest.head?, c = CodePoint.ofChar ',' ∨ c = CodePoint.ofChar ']' ∨ c = CodePoint.ofChar '}'

theorem Ends.nil : Ends [] := by
  intro c hc
  cases hc

theorem Ends.comma (t : Text) : Ends (CodePoint.ofChar ',' :: t) := by
  rintro c ⟨⟩
  exact .inl rfl

theorem Ends.bracket (t : Text) : Ends (CodePoint.ofChar ']' :: t) := by
  rintro c ⟨⟩
  exact .inr (.inl rfl)

theorem Ends.brace (t : Text) : Ends (CodePoint.ofChar '}' :: t) := by
  rintro c ⟨⟩
  exact .inr (.inr rfl)

theorem Ends.not_digit {rest : Text} (h : Ends rest) : ∀ c ∈ rest.head?, c.isDigit = false := by
  intro c hc
  rcases h c hc with rfl | rfl | rfl <;> decide

theorem takeDigits_append {ds rest : Text} (hd : ∀ c ∈ ds, c.isDigit = true)
    (hr : ∀ c ∈ rest.head?, c.isDigit = false) : takeDigits (ds ++ rest) = (ds, rest) := by
  have hstop : rest.takeWhile CodePoint.isDigit = [] ∧ rest.dropWhile CodePoint.isDigit = rest := by
    cases rest with
    | nil => exact ⟨rfl, rfl⟩
    | cons c t =>
        have hc := hr c rfl
        exact ⟨List.takeWhile_cons_of_neg (by simp [hc]), List.dropWhile_cons_of_neg (by simp [hc])⟩
  simp only [takeDigits, List.takeWhile_append_of_pos hd, List.dropWhile_append_of_pos hd, hstop,
    List.append_nil]

theorem takeWhole_digits (n : Nat) {rest : Text} (hr : Ends rest) :
    takeWhole (Numeral.digits n ++ rest) = (Numeral.digits n, rest) := by
  cases hd : Numeral.digits n with
  | nil => exact absurd hd (Numeral.digits_ne_nil n)
  | cons c ds =>
      simp only [List.cons_append, takeWhole]
      split
      · next hc =>
        subst hc
        rw [Numeral.digits_cons hd]
        rfl
      · rw [← List.cons_append, ← hd]
        exact takeDigits_append (fun c hc => Numeral.isDigit_of_mem_digits hc) hr.not_digit

theorem takeFraction_of_ends {rest : Text} (hr : Ends rest) : takeFraction rest = ([], rest) := by
  cases rest with
  | nil => rfl
  | cons c t =>
      simp only [takeFraction]
      rw [if_neg]
      rintro ⟨rfl, _⟩
      rcases hr _ rfl with h | h | h <;> exact absurd h (by decide)

theorem takeExponent_of_ends {rest : Text} (hr : Ends rest) : takeExponent rest = (none, rest) := by
  cases rest with
  | nil => rfl
  | cons c t =>
      simp only [takeExponent]
      rw [if_neg]
      rintro (rfl | rfl) <;> rcases hr _ rfl with h | h | h <;> exact absurd h (by decide)

theorem number_of_parts {limit : Nat} {t : Text} {sign : Option CodePoint} {n : Nat} {rest : Text}
    (hs : takeSign [CodePoint.ofChar '-'] t = (sign, Numeral.digits n ++ rest))
    (hn : (Numeral.digits n).length ≤ limit) (hr : Ends rest) :
    number limit t = .ok (.int (if sign.isSome then -n else n), rest) := by
  simp only [number, hs, takeWhole_digits n hr, takeFraction_of_ends hr, takeExponent_of_ends hr,
    Numeral.digits_ne_nil, ↓reduceIte, and_self, Numeral.read, Nat.not_lt.mpr hn,
    Numeral.value_digits]

theorem eq_append_of_isPrefixOf? {w t s : Text} (h : w.isPrefixOf? t = some s) : t = w ++ s := by
  induction w generalizing t with
  | nil => exact Option.some.inj h
  | cons c w ih =>
      cases t with
      | nil => cases h
      | cons d t =>
          change (if c == d then w.isPrefixOf? t else none) = some s at h
          split at h
          · next hcd => rw [eq_of_beq hcd, ih h, List.cons_append]
          · cases h

theorem atom_of_no_word {limit : Nat} {t : Text} (h : ∀ w ∈ words, ∀ s, t ≠ w.1 ++ s) :
    atom limit t = number limit t := by
  have hnone : (words.findSome? fun w => (w.1.isPrefixOf? t).map (w.2, ·)) = none := by
    refine List.findSome?_eq_none_iff.mpr ?_
    intro w hw
    rw [Option.map_eq_none_iff, Option.eq_none_iff_forall_ne_some]
    intro s hs
    exact h w hw s (eq_append_of_isPrefixOf? hs)
  simp only [atom, hnone]

/-- No word starts like a number. -/
theorem atom_eq_number {limit : Nat} {t : Text}
    (h : t.head?.any CodePoint.isDigit = true ∨
      (t.head? = some (CodePoint.ofChar '-') ∧ t.tail.head?.any CodePoint.isDigit = true)) :
    atom limit t = number limit t := by
  have hwords : ∀ w ∈ words, w.1 ≠ [] ∧ w.1.head?.any CodePoint.isDigit = false ∧
      (w.1.head? = some (CodePoint.ofChar '-') →
        w.1.tail ≠ [] ∧ w.1.tail.head?.any CodePoint.isDigit = false) := by
    decide
  refine atom_of_no_word ?_
  rintro ⟨w, v⟩ hw s rfl
  obtain ⟨hne, hdigit, hminus⟩ := hwords (w, v) hw
  cases w with
  | nil => exact hne rfl
  | cons c cs =>
      cases h with
      | inl h => simp_all
      | inr hfound =>
          obtain ⟨h, h'⟩ := hfound
          obtain ⟨htail, hno⟩ := hminus h
          cases cs with
          | nil => exact htail rfl
          | cons d ds => simp_all

theorem atom_signedDigits {limit : Nat} {n : Int} (hn : (Numeral.digits n.natAbs).length ≤ limit)
    {rest : Text} (hr : Ends rest) :
    atom limit (Numeral.signedDigits n ++ rest) = .ok (.int n, rest) := by
  cases hd : Numeral.digits n.natAbs with
  | nil => exact absurd hd (Numeral.digits_ne_nil _)
  | cons c ds =>
      have hc : c.isDigit = true :=
        Numeral.isDigit_of_mem_digits (by rw [hd]; exact List.mem_cons_self)
      simp only [Numeral.signedDigits]
      split
      · next hneg =>
        have hs : takeSign [CodePoint.ofChar '-']
            (CodePoint.ofChar '-' :: Numeral.digits n.natAbs ++ rest) =
            (some (CodePoint.ofChar '-'), Numeral.digits n.natAbs ++ rest) := by
          simp [takeSign]
        rw [atom_eq_number (.inr (by simp [hd, hc])), number_of_parts hs hn hr]
        have habs : -(n.natAbs : Int) = n := by omega
        simp only [Option.isSome_some, ↓reduceIte, habs]
      · next hpos =>
        have hs : takeSign [CodePoint.ofChar '-'] (Numeral.digits n.natAbs ++ rest) =
            (none, Numeral.digits n.natAbs ++ rest) := by
          have hne : c ≠ CodePoint.ofChar '-' := by
            rintro rfl
            exact absurd hc (by decide)
          simp [takeSign, hd, hne]
        rw [atom_eq_number (.inl (by simp [hd, hc])), number_of_parts hs hn hr]
        have habs : (n.natAbs : Int) = n := by omega
        simp only [Option.isSome_none, Bool.false_eq_true, ↓reduceIte, habs]

end Json

end IssueMerge
