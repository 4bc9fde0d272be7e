import IssueMerge.Issue.Id
import IssueMerge.Proofs.Outcome
import IssueMerge.Proofs.Text.Numeral
import Mathlib.Data.List.MinMax

/-!
Ids with numbers. What stands in front of the last hyphen is the stem, however many hyphens there
are, and digits with zeros in front of them count as a number too. The stem of the first id with a
number and the largest number of a stem are said here without a limit on the length of numerals;
where the computations give a result at all, it is this one.
-/

namespace IssueMerge

open Outcome

namespace IssueId

variable {separator : CodePoint} {stem id : Text} {ids : List Text} {m n : Nat}

theorem splitLast?_eq_none {t : Text} : splitLast? separator t = none ↔ separator ∉ t := by
  induction t with
  | nil => simp [splitLast?]
  | cons c t ih =>
      rw [List.mem_cons, not_or, ← ih]
      simp only [splitLast?]
      cases splitLast? separator t with
      | some p => simp
      | none =>
          by_cases hc : c = separator
          · simp [hc]
          · simp [hc, Ne.symm hc]

/-- A text is split at the last of its separators. -/
theorem splitLast?_eq_some {t before behind : Text} :
    splitLast? separator t = some (before, behind) ↔
      t = before ++ separator :: behind ∧ separator ∉ behind := by
  induction t generalizing before behind with
  | nil => simp [splitLast?]
  | cons c t ih =>
      simp only [splitLast?]
      cases hsplit : splitLast? separator t with
      | some p =>
          obtain ⟨front, back⟩ := p
          obtain ⟨rfl, hback⟩ := ih.mp hsplit
          constructor
          · intro h
            cases h
            exact ⟨rfl, hback⟩
          · rintro ⟨heq, hbehind⟩
            cases before with
            | nil =>
                obtain ⟨-, rfl⟩ := List.cons.inj heq
                exact absurd (List.mem_append_right _ List.mem_cons_self) hbehind
            | cons d before =>
                obtain ⟨rfl, hrest⟩ := List.cons.inj heq
                have hsame := ih.mpr ⟨hrest, hbehind⟩
                rw [hsplit] at hsame
                cases hsame
                rfl
      | none =>
          have hnone := splitLast?_eq_none.mp hsplit
          constructor
          · intro h
            simp only at h
            split at h
            · next hc =>
              cases h
              exact ⟨congrArg (· :: t) hc, hnone⟩
            · cases h
          · rintro ⟨heq, hbehind⟩
            cases before with
            | nil =>
                obtain ⟨hc, ht⟩ := List.cons.inj heq
                rw [← ht]
                exact if_pos hc
            | cons d before =>
                rw [(List.cons.inj heq).2] at hnone
                exact absurd (List.mem_append_right _ List.mem_cons_self) hnone

/-- The id of a stem with a number. -/
def ofNumber (stem : Text) (n : Nat) : Text :=
  stem ++ hyphen :: Numeral.digits n

/-- A number has an id unless it has too many digits. -/
theorem format_eq (stem : Text) (n : Nat) : format stem n =
    if Numeral.maxDigits < (Numeral.digits n).length then .error .toWrite
    else .ok (ofNumber stem n) := by
  have hsigned : Numeral.signedDigits n = Numeral.digits n := by
    rw [Numeral.signedDigits, if_neg (by omega), Int.natAbs_natCast]
  rw [format, Numeral.write, Int.natAbs_natCast, hsigned]
  split
  · rfl
  · rfl

theorem format_eq_ok_iff : format stem n = .ok id ↔
    (Numeral.digits n).length ≤ Numeral.maxDigits ∧ id = ofNumber stem n := by
  rw [format_eq]
  split
  · next hlong => simp [Nat.not_le.mpr hlong]
  · next hshort => simp [Nat.not_lt.mp hshort, eq_comm]

theorem format_eq_ok (h : format stem n = .ok id) : id = ofNumber stem n :=
  (format_eq_ok_iff.mp h).2

theorem format_eq_error {e : Numeral.TooLong} : format stem n = .error e ↔
    Numeral.maxDigits < (Numeral.digits n).length ∧ e = .toWrite := by
  rw [format_eq]
  split
  · next hlong => simp [hlong, eq_comm]
  · next hshort => simp [hshort]

/-- A number that is too long comes up on the way to a larger one. -/
theorem format_eq_error_of_le {e : Numeral.TooLong} (hle : m ≤ n) (h : format stem m = .error e) :
    format stem n = .error e := by
  obtain ⟨hlong, rfl⟩ := format_eq_error.mp h
  exact format_eq_error.mpr ⟨Nat.lt_of_lt_of_le hlong (Numeral.length_digits_mono hle), rfl⟩

theorem ofNumber_injective (h : ofNumber stem m = ofNumber stem n) : m = n := by
  have hdigits := (List.cons.inj (List.append_cancel_left h)).2
  rw [← Numeral.value_digits m, hdigits, Numeral.value_digits]

theorem format_ne_nil (h : format stem n = .ok id) : id ≠ [] := by
  rw [format_eq_ok h]
  exact List.append_ne_nil_of_right_ne_nil stem (List.cons_ne_nil _ _)

theorem isNumeric_iff {suffix : Text} :
    isNumeric suffix = true ↔ suffix ≠ [] ∧ ∀ c ∈ suffix, c.isDigit = true := by
  simp [isNumeric]

theorem isNumeric_digits (n : Nat) : isNumeric (Numeral.digits n) = true :=
  isNumeric_iff.mpr ⟨Numeral.digits_ne_nil n, fun _ hc => Numeral.isDigit_of_mem_digits hc⟩

theorem hyphen_notMem_of_isNumeric {suffix : Text} (h : isNumeric suffix = true) :
    hyphen ∉ suffix := by
  intro hmem
  exact absurd ((isNumeric_iff.mp h).2 hyphen hmem) (by decide)

/-- The stem and the number of an id, if it has a number. -/
def numbered? (id : Text) : Option (Text × Nat) :=
  match splitLast? hyphen id with
  | some (stem, suffix) =>
    if stem ≠ [] ∧ isNumeric suffix = true then some (stem, Numeral.value suffix) else none
  | none => none

/-- An id has a number if it ends in a hyphen and digits, with something in front of them. -/
theorem numbered?_eq_some : numbered? id = some (stem, n) ↔
    stem ≠ [] ∧ ∃ suffix, id = stem ++ hyphen :: suffix ∧ isNumeric suffix = true ∧
      Numeral.value suffix = n := by
  simp only [numbered?]
  constructor
  · intro h
    split at h
    · next front suffix hsplit =>
      split at h
      · next hparts =>
        cases h
        exact ⟨hparts.1, suffix, (splitLast?_eq_some.mp hsplit).1, hparts.2, rfl⟩
      · cases h
    · cases h
  · rintro ⟨hstem, suffix, rfl, hnumeric, rfl⟩
    rw [splitLast?_eq_some.mpr ⟨rfl, hyphen_notMem_of_isNumeric hnumeric⟩]
    exact if_pos ⟨hstem, hnumeric⟩

theorem numbered?_ofNumber (hstem : stem ≠ []) (n : Nat) :
    numbered? (ofNumber stem n) = some (stem, n) :=
  numbered?_eq_some.mpr
    ⟨hstem, Numeral.digits n, rfl, isNumeric_digits n, Numeral.value_digits n⟩

/-- Taking an id apart gives its stem and its number. -/
theorem numbered?_of_parts {p : Parts} (h : parts id = .ok p) :
    numbered? id = p.number.map (p.stem, ·) := by
  simp only [parts] at h
  simp only [numbered?]
  split at h
  · next hsplit =>
    cases h
    rw [hsplit]
    rfl
  · next stem suffix hsplit =>
    rw [hsplit]
    split at h
    · next hempty =>
      cases h
      simp [List.isEmpty_iff.mp hempty]
    · next hne =>
      have hstem : stem ≠ [] := fun hnil => hne (List.isEmpty_iff.mpr hnil)
      split at h
      · next hnumeric =>
        obtain ⟨n, hread, rfl⟩ := map_eq_ok.mp h
        simp only [Numeral.read] at hread
        split at hread
        · cases hread
        · cases hread
          simp [hstem, hnumeric]
      · next hother =>
        cases h
        simp [hother]

/-- An id is not taken apart if it has a number of too many digits. -/
theorem parts_eq_error {e : Numeral.TooLong} (h : parts id = .error e) :
    ∃ stem suffix, id = stem ++ hyphen :: suffix ∧ stem ≠ [] ∧ isNumeric suffix = true ∧
      Numeral.maxDigits < suffix.length := by
  simp only [parts] at h
  split at h
  · cases h
  · next stem suffix hsplit =>
    split at h
    · cases h
    · next hne =>
      split at h
      · next hnumeric =>
        refine ⟨stem, suffix, (splitLast?_eq_some.mp hsplit).1, ?_, hnumeric, ?_⟩
        · exact fun hnil => hne (List.isEmpty_iff.mpr hnil)
        · simp only [Numeral.read] at h
          split at h
          · assumption
          · cases h
      · cases h

/-- The stem of the first id with a number, or else the stem for such ids. -/
def inferredStem (ids : List Text) : Text :=
  ((ids.filterMap numbered?).head?.map Prod.fst).getD defaultStem

theorem firstStem?_eq_ok {first : Option Text} (h : firstStem? ids = .ok first) :
    first.getD defaultStem = inferredStem ids := by
  induction ids with
  | nil =>
      cases h
      rfl
  | cons id ids ih =>
      obtain ⟨⟨stem, number⟩, hparts, h⟩ := bind_eq_ok.mp h
      have hid := numbered?_of_parts hparts
      cases number with
      | some n =>
          cases h
          rw [inferredStem, List.filterMap_cons, hid]
          rfl
      | none =>
          rw [ih h, inferredStem, inferredStem, List.filterMap_cons, hid]
          rfl

theorem inferredStem_ne_nil (ids : List Text) : inferredStem ids ≠ [] := by
  rw [inferredStem]
  cases hfirst : (ids.filterMap numbered?).head? with
  | none => decide
  | some p =>
      obtain ⟨id, _, hid⟩ := List.mem_filterMap.mp (List.mem_of_head? hfirst)
      exact (numbered?_eq_some.mp hid).1

/-- The number of an id of this stem. -/
def numberUnder? (stem id : Text) : Option Nat :=
  (numbered? id).bind fun p => if p.1 = stem then some p.2 else none

theorem numberUnder?_eq_some : numberUnder? stem id = some n ↔ numbered? id = some (stem, n) := by
  simp only [numberUnder?]
  cases numbered? id with
  | none => simp
  | some p =>
      obtain ⟨front, number⟩ := p
      by_cases hfront : front = stem <;> simp [hfront]

/-- The largest number among the ids of a stem, 0 if there is none. -/
def highestNumber (stem : Text) (ids : List Text) : Nat :=
  (ids.filterMap (numberUnder? stem)).foldr max 0

theorem le_highestNumber (hid : id ∈ ids) (h : numbered? id = some (stem, n)) :
    n ≤ highestNumber stem ids :=
  List.le_max_of_le' 0 (List.mem_filterMap.mpr ⟨id, hid, numberUnder?_eq_some.mpr h⟩) le_rfl

theorem highestFrom_eq_ok {least : Nat} (h : highestFrom stem least ids = .ok m) :
    m = max least (highestNumber stem ids) := by
  induction ids generalizing least with
  | nil =>
      cases h
      exact (Nat.max_zero _).symm
  | cons id ids ih =>
      obtain ⟨⟨front, number⟩, hparts, h⟩ := bind_eq_ok.mp h
      have hid := numbered?_of_parts hparts
      cases number with
      | none =>
          have hnone : numberUnder? stem id = none := by rw [numberUnder?, hid]; rfl
          rw [ih h, highestNumber, highestNumber, List.filterMap_cons_none hnone]
      | some n =>
          by_cases hfront : front = stem
          · subst hfront
            have hsome : numberUnder? front id = some n := numberUnder?_eq_some.mpr hid
            have hmax : (if front = front ∧ least < n then n else least) = max least n := by
              simp only [true_and]
              split <;> omega
            rw [ih h, hmax, highestNumber, highestNumber, List.filterMap_cons_some hsome,
              List.foldr_cons, Nat.max_assoc]
          · have hnone : numberUnder? stem id = none := by
              rw [numberUnder?, hid]
              exact if_neg hfront
            rw [ih h, if_neg fun hboth => hfront hboth.1, highestNumber, highestNumber,
              List.filterMap_cons_none hnone]

theorem highest_eq_ok (h : highest stem ids = .ok m) : m = highestNumber stem ids :=
  (highestFrom_eq_ok h).trans (Nat.zero_max _)

end IssueId

end IssueMerge
