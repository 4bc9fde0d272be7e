import IssueMerge.Issue.IdSource
import IssueMerge.Proofs.Issue.Numbered

/-!
Ids and their parts. The id of a number is taken apart into the stem and the number again, and an id
with a number is put together again from its parts unless zeros stand in front of its digits. So two
numbers of a stem have different ids, and a source that counts on from the largest number in use never
gives the same id twice, nor one in use. Whether such an id is a mention of another one is not looked
at here.
-/

namespace IssueMerge

open Outcome

namespace IssueId

variable {stem id : Text} {n : Nat}

/-- An id that ends in a hyphen and digits is taken apart there. -/
theorem parts_append {suffix : Text} (hstem : stem ≠ []) (hnumeric : isNumeric suffix = true) :
    parts (stem ++ hyphen :: suffix) =
      (fun n => ⟨stem, some n⟩) <$> Numeral.read Numeral.maxDigits suffix := by
  have hsplit : splitLast? hyphen (stem ++ hyphen :: suffix) = some (stem, suffix) :=
    splitLast?_eq_some.mpr ⟨rfl, hyphen_notMem_of_isNumeric hnumeric⟩
  have hempty : stem.isEmpty = false := List.isEmpty_eq_false_iff.mpr hstem
  simp only [parts, hsplit, hempty, hnumeric, Bool.false_eq_true, ↓reduceIte]

theorem parts_eq_some : parts id = .ok ⟨stem, some n⟩ ↔
    stem ≠ [] ∧ ∃ suffix, id = stem ++ hyphen :: suffix ∧ isNumeric suffix = true ∧
      suffix.length ≤ Numeral.maxDigits ∧ Numeral.value suffix = n := by
  constructor
  · intro h
    obtain ⟨hstem, suffix, rfl, hnumeric, hvalue⟩ := numbered?_eq_some.mp (numbered?_of_parts h)
    refine ⟨hstem, suffix, rfl, hnumeric, Nat.not_lt.mp fun hlong => ?_, hvalue⟩
    rw [parts_append hstem hnumeric, Numeral.read, if_pos hlong] at h
    cases h
  · rintro ⟨hstem, suffix, rfl, hnumeric, hlength, rfl⟩
    rw [parts_append hstem hnumeric, Numeral.read, if_neg (Nat.not_lt.mpr hlength)]
    rfl

/-- The id of a number is taken apart into the stem and the number. -/
theorem parts_of_format (hstem : stem ≠ []) (h : format stem n = .ok id) :
    parts id = .ok ⟨stem, some n⟩ := by
  obtain ⟨hlength, rfl⟩ := format_eq_ok_iff.mp h
  exact parts_eq_some.mpr
    ⟨hstem, Numeral.digits n, rfl, isNumeric_digits n, hlength, Numeral.value_digits n⟩

/-- An id with a number is the one of its stem and its number unless there are zeros in front of its
digits. -/
theorem format_of_parts (h : parts id = .ok ⟨stem, some n⟩) :
    ∃ suffix, id = stem ++ hyphen :: suffix ∧ hyphen ∉ suffix ∧
      (format stem n = .ok id ↔ ¬ Numeral.IsPadded suffix) := by
  obtain ⟨_, suffix, rfl, hnumeric, hlength, rfl⟩ := parts_eq_some.mp h
  obtain ⟨hne, hdigits⟩ := isNumeric_iff.mp hnumeric
  refine ⟨suffix, rfl, hyphen_notMem_of_isNumeric hnumeric, ?_⟩
  have hshort := Nat.le_trans (Numeral.length_digits_value hne hdigits) hlength
  rw [format_eq_ok_iff, ← Numeral.digits_value_iff hne hdigits]
  constructor
  · intro hsame
    exact ((List.cons.inj (List.append_cancel_left hsame.2)).2).symm
  · intro hsame
    exact ⟨hshort, by rw [ofNumber, hsame]⟩

/-- Every id can be taken apart. -/
def Readable (ids : List Text) : Prop :=
  ∀ id ∈ ids, ∃ p, parts id = .ok p

theorem Readable.exists_firstStem? {ids : List Text} (h : Readable ids) :
    ∃ first, firstStem? ids = .ok first := by
  induction ids with
  | nil => exact ⟨none, rfl⟩
  | cons id ids ih =>
      obtain ⟨p, hp⟩ := h id List.mem_cons_self
      obtain ⟨first, hfirst⟩ := ih fun other hother => h other (List.mem_cons_of_mem id hother)
      by_cases hnumber : p.number.isSome = true
      · exact ⟨some p.stem, bind_eq_ok.mpr ⟨p, hp, if_pos hnumber⟩⟩
      · exact ⟨first, bind_eq_ok.mpr ⟨p, hp, (if_neg hnumber).trans hfirst⟩⟩

/-- All ids are looked at for the largest number of a stem, those of other stems too. -/
theorem exists_highestFrom_iff {least : Nat} {ids : List Text} :
    (∃ m, highestFrom stem least ids = .ok m) ↔ Readable ids := by
  induction ids generalizing least with
  | nil => exact ⟨fun _ => nofun, fun _ => ⟨least, rfl⟩⟩
  | cons id ids ih =>
      constructor
      · intro h
        obtain ⟨m, hm⟩ := h
        obtain ⟨⟨front, number⟩, hp, hrest⟩ := bind_eq_ok.mp hm
        refine List.forall_mem_cons.mpr ⟨⟨_, hp⟩, ?_⟩
        cases number with
        | none => exact ih.mp ⟨m, hrest⟩
        | some _ => exact ih.mp ⟨m, hrest⟩
      · intro h
        obtain ⟨⟨⟨front, number⟩, hp⟩, hids⟩ := List.forall_mem_cons.mp h
        cases number with
        | none =>
            obtain ⟨m, hm⟩ := ih.mpr hids
            exact ⟨m, bind_eq_ok.mpr ⟨_, hp, hm⟩⟩
        | some n =>
            obtain ⟨m, hm⟩ := ih.mpr hids
            exact ⟨m, bind_eq_ok.mpr ⟨_, hp, hm⟩⟩

theorem highest_of_readable {ids : List Text} (h : Readable ids) :
    highest stem ids = .ok (highestNumber stem ids) := by
  have hsome : ∃ m, highest stem ids = .ok m := exists_highestFrom_iff.mpr h
  obtain ⟨m, hm⟩ := hsome
  rw [hm, highest_eq_ok hm]

theorem highest_of_not_readable (stem : Text) {ids : List Text} (h : ¬ Readable ids) :
    ∃ e, highest stem ids = .error e := by
  cases hhighest : highest stem ids with
  | ok m => exact absurd (exists_highestFrom_iff.mp ⟨m, hhighest⟩) h
  | error e => exact ⟨e, rfl⟩

/-- Ids of a stem and their parts are inverse to each other. -/
structure Inverse (stem : Text) : Prop where
  /-- A number that is not too long has an id, which is taken apart into the stem and the number. -/
  parts_format : ∀ n, (Numeral.digits n).length ≤ Numeral.maxDigits →
    ∃ id, format stem n = .ok id ∧ parts id = .ok ⟨stem, some n⟩
  /-- An id with a number is the one of that number unless what stands behind its last hyphen has zeros
  in front. -/
  format_parts : ∀ id n, parts id = .ok ⟨stem, some n⟩ → ∃ suffix,
    id = stem ++ hyphen :: suffix ∧ hyphen ∉ suffix ∧
      (format stem n = .ok id ↔ ¬ Numeral.IsPadded suffix)

theorem inverse (hstem : stem ≠ []) : Inverse stem where
  parts_format _ hlength :=
    have hformat := format_eq_ok_iff.mpr ⟨hlength, rfl⟩
    ⟨_, hformat, parts_of_format hstem hformat⟩
  format_parts _ _ h := format_of_parts h

end IssueId

namespace NamespaceScan

open IssueId

variable {s : NamespaceScan} {k : Nat} {id : Text}

/-- The stem under which the source counts. -/
def usedStem (s : NamespaceScan) : Text :=
  s.stem.getD (inferredStem s.ids)

theorem usedStem_ne_nil (h : s.stem ≠ some []) : s.usedStem ≠ [] := by
  rw [usedStem]
  cases hstem : s.stem with
  | none => exact inferredStem_ne_nil s.ids
  | some stem =>
      intro hempty
      exact h (hstem.trans (congrArg some hempty))

theorem activeStem_eq_ok {stem : Text} (h : s.activeStem = .ok stem) : stem = s.usedStem := by
  simp only [activeStem] at h
  split at h
  · next given hgiven =>
    cases h
    rw [usedStem, hgiven, Option.getD_some]
  · next hgiven =>
    obtain ⟨first, hfirst, rfl⟩ := map_eq_ok.mp h
    rw [usedStem, hgiven, Option.getD_none, firstStem?_eq_ok hfirst]

theorem activeStem_of_readable (h : Readable s.ids) : s.activeStem = .ok s.usedStem := by
  have hsome : ∃ stem, s.activeStem = .ok stem := by
    simp only [activeStem]
    split
    · next given _ => exact ⟨given, rfl⟩
    · obtain ⟨first, hfirst⟩ := h.exists_firstStem?
      exact ⟨_, map_eq_ok.mpr ⟨first, hfirst, rfl⟩⟩
  obtain ⟨stem, hstem⟩ := hsome
  rw [hstem, activeStem_eq_ok hstem]

/-- The number of the answer to question `k`. -/
def numberAt (s : NamespaceScan) (k : Nat) : Nat :=
  highestNumber s.usedStem s.ids + 1 + k

/-- The answer to question `k` is the id. -/
def AnswersWith (s : NamespaceScan) (k : Nat) (id : Text) : Prop :=
  Readable s.ids ∧ (Numeral.digits (s.numberAt k)).length ≤ Numeral.maxDigits ∧
    id = ofNumber s.usedStem (s.numberAt k)

/-- The number that the source has come to behind `k` answers. It stays where it is once it is too
long. -/
def ComesTo (s : NamespaceScan) (k n : Nat) : Prop :=
  n = s.numberAt k ∨ n ≤ s.numberAt k ∧ Numeral.maxDigits < (Numeral.digits n).length

/-- Where the source stands behind `k` answers. -/
inductive Stands (s : NamespaceScan) (k : Nat) : Count → Prop where
  /-- The ids have not been gone through, or they cannot be. -/
  | unread {stem : Option Text} (unread : k = 0 ∨ ¬ Readable s.ids)
      (stem_eq : stem = s.stem ∨ stem = some s.usedStem) : Stands s k { ids := s.ids, stem }
  /-- There is a number for the next answer. -/
  | counting {n : Nat} (readable : Readable s.ids) (number : s.ComesTo k n) :
      Stands s k { ids := s.ids, stem := some s.usedStem, next := some n }

/-- One answer, when its number is known. -/
theorem stands_give {n : Nat} {next : Option Nat} (hreadable : Readable s.ids)
    (hnumber : s.ComesTo k n) :
    let result := Count.give { ids := s.ids, stem := some s.usedStem, next } s.usedStem n
    Stands s (k + 1) result.2 ∧ ∀ id, result.1 = .ok id ↔ s.AnswersWith k id := by
  have hle : n ≤ s.numberAt k := hnumber.elim Nat.le_of_eq And.left
  have hnext : s.numberAt (k + 1) = s.numberAt k + 1 := rfl
  simp only [Count.give]
  cases hformat : format s.usedStem n with
  | error e =>
      have hlong := (format_eq_error.mp hformat).1
      have hlonger := Nat.lt_of_lt_of_le hlong (Numeral.length_digits_mono hle)
      refine ⟨.counting hreadable (.inr ⟨by omega, hlong⟩), fun id => ⟨nofun, fun h => ?_⟩⟩
      exact absurd h.2.1 (Nat.not_le.mpr hlonger)
  | ok id =>
      obtain ⟨hshort, rfl⟩ := format_eq_ok_iff.mp hformat
      obtain rfl := hnumber.resolve_right fun h => Nat.not_le.mpr h.2 hshort
      refine ⟨.counting hreadable (.inl hnext.symm), fun id => ?_⟩
      exact ⟨fun h => ⟨hreadable, hshort, (Except.ok.inj h).symm⟩, fun h => congrArg _ h.2.2.symm⟩

/-- One answer. -/
theorem Stands.answer {c : Count} (h : Stands s k c) :
    Stands s (k + 1) c.answer.2 ∧ ∀ id, c.answer.1 = .ok id ↔ s.AnswersWith k id := by
  cases h with
  | @counting n hreadable hnumber => exact stands_give hreadable hnumber
  | @unread stem hunread hstem =>
      have hused : usedStem { ids := s.ids, stem } = s.usedStem := by
        cases hstem with
        | inl hsame => rw [hsame]
        | inr hknown =>
            rw [hknown]
            rfl
      by_cases hreadable : Readable s.ids
      · obtain rfl := hunread.resolve_right (not_not.mpr hreadable)
        have hactive := activeStem_of_readable (s := { ids := s.ids, stem }) hreadable
        rw [hused] at hactive
        simp only [Count.answer, hactive, Count.nextNumber, highest_of_readable hreadable]
        exact stands_give hreadable (.inl rfl)
      · have hfails : ∀ {e : Numeral.TooLong} {id : Text},
            Except.error e = .ok id ↔ s.AnswersWith k id :=
          ⟨nofun, fun h => absurd h.1 hreadable⟩
        rw [Count.answer]
        split
        · exact ⟨.unread (.inr hreadable) hstem, fun id => hfails⟩
        · next active hactive =>
          obtain rfl : active = s.usedStem := (activeStem_eq_ok hactive).trans hused
          obtain ⟨e, he⟩ := highest_of_not_readable s.usedStem hreadable
          simp only [Count.nextNumber, he]
          exact ⟨.unread (.inr hreadable) (.inr rfl), fun id => hfails⟩

theorem stands_after (s : NamespaceScan) (k : Nat) : Stands s k (s.after k) := by
  induction k with
  | zero => exact .unread (.inl rfl) (.inl rfl)
  | succ k ih => exact ih.answer.1

theorem source_eq_ok : s.source k = .ok id ↔ s.AnswersWith k id := by
  rw [source, mapError_eq_ok, (s.stands_after k).answer.2]

/-- What the source gives, answer by answer. -/
structure AnswersFresh (s : NamespaceScan) : Prop where
  /-- An answer is an id unless a number in the ids or its own number is too long. -/
  answered : ∀ k, (∃ id, s.source k = .ok id) ↔
    Readable s.ids ∧ (Numeral.digits (s.numberAt k)).length ≤ Numeral.maxDigits
  /-- No id is given twice, -/
  distinct : ∀ j k id, s.source j = .ok id → s.source k = .ok id → j = k
  /-- and none that is in use. -/
  unused : ∀ k id, s.source k = .ok id → id ∉ s.ids

theorem answersFresh (h : s.stem ≠ some []) : s.AnswersFresh where
  answered k := by
    simp only [source_eq_ok]
    exact ⟨fun ⟨_, hreadable, hlength, _⟩ => ⟨hreadable, hlength⟩,
      fun ⟨hreadable, hlength⟩ => ⟨_, hreadable, hlength, rfl⟩⟩
  distinct j k id hj hk := by
    obtain ⟨_, _, rfl⟩ := source_eq_ok.mp hj
    obtain ⟨_, _, hsame⟩ := source_eq_ok.mp hk
    have hnumber := ofNumber_injective hsame
    simp only [numberAt] at hnumber
    omega
  unused k id hk hmem := by
    obtain ⟨_, _, rfl⟩ := source_eq_ok.mp hk
    have hle := le_highestNumber hmem (numbered?_ofNumber (usedStem_ne_nil h) (s.numberAt k))
    simp only [numberAt] at hle
    omega

end NamespaceScan

/-- Under a stem that is not empty, whatever it holds, the number of an id and the id of a number are
inverse to each other but for zeros in front. Hence a source that counts on from the largest number of
the stem gives different ids only, and none that is in use. -/
theorem ids_inverse_and_fresh {stem : Text} (hstem : stem ≠ []) :
    IssueId.Inverse stem ∧ ∀ ids, NamespaceScan.AnswersFresh { ids, stem := some stem } := by
  refine ⟨IssueId.inverse hstem, fun ids => NamespaceScan.answersFresh ?_⟩
  intro hempty
  exact hstem (Option.some.inj hempty)

/-- Ids of the stem `bd-07` with and without zeros in front, one without a number, and one of another
stem. -/
def paddedIds : List Text :=
  ["bd-07-009", "bd-07-8", "bd-07-x", "bd-10"]

theorem ids_inverse_and_fresh_paddedIds : Text.ofString "bd-07" ≠ [] ∧
    (∃ id, IssueId.format "bd-07" 10 = .ok id ∧ IssueId.parts id = .ok ⟨"bd-07", some 10⟩) ∧
    (∃ suffix, Text.ofString "bd-07-009" = "bd-07" ++ IssueId.hyphen :: suffix ∧
      Numeral.IsPadded suffix ∧ IssueId.format "bd-07" 9 ≠ .ok "bd-07-009") ∧
    ∃ id, NamespaceScan.source { ids := paddedIds, stem := some "bd-07" } 0 = .ok id ∧
      id ∉ paddedIds := by
  have hstem : Text.ofString "bd-07" ≠ [] := by decide
  obtain ⟨hinverse, hfresh⟩ := ids_inverse_and_fresh hstem
  obtain ⟨suffix, hsuffix, _, hpadded⟩ := hinverse.format_parts "bd-07-009" 9 (by decide)
  have hpad : Numeral.IsPadded suffix := by
    have hid : Text.ofString "bd-07-009" = "bd-07" ++ IssueId.hyphen :: Text.ofString "009" := by
      decide
    obtain ⟨_, rfl⟩ := List.cons.inj (List.append_cancel_left (hid.symm.trans hsuffix))
    exact ⟨by decide, by decide⟩
  have hanswer : ∃ id, NamespaceScan.source { ids := paddedIds, stem := some "bd-07" } 0 = .ok id :=
    ⟨"bd-07-10", by decide +kernel⟩
  obtain ⟨id, hid⟩ := hanswer
  exact ⟨hstem, hinverse.parts_format 10 (by decide),
    ⟨suffix, hsuffix, hpad, fun hformat => hpadded.mp hformat hpad⟩,
    id, hid, (hfresh paddedIds).unused 0 id hid⟩

end IssueMerge
