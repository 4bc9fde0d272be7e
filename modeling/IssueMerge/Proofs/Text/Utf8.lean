import IssueMerge.Proofs.Outcome
import IssueMerge.Text.Utf8
import Mathlib.Data.List.TakeWhile

/-!
A text that has a byte form reads back from it. The size of a code point decides on the number of its
bytes, and the first of them tells it again. What is read from bytes has a byte form.
-/

namespace IssueMerge

namespace Utf8

open Outcome

theorem assemble_eq {parts : List Nat} {c : CodePoint}
    (h : parts.foldl (fun n p => n * 0x40 + p) 0 = c.val) : assemble parts = c := by
  simp only [assemble, h, CodePoint.ofNat?, c.val_lt, ↓reduceDIte, Option.getD_some]

section

variable (position : Nat) {a b c d : UInt8} (rest : Bytes)

theorem decodeFrom_one (ha : a.toNat < 0x80) : decodeFrom position (a :: rest) =
    (assemble [a.toNat] :: ·) <$> decodeFrom (position + 1) rest := by
  have hlt : a < 0x80 := UInt8.lt_iff_toNat_lt.mpr ha
  rw [decodeFrom.eq_def]
  simp only [hlt, ↓reduceIte]

/-- A byte that can lead others. -/
theorem lead_iff : (¬ a < 0x80 ∧ ¬ (a < 0xC2 ∨ 0xF4 < a)) ↔ 0xC2 ≤ a.toNat ∧ a.toNat ≤ 0xF4 := by
  simp only [UInt8.lt_iff_toNat_lt, UInt8.toNat_ofNat]
  omega

theorem decodeFrom_two (ha : 0xC2 ≤ a.toNat) (ha' : a.toNat < 0xE0) (hb : secondFits a b = true) :
    decodeFrom position (a :: b :: rest) =
      (assemble [a.toNat - 0xC0, payload b] :: ·) <$> decodeFrom (position + 2) rest := by
  obtain ⟨hascii, hstart⟩ := (lead_iff (a := a)).mpr ⟨ha, by omega⟩
  have htwo : a < 0xE0 := UInt8.lt_iff_toNat_lt.mpr ha'
  rw [decodeFrom.eq_def]
  simp only [hascii, hstart, htwo, hb, Bool.not_true, Bool.false_eq_true, ↓reduceIte]

theorem decodeFrom_three (ha : 0xE0 ≤ a.toNat) (ha' : a.toNat < 0xF0)
    (hb : secondFits a b = true) (hc : continues c = true) :
    decodeFrom position (a :: b :: c :: rest) =
      (assemble [a.toNat - 0xE0, payload b, payload c] :: ·)
        <$> decodeFrom (position + 3) rest := by
  obtain ⟨hascii, hstart⟩ := (lead_iff (a := a)).mpr ⟨by omega, by omega⟩
  have htwo : ¬ a < 0xE0 := by rw [UInt8.lt_iff_toNat_lt]; exact Nat.not_lt.mpr ha
  have hthree : a < 0xF0 := UInt8.lt_iff_toNat_lt.mpr ha'
  rw [decodeFrom.eq_def]
  simp only [hascii, hstart, htwo, hthree, hb, hc, Bool.not_true, Bool.false_eq_true, ↓reduceIte]

theorem decodeFrom_four (ha : 0xF0 ≤ a.toNat) (ha' : a.toNat ≤ 0xF4)
    (hb : secondFits a b = true) (hc : continues c = true) (hd : continues d = true) :
    decodeFrom position (a :: b :: c :: d :: rest) =
      (assemble [a.toNat - 0xF0, payload b, payload c, payload d] :: ·)
        <$> decodeFrom (position + 4) rest := by
  obtain ⟨hascii, hstart⟩ := (lead_iff (a := a)).mpr ⟨by omega, ha'⟩
  have htwo : ¬ a < 0xE0 := by
    rw [UInt8.lt_iff_toNat_lt]
    exact Nat.not_lt.mpr (Nat.le_trans (by decide) ha)
  have hthree : ¬ a < 0xF0 := by rw [UInt8.lt_iff_toNat_lt]; exact Nat.not_lt.mpr ha
  rw [decodeFrom.eq_def]
  simp only [hascii, hstart, htwo, hthree, hb, hc, hd, Bool.not_true, Bool.false_eq_true,
    ↓reduceIte]

end

/-- The lead byte with a part of a code point on it. -/
theorem toNat_lead (mark part : Nat) (h : mark + part < 256) :
    (UInt8.ofNat (mark + part)).toNat = mark + part := by
  rw [UInt8.toNat_ofNat']
  exact Nat.mod_eq_of_lt h

theorem toNat_tail (n : Nat) : (UInt8.ofNat (0x80 + n % 0x40)).toNat = 0x80 + n % 0x40 :=
  toNat_lead _ _ (by omega)

theorem payload_tail (n : Nat) : payload (UInt8.ofNat (0x80 + n % 0x40)) = n % 0x40 := by
  rw [payload, toNat_tail]
  omega

theorem continues_tail (n : Nat) : continues (UInt8.ofNat (0x80 + n % 0x40)) = true := by
  simp only [continues, Bool.and_eq_true, decide_eq_true_eq, UInt8.le_iff_toNat_le, toNat_tail,
    UInt8.toNat_ofNat]
  omega

theorem secondFits_iff {a b : UInt8} : secondFits a b = true ↔
    (if a.toNat = 0xE0 then 0xA0 else if a.toNat = 0xF0 then 0x90 else 0x80) ≤ b.toNat ∧
      b.toNat ≤ if a.toNat = 0xED then 0x9F else if a.toNat = 0xF4 then 0x8F else 0xBF := by
  simp only [secondFits, ← UInt8.toNat_inj, UInt8.le_iff_toNat_le, UInt8.toNat_ofNat]
  grind

/-- The bytes of a code point are read as it. -/
theorem decodeFrom_unit {c : CodePoint} (h : c.isSurrogate = false) (position : Nat)
    (rest : Bytes) : decodeFrom position (unit c ++ rest) =
      (c :: ·) <$> decodeFrom (position + (unit c).length) rest := by
  have hbound := c.val_lt
  have hsurrogate : c.val < 0xD800 ∨ 0xDFFF < c.val := by
    simp only [CodePoint.isSurrogate, Bool.and_eq_false_iff, decide_eq_false_iff_not] at h
    omega
  simp only [unit, Nat.shiftRight_eq_div_pow, Nat.reducePow, Nat.div_one]
  split
  · next hone =>
    have ha : (UInt8.ofNat (0 + c.val)).toNat = c.val := by
      rw [toNat_lead _ _ (by omega), Nat.zero_add]
    have hc : assemble [c.val] = c := assemble_eq (by simp)
    rw [List.singleton_append, decodeFrom_one _ _ (by omega), ha, hc]
    rfl
  · split
    · next hone htwo =>
      have ha := toNat_lead 0xC0 (c.val / 64) (by omega)
      have hb : secondFits (UInt8.ofNat (0xC0 + c.val / 64)) (UInt8.ofNat (0x80 + c.val % 64)) =
          true := by
        rw [secondFits_iff, ha, toNat_tail]
        grind
      have hc : assemble [c.val / 64, c.val % 64] = c := assemble_eq (by simp; omega)
      rw [List.cons_append, List.singleton_append, decodeFrom_two _ _ (by omega) (by omega) hb, ha,
        Nat.add_sub_cancel_left, payload_tail, hc]
      rfl
    · split
      · next hone htwo hthree =>
        have ha := toNat_lead 0xE0 (c.val / 4096) (by omega)
        have hb : secondFits (UInt8.ofNat (0xE0 + c.val / 4096))
            (UInt8.ofNat (0x80 + c.val / 64 % 64)) = true := by
          rw [secondFits_iff, ha, toNat_tail]
          grind
        have hc : assemble [c.val / 4096, c.val / 64 % 64, c.val % 64] = c :=
          assemble_eq (by simp; omega)
        rw [List.cons_append, List.cons_append, List.singleton_append,
          decodeFrom_three _ _ (by omega) (by omega) hb (continues_tail _), ha,
          Nat.add_sub_cancel_left, payload_tail, payload_tail, hc]
        rfl
      · next hone htwo hthree =>
        have ha := toNat_lead 0xF0 (c.val / 262144) (by omega)
        have hb : secondFits (UInt8.ofNat (0xF0 + c.val / 262144))
            (UInt8.ofNat (0x80 + c.val / 4096 % 64)) = true := by
          rw [secondFits_iff, ha, toNat_tail]
          grind
        have hc : assemble [c.val / 262144, c.val / 4096 % 64, c.val / 64 % 64, c.val % 64] = c :=
          assemble_eq (by simp; omega)
        rw [List.cons_append, List.cons_append, List.cons_append, List.singleton_append,
          decodeFrom_four _ _ (by omega) (by omega) hb (continues_tail _) (continues_tail _), ha,
          Nat.add_sub_cancel_left, payload_tail, payload_tail, payload_tail, hc]
        rfl

theorem decodeFrom_flatMap {t : Text} (h : ∀ c ∈ t, c.isSurrogate = false) (position : Nat) :
    decodeFrom position (t.flatMap unit) = .ok t := by
  induction t generalizing position with
  | nil => rw [List.flatMap_nil, decodeFrom.eq_def]
  | cons c t ih =>
      rw [List.flatMap_cons, decodeFrom_unit (h c List.mem_cons_self),
        ih fun d hd => h d (List.mem_cons_of_mem c hd)]
      rfl

theorem encode_eq_ok {t : Text} {bytes : Bytes} :
    encode t = .ok bytes ↔ (∀ c ∈ t, c.isSurrogate = false) ∧ bytes = t.flatMap unit := by
  simp only [encode]
  split
  · next h =>
    rw [List.dropWhile_eq_nil_iff] at h
    simp only [Bool.not_eq_true'] at h
    exact ⟨fun heq => ⟨h, (Except.ok.inj heq).symm⟩, fun heq => by rw [heq.2]⟩
  · next c rest h =>
    have hsurrogate : ¬ ∀ c ∈ t, c.isSurrogate = false := by
      intro hall
      have hnil : t.dropWhile (!·.isSurrogate) = [] :=
        List.dropWhile_eq_nil_iff.mpr fun c hc => by simp [hall c hc]
      rw [hnil] at h
      cases h
    simp [hsurrogate]

/-- A text reads back from its byte form. -/
theorem decode_encode {t : Text} {bytes : Bytes} (h : encode t = .ok bytes) :
    decode bytes = .ok t := by
  obtain ⟨hall, rfl⟩ := encode_eq_ok.mp h
  exact decodeFrom_flatMap hall 0

theorem isSurrogate_assemble {parts : List Nat} {n : Nat}
    (hn : parts.foldl (fun n p => n * 0x40 + p) 0 = n) (h : n < 0xD800 ∨ 0xDFFF < n) :
    (assemble parts).isSurrogate = false := by
  simp only [assemble, CodePoint.ofNat?, hn]
  split
  · simp only [Option.getD_some, CodePoint.isSurrogate, Bool.and_eq_false_iff,
      decide_eq_false_iff_not]
    omega
  · rfl

theorem isSurrogate_of_map {parts : List Nat} {n : Nat} {x : Except Undecodable Text} {t : Text}
    (h : (assemble parts :: ·) <$> x = .ok t)
    (ih : ∀ {t : Text}, x = .ok t → ∀ c ∈ t, c.isSurrogate = false)
    (hn : parts.foldl (fun n p => n * 0x40 + p) 0 = n) (hsize : n < 0xD800 ∨ 0xDFFF < n) :
    ∀ c ∈ t, c.isSurrogate = false := by
  obtain ⟨rest, hrest, rfl⟩ := map_eq_ok.mp h
  exact List.forall_mem_cons.mpr ⟨isSurrogate_assemble hn hsize, ih hrest⟩

theorem isSurrogate_of_decodeFrom {position : Nat} {bytes : Bytes} {t : Text}
    (h : decodeFrom position bytes = .ok t) : ∀ c ∈ t, c.isSurrogate = false := by
  fun_induction decodeFrom position bytes generalizing t
  case case1 =>
    cases h
    exact fun _ hc => absurd hc List.not_mem_nil
  case case2 ha ih =>
    -- one byte
    refine isSurrogate_of_map h ih rfl (.inl ?_)
    simp only [UInt8.lt_iff_toNat_lt, UInt8.toNat_ofNat] at ha
    simp only [List.foldl_cons, List.foldl_nil]
    omega
  case case6 a _ _ b _ _ ha ih =>
    -- two bytes
    refine isSurrogate_of_map h ih rfl (.inl ?_)
    simp only [UInt8.lt_iff_toNat_lt, UInt8.toNat_ofNat] at ha
    simp only [payload, List.foldl_cons, List.foldl_nil]
    omega
  case case9 a _ _ b hb _ c _ _ ha ih =>
    -- three bytes; the range of surrogates is that behind `0xED 0x9F`
    refine isSurrogate_of_map h ih rfl ?_
    rw [Bool.not_eq_true, Bool.not_eq_false', secondFits_iff] at hb
    simp only [UInt8.lt_iff_toNat_lt, UInt8.toNat_ofNat] at ha
    simp only [payload, List.foldl_cons, List.foldl_nil]
    by_cases hlead : a.toNat = 0xED
    · have hfirst : 0x80 ≤ b.toNat := by simpa [hlead] using hb.1
      have hlast : b.toNat ≤ 0x9F := by simpa [hlead] using hb.2
      omega
    · omega
  case case12 a _ _ b hb _ c _ ha d _ _ ih =>
    -- four bytes; the first size is that of `0xF0 0x90`
    refine isSurrogate_of_map h ih rfl (.inr ?_)
    rw [Bool.not_eq_true, Bool.not_eq_false', secondFits_iff] at hb
    simp only [UInt8.lt_iff_toNat_lt, UInt8.toNat_ofNat] at ha
    simp only [payload, List.foldl_cons, List.foldl_nil]
    by_cases hlead : a.toNat = 0xF0
    · have hfirst : 0x90 ≤ b.toNat := by simpa [hlead] using hb.1
      have hlast : b.toNat ≤ 0xBF := by simpa [hlead] using hb.2
      omega
    · omega
  all_goals cases h

/-- Bytes are never read as a surrogate. -/
theorem isSurrogate_of_decode {bytes : Bytes} {t : Text} (h : decode bytes = .ok t) :
    ∀ c ∈ t, c.isSurrogate = false :=
  isSurrogate_of_decodeFrom h

end Utf8

end IssueMerge
