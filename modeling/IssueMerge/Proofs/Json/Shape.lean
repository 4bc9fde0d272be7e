import IssueMerge.Json.Parser
import IssueMerge.Proofs.Json.Fields
import IssueMerge.Proofs.Outcome
import Mathlib.Algebra.Group.Nat.Defs

/-!
What values reading can give: no object has a name twice, no integer has more digits than may be
read, and nothing nests deeper than allowed.
-/

namespace IssueMerge

namespace Numeral

theorem digitValue_lt {c : CodePoint} (h : c.isDigit = true) : c.digitValue < 10 := by
  simp only [CodePoint.isDigit, Bool.and_eq_true, decide_eq_true_eq] at h
  simp only [CodePoint.digitValue]
  omega

theorem foldl_digits_lt (t : Text) (n k : Nat) (ht : ∀ c ∈ t, c.isDigit = true)
    (hn : n < 10 ^ k) :
    t.foldl (fun n c => 10 * n + c.digitValue) n < 10 ^ (k + t.length) := by
  induction t generalizing n k with
  | nil => exact hn
  | cons c t ih =>
      have hc := digitValue_lt (ht c List.mem_cons_self)
      have hstep : 10 * n + c.digitValue < 10 ^ (k + 1) := by rw [Nat.pow_succ]; omega
      have h := ih (10 * n + c.digitValue) (k + 1)
        (fun d hd => ht d (List.mem_cons_of_mem c hd)) hstep
      simpa only [List.foldl_cons, List.length_cons, Nat.add_comm 1, Nat.add_assoc] using h

/-- A number does not have more digits than the text it was read from. -/
theorem length_digits_value {t : Text} (hne : t ≠ []) (ht : ∀ c ∈ t, c.isDigit = true) :
    (digits (value t)).length ≤ t.length := by
  have hlt : value t < 10 ^ t.length := by
    have h := foldl_digits_lt t 0 0 ht (by decide)
    rwa [Nat.zero_add] at h
  simp only [digits, List.length_map]
  exact (Nat.length_toDigits_le_iff (by decide) (List.length_pos_iff.mpr hne)).mpr hlt

end Numeral

namespace Json

open Outcome

/-- Values that can be read when nesting and the digits of integers are limited. -/
def Fits (limit : Nat) : (depth : Nat) → Json → Prop
  | _, .int n => (Numeral.digits n.natAbs).length ≤ limit
  | 0, .arr _ | 0, .obj _ => False
  | depth + 1, .arr items => ∀ v ∈ items, Fits limit depth v
  | depth + 1, .obj fields => AllFields (Fits limit depth) fields
  | _, _ => True

@[simp] theorem fits_str (limit depth : Nat) (s : Text) : Fits limit depth (.str s) := by
  cases depth <;> trivial

theorem isDigit_of_mem_takeWhole {t : Text} {c : CodePoint} (h : c ∈ (takeWhole t).1) :
    c.isDigit = true := by
  cases t with
  | nil => exact absurd h List.not_mem_nil
  | cons d t =>
      simp only [takeWhole] at h
      split at h
      · next hd =>
        rw [List.mem_singleton.mp h, hd]
        decide
      · exact List.all_eq_true.mp List.all_takeWhile c h

theorem fits_number {limit : Nat} (depth : Nat) {t r : Text} {v : Json}
    (h : number limit t = .ok (v, r)) : Fits limit depth v := by
  simp only [number] at h
  split at h
  · cases h
  · next hne =>
    split at h
    · split at h
      · next n hn =>
        cases h
        simp only [Numeral.read] at hn
        split at hn
        · cases hn
        · next hlen =>
          cases hn
          have hd := Numeral.length_digits_value hne fun c hc => isDigit_of_mem_takeWhole hc
          have habs : ∀ (b : Bool) (m : Nat), (if b = true then -(m : Int) else m).natAbs = m := by
            intro b m
            cases b <;> simp
          cases depth <;>
            · simp only [Fits, habs]
              omega
      · cases h
    · cases h
      cases depth <;> trivial

theorem fits_atom {limit : Nat} (depth : Nat) {t r : Text} {v : Json}
    (h : atom limit t = .ok (v, r)) : Fits limit depth v := by
  simp only [atom] at h
  split at h
  · next p hp =>
    cases h
    obtain ⟨w, hw, hv⟩ := List.exists_of_findSome?_eq_some hp
    obtain ⟨_, _, hw'⟩ := Option.map_eq_some_iff.mp hv
    cases hw'
    simp only [words, List.mem_cons, List.not_mem_nil, or_false] at hw
    rcases hw with rfl | rfl | rfl | rfl | rfl | rfl <;> cases depth <;> trivial
  · exact fits_number depth h

theorem items_all {P : Json → Prop} {item : Reader Json}
    (hi : ∀ {t r v}, item t = .ok (v, r) → P v) {n : Nat} {t r : Text} {vs : List Json}
    (h : items item n t = .ok (vs, r)) : ∀ v ∈ vs, P v := by
  induction n generalizing t r vs with
  | zero => cases h
  | succ n ih =>
      obtain ⟨⟨v, r₁⟩, hv, h⟩ := bind_eq_ok.mp h
      simp only at h
      split at h
      · cases h
      · split at h
        · cases h
          simpa using hi hv
        · split at h
          · obtain ⟨⟨vs, r₂⟩, hvs, h⟩ := bind_eq_ok.mp h
            cases h
            exact List.forall_mem_cons.mpr ⟨hi hv, ih hvs⟩
          · cases h

theorem members_all {P : Json → Prop} {item : Reader Json}
    (hi : ∀ {t r v}, item t = .ok (v, r) → P v) {n : Nat} {t r : Text} {fields : Fields}
    (h : members item n t = .ok (fields, r)) : ∀ p ∈ fields, P p.2 := by
  induction n generalizing t r fields with
  | zero => cases h
  | succ n ih =>
      obtain ⟨⟨name, r₀⟩, _, h⟩ := bind_eq_ok.mp h
      obtain ⟨⟨v, r₁⟩, hv, h⟩ := bind_eq_ok.mp h
      simp only at h
      split at h
      · cases h
      · split at h
        · cases h
          simpa using hi hv
        · split at h
          · obtain ⟨⟨vs, r₂⟩, hvs, h⟩ := bind_eq_ok.mp h
            cases h
            exact List.forall_mem_cons.mpr ⟨hi hv, ih hvs⟩
          · cases h

theorem fits_array {limit depth : Nat} {item : Reader Json}
    (hi : ∀ {t r v}, item t = .ok (v, r) → Fits limit depth v) {t r : Text} {v : Json}
    (h : array item t = .ok (v, r)) : Fits limit (depth + 1) v := by
  simp only [array] at h
  split at h
  · split at h
    · cases h
      exact fun _ hv => absurd hv List.not_mem_nil
    · obtain ⟨⟨vs, r₁⟩, hvs, h⟩ := map_eq_ok.mp h
      cases h
      exact items_all hi hvs
  · cases h

theorem fits_object {limit depth : Nat} {item : Reader Json}
    (hi : ∀ {t r v}, item t = .ok (v, r) → Fits limit depth v) {t r : Text} {v : Json}
    (h : object item t = .ok (v, r)) : Fits limit (depth + 1) v := by
  simp only [object] at h
  split at h
  · split at h
    · cases h
      exact ⟨List.nodup_nil, fun _ hp => absurd hp List.not_mem_nil⟩
    · obtain ⟨⟨fields, r₁⟩, hfs, h⟩ := map_eq_ok.mp h
      cases h
      exact allFields_collect (members_all hi hfs)
  · cases h

theorem fits_valueWith {limit depth : Nat} {item : Option (Reader Json)} {t r : Text} {v : Json}
    (ha : ∀ {reader t r v}, item = some reader → array reader t = .ok (v, r) → Fits limit depth v)
    (ho : ∀ {reader t r v}, item = some reader → object reader t = .ok (v, r) → Fits limit depth v)
    (h : valueWith limit item t = .ok (v, r)) : Fits limit depth v := by
  cases t with
  | nil => cases h
  | cons c t =>
      simp only [valueWith] at h
      split at h
      · obtain ⟨⟨s, r₁⟩, _, h⟩ := map_eq_ok.mp h
        cases h
        exact fits_str limit depth s
      · split at h
        · split at h
          · exact ha rfl h
          · cases h
        · split at h
          · split at h
            · exact ho rfl h
            · cases h
          · exact fits_atom depth h

theorem fits_value {limit depth : Nat} {t r : Text} {v : Json}
    (h : value limit depth t = .ok (v, r)) : Fits limit depth v := by
  induction depth generalizing t r v with
  | zero =>
      refine fits_valueWith ?_ ?_ h
      · rintro reader t r v ⟨⟩
      · rintro reader t r v ⟨⟩
  | succ depth ih =>
      refine fits_valueWith ?_ ?_ h
      · rintro reader t r v ⟨⟩ ha
        exact fits_array (fun hv => ih hv) ha
      · rintro reader t r v ⟨⟩ ho
        exact fits_object (fun hv => ih hv) ho

/-- What is read within limits fits them. -/
theorem fits_document {limits : Limits} {t : Text} {v : Json} (h : document limits t = .ok v) :
    Fits limits.digits limits.depth v := by
  simp only [document] at h
  split at h
  · cases h
  · obtain ⟨⟨v', r⟩, hv, h⟩ := bind_eq_ok.mp h
    simp only at h
    split at h
    · cases h
      exact fits_value hv
    · cases h

theorem parse_eq_ok {t : Text} {v : Json} : parse t = .ok v ↔ document {} t = .ok v := by
  simp only [parse, parseWith]
  split <;> simp_all

end Json

end IssueMerge
