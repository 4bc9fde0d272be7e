import IssueMerge.Proofs.Json.Scalar
import Mathlib.Data.List.DropRight

/-!
A floating-point number is written as a number with a fraction or an exponent, so it is read as a
floating-point number again and never as an integer. Which number is read is not looked at here.
-/

namespace IssueMerge

namespace Shortest

open Binary64 (twoTo tenTo)

theorem twoTo_pos (k : Nat) : 0 < twoTo k :=
  Nat.pow_pos (by decide)

theorem tenTo_pos (k : Nat) : 0 < tenTo k :=
  Nat.pow_pos (by decide)

theorem compareScaled_zero (i j : Int) {n : Nat} (h : 0 < n) : compareScaled 0 i n j = .lt := by
  have hpos : 0 < n * twoTo j.toNat * tenTo (-i).toNat :=
    Nat.mul_pos (Nat.mul_pos h (twoTo_pos _)) (tenTo_pos _)
  rw [compareScaled, Nat.zero_mul, Nat.zero_mul]
  exact Nat.compare_eq_lt.mpr hpos

/-- Nothing but zero reads back from zero. -/
theorem digits_pos_of_readsBack {significand : Nat} (h : 0 < significand) {exponent : Int}
    {d : Decimal} (hd : readsBack significand exponent d = true) : 0 < d.digits := by
  refine Nat.pos_of_ne_zero fun hzero => ?_
  have hlow : 0 < if significand = twoTo 52 ∧ Binary64.leastExponent < exponent
      then 4 * significand - 1 else 4 * significand - 2 := by
    split <;> omega
  have hfirst : ((Ordering.lt == .gt) || (significand % 2 == 0 && (Ordering.lt == .eq))) = false := by
    cases significand % 2 == 0 <;> rfl
  simp only [readsBack, hzero, compareScaled_zero _ _ hlow, hfirst, Bool.false_and] at hd
  cases hd

theorem digits_pos_of_onGrid? {significand : Nat} (h : 0 < significand) {exponent unit : Int}
    {d : Decimal} (hd : onGrid? significand exponent unit = some d) : 0 < d.digits := by
  simp only [onGrid?] at hd
  split at hd
  · cases hd
  · next hlower _ =>
    cases hd
    exact digits_pos_of_readsBack h hlower
  · cases hd
    exact Nat.succ_pos _
  · next hlower _ =>
    cases hd
    have hpos := digits_pos_of_readsBack h hlower
    simp only [Binary64.roundQuotient] at hpos ⊢
    split <;> omega

theorem digits_pos_select {significand : Nat} (h : 0 < significand) (exponent : Int) :
    0 < (select significand exponent).digits := by
  simp only [select]
  generalize scale significand exponent = k
  cases hfound : (List.range' 1 17).findSome? fun n : Nat =>
      onGrid? significand exponent (k - n) with
  | some d =>
      obtain ⟨n, _, hd⟩ := List.exists_of_findSome?_eq_some hfound
      exact digits_pos_of_onGrid? h hd
  | none =>
      simp only [Option.getD_none, exact]
      split
      · exact Nat.mul_pos h (twoTo_pos _)
      · exact Nat.mul_pos h (Nat.pow_pos (by decide))

end Shortest

theorem Numeral.head?_digits {n : Nat} (h : 0 < n) :
    (digits n).head? ≠ some (CodePoint.ofChar '0') := by
  intro hzero
  rw [digits, List.head?_map] at hzero
  obtain ⟨d, hd, heq⟩ := Option.map_eq_some_iff.mp hzero
  have hchar : d = '0' := Char.toNat_inj.mp (congrArg CodePoint.val heq)
  exact head?_toDigits h (by rw [hd, hchar])

namespace Json

/-- The parts of a number that is no integer: digits, digits behind the point, and the sign and the
digits of a power of ten. -/
structure DecimalParts where
  whole : Text
  fraction : Text := []
  power : Option (CodePoint × Text) := none

namespace DecimalParts

def fractionText (fraction : Text) : Text :=
  if fraction = [] then [] else CodePoint.ofChar '.' :: fraction

def powerText : Option (CodePoint × Text) → Text
  | none => []
  | some (sign, digits) => CodePoint.ofChar 'e' :: sign :: digits

def text (p : DecimalParts) : Text :=
  p.whole ++ (fractionText p.fraction ++ powerText p.power)

/-- The parts can be read: there is a digit in front, no zero in front of another digit, and there is
a fraction or a power. -/
structure Proper (p : DecimalParts) : Prop where
  whole_ne_nil : p.whole ≠ []
  whole_digits : ∀ c ∈ p.whole, c.isDigit = true
  whole_zero : p.whole.head? = some (CodePoint.ofChar '0') → p.whole = [CodePoint.ofChar '0']
  fraction_digits : ∀ c ∈ p.fraction, c.isDigit = true
  power_sign : ∀ q ∈ p.power, q.1 = CodePoint.ofChar '+' ∨ q.1 = CodePoint.ofChar '-'
  power_digits : ∀ q ∈ p.power, q.2 ≠ [] ∧ ∀ c ∈ q.2, c.isDigit = true
  not_integer : p.fraction ≠ [] ∨ p.power ≠ none

/-- The power of ten that is written. -/
def powerValue (p : DecimalParts) : Option Int :=
  p.power.map fun q =>
    if q.1 = CodePoint.ofChar '-' then -(Numeral.value q.2 : Int) else Numeral.value q.2

def toFloat (p : DecimalParts) (negative : Bool) : Binary64 :=
  Binary64.ofDecimal negative (Numeral.value (p.whole ++ p.fraction))
    (p.powerValue.getD 0 - p.fraction.length)

variable {p : DecimalParts} {rest : Text}

theorem takeWhole_append (h : p.Proper) (hr : ∀ c ∈ rest.head?, c.isDigit = false) :
    takeWhole (p.whole ++ rest) = (p.whole, rest) := by
  cases hw : p.whole with
  | nil => exact absurd hw h.whole_ne_nil
  | cons c ds =>
      simp only [List.cons_append, takeWhole]
      split
      · next hc =>
        have hone := h.whole_zero (by rw [hw, hc]; rfl)
        rw [hw, hc] at hone
        rw [(List.cons.inj hone).2, hc]
        rfl
      · rw [← List.cons_append, ← hw]
        exact takeDigits_append h.whole_digits hr

theorem takeFraction_append (h : p.Proper) (hr : ∀ c ∈ rest.head?, c.isDigit = false)
    (hpoint : ∀ c ∈ rest.head?, c ≠ CodePoint.ofChar '.') :
    takeFraction (fractionText p.fraction ++ rest) = (p.fraction, rest) := by
  simp only [fractionText]
  split
  · next hempty =>
    rw [hempty]
    cases rest with
    | nil => rfl
    | cons c t => simp [takeFraction, hpoint c rfl]
  · next hne =>
    simp [takeFraction, takeDigits_append h.fraction_digits hr, hne]

theorem takeExponent_append (h : p.Proper) (hr : Ends rest) :
    takeExponent (powerText p.power ++ rest) = (p.powerValue, rest) := by
  cases hp : p.power with
  | none =>
      simp only [powerText, powerValue, hp, List.nil_append, Option.map_none]
      exact takeExponent_of_ends hr
  | some q =>
      obtain ⟨sign, digits⟩ := q
      obtain ⟨hne, hdigits⟩ := h.power_digits _ hp
      have hsign := h.power_sign _ hp
      have htake : takeSign [CodePoint.ofChar '+', CodePoint.ofChar '-'] (sign :: (digits ++ rest)) =
          (some sign, digits ++ rest) := by
        simp only [takeSign]
        rcases hsign with rfl | rfl <;> simp
      simp [powerText, powerValue, hp, takeExponent, htake,
        takeDigits_append hdigits hr.not_digit, hne]

theorem head_powerText (p : DecimalParts) (h : Ends rest) : ∀ c ∈ (powerText p.power ++ rest).head?,
    c.isDigit = false ∧ c ≠ CodePoint.ofChar '.' := by
  intro c hc
  cases hp : p.power with
  | none =>
      rw [hp] at hc
      rcases h c hc with rfl | rfl | rfl <;> decide
  | some q =>
      rw [hp] at hc
      cases hc
      decide

theorem head_fractionText (p : DecimalParts) (h : Ends rest) :
    ∀ c ∈ (fractionText p.fraction ++ (powerText p.power ++ rest)).head?, c.isDigit = false := by
  intro c hc
  simp only [fractionText] at hc
  split at hc
  · exact (p.head_powerText h c hc).1
  · cases hc
    decide

/-- A number that is no integer is read as one. -/
theorem number_text (h : p.Proper) (limit : Nat) {t : Text} {sign : Option CodePoint}
    (hs : takeSign [CodePoint.ofChar '-'] t = (sign, p.text ++ rest)) (hr : Ends rest) :
    number limit t = .ok (.float (p.toFloat sign.isSome), rest) := by
  have hwhole := takeWhole_append h (p.head_fractionText hr)
  have hfraction := takeFraction_append h (fun c hc => (p.head_powerText hr c hc).1)
    fun c hc => (p.head_powerText hr c hc).2
  have hinteger : ¬ (p.fraction = [] ∧ p.powerValue = none) := by
    rintro ⟨hf, hpower⟩
    exact h.not_integer.elim (· hf) (· (Option.map_eq_none_iff.mp hpower))
  rw [text, List.append_assoc, List.append_assoc] at hs
  simp only [number, hs, hwhole, hfraction, takeExponent_append h hr, h.whole_ne_nil, ↓reduceIte,
    hinteger, toFloat]

end DecimalParts

/-- A zero with a fraction, which need not start with another digit. -/
theorem proper_zero {fraction : Text} (hf : fraction ≠ [])
    (hfd : ∀ c ∈ fraction, c.isDigit = true) :
    DecimalParts.Proper { whole := [CodePoint.ofChar '0'], fraction } :=
  ⟨List.cons_ne_nil _ _, by simp; decide, fun _ => rfl, hfd, by simp, by simp, .inl hf⟩

theorem text_fraction (whole : Text) {fraction : Text} (hf : fraction ≠ []) :
    DecimalParts.text { whole, fraction } = whole ++ CodePoint.ofChar '.' :: fraction := by
  simp [DecimalParts.text, DecimalParts.fractionText, DecimalParts.powerText, hf]

def zeros (n : Nat) : Text :=
  List.replicate n (CodePoint.ofChar '0')

theorem isDigit_of_mem_zeros {n : Nat} {c : CodePoint} (h : c ∈ zeros n) : c.isDigit = true := by
  rw [List.eq_of_mem_replicate h]
  decide

theorem isDigit_of_mem_append {s t : Text} (hs : ∀ c ∈ s, c.isDigit = true)
    (ht : ∀ c ∈ t, c.isDigit = true) : ∀ c ∈ s ++ t, c.isDigit = true :=
  fun c hc => (List.mem_append.mp hc).elim (hs c) (ht c)

section

variable {ds : Text} (hne : ds ≠ []) (hd : ∀ c ∈ ds, c.isDigit = true)
  (hzero : ds.head? ≠ some (CodePoint.ofChar '0'))

include hne hd hzero

/-- The first digits of a number, zeros behind them, and a fraction. -/
theorem proper_whole {n : Nat} (hn : 0 < n) (m : Nat) {fraction : Text} (hf : fraction ≠ [])
    (hfd : ∀ c ∈ fraction, c.isDigit = true) :
    DecimalParts.Proper { whole := ds.take n ++ zeros m, fraction } := by
  obtain ⟨d, t, rfl⟩ := List.exists_cons_of_ne_nil hne
  obtain ⟨n, rfl⟩ := Nat.exists_eq_succ_of_ne_zero (Nat.ne_of_gt hn)
  refine ⟨by simp, ?_, fun h => absurd h hzero, hfd, by simp, by simp, .inl hf⟩
  exact isDigit_of_mem_append (fun c hc => hd c (List.mem_of_mem_take hc))
    fun c hc => isDigit_of_mem_zeros hc

/-- The first digit of a number, the others behind the point, and a power. -/
theorem proper_power {sign : CodePoint} (m k : Nat)
    (hsign : sign = CodePoint.ofChar '+' ∨ sign = CodePoint.ofChar '-') :
    DecimalParts.Proper {
      whole := ds.take 1
      fraction := ds.drop 1
      power := some (sign, zeros m ++ Numeral.digits k) } := by
  obtain ⟨d, t, rfl⟩ := List.exists_cons_of_ne_nil hne
  refine ⟨by simp, ?_, fun h => absurd h hzero, fun c hc => hd c (List.mem_of_mem_drop hc), ?_, ?_,
    .inr (by simp)⟩
  · exact fun c hc => hd c (List.mem_of_mem_take hc)
  · rintro _ ⟨⟩
    exact hsign
  · rintro _ ⟨⟩
    refine ⟨List.append_ne_nil_of_right_ne_nil _ (Numeral.digits_ne_nil k), ?_⟩
    exact isDigit_of_mem_append (fun c hc => isDigit_of_mem_zeros hc)
      fun c hc => Numeral.isDigit_of_mem_digits hc

/-- The digits of a number are laid out as one that is no integer. -/
theorem exists_layoutDigits (point : Int) :
    ∃ p : DecimalParts, p.Proper ∧ layoutDigits ds point = p.text := by
  simp only [layoutDigits]
  split
  · split
    · have hf : zeros (-point).toNat ++ ds ≠ [] := List.append_ne_nil_of_right_ne_nil _ hne
      refine ⟨_, proper_zero hf (isDigit_of_mem_append (fun c hc => isDigit_of_mem_zeros hc) hd), ?_⟩
      rw [text_fraction _ hf, List.append_assoc]
      rfl
    · next hpos =>
      split
      · refine ⟨_, proper_whole hne hd hzero (List.length_pos_iff.mpr hne)
          (point - ds.length).toNat (List.cons_ne_nil (CodePoint.ofChar '0') []) (by simp; decide), ?_⟩
        rw [text_fraction _ (List.cons_ne_nil _ _), List.take_length]
        rfl
      · next hsize =>
        have hf : ds.drop point.toNat ≠ [] := by
          simp only [ne_eq, List.drop_eq_nil_iff]
          omega
        have hproper := proper_whole hne hd hzero (n := point.toNat) (by omega) 0 hf
          fun c hc => hd c (List.mem_of_mem_drop hc)
        refine ⟨_, hproper, ?_⟩
        rw [text_fraction _ hf, List.append_assoc, List.append_assoc]
        rfl
  · have hfraction : (if ds.length ≤ 1 then [] else Text.ofString "." ++ ds.drop 1) =
        DecimalParts.fractionText (ds.drop 1) := by
      simp only [DecimalParts.fractionText, List.drop_eq_nil_iff]
      rfl
    obtain ⟨sign, hsign, htext⟩ : ∃ sign, (sign = CodePoint.ofChar '+' ∨ sign = CodePoint.ofChar '-') ∧
        (if point - 1 < 0 then Text.ofString "-" else Text.ofString "+") = [sign] := by
      split
      · exact ⟨_, .inr rfl, rfl⟩
      · exact ⟨_, .inl rfl, rfl⟩
    have hproper := proper_power hne hd hzero
      (2 - ((Numeral.digits (point - 1).natAbs).length : Int)).toNat (point - 1).natAbs hsign
    refine ⟨_, hproper, ?_⟩
    rw [hfraction, htext]
    simp only [DecimalParts.text, DecimalParts.powerText, List.append_assoc]
    rfl

end

/-- Without the zeros at their end, the digits of a number are still its first digits. -/
theorem kept_digits {n : Nat} (hn : 0 < n) :
    (Numeral.digits n).rdropWhile (· = CodePoint.ofChar '0') ≠ [] ∧
      (∀ c ∈ (Numeral.digits n).rdropWhile (· = CodePoint.ofChar '0'), c.isDigit = true) ∧
      ((Numeral.digits n).rdropWhile (· = CodePoint.ofChar '0')).head? ≠
        some (CodePoint.ofChar '0') := by
  have hhead := Numeral.head?_digits hn
  have hfront := List.rdropWhile_prefix (fun c => decide (c = CodePoint.ofChar '0'))
    (l := Numeral.digits n)
  have hne : (Numeral.digits n).rdropWhile (· = CodePoint.ofChar '0') ≠ [] := by
    rw [ne_eq, List.rdropWhile_eq_nil_iff]
    intro hall
    obtain ⟨d, ds, hds⟩ := List.exists_cons_of_ne_nil (Numeral.digits_ne_nil n)
    rw [hds] at hall hhead
    exact hhead (congrArg some (of_decide_eq_true (hall d List.mem_cons_self)))
  refine ⟨hne, fun c hc => Numeral.isDigit_of_mem_digits (hfront.subset hc), ?_⟩
  obtain ⟨rest, hrest⟩ := hfront
  rwa [← hrest, List.head?_append_of_ne_nil _ hne] at hhead

/-- A finite number is written as one that is no integer, behind a sign if it is negative. -/
theorem exists_floatText (negative : Bool) (significand : Nat) (exponent : Int) :
    ∃ p : DecimalParts, p.Proper ∧ floatText (.finite negative significand exponent) =
      (if negative then [CodePoint.ofChar '-'] else []) ++ p.text := by
  have hsign : (if negative then Text.ofString "-" else []) =
      if negative then [CodePoint.ofChar '-'] else [] := rfl
  simp only [floatText, hsign]
  split
  · refine ⟨_, proper_zero (by decide : [CodePoint.ofChar '0'] ≠ []) (by decide), ?_⟩
    rfl
  · next hne =>
    have hpos := Shortest.digits_pos_select (Nat.pos_of_ne_zero hne) exponent
    generalize Shortest.select significand exponent = d at hpos ⊢
    obtain ⟨hkept, hdigits, hzero⟩ := kept_digits hpos
    obtain ⟨p, hp, htext⟩ := exists_layoutDigits hkept hdigits hzero
      ((Numeral.digits d.digits).length + d.exponent)
    exact ⟨p, hp, by rw [← htext]; rfl⟩

end Json

/-- The number that is read where a number was written. -/
def Binary64.reread (x : Binary64) : Binary64 :=
  match Json.number Numeral.maxDigits (Json.floatText x) with
  | .ok (.float y, _) => y
  | _ => x

namespace Json

theorem text_head {p : DecimalParts} (h : p.Proper) :
    ∃ c t, p.text = c :: t ∧ c.isDigit = true := by
  obtain ⟨c, t, hc⟩ := List.exists_cons_of_ne_nil h.whole_ne_nil
  refine ⟨c, t ++ _, by rw [DecimalParts.text, hc]; rfl, h.whole_digits c ?_⟩
  rw [hc]
  exact List.mem_cons_self

theorem takeSign_text {p : DecimalParts} (h : p.Proper) (negative : Bool) (rest : Text) :
    takeSign [CodePoint.ofChar '-']
        ((if negative then [CodePoint.ofChar '-'] else []) ++ p.text ++ rest) =
      (if negative then some (CodePoint.ofChar '-') else none, p.text ++ rest) := by
  cases negative with
  | true => simp [takeSign]
  | false =>
      obtain ⟨c, t, hc, hdigit⟩ := text_head h
      have hminus : c ≠ CodePoint.ofChar '-' := by
        rintro rfl
        exact absurd hdigit (by decide)
      simp [takeSign, hc, hminus]

theorem number_floatText (limit : Nat) (negative : Bool) (significand : Nat) (exponent : Int)
    {rest : Text} (hr : Ends rest) :
    number limit (floatText (.finite negative significand exponent) ++ rest) =
      .ok (.float (Binary64.reread (.finite negative significand exponent)), rest) := by
  obtain ⟨p, hp, htext⟩ := exists_floatText negative significand exponent
  have hread : ∀ (limit : Nat) {rest : Text}, Ends rest →
      number limit (floatText (.finite negative significand exponent) ++ rest) =
        .ok (.float (p.toFloat (if negative then some (CodePoint.ofChar '-') else none).isSome),
          rest) := by
    intro limit rest hr
    rw [htext]
    exact DecimalParts.number_text hp limit (takeSign_text hp negative rest) hr
  have hsame := hread Numeral.maxDigits Ends.nil
  rw [List.append_nil] at hsame
  rw [hread limit hr, Binary64.reread, hsame]

theorem floatText_head (x : Binary64) : ∃ c t, floatText x = c :: t ∧
    (c.isDigit = true ∨ c = CodePoint.ofChar '-' ∨ c = CodePoint.ofChar 'N' ∨
      c = CodePoint.ofChar 'I') := by
  cases x with
  | nan => exact ⟨_, _, rfl, .inr (.inr (.inl rfl))⟩
  | infinite negative =>
      cases negative with
      | true => exact ⟨_, _, rfl, .inr (.inl rfl)⟩
      | false => exact ⟨_, _, rfl, .inr (.inr (.inr rfl))⟩
  | finite negative significand exponent =>
      obtain ⟨p, hp, htext⟩ := exists_floatText negative significand exponent
      obtain ⟨c, t, hc, hdigit⟩ := text_head hp
      rw [htext, hc]
      cases negative with
      | true => exact ⟨_, _, rfl, .inr (.inl rfl)⟩
      | false => exact ⟨_, _, rfl, .inl hdigit⟩

/-- A floating-point number is read from its text, whatever may follow. -/
theorem atom_floatText (limit : Nat) (x : Binary64) {rest : Text} (hr : Ends rest) :
    atom limit (floatText x ++ rest) = .ok (.float x.reread, rest) := by
  cases x with
  | nan => rfl
  | infinite negative => cases negative <;> rfl
  | finite negative significand exponent =>
      rw [← number_floatText limit negative significand exponent hr]
      obtain ⟨p, hp, htext⟩ := exists_floatText negative significand exponent
      obtain ⟨c, t, hc, hdigit⟩ := text_head hp
      rw [htext, hc]
      apply atom_eq_number
      cases negative with
      | true => exact .inr (by simp [hdigit])
      | false => exact .inl (by simp [hdigit])

end Json

end IssueMerge
