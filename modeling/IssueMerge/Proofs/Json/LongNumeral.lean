import IssueMerge.Proofs.Json.Scalar
import IssueMerge.Proofs.Json.Shape

/-!
When reading stops at a numeral that is too long. A reader takes what it reads off the front of a
text, so what is left of a text is an end of it, and a numeral that stopped a reader stands in the
text that was given to the first one. A text without so many digits in a row is read or refused. That
the digits in a row are those of an integer, and of no string or fraction, is not claimed.
-/

namespace IssueMerge

/-- The text holds a numeral that is too long to be read: so many digits in a row. -/
def Numeral.Overlong (limit : Nat) (t : Text) (e : TooLong) : Prop :=
  ∃ digits, digits <:+: t ∧ (∀ c ∈ digits, c.isDigit = true) ∧ limit < digits.length ∧
    e = .toRead digits.length

theorem Numeral.Overlong.mono {limit : Nat} {t u : Text} {e : TooLong}
    (h : Overlong limit t e) (ht : t <:+: u) : Overlong limit u e := by
  obtain ⟨digits, hdigits, hrest⟩ := h
  exact ⟨digits, hdigits.trans ht, hrest⟩

theorem Numeral.overlong_of_read {limit : Nat} {t : Text} {e : TooLong}
    (ht : ∀ c ∈ t, c.isDigit = true) (h : read limit t = .error e) : Overlong limit t e := by
  simp only [read] at h
  split at h
  · next hlong =>
    cases h
    exact ⟨t, List.infix_refl t, ht, hlong, rfl⟩
  · cases h

namespace Json

open Outcome

/-- What reading a text comes to: an end of the text is left, and a numeral that is too long stands
in the text. -/
def Takes {α : Type} (limit : Nat) (t : Text) : Except Stop (α × Text) → Prop
  | .ok (_, r) => r <:+ t
  | .error (.numeral e) => Numeral.Overlong limit t e
  | .error (.fault _ _) | .error .tooDeep => True

variable {α β : Type} {limit : Nat} {t u : Text} {x : Except Stop (α × Text)}

namespace Takes

/-- Reading may start behind the beginning of a text. -/
theorem of_suffix (h : Takes limit t x) (ht : t <:+ u) : Takes limit u x := by
  cases x with
  | ok p => exact h.trans ht
  | error stop =>
      cases stop with
      | numeral e => exact Numeral.Overlong.mono h ht.isInfix
      | fault _ _ | tooDeep => trivial

theorem bind {f : α × Text → Except Stop (β × Text)} (h : Takes limit t x)
    (hf : ∀ v r, r <:+ t → Takes limit t (f (v, r))) : Takes limit t (x >>= f) := by
  cases x with
  | ok p => exact hf p.1 p.2 h
  | error stop => cases stop <;> exact h

theorem map {f : α × Text → β × Text} (h : Takes limit t x) (hf : ∀ p, (f p).2 = p.2) :
    Takes limit t (f <$> x) := by
  cases x with
  | ok p =>
      change (f p).2 <:+ t
      rw [hf p]
      exact h
  | error stop => cases stop <;> exact h

/-- A piece of a string is put in front of those that are read behind its characters. -/
theorem piece {x : Except Stop (List Piece × Text)} (h : Takes limit t x) (p : Piece)
    (front : Text) : Takes limit (front ++ t) (p.before <$> x) :=
  (h.map (f := p.before) fun _ => rfl).of_suffix (List.suffix_append front t)

end Takes

theorem skipSpace_suffix (t : Text) : skipSpace t <:+ t :=
  List.dropWhile_suffix _

theorem takeDigits_suffix (t : Text) : (takeDigits t).2 <:+ t :=
  List.dropWhile_suffix _

theorem takeSign_suffix (signs : List CodePoint) (t : Text) : (takeSign signs t).2 <:+ t := by
  cases t with
  | nil => exact List.suffix_refl _
  | cons c t =>
      simp only [takeSign]
      split
      · exact List.suffix_cons c t
      · exact List.suffix_refl _

theorem takeWhole_append_rest (t : Text) : (takeWhole t).1 ++ (takeWhole t).2 = t := by
  cases t with
  | nil => rfl
  | cons c t =>
      simp only [takeWhole]
      split
      · rfl
      · exact List.takeWhile_append_dropWhile

theorem takeFraction_suffix (t : Text) : (takeFraction t).2 <:+ t := by
  cases t with
  | nil => exact List.suffix_refl _
  | cons c t =>
      simp only [takeFraction]
      split
      · exact (takeDigits_suffix t).trans (List.suffix_cons c t)
      · exact List.suffix_refl _

theorem takeExponent_suffix (t : Text) : (takeExponent t).2 <:+ t := by
  cases t with
  | nil => exact List.suffix_refl _
  | cons c t =>
      simp only [takeExponent]
      split
      · split
        · exact List.suffix_refl _
        · exact (takeDigits_suffix _).trans ((takeSign_suffix _ t).trans (List.suffix_cons c t))
      · exact List.suffix_refl _

theorem takes_number (t : Text) : Takes limit t (number limit t) := by
  have hsign := takeSign_suffix [CodePoint.ofChar '-'] t
  simp only [number]
  generalize (takeSign [CodePoint.ofChar '-'] t).2 = unsigned at hsign ⊢
  have hwhole := takeWhole_append_rest unsigned
  have hrest : (takeExponent (takeFraction (takeWhole unsigned).2).2).2 <:+ t :=
    (takeExponent_suffix _).trans <| (takeFraction_suffix _).trans <|
      List.IsSuffix.trans ⟨_, hwhole⟩ hsign
  split
  · trivial
  · split
    · split
      · exact hrest
      · next e he =>
        have hdigits : ∀ c ∈ (takeWhole unsigned).1, c.isDigit = true :=
          fun c hc => isDigit_of_mem_takeWhole hc
        refine (Numeral.overlong_of_read hdigits he).mono (.trans ?_ hsign.isInfix)
        exact ⟨[], (takeWhole unsigned).2, hwhole⟩
    · exact hrest

theorem takes_atom (t : Text) : Takes limit t (atom limit t) := by
  simp only [atom]
  split
  · next p hp =>
    obtain ⟨w, _, hw⟩ := List.exists_of_findSome?_eq_some hp
    obtain ⟨rest, hrest, hp⟩ := Option.map_eq_some_iff.mp hw
    cases hp
    exact ⟨w.1, (eq_append_of_isPrefixOf? hrest).symm⟩
  · exact takes_number t

theorem takes_pieces (opening t : Text) : Takes limit t (pieces opening t) := by
  fun_induction pieces opening t with
  | case1 | case3 | case5 | case6 | case8 | case9 => trivial
  | case2 => exact List.suffix_cons _ _
  | case4 h₁ h₂ h₃ h₄ r unit _ _ _ ih =>
      exact ih.piece ⟨unit, true⟩ [CodePoint.ofChar '\\', CodePoint.ofChar 'u', h₁, h₂, h₃, h₄]
  | case7 e r _ plain _ _ ih => exact ih.piece ⟨plain, false⟩ [CodePoint.ofChar '\\', e]
  | case10 c r _ _ _ ih => exact ih.piece ⟨c, false⟩ [c]

theorem takes_stringBody (opening t : Text) : Takes limit t (stringBody opening t) :=
  (takes_pieces opening t).map fun _ => rfl

theorem takes_memberName (t : Text) : Takes limit t (memberName t) := by
  cases t with
  | nil => trivial
  | cons c t =>
      simp only [memberName]
      split
      · refine .bind ((takes_stringBody _ t).of_suffix (List.suffix_cons c t)) fun name r hr => ?_
        have hskip := (skipSpace_suffix r).trans hr
        simp only
        split
        · trivial
        · next d rest heq =>
          rw [heq] at hskip
          split
          · exact (skipSpace_suffix rest).trans ((List.suffix_cons d rest).trans hskip)
          · trivial
      · trivial

section

variable {item : Reader Json} (hitem : ∀ t, Takes limit t (item t))

include hitem

theorem takes_items (n : Nat) (t : Text) : Takes limit t (items item n t) := by
  induction n generalizing t with
  | zero => trivial
  | succ n ih =>
      refine (hitem t).bind fun v r hr => ?_
      have hskip := (skipSpace_suffix r).trans hr
      simp only
      split
      · trivial
      · next c rest heq =>
        rw [heq] at hskip
        have hrest := (List.suffix_cons c rest).trans hskip
        split
        · exact hrest
        · split
          · have hlater := (skipSpace_suffix rest).trans hrest
            exact ((ih _).of_suffix hlater).bind fun vs r' hr' => hr'
          · trivial

theorem takes_members (n : Nat) (t : Text) : Takes limit t (members item n t) := by
  induction n generalizing t with
  | zero => trivial
  | succ n ih =>
      refine (takes_memberName t).bind fun name r₀ hr₀ => ?_
      refine ((hitem r₀).of_suffix hr₀).bind fun v r hr => ?_
      have hskip := (skipSpace_suffix r).trans hr
      simp only
      split
      · trivial
      · next c rest heq =>
        rw [heq] at hskip
        have hrest := (List.suffix_cons c rest).trans hskip
        split
        · exact hrest
        · split
          · have hlater := (skipSpace_suffix rest).trans hrest
            exact ((ih _).of_suffix hlater).bind fun fields r' hr' => hr'
          · trivial

theorem takes_array (t : Text) : Takes limit t (array item t) := by
  have hskip := skipSpace_suffix t
  simp only [array]
  split
  · next c rest heq =>
    rw [heq] at hskip
    split
    · exact (List.suffix_cons c rest).trans hskip
    · exact ((takes_items hitem _ _).of_suffix hskip).map fun _ => rfl
  · trivial

theorem takes_object (t : Text) : Takes limit t (object item t) := by
  have hskip := skipSpace_suffix t
  simp only [object]
  split
  · next c rest heq =>
    rw [heq] at hskip
    split
    · exact (List.suffix_cons c rest).trans hskip
    · exact ((takes_members hitem _ _).of_suffix hskip).map fun _ => rfl
  · trivial

end

theorem takes_valueWith {item : Option (Reader Json)}
    (hitem : ∀ reader ∈ item, ∀ t, Takes limit t (reader t)) (t : Text) :
    Takes limit t (valueWith limit item t) := by
  cases t with
  | nil => trivial
  | cons c t =>
      have htail := List.suffix_cons c t
      simp only [valueWith]
      split
      · exact ((takes_stringBody _ t).of_suffix htail).map fun _ => rfl
      · split
        · split
          · next reader => exact (takes_array (hitem reader rfl) t).of_suffix htail
          · trivial
        · split
          · split
            · next reader => exact (takes_object (hitem reader rfl) t).of_suffix htail
            · trivial
          · exact takes_atom (c :: t)

theorem takes_value (depth : Nat) (t : Text) : Takes limit t (value limit depth t) := by
  induction depth generalizing t with
  | zero => exact takes_valueWith (fun _ hreader => by cases hreader) t
  | succ depth ih =>
      refine takes_valueWith (fun reader hreader => ?_) t
      cases hreader
      exact ih

/-- Reading a text stops at a numeral only if the text holds one that is too long. -/
theorem overlong_of_document {limits : Limits} {e : Numeral.TooLong}
    (h : document limits t = .error (.numeral e)) : Numeral.Overlong limits.digits t e := by
  simp only [document] at h
  split at h
  · cases h
  · have htakes : Takes limits.digits (skipSpace t)
        (value limits.digits limits.depth (skipSpace t)) := takes_value limits.depth (skipSpace t)
    cases hvalue : value limits.digits limits.depth (skipSpace t) with
    | ok p =>
        simp only [hvalue, bind, Except.bind] at h
        split at h <;> cases h
    | error stop =>
        rw [hvalue] at h htakes
        cases h
        exact Numeral.Overlong.mono htakes (skipSpace_suffix t).isInfix

theorem overlong_of_parse {e : Numeral.TooLong} (h : parse t = .error (.numeral e)) :
    Numeral.Overlong Numeral.maxDigits t e := by
  simp only [parse, parseWith] at h
  split at h
  · cases h
  · cases h
  · cases h
  · next hstop =>
    cases h
    exact overlong_of_document hstop

end Json

end IssueMerge
