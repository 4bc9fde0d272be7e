import IssueMerge.Proofs.Json.RoundTrip

/-!
A value is written on one line: there is no control character, and so no line feed, in a text that
stands for a value.
-/

namespace IssueMerge

namespace Text

/-- No control character is in the text. -/
def ControlFree (t : Text) : Prop :=
  ∀ c ∈ t, 0x20 ≤ c.val

instance : DecidablePred ControlFree :=
  fun t => inferInstanceAs (Decidable (∀ c ∈ t, 0x20 ≤ c.val))

@[simp] theorem controlFree_nil : ControlFree [] :=
  fun _ h => absurd h List.not_mem_nil

@[simp] theorem controlFree_cons {c : CodePoint} {t : Text} :
    ControlFree (c :: t) ↔ 0x20 ≤ c.val ∧ ControlFree t :=
  List.forall_mem_cons

@[simp] theorem controlFree_append {s t : Text} :
    ControlFree (s ++ t) ↔ ControlFree s ∧ ControlFree t :=
  List.forall_mem_append

theorem ControlFree.lineFeed_notMem {t : Text} (h : t.ControlFree) : CodePoint.lineFeed ∉ t :=
  fun hmem => absurd (h _ hmem) (by decide)

theorem controlFree_of_digits {t : Text} (h : ∀ c ∈ t, c.isDigit = true) : t.ControlFree := by
  intro c hc
  have hdigit := h c hc
  simp only [CodePoint.isDigit, Bool.and_eq_true, decide_eq_true_eq] at hdigit
  omega

end Text

namespace Json

open Text

theorem controlFree_escapeMinimal (c : CodePoint) : (escapeMinimal c).ControlFree := by
  simp only [escapeMinimal]
  cases he : escapeLetter? c with
  | some letter =>
      obtain ⟨p, hp, hletter⟩ := List.exists_of_findSome?_eq_some he
      have hall : ∀ p ∈ ([('"', '"'), ('\\', '\\'), ('\n', 'n'), ('\r', 'r'), ('\t', 't'),
          ('\x08', 'b'), ('\x0C', 'f')] : List (Char × Char)),
          0x20 ≤ (CodePoint.ofChar p.2).val := by decide
      have hfits : 0x20 ≤ letter.val := by
        split at hletter
        · cases hletter
          exact hall p hp
        · cases hletter
      have hmark : 0x20 ≤ (CodePoint.ofChar '\\').val := by decide
      simp [hfits, hmark]
  | none =>
      simp only
      split
      · next hc =>
        have hall : ∀ n < 0x20, (unitEscape n).ControlFree := by decide
        exact hall c.val hc
      · next hc => simpa using hc

theorem controlFree_quote (s : Text) : (quote escapeMinimal s).ControlFree := by
  have hbody : ControlFree (s.flatMap escapeMinimal) := by
    intro d hd
    obtain ⟨c, _, hc⟩ := List.mem_flatMap.mp hd
    exact controlFree_escapeMinimal c d hc
  have hmark : 0x20 ≤ (CodePoint.ofChar '"').val := by decide
  simp [quote, hbody, hmark]

theorem controlFree_signedDigits (n : Int) : (Numeral.signedDigits n).ControlFree := by
  have hdigits : (Numeral.digits n.natAbs).ControlFree :=
    controlFree_of_digits fun _ hc => Numeral.isDigit_of_mem_digits hc
  have hminus : 0x20 ≤ (CodePoint.ofChar '-').val := by decide
  simp only [Numeral.signedDigits]
  split
  · simp [hdigits, hminus]
  · exact hdigits

theorem DecimalParts.Proper.controlFree_text {p : DecimalParts} (h : p.Proper) :
    p.text.ControlFree := by
  have hpoint : 0x20 ≤ (CodePoint.ofChar '.').val := by decide
  have hmark : 0x20 ≤ (CodePoint.ofChar 'e').val := by decide
  have hfraction : (fractionText p.fraction).ControlFree := by
    simp only [fractionText]
    split
    · exact controlFree_nil
    · simp [hpoint, controlFree_of_digits h.fraction_digits]
  have hpower : (powerText p.power).ControlFree := by
    cases hp : p.power with
    | none => exact controlFree_nil
    | some q =>
        have hdigits := controlFree_of_digits (h.power_digits q hp).2
        have hsign : 0x20 ≤ q.1.val := by
          rcases h.power_sign q hp with heq | heq <;> rw [heq] <;> decide
        simp [powerText, hmark, hsign, hdigits]
  simp [text, controlFree_of_digits h.whole_digits, hfraction, hpower]

theorem controlFree_floatText (x : Binary64) : (floatText x).ControlFree := by
  cases x with
  | nan => decide
  | infinite negative => cases negative <;> decide
  | finite negative significand exponent =>
      obtain ⟨p, hp, htext⟩ := exists_floatText negative significand exponent
      have hminus : 0x20 ≤ (CodePoint.ofChar '-').val := by decide
      rw [htext]
      cases negative <;> simp [hp.controlFree_text, hminus]

theorem controlFree_commas {ts : List Text} (h : ∀ t ∈ ts, t.ControlFree) :
    (commas ts).ControlFree := by
  induction ts with
  | nil => exact controlFree_nil
  | cons t ts ih =>
      have ht := h t List.mem_cons_self
      cases ts with
      | nil => exact ht
      | cons u ts =>
          have hrest := ih fun x hx => h x (List.mem_cons_of_mem t hx)
          have hcomma : 0x20 ≤ (CodePoint.ofChar ',').val := by decide
          rw [commas_cons_cons]
          simp [ht, hcomma, hrest]

mutual

theorem controlFree_print : ∀ v : Json, (print escapeMinimal v).ControlFree
  | .null => by decide
  | .bool true => by decide
  | .bool false => by decide
  | .int n => controlFree_signedDigits n
  | .float x => controlFree_floatText x
  | .str s => controlFree_quote s
  | .arr items => by
      have hitems := controlFree_commas (controlFree_printItems items)
      have hmarks : (ofString "[").ControlFree ∧ (ofString "]").ControlFree := by decide
      simp only [print, controlFree_append]
      exact ⟨⟨hmarks.1, hitems⟩, hmarks.2⟩
  | .obj fields => by
      have hfields := controlFree_commas (controlFree_printFields fields)
      have hmarks : (ofString "\x7b").ControlFree ∧ (ofString "\x7d").ControlFree := by decide
      simp only [print, controlFree_append]
      exact ⟨⟨hmarks.1, hfields⟩, hmarks.2⟩

theorem controlFree_printItems : ∀ items : List Json,
    ∀ t ∈ printItems escapeMinimal items, t.ControlFree
  | [], _, h => absurd h List.not_mem_nil
  | v :: rest, t, h => by
      cases List.mem_cons.mp h with
      | inl heq =>
          rw [heq]
          exact controlFree_print v
      | inr h => exact controlFree_printItems rest t h

theorem controlFree_printFields : ∀ fields : List (Text × Json),
    ∀ t ∈ printFields escapeMinimal fields, t.ControlFree
  | [], _, h => absurd h List.not_mem_nil
  | (name, v) :: rest, t, h => by
      cases List.mem_cons.mp h with
      | inl heq =>
          have hcolon : (ofString ":").ControlFree := by decide
          rw [heq]
          simp [controlFree_quote name, hcolon, controlFree_print v]
      | inr h => exact controlFree_printFields rest t h

end

end Json

end IssueMerge
