import IssueMerge.Proofs.Json.Decimal
import IssueMerge.Proofs.Json.Quote

/-!
A value that fits the limits is read from the line it is written as, with its floating-point numbers
as they are read again. One that holds no finite floating-point number reads back as itself.
-/

namespace IssueMerge

namespace Json

mutual

/-- Does the value hold a finite floating-point number? -/
def hasDecimal : Json → Bool
  | .float (.finite _ _ _) => true
  | .arr items => anyItemDecimal items
  | .obj fields => anyFieldDecimal fields
  | _ => false

def anyItemDecimal : List Json → Bool
  | [] => false
  | v :: rest => hasDecimal v || anyItemDecimal rest

def anyFieldDecimal : List (Text × Json) → Bool
  | [] => false
  | (_, v) :: rest => hasDecimal v || anyFieldDecimal rest

end

theorem anyItemDecimal_eq_false {items : List Json} :
    anyItemDecimal items = false ↔ ∀ v ∈ items, v.hasDecimal = false := by
  induction items with
  | nil => simp [anyItemDecimal]
  | cons v rest ih => simp [anyItemDecimal, ih]

theorem anyFieldDecimal_eq_false {fields : Fields} :
    anyFieldDecimal fields = false ↔ ∀ p ∈ fields, p.2.hasDecimal = false := by
  induction fields with
  | nil => simp [anyFieldDecimal]
  | cons p rest ih => simp [anyFieldDecimal, ih]

mutual

/-- The value that is read where a value was written: the floating-point numbers in it are those
that are read. -/
def reread : Json → Json
  | .float x => .float x.reread
  | .arr items => .arr (rereadItems items)
  | .obj fields => .obj (rereadFields fields)
  | .null => .null
  | .bool b => .bool b
  | .int n => .int n
  | .str s => .str s

def rereadItems : List Json → List Json
  | [] => []
  | v :: rest => reread v :: rereadItems rest

def rereadFields : List (Text × Json) → List (Text × Json)
  | [] => []
  | (name, v) :: rest => (name, reread v) :: rereadFields rest

end

theorem rereadItems_eq_map (items : List Json) : rereadItems items = items.map reread := by
  induction items with
  | nil => rfl
  | cons v rest ih => rw [rereadItems, ih, List.map_cons]

theorem rereadFields_eq_map (fields : Fields) :
    rereadFields fields = fields.map fun p => (p.1, p.2.reread) := by
  induction fields with
  | nil => rfl
  | cons p rest ih => rw [rereadFields, ih, List.map_cons]

theorem field?_rereadFields (name : Text) (fields : Fields) :
    field? name (rereadFields fields) = (field? name fields).map reread := by
  induction fields with
  | nil => rfl
  | cons p rest ih =>
      simp only [rereadFields, field?]
      split
      · rfl
      · exact ih

mutual

theorem reread_eq_self : ∀ {v : Json}, v.hasDecimal = false → v.reread = v
  | .float .nan, _ => rfl
  | .float (.infinite true), _ => rfl
  | .float (.infinite false), _ => rfl
  | .arr _, h => congrArg Json.arr (rereadItems_eq_self h)
  | .obj _, h => congrArg Json.obj (rereadFields_eq_self h)
  | .null, _ | .bool _, _ | .int _, _ | .str _, _ => rfl

theorem rereadItems_eq_self : ∀ {items : List Json}, anyItemDecimal items = false →
    rereadItems items = items
  | [], _ => rfl
  | _ :: _, h =>
      have h := Bool.or_eq_false_iff.mp h
      congrArg₂ List.cons (reread_eq_self h.1) (rereadItems_eq_self h.2)

theorem rereadFields_eq_self : ∀ {fields : Fields}, anyFieldDecimal fields = false →
    rereadFields fields = fields
  | [], _ => rfl
  | (name, _) :: _, h =>
      have h := Bool.or_eq_false_iff.mp h
      congrArg₂ List.cons (congrArg (Prod.mk name) (reread_eq_self h.1)) (rereadFields_eq_self h.2)

end

/-- Values that read back when they are written. -/
def Writable (limit depth : Nat) (v : Json) : Prop :=
  Fits limit depth v ∧ v.hasDecimal = false

theorem writable_str (limit depth : Nat) (s : Text) : Writable limit depth (.str s) :=
  ⟨fits_str limit depth s, rfl⟩

theorem writable_arr {limit depth : Nat} {items : List Json} :
    Writable limit (depth + 1) (.arr items) ↔ ∀ v ∈ items, Writable limit depth v := by
  simp only [Writable, Fits, hasDecimal, anyItemDecimal_eq_false]
  exact ⟨fun h v hv => ⟨h.1 v hv, h.2 v hv⟩,
    fun h => ⟨fun v hv => (h v hv).1, fun v hv => (h v hv).2⟩⟩

theorem writable_obj {limit depth : Nat} {fields : Fields} :
    Writable limit (depth + 1) (.obj fields) ↔ AllFields (Writable limit depth) fields := by
  simp only [Writable, Fits, hasDecimal, anyFieldDecimal_eq_false, AllFields]
  constructor
  · exact fun h => ⟨h.1.1, fun p hp => ⟨h.1.2 p hp, h.2 p hp⟩⟩
  · exact fun h => ⟨⟨h.1, fun p hp => (h.2 p hp).1⟩, fun p hp => (h.2 p hp).2⟩

def Opens (c : CodePoint) : Prop :=
  0x20 < c.val ∧ c.val < 0x7F ∧ c ≠ CodePoint.ofChar ']' ∧ c ≠ CodePoint.ofChar '}'

instance (c : CodePoint) : Decidable (Opens c) :=
  inferInstanceAs (Decidable (_ ∧ _ ∧ _ ∧ _))

theorem Opens.not_space {c : CodePoint} (h : Opens c) : isSpace c = false := by
  have hc := h.1
  simp only [isSpace, Bool.or_eq_false_iff, beq_eq_false_iff_ne]
  omega

theorem skipSpace_cons {c : CodePoint} (h : isSpace c = false) (t : Text) :
    skipSpace (c :: t) = c :: t :=
  List.dropWhile_cons_of_neg (by simp [h])

theorem opens_of_isDigit {c : CodePoint} (h : c.isDigit = true) : Opens c := by
  have hval : 0x30 ≤ c.val ∧ c.val ≤ 0x39 := by
    simpa only [CodePoint.isDigit, Bool.and_eq_true, decide_eq_true_eq] using h
  refine ⟨by omega, by omega, ?_, ?_⟩ <;> rintro rfl <;> exact absurd h (by decide)

def OpensText (t : Text) : Prop :=
  ∃ c u, t = c :: u ∧ Opens c

theorem OpensText.ne_nil {t : Text} (h : OpensText t) : t ≠ [] := by
  obtain ⟨c, u, rfl, _⟩ := h
  exact List.cons_ne_nil c u

theorem OpensText.append {t : Text} (h : OpensText t) (u : Text) : OpensText (t ++ u) := by
  obtain ⟨c, v, rfl, hc⟩ := h
  exact ⟨c, v ++ u, rfl, hc⟩

theorem OpensText.skipSpace {t : Text} (h : OpensText t) : skipSpace t = t := by
  obtain ⟨c, v, rfl, hc⟩ := h
  exact skipSpace_cons hc.not_space v

theorem signedDigits_head (n : Int) : ∃ c t, Numeral.signedDigits n = c :: t ∧
    (c = CodePoint.ofChar '-' ∨ c.isDigit = true) := by
  simp only [Numeral.signedDigits]
  split
  · exact ⟨_, _, rfl, .inl rfl⟩
  · cases hd : Numeral.digits n.natAbs with
    | nil => exact absurd hd (Numeral.digits_ne_nil _)
    | cons c t =>
        have hc : c ∈ Numeral.digits n.natAbs := by rw [hd]; exact List.mem_cons_self
        exact ⟨c, t, rfl, .inr (Numeral.isDigit_of_mem_digits hc)⟩

theorem signedDigits_opens (n : Int) : OpensText (Numeral.signedDigits n) := by
  obtain ⟨c, t, hc, rfl | hdigit⟩ := signedDigits_head n
  · exact ⟨_, t, hc, by decide⟩
  · exact ⟨c, t, hc, opens_of_isDigit hdigit⟩

theorem quote_opens (s : Text) : OpensText (quote escapeMinimal s) :=
  ⟨_, _, rfl, by decide⟩

theorem floatText_opens (x : Binary64) : OpensText (floatText x) := by
  obtain ⟨c, t, hc, hdigit | rfl | rfl | rfl⟩ := floatText_head x
  · exact ⟨c, t, hc, opens_of_isDigit hdigit⟩
  all_goals exact ⟨_, t, hc, by decide⟩

theorem print_opens (v : Json) : OpensText (print escapeMinimal v) := by
  cases v with
  | null => exact ⟨_, _, rfl, by decide⟩
  | bool b => cases b <;> exact ⟨_, _, rfl, by decide⟩
  | int n => exact signedDigits_opens n
  | float x => exact floatText_opens x
  | str s => exact quote_opens s
  | arr items => exact ⟨_, _, rfl, by decide⟩
  | obj fields => exact ⟨_, _, rfl, by decide⟩

def printField (p : Text × Json) : Text :=
  quote escapeMinimal p.1 ++ (CodePoint.ofChar ':' :: print escapeMinimal p.2)

theorem printField_opens (p : Text × Json) : OpensText (printField p) :=
  (quote_opens p.1).append _

theorem printItems_eq_map (vs : List Json) :
    printItems escapeMinimal vs = vs.map (print escapeMinimal) := by
  induction vs with
  | nil => rfl
  | cons v vs ih => rw [printItems, ih, List.map_cons]

theorem printFields_eq_map (fields : Fields) :
    printFields escapeMinimal fields = fields.map printField := by
  induction fields with
  | nil => rfl
  | cons p fields ih =>
      rw [printFields, ih, List.map_cons, printField, List.append_assoc]
      rfl

def commas (ts : List Text) : Text :=
  Text.joinWith "," ts

theorem commas_cons_cons (t u : Text) (ts : List Text) :
    commas (t :: u :: ts) = t ++ CodePoint.ofChar ',' :: commas (u :: ts) :=
  List.append_assoc t "," _

theorem commas_opens {t : Text} (ts : List Text) (h : OpensText t) :
    OpensText (commas (t :: ts)) := by
  cases ts with
  | nil => exact h
  | cons u ts =>
      rw [commas_cons_cons]
      exact h.append _

theorem length_le_commas {ts : List Text} (h : ∀ t ∈ ts, t ≠ []) :
    ts.length ≤ (commas ts).length := by
  induction ts with
  | nil => exact Nat.zero_le _
  | cons t ts ih =>
      have ht := List.length_pos_iff.mpr (h t List.mem_cons_self)
      cases ts with
      | nil => exact ht
      | cons u ts =>
          have hrest := ih fun x hx => h x (List.mem_cons_of_mem t hx)
          simp only [commas_cons_cons, List.length_append, List.length_cons] at hrest ⊢
          omega

/-- The second value is read from the text of the first whatever may follow. -/
def ReadsAs (item : Reader Json) (v w : Json) : Prop :=
  ∀ rest, Ends rest → item (print escapeMinimal v ++ rest) = .ok (w, rest)

section

variable {item : Reader Json} {f : Json → Json}

theorem items_commas {vs : List Json} (hne : vs ≠ []) (hr : ∀ v ∈ vs, ReadsAs item v (f v)) {n : Nat}
    (hn : vs.length ≤ n) (rest : Text) :
    items item n (commas (vs.map (print escapeMinimal)) ++ CodePoint.ofChar ']' :: rest) =
      .ok (vs.map f, rest) := by
  induction vs generalizing n with
  | nil => exact absurd rfl hne
  | cons v vs ih =>
      obtain ⟨n, rfl⟩ : ∃ m, n = m + 1 := ⟨n - 1, by simp only [List.length_cons] at hn; omega⟩
      have hv := hr v List.mem_cons_self
      cases vs with
      | nil =>
          simp only [List.map_cons, List.map_nil, commas, Text.joinWith, items,
            hv _ (Ends.bracket rest), bind, Except.bind]
          rw [skipSpace_cons (by decide)]
          simp only [↓reduceIte]
      | cons w vs =>
          have hopen := commas_opens (vs.map (print escapeMinimal)) (print_opens w)
          have hrest := ih (by simp) (fun u hu => hr u (List.mem_cons_of_mem v hu))
            (Nat.le_of_succ_le_succ hn)
          have hcomma : CodePoint.ofChar ',' ≠ CodePoint.ofChar ']' := by decide
          rw [List.map_cons, List.map_cons, commas_cons_cons, ← List.map_cons, List.append_assoc,
            List.cons_append]
          simp only [items, hv _ (Ends.comma _), bind, Except.bind]
          rw [skipSpace_cons (by decide)]
          simp only [hcomma, ↓reduceIte]
          rw [List.map_cons, (hopen.append _).skipSpace, ← List.map_cons, hrest]
          rfl

theorem array_commas {vs : List Json} (hr : ∀ v ∈ vs, ReadsAs item v (f v)) (rest : Text) :
    array item (commas (vs.map (print escapeMinimal)) ++ CodePoint.ofChar ']' :: rest) =
      .ok (.arr (vs.map f), rest) := by
  cases vs with
  | nil =>
      simp only [List.map_nil, commas, Text.joinWith, List.nil_append, array]
      rw [skipSpace_cons (by decide)]
      simp only [↓reduceIte]
  | cons v vs =>
      have hlen : (v :: vs).length ≤ (commas ((v :: vs).map (print escapeMinimal))).length := by
        have hall : ∀ t ∈ (v :: vs).map (print escapeMinimal), t ≠ [] := by
          intro t ht
          obtain ⟨w, _, rfl⟩ := List.mem_map.mp ht
          exact (print_opens w).ne_nil
        simpa only [List.length_map] using length_le_commas hall
      obtain ⟨c, t, hc, hopen⟩ := commas_opens (vs.map (print escapeMinimal)) (print_opens v)
      have hitems := items_commas (List.cons_ne_nil v vs) hr
        (n := (c :: t ++ CodePoint.ofChar ']' :: rest).length)
        (by rw [List.map_cons, hc] at hlen; rw [List.length_append]; omega) rest
      rw [List.map_cons, hc, List.cons_append] at hitems
      rw [List.map_cons, hc, List.cons_append]
      simp only [array]
      rw [skipSpace_cons hopen.not_space]
      simp only [hopen.2.2.1, ↓reduceIte, hitems]
      rfl

theorem memberName_printField (p : Text × Json) (rest : Text) :
    memberName (printField p ++ rest) = .ok (p.1, print escapeMinimal p.2 ++ rest) := by
  have hopen := (print_opens p.2).append rest
  simp only [printField, quote, List.cons_append, List.append_assoc, List.nil_append, memberName,
    ↓reduceIte, stringBody_quoted, bind, Except.bind]
  rw [skipSpace_cons (by decide)]
  simp only [↓reduceIte, hopen.skipSpace]

theorem members_commas {fields : Fields} (hne : fields ≠ [])
    (hr : ∀ p ∈ fields, ReadsAs item p.2 (f p.2)) {n : Nat} (hn : fields.length ≤ n) (rest : Text) :
    members item n (commas (fields.map printField) ++ CodePoint.ofChar '}' :: rest) =
      .ok (fields.map fun p => (p.1, f p.2), rest) := by
  induction fields generalizing n with
  | nil => exact absurd rfl hne
  | cons p fields ih =>
      obtain ⟨n, rfl⟩ : ∃ m, n = m + 1 := ⟨n - 1, by simp only [List.length_cons] at hn; omega⟩
      have hp := hr p List.mem_cons_self
      have hname := memberName_printField p
      cases fields with
      | nil =>
          simp only [List.map_cons, List.map_nil, commas, Text.joinWith, members, hname,
            hp _ (Ends.brace rest), bind, Except.bind]
          rw [skipSpace_cons (by decide)]
          simp only [↓reduceIte]
      | cons q fields =>
          have hopen := commas_opens (fields.map printField) (printField_opens q)
          have hrest := ih (by simp) (fun u hu => hr u (List.mem_cons_of_mem p hu))
            (Nat.le_of_succ_le_succ hn)
          have hcomma : CodePoint.ofChar ',' ≠ CodePoint.ofChar '}' := by decide
          rw [List.map_cons, List.map_cons, commas_cons_cons, ← List.map_cons, List.append_assoc,
            List.cons_append]
          simp only [members, hname, hp _ (Ends.comma _), bind, Except.bind]
          rw [skipSpace_cons (by decide)]
          simp only [hcomma, ↓reduceIte]
          rw [List.map_cons, (hopen.append _).skipSpace, ← List.map_cons, hrest]
          rfl

theorem object_commas {fields : Fields} (hnames : (names fields).Nodup)
    (hr : ∀ p ∈ fields, ReadsAs item p.2 (f p.2)) (rest : Text) :
    object item (commas (fields.map printField) ++ CodePoint.ofChar '}' :: rest) =
      .ok (.obj (fields.map fun p => (p.1, f p.2)), rest) := by
  cases fields with
  | nil =>
      simp only [List.map_nil, commas, Text.joinWith, List.nil_append, object]
      rw [skipSpace_cons (by decide)]
      simp only [↓reduceIte]
  | cons p fields =>
      have hlen : (p :: fields).length ≤ (commas ((p :: fields).map printField)).length := by
        have hall : ∀ t ∈ (p :: fields).map printField, t ≠ [] := by
          intro t ht
          obtain ⟨q, _, rfl⟩ := List.mem_map.mp ht
          exact (printField_opens q).ne_nil
        simpa only [List.length_map] using length_le_commas hall
      have hcollect : collect ((p :: fields).map fun p => (p.1, f p.2)) =
          (p :: fields).map fun p => (p.1, f p.2) := by
        refine collect_of_nodup ?_
        rwa [names, List.map_map]
      obtain ⟨c, t, hc, hopen⟩ := commas_opens (fields.map printField) (printField_opens p)
      have hmembers := members_commas (List.cons_ne_nil p fields) hr
        (n := (c :: t ++ CodePoint.ofChar '}' :: rest).length)
        (by rw [List.map_cons, hc] at hlen; rw [List.length_append]; omega) rest
      rw [List.map_cons, hc, List.cons_append] at hmembers
      rw [List.map_cons, hc, List.cons_append]
      simp only [object]
      rw [skipSpace_cons hopen.not_space]
      simp only [hopen.2.2.2, ↓reduceIte, hmembers]
      simp only [Functor.map, Except.map, hcollect]

theorem valueWith_arr {limit : Nat} {vs : List Json} (hr : ∀ v ∈ vs, ReadsAs item v (f v)) :
    ReadsAs (valueWith limit (some item)) (.arr vs) (.arr (vs.map f)) := by
  intro rest _
  have htext : print escapeMinimal (.arr vs) ++ rest = CodePoint.ofChar '[' ::
      (commas (vs.map (print escapeMinimal)) ++ CodePoint.ofChar ']' :: rest) := by
    rw [print, printItems_eq_map]
    exact congrArg (CodePoint.ofChar '[' :: ·) (List.append_assoc _ _ _)
  have hquote : CodePoint.ofChar '[' ≠ CodePoint.ofChar '"' := by decide
  rw [htext]
  simp only [valueWith, hquote, ↓reduceIte]
  exact array_commas hr rest

theorem valueWith_obj {limit : Nat} {fields : Fields} (hnames : (names fields).Nodup)
    (hr : ∀ p ∈ fields, ReadsAs item p.2 (f p.2)) :
    ReadsAs (valueWith limit (some item)) (.obj fields)
      (.obj (fields.map fun p => (p.1, f p.2))) := by
  intro rest _
  have htext : print escapeMinimal (.obj fields) ++ rest = CodePoint.ofChar '{' ::
      (commas (fields.map printField) ++ CodePoint.ofChar '}' :: rest) := by
    rw [print, printFields_eq_map]
    exact congrArg (CodePoint.ofChar '{' :: ·) (List.append_assoc _ _ _)
  have hquote : CodePoint.ofChar '{' ≠ CodePoint.ofChar '"' := by decide
  have hbracket : CodePoint.ofChar '{' ≠ CodePoint.ofChar '[' := by decide
  rw [htext]
  simp only [valueWith, hquote, hbracket, ↓reduceIte]
  exact object_commas hnames hr rest

end

def isAtom : Json → Bool
  | .arr _ | .obj _ => false
  | _ => true

theorem valueWith_eq_atom {limit : Nat} {item : Option (Reader Json)} {c : CodePoint}
    (hc : c.isDigit = true ∨ c = CodePoint.ofChar '-' ∨ c = CodePoint.ofChar 'N' ∨
      c = CodePoint.ofChar 'I') (t : Text) :
    valueWith limit item (c :: t) = atom limit (c :: t) := by
  have hne : c ≠ CodePoint.ofChar '"' ∧ c ≠ CodePoint.ofChar '[' ∧ c ≠ CodePoint.ofChar '{' := by
    refine ⟨?_, ?_, ?_⟩ <;> rintro rfl <;>
      rcases hc with h | h | h | h <;> exact absurd h (by decide)
  simp only [valueWith, hne, ↓reduceIte]

theorem valueWith_atom {limit depth : Nat} {v : Json} (ha : v.isAtom = true)
    (h : Fits limit depth v) (item : Option (Reader Json)) :
    ReadsAs (valueWith limit item) v v.reread := by
  intro rest hrest
  cases v with
  | null => rfl
  | bool b => cases b <;> rfl
  | int n =>
      have hn : (Numeral.digits n.natAbs).length ≤ limit := by
        cases depth <;> exact h
      have hatom := atom_signedDigits hn hrest
      obtain ⟨c, t, hc, hhead⟩ := signedDigits_head n
      rw [hc, List.cons_append] at hatom
      rw [print, hc, List.cons_append, valueWith_eq_atom (hhead.symm.imp id .inl), hatom]
      rfl
  | float x =>
      have hatom := atom_floatText limit x hrest
      obtain ⟨c, t, hc, hhead⟩ := floatText_head x
      rw [hc, List.cons_append] at hatom
      rw [print, hc, List.cons_append, valueWith_eq_atom hhead, hatom]
      rfl
  | str s =>
      simp only [print, quote, List.cons_append, List.append_assoc, List.nil_append, valueWith,
        ↓reduceIte, stringBody_quoted]
      rfl
  | arr items => cases ha
  | obj fields => cases ha

/-- A value is read from its text where its nesting is allowed. -/
theorem value_print {limit depth : Nat} {v : Json} (h : Fits limit depth v) :
    ReadsAs (value limit depth) v v.reread := by
  induction depth generalizing v with
  | zero =>
      cases v with
      | arr items => exact absurd h (fun h => h)
      | obj fields => exact absurd h (fun h => h)
      | null | bool _ | int _ | float _ | str _ => exact valueWith_atom rfl h none
  | succ depth ih =>
      cases v with
      | arr items =>
          rw [reread, rereadItems_eq_map]
          exact valueWith_arr fun v hv => ih (h v hv)
      | obj fields =>
          rw [reread, rereadFields_eq_map]
          exact valueWith_obj h.1 fun p hp => ih (h.2 p hp)
      | null | bool _ | int _ | float _ | str _ => exact valueWith_atom rfl h _

/-- A value within the limits is read from its line. -/
theorem document_compact_reread {limits : Limits} {v : Json} (h : Fits limits.digits limits.depth v) :
    document limits (compact v) = .ok v.reread := by
  obtain ⟨c, t, hc, hopen⟩ := print_opens v
  have hvalue := value_print h [] Ends.nil
  have hmark : c.val ≠ 0xFEFF := by
    have hlt := hopen.2.1
    omega
  rw [List.append_nil, hc] at hvalue
  simp only [document, compact, hc, List.head?_cons, Option.some.injEq]
  rw [if_neg (fun he => hmark (congrArg CodePoint.val he)), skipSpace_cons hopen.not_space, hvalue]
  rfl

/-- A value within the limits that holds no finite floating-point number reads back. -/
theorem document_compact {limits : Limits} {v : Json}
    (h : Writable limits.digits limits.depth v) : document limits (compact v) = .ok v := by
  rw [document_compact_reread h.1, reread_eq_self h.2]

end Json

end IssueMerge
