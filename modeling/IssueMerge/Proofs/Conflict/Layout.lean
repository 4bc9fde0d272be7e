import IssueMerge.Conflict.Region
import IssueMerge.Proofs.Conflict.Legible

/-!
The layout of a file with conflicts, apart from any walk over it. The lines are divided into single
lines, conflicts from an opening marker to the closing one, and conflicts that another opening marker
or the end cuts off. The lines between the markers of a conflict are those of the head side up to the
first other marker, the text of ancestors up to the divider, and the base side behind it.
-/

namespace IssueMerge

/-- A stretch of a file. -/
inductive Block where
  /-- A line outside conflicts. -/
  | single (line : Text)
  /-- A conflict with both markers. -/
  | conflict (opening : Text) (body : List Text) (closing : Text)
  /-- A conflict without a closing marker. -/
  | unclosed (opening : Text) (body : List Text)

/-- The stretches of a file, in order. -/
abbrev Layout := List Block

namespace Layout

/-- The opening line of a conflict that is open and the lines behind it. -/
abbrev Pending := Option (Text × List Text)

/-- The stretch that ends with a line, if one does, and what is open behind the line. -/
def advance : Pending → Text → Layout × Pending
  | none, line =>
    if LineKind.ofLine line = .opening then ([], some (line, [])) else ([.single line], none)
  | some (opening, body), line =>
    if LineKind.ofLine line = .opening then ([.unclosed opening body], some (line, []))
    else if LineKind.ofLine line = .closing then ([.conflict opening body line], none)
    else ([], some (opening, body ++ [line]))

/-- What is open at the end of a file stays without a closing marker. -/
def leftOpen : Pending → Layout
  | none => []
  | some (opening, body) => [.unclosed opening body]

def divide : Pending → List Text → Layout
  | pending, [] => leftOpen pending
  | pending, line :: rest => (advance pending line).1 ++ divide (advance pending line).2 rest

def ofLines (lines : List Text) : Layout :=
  divide none lines

end Layout

def endsHead (line : Text) : Bool :=
  LineKind.ofLine line = .ancestor || LineKind.ofLine line = .divider

def startsBase (line : Text) : Bool :=
  LineKind.ofLine line = .divider

def headPart (body : List Text) : List Text :=
  body.takeWhile (!endsHead ·)

/-- The marker and the text of ancestors, if there are any. -/
def ancestorPart (body : List Text) : List Text :=
  (body.takeWhile (!startsBase ·)).dropWhile (!endsHead ·)

/-- The base side with the divider in front of it. -/
def dividerPart (body : List Text) : List Text :=
  body.dropWhile (!startsBase ·)

def basePart (body : List Text) : List Text :=
  (dividerPart body).tail

theorem endsHead_of_startsBase {line : Text} (h : startsBase line = true) :
    endsHead line = true := by
  have hdivider : LineKind.ofLine line = .divider := of_decide_eq_true h
  simp [endsHead, hdivider]

theorem headPart_takeWhile (body : List Text) :
    headPart (body.takeWhile (!startsBase ·)) = headPart body := by
  induction body with
  | nil => rfl
  | cons line body ih =>
      cases hs : startsBase line with
      | true => simp [headPart, hs, endsHead_of_startsBase hs]
      | false =>
          simp only [headPart] at ih
          simp only [headPart, List.takeWhile_cons, hs, Bool.not_false, ↓reduceIte, ih]

theorem append_parts (body : List Text) :
    headPart body ++ ancestorPart body ++ dividerPart body = body := by
  rw [← headPart_takeWhile, headPart, ancestorPart, dividerPart,
    List.takeWhile_append_dropWhile, List.takeWhile_append_dropWhile]

/-- Where the line behind the given ones stands in a conflict. -/
def placeBehind (body : List Text) : Place :=
  if body.any startsBase then .base
  else if body.any endsHead then .ancestor
  else .head

namespace Layout

/-- The next line is looked at: it does not stand in the text of ancestors. -/
def Pending.Reads : Pending → Prop
  | none => True
  | some (_, body) => placeBehind body ≠ .ancestor

/-- The next line stands on one of the two sides of a conflict, closed or not. -/
def Pending.onSide : Pending → Bool
  | none => false
  | some (_, body) => placeBehind body ≠ .ancestor

theorem Pending.reads_of_onSide {pending : Pending} (h : pending.onSide = true) : pending.Reads := by
  cases pending with
  | none => trivial
  | some p => simpa [onSide, Reads] using h

/-- The lines that are looked at can be read. -/
def Readable : Pending → List Text → Prop
  | _, [] => True
  | pending, line :: rest =>
    (pending.Reads → Legible line) ∧ Readable (advance pending line).2 rest

theorem readable_of_legible {lines : List Text} (h : ∀ line ∈ lines, Legible line)
    (pending : Pending) : Readable pending lines := by
  induction lines generalizing pending with
  | nil => trivial
  | cons line lines ih =>
      obtain ⟨hline, hlines⟩ := List.forall_mem_cons.mp h
      exact ⟨fun _ => hline, ih hlines _⟩

end Layout

theorem placeBehind_eq_head {body : List Text} :
    placeBehind body = .head ↔ ∀ line ∈ body, endsHead line = false := by
  constructor
  · intro h line hline
    cases hend : endsHead line with
    | false => rfl
    | true =>
        have hany : body.any endsHead = true := List.any_eq_true.mpr ⟨line, hline, hend⟩
        simp only [placeBehind, hany, ↓reduceIte] at h
        split at h <;> cases h
  · intro h
    have hend : body.any endsHead = false := List.any_eq_false.mpr fun l hl => by simp [h l hl]
    have hstart : body.any startsBase = false := by
      refine List.any_eq_false.mpr fun l hl hs => ?_
      exact absurd (endsHead_of_startsBase hs) (by simp [h l hl])
    simp only [placeBehind, hend, hstart, Bool.false_eq_true, ↓reduceIte]

theorem placeBehind_eq_base {body : List Text} :
    placeBehind body = .base ↔ ∃ line ∈ body, startsBase line = true := by
  rw [← List.any_eq_true, placeBehind]
  split
  · next h => simp [h]
  · next h => split <;> simp [h]

theorem placeBehind_of_ne {body : List Text} (hhead : placeBehind body ≠ .head)
    (hancestor : placeBehind body ≠ .ancestor) : placeBehind body = .base := by
  simp only [placeBehind] at hhead hancestor ⊢
  cases hstart : body.any startsBase with
  | true => rfl
  | false =>
      cases hend : body.any endsHead <;> simp [hstart, hend] at hhead hancestor

section

variable (body : List Text)

theorem placeBehind_append {line : Text} (hopen : LineKind.ofLine line ≠ .opening)
    (hclose : LineKind.ofLine line ≠ .closing) :
    placeBehind (body ++ [line]) = (placeBehind body).after (LineKind.ofLine line) := by
  simp only [placeBehind, List.any_append, List.any_cons, List.any_nil, startsBase, endsHead]
  generalize body.any startsBase = started
  generalize body.any endsHead = ended
  cases hk : LineKind.ofLine line with
  | opening => exact absurd hk hopen
  | closing => exact absurd hk hclose
  | blank | ancestor | divider | content => cases started <;> cases ended <;> rfl

variable (line : Text)

theorem headPart_append : headPart (body ++ [line]) =
    if placeBehind body = .head ∧ endsHead line = false then headPart body ++ [line]
    else headPart body := by
  simp only [headPart, placeBehind_eq_head]
  induction body with
  | nil => cases hline : endsHead line <;> simp [hline]
  | cons l body ih =>
      cases hl : endsHead l with
      | true => simp [hl]
      | false =>
          simp only [List.cons_append, List.takeWhile_cons, hl, Bool.not_false, ↓reduceIte, ih,
            List.forall_mem_cons, true_and]
          split <;> rfl

theorem basePart_append : basePart (body ++ [line]) =
    if placeBehind body = .base then basePart body ++ [line] else basePart body := by
  simp only [basePart, dividerPart, placeBehind_eq_base]
  induction body with
  | nil => cases hline : startsBase line <;> simp [hline]
  | cons l body ih =>
      cases hl : startsBase l with
      | true => simp [hl]
      | false =>
          simp only [List.cons_append, List.dropWhile_cons, hl, Bool.not_false, ↓reduceIte, ih]
          simp [hl]

variable {α : Type} {g : Text → Option α}

/-- What is found on the head side when a line is added. Only lines of content count. -/
theorem filterMap_headPart_append (hg : ∀ l, LineKind.ofLine l ≠ .content → g l = none) :
    (headPart (body ++ [line])).filterMap g =
      (headPart body).filterMap g ++ if placeBehind body = .head then (g line).toList else [] := by
  have hline : endsHead line = true → g line = none := by
    intro hend
    refine hg line fun hk => ?_
    rw [endsHead, hk] at hend
    exact absurd hend (by decide)
  rw [headPart_append]
  by_cases hplace : placeBehind body = .head
  · cases hend : endsHead line with
    | true => simp [hplace, hline hend]
    | false =>
        simp only [hplace, and_self, ↓reduceIte, List.filterMap_append]
        cases hv : g line <;> simp [hv]
  · simp [hplace]

theorem filterMap_basePart_append :
    (basePart (body ++ [line])).filterMap g =
      (basePart body).filterMap g ++ if placeBehind body = .base then (g line).toList else [] := by
  rw [basePart_append]
  split
  · rw [List.filterMap_append]
    cases hv : g line <;> simp [hv]
  · simp

end

/-- The line neither opens nor closes a conflict. -/
def Inner (line : Text) : Prop :=
  LineKind.ofLine line ≠ .opening ∧ LineKind.ofLine line ≠ .closing

namespace Block

def lines : Block → List Text
  | single line => [line]
  | conflict opening body closing => opening :: body ++ [closing]
  | unclosed opening body => opening :: body

/-- The lines of a stretch but for the text of ancestors in a conflict. -/
def withoutAncestors : Block → List Text
  | single line => [line]
  | conflict opening body closing => opening :: headPart body ++ dividerPart body ++ [closing]
  | unclosed opening body => opening :: body

def outside : Block → List Text
  | single line => [line]
  | conflict _ _ _ => []
  | unclosed opening body => opening :: body

def Marked : Block → Prop
  | conflict opening _ closing =>
      LineKind.ofLine opening = .opening ∧ LineKind.ofLine closing = .closing
  | single _ | unclosed _ _ => True

/-- The markers stand where the division puts them: none that opens a conflict outside, and none that
opens or closes one between the ends of a conflict. -/
def Formed : Block → Prop
  | single line => LineKind.ofLine line ≠ .opening
  | conflict opening body closing =>
      LineKind.ofLine opening = .opening ∧ (∀ line ∈ body, Inner line) ∧
        LineKind.ofLine closing = .closing
  | unclosed opening body => LineKind.ofLine opening = .opening ∧ ∀ line ∈ body, Inner line

def region? (number : Nat) : Block → Option Region
  | conflict _ body _ => some {
      openLine := number
      closeLine := number + body.length + 1
      head := (headPart body).filterMap Record.on?
      base := (basePart body).filterMap Record.on? }
  | single _ | unclosed _ _ => none

end Block

namespace Layout

/-- The regions of a layout whose first line has the given number. -/
def regionsFrom : (number : Nat) → Layout → List Region
  | _, [] => []
  | number, block :: rest =>
    (block.region? number).toList ++ regionsFrom (number + block.lines.length) rest

theorem regionsFrom_append (number : Nat) (front back : Layout) :
    regionsFrom number (front ++ back) = regionsFrom number front ++
      regionsFrom (number + (front.flatMap Block.lines).length) back := by
  induction front generalizing number with
  | nil => rfl
  | cons block front ih =>
      simp only [List.cons_append, regionsFrom, ih, List.flatMap_cons, List.length_append,
        List.append_assoc, Nat.add_assoc]

def Pending.lines : Pending → List Text
  | none => []
  | some (opening, body) => opening :: body

theorem lines_advance (pending : Pending) (line : Text) :
    (advance pending line).1.flatMap Block.lines ++ (advance pending line).2.lines =
      pending.lines ++ [line] := by
  cases pending with
  | none =>
      simp only [advance]
      split <;> rfl
  | some p =>
      simp only [advance]
      split
      · simp [Block.lines, Pending.lines]
      · split <;> simp [Block.lines, Pending.lines]

theorem flatMap_lines_divide (pending : Pending) (lines : List Text) :
    (divide pending lines).flatMap Block.lines = pending.lines ++ lines := by
  induction lines generalizing pending with
  | nil => cases pending <;> simp [divide, leftOpen, Block.lines, Pending.lines]
  | cons line lines ih =>
      rw [divide, List.flatMap_append, ih, ← List.append_assoc, lines_advance, List.append_assoc,
        List.singleton_append]

/-- A layout leaves out no line and adds none. -/
theorem flatMap_lines (lines : List Text) : (ofLines lines).flatMap Block.lines = lines :=
  flatMap_lines_divide none lines

/-- The lines of a file but for the text of ancestors in its conflicts. -/
def withoutAncestors (lines : List Text) : List Text :=
  (ofLines lines).flatMap Block.withoutAncestors

/-- The lines of a file outside its conflicts. -/
def outside (lines : List Text) : List Text :=
  (ofLines lines).flatMap Block.outside

def Pending.Formed (pending : Pending) : Prop :=
  ∀ p ∈ pending, LineKind.ofLine p.1 = .opening ∧ ∀ line ∈ p.2, Inner line

theorem formed_advance {pending : Pending} (h : pending.Formed) (line : Text) :
    (∀ block ∈ (advance pending line).1, block.Formed) ∧ (advance pending line).2.Formed := by
  cases pending with
  | none =>
      by_cases hopen : LineKind.ofLine line = .opening <;>
        simp [advance, hopen, Block.Formed, Pending.Formed]
  | some p =>
      obtain ⟨hp, hbody⟩ := h p rfl
      by_cases hopen : LineKind.ofLine line = .opening
      · simp only [advance, hopen, ↓reduceIte, List.forall_mem_singleton]
        exact ⟨⟨hp, hbody⟩, by simp [Pending.Formed, hopen]⟩
      · by_cases hclose : LineKind.ofLine line = .closing
        · simp only [advance, hclose, reduceCtorEq, ↓reduceIte, List.forall_mem_singleton]
          exact ⟨⟨hp, hbody, hclose⟩, by simp [Pending.Formed]⟩
        · simp only [advance, hclose, hopen, ↓reduceIte]
          refine ⟨by simp, ?_⟩
          rintro _ ⟨⟩
          refine ⟨hp, fun l hl => ?_⟩
          cases List.mem_append.mp hl with
          | inl hl => exact hbody l hl
          | inr hl =>
              rw [List.mem_singleton.mp hl]
              exact ⟨hopen, hclose⟩

theorem formed_divide {pending : Pending} (h : pending.Formed) (lines : List Text) :
    ∀ block ∈ divide pending lines, block.Formed := by
  induction lines generalizing pending with
  | nil =>
      cases pending with
      | none => exact fun _ hblock => absurd hblock List.not_mem_nil
      | some p =>
          rintro _ hblock
          rw [List.mem_singleton.mp hblock]
          exact h p rfl
  | cons line lines ih =>
      obtain ⟨hblocks, hpending⟩ := formed_advance h line
      intro block hblock
      cases List.mem_append.mp hblock with
      | inl hblock => exact hblocks block hblock
      | inr hblock => exact ih hpending block hblock

theorem formed_ofLines (lines : List Text) : ∀ block ∈ ofLines lines, block.Formed := by
  apply formed_divide
  intro p hp
  cases hp

theorem marked_ofLines (lines : List Text) : ∀ block ∈ ofLines lines, block.Marked := by
  intro block hblock
  have hformed := formed_ofLines lines block hblock
  cases block with
  | single _ | unclosed _ _ => trivial
  | conflict _ _ _ => exact ⟨hformed.1, hformed.2.2⟩

end Layout

end IssueMerge
