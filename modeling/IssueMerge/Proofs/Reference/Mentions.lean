import IssueMerge.Proofs.Reference.Tokens

/-!
The mentions that are found in a text, for ids of any characters. Each of them is a whole token and the
longest id that is one at its place, they do not overlap, and no id that stands in the text as a whole
token is missed unless a mention that starts before it takes some of it.
-/

namespace IssueMerge

/-- What stands in front of an id and behind it leaves it a whole token: no character on either side
is tied to it, and no point that a word character follows stands behind it. -/
structure Mention.Whole (before behind : Text) : Prop where
  loose_before : ∀ c ∈ before.getLast?, c.isGlue = false
  loose_behind : ∀ c ∈ behind.head?, c.isGlue = false
  no_child : ∀ c rest, behind = CodePoint.ofChar '.' :: c :: rest → c.isWord = false

/-- The id stands at a place in the text as a whole token. -/
def Text.HasToken (text id : Text) (start : Nat) : Prop :=
  ∃ before behind, text = before ++ id ++ behind ∧ before.length = start ∧
    Mention.Whole before behind

namespace Text

theorem lexLE_total (s t : Text) : s.lexLE t = true ∨ t.lexLE s = true := by
  induction s generalizing t with
  | nil => exact .inl rfl
  | cons a s ih =>
      cases t with
      | nil => exact .inr rfl
      | cons b t =>
          have hrest := ih t
          simp only [lexLE, Bool.or_eq_true, Bool.and_eq_true, decide_eq_true_eq, beq_iff_eq]
          obtain hlt | heq | hgt := Nat.lt_trichotomy a.val b.val
          · exact .inl (.inl hlt)
          · exact hrest.imp (fun h => .inr ⟨heq, h⟩) fun h => .inr ⟨heq.symm, h⟩
          · exact .inr (.inl hgt)

theorem lexLE_trans {s t u : Text} (hst : s.lexLE t = true) (htu : t.lexLE u = true) :
    s.lexLE u = true := by
  induction s generalizing t u with
  | nil => rfl
  | cons a s ih =>
      cases t with
      | nil => cases hst
      | cons b t =>
          cases u with
          | nil => cases htu
          | cons c u =>
              simp only [lexLE, Bool.or_eq_true, Bool.and_eq_true, decide_eq_true_eq,
                beq_iff_eq] at hst htu ⊢
              by_cases hsame : a.val = b.val ∧ b.val = c.val
              · have hrest := ih (hst.resolve_left (by omega)).2 (htu.resolve_left (by omega)).2
                exact .inr ⟨hsame.1.trans hsame.2, hrest⟩
              · exact .inl (by omega)

end Text

namespace Mention

theorem triedBefore_iff {a b : Text} : triedBefore a b = true ↔
    b.length < a.length ∨ a.length = b.length ∧ a.lexLE b = true := by
  simp [triedBefore]

theorem triedBefore_total (a b : Text) : triedBefore a b = true ∨ triedBefore b a = true := by
  rw [triedBefore_iff, triedBefore_iff]
  obtain hlt | heq | hgt := Nat.lt_trichotomy a.length b.length
  · exact .inr (.inl hlt)
  · exact (a.lexLE_total b).imp (fun h => .inr ⟨heq, h⟩) fun h => .inr ⟨heq.symm, h⟩
  · exact .inl (.inl hgt)

theorem triedBefore_trans {a b c : Text} (hab : triedBefore a b = true)
    (hbc : triedBefore b c = true) : triedBefore a c = true := by
  rw [triedBefore_iff] at hab hbc ⊢
  by_cases hsame : a.length = b.length ∧ b.length = c.length
  · have hlex := Text.lexLE_trans (hab.resolve_left (by omega)).2 (hbc.resolve_left (by omega)).2
    exact .inr ⟨hsame.1.trans hsame.2, hlex⟩
  · exact .inl (by omega)

theorem pairwise_insert {id : Text} {ids : List Text} (h : ids.Pairwise (triedBefore · ·)) :
    (insert id ids).Pairwise (triedBefore · ·) := by
  induction ids with
  | nil => exact List.pairwise_singleton _ id
  | cons first rest ih =>
      obtain ⟨hfirst, hrest⟩ := List.pairwise_cons.mp h
      rw [insert]
      split
      · next hbefore =>
        refine List.pairwise_cons.mpr ⟨List.forall_mem_cons.mpr ⟨hbefore, ?_⟩, h⟩
        exact fun other hother => triedBefore_trans hbefore (hfirst other hother)
      · next hbehind =>
        refine List.pairwise_cons.mpr ⟨fun other hother => ?_, ih hrest⟩
        cases mem_insert.mp hother with
        | inl heq => exact heq ▸ (triedBefore_total first id).resolve_right hbehind
        | inr hmem => exact hfirst other hmem

/-- The ids are tried in their order. -/
theorem pairwise_alternatives (ids : List Text) :
    (alternatives ids).Pairwise (triedBefore · ·) := by
  rw [alternatives]
  induction ids.eraseDups with
  | nil => exact .nil
  | cons first rest ih => exact pairwise_insert ih

theorem mayStart_eq_true {previous : Option CodePoint} :
    mayStart previous = true ↔ ∀ c ∈ previous, c.isGlue = false := by
  cases previous <;> simp [mayStart]

theorem mayEnd_eq_true {behind : Text} :
    mayEnd behind = true ↔ (∀ c ∈ behind.head?, c.isGlue = false) ∧
      ∀ c rest, behind = CodePoint.ofChar '.' :: c :: rest → c.isWord = false := by
  cases behind with
  | nil => simp [mayEnd]
  | cons c rest =>
      cases rest with
      | nil => simp [mayEnd]
      | cons d rest =>
          by_cases hpoint : c = CodePoint.ofChar '.' <;> simp [mayEnd, hpoint]

variable {ids : List Text} {before rest id : Text}

/-- At the place that a search has come to, the two tests of the search say whether an id stands
there. -/
theorem hasToken_iff : (before ++ rest).HasToken id before.length ↔
    mayStart before.getLast? = true ∧ isAt rest id = true := by
  simp only [isAt, Bool.and_eq_true, List.isPrefixOf_iff_prefix, mayStart_eq_true]
  constructor
  · rintro ⟨before', behind, heq, hlength, hwhole⟩
    rw [List.append_assoc] at heq
    obtain ⟨rfl, rfl⟩ := List.append_inj heq hlength.symm
    refine ⟨hwhole.loose_before, List.prefix_append id behind, ?_⟩
    rw [List.drop_left]
    exact mayEnd_eq_true.mpr ⟨hwhole.loose_behind, hwhole.no_child⟩
  · rintro ⟨hstart, ⟨behind, rfl⟩, hend⟩
    rw [List.drop_left] at hend
    obtain ⟨hbehind, hchild⟩ := mayEnd_eq_true.mp hend
    exact ⟨before, behind, (List.append_assoc ..).symm, rfl, hstart, hbehind, hchild⟩

/-- The first of the ids that fits is none shorter than any other that does. -/
theorem length_le_of_find? {fits : Text → Bool} (h : (alternatives ids).find? fits = some id)
    {other : Text} (hother : other ∈ ids) (hfits : fits other = true) :
    other.length ≤ id.length := by
  obtain ⟨_, before, behind, hsplit, hbefore⟩ := List.find?_eq_some_iff_append.mp h
  have hordered := pairwise_alternatives ids
  rw [hsplit, List.pairwise_append] at hordered
  have hmem := mem_alternatives.mpr hother
  rw [hsplit, List.mem_append, List.mem_cons] at hmem
  obtain hskipped | rfl | hbehind := hmem
  · exact absurd hfits (by simpa using hbefore other hskipped)
  · exact Nat.le_refl _
  · have hlater := (List.pairwise_cons.mp hordered.2.1).1 other hbehind
    have hlength := triedBefore_iff.mp hlater
    omega

/-- What is found at a place is the longest id that stands there. -/
theorem at?_eq_some (h : at? (alternatives ids) before.getLast? rest = some id) :
    id ∈ ids ∧ (before ++ rest).HasToken id before.length ∧
      ∀ other ∈ ids, (before ++ rest).HasToken other before.length → other.length ≤ id.length := by
  rw [at?] at h
  split at h
  · next hstart =>
    have hid := mem_alternatives.mp (List.mem_of_find?_eq_some h)
    refine ⟨hid, hasToken_iff.mpr ⟨hstart, List.find?_some h⟩, fun other hother htoken => ?_⟩
    exact length_le_of_find? h hother (hasToken_iff.mp htoken).2
  · cases h

theorem at?_eq_none (h : at? (alternatives ids) before.getLast? rest = none) :
    ∀ id ∈ ids, ¬ (before ++ rest).HasToken id before.length := by
  intro id hid htoken
  obtain ⟨hstart, hat⟩ := hasToken_iff.mp htoken
  rw [at?_eq_find? hstart] at h
  exact List.find?_eq_none.mp h id (mem_alternatives.mpr hid) hat

theorem prefix_of_at? {previous : Option CodePoint} (h : at? ids previous rest = some id) :
    id <+: rest := by
  rw [at?] at h
  split at h
  · have hat : isAt rest id = true := List.find?_some h
    rw [isAt, Bool.and_eq_true] at hat
    exact List.isPrefixOf_iff_prefix.mp hat.1
  · cases h

/-- What a search through a text finds from a place on: mentions with the places at which they
start. -/
structure Finds (ids : List Text) (text : Text) (start : Nat) (found : List (Nat × Text)) : Prop where
  within : ∀ m ∈ found, start ≤ m.1
  /-- One mention ends before the next one starts. -/
  apart : found.Pairwise fun m m' => m.1 + m.2.length ≤ m'.1
  /-- Each mention is an id that stands there as a whole token. -/
  sound : ∀ m ∈ found, m.2 ∈ ids ∧ text.HasToken m.2 m.1
  /-- No longer id does. -/
  longest : ∀ m ∈ found, ∀ id ∈ ids, text.HasToken id m.1 → id.length ≤ m.2.length
  /-- Where an id stands as a whole token, a mention starts, or one goes on that started before. -/
  complete : ∀ id ∈ ids, ∀ place, start ≤ place → text.HasToken id place →
    ∃ m ∈ found, m.1 ≤ place ∧ place < m.1 + m.2.length

namespace Finds

variable {text : Text} {start : Nat} {found : List (Nat × Text)}

theorem nil (hids : ∀ id ∈ ids, id ≠ []) : Finds ids text text.length [] := by
  refine ⟨nofun, .nil, nofun, nofun, ?_⟩
  rintro id hid place hplace ⟨before, behind, htext, rfl, _⟩
  have hpos := List.length_pos_of_ne_nil (hids id hid)
  have hlength := congrArg List.length htext
  simp only [List.length_append] at hlength
  omega

theorem pass (h : Finds ids text (start + 1) found) (hnone : ∀ id ∈ ids, ¬ text.HasToken id start) :
    Finds ids text start found := by
  refine ⟨fun m hm => Nat.le_of_succ_le (h.within m hm), h.apart, h.sound, h.longest, ?_⟩
  intro id hid place hplace htoken
  have hne : place ≠ start := by
    rintro rfl
    exact hnone id hid htoken
  exact h.complete id hid place (by omega) htoken

theorem cons (h : Finds ids text (start + id.length) found) (hid : id ∈ ids)
    (htoken : text.HasToken id start)
    (hlongest : ∀ other ∈ ids, text.HasToken other start → other.length ≤ id.length) :
    Finds ids text start ((start, id) :: found) := by
  refine ⟨?_, List.pairwise_cons.mpr ⟨h.within, h.apart⟩,
    List.forall_mem_cons.mpr ⟨⟨hid, htoken⟩, h.sound⟩,
    List.forall_mem_cons.mpr ⟨hlongest, h.longest⟩, ?_⟩
  · refine List.forall_mem_cons.mpr ⟨Nat.le_refl start, fun m hm => ?_⟩
    have hwithin := h.within m hm
    omega
  · intro other hother place hplace htoken'
    by_cases hinside : place < start + id.length
    · exact ⟨_, List.mem_cons_self, hplace, hinside⟩
    · obtain ⟨m, hm, hcover⟩ := h.complete other hother place (by omega) htoken'
      exact ⟨m, List.mem_cons_of_mem _ hm, hcover⟩

end Finds

end Mention

namespace Span

variable {ids : List Text}

/-- A search that stands behind some text, the first characters of the rest being part of a mention
that was found. -/
theorem finds_cut (hids : ∀ id ∈ ids, id ≠ []) {rest : Text} (before : Text) {skip : Nat}
    (hskip : skip ≤ rest.length) :
    Mention.Finds ids (before ++ rest) (before.length + skip)
      (mentions (before.length + skip)
        (cut (Mention.alternatives ids) skip before.getLast? rest)) := by
  induction rest generalizing before skip with
  | nil =>
      have hzero : skip = 0 := Nat.le_zero.mp hskip
      have hnil : Mention.at? (Mention.alternatives ids) before.getLast? [] = none := by
        cases hat : Mention.at? (Mention.alternatives ids) before.getLast? [] with
        | none => rfl
        | some id =>
            obtain ⟨hid, _⟩ := Mention.at?_eq_some hat
            exact absurd (List.prefix_nil.mp (Mention.prefix_of_at? hat)) (hids id hid)
      simp only [hzero, cut, hnil, mentions, List.append_nil, Nat.add_zero]
      exact .nil hids
  | cons c rest ih =>
      have hbehind : before ++ c :: rest = before ++ [c] ++ rest := by
        rw [List.append_assoc, List.singleton_append]
      have hlast : some c = (before ++ [c]).getLast? := by rw [List.getLast?_append_cons]; rfl
      have hlength : (before ++ [c]).length = before.length + 1 := List.length_append
      cases skip with
      | succ skip =>
          have hrest := ih (before ++ [c]) (Nat.le_of_succ_le_succ hskip)
          rw [hlength, Nat.add_assoc, Nat.add_comm 1, ← hlast, ← hbehind] at hrest
          exact hrest
      | zero =>
          rw [Nat.add_zero, cut]
          cases hat : Mention.at? (Mention.alternatives ids) before.getLast? (c :: rest) with
          | none =>
              have hrest := ih (before ++ [c]) (Nat.zero_le _)
              rw [hlength, Nat.add_zero, ← hlast, ← hbehind] at hrest
              exact hrest.pass (Mention.at?_eq_none hat)
          | some id =>
              obtain ⟨hid, htoken, hlongest⟩ := Mention.at?_eq_some hat
              cases id with
              | nil => exact absurd rfl (hids [] hid)
              | cons d id =>
                  have hprefix := (Mention.prefix_of_at? hat).length_le
                  have hrest := ih (before ++ [c]) (Nat.le_of_succ_le_succ hprefix)
                  rw [hlength, Nat.add_assoc, Nat.add_comm 1, ← hlast, ← hbehind] at hrest
                  exact hrest.cons hid htoken hlongest

end Span

/-- The mentions of ids in a text are found soundly and completely: one after the other, each the
longest id that stands at its place as a whole token, and no such id is missed but where a mention
overlaps it that starts before. -/
theorem mentions_sound_complete {ids : List Text} (hids : ∀ id ∈ ids, id ≠ []) (text : Text) :
    Mention.Finds ids text 0 (Span.mentions 0 (Span.ofText ids text)) :=
  Span.finds_cut hids [] (Nat.zero_le _)

/-- Ids that are prefixes of others, with blanks and points in them, and two that overlap. -/
def overlappingIds : List Text :=
  ["a", "a b", "b c", "bd-1", "bd-1.2", "1.2"]

theorem mentions_sound_complete_overlappingIds : (∀ id ∈ overlappingIds, id ≠ []) ∧
    ∃ found, found = Span.mentions 0
        (Span.ofText overlappingIds "a bc; a b c, bd-1.2 bd-1.3 (bd-1).") ∧
      found = ([(0, "a"), (6, "a b"), (13, "bd-1.2"), (28, "bd-1")] : List (Nat × Text)) ∧
      Mention.Finds overlappingIds "a bc; a b c, bd-1.2 bd-1.3 (bd-1)." 0 found := by
  have hids : ∀ id ∈ overlappingIds, id ≠ [] := by decide
  have hfound : Span.mentions 0
      (Span.ofText overlappingIds "a bc; a b c, bd-1.2 bd-1.3 (bd-1).") =
        ([(0, "a"), (6, "a b"), (13, "bd-1.2"), (28, "bd-1")] : List (Nat × Text)) := by
    decide +kernel
  exact ⟨hids, _, rfl, hfound, mentions_sound_complete hids _⟩

end IssueMerge
