import IssueMerge.Proofs.Reference.Mentions
import Mathlib.Algebra.Order.BigOperators.Group.List
import Mathlib.Algebra.Order.Group.Nat

/-!
What rewriting does to a text that is the mention of one id. The characters of an id are word
characters, hyphens and points, and it may have the ids that are replaced in it. It is left alone if
they are tied to the rest of it by word characters and hyphens, or by a point in front of a word
character behind them. An id behind a point, or in front of a point that a hyphen or another point
follows, is not: it is taken for a mention of its own.
-/

namespace IssueMerge

/-- The form of ids: word characters, hyphens and points, with a word character at either end. -/
structure Text.IsIdentifier (t : Text) : Prop where
  chars : ∀ c ∈ t, c.isGlue = true ∨ c = CodePoint.ofChar '.'
  first : ∃ c ∈ t.head?, c.isWord = true
  last : ∃ c ∈ t.getLast?, c.isWord = true

instance (t : Text) : Decidable t.IsIdentifier :=
  decidable_of_iff ((∀ c ∈ t, c.isGlue = true ∨ c = CodePoint.ofChar '.') ∧
      t.head?.any CodePoint.isWord = true ∧ t.getLast?.any CodePoint.isWord = true) <| by
    simp only [Option.any_eq_true]
    exact ⟨fun h => ⟨h.1, h.2.1, h.2.2⟩, fun h => ⟨h.chars, h.first, h.last⟩⟩

/-- The id stands in the text with nothing or a point in front of it, and behind it with nothing or a
point that no word character follows. -/
def Text.Exposes (text id : Text) : Prop :=
  ∃ before behind, text = before ++ id ++ behind ∧
    (before = [] ∨ before.getLast? = some (CodePoint.ofChar '.')) ∧
    (behind = [] ∨ ∃ c rest, behind = CodePoint.ofChar '.' :: c :: rest ∧ c.isWord = false)

theorem CodePoint.isGlue_of_isWord {c : CodePoint} (h : c.isWord = true) : c.isGlue = true := by
  simp [isGlue, h]

theorem CodePoint.isGlue_point : (CodePoint.ofChar '.').isGlue = false := by decide +kernel

namespace Text

variable {text id : Text}

theorem IsIdentifier.ne_nil (h : text.IsIdentifier) : text ≠ [] := by
  obtain ⟨c, hc, _⟩ := h.first
  rintro rfl
  cases hc

theorem Exposes.hasToken (h : text.Exposes id) : ∃ place, text.HasToken id place := by
  obtain ⟨before, behind, htext, hbefore, hbehind⟩ := h
  refine ⟨before.length, before, behind, htext, rfl, ?_, ?_, ?_⟩
  · intro c hc
    cases hbefore with
    | inl hnil => simp [hnil] at hc
    | inr hpoint =>
        cases hpoint.symm.trans hc
        exact CodePoint.isGlue_point
  · intro c hc
    cases hbehind with
    | inl hnil => simp [hnil] at hc
    | inr hpoint =>
        obtain ⟨d, rest, rfl, _⟩ := hpoint
        cases hc
        exact CodePoint.isGlue_point
  · intro c rest hchild
    cases hbehind with
    | inl hnil => simp [hnil] at hchild
    | inr hpoint =>
        obtain ⟨d, rest', rfl, hd⟩ := hpoint
        cases hchild
        exact hd

/-- In an id a point is the only character that is not tied to ids, and it is not the last one. -/
theorem IsIdentifier.exposes_of_hasToken (h : text.IsIdentifier) {place : Nat}
    (htoken : text.HasToken id place) : text.Exposes id := by
  obtain ⟨before, behind, rfl, _, hwhole⟩ := htoken
  have hpoint : ∀ c ∈ before ++ id ++ behind, c.isGlue = false → c = CodePoint.ofChar '.' := by
    intro c hc hloose
    cases h.chars c hc with
    | inl hglue => simp [hloose] at hglue
    | inr hpoint => exact hpoint
  refine ⟨before, behind, rfl, ?_, ?_⟩
  · cases hlast : before.getLast? with
    | none => exact .inl (List.getLast?_eq_none_iff.mp hlast)
    | some c =>
        have hmem := List.mem_of_getLast? hlast
        rw [hpoint c (by simp [hmem]) (hwhole.loose_before c hlast)]
        exact .inr rfl
  · cases behind with
    | nil => exact .inl rfl
    | cons c behind =>
        obtain rfl := hpoint c (by simp) (hwhole.loose_behind c rfl)
        obtain ⟨last, hlast, hword⟩ := h.last
        cases behind with
        | nil =>
            rw [List.getLast?_append_cons] at hlast
            cases hlast
            exact absurd (CodePoint.isGlue_of_isWord hword) (by simp [CodePoint.isGlue_point])
        | cons d rest => exact .inr ⟨d, rest, rfl, hwhole.no_child d rest rfl⟩

end Text

namespace Span

variable {ids : List Text} {spans : List Span} {id : Text}

/-- Cutting a text leaves out no character but those that are accounted for, and adds none. -/
theorem flatMap_text_cut (ids : List Text) (skip : Nat) (previous : Option CodePoint)
    (text : Text) :
    (cut ids skip previous text).flatMap Span.text = text.drop skip := by
  induction text generalizing skip previous with
  | nil =>
      rw [cut, List.drop_nil]
      split
      · next id hat =>
        rw [List.prefix_nil.mp (Mention.prefix_of_at? hat)]
        rfl
      · rfl
  | cons c rest ih =>
      cases skip with
      | succ skip => exact ih skip (some c)
      | zero =>
          rw [cut]
          split
          · exact congrArg (c :: ·) (ih 0 (some c))
          · exact congrArg (c :: ·) (ih 0 (some c))
          · next d id hat =>
            obtain ⟨rfl, hid⟩ := List.cons_prefix_cons.mp (Mention.prefix_of_at? hat)
            obtain ⟨behind, rfl⟩ := hid
            rw [List.flatMap_cons, ih, List.drop_left]
            rfl

theorem flatMap_text_ofText (ids : List Text) (text : Text) :
    (ofText ids text).flatMap Span.text = text :=
  flatMap_text_cut (Mention.alternatives ids) 0 none text

theorem mention_mem_iff (start : Nat) :
    mention id ∈ spans ↔ ∃ m ∈ mentions start spans, m.2 = id := by
  induction spans generalizing start with
  | nil => simp [mentions]
  | cons span spans ih =>
      cases span with
      | mention other =>
          rw [mentions, List.mem_cons, List.exists_mem_cons_iff, mention.injEq, eq_comm]
          exact or_congr_right (ih _)
      | other c =>
          rw [mentions, ← ih, List.mem_cons]
          exact or_iff_right fun h => by cases h

section

variable (hids : ∀ id ∈ ids, id ≠ []) {text : Text}

include hids

theorem mem_of_mention (h : mention id ∈ ofText ids text) :
    id ∈ ids ∧ ∃ place, text.HasToken id place := by
  have hfinds : Mention.Finds ids text 0 (mentions 0 (ofText ids text)) :=
    finds_cut hids [] (Nat.zero_le _)
  obtain ⟨m, hm, rfl⟩ := (mention_mem_iff 0).mp h
  obtain ⟨hid, htoken⟩ := hfinds.sound m hm
  exact ⟨hid, m.1, htoken⟩

theorem exists_mention {place : Nat} (hid : id ∈ ids) (h : text.HasToken id place) :
    ∃ other, mention other ∈ ofText ids text := by
  have hfinds : Mention.Finds ids text 0 (mentions 0 (ofText ids text)) :=
    finds_cut hids [] (Nat.zero_le _)
  obtain ⟨m, hm, _⟩ := hfinds.complete id hid place (Nat.zero_le _) h
  exact ⟨m.2, (mention_mem_iff 0).mpr ⟨m, hm, rfl⟩⟩

end

end Span

namespace RemapTable

variable {table : RemapTable} {ids : List Text} {text : Text}

theorem rewriteText_eq_self (h : ∀ id, Span.mention id ∉ Span.ofText table.ids text) :
    table.rewriteText text = text := by
  simp only [rewriteText]
  split
  · rfl
  · refine .trans (List.flatMap_congr fun span hspan => ?_) (Span.flatMap_text_ofText table.ids text)
    cases span with
    | mention id => exact absurd hspan (h id)
    | other c => rfl

/-- The table that puts nothing in the place of some ids. -/
def erasing (ids : List Text) : RemapTable :=
  ids.map fun id => (id, [])

@[simp]
theorem ids_erasing (ids : List Text) : (erasing ids).ids = ids := by
  simp [erasing, RemapTable.ids, Function.comp_def]

theorem find?_erasing {id : Text} (h : id ∈ ids) : (erasing ids).find? id = some [] := by
  have hsome : (ids.find? fun other => other = id).isSome = true :=
    List.find?_isSome.mpr ⟨id, h, decide_eq_true rfl⟩
  obtain ⟨other, hother⟩ := Option.isSome_iff_exists.mp hsome
  rw [find?, erasing, List.find?_map, Function.comp_def, hother]
  rfl

/-- A text in which an id is mentioned becomes shorter when nothing is put in the place of the ids. -/
theorem length_rewriteText_erasing (hids : ∀ id ∈ ids, id ≠ []) {id : Text}
    (h : Span.mention id ∈ Span.ofText ids text) :
    ((erasing ids).rewriteText text).length < text.length := by
  obtain ⟨hid, place, before, behind, htext, _⟩ := Span.mem_of_mention hids h
  have hnonempty : ¬ (text = [] ∨ erasing ids = []) := by
    intro hempty
    cases hempty with
    | inl hnil => simp [hnil, hids id hid] at htext
    | inr hnil => simp [List.map_eq_nil_iff.mp hnil] at hid
  have hspan : ∀ span ∈ Span.ofText ids text,
      ((erasing ids).replaceSpan span).length ≤ span.text.length := by
    intro span hspan
    cases span with
    | mention other =>
        rw [replaceSpan, find?_erasing (Span.mem_of_mention hids hspan).1]
        exact Nat.zero_le _
    | other c => exact Nat.le_refl _
  have hshorter :
      ((erasing ids).replaceSpan (.mention id)).length < (Span.mention id).text.length := by
    rw [replaceSpan, find?_erasing hid]
    exact List.length_pos_of_ne_nil (hids id hid)
  rw [rewriteText, if_neg hnonempty, ids_erasing]
  calc ((Span.ofText ids text).flatMap (erasing ids).replaceSpan).length
      < ((Span.ofText ids text).flatMap Span.text).length := by
        rw [List.length_flatMap, List.length_flatMap]
        exact List.sum_lt_sum _ _ hspan ⟨_, h, hshorter⟩
    _ = text.length := by rw [Span.flatMap_text_ofText]

end RemapTable

/-- Whatever ids are replaced by, a text that has the form of an id is left alone if and only if none
of them is exposed in it. -/
theorem left_alone_iff_not_exposed {table : RemapTable} (hids : ∀ id ∈ table.ids, id.IsIdentifier)
    {text : Text} (htext : text.IsIdentifier) :
    (∀ table' : RemapTable, table'.ids = table.ids → table'.rewriteText text = text) ↔
      ∀ id ∈ table.ids, ¬ text.Exposes id := by
  have hne : ∀ id ∈ table.ids, id ≠ [] := fun id hid => (hids id hid).ne_nil
  constructor
  · intro hsame id hid hexposes
    obtain ⟨place, htoken⟩ := hexposes.hasToken
    obtain ⟨other, hother⟩ := Span.exists_mention hne hid htoken
    have hshorter := RemapTable.length_rewriteText_erasing hne hother
    rw [hsame _ (RemapTable.ids_erasing table.ids)] at hshorter
    exact Nat.lt_irrefl _ hshorter
  · intro hnone table' hsame
    refine RemapTable.rewriteText_eq_self fun id hmention => ?_
    rw [hsame] at hmention
    obtain ⟨hid, place, htoken⟩ := Span.mem_of_mention hne hmention
    exact hnone id hid (htext.exposes_of_hasToken htoken)

/-- Ids that stand in another one, each tied to the rest of it. -/
def partsTable : RemapTable :=
  [("bd-1", "bd-6"), ("1", "7"), ("sub", "main")]

theorem left_alone_iff_not_exposed_partsTable : (∀ id ∈ partsTable.ids, id.IsIdentifier) ∧
    Text.IsIdentifier "sub-bd-1.2" ∧ (∀ id ∈ partsTable.ids, ¬ Text.Exposes "sub-bd-1.2" id) ∧
      partsTable.rewriteText "sub-bd-1.2" = Text.ofString "sub-bd-1.2" := by
  have hids : ∀ id ∈ partsTable.ids, id.IsIdentifier := by decide +kernel
  have htext : Text.IsIdentifier "sub-bd-1.2" := by decide +kernel
  have hcut : Span.ofText partsTable.ids "sub-bd-1.2" =
      (Text.ofString "sub-bd-1.2").map Span.other := by decide +kernel
  have hnone : ∀ id ∈ partsTable.ids, ¬ Text.Exposes "sub-bd-1.2" id := by
    intro id hid hexposes
    obtain ⟨place, htoken⟩ := hexposes.hasToken
    obtain ⟨other, hother⟩ := Span.exists_mention (fun id hid => (hids id hid).ne_nil) hid htoken
    simp [hcut] at hother
  exact ⟨hids, htext, hnone, (left_alone_iff_not_exposed hids htext).mpr hnone partsTable rfl⟩

/-- An id that stands behind a point in another one is replaced there, and so is one in front of a
point that a hyphen follows. -/
theorem part_replaced_behind_point : ∃ table : RemapTable,
    (∀ id ∈ table.ids, id.IsIdentifier) ∧
    Text.IsIdentifier "web.ui-3" ∧ Text.ofString "web.ui-3" ∉ table.ids ∧
      table.rewriteText "web.ui-3" = Text.ofString "web.ui-9" ∧
    Text.IsIdentifier "ui-3.-b" ∧ Text.ofString "ui-3.-b" ∉ table.ids ∧
      table.rewriteText "ui-3.-b" = Text.ofString "ui-9.-b" :=
  ⟨[("ui-3", "ui-9")], by decide +kernel⟩

end IssueMerge
