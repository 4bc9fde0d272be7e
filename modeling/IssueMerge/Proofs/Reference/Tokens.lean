import IssueMerge.Reference.Rewrite
import Mathlib.Data.List.SplitBy

/-!
Rewriting free text renames tokens. A text falls into runs of characters that are all tied to ids or
all not; where ids consist of such characters, the mentions in it are exactly the runs that are ids,
apart from those that a point and a word character follow.
-/

namespace IssueMerge

/-- The longest runs of a text whose characters are all tied to ids or all not. -/
def Text.runs (text : Text) : List Text :=
  text.splitBy fun c d => c.isGlue == d.isGlue

/-- Some runs with the tokens among them renamed. -/
def renameRuns (f : Text → Text) : List Text → Text
  | [] => []
  | run :: rest =>
    (if run.all CodePoint.isGlue && Mention.mayEnd rest.flatten then f run else run) ++
      renameRuns f rest

/-- The text with its tokens renamed. -/
def Text.renameTokens (f : Text → Text) (text : Text) : Text :=
  renameRuns f text.runs

theorem renameRuns_id (runs : List Text) : renameRuns (fun run => run) runs = runs.flatten := by
  induction runs with
  | nil => rfl
  | cons run rest ih =>
      rw [renameRuns, ite_self, ih, List.flatten_cons]

/-- Runs that alternate, behind the given character. -/
inductive Alternate : (previous : Option CodePoint) → List Text → Prop where
  | nil {previous : Option CodePoint} : Alternate previous []
  | cons {previous : Option CodePoint} {run : Text} {rest : List Text} (glue : Bool)
      (ne_nil : run ≠ []) (uniform : ∀ c ∈ run, c.isGlue = glue)
      (boundary : ∀ c ∈ previous, c.isGlue = !glue) (behind : Alternate run.getLast? rest) :
      Alternate previous (run :: rest)

theorem uniform_of_isChain {c : CodePoint} {run : Text}
    (h : (c :: run).IsChain fun c d => (c.isGlue == d.isGlue) = true) :
    ∀ d ∈ c :: run, d.isGlue = c.isGlue := by
  induction run generalizing c with
  | nil =>
      intro d hd
      rw [List.mem_singleton.mp hd]
  | cons d run ih =>
      obtain ⟨hcd, hrest⟩ := List.isChain_cons_cons.mp h
      have heq := eq_of_beq hcd
      refine List.forall_mem_cons.mpr ⟨rfl, ?_⟩
      intro e he
      rw [ih hrest e he, heq]

theorem alternate_of_isChain {runs : List Text} {previous : Option CodePoint} (hne : [] ∉ runs)
    (huniform : ∀ run ∈ runs, run.IsChain fun c d => (c.isGlue == d.isGlue) = true)
    (hboundary : runs.IsChain fun a b =>
      ∃ ha hb, ((a.getLast ha).isGlue == (b.head hb).isGlue) = false)
    (hprevious : ∀ c ∈ previous, ∀ run ∈ runs.head?, ∀ d ∈ run.head?, c.isGlue ≠ d.isGlue) :
    Alternate previous runs := by
  induction runs generalizing previous with
  | nil => exact .nil
  | cons run rest ih =>
      cases run with
      | nil => exact absurd List.mem_cons_self hne
      | cons d run =>
          obtain ⟨hrun, hrest⟩ := List.forall_mem_cons.mp huniform
          refine .cons d.isGlue (List.cons_ne_nil d run) (uniform_of_isChain hrun) ?_ ?_
          · intro c hc
            have hcd := hprevious c hc _ rfl d rfl
            cases hc' : c.isGlue <;> cases hd' : d.isGlue <;> simp_all
          · refine ih (fun hmem => hne (List.mem_cons_of_mem _ hmem)) hrest hboundary.tail ?_
            intro c hc next hnext e he heq
            obtain ⟨hlast, hhead, hdiffer⟩ := (List.isChain_cons.mp hboundary).1 next hnext
            rw [← List.getLast_of_mem_getLast? hc, ← List.head_of_mem_head? he] at heq
            exact absurd heq (ne_of_beq_false hdiffer)

theorem alternate_runs (text : Text) : Alternate none text.runs := by
  refine alternate_of_isChain (List.nil_notMem_splitBy _ text)
    (fun run hrun => List.isChain_of_mem_splitBy hrun)
    (List.isChain_getLast_head_splitBy (fun c d => c.isGlue == d.isGlue) text) ?_
  intro c hc
  cases hc

theorem flatten_runs (text : Text) : text.runs.flatten = text :=
  List.flatten_splitBy _ text

theorem Alternate.head?_flatten {last : CodePoint} {rest : List Text}
    (h : Alternate (some last) rest) : ∀ c ∈ rest.flatten.head?, c.isGlue = !last.isGlue := by
  cases h with
  | nil => exact fun c hc => nomatch hc
  | @cons _ run rest glue hne huniform hboundary _ =>
      intro c hc
      cases run with
      | nil => exact absurd rfl hne
      | cons d run =>
          cases hc
          rw [huniform c List.mem_cons_self, hboundary last rfl, Bool.not_not]

namespace Mention

theorem mem_insert {id other : Text} {ids : List Text} :
    id ∈ insert other ids ↔ id = other ∨ id ∈ ids := by
  induction ids with
  | nil => exact List.mem_cons
  | cons first rest ih =>
      rw [insert]
      split
      · exact List.mem_cons
      · rw [List.mem_cons, ih, List.mem_cons]
        exact or_left_comm

/-- All ids are tried, and no others. -/
theorem mem_alternatives {id : Text} {ids : List Text} : id ∈ alternatives ids ↔ id ∈ ids := by
  rw [alternatives, ← List.mem_eraseDups (l := ids)]
  induction ids.eraseDups with
  | nil => exact Iff.rfl
  | cons first rest ih => rw [List.foldr_cons, mem_insert, ih, List.mem_cons]

theorem isAt_run {run rest id : Text} (hrun : ∀ c ∈ run, c.isGlue = true)
    (hrest : ∀ c ∈ rest.head?, c.isGlue = false) (hid : ∀ c ∈ id, c.isGlue = true) :
    isAt (run ++ rest) id = true ↔ id = run ∧ mayEnd rest = true := by
  simp only [isAt, Bool.and_eq_true, List.isPrefixOf_iff_prefix]
  constructor
  · rintro ⟨⟨behind, hprefix⟩, hend⟩
    cases List.append_eq_append_iff.mp hprefix with
    | inl hfound =>
        obtain ⟨more, hmore, hbehind⟩ := hfound
        cases more with
        | nil =>
            rw [List.append_nil] at hmore
            rw [hmore, List.drop_left] at hend
            exact ⟨hmore.symm, hend⟩
        | cons c more =>
            have hc := hrun c (by rw [hmore]; simp)
            rw [hmore, List.append_assoc, List.drop_left] at hend
            simp [mayEnd, hc] at hend
    | inr hfound =>
        obtain ⟨more, hmore, hbehind⟩ := hfound
        cases more with
        | nil =>
            rw [List.append_nil] at hmore
            rw [hmore, List.drop_left] at hend
            exact ⟨hmore, hend⟩
        | cons c more =>
            have hc := hid c (by rw [hmore]; simp)
            rw [hrest c (by rw [hbehind]; rfl)] at hc
            cases hc
  · rintro ⟨rfl, hend⟩
    rw [List.drop_left]
    exact ⟨List.prefix_append id rest, hend⟩

variable {ids : List Text}

theorem at?_eq_find? {previous : Option CodePoint} (h : mayStart previous = true) (text : Text) :
    at? ids previous text = ids.find? (isAt text) := by
  rw [at?, if_pos h]

theorem at?_run {previous : Option CodePoint} {run rest : Text}
    (hprevious : ∀ c ∈ previous, c.isGlue = false) (hrun : ∀ c ∈ run, c.isGlue = true)
    (hrest : ∀ c ∈ rest.head?, c.isGlue = false) (hids : ∀ id ∈ ids, ∀ c ∈ id, c.isGlue = true) :
    at? ids previous (run ++ rest) =
      if run ∈ ids ∧ mayEnd rest = true then some run else none := by
  have hstart : mayStart previous = true := by
    cases previous with
    | none => rfl
    | some c => simp [mayStart, hprevious c rfl]
  rw [at?_eq_find? hstart]
  cases hfind : ids.find? (isAt (run ++ rest)) with
  | none =>
      rw [if_neg]
      intro hmention
      have hat := (isAt_run hrun hrest hrun).mpr ⟨rfl, hmention.2⟩
      exact List.find?_eq_none.mp hfind run hmention.1 hat
  | some id =>
      have hmem := List.mem_of_find?_eq_some hfind
      obtain ⟨rfl, hend⟩ := (isAt_run hrun hrest (hids id hmem)).mp (List.find?_some hfind)
      rw [if_pos ⟨hmem, hend⟩]

theorem at?_glued {c : CodePoint} (hc : c.isGlue = true) (text : Text) :
    at? ids (some c) text = none := by
  simp [at?, mayStart, hc]

theorem at?_loose (hids : ∀ id ∈ ids, id ≠ [] ∧ ∀ c ∈ id, c.isGlue = true)
    (previous : Option CodePoint) {text : Text} (htext : ∀ c ∈ text.head?, c.isGlue = false) :
    at? ids previous text = none := by
  have hnone : ids.find? (isAt text) = none := by
    refine List.find?_eq_none.mpr fun id hid hat => ?_
    obtain ⟨hne, hglue⟩ := hids id hid
    have hempty : isAt ([] ++ text) id = true ↔ id = [] ∧ mayEnd text = true :=
      isAt_run (fun c hc => nomatch hc) htext hglue
    exact hne (hempty.mp hat).1
  rw [at?, hnone, ite_self]

end Mention

namespace Span

variable {ids : List Text}

theorem getLast?_cons_or (c : CodePoint) (text : Text) (previous : Option CodePoint) :
    (c :: text).getLast?.or previous = text.getLast?.or (some c) := by
  rw [List.getLast?_cons]
  cases text.getLast? <;> rfl

theorem cut_skip (run rest : Text) (previous : Option CodePoint) :
    cut ids run.length previous (run ++ rest) = cut ids 0 (run.getLast?.or previous) rest := by
  induction run generalizing previous with
  | nil => rfl
  | cons c run ih =>
      rw [getLast?_cons_or]
      exact ih (some c)

theorem cut_glued {run : Text} (hrun : ∀ c ∈ run, c.isGlue = true) (rest : Text) {c : CodePoint}
    (hc : c.isGlue = true) : cut ids 0 (some c) (run ++ rest) =
      run.map other ++ cut ids 0 (run.getLast?.or (some c)) rest := by
  induction run generalizing c with
  | nil => rfl
  | cons d run ih =>
      obtain ⟨hd, hrun⟩ := List.forall_mem_cons.mp hrun
      rw [List.cons_append, cut, Mention.at?_glued hc, getLast?_cons_or, ih hrun hd]
      rfl

theorem cut_loose (hids : ∀ id ∈ ids, id ≠ [] ∧ ∀ c ∈ id, c.isGlue = true) {run : Text}
    (hrun : ∀ c ∈ run, c.isGlue = false) (rest : Text) (previous : Option CodePoint) :
    cut ids 0 previous (run ++ rest) =
      run.map other ++ cut ids 0 (run.getLast?.or previous) rest := by
  induction run generalizing previous with
  | nil => rfl
  | cons d run ih =>
      obtain ⟨hd, hrun⟩ := List.forall_mem_cons.mp hrun
      have hnone : Mention.at? ids previous (d :: (run ++ rest)) = none := by
        refine Mention.at?_loose hids previous ?_
        intro c hc
        cases hc
        exact hd
      rw [List.cons_append, cut, hnone, getLast?_cons_or, ih hrun]
      rfl

end Span

namespace RemapTable

variable {table : RemapTable}

theorem flatMap_replaceSpan_other (text : Text) :
    (text.map Span.other).flatMap table.replaceSpan = text := by
  rw [List.flatMap_map]
  exact List.flatMap_singleton' text

theorem find?_of_notMem {id : Text} (h : id ∉ table.ids) : table.find? id = none := by
  rw [find?, List.find?_eq_none.mpr]
  · rfl
  · intro p hp heq
    exact h (List.mem_map.mpr ⟨p, hp, of_decide_eq_true heq⟩)

/-- Cutting a text into mentions and replacing them renames the tokens in its runs. -/
theorem flatMap_cut (hids : ∀ id ∈ table.ids, id ≠ [] ∧ ∀ c ∈ id, c.isGlue = true)
    {runs : List Text} {previous : Option CodePoint} (h : Alternate previous runs) :
    (Span.cut (Mention.alternatives table.ids) 0 previous runs.flatten).flatMap table.replaceSpan =
      renameRuns (fun run => (table.find? run).getD run) runs := by
  have htried : ∀ id ∈ Mention.alternatives table.ids, id ≠ [] ∧ ∀ c ∈ id, c.isGlue = true :=
    fun id hid => hids id (Mention.mem_alternatives.mp hid)
  induction h with
  | @nil previous =>
      have hnone : Mention.at? (Mention.alternatives table.ids) previous [] = none :=
        Mention.at?_loose htried previous fun c hc => nomatch hc
      simp only [List.flatten_nil, Span.cut, hnone]
      rfl
  | @cons previous run rest glue hne huniform hboundary hbehind ih =>
      obtain ⟨last, hlast⟩ := Option.ne_none_iff_exists'.mp (mt List.getLast?_eq_none_iff.mp hne)
      have hprevious : run.getLast?.or previous = run.getLast? := by rw [hlast]; rfl
      have hlastGlue := huniform last (List.mem_of_getLast? hlast)
      rw [List.flatten_cons, renameRuns]
      cases glue with
      | false =>
          have hall : run.all CodePoint.isGlue = false := by
            rw [List.all_eq_false]
            exact ⟨last, List.mem_of_getLast? hlast, by simp [hlastGlue]⟩
          rw [Span.cut_loose htried huniform, List.flatMap_append, flatMap_replaceSpan_other,
            hprevious, ih, hall]
          rfl
      | true =>
          have hrest : ∀ c ∈ rest.flatten.head?, c.isGlue = false := by
            rw [hlast] at hbehind
            have hhead := hbehind.head?_flatten
            rwa [hlastGlue] at hhead
          have hat := Mention.at?_run hboundary huniform hrest fun id hid => (htried id hid).2
          have hall : run.all CodePoint.isGlue = true := List.all_eq_true.mpr huniform
          obtain ⟨d, tail, rfl⟩ := List.exists_cons_of_ne_nil hne
          obtain ⟨hd, htail⟩ := List.forall_mem_cons.mp huniform
          rw [Span.getLast?_cons_or] at hprevious
          by_cases hmention : d :: tail ∈ Mention.alternatives table.ids ∧
              Mention.mayEnd rest.flatten = true
          · rw [if_pos hmention, List.cons_append] at hat
            rw [List.cons_append, Span.cut, hat, hall, hmention.2]
            simp only [Span.cut_skip, hprevious, List.flatMap_cons, ih]
            rfl
          · rw [if_neg hmention, List.cons_append] at hat
            rw [List.cons_append, Span.cut, hat]
            simp only [Span.cut_glued htail _ hd, hprevious, List.flatMap_cons, List.flatMap_append,
              flatMap_replaceSpan_other, ih, hall, Bool.true_and]
            split
            · next hend =>
              rw [find?_of_notMem fun hmem => hmention ⟨Mention.mem_alternatives.mpr hmem, hend⟩]
              rfl
            · rfl

/-- Where all replaced ids consist of characters that are tied to ids, rewriting a text renames its
tokens. -/
theorem rewriteText_eq_renameTokens
    (hids : ∀ id ∈ table.ids, id ≠ [] ∧ ∀ c ∈ id, c.isGlue = true) (text : Text) :
    table.rewriteText text = text.renameTokens fun run => (table.find? run).getD run := by
  have hcut := flatMap_cut hids (alternate_runs text)
  rw [flatten_runs] at hcut
  simp only [rewriteText]
  split
  · next hempty =>
    cases hempty with
    | inl heq =>
        subst heq
        rfl
    | inr heq =>
        subst heq
        exact (flatten_runs text).symm.trans (renameRuns_id text.runs).symm
  · exact hcut

end RemapTable

end IssueMerge
