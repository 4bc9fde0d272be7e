import IssueMerge.Proofs.Merge.Resolved
import IssueMerge.Proofs.Merge.Run
import IssueMerge.Proofs.Text.Utf8

/-!
A file whose conflicts are resolved with the plain writer. It is emptied before the byte form of the
new text is known, so a run that fails is not always one that changes nothing. The text of a file has
a byte form; a surrogate without a partner comes from an escape, and is written out where its record
is written anew.
-/

namespace IssueMerge

open Outcome

section

variable {d : MemoryDisk} {path : Path} {lines : List Text}

theorem Store.writeInPlace_of_read {bytes : Bytes} (h : d.read path = .ok bytes) (content : Text) :
    ∃ place, d.place path = .ok place ∧
      (writeInPlace (m := StateM MemoryDisk) path content).run d =
        match Utf8.encode content with
        | .ok new => (.ok (), d.put place (.file new))
        | .error e => (.error (.unencodable e), d.put place (.file [])) := by
  obtain ⟨place, hplace, hnode⟩ := MemoryDisk.read_eq_ok.mp h
  have hempty : d.putFile path [] = .ok (d.put place (.file [])) :=
    MemoryDisk.putFile_eq_ok.mpr ⟨place, hplace, by simp [hnode], rfl⟩
  have hcreate : Disk.create (m := StateM MemoryDisk) path d =
      (.ok (), d.put place (.file [])) := MemoryDisk.change_of_ok hempty
  refine ⟨place, hplace, ?_⟩
  simp only [writeInPlace, run_bind, attempt_run, hcreate]
  cases hencode : Utf8.encode content with
  | error e => rfl
  | ok new =>
      have hfilled : (d.put place (.file [])).putFile path new =
          .ok (d.put place (.file new)) := by
        have hsame := MemoryDisk.sameDirectories_putFile hempty
        have hne : place ≠ [] := MemoryDisk.ne_nil_of_node? (d := d) (by simp [hnode])
        refine MemoryDisk.putFile_eq_ok.mpr ⟨place, (MemoryDisk.place_congr hsame).mpr hplace, ?_, ?_⟩
        · simp [MemoryDisk.node?_put_self hne]
        · rw [MemoryDisk.put_put]
      have hfill : Disk.fill (m := StateM MemoryDisk) path new (d.put place (.file [])) =
          (.ok (), d.put place (.file new)) := MemoryDisk.change_of_ok hfilled
      change (attempt (m := StateM MemoryDisk) (Disk.fill path new)).run _ = _
      rw [attempt_run, hfill]
      rfl

theorem MemoryDisk.Holds.isSurrogate (h : d.Holds path lines) :
    ∀ line ∈ lines, ∀ c ∈ line, c.isSurrogate = false := by
  obtain ⟨bytes, content, _, hcontent, rfl⟩ := h
  intro line hline c hc
  refine Utf8.isSurrogate_of_decode hcontent c ?_
  rw [← Text.unlines_lines content]
  exact Text.mem_unlines hline hc

/-- The new text has a byte form exactly when no line of it that is not an old one holds a
surrogate. -/
theorem MemoryDisk.Holds.encode_iff (h : d.Holds path lines) (merge : Merge) :
    (∃ bytes, Utf8.encode merge.content = .ok bytes) ↔
      ∀ line ∈ merge.lines, line ∉ lines → ∀ c ∈ line, c.isSurrogate = false := by
  constructor
  · intro hencode line hline _ c hc
    obtain ⟨bytes, hbytes⟩ := hencode
    exact (Utf8.encode_eq_ok.mp hbytes).1 c (Text.mem_unlines hline hc)
  · intro hnew
    refine ⟨_, Utf8.encode_eq_ok.mpr ⟨?_, rfl⟩⟩
    intro c hc
    cases Text.of_mem_unlines hc with
    | inl hfeed =>
        rw [hfeed]
        decide
    | inr hfound =>
        obtain ⟨line, hline, hc⟩ := hfound
        by_cases hold : line ∈ lines
        · exact h.isSurrogate line hold c hc
        · exact hnew line hline hold c hc

/-- An empty file has no conflicts. -/
theorem MemoryDisk.Holds.read_ne_nil {regions : List Region} (h : d.Holds path lines)
    (hscan : Region.ofLines lines = .ok regions) (hregions : regions ≠ []) :
    d.read path ≠ .ok [] := by
  intro hempty
  obtain ⟨bytes, content, hread, hcontent, rfl⟩ := h
  rw [hempty] at hread
  cases hread
  have hnil : content = [] := by
    rw [Utf8.decode, Utf8.decodeFrom.eq_def] at hcontent
    exact (Except.ok.inj hcontent).symm
  rw [hnil] at hscan
  exact hregions (Except.ok.inj hscan).symm

end

variable {d d' : MemoryDisk} {path : Path} {options : MergeOptions (StateM MemoryDisk)}
  {attempt : Attempt MergeReport}

/-- A run has a new text for a file with conflicts, and is to write it. -/
structure Rewrites (options : MergeOptions (StateM MemoryDisk)) (d : MemoryDisk) (path : Path)
    (lines : List Text) (merge : Merge) : Prop where
  holds : d.Holds path lines
  merged : (Merge.ofLines lines options.source options.stem).result = .ok merge
  conflicts : merge.regions ≠ []
  writes : options.dryRun = false

namespace Rewrites

variable {lines : List Text} {merge : Merge} (h : Rewrites options d path lines merge)

include h

theorem emptied {place : List Text} (hplace : d.place path = .ok place) :
    d.read path ≠ .ok [] ∧ (d.put place (.file [])).read path = .ok [] := by
  refine ⟨h.holds.read_ne_nil (Merge.regions_of_ofLines h.merged) h.conflicts, ?_⟩
  obtain ⟨bytes, _, hread, _⟩ := h.holds
  obtain ⟨place', hplace', hnode⟩ := MemoryDisk.read_eq_ok.mp hread
  obtain rfl : place' = place := Except.ok.inj (hplace'.symm.trans hplace)
  exact MemoryDisk.read_putFile
    (MemoryDisk.putFile_eq_ok.mpr ⟨place', hplace, by simp [hnode], rfl⟩)

/-- A new text without a byte form is found out when the file is empty. -/
theorem run_of_unencodable (hwrite : options.write = Store.writeInPlace) {u : Utf8.Unencodable}
    (hencode : Utf8.encode merge.content = .error u) :
    ∃ asked place, d.place path = .ok place ∧ resolveConflicts path options d =
      ({ result := .error (.store (.unencodable u)), asked }, d.put place (.file [])) := by
  obtain ⟨bytes, _, hread, _⟩ := id h.holds
  obtain ⟨place, hplace, hwritten⟩ := Store.writeInPlace_of_read hread merge.content
  rw [hencode, ← hwrite] at hwritten
  obtain ⟨asked, hrun⟩ :=
    resolveConflicts_of_unencodable h.holds h.merged h.conflicts h.writes hwritten
  exact ⟨asked, place, hplace, hrun⟩

end Rewrites

theorem resolveConflicts_plain_error (hwrite : options.write = Store.writeInPlace)
    (h : resolveConflicts path options d = (attempt, d')) {e : MergeError}
    (he : attempt.result = .error e) :
    d' = d ∨ ∃ lines merge u place, Rewrites options d path lines merge ∧
      Utf8.encode merge.content = .error u ∧ e = .store (.unencodable u) ∧
        d.place path = .ok place ∧ d' = d.put place (.file []) := by
  obtain ⟨_, hview⟩ | ⟨lines, merge, hlines, hmerge, hcases⟩ :=
    resolveConflicts_run MemoryDisk.follows h
  · exact .inl hview
  rcases hcases with ⟨_, _, hview⟩ | ⟨hregions, hdry, s₁, r, hview, hrun, hok, _⟩
  · exact .inl hview
  · have hrewrites : Rewrites options d path lines merge := ⟨hlines, hmerge, hregions, hdry⟩
    cases hencode : Utf8.encode merge.content with
    | ok new =>
        obtain ⟨bytes, _, hread, _⟩ := hlines
        obtain ⟨place, _, hwritten⟩ := Store.writeInPlace_of_read hread merge.content
        have hsame : s₁ = d := hview
        rw [hwrite, hsame, hwritten, hencode] at hrun
        cases hrun
        rw [hok rfl] at he
        cases he
    | error u =>
        obtain ⟨asked, place, hplace, hrun'⟩ := hrewrites.run_of_unencodable hwrite hencode
        rw [h] at hrun'
        cases hrun'
        cases he
        exact .inr ⟨lines, merge, u, place, hrewrites, hencode, rfl, hplace, rfl⟩

/-- With the plain writer a run that fails leaves the disk as it was, or the new text has no byte form
and the file is left empty. So no failure touches the file exactly when in the lines that are new there
is no surrogate without a partner. -/
theorem plain_failure (hwrite : options.write = Store.writeInPlace)
    (h : resolveConflicts path options d = (attempt, d')) :
    (∀ e, attempt.result = .error e → d' = d ∨ ∃ u place, e = .store (.unencodable u) ∧
        d.place path = .ok place ∧ d' = d.put place (.file []) ∧
          d.read path ≠ .ok [] ∧ d'.read path = .ok []) ∧
      ((∀ e, attempt.result = .error e → d'.read path = d.read path) ↔
        ∀ lines merge, Rewrites options d path lines merge →
          ∀ line ∈ merge.lines, line ∉ lines → ∀ c ∈ line, c.isSurrogate = false) := by
  refine ⟨?_, ?_, ?_⟩
  · intro e he
    cases resolveConflicts_plain_error hwrite h he with
    | inl hsame => exact .inl hsame
    | inr hfound =>
        obtain ⟨lines, merge, u, place, hrewrites, _, hu, hplace, rfl⟩ := hfound
        exact .inr ⟨u, place, hu, hplace, rfl, hrewrites.emptied hplace⟩
  · intro hsame lines merge hrewrites
    apply (hrewrites.holds.encode_iff merge).mp
    cases hencode : Utf8.encode merge.content with
    | ok bytes => exact ⟨bytes, rfl⟩
    | error u =>
        obtain ⟨asked, place, hplace, hrun⟩ := hrewrites.run_of_unencodable hwrite hencode
        rw [h] at hrun
        cases hrun
        obtain ⟨hbefore, hafter⟩ := hrewrites.emptied hplace
        rw [hsame _ rfl] at hafter
        exact absurd hafter hbefore
  · intro hnew e he
    cases resolveConflicts_plain_error hwrite h he with
    | inl hdisk => rw [hdisk]
    | inr hfound =>
        obtain ⟨lines, merge, u, _, hrewrites, hencode, _⟩ := hfound
        obtain ⟨bytes, hbytes⟩ :=
          (hrewrites.holds.encode_iff merge).mpr (hnew lines merge hrewrites)
        rw [hencode] at hbytes
        cases hbytes

/-- The plain writer, with ids counted on from those in the file. -/
def scanOptions : MergeOptions (StateM MemoryDisk) where
  write := Store.writeInPlace

/-- A conflict with an escape of a surrogate on the side whose record gets another id. -/
def unpairedLines : List Text :=
  ["<<<<<<< HEAD",
    "\x7b\"id\":\"bd-1\",\"title\":\"Issue bd-1\"\x7d",
    "=======",
    "\x7b\"id\":\"bd-1\",\"notes\":\"\\ud800\"\x7d",
    ">>>>>>> feature",
    ""]

theorem plain_failure_unpairedLines : ∃ attempt d' u place,
    resolveConflicts storePath scanOptions (storeDisk unpairedLines) = (attempt, d') ∧
      attempt.result = .error (.store (.unencodable u)) ∧
      d' = (storeDisk unpairedLines).put place (.file []) := by
  have hfailed : (resolveConflicts storePath scanOptions
      (storeDisk unpairedLines)).1.result.isOk = false := by decide +kernel
  have hlost : (resolveConflicts storePath scanOptions (storeDisk unpairedLines)).2.read storePath ≠
      (storeDisk unpairedLines).read storePath := by decide +kernel
  rcases hrun : resolveConflicts storePath scanOptions (storeDisk unpairedLines) with ⟨attempt, d'⟩
  rw [hrun] at hfailed hlost
  cases hresult : attempt.result with
  | ok report =>
      simp only [hresult] at hfailed
      cases hfailed
  | error e =>
      cases (plain_failure rfl hrun).1 e hresult with
      | inl hsame =>
          rw [hsame] at hlost
          exact absurd rfl hlost
      | inr hfound =>
          obtain ⟨u, place, rfl, _, hput, _⟩ := hfound
          exact ⟨attempt, d', u, place, rfl, hresult, hput⟩

/-- The run fails for the escaped surrogate, and the text of the file is lost. -/
theorem text_lost_unpairedLines : ∃ attempt d' e,
    resolveConflicts storePath scanOptions (storeDisk unpairedLines) = (attempt, d') ∧
      attempt.result = .error e ∧
      e.message = ("'utf-8' codec can't encode character '\\ud800' in position 57: " ++
        "surrogates not allowed" : String) ∧
      d'.read storePath = .ok [] ∧ (storeDisk unpairedLines).read storePath ≠ .ok [] := by
  have hfailed : ((resolveConflicts storePath scanOptions
      (storeDisk unpairedLines)).1.result.map fun _ => ()) =
        .error (.store (.unencodable ⟨57, ⟨0xD800, by decide⟩, 1⟩)) := by decide +kernel
  have hlost : (resolveConflicts storePath scanOptions
      (storeDisk unpairedLines)).2.read storePath = .ok [] := by decide +kernel
  have hbefore : (storeDisk unpairedLines).read storePath ≠ .ok [] := by decide +kernel
  rcases hrun : resolveConflicts storePath scanOptions (storeDisk unpairedLines) with ⟨attempt, d'⟩
  rw [hrun] at hfailed hlost
  cases hresult : attempt.result with
  | ok report =>
      simp only [hresult] at hfailed
      cases hfailed
  | error e =>
      simp only [hresult] at hfailed
      cases hfailed
      exact ⟨attempt, d', _, rfl, hresult, by decide +kernel, hlost, hbefore⟩

end IssueMerge
