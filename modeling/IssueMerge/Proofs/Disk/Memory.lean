import IssueMerge.Disk.Memory
import IssueMerge.Proofs.Outcome
import IssueMerge.Store
import Mathlib.Data.List.Basic

/-!
Changes of a disk in memory. Making and replacing files leaves the directories as they are, so paths
lead to the same places before and after; the file beside a file stands at another place than the
file.
-/

namespace IssueMerge

open Outcome

namespace MemoryDisk

variable {d d' : MemoryDisk} {place other : List Text}

/-- The root is always a directory. -/
theorem ne_nil_of_node? (h : d.node? place ≠ some .directory) : place ≠ [] := by
  rintro rfl
  exact h rfl

theorem node?_erase_of_ne (h : other ≠ place) (d : MemoryDisk) :
    (d.erase place).node? other = d.node? other := by
  simp only [node?, erase]
  split
  · rfl
  · rw [List.find?_filter]
    congr 2
    funext p
    by_cases hp : p.1 = other <;> simp [hp, h]

theorem node?_erase_self (h : place ≠ []) (d : MemoryDisk) : (d.erase place).node? place = none := by
  simp only [node?, h, ↓reduceIte, Option.map_eq_none_iff, List.find?_eq_none, erase]
  intro p hp
  simpa using (List.mem_filter.mp hp).2

theorem node?_put_self (h : place ≠ []) (d : MemoryDisk) (node : Node) :
    (d.put place node).node? place = some node := by
  simp [node?, h, put]

theorem node?_put_of_ne (h : other ≠ place) (d : MemoryDisk) (node : Node) :
    (d.put place node).node? other = d.node? other := by
  rw [← node?_erase_of_ne h d]
  simp [node?, put, h.symm]

/-- Nothing is taken away where nothing stands. -/
theorem erase_of_vacant (h : d.node? place = none) : d.erase place = d := by
  have hne : place ≠ [] := ne_nil_of_node? (d := d) (by simp [h])
  simp only [node?, hne, ↓reduceIte, Option.map_eq_none_iff, List.find?_eq_none] at h
  have hall : d.entries.filter (·.1 ≠ place) = d.entries :=
    List.filter_eq_self.mpr fun p hp => by simpa using h p hp
  simp only [erase, hall]

theorem erase_erase (d : MemoryDisk) (place : List Text) :
    (d.erase place).erase place = d.erase place := by
  simp only [erase, List.filter_filter, Bool.and_self]

theorem erase_put (d : MemoryDisk) (place : List Text) (node : Node) :
    (d.put place node).erase place = d.erase place := by
  have h := congrArg entries (d.erase_erase place)
  simp only [erase] at h
  simp [put, erase]

theorem put_put (d : MemoryDisk) (place : List Text) (node node' : Node) :
    (d.put place node).put place node' = d.put place node' := by
  have h := congrArg entries (d.erase_put place node)
  simp only [put] at h ⊢
  rw [h]

/-- Another disk on which the same places are directories. -/
structure SameDirectories (d d' : MemoryDisk) : Prop where
  workingDirectory : d'.workingDirectory = d.workingDirectory
  directory : ∀ place, d'.node? place = some .directory ↔ d.node? place = some .directory

theorem SameDirectories.trans {d'' : MemoryDisk} (h : SameDirectories d d')
    (h' : SameDirectories d' d'') : SameDirectories d d'' :=
  ⟨h'.workingDirectory.trans h.workingDirectory,
    fun place => (h'.directory place).trans (h.directory place)⟩

theorem descend_eq_ok {part : Text} : d.descend place part = .ok other ↔
    d.node? place = some .directory ∧
      ((part = Path.upName ∧ other = place.dropLast) ∨
        (part ≠ Path.upName ∧ (part.flatMap Utf8.unit).length ≤ maxNameLength ∧
          other = place ++ [part])) := by
  simp only [descend]
  split
  · next h => simp [h]
  · next h => simp [h]
  · next h =>
    simp only [h, true_and]
    split
    · next hup => simp [hup, eq_comm]
    · next hup =>
      split
      · next hlong => simp [hup, Nat.not_le.mpr hlong, -List.length_flatMap]
      · next hlong => simp [hup, Nat.not_lt.mp hlong, eq_comm, -List.length_flatMap]

theorem foldlM_descend_congr (h : SameDirectories d d') (parts : List Text) (start : List Text) :
    parts.foldlM d'.descend start = .ok place ↔ parts.foldlM d.descend start = .ok place := by
  induction parts generalizing start with
  | nil => exact Iff.rfl
  | cons part parts ih =>
      simp only [List.foldlM_cons, bind_eq_ok, descend_eq_ok, h.directory, ih]

theorem place_eq_ok {p : Path} : d.place p = .ok place ↔ p.hasNull = false ∧
    (p.toText.flatMap Utf8.unit).length ≤ maxPathLength ∧
      (p.fromRoot d.workingDirectory).foldlM d.descend [] = .ok place := by
  simp only [MemoryDisk.place]
  split
  · next h => simp [h]
  · next h =>
    split
    · next hlong => simp [Nat.not_le.mpr hlong, -List.length_flatMap]
    · next hlong => simp [h, Nat.not_lt.mp hlong, mapError_eq_ok, -List.length_flatMap]

/-- A path leads to the same place where the same places are directories. -/
theorem place_congr (h : SameDirectories d d') {p : Path} :
    d'.place p = .ok place ↔ d.place p = .ok place := by
  rw [place_eq_ok, place_eq_ok, h.workingDirectory, foldlM_descend_congr h]

theorem sameDirectories_put (hplace : d.node? place ≠ some .directory) (content : Bytes) :
    SameDirectories d (d.put place (.file content)) := by
  refine ⟨rfl, fun other => ?_⟩
  by_cases h : other = place
  · subst h
    simp [node?_put_self (ne_nil_of_node? hplace), hplace]
  · rw [node?_put_of_ne h]

theorem sameDirectories_erase (hplace : d.node? place ≠ some .directory) :
    SameDirectories d (d.erase place) := by
  refine ⟨rfl, fun other => ?_⟩
  by_cases h : other = place
  · subst h
    simp [node?_erase_self (ne_nil_of_node? hplace), hplace]
  · rw [node?_erase_of_ne h]

theorem putFile_eq_ok {p : Path} {content : Bytes} : d.putFile p content = .ok d' ↔
    ∃ place, d.place p = .ok place ∧ d.node? place ≠ some .directory ∧
      d' = d.put place (.file content) := by
  simp only [putFile, bind_eq_ok]
  refine exists_congr fun place => and_congr_right fun _ => ?_
  split
  · next h => simp [h]
  · next h => exact ⟨fun heq => ⟨h, (Except.ok.inj heq).symm⟩, fun heq => by rw [heq.2]⟩

theorem sameDirectories_putFile {p : Path} {content : Bytes} (h : d.putFile p content = .ok d') :
    SameDirectories d d' := by
  obtain ⟨place, _, hplace, rfl⟩ := putFile_eq_ok.mp h
  exact sameDirectories_put hplace content

/-- Of two files put at one place the second stays. -/
theorem putFile_putFile {p : Path} {first second : Bytes} {d'' : MemoryDisk}
    (h : d.putFile p first = .ok d') (h' : d'.putFile p second = .ok d'') :
    d.putFile p second = .ok d'' := by
  have hsame := sameDirectories_putFile h
  obtain ⟨place, hp, hplace, rfl⟩ := putFile_eq_ok.mp h
  obtain ⟨place', hp', _, rfl⟩ := putFile_eq_ok.mp h'
  have heq : place' = place := Except.ok.inj (((place_congr hsame).mp hp').symm.trans hp)
  subst heq
  exact putFile_eq_ok.mpr ⟨place', hp, hplace, d.put_put _ _ _⟩

theorem rename_eq_ok {source target : Path} (h : d.rename source target = .ok d') :
    ∃ s t content, d.place source = .ok s ∧ d.place target = .ok t ∧
      d.node? s = some (.file content) ∧ d.node? t ≠ some .directory ∧
        d' = (d.erase s).put t (.file content) := by
  simp only [rename] at h
  split at h
  · next s t hs ht =>
    split at h
    · cases h
    · split at h
      · cases h
      · cases h
      · cases h
      · next content hnode hother =>
        cases h
        exact ⟨s, t, content, hs, ht, hnode, hother, rfl⟩
  all_goals cases h

theorem read_of_node {p : Path} {content : Bytes} (hp : d.place p = .ok place)
    (hnode : d.node? place = some (.file content)) : d.read p = .ok content := by
  simp only [read, lookup, hp, hnode, bind, Except.bind]

theorem read_eq_ok {p : Path} {content : Bytes} : d.read p = .ok content ↔
    ∃ place, d.place p = .ok place ∧ d.node? place = some (.file content) := by
  constructor
  · intro h
    obtain ⟨node, hnode, h⟩ := bind_eq_ok.mp h
    obtain ⟨place, hplace, hfound⟩ := bind_eq_ok.mp hnode
    refine ⟨place, hplace, ?_⟩
    cases hat : d.node? place with
    | none =>
        rw [hat] at hfound
        cases hfound
    | some found =>
        rw [hat] at hfound
        cases hfound
        cases node with
        | directory => cases h
        | file bytes =>
            cases h
            rfl
  · intro h
    obtain ⟨place, hplace, hnode⟩ := h
    exact read_of_node hplace hnode

theorem read_putFile {p : Path} {content : Bytes} (h : d.putFile p content = .ok d') :
    d'.read p = .ok content := by
  have hsame := sameDirectories_putFile h
  obtain ⟨place, hp, hplace, rfl⟩ := putFile_eq_ok.mp h
  exact read_of_node ((place_congr hsame).mpr hp) (node?_put_self (ne_nil_of_node? hplace) d _)

/-- There is nothing at a path. -/
def Vacant (d : MemoryDisk) (p : Path) : Prop :=
  ∀ node, d.lookup p ≠ .ok node

theorem vacant_iff {p : Path} :
    d.Vacant p ↔ ∀ place, d.place p = .ok place → d.node? place = none := by
  simp only [Vacant, lookup]
  cases hp : d.place p with
  | error e => simp [bind, Except.bind]
  | ok place =>
      cases hnode : d.node? place with
      | none => simp [bind, Except.bind, hnode]
      | some node => simp [bind, Except.bind, hnode]

/-- A file put where nothing stands and taken away again leaves no trace. -/
theorem remove_putFile {p : Path} {content : Bytes} (hvacant : d.Vacant p)
    (h : d.putFile p content = .ok d') : d'.remove p = .ok d := by
  have hsame := sameDirectories_putFile h
  obtain ⟨place, hp, hplace, rfl⟩ := putFile_eq_ok.mp h
  have hnone := vacant_iff.mp hvacant place hp
  have hne := ne_nil_of_node? hplace
  simp only [remove, (place_congr hsame).mpr hp, node?_put_self hne, bind, Except.bind, erase_put,
    erase_of_vacant hnone]

theorem kind?_of_vacant {p : Path} {kind : Option NodeKind} (hvacant : d.Vacant p)
    (h : d.kind? p = .ok kind) : kind = none := by
  simp only [kind?] at h
  split at h
  · next hfound => exact absurd hfound (hvacant _)
  · next hfound => exact absurd hfound (hvacant _)
  · cases h
    rfl
  · cases h
    rfl
  · cases h

theorem kind?_putFile {p : Path} {content : Bytes} (h : d.putFile p content = .ok d') :
    d'.kind? p = .ok (some .file) := by
  have hsame := sameDirectories_putFile h
  obtain ⟨place, hp, hplace, rfl⟩ := putFile_eq_ok.mp h
  have hne := ne_nil_of_node? hplace
  simp only [kind?, lookup, (place_congr hsame).mpr hp, node?_put_self hne, bind, Except.bind]

end MemoryDisk

namespace Store

open MemoryDisk

variable {d : MemoryDisk} {path : Path} {b t : List Text}

theorem append_tmp_ne_upName (name : Text) : name ++ Text.ofString ".tmp" ≠ Path.upName := by
  intro h
  have hlast := congrArg List.getLast? h
  have htmp : (Text.ofString ".tmp").getLast? = some (CodePoint.ofChar 'p') := by decide
  rw [List.getLast?_append, htmp, Option.some_or] at hlast
  exact absurd hlast (by decide)

theorem fromRoot_parent (workingDirectory : List Text) (path : Path) :
    path.fromRoot workingDirectory =
      path.parent.fromRoot workingDirectory ++ path.parts.getLast?.toList := by
  have hparts : path.parts = path.parts.dropLast ++ path.parts.getLast?.toList := by
    cases h : path.parts.getLast? with
    | none => simp [List.getLast?_eq_none_iff.mp h]
    | some name => exact (List.dropLast_append_getLast? name h).symm
  cases h : path.anchor with
  | relative =>
      simp only [Path.fromRoot, Path.parent, h]
      rw [List.append_assoc, ← hparts]
  | root | doubleRoot =>
      simp only [Path.fromRoot, Path.parent, h]
      exact hparts

theorem fromRoot_besidePath (workingDirectory : List Text) (path : Path) :
    (besidePath path).fromRoot workingDirectory =
      path.parent.fromRoot workingDirectory ++ [path.name ++ Text.ofString ".tmp"] := by
  cases h : path.anchor <;> simp [Path.fromRoot, besidePath, Path.withName, Path.parent, h]

/-- The file beside a file stands at another place. -/
theorem place_beside_ne (hb : d.place (besidePath path) = .ok b) (ht : d.place path = .ok t) :
    b ≠ t := by
  obtain ⟨_, _, hb⟩ := place_eq_ok.mp hb
  obtain ⟨_, _, ht⟩ := place_eq_ok.mp ht
  rw [fromRoot_besidePath, List.foldlM_append, bind_eq_ok] at hb
  rw [fromRoot_parent, List.foldlM_append, bind_eq_ok] at ht
  obtain ⟨dir, hdir, hb⟩ := hb
  obtain ⟨dir', hdir', ht⟩ := ht
  obtain rfl : dir' = dir := Except.ok.inj (hdir'.symm.trans hdir)
  have hbeside : b = dir' ++ [path.name ++ Text.ofString ".tmp"] := by
    simp only [List.foldlM_cons, List.foldlM_nil, bind_pure] at hb
    obtain ⟨_, ⟨hup, _⟩ | ⟨_, _, h⟩⟩ := descend_eq_ok.mp hb
    · exact absurd hup (append_tmp_ne_upName path.name)
    · exact h
  have hlength : ∀ front : List Text, front.length ≤ dir'.length → b ≠ front := by
    rintro front hfront rfl
    rw [hbeside, List.length_append, List.length_singleton] at hfront
    omega
  cases hlast : path.parts.getLast? with
  | none =>
      rw [hlast] at ht
      cases ht
      exact hlength _ (Nat.le_refl _)
  | some name =>
      simp only [hlast, Option.toList_some, List.foldlM_cons, List.foldlM_nil, bind_pure] at ht
      obtain ⟨_, ⟨_, rfl⟩ | ⟨_, _, rfl⟩⟩ := descend_eq_ok.mp ht
      · exact hlength _ (by rw [List.length_dropLast]; omega)
      · intro heq
        rw [hbeside, Path.name, hlast] at heq
        have hname := (List.cons.inj (List.append_cancel_left heq)).1
        have hlen := congrArg List.length hname
        rw [Option.getD_some, List.length_append] at hlen
        exact absurd hlen (by simp [Text.ofString])

end Store

end IssueMerge
