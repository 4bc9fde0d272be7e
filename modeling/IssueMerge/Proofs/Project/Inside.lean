import IssueMerge.Proofs.Disk.Entry
import IssueMerge.Project.Locate

/-!
Which names for the file of issues the settings of a project may give, and where that file is. Of the
texts that the setting can have, blanks around them left aside, the names of entries are taken and two
points are, which lead out of the directory of the project; all others are refused. With any other
name than two points the path of the file is that of an entry of the directory.
-/

namespace IssueMerge

open Outcome

namespace Config

variable {file : Path} {pairs : List (Yaml.Value × Yaml.Value)} {config : Config} {name t : Text}

/-- The names that are taken: those of entries, and two points. -/
def Taken (name : Text) : Prop :=
  Path.IsEntryName name ∨ name = Path.upName

theorem isBareName_iff (hname : name ≠ []) : isBareName name = true ↔ Taken name := by
  have hbare : isBareName name = true ↔ name ≠ Text.ofString "." ∧ Path.slash ∉ name := by
    rw [isBareName, decide_eq_true_iff, Path.name_ofText_eq_self]
    exact or_iff_right hname
  rw [hbare]
  constructor
  · intro h
    by_cases hup : name = Path.upName
    · exact .inr hup
    · exact .inl ⟨hname, h.2, h.1, hup⟩
  · intro h
    cases h with
    | inl hentry => exact ⟨hentry.ne_point, hentry.slash_notMem⟩
    | inr hup =>
        rw [hup]
        decide

theorem taken_default : Taken ({} : Config).storeName :=
  (isBareName_iff (by decide)).mp (by decide)

/-- A setting that is read is not empty. -/
theorem ne_nil_of_readText {setting : Text} (h : readText file setting pairs = .ok (some name)) :
    name ≠ [] := by
  simp only [readText] at h
  split at h
  · cases h
  · cases h
  · split at h
    · cases h
    · next hblank =>
      cases h
      exact hblank
  · cases h

theorem readText_of_text {setting : Text}
    (h : Yaml.Value.field? setting pairs = some (.scalar (.text t))) :
    readText file setting pairs =
      if t.trim = [] then .error (.notText setting file) else .ok (some t.trim) := by
  rw [readText, h]

theorem ofValue_mapping (file : Path) (pairs : List (Yaml.Value × Yaml.Value)) :
    ofValue file (.mapping pairs) = ofPairs file pairs := by
  cases pairs with
  | nil => rfl
  | cons p rest => rfl

theorem taken_of_ofPairs (h : ofPairs file pairs = .ok config) : Taken config.storeName := by
  obtain ⟨given, hgiven, h⟩ := bind_eq_ok.mp h
  dsimp only at h
  split at h
  · next hbare =>
    obtain ⟨stem, _, h⟩ := bind_eq_ok.mp h
    cases h
    cases given with
    | none => exact taken_default
    | some name => exact (isBareName_iff (ne_nil_of_readText hgiven)).mp hbare
  · cases h

theorem taken_of_ofValue {v : Yaml.Value} (h : ofValue file v = .ok config) :
    Taken config.storeName := by
  simp only [ofValue] at h
  split at h
  · cases h
    exact taken_default
  · split at h
    · exact taken_of_ofPairs h
    · cases h

/-- How a mapping decides on the name of the file of issues. -/
structure NamesStore (file : Path) (pairs : List (Yaml.Value × Yaml.Value)) : Prop where
  /-- It is the name of an entry, or two points. -/
  named : ∀ config, ofValue file (.mapping pairs) = .ok config → Taken config.storeName
  /-- A text of this kind is taken, without the blanks around it. -/
  accepted : ∀ t, Yaml.Value.field? storeSetting pairs = some (.scalar (.text t)) → Taken t.trim →
    ofValue file (.mapping pairs) =
      (fun stem => { stem, storeName := t.trim }) <$> readText file stemSetting pairs
  /-- Every other text is refused. -/
  refused : ∀ t, Yaml.Value.field? storeSetting pairs = some (.scalar (.text t)) →
    ¬ Taken t.trim → ofValue file (.mapping pairs) =
      .error (if t.trim = [] then .notText storeSetting file else .notBareName file t.trim)

theorem namesStore (file : Path) (pairs : List (Yaml.Value × Yaml.Value)) :
    NamesStore file pairs where
  named _ := taken_of_ofValue
  accepted t hfield htaken := by
    have hne : t.trim ≠ [] := by
      intro hblank
      rw [hblank] at htaken
      cases htaken with
      | inl hentry => exact hentry.ne_nil rfl
      | inr hup => exact absurd hup (by decide)
    have hbare := (isBareName_iff hne).mpr htaken
    rw [ofValue_mapping, ofPairs, readText_of_text hfield, if_neg hne]
    simp only [bind, Except.bind, Option.getD_some, hbare, if_true]
    cases readText file stemSetting pairs <;> rfl
  refused t hfield htaken := by
    rw [ofValue_mapping, ofPairs, readText_of_text hfield]
    by_cases hblank : t.trim = []
    · simp only [if_pos hblank, bind, Except.bind]
    · have hbare : ¬ isBareName t.trim = true := fun h => htaken ((isBareName_iff hblank).mp h)
      simp only [if_neg hblank, bind, Except.bind, Option.getD_some, hbare]
      rfl

theorem taken_of_ofBytes {reader : Yaml.Reader} {content : Bytes}
    (h : ofBytes reader file content = .ok config) : Taken config.storeName := by
  simp only [ofBytes] at h
  split at h
  · cases h
  · split at h
    · cases h
    · exact taken_of_ofValue h

/-- So it is with settings that are loaded, from whatever disk and by whatever reader. -/
theorem taken_of_load {reader : Yaml.Reader} {σ : Type} [Disk (StateM σ)] {s s' : σ}
    {directory : Path} (h : (load (m := StateM σ) reader directory).run s = (.ok config, s')) :
    Taken config.storeName := by
  obtain ⟨found, s₁, _, h⟩ := run_bind_ok.mp h
  match found with
  | .error e => cases h
  | .ok false =>
    cases h
    exact taken_default
  | .ok true =>
    obtain ⟨content, s₂, _, h⟩ := run_bind_ok.mp h
    match content with
    | .error e => cases h
    | .ok content => exact taken_of_ofBytes (congrArg Prod.fst h)

end Config

namespace Disk

variable {σ : Type} [Disk (StateM σ)] {s s' : σ} {p : Path}

theorem present_error {e : OsError} (h : (present (m := StateM σ) p).run s = (.error e, s')) :
    (Disk.kind? (m := StateM σ) p s).1 = .error (.os e) := by
  rw [present, run_bind_lift] at h
  split at h
  · cases h
  · cases h
  · next hkind =>
    cases h
    exact hkind

end Disk

namespace Project

variable {σ : Type} [Disk (StateM σ)] {s s' : σ} {directory p : Path} {config : Config}

theorem storePath_ok (h : (storePath (m := StateM σ) directory config).run s = (.ok p, s')) :
    ∃ name, (name = config.storeName ∨ name = legacyStoreName) ∧ p = directory.child name := by
  obtain ⟨configured, s₁, _, h⟩ := run_bind_ok.mp h
  cases configured with
  | true =>
      cases h
      exact ⟨_, .inl rfl, rfl⟩
  | false =>
      obtain ⟨legacy, s₂, _, h⟩ := run_bind_ok.mp h
      cases legacy with
      | true =>
          cases h
          exact ⟨_, .inr rfl, rfl⟩
      | false =>
          cases h
          exact ⟨_, .inl rfl, rfl⟩

theorem storePath_error {e : OsError}
    (h : (storePath (m := StateM σ) directory config).run s = (.error e, s')) :
    ∃ name s₁, (name = config.storeName ∨ name = legacyStoreName) ∧
      (Disk.kind? (m := StateM σ) (directory.child name) s₁).1 = .error (.os e) := by
  cases run_bind_error.mp h with
  | inl hrefused => exact ⟨_, s, .inl rfl, Disk.present_error hrefused⟩
  | inr hasked =>
      obtain ⟨configured, s₁, _, h⟩ := hasked
      cases configured with
      | true => cases h
      | false =>
          cases run_bind_error.mp h with
          | inl hrefused => exact ⟨_, s₁, .inr rfl, Disk.present_error hrefused⟩
          | inr hasked =>
              obtain ⟨legacy, s₂, _, h⟩ := hasked
              cases legacy <;> cases h

/-- Where the file of issues of a project is, whatever is on the disk. -/
structure StoreInside (directory : Path) (config : Config) : Prop where
  /-- Its name is the one of the settings or the one of old, and its path is that of an entry of the
  directory, unless the settings name it by two points. -/
  found : ∀ {σ : Type} [Disk (StateM σ)] {s s' : σ} {p : Path},
    (storePath (m := StateM σ) directory config).run s = (.ok p, s') →
      ∃ name, (name = config.storeName ∨ name = legacyStoreName) ∧ p = directory.entry name ∧
        (Path.IsEntryName name ∨ name = Path.upName ∧ config.storeName = Path.upName)
  /-- There is no path only if the disk does not tell what is found at such a path. -/
  refused : ∀ {σ : Type} [Disk (StateM σ)] {s s' : σ} {e : OsError},
    (storePath (m := StateM σ) directory config).run s = (.error e, s') →
      ∃ name s₁, (name = config.storeName ∨ name = legacyStoreName) ∧
        (Disk.kind? (m := StateM σ) (directory.entry name) s₁).1 = .error (.os e)
  /-- In memory, the path leads to a place directly inside the directory; two points lead to the one
  around it. -/
  place : ∀ {d : MemoryDisk} {p : Path} {front place : List Text},
    ((storePath (m := StateM MemoryDisk) directory config).run d).1 = .ok p →
      d.place directory = .ok front → d.place p = .ok place →
        (∃ name, Path.IsEntryName name ∧ place = front ++ [name]) ∨
          config.storeName = Path.upName ∧ place = front.dropLast

theorem isEntryName_legacyStoreName : Path.IsEntryName legacyStoreName where
  ne_nil := by decide
  slash_notMem := by decide
  ne_point := by decide
  ne_upName := by decide

theorem child_eq_entry_of_taken {name : Text} (h : Config.Taken name) :
    directory.child name = directory.entry name := by
  cases h with
  | inl hentry => exact Path.child_eq_entry ⟨hentry.ne_nil, hentry.ne_point⟩ hentry.slash_notMem
  | inr hup =>
      rw [hup]
      exact Path.child_eq_entry (by decide) (by decide)

theorem taken_of_name {name : Text} (hconfig : Config.Taken config.storeName)
    (h : name = config.storeName ∨ name = legacyStoreName) : Config.Taken name := by
  cases h with
  | inl hconfigured => exact hconfigured ▸ hconfig
  | inr hlegacy => exact hlegacy ▸ .inl isEntryName_legacyStoreName

theorem found_of_taken (hconfig : Config.Taken config.storeName)
    (h : (storePath (m := StateM σ) directory config).run s = (.ok p, s')) :
    ∃ name, (name = config.storeName ∨ name = legacyStoreName) ∧ p = directory.entry name ∧
      (Path.IsEntryName name ∨ name = Path.upName ∧ config.storeName = Path.upName) := by
  obtain ⟨name, hname, hp⟩ := storePath_ok h
  refine ⟨name, hname, hp.trans (child_eq_entry_of_taken (taken_of_name hconfig hname)), ?_⟩
  cases hname with
  | inr hlegacy => exact .inl (hlegacy ▸ isEntryName_legacyStoreName)
  | inl hconfigured =>
      subst hconfigured
      cases hconfig with
      | inl hentry => exact .inl hentry
      | inr hup => exact .inr ⟨hup, hup⟩

theorem storeInside (hconfig : Config.Taken config.storeName) : StoreInside directory config where
  found := found_of_taken hconfig
  refused h := by
    obtain ⟨name, s₁, hname, hkind⟩ := storePath_error h
    rw [child_eq_entry_of_taken (taken_of_name hconfig hname)] at hkind
    exact ⟨name, s₁, hname, hkind⟩
  place h hfront hplace := by
    obtain ⟨name, _, rfl, hname⟩ := found_of_taken hconfig (Prod.ext h rfl)
    have hlast := MemoryDisk.place_entry hfront hplace
    cases hname with
    | inl hentry => exact .inl ⟨name, hentry, by rw [hlast, if_neg hentry.ne_upName]⟩
    | inr hup => exact .inr ⟨hup.2, by rw [hlast, if_pos hup.1]⟩

end Project

/-- The file of issues of a project is an entry of its directory unless the settings name it by two
points, whatever a reader finds in them. All other texts that do not name an entry are refused. -/
theorem store_inside_unless_up (directory file : Path) (pairs : List (Yaml.Value × Yaml.Value)) :
    Config.NamesStore file pairs ∧
      (∀ config, Config.ofValue file (.mapping pairs) = .ok config →
        Project.StoreInside directory config) ∧
      ∀ (reader : Yaml.Reader) {σ : Type} [Disk (StateM σ)] {s s' : σ} {config : Config},
        (Config.load (m := StateM σ) reader directory).run s = (.ok config, s') →
          Config.Taken config.storeName ∧ Project.StoreInside directory config :=
  ⟨Config.namesStore file pairs,
    fun _ h => Project.storeInside (Config.taken_of_ofValue h),
    fun _ _ _ _ _ _ h => ⟨Config.taken_of_load h, Project.storeInside (Config.taken_of_load h)⟩⟩

/-- A project with a file of settings. -/
def upDisk : MemoryDisk where
  entries :=
    [(["work"], .directory), (["work", Project.directoryName], .directory),
      (["work", Project.directoryName, Config.fileName],
        .file ((Text.ofString "jsonl-file: ..\n").flatMap Utf8.unit))]
  workingDirectory := ["work"]

/-- What a reader finds in them: two points as the name of the file of issues. -/
def upReader : Yaml.Reader := fun _ =>
  .ok (.mapping [(.scalar (.text Config.storeSetting), .scalar (.text Path.upName))])

/-- The path of the file of issues leads to the directory that the project is for. -/
theorem outside_upDisk :
    ∃ path config,
      ((Project.locate (m := StateM MemoryDisk) upReader none).run upDisk).1 = .ok (path, config) ∧
        config.storeName = Path.upName ∧
          upDisk.place path.parent = .ok ["work", Project.directoryName] ∧
            upDisk.place path = .ok ["work"] :=
  ⟨⟨.root, ["work", Project.directoryName, Path.upName]⟩, { storeName := Path.upName },
    by decide +kernel, rfl, by decide +kernel, by decide +kernel⟩

end IssueMerge
