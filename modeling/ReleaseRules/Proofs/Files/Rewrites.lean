import Mathlib.Data.List.Nodup
import ReleaseRules.Proofs.Files.Places

/-!
Contract: worlds in which some files have got new texts.

Owns:
- the place of the file at a path, and worlds that list the directories above their files;
- what stays the same when files that are there get new texts: everything but these texts;
- one write, and writes to different files one after the other.

Does not own: new files, which may bring new directories with them.
-/

namespace ReleaseRules.World

variable {world other : World} {place names : List String} {path : List Char}

/-! ## Files and their places -/

/-- The place of the file at a path; nothing if no file is found there. -/
def fileAt? (world : World) (path : List Char) : Option (List String) :=
  match world.find path with
  | some (.file names _) => some names
  | _ => none

theorem fileAt?_eq_some_iff :
    world.fileAt? path = some names ↔ ∃ content, world.find path = some (.file names content) := by
  unfold fileAt?
  split
  · rename_i found content finds
    rw [finds]
    simp
  · rename_i nowhere
    constructor
    · intro given
      cases given
    · rintro ⟨content, finds⟩
      exact absurd finds (nowhere names content)

/-- A file that is found at a path is the entry at its place. -/
theorem entryAt_of_find {content : FileContent}
    (finds : world.find path = some (.file names content)) :
    world.entryAt names = some (.file names content) := by
  unfold find at finds
  split at finds
  · cases finds
  · exact (follow_eq_file finds).2

/-- A text is read from a file. -/
theorem exists_fileAt?_of_read? {text : List Char} (read : world.read? path = some text) :
    ∃ names, world.fileAt? path = some names ∧
      world.find path = some (.file names (.text text)) := by
  unfold read? at read
  split at read
  · rename_i found value finds
    obtain rfl := Option.some.inj read
    exact ⟨found, fileAt?_eq_some_iff.mpr ⟨_, finds⟩, finds⟩
  · cases read

/-- The directories above every file are there. -/
def HousesFiles (world : World) : Prop := ∀ file ∈ world.files, world.IsHoused file.1

instance (world : World) : Decidable world.HousesFiles :=
  inferInstanceAs (Decidable (∀ file ∈ world.files, world.IsHoused file.1))

theorem IsHoused.mono (housed : world.IsHoused place)
    (keeps : world.directories ⊆ other.directories) : other.IsHoused place := by
  intro names above nonempty
  exact keeps (housed names above nonempty)

theorem directories_subset_put (world : World) (place : List String) (content : FileContent) :
    world.directories ⊆ (world.put place content).directories :=
  List.subset_append_right _ _

/-- A file that is put somewhere brings the directories above it. -/
theorem HousesFiles.put (houses : world.HousesFiles) (place : List String)
    (content : FileContent) : (world.put place content).HousesFiles := by
  intro file member
  rcases List.mem_cons.mp member with rfl | old
  · intro names above nonempty
    apply List.mem_append_left
    exact List.mem_filter.mpr ⟨above, by simpa using nonempty⟩
  · apply IsHoused.mono (houses file (List.mem_filter.mp old).1)
    exact directories_subset_put world place content

/-- The worlds that are built by writes list the directories above their files. -/
theorem HousesFiles.write (houses : world.HousesFiles) (path text : List Char) :
    (world.write path text).HousesFiles := by
  rw [write_eq_put]
  exact houses.put _ _

/-- An entry that is a file is one of the files of the world. -/
theorem HousesFiles.isHoused (houses : world.HousesFiles) {content : FileContent}
    (file : world.entryAt place = some (.file names content)) : world.IsHoused place := by
  unfold entryAt at file
  split at file
  · rename_i stored listed
    obtain ⟨before, after, split, -⟩ := List.lookup_eq_some_iff.mp listed
    apply houses (place, stored)
    rw [split]
    simp
  · split at file
    · cases file
    · cases file

/-! ## Worlds that differ by the texts of files -/

/-- Another world has the same entries, but for new texts in files at some places. -/
structure Rewritten (places : List (List String)) (world other : World) : Prop where
  sameStart : other.workingDirectory = world.workingDirectory
  sameVariables : other.environment = world.environment
  keepsDirectories : world.directories ⊆ other.directories
  sameEntries : ∀ names, names ∉ places → other.entryAt names = world.entryAt names
  newTexts : ∀ names ∈ places,
    (∃ content, world.entryAt names = some (.file names content)) ∧
      ∃ text, other.entryAt names = some (.file names (.text text))

namespace Rewritten

variable {places more : List (List String)}

theorem refl (world : World) : Rewritten [] world world := by
  refine ⟨rfl, rfl, List.Subset.refl _, fun _ _ => rfl, ?_⟩
  intro names member
  cases member

theorem trans {last : World} (first : Rewritten places world other)
    (second : Rewritten more other last) : Rewritten (places ++ more) world last := by
  refine ⟨second.sameStart.trans first.sameStart, second.sameVariables.trans first.sameVariables,
    List.Subset.trans first.keepsDirectories second.keepsDirectories, ?_, ?_⟩
  · intro names elsewhere
    rw [List.mem_append, not_or] at elsewhere
    obtain ⟨notFirst, notSecond⟩ := elsewhere
    rw [second.sameEntries names notSecond, first.sameEntries names notFirst]
  · intro names member
    constructor
    · by_cases inFirst : names ∈ places
      · exact (first.newTexts names inFirst).1
      · obtain ⟨content, file⟩ :=
          (second.newTexts names ((List.mem_append.mp member).resolve_left inFirst)).1
        exact ⟨content, (first.sameEntries names inFirst).symm.trans file⟩
    · by_cases inSecond : names ∈ more
      · exact (second.newTexts names inSecond).2
      · obtain ⟨text, file⟩ :=
          (first.newTexts names ((List.mem_append.mp member).resolve_right inSecond)).2
        exact ⟨text, (second.sameEntries names inSecond).trans file⟩

variable (rewritten : Rewritten places world other)
include rewritten

/-- A walk ends at the same entry in both worlds, or at a file with a new text. -/
theorem follow_cases (names : List String) (pieces : List (List Char)) :
    other.follow (.directory names) pieces = world.follow (.directory names) pieces ∨
      ∃ place ∈ places, ∃ content text,
        world.follow (.directory names) pieces = some (.file place content) ∧
        other.follow (.directory names) pieces = some (.file place (.text text)) := by
  induction pieces generalizing names with
  | nil => exact .inl rfl
  | cons piece rest inductionHypothesis =>
      rw [follow_cons, follow_cons]
      obtain leads | asks := enter_cases names piece
      · rw [leads, leads]
        exact inductionHypothesis (pass names piece)
      rw [asks, asks]
      by_cases here : pass names piece ∈ places
      · obtain ⟨⟨content, file⟩, text, newFile⟩ := rewritten.newTexts _ here
        rw [file, newFile]
        -- Nothing follows behind a file, whatever it holds.
        cases rest with
        | nil => exact .inr ⟨_, here, content, text, rfl, rfl⟩
        | cons next behind => exact .inl rfl
      · rw [rewritten.sameEntries _ here]
        obtain nothing | ⟨content, file⟩ | directory := world.entryAt_cases (pass names piece)
        · rw [nothing]
          exact .inl rfl
        · rw [file]
          exact .inl (follow_file world other _ content rest)
        · rw [directory]
          exact inductionHypothesis (pass names piece)

theorem find_cases (path : List Char) :
    other.find path = world.find path ∨
      ∃ place ∈ places, ∃ content text, world.find path = some (.file place content) ∧
        other.find path = some (.file place (.text text)) := by
  have sameStart : other.startOf path = world.startOf path := by
    rw [startOf, startOf, rewritten.sameStart]
  rw [find, find, sameStart]
  by_cases empty : path.isEmpty = true
  · left
    rw [if_pos empty, if_pos empty]
  · rw [if_neg empty, if_neg empty]
    exact rewritten.follow_cases _ _

/-- The same paths lead somewhere. -/
theorem contains_eq (path : List Char) : other.contains path = world.contains path := by
  rw [contains, contains]
  obtain same | ⟨place, -, content, text, found, foundOther⟩ := rewritten.find_cases path
  · rw [same]
  · rw [found, foundOther]
    rfl

/-- The files are found at the same paths. -/
theorem fileAt?_eq (path : List Char) : other.fileAt? path = world.fileAt? path := by
  rw [fileAt?, fileAt?]
  obtain same | ⟨place, -, content, text, found, foundOther⟩ := rewritten.find_cases path
  · rw [same]
  · rw [found, foundOther]

/-- A path that leads to none of the files with new texts finds what it has found before. -/
theorem find_eq (elsewhere : ∀ place ∈ places, world.fileAt? path ≠ some place) :
    other.find path = world.find path := by
  obtain same | ⟨place, member, content, text, found, -⟩ := rewritten.find_cases path
  · exact same
  · exact absurd (fileAt?_eq_some_iff.mpr ⟨content, found⟩) (elsewhere place member)

/-- A file without a new text holds what it has held before. -/
theorem lookup_eq (elsewhere : names ∉ places) :
    other.files.lookup names = world.files.lookup names := by
  have same := rewritten.sameEntries names elsewhere
  unfold entryAt at same
  cases stored : world.files.lookup names with
  | none =>
      cases storedOther : other.files.lookup names with
      | none => rfl
      | some content =>
          rw [stored, storedOther] at same
          dsimp only at same
          split at same
          · cases same
          · cases same
  | some content =>
      cases storedOther : other.files.lookup names with
      | none =>
          rw [stored, storedOther] at same
          dsimp only at same
          split at same
          · cases same
          · cases same
      | some contentOther =>
          rw [stored, storedOther] at same
          cases same
          rfl

end Rewritten

/-! ## Writes -/

theorem entryAt_put (world : World) (place : List String) (content : FileContent) :
    (world.put place content).entryAt place = some (.file place content) := by
  have file : (world.put place content).files.lookup place = some content := by
    show List.lookup place ((place, content) :: _) = some content
    rw [List.lookup_cons_self]
  rw [entryAt, file]

/-- A write to a file that is there gives it a new text, which is read at its path. -/
theorem rewritten_write (houses : world.HousesFiles) (found : world.fileAt? path = some place)
    (text : List Char) :
    Rewritten [place] world (world.write path text) ∧
      (world.write path text).read? path = some text := by
  obtain ⟨content, finds⟩ := fileAt?_eq_some_iff.mp found
  have file := entryAt_of_find finds
  have shape : world.write path text = world.put place (.text text) := by
    rw [write, finds]
  have differs : DiffersOnlyAt place world (world.put place (.text text)) :=
    differsOnlyAt_put (houses.isHoused file) _
  have rewritten : Rewritten [place] world (world.put place (.text text)) := by
    refine ⟨rfl, rfl, directories_subset_put world place _, ?_, ?_⟩
    · intro names elsewhere
      exact differs.sameEntries names fun same => elsewhere (List.mem_singleton.mpr same)
    · intro names member
      obtain rfl := List.mem_singleton.mp member
      exact ⟨⟨content, file⟩, text, entryAt_put world names _⟩
  rw [shape]
  refine ⟨rewritten, ?_⟩
  have foundAfter : (world.put place (.text text)).fileAt? path = some place := by
    rw [rewritten.fileAt?_eq, found]
  obtain ⟨contentAfter, findsAfter⟩ := fileAt?_eq_some_iff.mp foundAfter
  have entry := (entryAt_of_find findsAfter).symm.trans (entryAt_put world place _)
  obtain rfl : contentAfter = .text text := by
    cases entry
    rfl
  rw [read?, findsAfter]

/-- Files that are there get new texts one after the other, each at a place of its own. All of them
can be read in the end. -/
theorem rewritten_foldl_write {places : List (List String)} (houses : world.HousesFiles)
    (written : List (List Char × List Char))
    (found : written.map (fun file => world.fileAt? file.1) = places.map some)
    (distinct : places.Nodup) :
    Rewritten places world (written.foldl (fun world file => world.write file.1 file.2) world) ∧
      ∀ file ∈ written,
        (written.foldl (fun world file => world.write file.1 file.2) world).read? file.1 =
          some file.2 := by
  induction written generalizing world places with
  | nil =>
      obtain rfl : places = [] := by simpa using found.symm
      refine ⟨.refl world, ?_⟩
      intro file member
      cases member
  | cons file rest inductionHypothesis =>
      obtain ⟨place, others, rfl⟩ : ∃ place others, places = place :: others := by
        cases places with
        | nil => cases found
        | cons place others => exact ⟨place, others, rfl⟩
      obtain ⟨foundHere, foundLater⟩ := List.cons.inj found
      have foundHere : world.fileAt? file.1 = some place := foundHere
      obtain ⟨fresh, distinctLater⟩ := List.nodup_cons.mp distinct
      obtain ⟨first, readHere⟩ := rewritten_write houses foundHere file.2
      have foundAfter : rest.map (fun file' => (world.write file.1 file.2).fileAt? file'.1) =
          others.map some := by
        rw [← foundLater]
        apply List.map_congr_left
        intro later _
        exact first.fileAt?_eq later.1
      obtain ⟨later, readLater⟩ :=
        inductionHypothesis (houses.write file.1 file.2) foundAfter distinctLater
      refine ⟨first.trans later, ?_⟩
      intro another member
      rcases List.mem_cons.mp member with rfl | inRest
      · -- None of the later writes is to the place of this one.
        rw [List.foldl_cons, read?, later.find_eq]
        · exact readHere
        · intro elsewhere inOthers atPlace
          rw [first.fileAt?_eq, foundHere] at atPlace
          exact fresh (Option.some.inj atPlace ▸ inOthers)
      · exact readLater another inRest

end ReleaseRules.World
