import ReleaseRules.Files.Reference
import ReleaseRules.Proofs.Text.Pieces

/-!
Contract: what of a world decides what is found at a path.

Owns:
- the place that a path leads to, piece by piece;
- worlds that differ at one place only, and the changes that lead to such a world;
- what both of them have in common: all that is found at the paths that lead elsewhere.

Does not own: what files hold.

A walk down a path asks the world about each name that it comes to, and a step up asks nothing. So a
world that differs at one place can show it to two kinds of paths: the ones that lead to this place,
and the ones that lead through it, for which it has to be a directory.
-/

namespace ReleaseRules.World

variable {world other : World} {place names : List String} {path : List Char}

/-! ## Places -/

/-- The names that a component of a path leads to. -/
def turn (names : List String) : Path.Component → List String
  | .normal name => names ++ [String.ofList name]
  | .parent => names.dropLast
  | _ => names

/-- The names that a piece of a path leads to. -/
def pass (names : List String) (piece : List Char) : List String :=
  match Path.Component.ofPiece? piece with
  | some component => turn names component
  | none => names

theorem foldl_pass (names : List String) (pieces : List (List Char)) :
    (pieces.filterMap Path.Component.ofPiece?).foldl turn names = pieces.foldl pass names := by
  induction pieces generalizing names with
  | nil => rfl
  | cons piece rest inductionHypothesis =>
      rw [List.filterMap_cons, List.foldl_cons, pass]
      cases Path.Component.ofPiece? piece with
      | none => exact inductionHypothesis names
      | some component => exact inductionHypothesis (turn names component)

theorem eq_cons_of_isAbsolute (absolute : Path.isAbsolute path = true) :
    ∃ behind, path = '/' :: behind := by
  unfold Path.isAbsolute at absolute
  split at absolute
  · exact ⟨_, rfl⟩
  · cases absolute

/-- The place of a path is where its pieces lead, one after the other. -/
theorem namesOf_eq_foldl (world : World) (path : List Char) :
    world.namesOf path = (Path.pieces path).foldl pass (world.startOf path) := by
  obtain ⟨first, rest, split⟩ := Text.splitAt_cons '/' path
  have pieces : Path.pieces path = first :: rest := split
  show (Path.components path).foldl turn (world.startOf path) = _
  rw [Path.components, pieces, List.foldl_cons]
  simp only [List.foldl_append, foldl_pass]
  -- Only the first piece has a component of its own; it leads nowhere where it is idle.
  congr 1
  by_cases absolute : Path.isAbsolute path = true
  · have empty : first = [] := by
      obtain ⟨behind, rfl⟩ := eq_cons_of_isAbsolute absolute
      exact (List.cons.inj split).1.symm
    rw [if_pos absolute, empty]
    rfl
  · rw [if_neg absolute]
    by_cases dot : first = ['.']
    · rw [if_pos dot, dot]
      rfl
    · rw [if_neg dot, pass]
      cases Path.Component.ofPiece? first with
      | none => rfl
      | some component => rfl

/-! ## Walks -/

/-- Whether a walk from a directory comes by a place before its end. -/
def LeadsThrough (place names : List String) (pieces : List (List Char)) : Prop :=
  ∃ front back, pieces = front ++ back ∧ front ≠ [] ∧ back ≠ [] ∧ front.foldl pass names = place

theorem LeadsThrough.cons {piece : List Char} {rest : List (List Char)}
    (through : LeadsThrough place (pass names piece) rest) :
    LeadsThrough place names (piece :: rest) := by
  obtain ⟨front, back, split, _, behind, reached⟩ := through
  exact ⟨piece :: front, back, by rw [split, List.cons_append], by simp, behind, reached⟩

/-- Whether a path leads through a place to where it ends. -/
def PassesBy (world : World) (path : List Char) (place : List String) : Prop :=
  LeadsThrough place (world.startOf path) (Path.pieces path)

/-- Whether there is a directory at a place. -/
def HasDirectory (world : World) (place : List String) : Prop :=
  world.entryAt place = some (.directory place)

theorem entryAt_cases (world : World) (place : List String) :
    world.entryAt place = none ∨ (∃ content, world.entryAt place = some (.file place content)) ∨
      world.HasDirectory place := by
  rw [HasDirectory, entryAt]
  cases world.files.lookup place with
  | some content => exact .inr (.inl ⟨content, rfl⟩)
  | none =>
      by_cases listed : (place.isEmpty || world.directories.contains place) = true
      · exact .inr (.inr (if_pos listed))
      · exact .inl (if_neg listed)

/-- In every world the same pieces lead on from a directory without a look at the world; the others
lead to the entry at their place. -/
theorem enter_cases (names : List String) (piece : List Char) :
    (∀ world : World,
      world.enter (.directory names) piece = some (.directory (pass names piece))) ∨
    ∀ world : World, world.enter (.directory names) piece = world.entryAt (pass names piece) := by
  by_cases idle : Path.isIdle piece = true
  · left
    intro world
    rw [enter, if_pos idle, pass, Path.Component.ofPiece?, if_pos idle]
  by_cases up : piece = ['.', '.']
  · left
    intro world
    rw [up]
    rfl
  · right
    intro world
    rw [enter, if_neg idle, if_neg up, pass, Path.Component.ofPiece?, if_neg idle, if_neg up]
    rfl

theorem follow_cons (entry : Entry) (piece : List Char) (rest : List (List Char)) :
    world.follow entry (piece :: rest) =
      (world.enter entry piece).bind fun next => world.follow next rest := by
  rw [follow]
  cases world.enter entry piece with
  | none => rfl
  | some next => rfl

/-- Nothing follows behind a file, so what stands behind it does not depend on the world. -/
theorem follow_file (world other : World) (names : List String) (content : FileContent)
    (pieces : List (List Char)) :
    other.follow (.file names content) pieces = world.follow (.file names content) pieces := by
  cases pieces with
  | nil => rfl
  | cons piece rest => rfl

/-- A walk that goes on behind a place where there is no directory finds nothing. -/
theorem follow_of_not_hasDirectory (absent : ¬ world.HasDirectory place) (piece : List Char)
    (rest : List (List Char)) :
    ((world.entryAt place).bind fun next => world.follow next (piece :: rest)) = none := by
  obtain nothing | ⟨content, file⟩ | directory := world.entryAt_cases place
  · rw [nothing]
    rfl
  · rw [file]
    rfl
  · exact absurd directory absent

/-- A file that a walk finds is where its pieces lead, and it is the entry there. -/
theorem follow_eq_file {pieces : List (List Char)} {found : List String} {content : FileContent}
    (finds : world.follow (.directory names) pieces = some (.file found content)) :
    found = pieces.foldl pass names ∧ world.entryAt found = some (.file found content) := by
  induction pieces generalizing names with
  | nil => cases finds
  | cons piece rest inductionHypothesis =>
      rw [follow_cons] at finds
      obtain leads | asks := enter_cases names piece
      · rw [leads] at finds
        exact inductionHypothesis finds
      rw [asks] at finds
      obtain nothing | ⟨stored, file⟩ | directory := world.entryAt_cases (pass names piece)
      · rw [nothing] at finds
        cases finds
      · rw [file] at finds
        cases rest with
        | nil =>
            cases finds
            exact ⟨rfl, file⟩
        | cons next behind => cases finds
      · rw [directory] at finds
        exact inductionHypothesis finds

/-- A file is found at its place. -/
theorem names_of_find_file {found : List String} {content : FileContent}
    (finds : world.find path = some (.file found content)) : found = world.namesOf path := by
  rw [namesOf_eq_foldl]
  unfold find at finds
  split at finds
  · cases finds
  · exact (follow_eq_file finds).1

theorem read?_eq_none_of_not_contains (missing : world.contains path = false) :
    world.read? path = none := by
  rw [contains, Option.isSome_eq_false_iff, Option.isNone_iff_eq_none] at missing
  rw [read?, missing]

/-! ## Worlds that differ at one place -/

/-- Two worlds with the same variables and the same working directory that have the same entries
but for one place. -/
structure DiffersOnlyAt (place : List String) (world other : World) : Prop where
  sameStart : other.workingDirectory = world.workingDirectory
  sameVariables : other.environment = world.environment
  sameEntries : ∀ names, names ≠ place → other.entryAt names = world.entryAt names

namespace DiffersOnlyAt

variable (differs : DiffersOnlyAt place world other)
include differs

/-- A walk that ends elsewhere finds the same in both worlds, if it does not need the place as a
directory on its way. -/
theorem follow_eq {pieces : List (List Char)} (elsewhere : pieces.foldl pass names ≠ place)
    (clear : LeadsThrough place names pieces →
      ¬ world.HasDirectory place ∧ ¬ other.HasDirectory place) :
    other.follow (.directory names) pieces = world.follow (.directory names) pieces := by
  induction pieces generalizing names with
  | nil => rfl
  | cons piece rest inductionHypothesis =>
      have further : other.follow (.directory (pass names piece)) rest =
          world.follow (.directory (pass names piece)) rest :=
        inductionHypothesis elsewhere fun through => clear through.cons
      rw [follow_cons, follow_cons]
      obtain leads | asks := enter_cases names piece
      · rw [leads, leads]
        exact further
      rw [asks, asks]
      by_cases here : pass names piece = place
      · -- The walk is not over yet, so without a directory it ends in both worlds.
        cases rest with
        | nil => exact absurd here elsewhere
        | cons next behind =>
            obtain ⟨absent, absentAfter⟩ :=
              clear ⟨[piece], next :: behind, rfl, by simp, by simp, here⟩
            rw [here, follow_of_not_hasDirectory absent, follow_of_not_hasDirectory absentAfter]
      · rw [differs.sameEntries _ here]
        obtain nothing | ⟨content, file⟩ | directory := world.entryAt_cases (pass names piece)
        · rw [nothing]
          rfl
        · rw [file]
          exact follow_file world other _ content rest
        · rw [directory]
          exact further

theorem startOf_eq (path : List Char) : other.startOf path = world.startOf path := by
  rw [startOf, startOf, differs.sameStart]

/-- At a path that leads elsewhere both worlds have the same, if it does not need the place as a
directory on its way. -/
theorem find_eq (elsewhere : world.namesOf path ≠ place)
    (clear : world.PassesBy path place →
      ¬ world.HasDirectory place ∧ ¬ other.HasDirectory place) :
    other.find path = world.find path := by
  rw [namesOf_eq_foldl] at elsewhere
  rw [find, find, differs.startOf_eq, differs.follow_eq elsewhere clear]

end DiffersOnlyAt

/-! ## Changes of one file -/

theorem lookup_filter_of_ne (files : List (List String × FileContent)) (elsewhere : names ≠ place) :
    (files.filter fun file => file.1 != place).lookup names = files.lookup names := by
  induction files with
  | nil => rfl
  | cons file rest inductionHypothesis =>
      rw [List.filter_cons, List.lookup_cons]
      by_cases here : file.1 = place
      · have other : (names == file.1) = false := by rw [here]; exact beq_false_of_ne elsewhere
        rw [if_neg (by simp [here]), other, inductionHypothesis]
      · rw [if_pos (by simp [here]), List.lookup_cons, inductionHypothesis]

/-- The directories above a place are there. -/
def IsHoused (world : World) (place : List String) : Prop :=
  ∀ names ∈ place.dropLast :: above place.dropLast, names ≠ [] → names ∈ world.directories

instance (world : World) (place : List String) : Decidable (world.IsHoused place) :=
  inferInstanceAs (Decidable (∀ names ∈ place.dropLast :: above place.dropLast,
    names ≠ [] → names ∈ world.directories))

theorem contains_addDirectory (housed : world.IsHoused place) (names : List String) :
    (world.addDirectory place.dropLast).directories.contains names =
      world.directories.contains names := by
  rw [Bool.eq_iff_iff, List.contains_iff_mem, List.contains_iff_mem, addDirectory,
    List.mem_append]
  constructor
  · intro member
    obtain added | listed := member
    · obtain ⟨member, nonempty⟩ := List.mem_filter.mp added
      exact housed names member (by simpa using nonempty)
    · exact listed
  · exact .inr

/-- A file that is put into its directory changes the world at its place only. -/
theorem differsOnlyAt_put (housed : world.IsHoused place) (content : FileContent) :
    DiffersOnlyAt place world (world.put place content) := by
  refine ⟨rfl, rfl, ?_⟩
  intro names elsewhere
  have files : (world.put place content).files.lookup names = world.files.lookup names := by
    show List.lookup names ((place, content) :: world.files.filter fun file => file.1 != place) = _
    rw [List.lookup_cons, beq_false_of_ne elsewhere]
    exact lookup_filter_of_ne world.files elsewhere
  have directories : (world.put place content).directories.contains names =
      world.directories.contains names := contains_addDirectory housed names
  rw [entryAt, entryAt, files, directories]

theorem not_hasDirectory_put (world : World) (place : List String) (content : FileContent) :
    ¬ (world.put place content).HasDirectory place := by
  have file : (world.put place content).files.lookup place = some content := by
    show List.lookup place ((place, content) :: _) = some content
    rw [List.lookup_cons_self]
  rw [HasDirectory, entryAt, file]
  intro directory
  cases directory

theorem write_eq_put (world : World) (path text : List Char) :
    world.write path text = world.put (world.namesOf path) (.text text) := by
  unfold write
  split
  · rename_i found content finds
    rw [names_of_find_file finds]
  · rfl

theorem differsOnlyAt_write (housed : world.IsHoused (world.namesOf path)) (text : List Char) :
    DiffersOnlyAt (world.namesOf path) world (world.write path text) := by
  rw [write_eq_put]
  exact differsOnlyAt_put housed _

theorem differsOnlyAt_remove (world : World) (path : List Char) :
    DiffersOnlyAt (world.namesOf path) world (world.remove path) := by
  unfold remove
  split
  · rename_i found content finds
    rw [names_of_find_file finds]
    refine ⟨rfl, rfl, ?_⟩
    intro names elsewhere
    rw [entryAt, entryAt, lookup_filter_of_ne world.files elsewhere]
  · exact ⟨rfl, rfl, fun _ _ => rfl⟩

/-! ## What only depends on variables -/

theorem variableValue?_congr (same : other.environment = world.environment) (name : String) :
    other.variableValue? name = world.variableValue? name := by
  rw [variableValue?, variableValue?, same]

theorem expand_congr (same : other.environment = world.environment) (path : List Char) :
    Path.expand other path = Path.expand world path := by
  have home : other.home? = world.home? := by
    rw [home?, home?, variableValue?_congr same]
  have fill : Path.Part.fill other = Path.Part.fill world := by
    funext part
    cases part with
    | character value => rfl
    | reference name written =>
        rw [Path.Part.fill, Path.Part.fill, variableValue?_congr same]
  unfold Path.expand Path.withHome
  rw [home, fill]

end ReleaseRules.World
