import Mathlib.Data.List.Basic
import Mathlib.Data.List.Pairwise
import ReleaseRules.Proofs.Files.Places
import ReleaseRules.Rules.Loader

/-!
Contract: what each source adds to the rules.

Owns:
- the sources of rules by their order, their paths and what their texts hold;
- the block of rules that each source adds;
- what becomes of the blocks when the file of one source changes.

Does not own: the formats of the sources.

The rules of all sources are read into one list and sorted out at its end. Each of them still comes
from one source alone: the list is made of blocks, and a block depends on nothing but the path of
its source and the text that is read there.
-/

namespace ReleaseRules

/-- A source of rules. -/
inductive RuleSource where
  | global
  | project
  | settings
  | named
deriving DecidableEq, Repr

namespace RuleSource

/-- The sources in the order in which they are read. -/
def all : List RuleSource := [.global, .project, .settings, .named]

/-- The sources that are read before a source. -/
def before (source : RuleSource) : List RuleSource := all.takeWhile (· != source)

/-- The sources that are read behind a source. -/
def behind (source : RuleSource) : List RuleSource := (all.dropWhile (· != source)).drop 1

theorem mem_all (source : RuleSource) : source ∈ all := by cases source <;> decide

theorem all_eq (source : RuleSource) : all = source.before ++ source :: source.behind := by
  cases source <;> rfl

theorem ne_of_mem_before (source : RuleSource) : ∀ earlier ∈ source.before, earlier ≠ source := by
  cases source <;> decide

theorem ne_of_mem_behind (source : RuleSource) : ∀ later ∈ source.behind, later ≠ source := by
  cases source <;> decide

/-- The content of a text of a source; nothing if it is malformed. Settings are always written in
one format, the format of the others is that of the path. -/
def file? (source : RuleSource) (path text : List Char) : Option RuleFile :=
  match source with
  | .settings =>
      ((Toml.readDatum text).toOption.bind Settings.ofDatum?).map fun settings =>
        ⟨settings.rules, settings.preserve⟩
  | _ => (RuleFile.read path text).toOption

end RuleSource

/-- The enabled rules of a file, and then the rules of its enabled entries. -/
def RuleFile.enabledRules (file : RuleFile) : List Rule :=
  file.rules.filter (·.enabled) ++ (file.preserve.filter (·.enabled)).map PreserveEntry.rule

/-- An entry is as enabled as its rule. -/
theorem RuleFile.filter_allRules (file : RuleFile) :
    file.allRules.filter Rule.enabled = file.enabledRules := by
  rw [RuleFile.allRules, List.filter_append, List.filter_map]
  rfl

/-- The rules that a source adds when a text is read at its path, or when none is read. -/
def RuleSource.block (source : RuleSource) (path : List Char) (text : Option (List Char)) :
    List Rule :=
  match text.bind (source.file? path) with
  | some file => file.enabledRules
  | none => []

/-- Why a source adds nothing: its file is missing, is a directory, holds no text, or holds a text
that is malformed. -/
inductive RuleSource.Fails (source : RuleSource) (path : List Char) :
    Option World.Entry → Prop
  | missing : Fails source path none
  | unreadable (names : List String) : Fails source path (some (.directory names))
  | notText (names : List String) : Fails source path (some (.file names .notText))
  | malformed (names : List String) (text : List Char) (unread : source.file? path text = none) :
      Fails source path (some (.file names (.text text)))

/-- What is found at a path fails a source or is a file that the source can read. -/
theorem RuleSource.fails_or_file (source : RuleSource) (path : List Char)
    (found : Option World.Entry) :
    source.Fails path found ∨
      ∃ names text file, found = some (.file names (.text text)) ∧
        source.file? path text = some file := by
  match found with
  | none => exact .inl .missing
  | some (.directory names) => exact .inl (.unreadable names)
  | some (.file names .notText) => exact .inl (.notText names)
  | some (.file names (.text text)) =>
      cases content : source.file? path text with
      | none => exact .inl (.malformed names text content)
      | some file => exact .inr ⟨names, text, file, rfl, content⟩

namespace RuleSources

variable {sources : RuleSources} {world other : World} {source : RuleSource} {path : List Char}

/-- The path of a source; nothing if there is no such source. -/
def path? (sources : RuleSources) (world : World) : RuleSource → Option (List Char)
  | .global => sources.global
  | .project => sources.project
  | .settings => sources.settings
  | .named =>
      (sources.environmentName.bind (namedValue? world)).map (Path.expand world)

/-- The rules that a source adds in a world. -/
def block (sources : RuleSources) (world : World) (source : RuleSource) : List Rule :=
  match sources.path? world source with
  | some path => source.block path (world.read? path)
  | none => []

/-- The places of the sources. -/
def places (sources : RuleSources) (world : World) : List (List String) :=
  (RuleSource.all.filterMap (sources.path? world)).map world.namesOf

/-! ## Blocks -/

/-- A rule file adds the enabled rules of its text. -/
theorem filter_rulesInFile (format : source ≠ .settings) (world : World) (path : List Char) :
    (rulesInFile world path).filter Rule.enabled = source.block path (world.read? path) := by
  have content (text : List Char) :
      source.file? path text = (RuleFile.read path text).toOption := by
    cases source with
    | settings => exact absurd rfl format
    | _ => rfl
  rw [rulesInFile, RuleSource.block]
  cases world.read? path with
  | none => rfl
  | some text =>
      rw [Option.bind_some, content]
      dsimp only
      cases RuleFile.read path text with
      | error format => rfl
      | ok file => exact file.filter_allRules

/-- A settings file adds the enabled rules of its text. A missing one, for which the usual settings
stand in, adds none, as these have no rules. -/
theorem filter_rulesInSettings (world : World) (path : List Char) :
    (rulesInSettings world path).filter Rule.enabled =
      RuleSource.settings.block path (world.read? path) := by
  rw [rulesInSettings, Settings.load]
  cases present : world.contains path with
  | false =>
      rw [World.read?_eq_none_of_not_contains present]
      rfl
  | true =>
      cases world.read? path with
      | none => rfl
      | some text =>
          rw [RuleSource.block, Option.bind_some, RuleSource.file?]
          dsimp only
          cases (Toml.readDatum text).toOption.bind Settings.ofDatum? with
          | none => rfl
          | some settings => exact RuleFile.filter_allRules ⟨settings.rules, settings.preserve⟩

/-- A variable adds the rules in the file at the path that it gives. -/
theorem flatMap_rulesOfVariable (sources : RuleSources) (world : World) :
    sources.environmentName.toList.flatMap (rulesOfVariable world) =
      (sources.path? world .named).toList.flatMap (rulesInFile world) := by
  rw [path?]
  cases sources.environmentName with
  | none => rfl
  | some name =>
      rw [Option.toList_some, List.flatMap_singleton, Option.bind_some, rulesOfVariable]
      cases namedValue? world name with
      | none => rfl
      | some value => exact (List.flatMap_singleton ..).symm

theorem filter_flatMap_path (source : RuleSource) {reads : List Char → List Rule}
    (adds : ∀ path, (reads path).filter Rule.enabled = source.block path (world.read? path)) :
    ((sources.path? world source).toList.flatMap reads).filter Rule.enabled =
      sources.block world source := by
  rw [block]
  cases sources.path? world source with
  | none => rfl
  | some path =>
      rw [Option.toList_some, List.flatMap_singleton]
      exact adds path

/-- The rules of all sources are their blocks in order. -/
theorem readAll_eq_flatMap (sources : RuleSources) (world : World) :
    sources.readAll world = RuleSource.all.flatMap (sources.block world) := by
  have global : (sources.global.toList.flatMap (rulesInFile world)).filter Rule.enabled =
      sources.block world .global :=
    filter_flatMap_path .global (filter_rulesInFile (by decide) world)
  have project : (sources.project.toList.flatMap (rulesInFile world)).filter Rule.enabled =
      sources.block world .project :=
    filter_flatMap_path .project (filter_rulesInFile (by decide) world)
  have settings : (sources.settings.toList.flatMap (rulesInSettings world)).filter Rule.enabled =
      sources.block world .settings :=
    filter_flatMap_path .settings (filter_rulesInSettings world)
  have named : ((sources.path? world .named).toList.flatMap (rulesInFile world)).filter
      Rule.enabled = sources.block world .named :=
    filter_flatMap_path .named (filter_rulesInFile (by decide) world)
  rw [readAll, flatMap_rulesOfVariable]
  simp only [List.filter_append, global, project, settings, named]
  simp [RuleSource.all]

/-! ## What a block depends on -/

/-- The path of a source is given, but for the one that a variable names. -/
theorem path?_congr (sameVariables : source = .named → other.environment = world.environment) :
    sources.path? other source = sources.path? world source := by
  cases source with
  | named =>
      have same := sameVariables rfl
      have values : namedValue? other = namedValue? world := by
        funext name
        rw [namedValue?, namedValue?, World.variableValue?_congr same]
      have expands : Path.expand other = Path.expand world :=
        funext (World.expand_congr same)
      rw [path?, path?, values, expands]
  | _ => rfl

/-- A block depends on the text at the path of its source only, and on the variables if the path
comes from one. -/
theorem block_congr (sameVariables : source = .named → other.environment = world.environment)
    (texts : ∀ path, sources.path? world source = some path →
      other.read? path = world.read? path) :
    sources.block other source = sources.block world source := by
  rw [block, block, path?_congr sameVariables]
  cases given : sources.path? world source with
  | none => rfl
  | some path =>
      show source.block path (other.read? path) = source.block path (world.read? path)
      rw [texts path given]

/-- Where the places of all sources are different, those of two sources are. -/
theorem namesOf_ne (apart : (sources.places world).Nodup) {first second : RuleSource}
    (differ : first ≠ second) {path secondPath : List Char}
    (given : sources.path? world first = some path)
    (givenSecond : sources.path? world second = some secondPath) :
    world.namesOf path ≠ world.namesOf secondPath := by
  rw [places, List.Nodup, List.pairwise_map, List.pairwise_filterMap] at apart
  have symmetric : Std.Symm fun first second =>
      ∀ path, sources.path? world first = some path →
        ∀ secondPath, sources.path? world second = some secondPath →
          world.namesOf path ≠ world.namesOf secondPath :=
    ⟨fun _ _ separate _ given _ givenSecond => (separate _ givenSecond _ given).symm⟩
  have separate := apart.forall (RuleSource.mem_all first) (RuleSource.mem_all second) differ
  exact separate path given secondPath givenSecond

/-- A source whose file fails adds nothing. -/
theorem block_of_fails (given : sources.path? world source = some path)
    (fails : source.Fails path (world.find path)) : sources.block world source = [] := by
  rw [block, given]
  show source.block path (world.read? path) = []
  rw [World.read?]
  generalize world.find path = found at fails
  cases fails with
  | missing => rfl
  | unreadable names => rfl
  | notText names => rfl
  | malformed names text unread =>
      show source.block path (some text) = []
      rw [RuleSource.block, Option.bind_some, unread]

/-- A source whose file can be read adds the enabled rules of it. -/
theorem block_of_file (given : sources.path? world source = some path) {names : List String}
    {text : List Char} {file : RuleFile} (found : world.find path = some (.file names (.text text)))
    (content : source.file? path text = some file) :
    sources.block world source = file.enabledRules := by
  rw [block, given]
  show source.block path (world.read? path) = _
  rw [World.read?, found]
  show source.block path (some text) = _
  rw [RuleSource.block, Option.bind_some, content]

/-! ## One source in another world -/

/-- The file of a source does not matter for the block of another one, unless this one finds its own
file by way of the other as a directory. -/
theorem block_eq_of_differsOnlyAt (apart : (sources.places world).Nodup)
    {changed : RuleSource} (differ : source ≠ changed)
    (given : sources.path? world changed = some path)
    (differs : World.DiffersOnlyAt (world.namesOf path) world other)
    (clear : ∀ otherPath, sources.path? world source = some otherPath →
      world.PassesBy otherPath (world.namesOf path) →
        ¬ world.HasDirectory (world.namesOf path) ∧ ¬ other.HasDirectory (world.namesOf path)) :
    sources.block other source = sources.block world source := by
  apply block_congr fun _ => differs.sameVariables
  intro otherPath givenOther
  have elsewhere := namesOf_ne apart differ givenOther given
  rw [World.read?, World.read?, differs.find_eq elsewhere (clear otherPath givenOther)]

/-- Where only one block differs, the others stay in front of it and behind it. -/
theorem readAll_eq_of_blocks (changed : RuleSource)
    (same : ∀ source, source ≠ changed →
      sources.block other source = sources.block world source) :
    sources.readAll other =
      changed.before.flatMap (sources.block world) ++ sources.block other changed ++
        changed.behind.flatMap (sources.block world) := by
  have front : changed.before.flatMap (sources.block other) =
      changed.before.flatMap (sources.block world) :=
    List.flatMap_congr fun source member =>
      same source (RuleSource.ne_of_mem_before changed source member)
  have back : changed.behind.flatMap (sources.block other) =
      changed.behind.flatMap (sources.block world) :=
    List.flatMap_congr fun source member =>
      same source (RuleSource.ne_of_mem_behind changed source member)
  rw [readAll_eq_flatMap, RuleSource.all_eq changed, List.flatMap_append, List.flatMap_cons, front,
    back, List.append_assoc]

end RuleSources

theorem RuleLoader.load_new (sources : RuleSources) (world : World) :
    ((RuleLoader.new sources).load world).1 = sources.readAll world := rfl

/-- A fresh load gives the blocks of the four sources in order. A block depends on the text of its
own source only, and on the variables if one of them names the source. It is empty where the file
fails, and else holds the enabled rules of the file and then those of its enabled entries. So where
the sources have different places, any other file in the place of one of them, or none, changes its
own block and no other. Only where a directory comes or goes with the change, the other paths may
not lead through it. -/
theorem RuleLoader.load_is_union_of_blocks (sources : RuleSources) (world : World) :
    ((RuleLoader.new sources).load world).1 =
        sources.block world .global ++ sources.block world .project ++
          sources.block world .settings ++ sources.block world .named ∧
    (∀ (source : RuleSource) (other : World),
      (source = .named → other.environment = world.environment) →
      (∀ path, sources.path? world source = some path → other.read? path = world.read? path) →
        sources.block other source = sources.block world source) ∧
    (∀ source : RuleSource, sources.path? world source = none →
      sources.block world source = []) ∧
    (∀ (source : RuleSource) (path : List Char), sources.path? world source = some path →
      (source.Fails path (world.find path) → sources.block world source = []) ∧
      (¬ source.Fails path (world.find path) →
        ∃ names text file, world.find path = some (.file names (.text text)) ∧
          source.file? path text = some file ∧
          sources.block world source =
            file.rules.filter (·.enabled) ++
              (file.preserve.filter (·.enabled)).map PreserveEntry.rule)) ∧
    ∀ (source : RuleSource) (path : List Char) (other : World),
      (sources.places world).Nodup →
      sources.path? world source = some path →
      World.DiffersOnlyAt (world.namesOf path) world other →
      (∀ another anotherPath, another ≠ source →
        sources.path? world another = some anotherPath →
        world.PassesBy anotherPath (world.namesOf path) →
          ¬ world.HasDirectory (world.namesOf path) ∧
            ¬ other.HasDirectory (world.namesOf path)) →
        ((RuleLoader.new sources).load world).1 =
            source.before.flatMap (sources.block world) ++ sources.block world source ++
              source.behind.flatMap (sources.block world) ∧
          ((RuleLoader.new sources).load other).1 =
            source.before.flatMap (sources.block world) ++ sources.block other source ++
              source.behind.flatMap (sources.block world) := by
  refine ⟨?_, ?_, ?_, ?_, ?_⟩
  · rw [load_new, RuleSources.readAll_eq_flatMap]
    simp [RuleSource.all]
  · intro source other sameVariables texts
    exact RuleSources.block_congr sameVariables texts
  · intro source absent
    rw [RuleSources.block, absent]
  · intro source path given
    refine ⟨RuleSources.block_of_fails given, ?_⟩
    intro works
    obtain ⟨names, text, file, found, content⟩ :=
      (source.fails_or_file path (world.find path)).resolve_left works
    exact ⟨names, text, file, found, content, RuleSources.block_of_file given found content⟩
  · intro source path other apart given differs clear
    constructor
    · exact RuleSources.readAll_eq_of_blocks source fun _ _ => rfl
    · apply RuleSources.readAll_eq_of_blocks source
      intro another differ
      exact RuleSources.block_eq_of_differsOnlyAt apart differ given differs
        fun anotherPath givenAnother => clear another anotherPath differ givenAnother

/-- The text of a rule file with one rule of the given name. -/
private def ruleNamed (name : String) : List Char :=
  "\x7b\"rules\":[\x7b\"name\":\"".toList ++ name.toList ++
    "\",\"target_files\":[],\"actions\":[]\x7d]\x7d".toList

/-- One source of each kind. -/
private def fourSources : RuleSources :=
  ⟨some "/home/rules.json".toList, some "rules.json".toList, some "synckeep.toml".toList,
    some "RULES"⟩

/-- The place of the rule file of a project. -/
private def projectPlace : List String := ["project", "rules.json"]

/-- A file with one rule for each source; the rule file of the project comes last. -/
private def fourFiles : World :=
  let world := World.empty ["project"] [("RULES", "extra.json")]
  let world := world.write "/home/rules.json".toList (ruleNamed "first")
  let world := world.write "synckeep.toml".toList
    "[[rule]]\nname = \"third\"\ntarget_files = []\nactions = []".toList
  let world := world.write "extra.json".toList (ruleNamed "fourth")
  world.put projectPlace (.text (ruleNamed "second"))

/-- The same files, but no text in the rule file of the project. -/
private def threeFiles : World := fourFiles.put projectPlace .notText

/-- A rule file that holds no text takes its own rules away, and no others. -/
theorem broken_project_file_keeps_others :
    (fourSources.places fourFiles).Nodup ∧
    fourSources.path? fourFiles .project = some "rules.json".toList ∧
    fourFiles.IsHoused projectPlace ∧
    ((RuleLoader.new fourSources).load fourFiles).1.map Rule.name =
      ["first", "second", "third", "fourth"] ∧
    ((RuleLoader.new fourSources).load threeFiles).1.map Rule.name =
      ["first", "third", "fourth"] := by
  have apart : (fourSources.places fourFiles).Nodup := by decide +kernel
  have housed : fourFiles.IsHoused projectPlace := by decide +kernel
  have place : fourFiles.namesOf "rules.json".toList = projectPlace := by decide +kernel
  have differs : World.DiffersOnlyAt (fourFiles.namesOf "rules.json".toList) fourFiles
      threeFiles := by
    rw [place]
    exact World.differsOnlyAt_put housed .notText
  obtain ⟨original, broken⟩ :=
    (RuleLoader.load_is_union_of_blocks fourSources fourFiles).2.2.2.2 .project
      "rules.json".toList threeFiles apart rfl differs fun _ _ _ _ _ => by
        rw [place]
        exact ⟨World.not_hasDirectory_put _ projectPlace _,
          World.not_hasDirectory_put _ projectPlace _⟩
  refine ⟨apart, rfl, housed, ?_, ?_⟩
  · rw [original]
    decide +kernel
  · rw [broken]
    decide +kernel

end ReleaseRules
