import Mathlib.Order.Lattice
import ReleaseRules.Proofs.Rules.VersionUpdate
import ReleaseRules.Proofs.Version.Order

/-!
Contract: runs for one release after another keep the greatest version.

Owns:
- one run: the version at the key is the greater one of the old and the released version;
- runs in sequence, and that their order does not matter.

Does not own: values that are more than a version.
-/

namespace ReleaseRules

/-- A comparing strategy lets a version go for no smaller one, and keeps it from no greater one. -/
theorem Strategy.compares {strategy : Strategy} {current candidate : List Char} {old new : Version}
    (comparing : strategy = .ifNewer ∨ strategy = .ifNewerOrEqual)
    (isOld : Version.parse? current = some old) (isNew : Version.parse? candidate = some new) :
    (strategy.allows current candidate = true → old ≤ new) ∧
      (strategy.allows current candidate = false → new ≤ old) := by
  rw [← Bool.not_eq_true, allows_iff]
  rcases comparing with rfl | rfl
  · have passes : Passes .ifNewer current candidate ↔ old < new := by
      simp [Passes, isOld, isNew]
    rw [passes, not_lt]
    exact ⟨le_of_lt, id⟩
  · have passes : Passes .ifNewerOrEqual current candidate ↔ old ≤ new := by
      simp [Passes, isOld, isNew]
    rw [passes, not_le]
    exact ⟨id, le_of_lt⟩

/-- A text is an object in JSON with a written version at a key, nested no deeper than the
reader allows. -/
structure HoldsVersion (key : String) (text : List Char) (version : Version) : Prop where
  object : ∃ entries current, HoldsObject text entries ∧
    (Tree.map entries).depth ≤ Json.nestingLimit ∧
    KeyPath.get (.map entries) key = some (.text current) ∧
    Version.isWritten current.toList = true ∧ Version.parse? current.toList = some version

namespace Engine

/-- The text after a run for every context, each over the text that the one before has left. -/
def processAll (world : World) (rules : List Rule) (path : List Char) (contexts : List Context)
    (text : List Char) : List Char :=
  contexts.foldl (fun text context => (process world rules path text context).text) text

/-- The version at a key of a text. -/
def versionAt (key : String) (text : List Char) : Option Version := do
  let document ← (Document.parse text).toOption
  let value ← document.get key
  let shown ← value.asText
  Version.parse? shown.toList

theorem versionAt_of_holdsVersion {key : String} {text : List Char} {version : Version}
    (holds : HoldsVersion key text version) : versionAt key text = some version := by
  obtain ⟨entries, current, object, -, found, -, parsed⟩ := holds.object
  have there : (HoldsObject.document text entries).get key = some (.text current) := found
  simp [versionAt, object.parse, Except.toOption, there, Tree.asText, parsed]

variable (world : World) {rule : Rule} {path : List Char} {key : String} {strategy : Strategy}

/-- One run for a release leaves the greater one of the two versions at the key. -/
theorem process_holdsVersion {text : List Char} {version : Version} {context : Context}
    (about : rule.isAbout path = true) (unconditional : rule.conditions = [])
    (single : rule.actions = [.updateWhole key .tagWithoutMark strategy])
    (comparing : strategy = .ifNewer ∨ strategy = .ifNewerOrEqual)
    (isTag : Version.isReleaseTag context.tag.toList = true)
    (holds : HoldsVersion key text version) :
    ∃ released, Version.parse? context.tag.toList = some released ∧
      HoldsVersion key (process world [rule] path text context).text (max version released) := by
  obtain ⟨entries, current, object, deep, found, written, parsed⟩ := holds.object
  have candidate : VersionSource.tagWithoutMark.resolve context =
      Version.withoutMark context.tag.toList := by
    rw [VersionSource.resolve, Context.tagWithoutMark, String.toList_ofList]
  obtain ⟨released, isReleased⟩ :=
    Option.isSome_iff_exists.mp (Version.parse?_isSome_of_isWritten isTag)
  have parsedTag := (Version.parse?_of_isReleaseTag isTag).trans isReleased
  refine ⟨released, parsedTag, ?_⟩
  rw [process_single world context about unconditional single, Action.textAfter_eq _ _ _ _ rfl]
  obtain ⟨rises, keeps⟩ := Strategy.compares comparing parsed isReleased
  rw [← candidate] at rises keeps isReleased
  by_cases writes : strategy.allows current.toList (VersionSource.tagWithoutMark.resolve context) =
      true ∧ String.ofList (VersionSource.tagWithoutMark.resolve context) ≠ current
  · obtain ⟨next, changed, rewritten, objectNext, deepNext, foundNext⟩ :=
      object.rewrite_eq_some deep found written writes.1 writes.2
    rw [rewritten, Option.getD_some, max_eq_right (rises writes.1)]
    refine ⟨changed, _, objectNext, deepNext, foundNext, ?_, ?_⟩
    · rw [String.toList_ofList, candidate]
      exact isTag
    · rw [String.toList_ofList, isReleased]
  · have same : strategy.allows current.toList
          (VersionSource.tagWithoutMark.resolve context) = true →
        String.ofList (VersionSource.tagWithoutMark.resolve context) = current :=
      fun allowed => by_contra fun differs => writes ⟨allowed, differs⟩
    have notGreater : released ≤ version := by
      cases allowed : strategy.allows current.toList
          (VersionSource.tagWithoutMark.resolve context) with
      | false => exact keeps allowed
      | true =>
          -- The update would write the text that stands there already.
          rw [← same allowed, String.toList_ofList, isReleased] at parsed
          exact (Option.some.inj parsed).le
    rw [object.rewrite_eq_none found written same, Option.getD_none, max_eq_left notGreater]
    exact holds

/-- Runs in sequence leave the greatest of all versions. -/
theorem processAll_holdsVersion (about : rule.isAbout path = true)
    (unconditional : rule.conditions = [])
    (single : rule.actions = [.updateWhole key .tagWithoutMark strategy])
    (comparing : strategy = .ifNewer ∨ strategy = .ifNewerOrEqual) {contexts : List Context}
    (tags : ∀ context ∈ contexts, Version.isReleaseTag context.tag.toList = true)
    {text : List Char} {version : Version} (holds : HoldsVersion key text version) :
    ∃ released : List Version,
      (contexts.map fun context => Version.parse? context.tag.toList) = released.map some ∧
        HoldsVersion key (processAll world [rule] path contexts text)
          (released.foldl max version) := by
  induction contexts generalizing text version with
  | nil => exact ⟨[], rfl, holds⟩
  | cons context rest inductionHypothesis =>
      obtain ⟨first, parsed, holdsNext⟩ := process_holdsVersion world about unconditional single
        comparing (tags context List.mem_cons_self) holds
      obtain ⟨others, parsedOthers, holdsFinal⟩ := inductionHypothesis
        (fun other member => tags other (List.mem_cons_of_mem _ member)) holdsNext
      refine ⟨first :: others, ?_, holdsFinal⟩
      rw [List.map_cons, List.map_cons, parsed, parsedOthers]

/-- **Release order.** Runs of one rule that updates a written version at a key leave the greatest
of the old version and all released ones there, in whatever order the releases come. -/
theorem processAll_keeps_greatest_version (world : World) (rule : Rule) (path : List Char)
    (key : String) (strategy : Strategy) (contexts : List Context) (text : List Char)
    (entries : List (String × Tree)) (current : String)
    (read : Json.readTree text = .ok (.map entries))
    (whole : (Tree.map entries).isWhole = true)
    (deep : (Tree.map entries).depth ≤ Json.nestingLimit)
    (found : KeyPath.get (.map entries) key = some (.text current))
    (written : Version.isWritten current.toList = true)
    (about : rule.isAbout path = true) (unconditional : rule.conditions = [])
    (single : rule.actions =
      [.updateVersion key "\x7bversion\x7d" .tagWithoutMark (some strategy)])
    (comparing : strategy = .ifNewer ∨ strategy = .ifNewerOrEqual)
    (tags : ∀ context ∈ contexts, Version.isReleaseTag context.tag.toList = true) :
    ∃ (initial : Version) (released : List Version), Version.parse? current.toList = some initial ∧
      (contexts.map fun context => Version.parse? context.tag.toList) = released.map some ∧
      versionAt key (processAll world [rule] path contexts text) =
        some (released.foldl max initial) ∧
      ∀ reordered, reordered.Perm contexts →
        versionAt key (processAll world [rule] path reordered text) =
          some (released.foldl max initial) := by
  obtain ⟨initial, parsed⟩ :=
    Option.isSome_iff_exists.mp (Version.parse?_isSome_of_isWritten written)
  have holds : HoldsVersion key text initial :=
    ⟨entries, current, ⟨read, whole⟩, deep, found, written, parsed⟩
  obtain ⟨released, areReleased, final⟩ :=
    processAll_holdsVersion world about unconditional single comparing tags holds
  refine ⟨initial, released, parsed, areReleased, versionAt_of_holdsVersion final, ?_⟩
  intro reordered permuted
  obtain ⟨others, areOthers, finalOther⟩ := processAll_holdsVersion world about
    unconditional single comparing
    (fun context member => tags context (permuted.mem_iff.mp member)) holds
  have sameVersions : others.Perm released := by
    have mapped := permuted.map fun context => Version.parse? context.tag.toList
    rw [areOthers, areReleased] at mapped
    simpa [List.filterMap_map] using mapped.filterMap id
  rw [versionAt_of_holdsVersion finalOther, sameVersions.foldl_eq]

private def versionRule : Rule :=
  Rule.new "release" ["*.json"]
    [.updateVersion "version" "\x7bversion\x7d" .tagWithoutMark (some .ifNewer)]

private def taggedContext (tag : String) : Context := ⟨tag, "2026-01-15", [], false, none⟩

/-- Of three versions, the one with the greatest minor number stays. -/
theorem processAll_keeps_greatest_of_three :
    versionAt "version" (processAll ⟨[], [], [], []⟩ [versionRule] "a.json".toList
      [taggedContext "v1.10", taggedContext "V1.9.1"]
      "\x7b\"version\":\"1.2.3\"\x7d".toList) = some ⟨1, 10, 0⟩ := by
  obtain ⟨initial, released, parsed, areReleased, final, -⟩ :=
    processAll_keeps_greatest_version ⟨[], [], [], []⟩ versionRule "a.json".toList "version"
      .ifNewer [taggedContext "v1.10", taggedContext "V1.9.1"]
      "\x7b\"version\":\"1.2.3\"\x7d".toList [("version", .text "1.2.3")] "1.2.3"
      (ok_of_toOption (by decide +kernel)) (by decide) (by decide) (by decide +kernel)
      (by decide) (by decide +kernel) rfl rfl (.inl rfl) (by decide)
  obtain rfl : initial = ⟨1, 2, 3⟩ := Option.some.inj (parsed.symm.trans (by decide))
  obtain rfl : released = [⟨1, 10, 0⟩, ⟨1, 9, 1⟩] := by
    refine List.map_injective_iff.mpr (Option.some_injective _) (areReleased.symm.trans ?_)
    decide
  rw [final]
  decide

end Engine

end ReleaseRules
