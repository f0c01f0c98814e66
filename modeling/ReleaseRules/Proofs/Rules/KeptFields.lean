import ReleaseRules.Proofs.Rules.VersionUpdate
import ReleaseRules.Proofs.Version.FirstMatch
import ReleaseRules.Proofs.Version.Order

/-!
Contract: the rules of fields that are kept in step with the release.

Owns:
- the update of the first version in a value;
- a field without a value of its own stays as it is unless the release is newer;
- a field with a value of its own gets this value, whatever versions there are.

Does not own: fields with patterns of their own.
-/

namespace ReleaseRules

open VersionPattern (firstVersion?)

namespace Edit

/-- The update with the pattern for the first version puts the candidate in its place. -/
theorem updatedVersion_anywhere (strategy : Option Strategy) (candidate : List Char)
    (current : String) :
    updatedVersion VersionPattern.anywhereRegex strategy candidate current =
      (firstVersion? current.toList).bind fun cut =>
        if strategy.all fun strategy => strategy.allows cut.version candidate then
          some (String.ofList (cut.before ++ candidate ++ cut.behind))
        else none := by
  have found := VersionPattern.find_anywhere current.toList
  cases first : firstVersion? current.toList with
  | none =>
      rw [first] at found
      simp [updatedVersion, found]
  | some cut =>
      rw [first, Option.map_some] at found
      simp only [updatedVersion, found, VersionPattern.named_match, bind, pure, Option.bind_some,
        VersionPattern.characters_span first, VersionPattern.characters_before first,
        VersionPattern.characters_behind first]

/-- A value that is read as a version stays as it is unless the candidate is newer. -/
theorem updatedVersion_anywhere_of_not_newer {candidate : List Char} {current : String}
    {old : Version} (isVersion : Version.parse? current.toList = some old)
    (notNewer : ∀ new, Version.parse? candidate = some new → ¬ old < new) :
    updatedVersion VersionPattern.anywhereRegex (some .ifNewer) candidate current = none := by
  obtain ⟨cut, first, parsedCut⟩ := VersionPattern.exists_firstVersion_of_parse? isVersion
  have refused : Strategy.ifNewer.allows cut.version candidate = false := by
    rw [Bool.eq_false_iff]
    intro allowed
    obtain ⟨version, new, isOld, isNew, newer⟩ := (Strategy.allows_iff _ _ _).mp allowed
    obtain rfl : old = version := Option.some.inj (parsedCut.symm.trans isOld)
    exact notNewer new isNew newer
  rw [updatedVersion_anywhere, first, Option.bind_some, Option.all_some, refused]
  rfl

/-- Only a text counts as the same value as a text, and only the same one. -/
theorem eq_of_isUnchanged_text {current : String} {new : Tree}
    (unchanged : isUnchanged (some (.text current)) new = true) : new = .text current := by
  cases new with
  | text updated =>
      rw [isUnchanged_text, beq_iff_eq] at unchanged
      rw [unchanged]
  | _ => cases unchanged

end Edit

namespace PreserveEntry

/-- The entry with one field and nothing else to keep. -/
def withField (entry : PreserveEntry) (field : KeptField) : PreserveEntry :=
  { entry with fields := [field], texts := [] }

variable {entry : PreserveEntry} {field : KeptField}

theorem actions_withField (entry : PreserveEntry) (field : KeptField) :
    (entry.withField field).rule.actions = field.action?.toList := by
  rw [rule, withField]
  cases shown : field.action? with
  | none => simp [shown]
  | some action => simp [shown]

section Runs

variable {world : World} {path text : List Char} {context : Context} {document : Document}
  {current : String}

/-- A field without a value and a pattern of its own leaves a version alone that is not older than
the release, if it is replaced by newer versions only. -/
theorem run_without_value (noValue : field.value = none) (noPattern : field.pattern = none)
    (strategy : field.strategy = .ifNewer) (parsed : Document.parse text = .ok document)
    (found : document.get field.key = some (.text current)) {old : Version}
    (isVersion : Version.parse? current.toList = some old)
    (notNewer : ∀ new, Version.parse? context.tagWithoutMark.toList = some new → ¬ old < new) :
    Engine.process world [(entry.withField field).rule] path text context =
      ⟨false, text, [], []⟩ := by
  let update : Action :=
    .updateVersion field.key VersionPattern.anywhere .tagWithoutMark (some .ifNewer)
  have action : field.action? = some update := by
    simp [KeptField.action?, noValue, noPattern, strategy, update]
  have idle : update.apply (entry.withField field).rule.name context text = none := by
    rw [Action.apply_eq_none_iff _ _ _ _ rfl]
    apply Action.rewrite_eq_none_of_keeps parsed rfl
    intro new computed
    rw [found, Action.compute_updateVersion VersionPattern.compile_anywhere, VersionSource.resolve,
      Edit.updatedVersion_anywhere_of_not_newer isVersion notNewer] at computed
    cases computed
  apply Engine.process_of_idle
  intro rule member
  obtain rfl := List.mem_singleton.mp member
  rw [actions_withField, action, Option.toList_some, Rule.applyActions_cons, idle]
  rfl

/-- A field with a value of its own leaves this value at its key. -/
theorem run_with_value {value : Tree} {entries : List (String × Tree)}
    (hasValue : field.value = some value) (replaced : field.strategy ≠ .never)
    (about : (entry.withField field).rule.isAbout path = true) (holds : HoldsObject text entries)
    (found : KeyPath.get (.map entries) field.key = some (.text current))
    (whole : value.isWhole = true) (keyed : value.isKeyed = true)
    (deep : (KeyPath.write (value.expandTemplates context.bindings) (.map entries)
      (KeyPath.segments field.key)).depth ≤ Json.nestingLimit) :
    ∃ after,
      Document.parse (Engine.process world [(entry.withField field).rule] path text context).text =
        .ok after ∧
      after.get field.key = some (value.expandTemplates context.bindings) := by
  let replace : Action := .replaceValue field.key value
  have single : (entry.withField field).rule.actions = [replace] := by
    rw [actions_withField, KeptField.action?, if_neg replaced, hasValue]
    rfl
  have there : (HoldsObject.document text entries).get field.key = some (.text current) := found
  rw [Engine.process_single world context about rfl single text, Action.textAfter_eq _ _ _ _ rfl]
  cases unchanged : Edit.isUnchanged (some (.text current))
      (value.expandTemplates context.bindings) with
  | true =>
      have stays : replace.rewrite context text = none := by
        apply Action.rewrite_eq_none_of_keeps holds.parse rfl
        intro new computed
        obtain rfl := Option.some.inj computed
        rw [there]
        exact unchanged
      rw [stays, Edit.eq_of_isUnchanged_text unchanged]
      exact ⟨_, holds.parse, there⟩
  | false =>
      have carriesExact : replace.isExact = true := by
        simp [replace, Action.isExact, Action.value?, whole, keyed]
      obtain ⟨next, changed, rewritten, holdsNext, -, written⟩ :=
        holds.rewrite_of_compute rfl carriesExact found rfl unchanged deep
      rw [rewritten]
      exact ⟨_, holdsNext.parse, written⟩

end Runs

/-- **Kept fields.** Where a version stands at the key of a field without a value and a pattern of
its own, the rule of the field changes nothing unless the release is newer, if this is the strategy
of the field. A field with a value of its own gets this value under every strategy that replaces at
all. -/
theorem run_of_field (world : World) (entry : PreserveEntry) (field : KeptField)
    (path text : List Char) (context : Context) (document : Document) (current : String)
    (parsed : Document.parse text = .ok document)
    (found : document.get field.key = some (.text current)) :
    let rule := (entry.withField field).rule
    let run := Engine.process world [rule] path text context
    (∀ old, field.value = none → field.pattern = none → field.strategy = .ifNewer →
      Version.parse? current.toList = some old →
      (∀ new, Version.parse? context.tagWithoutMark.toList = some new → ¬ old < new) →
      run = ⟨false, text, [], []⟩) ∧
    (∀ value entries, field.value = some value → field.strategy ≠ .never →
      rule.isAbout path = true → HoldsObject text entries →
      value.isWhole = true → value.isKeyed = true →
      (KeyPath.write (value.expandTemplates context.bindings) (.map entries)
        (KeyPath.segments field.key)).depth ≤ Json.nestingLimit →
      ∃ after, Document.parse run.text = .ok after ∧
        after.get field.key = some (value.expandTemplates context.bindings)) := by
  intro rule run
  constructor
  · intro old noValue noPattern strategy isVersion notNewer
    exact run_without_value noValue noPattern strategy parsed found isVersion notNewer
  · intro value entries hasValue replaced about holds whole keyed deep
    obtain rfl : document = HoldsObject.document text entries :=
      Except.ok.inj (parsed.symm.trans holds.parse)
    exact run_with_value hasValue replaced about holds found whole keyed deep

/-- An entry for one file. -/
private def packageEntry : PreserveEntry := ⟨none, true, ["package.json"], [], []⟩

/-- A field that is replaced by newer versions only. -/
private def versionField (value : Option Tree) : KeptField := ⟨"version", none, value, .ifNewer⟩

private def newerPackage : List Char := "\x7b\"version\":\"2.0.0\"\x7d".toList

private def olderRelease : Context := ⟨"v1.0.0", "2026-01-15", [], false, none⟩

private def bareWorld : World := ⟨[], [], [], []⟩

/-- An older release leaves the version of a field without a value alone. A value for the field
takes its place. -/
theorem run_of_field_for_older_release :
    (Engine.process bareWorld [(packageEntry.withField (versionField none)).rule]
      "package.json".toList newerPackage olderRelease).text = newerPackage ∧
    ∃ after, Document.parse (Engine.process bareWorld
        [(packageEntry.withField (versionField (some (.text "\x7btag_without_v\x7d")))).rule]
        "package.json".toList newerPackage olderRelease).text = .ok after ∧
      after.get "version" = some (.text "1.0.0") := by
  have holds : HoldsObject newerPackage [("version", .text "2.0.0")] :=
    ⟨ok_of_toOption (by decide +kernel), by decide⟩
  have found : (HoldsObject.document newerPackage [("version", .text "2.0.0")]).get "version" =
      some (.text "2.0.0") := by
    decide +kernel
  have notNewer : ∀ new, Version.parse? olderRelease.tagWithoutMark.toList = some new →
      ¬ (⟨2, 0, 0⟩ : Version) < new := by
    intro new parsed
    have released : Version.parse? olderRelease.tagWithoutMark.toList = some ⟨1, 0, 0⟩ := by
      decide +kernel
    obtain rfl := Option.some.inj (released.symm.trans parsed)
    rw [Version.lt_iff]
    decide
  constructor
  · have unchanged := (run_of_field bareWorld packageEntry (versionField none)
      "package.json".toList newerPackage olderRelease _ "2.0.0" holds.parse found).1 ⟨2, 0, 0⟩
      rfl rfl rfl (by decide +kernel) notNewer
    rw [unchanged]
  · have written := (run_of_field bareWorld packageEntry
      (versionField (some (.text "\x7btag_without_v\x7d"))) "package.json".toList newerPackage
      olderRelease _ "2.0.0" holds.parse found).2 _ _ rfl (by decide) (by decide +kernel) holds
      (by decide) (by decide) (by decide +kernel)
    have expanded : (Tree.text "\x7btag_without_v\x7d").expandTemplates olderRelease.bindings =
        .text "1.0.0" := by
      decide +kernel
    rw [expanded] at written
    exact written

/-- The version of a field with a value of its own is replaced by an older one, although the
strategy of the field asks for newer versions. -/
theorem field_value_replaces_newer_version :
    let field := versionField (some (.text "1.0.0"))
    let run := Engine.process bareWorld [(packageEntry.withField field).rule]
      "package.json".toList newerPackage olderRelease
    field.pattern = none ∧ field.strategy = .ifNewer ∧
    Version.parse? "2.0.0".toList = some ⟨2, 0, 0⟩ ∧
    Version.parse? olderRelease.tagWithoutMark.toList = some ⟨1, 0, 0⟩ ∧
    ¬ (⟨2, 0, 0⟩ : Version) < ⟨1, 0, 0⟩ ∧
    ((Document.parse newerPackage).toOption.bind (·.get "version")) = some (.text "2.0.0") ∧
    ((Document.parse run.text).toOption.bind (·.get "version")) = some (.text "1.0.0") := by
  decide +kernel

end PreserveEntry

end ReleaseRules
