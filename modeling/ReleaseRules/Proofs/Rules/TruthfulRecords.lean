import ReleaseRules.Proofs.Regex.Groups
import ReleaseRules.Proofs.Rules.KeptFields

/-!
Contract: the records of changes against the texts before and after them.

Owns:
- what the record of an edit says about the object in the text before and the one in the text after;
- what an update of a version leaves of the text around it.

Does not own: what is shown of the records.

The record is made from the trees in memory, and the new text from the tree with the value set.
That the two agree rests on reading the written text back.
-/

namespace ReleaseRules

/-- Every compiled version pattern is a compiled regular expression, as written or by way of its
placeholders. -/
theorem VersionPattern.isCompiled_of_compile {pattern : List Char} {regex : Regex}
    (compiled : compile pattern = .ok regex) : regex.IsCompiled := by
  cases chosen : (Regex.compile pattern).toOption.filter hasVersionGroup with
  | some asWritten =>
      simp only [compile, chosen] at compiled
      obtain rfl := Except.ok.inj compiled
      obtain ⟨isWritten, -⟩ := Option.filter_eq_some_iff.mp chosen
      exact Regex.isCompiled_of_compile (ok_of_toOption isWritten)
  | none =>
      simp only [compile, chosen] at compiled
      split at compiled
      · cases placeholders : Regex.compile (placeholderSource pattern) with
        | error reason =>
            rw [placeholders] at compiled
            cases compiled
        | ok other =>
            rw [placeholders] at compiled
            exact Except.ok.inj compiled ▸ Regex.isCompiled_of_compile placeholders
      · split at compiled <;> cases compiled

namespace Edit

/-- A text with a new version in the place of the old one: what the version group of a pattern
captures in its first match, and nothing else, gives way to the candidate. -/
def SplicesVersion (pattern : String) (candidate : List Char) (old new : Tree) : Prop :=
  ∃ (regex : Regex) (found : Regex.Match) (before version behind : List Char),
    VersionPattern.compile pattern.toList = .ok regex ∧
    regex.find (before ++ version ++ behind).toArray 0 = some found ∧
    found.named regex VersionPattern.versionGroup =
      some ⟨before.length, before.length + version.length⟩ ∧
    old = .text (String.ofList (before ++ version ++ behind)) ∧
    new = .text (String.ofList (before ++ candidate ++ behind))

/-- A text is made of what stands before a span, in it and behind it. -/
theorem exists_parts_of_span {text : List Char} {span : Regex.Span} (ordered : span.start ≤ span.stop)
    (inside : span.stop ≤ text.length) :
    ∃ before version behind, text = before ++ version ++ behind ∧
      span = ⟨before.length, before.length + version.length⟩ ∧
      (text.toArray.extract 0 span.start).toList = before ∧
      (text.toArray.extract span.stop text.length).toList = behind := by
  obtain ⟨start, stop⟩ := span
  have whole : text = text.take start ++ (text.drop start).take (stop - start) ++ text.drop stop := by
    have dropped : text.drop stop = (text.drop start).drop (stop - start) := by
      rw [List.drop_drop, Nat.add_sub_cancel' ordered]
    rw [dropped, List.append_assoc, List.take_append_drop, List.take_append_drop]
  refine ⟨text.take start, (text.drop start).take (stop - start), text.drop stop, whole, ?_, ?_, ?_⟩
  · simp only [List.length_take, List.length_drop, Regex.Span.mk.injEq]
    simp only at ordered inside
    omega
  · simp
  · simp

variable {regex : Regex} {strategy : Option Strategy} {candidate : List Char}
  {pattern current updated : String}

/-- The update of a value replaces the captured version in it and keeps the rest. -/
theorem splicesVersion_of_updatedVersion
    (compiled : VersionPattern.compile pattern.toList = .ok regex)
    (done : updatedVersion regex strategy candidate current = some updated) :
    SplicesVersion pattern candidate (.text current) (.text updated) := by
  obtain ⟨found, span, isFound, captured, -, rfl⟩ := captured_of_updatedVersion done
  obtain ⟨-, ordered, inside⟩ := Regex.bounds_of_named
    (VersionPattern.isCompiled_of_compile compiled) isFound captured
  rw [List.size_toArray] at inside
  obtain ⟨before, version, behind, parts, rfl, isBefore, isBehind⟩ :=
    exists_parts_of_span ordered inside
  rw [parts] at isFound
  refine ⟨regex, found, before, version, behind, compiled, isFound, captured, ?_, ?_⟩
  · rw [← parts, String.ofList_toList]
  · rw [isBefore, isBehind]

end Edit

namespace Action

variable {action : Action} {rule key pattern : String} {context : Context}
  {text next : List Char} {change : Change} {entries : List (String × Tree)}
  {source : VersionSource} {strategy : Option Strategy}

/-- The new value of an update of a version has the text of the old one around the version. -/
theorem splicesVersion_of_compute {old : Option Tree} {new : Tree}
    (computed : (updateVersion key pattern source strategy).compute context old = some new) :
    ∃ current, old = some current ∧
      Edit.SplicesVersion pattern (source.resolve context) current new := by
  simp only [compute, bind, Option.bind_eq_some_iff, pure, Option.some.injEq] at computed
  obtain ⟨regex, compiled, current, ⟨value, rfl, isText⟩, updated, done, rfl⟩ := computed
  obtain rfl : value = .text current := by
    cases value <;> simp_all [Tree.asText]
  exact ⟨_, rfl, Edit.splicesVersion_of_updatedVersion (ok_of_toOption compiled) done⟩

/-- **Records tell the truth.** An action that changes a text with an object in it leaves a text
with an object again, as long as what it writes can be read. At the key of the action the new
object has the value that the action computed from the old one; the record shows this value as the
new one and the value in the old object, if there was one, as the old one; and the two differ. An
update of a version has kept what stood around the version. -/
theorem record_of_apply (holds : HoldsObject text entries) (isKey : action.key? = some key)
    (carriesExact : action.isExact = true)
    (readable : Attempt.isReadable context ⟨rule, action, text⟩ = true)
    (applied : action.apply rule context text = some (next, change)) :
    ∃ new changed, HoldsObject next changed ∧
      Document.parse next = .ok (HoldsObject.document next changed) ∧
      KeyPath.get (.map changed) key = some new ∧
      action.compute context (KeyPath.get (.map entries) key) = some new ∧
      change.key = some key ∧ change.newValue = some new.display ∧
      change.oldValue = (KeyPath.get (.map entries) key).map Tree.display ∧
      (∀ old ∈ KeyPath.get (.map entries) key, old.same new = false) ∧
      ∀ pattern source strategy, action = .updateVersion key pattern source strategy →
        ∃ old, KeyPath.get (.map entries) key = some old ∧
          Edit.SplicesVersion pattern (source.resolve context) old new := by
  obtain ⟨edited, edits, same⟩ := Option.map_eq_some_iff.mp applied
  obtain ⟨describe, isEdit⟩ := edit_eq_editValue isKey context text
  obtain ⟨document, new, written, parsed, computed, differs, isSet, -, named, oldShown, newShown⟩ :=
    Edit.exists_of_editValue (isEdit.symm.trans edits)
  obtain rfl : document = HoldsObject.document text entries :=
    Except.ok.inj (parsed.symm.trans holds.parse)
  obtain ⟨key', new', changed, isKey', computed', -, isSet', -, holdsNext⟩ :=
    holds.difference_of_attempt (isRaw_of_key? isKey) carriesExact readable applied
  obtain rfl := Option.some.inj (isKey.symm.trans isKey')
  obtain rfl := Option.some.inj (computed.symm.trans computed')
  obtain rfl := (Prod.mk.inj same).2
  refine ⟨new, changed, holdsNext, holdsNext.parse, KeyPath.get_of_set isSet', computed, named,
    newShown, oldShown, fun old found => ?_, fun pattern source strategy isUpdate => ?_⟩
  · rw [HoldsObject.document, Document.get, Option.mem_def.mp found] at differs
    exact differs
  · rw [isUpdate] at computed
    exact splicesVersion_of_compute computed

end Action

/-- An update of a version writes a text in the place of a text, so it can be read again if the old
object could be written at all. -/
theorem HoldsObject.isReadable_updateVersion {rule key pattern : String} {context : Context}
    {text : List Char} {entries : List (String × Tree)} {source : VersionSource}
    {strategy : Option Strategy} (holds : HoldsObject text entries)
    (deep : (Tree.map entries).depth ≤ Json.nestingLimit) :
    Attempt.isReadable context ⟨rule, .updateVersion key pattern source strategy, text⟩ = true := by
  rw [Attempt.isReadable, holds.parse, Option.all_eq_true]
  intro written revised
  obtain ⟨key', new, changed, isKey, computed, -, isSet, rfl, -⟩ := holds.revise rfl revised
  obtain rfl := Option.some.inj isKey
  obtain ⟨old, found, regex, shown, before, version, behind, -, -, -, rfl, rfl⟩ :=
    Action.splicesVersion_of_compute computed
  obtain ⟨-, -, same⟩ := KeyPath.set_eq_ok_iff.mp isSet
  rw [decide_eq_true_iff, same]
  exact (HoldsObject.depth_write_text_le found _).trans deep

namespace Action

private def archiveUpdate : Action :=
  .updateVersion "archive" VersionPattern.anywhere .tagWithoutMark none

private def nextRelease : Context := ⟨"v2.0", "2026-01-15", [], false, none⟩

private def archiveText : List Char := "\x7b\"archive\":\"app-1.5.zip\"\x7d".toList

/-- The record of an update inside of a name. -/
theorem record_of_archive_update :
    ∃ next change changed,
      archiveUpdate.apply "bump" nextRelease archiveText = some (next, change) ∧
      Json.readTree next = .ok (.map changed) ∧
      KeyPath.get (.map changed) "archive" = some (.text "app-2.0.zip") ∧
      change.oldValue = some "app-1.5.zip" ∧ change.newValue = some "app-2.0.zip" := by
  have holds : HoldsObject archiveText [("archive", .text "app-1.5.zip")] :=
    ⟨ok_of_toOption (by decide +kernel), by decide⟩
  have found : KeyPath.get (.map [("archive", .text "app-1.5.zip")]) "archive" =
      some (.text "app-1.5.zip") := by
    decide
  have updated : Edit.updatedVersion VersionPattern.anywhereRegex none
      (VersionSource.tagWithoutMark.resolve nextRelease) "app-1.5.zip" = some "app-2.0.zip" := by
    rw [Edit.updatedVersion_anywhere]
    decide
  have computed := Action.compute_of_updatedVersion VersionPattern.compile_anywhere updated "archive"
  obtain ⟨next, -, rewritten, -⟩ := holds.rewrite_of_updatedVersion (by decide) found
    VersionPattern.compile_anywhere updated (by decide)
  obtain ⟨⟨next, change⟩, applied⟩ := Option.ne_none_iff_exists'.mp
    ((apply_eq_none_iff archiveUpdate "bump" nextRelease archiveText rfl).not.mpr
      (rewritten ▸ Option.some_ne_none next))
  obtain ⟨new, changed, holdsNext, -, there, isNew, -, newShown, oldShown, -⟩ :=
    record_of_apply holds rfl rfl (holds.isReadable_updateVersion (by decide)) applied
  rw [found] at isNew oldShown
  obtain rfl := Option.some.inj (computed.symm.trans isNew)
  exact ⟨next, change, changed, applied, holdsNext.read, there, oldShown, newShown⟩

end Action

end ReleaseRules
