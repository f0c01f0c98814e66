import ReleaseRules.Proofs.Rules.VersionUpdate
import ReleaseRules.Proofs.Version.Order

/-!
Contract: actions that compare versions before they write.

Owns:
- what stands behind the update of a version in a value;
- what stands behind the replacement of matches, and what happens to the other matches;
- the strategy under which nothing ever changes.

Does not own: how versions compare.
-/

namespace ReleaseRules

open Regex (Span Match Follow)

namespace Edit

/-- An update of the version in a value writes the candidate in the place of a captured text
that the strategy lets go. -/
def UpdatePasses (context : Context) (text : List Char) (key pattern : String)
    (source : VersionSource) (strategy : Strategy) (output : List Char) : Prop :=
  ∃ (document : Document) (regex : Regex) (current : String) (found : Match) (captured : Span)
      (written : Document),
    Document.parse text = .ok document ∧
      VersionPattern.compile pattern.toList = .ok regex ∧
      document.get key = some (.text current) ∧
      regex.find current.toList.toArray 0 = some found ∧
      found.named regex VersionPattern.versionGroup = some captured ∧
      strategy.Passes (captured.characters current.toList.toArray) (source.resolve context) ∧
      document.set key (.text (String.ofList
        ((current.toList.toArray.extract 0 captured.start).toList ++ source.resolve context ++
          (current.toList.toArray.extract captured.stop current.toList.length).toList))) =
        .ok written ∧
      written.render = .ok output

/-- Every match with the text that it has. -/
def ownTexts (characters : Array Char) (found : List Match) : List (Span × List Char) :=
  found.map fun found => (found.whole, found.whole.characters characters)

/-- Every match with what stands there after a replacement: its own text where the replacement
gives none. -/
def restated (replace : Match → Option (List Char)) (characters : Array Char)
    (found : List Match) : List (Span × List Char) :=
  found.map fun found =>
    (found.whole, (replace found).getD (found.whole.characters characters))

/-- A replacement of matches leaves the text between the matches and the text of every match that
is not replaced as they are, and replaces a match only if the strategy of the guard lets the
text of the guard's group go. -/
def ReplacementPasses (context : Context) (text : List Char) (pattern replacement : String)
    (guard : VersionGuard) (output : List Char) : Prop :=
  ∃ regex : Regex, Regex.compile pattern.toList = .ok regex ∧
    Follow text.length 0 ((regex.allMatches text.toArray).map Match.whole) ∧
    splice text.toArray 0 (ownTexts text.toArray (regex.allMatches text.toArray)) = text ∧
    splice text.toArray 0 (restated
      (replacementOf context regex text.toArray replacement (some guard)) text.toArray
      (regex.allMatches text.toArray)) = output ∧
    ∀ found ∈ regex.allMatches text.toArray,
      (replacementOf context regex text.toArray replacement (some guard) found).isSome = true →
      ∃ captured, found.named regex guard.group = some captured ∧
        guard.strategy.Passes (captured.characters text.toArray) (guard.source.resolve context)

/-! ## Updates of a value -/

theorem exists_of_updatedVersion {regex : Regex} {strategy : Strategy} {candidate : List Char}
    {current updated : String}
    (done : updatedVersion regex (some strategy) candidate current = some updated) :
    ∃ found captured, regex.find current.toList.toArray 0 = some found ∧
      found.named regex VersionPattern.versionGroup = some captured ∧
      strategy.Passes (captured.characters current.toList.toArray) candidate ∧
      updated = String.ofList
        ((current.toList.toArray.extract 0 captured.start).toList ++ candidate ++
          (current.toList.toArray.extract captured.stop current.toList.length).toList) := by
  obtain ⟨found, captured, isFound, isCaptured, allowed, same⟩ := captured_of_updatedVersion done
  exact ⟨found, captured, isFound, isCaptured, (strategy.allows_iff _ _).mp allowed, same⟩

theorem updatePasses_of_updateVersion {context : Context} {text : List Char}
    {key pattern : String} {source : VersionSource} {strategy : Strategy} {edited : Edited}
    (done : updateVersion context text key pattern source (some strategy) = some edited) :
    UpdatePasses context text key pattern source strategy edited.text := by
  simp only [updateVersion, bind, Option.bind_eq_some_iff] at done
  obtain ⟨regex, compiled, edit⟩ := done
  obtain ⟨document, new, written, parsed, computed, -, isSet, rendered, -⟩ :=
    exists_of_editValue edit
  simp only [Option.bind_eq_some_iff, pure, Option.some.injEq] at computed
  obtain ⟨current, ⟨old, isOld, isText⟩, updated, isUpdated, rfl⟩ := computed
  obtain ⟨found, captured, isFound, isCaptured, passes, rfl⟩ := exists_of_updatedVersion isUpdated
  obtain rfl : old = .text current := by
    cases old <;> simp_all [Tree.asText]
  exact ⟨document, regex, current, found, captured, written, parsed, ok_of_toOption compiled, isOld,
    isFound, isCaptured, passes, isSet, rendered⟩

/-! ## Replacements of matches -/

section Splicing

variable {characters : Array Char}

theorem toList_extract_split {position middle stop : Nat} (before : position ≤ middle)
    (behind : middle ≤ stop) :
    (characters.extract position stop).toList =
      (characters.extract position middle).toList ++ (characters.extract middle stop).toList := by
  rw [← Array.toList_append, Array.extract_append_extract, Nat.min_eq_left before,
    Nat.max_eq_right behind]

/-- What stands before the first span may be split off. -/
theorem splice_eq_append {position middle : Nat} (spans : List (Span × List Char))
    (before : position ≤ middle)
    (follow : Follow characters.size middle (spans.map Prod.fst)) :
    splice characters position spans =
      (characters.extract position middle).toList ++ splice characters middle spans := by
  cases spans with
  | nil => exact toList_extract_split before follow.position_le
  | cons entry rest =>
      rw [splice, splice, toList_extract_split before follow.1, List.append_assoc,
        List.append_assoc, List.append_assoc]

/-- Matches that are not replaced can be spliced in with their own texts. -/
theorem splice_restated (replace : Match → Option (List Char)) {position : Nat}
    {found : List Match} (follow : Follow characters.size position (found.map Match.whole)) :
    splice characters position (found.filterMap fun found =>
        (replace found).map (found.whole, ·)) =
      splice characters position (restated replace characters found) := by
  have spans : ∀ found : List Match,
      (restated replace characters found).map Prod.fst = found.map Match.whole :=
    fun found => by simp [restated, Function.comp_def]
  induction found generalizing position with
  | nil => rfl
  | cons first rest inductionHypothesis =>
      obtain ⟨later, ordered, follow⟩ := follow
      have step : splice characters position (restated replace characters (first :: rest)) =
          (characters.extract position first.whole.start).toList ++
            (replace first).getD (first.whole.characters characters) ++
              splice characters first.whole.stop (restated replace characters rest) := rfl
      rw [step]
      cases replaced : replace first with
      | some shown =>
          simp only [List.filterMap_cons, replaced, Option.map_some, splice]
          rw [inductionHypothesis follow]
          rfl
      | none =>
          have before := later.trans ordered
          simp only [List.filterMap_cons, replaced, Option.map_none]
          rw [inductionHypothesis (follow.of_le before),
            splice_eq_append _ before ((spans rest).symm ▸ follow), Option.getD_none,
            Span.characters, ← toList_extract_split later ordered]

/-- Matches with their own texts give the text back. -/
theorem splice_ownTexts {found : List Match}
    (follow : Follow characters.size 0 (found.map Match.whole)) :
    splice characters 0 (ownTexts characters found) = characters.toList := by
  have spliced := splice_restated (fun _ => none) follow
  have none : found.filterMap (fun found => Option.map (found.whole, ·) (none : Option (List Char)))
      = [] := List.filterMap_eq_nil_iff.mpr fun _ _ => rfl
  rw [none, splice, Array.extract_size] at spliced
  exact spliced.symm

end Splicing

theorem guardAllows_of_isSome {context : Context} {regex : Regex} {characters : Array Char}
    {replacement : String} {guard : VersionGuard} {found : Match}
    (replaced : (replacementOf context regex characters replacement (some guard) found).isSome =
      true) :
    ∃ captured, found.named regex guard.group = some captured ∧
      guard.strategy.Passes (captured.characters characters) (guard.source.resolve context) := by
  simp only [replacementOf, Option.all_some] at replaced
  split at replaced
  · rename_i allowed
    obtain ⟨captured, isCaptured, passes⟩ := Option.any_eq_true _ _ |>.mp allowed
    exact ⟨captured, isCaptured, (guard.strategy.allows_iff _ _).mp passes⟩
  · cases replaced

theorem replacementPasses_of_replaceText {context : Context} {text : List Char}
    {pattern replacement : String} {guard : VersionGuard} {edited : Edited}
    (done : replaceText context text pattern replacement (some guard) = some edited) :
    ReplacementPasses context text pattern replacement guard edited.text := by
  simp only [replaceText, bind, Option.bind_eq_some_iff] at done
  obtain ⟨regex, compiled, chosen⟩ := done
  have isCompiled := ok_of_toOption compiled
  have follow := Regex.follow_allMatches (Regex.isCompiled_of_compile isCompiled) text.toArray
  split at chosen
  · cases chosen
  · obtain rfl := Option.some.inj chosen
    exact ⟨regex, isCompiled, follow, splice_ownTexts follow, (splice_restated _ follow).symm,
      fun found _ replaced => guardAllows_of_isSome replaced⟩

theorem updateVersion_never (context : Context) (text : List Char) (key pattern : String)
    (source : VersionSource) :
    updateVersion context text key pattern source (some .never) = none := by
  cases done : updateVersion context text key pattern source (some .never) with
  | none => rfl
  | some edited =>
      obtain ⟨_, _, _, _, _, _, _, _, _, _, _, passes, _⟩ := updatePasses_of_updateVersion done
      exact passes.elim

theorem replaceText_never (context : Context) (text : List Char)
    (pattern replacement group : String) (source : VersionSource) :
    replaceText context text pattern replacement (some ⟨group, .never, source⟩) = none := by
  have keeps : ∀ (regex : Regex) (found : Match), replacementOf context regex text.toArray
      replacement (some ⟨group, .never, source⟩) found = none := by
    intro regex found
    by_contra replaced
    obtain ⟨_, _, passes⟩ := guardAllows_of_isSome (Option.isSome_iff_ne_none.mpr replaced)
    exact passes.elim
  unfold replaceText
  cases (Regex.compile pattern.toList).toOption with
  | none => rfl
  | some regex => simp [keeps]

/-- A text is changed if the first match in it is replaced. -/
theorem replaceText_isSome {context : Context} {text : List Char} {pattern replacement : String}
    {guard : Option VersionGuard} {regex : Regex} {found : Match} {shown : List Char}
    (compiled : Regex.compile pattern.toList = .ok regex)
    (isFirst : regex.find text.toArray 0 = some found)
    (nonempty : found.whole.start ≠ found.whole.stop)
    (replaced : replacementOf context regex text.toArray replacement guard found = some shown) :
    (replaceText context text pattern replacement guard).isSome = true := by
  have first : regex.findAfter text.toArray none 0 = some found := by
    simp [Regex.findAfter, isFirst, nonempty]
  have all : ∃ rest, regex.allMatches text.toArray = found :: rest := by
    simp [Regex.allMatches, Regex.matchesFrom, first]
  obtain ⟨rest, isCons⟩ := all
  simp [replaceText, compiled, Except.toOption, isCons, replaced]

end Edit

/-- **Version gate.** An action with a strategy changes a text only where the strategy lets the
current version go for the candidate. -/
theorem Action.apply_passes_gate (rule : String) (context : Context) (text : List Char) :
    (∀ key pattern source strategy result,
      (Action.updateVersion key pattern source (some strategy)).apply rule context text =
        some result →
      Edit.UpdatePasses context text key pattern source strategy result.1) ∧
    (∀ pattern replacement guard result,
      (Action.replaceText pattern replacement (some guard)).apply rule context text =
        some result →
      Edit.ReplacementPasses context text pattern replacement guard result.1) ∧
    (∀ key pattern source,
      (Action.updateVersion key pattern source (some .never)).apply rule context text = none) ∧
    (∀ pattern replacement group source,
      (Action.replaceText pattern replacement (some ⟨group, .never, source⟩)).apply rule context
        text = none) := by
  refine ⟨?updates, ?replacements, ?updatesNever, ?replacementsNever⟩
  case updates =>
    intro key pattern source strategy result applied
    obtain ⟨edited, edits, rfl⟩ := Option.map_eq_some_iff.mp applied
    exact Edit.updatePasses_of_updateVersion edits
  case replacements =>
    intro pattern replacement guard result applied
    obtain ⟨edited, edits, rfl⟩ := Option.map_eq_some_iff.mp applied
    exact Edit.replacementPasses_of_replaceText edits
  case updatesNever =>
    intro key pattern source
    exact congrArg (Option.map _) (Edit.updateVersion_never context text key pattern source)
  case replacementsNever =>
    intro pattern replacement group source
    exact congrArg (Option.map _)
      (Edit.replaceText_never context text pattern replacement group source)

private def gateContext : Context := ⟨"v1.3.0", "2026-01-15", [], false, none⟩

private def oldRelease : List Char := "\x7b\"version\":\"1.2.3\"\x7d".toList

private def wholeVersion : String := "^(?P<version>\\d+(?:\\.\\d+)\x7b0,2\x7d)$"

private theorem update_applies :
    ((Action.updateWhole "version" .tagWithoutMark .ifNewer).apply "release" gateContext
      oldRelease).isSome = true := by
  have holds : HoldsObject oldRelease [("version", .text "1.2.3")] :=
    ⟨ok_of_toOption (by decide +kernel), by decide⟩
  have found : KeyPath.get (.map [("version", .text "1.2.3")]) "version" =
      some (.text "1.2.3") := by
    decide +kernel
  have allowed : Strategy.ifNewer.allows "1.2.3".toList
      (VersionSource.tagWithoutMark.resolve gateContext) = true := by
    decide +kernel
  obtain ⟨next, -, rewritten, -⟩ :=
    holds.rewrite_eq_some (by decide) found (by decide) allowed (by decide +kernel)
  rw [← Action.edit_text gateContext _ oldRelease rfl] at rewritten
  obtain ⟨edited, isEdited, -⟩ := Option.map_eq_some_iff.mp rewritten
  simp [Action.apply, isEdited]

private theorem replacement_applies :
    ((Action.replaceText wholeVersion "9.9.9" (some ⟨"version", .ifNewer, .tagWithoutMark⟩)).apply
      "release" gateContext "1.2.3".toList).isSome = true := by
  have compiled : Regex.compile wholeVersion.toList = .ok VersionPattern.versionRegex := rfl
  have found : VersionPattern.versionRegex.find "1.2.3".toList.toArray 0 =
      some (VersionPattern.wholeMatch 5) :=
    VersionPattern.find_of_isWritten (by decide)
  have replaced : Edit.replacementOf gateContext VersionPattern.versionRegex
      "1.2.3".toList.toArray "9.9.9" (some ⟨"version", .ifNewer, .tagWithoutMark⟩)
        (VersionPattern.wholeMatch 5) = some "9.9.9".toList := by
    decide +kernel
  have edited := Edit.replaceText_isSome compiled found (by decide) replaced
  rw [Action.apply, Action.edit, Option.isSome_map]
  exact edited

/-- A newer release is written to a value and to a text. -/
theorem Action.apply_passes_gate_for_newer_release :
    (∃ result, (Action.updateWhole "version" .tagWithoutMark .ifNewer).apply "release" gateContext
        oldRelease = some result ∧
      Edit.UpdatePasses gateContext oldRelease "version" "\x7bversion\x7d" .tagWithoutMark .ifNewer
        result.1) ∧
    ∃ result, (Action.replaceText wholeVersion "9.9.9"
        (some ⟨"version", .ifNewer, .tagWithoutMark⟩)).apply "release" gateContext
          "1.2.3".toList = some result ∧
      Edit.ReplacementPasses gateContext "1.2.3".toList wholeVersion "9.9.9"
        ⟨"version", .ifNewer, .tagWithoutMark⟩ result.1 := by
  obtain ⟨updated, isUpdated⟩ := Option.isSome_iff_exists.mp update_applies
  obtain ⟨replaced, isReplaced⟩ := Option.isSome_iff_exists.mp replacement_applies
  exact ⟨⟨updated, isUpdated,
      (Action.apply_passes_gate "release" gateContext oldRelease).1 _ _ _ _ _ isUpdated⟩,
    replaced, isReplaced,
      (Action.apply_passes_gate "release" gateContext "1.2.3".toList).2.1 _ _ _ _ isReplaced⟩

end ReleaseRules
