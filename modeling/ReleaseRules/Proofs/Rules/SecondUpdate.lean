import ReleaseRules.Proofs.Json.Places
import ReleaseRules.Proofs.Rules.KeptFields

/-!
Contract: the update of a version, applied a second time.

Owns:
- values that are settled: an update leaves them as they are;
- the second update of a text changes nothing if the value that the first one has written is
  settled, and in objects only then;
- which values are settled, for patterns that capture between fixed numbers of characters and for
  the pattern for the first version.

Does not own: runs of several actions.

The candidate is written between the text before the old version and the text behind it. What the
pattern finds there next may be more than the candidate: components that the old version had too
many of come to stand behind the new one, and belong to it if it has fewer than three.
-/

namespace ReleaseRules

open VersionPattern (firstVersion? furtherComponents)

namespace Edit

/-- Whether a value is settled: where an update finds a version in it, it writes the same value. -/
def IsSettled (regex : Regex) (strategy : Option Strategy) (candidate : List Char)
    (shown : String) : Prop :=
  ∀ updated, updatedVersion regex strategy candidate shown = some updated → updated = shown

end Edit

/-- Whether a pattern captures the version between fixed numbers of characters at both ends. -/
def Regex.Pins (regex : Regex) (front back : Nat) : Prop :=
  ∀ text found captured, regex.find text 0 = some found →
    found.named regex VersionPattern.versionGroup = some captured →
    captured = ⟨front, text.size - back⟩ ∧ front + back ≤ text.size

theorem VersionPattern.pins_versionRegex : versionRegex.Pins 0 0 := by
  intro text found captured isFound isCaptured
  have program : versionRegex.program = versionProgram := rfl
  rw [Regex.find, program] at isFound
  obtain ⟨records, searched, matched⟩ := Option.bind_eq_some_iff.mp isFound
  obtain rfl := records_of_search searched
  obtain rfl := Option.some.inj matched
  obtain rfl := Option.some.inj isCaptured
  exact ⟨rfl, Nat.zero_le _⟩

namespace Edit

variable {regex : Regex} {strategy : Option Strategy} {candidate : List Char}
  {current shown : String}

/-! ## Settled values -/

/-- A pattern that captures between fixed numbers of characters captures the candidate next. -/
theorem isSettled_of_pins {front back : Nat} (pins : regex.Pins front back)
    (updated : updatedVersion regex strategy candidate current = some shown) :
    IsSettled regex strategy candidate shown := by
  obtain ⟨found, captured, isFound, isCaptured, -, shape⟩ := captured_of_updatedVersion updated
  obtain ⟨rfl, fits⟩ := pins _ found captured isFound isCaptured
  rw [List.size_toArray] at fits
  -- The candidate stands between as many characters as the old version.
  let before := current.toList.take front
  let behind := current.toList.drop (current.toList.length - back)
  have between : shown.toList = before ++ candidate ++ behind := by
    rw [shape, String.toList_ofList]
    simp [before, behind]
  have beforeLength : before.length = front := by
    rw [List.length_take]
    omega
  have behindLength : behind.length = back := by
    rw [List.length_drop]
    omega
  intro again updatedAgain
  obtain ⟨next, recaptured, isNext, isRecaptured, -, rfl⟩ := captured_of_updatedVersion updatedAgain
  obtain ⟨rfl, -⟩ := pins _ next recaptured isNext isRecaptured
  have start : (shown.toList.toArray.extract 0 front).toList = before := by
    rw [between, List.append_assoc]
    simp [← beforeLength]
  have stop : (shown.toList.toArray.extract (shown.toList.toArray.size - back)
      shown.toList.length).toList = behind := by
    have place : shown.toList.toArray.size - back = (before ++ candidate).length := by
      rw [List.size_toArray, between, List.length_append, behindLength, Nat.add_sub_cancel]
    rw [place, between]
    simp only [List.extract_toArray, List.extract_eq_take_drop, List.drop_left]
    rw [List.length_append, Nat.add_sub_cancel_left, List.take_length]
  rw [start, stop, ← between, String.ofList_toList]

/-- Settled values for the pattern for the first version: the first version is the candidate, or the
strategy keeps it. -/
theorem isSettled_anywhere_iff :
    IsSettled VersionPattern.anywhereRegex strategy candidate shown ↔
      ∀ cut, firstVersion? shown.toList = some cut →
        (strategy.all fun strategy => strategy.allows cut.version candidate) = true →
          cut.version = candidate := by
  unfold IsSettled
  rw [updatedVersion_anywhere]
  constructor
  · intro settled cut found allowed
    have same := settled (String.ofList (cut.before ++ candidate ++ cut.behind))
      (by rw [found, Option.bind_some, if_pos allowed])
    have parts := VersionPattern.text_of_firstVersion? found
    rw [← same, String.toList_ofList, List.append_assoc, List.append_cancel_left_eq,
      List.append_cancel_right_eq] at parts
    exact parts.symm
  · intro keeps updated done
    obtain ⟨cut, found, chosen⟩ := Option.bind_eq_some_iff.mp done
    split at chosen
    · rename_i allowed
      obtain rfl := Option.some.inj chosen
      rw [← keeps cut found allowed, List.append_assoc,
        ← VersionPattern.text_of_firstVersion? found, String.ofList_toList]
    · cases chosen

/-- The further components that come to stand behind a candidate: those of the text behind the old
version, as long as there are no more than three with those of the candidate. -/
def joining (candidate : List Char) (cut : VersionPattern.Cut) : List Char :=
  (furtherComponents (3 - (Text.splitAt '.' candidate).length) cut.behind).1

/-- The value that the pattern for the first version leaves. -/
theorem exists_cut_of_updatedVersion
    (updated : updatedVersion VersionPattern.anywhereRegex strategy candidate current =
      some shown) :
    ∃ cut, firstVersion? current.toList = some cut ∧
      shown = String.ofList (cut.before ++ candidate ++ cut.behind) := by
  rw [updatedVersion_anywhere] at updated
  obtain ⟨cut, found, chosen⟩ := Option.bind_eq_some_iff.mp updated
  split at chosen
  · exact ⟨cut, found, (Option.some.inj chosen).symm⟩
  · cases chosen

/-- A numeric candidate is settled unless components join it and the strategy lets them go. -/
theorem isSettled_numeric_iff {cut : VersionPattern.Cut}
    (found : firstVersion? current.toList = some cut)
    (numeric : Version.isNumeric candidate = true)
    (shape : shown = String.ofList (cut.before ++ candidate ++ cut.behind)) :
    IsSettled VersionPattern.anywhereRegex strategy candidate shown ↔
      joining candidate cut = [] ∨
        (strategy.all fun strategy =>
          strategy.allows (candidate ++ joining candidate cut) candidate) = false := by
  obtain ⟨digits, rest, -, plain, run, -, behind⟩ := VersionPattern.exists_of_firstVersion? found
  have stops : cut.behind.head?.any VersionPattern.isAnyDigit = false := by
    rw [behind]
    exact VersionPattern.stops_furtherComponents 2 run.stops
  have next := VersionPattern.firstVersion?_of_isNumeric plain numeric stops
  rw [← List.append_assoc] at next
  rw [isSettled_anywhere_iff, shape, String.toList_ofList, next]
  constructor
  · intro keeps
    cases allowed : strategy.all fun strategy =>
        strategy.allows (candidate ++ joining candidate cut) candidate with
    | false => exact .inr rfl
    | true =>
        have same := keeps _ rfl allowed
        exact .inl (List.append_right_eq_self.mp same)
  · rintro (none | refused) cut' isCut allowed
    · obtain rfl := Option.some.inj isCut
      show candidate ++ joining candidate cut = candidate
      rw [none, List.append_nil]
    · obtain rfl := Option.some.inj isCut
      rw [joining] at refused
      rw [refused] at allowed
      cases allowed

/-- Newer versions only: components that join the candidate make the version no smaller, so it is
not replaced again. -/
theorem isSettled_of_ifNewer {cut : VersionPattern.Cut}
    (found : firstVersion? current.toList = some cut)
    (numeric : Version.isNumeric candidate = true)
    (shape : shown = String.ofList (cut.before ++ candidate ++ cut.behind)) :
    IsSettled VersionPattern.anywhereRegex (some .ifNewer) candidate shown := by
  rw [isSettled_numeric_iff found numeric shape]
  right
  rw [Option.all_some, Bool.eq_false_iff]
  intro allowed
  obtain ⟨old, new, isOld, isNew, newer⟩ := (Strategy.allows_iff _ _ _).mp allowed
  exact not_le_of_gt newer (VersionPattern.le_of_parse?_further numeric isNew isOld)

end Edit

/-! ## The second update -/

namespace Action

variable {key pattern : String} {source : VersionSource} {strategy : Option Strategy}
  {context : Context} {regex : Regex}

theorem exists_of_compute_updateVersion {old : Option Tree} {new : Tree}
    (computed : (updateVersion key pattern source strategy).compute context old = some new) :
    ∃ regex current shown, VersionPattern.compile pattern.toList = .ok regex ∧
      old = some (.text current) ∧
      Edit.updatedVersion regex strategy (source.resolve context) current = some shown ∧
      new = .text shown := by
  simp only [compute, bind, pure, Option.bind_eq_some_iff, Option.some.injEq] at computed
  obtain ⟨regex, compiled, current, ⟨value, isValue, isText⟩, shown, isShown, rfl⟩ := computed
  refine ⟨regex, current, shown, ok_of_toOption compiled, ?_, isShown, rfl⟩
  rw [isValue]
  cases value <;> simp_all [Tree.asText]

/-- Where a settled value stands at its key, an update changes nothing. -/
theorem rewrite_eq_none_of_isSettled {text : List Char} {document : Document} {shown : String}
    (compiled : VersionPattern.compile pattern.toList = .ok regex)
    (parsed : Document.parse text = .ok document)
    (there : document.get key = some (.text shown))
    (settled : Edit.IsSettled regex strategy (source.resolve context) shown) :
    (updateVersion key pattern source strategy).rewrite context text = none := by
  apply rewrite_eq_none_of_keeps parsed rfl
  intro new computed
  rw [there, compute_updateVersion compiled, Option.map_eq_some_iff] at computed
  obtain ⟨updated, isUpdated, rfl⟩ := computed
  rw [there, Edit.isUnchanged_text, settled updated isUpdated]
  exact beq_self_eq_true shown

section Objects

variable {text next : List Char} {entries : List (String × Tree)} {shown : String}

/-- In an object in JSON, an update changes a value exactly if it is not settled. -/
theorem update_eq_none_iff (read : Json.readTree text = .ok (.map entries))
    (found : KeyPath.get (.map entries) key = some (.text shown))
    (compiled : VersionPattern.compile pattern.toList = .ok regex) :
    (updateVersion key pattern source strategy).rewrite context text = none ↔
      Edit.IsSettled regex strategy (source.resolve context) shown := by
  constructor
  · intro unchanged updated isUpdated
    by_contra differs
    have computed := compute_of_updatedVersion compiled isUpdated key
    obtain ⟨next, rewritten⟩ := exists_rewrite_of_compute read rfl found computed
      (Edit.isUnchanged_text_of_ne differs)
    rw [unchanged] at rewritten
    cases rewritten
  · intro settled
    exact rewrite_eq_none_of_isSettled compiled (Document.parse_of_readTree read) found settled

/-- The text that an update has written in an object in JSON is read back. Numbers beside it may be
read as others. -/
theorem get_of_rewrite {root : Tree} (read : Json.readTree text = .ok (.map entries))
    (computed : (updateVersion key pattern source strategy).compute context
      (KeyPath.get (.map entries) key) = some (.text shown))
    (rewritten : (updateVersion key pattern source strategy).rewrite context text = some next)
    (readNext : Json.readTree next = .ok root) :
    ∃ others, root = .map others ∧ KeyPath.get (.map others) key = some (.text shown) := by
  obtain ⟨new, changed, isNew, isSet, revised, rfl⟩ := exists_of_rewrite read rfl rewritten
  obtain rfl : .text shown = new := Option.some.inj (computed.symm.trans isNew)
  have held : (Tree.map changed).fits = true :=
    every_of_revise Tree.fitsNode_survives revised (Json.fits_of_readTree read) nofun
  have keyed : (Tree.map changed).isKeyed = true :=
    every_of_revise Tree.isKeyedNode_survives revised (Json.isKeyed_of_readTree read) nofun
  obtain ⟨nonempty, -, shape⟩ := KeyPath.set_eq_ok_iff.mp isSet
  have follows : KeyPath.follow (.map changed) (KeyPath.segments key) = some (.text shown) := by
    rw [shape]
    exact KeyPath.follow_write_same _ _ _
  rw [Document.jsonText_eq _ held] at readNext
  have followsNext := Json.follow_of_readTree_write (Layout.indentOf_blank text) held
    (Json.keyedAlong_of_isKeyed keyed _) follows (by split <;> rfl) readNext
  cases root with
  | map others => exact ⟨others, rfl, (KeyPath.get_eq_follow nonempty).trans followsNext⟩
  | _ =>
      obtain ⟨segment, rest, split⟩ := List.exists_cons_of_ne_nil nonempty
      rw [split] at followsNext
      cases followsNext

end Objects

end Action

/-- **Second update.** An update that has changed a text changes the new text no more if the value
that it has written is settled, and read back. A value that it has written in an object in JSON is
read back whenever the new text is, as it is if the numbers in it are integers, and is changed again
unless it is settled. It is settled if the pattern captures between fixed numbers of characters. For
the pattern for the first version, it is settled if the first version in it is the candidate, or
kept by the strategy. So a numeric candidate is settled unless components of the old version join it
and the strategy lets them go, which the one for newer versions never does. -/
theorem Action.update_twice (rule : String) (context : Context) (text next : List Char)
    (change : Change) (key pattern : String) (source : VersionSource) (strategy : Option Strategy)
    (applied : (updateVersion key pattern source strategy).apply rule context text =
      some (next, change)) :
    ∃ (regex : Regex) (document : Document) (current shown : String),
      VersionPattern.compile pattern.toList = .ok regex ∧
      Document.parse text = .ok document ∧ document.get key = some (.text current) ∧
      Edit.updatedVersion regex strategy (source.resolve context) current = some shown ∧
      let candidate := source.resolve context
      let settled := Edit.IsSettled regex strategy candidate shown
      let again := (updateVersion key pattern source strategy).apply rule context next
      ((∀ after, Document.parse next = .ok after → after.get key = some (.text shown)) →
        settled → again = none) ∧
      (∀ entries root, Json.readTree text = .ok (.map entries) → Json.readTree next = .ok root →
        (again = none ↔ settled)) ∧
      (∀ entries, HoldsObject text entries → (Tree.map entries).depth ≤ Json.nestingLimit →
        (again = none ↔ settled)) ∧
      (∀ front back, regex.Pins front back → settled) ∧
      (pattern = VersionPattern.anywhere →
        (settled ↔ ∀ cut, firstVersion? shown.toList = some cut →
          (strategy.all fun strategy => strategy.allows cut.version candidate) = true →
            cut.version = candidate) ∧
        (Version.isNumeric candidate = true →
          ∃ cut, firstVersion? current.toList = some cut ∧
            shown = String.ofList (cut.before ++ candidate ++ cut.behind) ∧
            (settled ↔ Edit.joining candidate cut = [] ∨
              (strategy.all fun strategy =>
                strategy.allows (candidate ++ Edit.joining candidate cut) candidate) = false) ∧
            (strategy = some .ifNewer → settled))) := by
  have rewritten : (updateVersion key pattern source strategy).rewrite context text =
      some next := by
    rw [← apply_text _ rule context text rfl, applied]
    rfl
  have attempted : (⟨rule, updateVersion key pattern source strategy, text⟩ : Attempt).outcome
      context = some (next, change) := applied
  obtain ⟨document, written, parsed, revised, -⟩ := Attempt.document_of_outcome rfl attempted
  obtain ⟨key', new, isKey, computed, differs, -⟩ := exists_of_revise revised
  obtain rfl : key = key' := Option.some.inj isKey
  obtain ⟨regex, current, shown, compiled, there, updated, rfl⟩ :=
    exists_of_compute_updateVersion computed
  have inObjects : ∀ entries root, Json.readTree text = .ok (.map entries) →
      Json.readTree next = .ok root →
      ((updateVersion key pattern source strategy).apply rule context next = none ↔
        Edit.IsSettled regex strategy (source.resolve context) shown) := by
    intro entries root read readNext
    obtain rfl : document = HoldsObject.document text entries :=
      Except.ok.inj (parsed.symm.trans (Document.parse_of_readTree read))
    obtain ⟨others, rfl, found⟩ := get_of_rewrite read computed rewritten readNext
    rw [apply_eq_none_iff _ _ _ _ rfl]
    exact update_eq_none_iff readNext found compiled
  refine ⟨regex, document, current, shown, compiled, parsed, there, updated, ?_, inObjects, ?_,
    ?_, ?_⟩
  · intro readBack settled
    rw [apply_eq_none_iff _ _ _ _ rfl]
    cases parsedNext : Document.parse next with
    | error reason => simp [rewrite, parsedNext, Except.toOption]
    | ok after =>
        exact rewrite_eq_none_of_isSettled compiled parsedNext (readBack after parsedNext) settled
  · intro entries holds deep
    obtain rfl : document = HoldsObject.document text entries :=
      Except.ok.inj (parsed.symm.trans holds.parse)
    have other : shown ≠ current := by
      rintro rfl
      rw [there, Edit.isUnchanged_text, beq_self_eq_true] at differs
      cases differs
    obtain ⟨next', changed, rewritten', holdsNext, -⟩ :=
      holds.rewrite_of_updatedVersion deep there compiled updated other
    obtain rfl : next = next' := Option.some.inj (rewritten.symm.trans rewritten')
    exact inObjects entries _ holds.read holdsNext.read
  · intro front back pins
    exact Edit.isSettled_of_pins pins updated
  · rintro rfl
    obtain rfl : VersionPattern.anywhereRegex = regex :=
      Except.ok.inj (VersionPattern.compile_anywhere.symm.trans compiled)
    refine ⟨Edit.isSettled_anywhere_iff, ?_⟩
    intro numeric
    obtain ⟨cut, found, shape⟩ := Edit.exists_cut_of_updatedVersion updated
    refine ⟨cut, found, shape, Edit.isSettled_numeric_iff found numeric shape, ?_⟩
    rintro rfl
    exact Edit.isSettled_of_ifNewer found numeric shape

namespace Action

/-- The update of the first version in the text at a key. -/
private def firstVersionUpdate : Action :=
  .updateVersion "v" VersionPattern.anywhere .tagWithoutMark none

private def releaseOf (tag : String) : Context := ⟨tag, "2026-01-15", [], false, none⟩

private def labelledVersion : List Char := "\x7b\"v\":\"app-1.2.3-x\"\x7d".toList

private def loneVersion : List Char := "\x7b\"v\":\"1.2.3\"\x7d".toList

/-- The version that is written in the place of another one, between letters or alone, is not
changed again. -/
theorem update_twice_between_letters_or_alone :
    (∃ next change,
      firstVersionUpdate.apply "r" (releaseOf "v2.0.0") labelledVersion = some (next, change) ∧
      firstVersionUpdate.apply "r" (releaseOf "v2.0.0") next = none) ∧
    ∃ next change,
      (updateWhole "v" .tag .always).apply "r" (releaseOf "2.0") loneVersion =
        some (next, change) ∧
      (updateWhole "v" .tag .always).apply "r" (releaseOf "2.0") next = none := by
  constructor
  · have holds : HoldsObject labelledVersion [("v", .text "app-1.2.3-x")] :=
      ⟨ok_of_toOption (by decide +kernel), by decide⟩
    have labelled : KeyPath.get (.map [("v", .text "app-1.2.3-x")]) "v" =
        some (.text "app-1.2.3-x") := by
      decide +kernel
    have first : firstVersion? "app-1.2.3-x".toList =
        some ⟨"app-".toList, "1.2.3".toList, "-x".toList⟩ := by
      decide +kernel
    have candidate : VersionSource.tagWithoutMark.resolve (releaseOf "v2.0.0") =
        "2.0.0".toList := by
      decide +kernel
    have changes : firstVersionUpdate.rewrite (releaseOf "v2.0.0") labelledVersion ≠ none := by
      intro unchanged
      have settled := (update_eq_none_iff holds.read labelled VersionPattern.compile_anywhere).mp
        unchanged
      have same := Edit.isSettled_anywhere_iff.mp settled _ first rfl
      rw [candidate] at same
      revert same
      decide
    obtain ⟨⟨next, change⟩, applied⟩ := Option.ne_none_iff_exists'.mp
      ((apply_eq_none_iff _ "r" _ _ rfl).not.mpr changes)
    refine ⟨next, change, applied, ?_⟩
    obtain ⟨regex, document, current, shown, -, parsed, there, -, -, -, inObject, -, numeric⟩ :=
      update_twice "r" (releaseOf "v2.0.0") labelledVersion next change "v"
        VersionPattern.anywhere .tagWithoutMark none applied
    obtain rfl : document = HoldsObject.document labelledVersion _ :=
      Except.ok.inj (parsed.symm.trans holds.parse)
    obtain rfl : "app-1.2.3-x" = current :=
      Tree.text.inj (Option.some.inj (labelled.symm.trans there))
    obtain ⟨cut, found, -, settled, -⟩ := (numeric rfl).2 (by rw [candidate]; decide)
    obtain rfl := Option.some.inj (first.symm.trans found)
    have alone : Edit.joining (VersionSource.tagWithoutMark.resolve (releaseOf "v2.0.0"))
        ⟨"app-".toList, "1.2.3".toList, "-x".toList⟩ = [] := by
      rw [candidate]
      decide
    exact (inObject _ holds (by decide)).mpr (settled.mpr (.inl alone))
  · have holds : HoldsObject loneVersion [("v", .text "1.2.3")] :=
      ⟨ok_of_toOption (by decide +kernel), by decide⟩
    have found : KeyPath.get (.map [("v", .text "1.2.3")]) "v" = some (.text "1.2.3") := by
      decide +kernel
    have allowed : Strategy.always.allows "1.2.3".toList
        (VersionSource.tag.resolve (releaseOf "2.0")) = true :=
      rfl
    have differs : String.ofList (VersionSource.tag.resolve (releaseOf "2.0")) ≠ "1.2.3" := by
      decide +kernel
    obtain ⟨written, -, rewritten, -⟩ :=
      holds.rewrite_eq_some (by decide) found (by decide +kernel) allowed differs
    have changes :
        (updateWhole "v" .tag .always).rewrite (releaseOf "2.0") loneVersion ≠ none := by
      rw [rewritten]
      exact Option.some_ne_none _
    obtain ⟨⟨next, change⟩, applied⟩ := Option.ne_none_iff_exists'.mp
      ((apply_eq_none_iff _ "r" _ _ rfl).not.mpr changes)
    refine ⟨next, change, applied, ?_⟩
    obtain ⟨regex, document, current, shown, compiled, -, -, -, -, -, inObject, pinned, -⟩ :=
      update_twice "r" (releaseOf "2.0") loneVersion next change "v" "\x7bversion\x7d" .tag
        (some .always) applied
    obtain rfl : VersionPattern.versionRegex = regex :=
      Except.ok.inj (VersionPattern.compile_version.symm.trans compiled)
    exact (inObject _ holds (by decide)).mpr (pinned 0 0 VersionPattern.pins_versionRegex)

private def fourComponents : List Char := "\x7b\"v\":\"1.2.3.4\"\x7d".toList

private def joinedComponent : List Char := "\x7b\"v\":\"5.4\"\x7d".toList

/-- The fourth component of a version joins the shorter version that takes the place of the first
three, and goes with the second update. -/
theorem second_update_takes_joined_component :
    (firstVersionUpdate.apply "r" (releaseOf "v5") fourComponents).map Prod.fst =
      some joinedComponent ∧
    (firstVersionUpdate.apply "r" (releaseOf "v5") joinedComponent).map Prod.fst =
      some "\x7b\"v\":\"5\"\x7d".toList := by
  have candidate : VersionSource.tagWithoutMark.resolve (releaseOf "v5") = ['5'] := by
    decide +kernel
  -- A pattern is not evaluated here: the update writes what the replacement of the value writes.
  have asReplacement : ∀ (text : List Char) (current shown : String) (entries),
      HoldsObject text entries →
      (HoldsObject.document text entries).get "v" = some (.text current) →
      ((firstVersion? current.toList).map fun cut =>
        String.ofList (cut.before ++ ['5'] ++ cut.behind)) = some shown →
      (Tree.text shown).expandTemplates (releaseOf "v5").bindings = .text shown →
      (firstVersionUpdate.apply "r" (releaseOf "v5") text).map Prod.fst =
        (replaceValue "v" (.text shown)).rewrite (releaseOf "v5") text := by
    intro text current shown entries holds there updated plain
    rw [apply_text _ _ _ _ rfl]
    apply rewrite_congr holds.parse rfl rfl
    rw [there, firstVersionUpdate, compute_updateVersion VersionPattern.compile_anywhere,
      Edit.updatedVersion_anywhere, candidate, compute, plain]
    obtain ⟨cut, found, rfl⟩ := Option.map_eq_some_iff.mp updated
    rw [found]
    rfl
  constructor
  · rw [asReplacement fourComponents "1.2.3.4" "5.4" [("v", .text "1.2.3.4")]
      ⟨ok_of_toOption (by decide +kernel), by decide⟩ (by decide +kernel) (by decide +kernel)
      (by decide +kernel)]
    decide +kernel
  · rw [asReplacement joinedComponent "5.4" "5" [("v", .text "5.4")]
      ⟨ok_of_toOption (by decide +kernel), by decide⟩ (by decide +kernel) (by decide +kernel)
      (by decide +kernel)]
    decide +kernel

end Action

end ReleaseRules
