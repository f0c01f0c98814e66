import ReleaseRules.Proofs.Document.Reading
import ReleaseRules.Proofs.Rules.Objects
import ReleaseRules.Proofs.Version.Extraction

/-!
Contract: the update of a value that is a version and nothing else.

Owns:
- writes in the place of a text, which add no nesting;
- the object that an action leaves that has a new value for a key that is there;
- what the update leaves in an object, if the strategy lets the old version go, and that it
  leaves the text alone otherwise.

Does not own: how versions compare.
-/

namespace ReleaseRules

namespace KeyPath

variable {tree old : Tree}

theorem entryDepth_insert_le (segment : String) (value : Tree) (entries : List (String × Tree)) :
    Tree.entryDepth (Tree.insert segment value entries) ≤
      max value.depth (Tree.entryDepth entries) := by
  induction entries with
  | nil => simp [Tree.insert, Tree.entryDepth]
  | cons entry rest inductionHypothesis =>
      obtain ⟨name, current⟩ := entry
      rw [Tree.insert]
      split
      · simp only [Tree.entryDepth]
        omega
      · simp only [Tree.entryDepth]
        omega

/-- A write in the place of a value that is no less deep adds no nesting. -/
theorem depth_write_le {value : Tree} {path : List String} (found : follow tree path = some old)
    (flat : value.depth ≤ old.depth) : (write value tree path).depth ≤ tree.depth := by
  induction path generalizing tree with
  | nil =>
      rw [follow_nil] at found
      obtain rfl := Option.some.inj found
      exact flat
  | cons segment rest inductionHypothesis =>
      obtain ⟨entries, child, rfl, here, later⟩ := exists_of_follow_cons found
      have outer : child.depth ≤ Tree.entryDepth entries :=
        Tree.depth_le_entryDepth (Tree.mem_of_lookup here)
      have bound := entryDepth_insert_le segment (write value child rest) entries
      simp only [write, entriesOf, here, Option.getD_some, Tree.depth]
      have inner := inductionHypothesis later
      omega

end KeyPath

namespace Edit

/-- What stands behind the update of a value: a captured text that the strategy lets go, and the
candidate in its place. -/
theorem captured_of_updatedVersion {regex : Regex} {strategy : Option Strategy}
    {candidate : List Char} {current updated : String}
    (done : updatedVersion regex strategy candidate current = some updated) :
    ∃ found captured, regex.find current.toList.toArray 0 = some found ∧
      found.named regex VersionPattern.versionGroup = some captured ∧
      (strategy.all fun strategy =>
        strategy.allows (captured.characters current.toList.toArray) candidate) = true ∧
      updated = String.ofList
        ((current.toList.toArray.extract 0 captured.start).toList ++ candidate ++
          (current.toList.toArray.extract captured.stop current.toList.length).toList) := by
  simp only [updatedVersion, bind, Option.bind_eq_some_iff] at done
  obtain ⟨found, isFound, captured, isCaptured, chosen⟩ := done
  split at chosen
  · rename_i allowed
    exact ⟨found, captured, isFound, isCaptured, allowed, (Option.some.inj chosen).symm⟩
  · cases chosen

/-- The update of a value that is a version puts the candidate in its place. -/
theorem updatedVersion_of_isWritten {strategy : Option Strategy} {candidate : List Char}
    {current : String} (written : Version.isWritten current.toList = true) :
    updatedVersion VersionPattern.versionRegex strategy candidate current =
      if strategy.all fun strategy => strategy.allows current.toList candidate then
        some (String.ofList candidate)
      else none := by
  have captured : Regex.Span.characters ⟨0, current.toList.length⟩ current.toList.toArray =
      current.toList := by
    simp [Regex.Span.characters]
  simp [updatedVersion, VersionPattern.find_of_isWritten written,
    VersionPattern.named_wholeMatch, captured]

theorem isUnchanged_text (left right : String) :
    isUnchanged (some (.text left)) (.text right) = (left == right) := by
  rw [isUnchanged, Option.any_some, Tree.same]

theorem isUnchanged_text_of_ne {left right : String} (differs : right ≠ left) :
    isUnchanged (some (.text left)) (.text right) = false := by
  rw [isUnchanged_text, beq_eq_false_iff_ne]
  exact differs.symm

end Edit

/-- The update of a version at a key that is a version and nothing else. -/
def Action.updateWhole (key : String) (source : VersionSource) (strategy : Strategy) : Action :=
  .updateVersion key "\x7bversion\x7d" source (some strategy)

/-- The value that an update has for a text: the text with its version replaced. -/
theorem Action.compute_updateVersion {pattern : String} {regex : Regex}
    (compiled : VersionPattern.compile pattern.toList = .ok regex) (context : Context)
    (key : String) (source : VersionSource) (strategy : Option Strategy) (current : String) :
    (updateVersion key pattern source strategy).compute context (some (.text current)) =
      (Edit.updatedVersion regex strategy (source.resolve context) current).map .text := by
  rw [compute, compiled]
  simp only [Except.toOption, bind, Option.bind_some, Tree.asText]
  cases Edit.updatedVersion regex strategy (source.resolve context) current with
  | none => rfl
  | some updated => rfl

theorem Action.compute_of_updatedVersion {pattern current shown : String} {regex : Regex}
    {strategy : Option Strategy} {context : Context} {source : VersionSource}
    (compiled : VersionPattern.compile pattern.toList = .ok regex)
    (updated : Edit.updatedVersion regex strategy (source.resolve context) current = some shown)
    (key : String) :
    (updateVersion key pattern source strategy).compute context (some (.text current)) =
      some (.text shown) := by
  rw [compute_updateVersion compiled, updated]
  rfl

theorem Action.compute_updateWhole (context : Context) (key : String) (source : VersionSource)
    (strategy : Strategy) {current : String} (written : Version.isWritten current.toList = true) :
    (updateWhole key source strategy).compute context (some (.text current)) =
      if strategy.allows current.toList (source.resolve context) then
        some (.text (String.ofList (source.resolve context)))
      else none := by
  rw [updateWhole, compute_updateVersion VersionPattern.compile_version,
    Edit.updatedVersion_of_isWritten written, Option.all_some]
  split <;> rfl

namespace HoldsObject

variable {text : List Char} {entries : List (String × Tree)} {key current : String}
  {context : Context} {source : VersionSource} {strategy : Strategy}

/-- An action that has a new value for a key that is there leaves an object with this value. -/
theorem rewrite_of_compute {action : Action} {old new : Tree} (holds : HoldsObject text entries)
    (isKey : action.key? = some key) (carriesExact : action.isExact = true)
    (found : KeyPath.get (.map entries) key = some old)
    (computed : action.compute context (some old) = some new)
    (differs : Edit.isUnchanged (some old) new = false)
    (deep : (KeyPath.write new (.map entries) (KeyPath.segments key)).depth ≤
      Json.nestingLimit) :
    ∃ next changed, action.rewrite context text = some next ∧ HoldsObject next changed ∧
      (Tree.map changed).depth ≤ Json.nestingLimit ∧
      KeyPath.get (.map changed) key = some new := by
  obtain ⟨next, rewritten⟩ :=
    Action.exists_rewrite_of_compute holds.read isKey found computed differs
  obtain ⟨new', changed, computedNew, isChanged, revised, rfl⟩ :=
    Action.exists_of_rewrite holds.read isKey rewritten
  obtain rfl : new = new' := by
    rw [found, computed] at computedNew
    exact Option.some.inj computedNew
  obtain ⟨_, _, others, -, -, -, -, same, whole, keyed⟩ := holds.revise carriesExact revised
  obtain rfl : changed = others := Tree.map.inj (Document.mk.inj same).1
  obtain ⟨-, -, shape⟩ := KeyPath.set_eq_ok_iff.mp isChanged
  rw [← shape] at deep
  exact ⟨_, changed, rewritten, of_jsonText (Layout.indentOf_blank text) whole keyed deep, deep,
    KeyPath.get_of_set isChanged⟩

/-- A text in the place of a text adds no nesting. -/
theorem depth_write_text_le (found : KeyPath.get (.map entries) key = some (.text current))
    (updated : String) :
    (KeyPath.write (.text updated) (.map entries) (KeyPath.segments key)).depth ≤
      (Tree.map entries).depth := by
  have nonempty : KeyPath.segments key ≠ [] := by
    intro empty
    simp [KeyPath.get, empty] at found
  rw [KeyPath.get_eq_follow nonempty] at found
  exact KeyPath.depth_write_le found (Nat.le_refl 0)

/-- An update that finds a version in a text leaves an object with the new text in its place. -/
theorem rewrite_of_updatedVersion {pattern shown : String} {regex : Regex}
    {strategy : Option Strategy} (holds : HoldsObject text entries)
    (deep : (Tree.map entries).depth ≤ Json.nestingLimit)
    (found : KeyPath.get (.map entries) key = some (.text current))
    (compiled : VersionPattern.compile pattern.toList = .ok regex)
    (updated : Edit.updatedVersion regex strategy (source.resolve context) current = some shown)
    (differs : shown ≠ current) :
    ∃ next changed, (Action.updateVersion key pattern source strategy).rewrite context text =
        some next ∧
      HoldsObject next changed ∧ (Tree.map changed).depth ≤ Json.nestingLimit ∧
      KeyPath.get (.map changed) key = some (.text shown) := by
  have computed := Action.compute_of_updatedVersion compiled updated key
  exact holds.rewrite_of_compute rfl rfl found computed (Edit.isUnchanged_text_of_ne differs)
    ((depth_write_text_le found shown).trans deep)

/-- An update that the strategy does not allow, or that would write the same text, changes
nothing. -/
theorem rewrite_eq_none (holds : HoldsObject text entries)
    (found : KeyPath.get (.map entries) key = some (.text current))
    (written : Version.isWritten current.toList = true)
    (keeps : strategy.allows current.toList (source.resolve context) = true →
      String.ofList (source.resolve context) = current) :
    (Action.updateWhole key source strategy).rewrite context text = none := by
  have there : (document text entries).get key = some (.text current) := found
  apply Action.rewrite_eq_none_of_keeps holds.parse rfl
  intro new computed
  rw [there, Action.compute_updateWhole context key source strategy written] at computed
  split at computed
  · rename_i allowed
    obtain rfl := Option.some.inj computed
    rw [there, Edit.isUnchanged_text, keeps allowed]
    exact beq_self_eq_true current
  · cases computed

/-- An update that the strategy allows leaves an object with the candidate at the key. -/
theorem rewrite_eq_some (holds : HoldsObject text entries)
    (deep : (Tree.map entries).depth ≤ Json.nestingLimit)
    (found : KeyPath.get (.map entries) key = some (.text current))
    (written : Version.isWritten current.toList = true)
    (allowed : strategy.allows current.toList (source.resolve context) = true)
    (differs : String.ofList (source.resolve context) ≠ current) :
    ∃ next changed, (Action.updateWhole key source strategy).rewrite context text = some next ∧
      HoldsObject next changed ∧ (Tree.map changed).depth ≤ Json.nestingLimit ∧
      KeyPath.get (.map changed) key = some (.text (String.ofList (source.resolve context))) := by
  have updated : Edit.updatedVersion VersionPattern.versionRegex (some strategy)
      (source.resolve context) current = some (String.ofList (source.resolve context)) := by
    rw [Edit.updatedVersion_of_isWritten written, Option.all_some, if_pos allowed]
  exact holds.rewrite_of_updatedVersion deep found VersionPattern.compile_version updated differs

end HoldsObject

end ReleaseRules
