import ReleaseRules.Proofs.Document.Reading
import ReleaseRules.Proofs.Document.Writing
import ReleaseRules.Proofs.Rules.Run

/-!
Contract: actions as edits of documents.

Owns:
- the key that an action writes, and the value that it writes there;
- the document that an action renders;
- the text that an action leaves, by way of this document.

Does not own: replacement in raw text.
-/

namespace ReleaseRules

open ReleaseRules.Tree (SurvivesEdits)

namespace Tree

theorem expandItems_eq_map (bindings : Template.Variables) (items : List Tree) :
    expandItems bindings items = items.map fun item => item.expandTemplates bindings := by
  induction items with
  | nil => rfl
  | cons item rest inductionHypothesis => rw [expandItems, inductionHypothesis, List.map_cons]

theorem expandEntries_eq_map (bindings : Template.Variables) (entries : List (String × Tree)) :
    expandEntries bindings entries =
      entries.map fun entry => (entry.1, entry.2.expandTemplates bindings) := by
  induction entries with
  | nil => rfl
  | cons entry rest inductionHypothesis =>
      obtain ⟨key, value⟩ := entry
      rw [expandEntries, inductionHypothesis, List.map_cons]

/-- The expansion of templates keeps what survives edits. -/
theorem every_expandTemplates {test : Tree → Bool} (survives : SurvivesEdits test)
    (bindings : Template.Variables) {tree : Tree} (passed : tree.every test = true) :
    (tree.expandTemplates bindings).every test = true := by
  induction tree with
  | null => exact passed
  | bool value => exact passed
  | number value => exact passed
  | text value => exact survives.text _
  | list items inductionHypothesis =>
      obtain ⟨-, passedItems⟩ := (every_list_iff items).mp passed
      rw [expandTemplates, expandItems_eq_map]
      refine (every_list_iff _).mpr ⟨survives.list _, ?_⟩
      intro item member
      obtain ⟨source, inItems, rfl⟩ := List.mem_map.mp member
      exact inductionHypothesis source inItems (passedItems source inItems)
  | map entries inductionHypothesis =>
      obtain ⟨passedHere, passedValues⟩ := (every_map_iff entries).mp passed
      rw [expandTemplates, expandEntries_eq_map]
      refine (every_map_iff _).mpr ⟨survives.sameKeys entries _ ?_ passedHere, ?_⟩
      · simp [keys]
      · intro entry member
        obtain ⟨source, inEntries, rfl⟩ := List.mem_map.mp member
        exact inductionHypothesis source inEntries (passedValues source inEntries)

end Tree

namespace Edit

/-- The document after a write at a key, if there is a new value that can be written. -/
def reviseAt (document : Document) (key : String) (compute : Option Tree → Option Tree) :
    Option Document := do
  let new ← compute (document.get key)
  if isUnchanged (document.get key) new then none else (document.set key new).toOption

theorem editValue_text (text : List Char) (key : String)
    (compute : Option Tree → Option Tree) (describe : String → String) :
    (editValue text key compute describe).map Edited.text = (do
      let document ← (Document.parse text).toOption
      let written ← reviseAt document key compute
      written.render.toOption) := by
  unfold editValue reviseAt
  cases (Document.parse text).toOption with
  | none => rfl
  | some document =>
      cases computed : compute (document.get key) with
      | none => simp [computed]
      | some new =>
          by_cases unchanged : isUnchanged (document.get key) new = true
          · simp [computed, unchanged]
          · cases written : (document.set key new).toOption with
            | none => simp [computed, unchanged, written]
            | some next => cases rendered : next.render.toOption <;>
                simp [computed, unchanged, written, rendered]

/-- What stands behind an edit at a key: a new value that differs from the current one and is set
there, the rendered document, and a record of the two values. -/
theorem exists_of_editValue {text : List Char} {key : String}
    {compute : Option Tree → Option Tree} {describe : String → String} {edited : Edited}
    (done : editValue text key compute describe = some edited) :
    ∃ document new written, Document.parse text = .ok document ∧
      compute (document.get key) = some new ∧ isUnchanged (document.get key) new = false ∧
      document.set key new = .ok written ∧ written.render = .ok edited.text ∧
      edited.key = some key ∧ edited.oldValue = (document.get key).map Tree.display ∧
      edited.newValue = some new.display := by
  simp only [editValue, bind, pure, Option.bind_eq_some_iff] at done
  obtain ⟨document, parsed, new, computed, chosen⟩ := done
  split at chosen
  · cases chosen
  · rename_i differs
    simp only [Option.bind_eq_some_iff, Option.some.injEq] at chosen
    obtain ⟨written, isSet, rendered, isRendered, rfl⟩ := chosen
    exact ⟨document, new, written, ok_of_toOption parsed, computed, Bool.eq_false_iff.mpr differs,
      ok_of_toOption isSet, ok_of_toOption isRendered, rfl, rfl, rfl⟩

end Edit

namespace Action

/-- The key that an action writes, if it edits the tree of a document. -/
def key? : Action → Option String
  | .updateVersion key _ _ _ => some key
  | .replaceValue key _ => some key
  | .setIfAbsent key _ => some key
  | .appendItem key _ => some key
  | .replaceText _ _ _ => none
  | .unknown => none

/-- The value that an action carries. -/
def value? : Action → Option Tree
  | .replaceValue _ value => some value
  | .setIfAbsent _ value => some value
  | .appendItem _ value => some value
  | _ => none

/-- Whether an action edits the raw text of a document. -/
def isRaw : Action → Bool
  | .replaceText _ _ _ => true
  | _ => false

theorem isRaw_of_key? {action : Action} {key : String} (isKey : action.key? = some key) :
    action.isRaw = false := by
  cases action with
  | replaceText pattern replacement guard => cases isKey
  | _ => rfl

/-- The value that an action has for its key, given the current one. -/
def compute (context : Context) : Action → Option Tree → Option Tree
  | .updateVersion _ pattern source strategy, old => do
      let regex ← (VersionPattern.compile pattern.toList).toOption
      let current ← old.bind Tree.asText
      return .text (← Edit.updatedVersion regex strategy (source.resolve context) current)
  | .replaceValue _ value, _ => some (value.expandTemplates context.bindings)
  | .setIfAbsent _ value, old => Edit.initialValue (value.expandTemplates context.bindings) old
  | .appendItem _ value, old => Edit.extendedList (value.expandTemplates context.bindings) old
  | .replaceText _ _ _, _ => none
  | .unknown, _ => none

/-- The document after the write of an action, if the action writes anything. -/
def revise (context : Context) (action : Action) (document : Document) : Option Document := do
  let key ← action.key?
  Edit.reviseAt document key (action.compute context)

/-- What stands behind the write of an action: a new value that differs from the one at the key of
the action, and is set there. -/
theorem exists_of_revise {context : Context} {action : Action} {document written : Document}
    (revised : action.revise context document = some written) :
    ∃ key new, action.key? = some key ∧ action.compute context (document.get key) = some new ∧
      Edit.isUnchanged (document.get key) new = false ∧ document.set key new = .ok written := by
  obtain ⟨key, isKey, there⟩ := Option.bind_eq_some_iff.mp revised
  obtain ⟨new, computed, done⟩ := Option.bind_eq_some_iff.mp there
  split at done
  · cases done
  · rename_i differs
    exact ⟨key, new, isKey, computed, Bool.eq_false_iff.mpr differs, ok_of_toOption done⟩

/-- The text of a document after the write of an action. -/
def rewrite (context : Context) (action : Action) (text : List Char) : Option (List Char) := do
  let document ← (Document.parse text).toOption
  let written ← action.revise context document
  written.render.toOption

/-- Every action with a key is an edit of the value there. -/
theorem edit_eq_editValue {action : Action} {key : String} (isKey : action.key? = some key)
    (context : Context) (text : List Char) :
    ∃ describe, action.edit context text =
      Edit.editValue text key (action.compute context) describe := by
  cases action with
  | updateVersion key pattern source strategy =>
      obtain rfl := Option.some.inj isKey
      cases compiled : (VersionPattern.compile pattern.toList).toOption with
      | none =>
          refine ⟨id, ?_⟩
          rw [edit, Edit.updateVersion, compiled]
          cases parsed : (Document.parse text).toOption <;>
            simp [Edit.editValue, compute, compiled, parsed]
      | some regex =>
          have computed : compute context (.updateVersion key pattern source strategy) =
              fun old => do
                let current ← old.bind Tree.asText
                return .text
                  (← Edit.updatedVersion regex strategy (source.resolve context) current) := by
            funext old
            simp [compute, compiled]
          refine ⟨fun shown => "Update version in " ++ key ++ " to " ++ shown, ?_⟩
          rw [edit, Edit.updateVersion, compiled, computed]
          rfl
  | replaceValue key value | setIfAbsent key value =>
      obtain rfl := Option.some.inj isKey
      exact ⟨_, rfl⟩
  | appendItem key value =>
      obtain rfl := Option.some.inj isKey
      exact ⟨fun _ => "Append " ++ (value.expandTemplates context.bindings).display ++ " to " ++ key,
        rfl⟩
  | replaceText pattern replacement guard => cases isKey
  | unknown => cases isKey

/-- Every action but one on raw text is a write to the tree of the document. -/
theorem edit_text (context : Context) (action : Action) (text : List Char)
    (structured : action.isRaw = false) :
    (action.edit context text).map Edit.Edited.text = action.rewrite context text := by
  cases isKey : action.key? with
  | some key =>
      obtain ⟨describe, edits⟩ := edit_eq_editValue isKey context text
      rw [edits, Edit.editValue_text]
      simp only [rewrite, revise, isKey, bind, Option.bind_some]
  | none =>
      cases action with
      | unknown =>
          cases parsed : (Document.parse text).toOption <;>
            simp [edit, rewrite, revise, key?, parsed]
      | replaceText pattern replacement guard => cases structured
      | _ => cases isKey

theorem apply_text (action : Action) (rule : String) (context : Context) (text : List Char)
    (structured : action.isRaw = false) :
    (action.apply rule context text).map Prod.fst = action.rewrite context text := by
  rw [← edit_text context action text structured, apply, Option.map_map]
  rfl

/-- An action changes a text exactly if it has a new document for it. -/
theorem apply_eq_none_iff (action : Action) (rule : String) (context : Context) (text : List Char)
    (structured : action.isRaw = false) :
    action.apply rule context text = none ↔ action.rewrite context text = none := by
  rw [← apply_text action rule context text structured, Option.map_eq_none_iff]

/-- Actions that have the same new value for the same key rewrite a text in the same way. -/
theorem rewrite_congr {action other : Action} {context : Context} {text : List Char} {key : String}
    {document : Document} (parsed : Document.parse text = .ok document)
    (isKey : action.key? = some key) (isOtherKey : other.key? = some key)
    (same : action.compute context (document.get key) =
      other.compute context (document.get key)) :
    action.rewrite context text = other.rewrite context text := by
  simp only [rewrite, parsed, revise, isKey, isOtherKey, Edit.reviseAt, Except.toOption, same,
    bind, Option.bind_some]

/-- An action that has no new value for its key, or the one that stands there, changes nothing. -/
theorem rewrite_eq_none_of_keeps {action : Action} {context : Context} {text : List Char}
    {key : String} {document : Document} (parsed : Document.parse text = .ok document)
    (isKey : action.key? = some key)
    (keeps : ∀ new, action.compute context (document.get key) = some new →
      Edit.isUnchanged (document.get key) new = true) :
    action.rewrite context text = none := by
  have unrevised : action.revise context document = none := by
    rw [Option.eq_none_iff_forall_ne_some]
    intro written revised
    obtain ⟨key', new, isKey', computed, differs, -⟩ := exists_of_revise revised
    obtain rfl := Option.some.inj (isKey.symm.trans isKey')
    rw [keeps new computed] at differs
    cases differs
  simp [rewrite, parsed, unrevised, Except.toOption]

/-- The value that an action computes keeps what survives edits. -/
theorem every_compute {test : Tree → Bool} (survives : SurvivesEdits test) (context : Context)
    (action : Action) {old : Option Tree} {new : Tree}
    (passedOld : ∀ tree ∈ old, tree.every test = true)
    (passedValue : ∀ value ∈ action.value?, value.every test = true)
    (computed : action.compute context old = some new) : new.every test = true := by
  cases action with
  | updateVersion key pattern source strategy =>
      obtain ⟨regex, -, current, -, updated, -, rfl⟩ :
          ∃ regex, (VersionPattern.compile pattern.toList).toOption = some regex ∧
            ∃ current, old.bind Tree.asText = some current ∧
              ∃ updated, Edit.updatedVersion regex strategy (source.resolve context) current =
                some updated ∧ Tree.text updated = new := by
        simpa [compute, Option.bind_eq_some_iff] using computed
      exact survives.text updated
  | replaceValue key value =>
      obtain rfl := Option.some.inj computed
      exact Tree.every_expandTemplates survives _ (passedValue value rfl)
  | setIfAbsent key value =>
      have expanded := Tree.every_expandTemplates survives context.bindings (passedValue value rfl)
      rw [compute, Edit.initialValue.eq_def] at computed
      split at computed
      · exact Option.some.inj computed ▸ expanded
      · exact Option.some.inj computed ▸ expanded
      · cases computed
  | appendItem key value =>
      have expanded := Tree.every_expandTemplates survives context.bindings (passedValue value rfl)
      rw [compute, Edit.extendedList] at computed
      split at computed
      · cases computed
      · obtain rfl := Option.some.inj computed
        refine (Tree.every_list_iff _).mpr ⟨survives.list _, ?_⟩
        intro item member
        rcases List.mem_append.mp member with known | last
        · cases old with
          | none => simp at known
          | some tree =>
              cases tree with
              | list items =>
                  exact ((Tree.every_list_iff items).mp (passedOld _ rfl)).2 item
                    (by simpa [Tree.asItems] using known)
              | _ => simp [Tree.asItems] at known
        · exact List.mem_singleton.mp last ▸ expanded
  | replaceText pattern replacement guard => cases computed
  | unknown => cases computed

/-- The write of an action keeps what survives edits. -/
theorem every_of_revise {test : Tree → Bool} (survives : SurvivesEdits test) {context : Context}
    {action : Action} {document written : Document}
    (revised : action.revise context document = some written)
    (passed : document.root.every test = true)
    (passedValue : ∀ value ∈ action.value?, value.every test = true) :
    written.root.every test = true := by
  obtain ⟨key, new, -, computed, -, isSet⟩ := exists_of_revise revised
  obtain ⟨root, result, same⟩ := ok_of_bind isSet
  obtain rfl := Except.ok.inj same
  obtain ⟨-, -, rfl⟩ := KeyPath.set_eq_ok_iff.mp result
  refine KeyPath.every_write survives ?_ passed _
  refine every_compute survives context action ?_ passedValue computed
  exact fun old found => KeyPath.every_get passed found

theorem textAfter_eq (action : Action) (name : String) (context : Context) (text : List Char)
    (structured : action.isRaw = false) :
    action.textAfter name context text = (action.rewrite context text).getD text := by
  rw [textAfter, apply_text action name context text structured]

end Action

/-- The record of an edit names the key that the action writes. -/
theorem Action.key_of_edit {action : Action} {context : Context} {text : List Char}
    {edited : Edit.Edited} (done : action.edit context text = some edited) :
    edited.key = action.key? := by
  cases isKey : action.key? with
  | some key =>
      obtain ⟨describe, edits⟩ := edit_eq_editValue isKey context text
      obtain ⟨-, -, -, -, -, -, -, -, named, -⟩ := Edit.exists_of_editValue (edits.symm.trans done)
      exact named
  | none =>
      cases action with
      | replaceText pattern replacement guard =>
          simp only [edit, Edit.replaceText, bind, Option.bind_eq_some_iff] at done
          obtain ⟨regex, -, chosen⟩ := done
          split at chosen
          · cases chosen
          · obtain rfl := Option.some.inj chosen
            rfl
      | unknown => cases done
      | _ => cases isKey

theorem Attempt.key_of_outcome {context : Context} {attempt : Attempt} {next : List Char}
    {change : Change} (outcome : attempt.outcome context = some (next, change)) :
    change.key = attempt.action.key? := by
  obtain ⟨edited, done, same⟩ := Option.map_eq_some_iff.mp outcome
  rw [← Action.key_of_edit done, ← (Prod.mk.inj same).2]

/-- An attempt on a tree that changes a text: it writes to the document of the text, and the
new text is the rendered document. -/
theorem Attempt.document_of_outcome {context : Context} {attempt : Attempt}
    {next : List Char} {change : Change} (structured : attempt.action.isRaw = false)
    (outcome : attempt.outcome context = some (next, change)) :
    ∃ document written, Document.parse attempt.text = .ok document ∧
      attempt.action.revise context document = some written ∧ written.render = .ok next := by
  have rewritten : attempt.action.rewrite context attempt.text = some next := by
    rw [← Action.edit_text context attempt.action attempt.text structured]
    obtain ⟨edited, found, same⟩ := Option.map_eq_some_iff.mp outcome
    rw [found, Option.map_some, (Prod.mk.inj same).1]
  obtain ⟨document, parsed, written, revised, rendered⟩ :
      ∃ document, (Document.parse attempt.text).toOption = some document ∧
        ∃ written, attempt.action.revise context document = some written ∧
          written.render.toOption = some next := by
    simpa [Action.rewrite, Option.bind_eq_some_iff] using rewritten
  exact ⟨document, written, ok_of_toOption parsed, revised, ok_of_toOption rendered⟩

end ReleaseRules
