import ReleaseRules.Proofs.Document.Rendering
import ReleaseRules.Proofs.Rules.TreeEdit

/-!
Contract: actions on texts that are objects in JSON.

Owns:
- the object and the text that an action leaves in a text that is an object;
- texts that hold an object whose numbers are integers, before and after an action.

Does not own: runs of rules.
-/

namespace ReleaseRules

theorem Tree.fitsNode_survives : SurvivesEdits fitsNode :=
  ⟨rfl, fun _ => rfl, fun _ => rfl, rfl, fun _ _ _ _ => rfl, fun _ _ _ _ => rfl⟩

/-- A text that is an object in JSON, with integers of 64 bits as its only numbers. -/
structure HoldsObject (text : List Char) (entries : List (String × Tree)) : Prop where
  read : Json.readTree text = .ok (.map entries)
  whole : (Tree.map entries).isWhole = true

namespace HoldsObject

variable {text : List Char} {entries : List (String × Tree)}

theorem keyed (holds : HoldsObject text entries) : (Tree.map entries).isKeyed = true :=
  Json.isKeyed_of_readTree holds.read

/-- The document of such a text. -/
def document (text : List Char) (entries : List (String × Tree)) : Document :=
  ⟨.map entries, .json, Layout.detect text .json⟩

theorem parse (holds : HoldsObject text entries) :
    Document.parse text = .ok (document text entries) :=
  Document.parse_of_readTree holds.read

/-- A text holds one object only. -/
theorem unique {others : List (String × Tree)} (holds : HoldsObject text entries)
    (alsoHolds : HoldsObject text others) : entries = others := by
  have same : Except.ok (ε := Json.ReadError) (Tree.map entries) = .ok (.map others) :=
    holds.read.symm.trans alsoHolds.read
  simpa using same

/-- A rendered object is a text that holds it. -/
theorem of_jsonText {layout : Layout} (blank : Json.isBlankUnit layout.indent = true)
    (whole : (Tree.map entries).isWhole = true) (keyed : (Tree.map entries).isKeyed = true)
    (deep : (Tree.map entries).depth ≤ Json.nestingLimit) :
    HoldsObject (Document.jsonText layout (.map entries)) entries :=
  ⟨Document.readTree_jsonText blank whole keyed deep, whole⟩

end HoldsObject

namespace Action

variable {action : Action} {context : Context} {text next : List Char} {key : String}
  {entries : List (String × Tree)}

/-- What stands behind the new text that an action has for an object in JSON: the object with a new
value at the key of the action. -/
theorem exists_of_rewrite (read : Json.readTree text = .ok (.map entries))
    (isKey : action.key? = some key) (rewritten : action.rewrite context text = some next) :
    ∃ new changed, action.compute context (KeyPath.get (.map entries) key) = some new ∧
      KeyPath.set (.map entries) key new = .ok (.map changed) ∧
      action.revise context (HoldsObject.document text entries) =
        some (HoldsObject.document text changed) ∧
      next = Document.jsonText (Layout.detect text .json) (.map changed) := by
  have parsed : Document.parse text = .ok (HoldsObject.document text entries) :=
    Document.parse_of_readTree read
  simp only [rewrite, parsed, Except.toOption, bind, Option.bind_some,
    Option.bind_eq_some_iff] at rewritten
  obtain ⟨written, revised, rendered⟩ := rewritten
  obtain ⟨key', new, isKey', computed, -, isSet⟩ := exists_of_revise revised
  obtain rfl := Option.some.inj (isKey.symm.trans isKey')
  obtain ⟨root, result, same⟩ := ok_of_bind isSet
  obtain rfl := Except.ok.inj same
  obtain ⟨changed, rfl⟩ := KeyPath.exists_map_of_set result
  refine ⟨new, changed, computed, result, revised, ?_⟩
  have shown := Document.render_json (.map changed) (Layout.detect text .json) rfl
  rw [HoldsObject.document, shown] at rendered
  exact (Option.some.inj rendered).symm

/-- An action that has a new value for a key that is there, in an object in JSON, writes it. -/
theorem exists_rewrite_of_compute {old new : Tree}
    (read : Json.readTree text = .ok (.map entries)) (isKey : action.key? = some key)
    (found : KeyPath.get (.map entries) key = some old)
    (computed : action.compute context (some old) = some new)
    (differs : Edit.isUnchanged (some old) new = false) :
    ∃ next, action.rewrite context text = some next := by
  have nonempty : KeyPath.segments key ≠ [] := by
    intro empty
    simp [KeyPath.get, empty] at found
  have followed : KeyPath.follow (.map entries) (KeyPath.segments key) = some old := by
    rw [← KeyPath.get_eq_follow nonempty, found]
  have isSet : KeyPath.set (.map entries) key new =
      .ok (KeyPath.write new (.map entries) (KeyPath.segments key)) :=
    KeyPath.set_eq_ok_iff.mpr ⟨nonempty, KeyPath.blockedSegment_of_follow followed, rfl⟩
  have parsed := Document.parse_of_readTree read
  have rendered := Document.render_json (KeyPath.write new (.map entries) (KeyPath.segments key))
    (Layout.detect text .json) rfl
  refine ⟨Document.jsonText (Layout.detect text .json)
    (KeyPath.write new (.map entries) (KeyPath.segments key)), ?_⟩
  simp [rewrite, parsed, revise, isKey, Edit.reviseAt, Document.get, found, computed, differs,
    Document.set, isSet, rendered, Except.toOption, bind, Except.bind, pure, Except.pure]

end Action

/-- Whether the value that an action carries has integers as its only numbers and repeats no
key. -/
def Action.isExact (action : Action) : Bool :=
  action.value?.all fun value => value.isWhole && value.isKeyed

/-- The object after the write of an action to a text that holds one. -/
theorem HoldsObject.revise {text : List Char} {entries : List (String × Tree)}
    {context : Context} {action : Action} {written : Document}
    (holds : HoldsObject text entries) (carriesExact : action.isExact = true)
    (revised : action.revise context (document text entries) = some written) :
    ∃ key new changed, action.key? = some key ∧
      action.compute context (KeyPath.get (.map entries) key) = some new ∧
      Edit.isUnchanged (KeyPath.get (.map entries) key) new = false ∧
      KeyPath.set (.map entries) key new = .ok (.map changed) ∧
      written = ⟨.map changed, .json, Layout.detect text .json⟩ ∧
      (Tree.map changed).isWhole = true ∧ (Tree.map changed).isKeyed = true := by
  obtain ⟨key, new, isKey, computed, differs, isSet⟩ := Action.exists_of_revise revised
  obtain ⟨root, result, same⟩ := ok_of_bind isSet
  obtain rfl := Except.ok.inj same
  obtain ⟨changed, rfl⟩ := KeyPath.exists_map_of_set result
  have carried : ∀ value ∈ action.value?, value.isWhole = true ∧ value.isKeyed = true := by
    intro value member
    simpa [Action.isExact, Option.mem_def.mp member] using carriesExact
  exact ⟨key, new, changed, isKey, computed, differs, result, rfl,
    Action.every_of_revise Tree.isWholeNode_survives revised holds.whole fun value member =>
      (carried value member).1,
    Action.every_of_revise Tree.isKeyedNode_survives revised holds.keyed fun value member =>
      (carried value member).2⟩

/-- Whether a document that an attempt writes can be read again: its lists and maps are not
nested deeper than the reader allows. -/
def Attempt.isReadable (context : Context) (attempt : Attempt) : Bool :=
  ((Document.parse attempt.text).toOption.bind (attempt.action.revise context)).all fun written =>
    decide (written.root.depth ≤ Json.nestingLimit)

/-- Whether every document that a run writes can be read again. -/
def Engine.staysReadable (world : World) (context : Context) (rules : List Rule)
    (text : List Char) : Bool :=
  (Engine.attempts world context rules text).all fun attempt => attempt.isReadable context

/-- An attempt on a text that holds an object leaves another one, as long as what it writes can
be read again. What it writes differs from what was there. -/
theorem HoldsObject.difference_of_attempt {context : Context} {attempt : Attempt}
    {entries : List (String × Tree)} {next : List Char} {change : Change}
    (holds : HoldsObject attempt.text entries) (structured : attempt.action.isRaw = false)
    (carriesExact : attempt.action.isExact = true)
    (readable : attempt.isReadable context = true)
    (outcome : attempt.outcome context = some (next, change)) :
    ∃ key new changed, attempt.action.key? = some key ∧
      attempt.action.compute context (KeyPath.get (.map entries) key) = some new ∧
      Edit.isUnchanged (KeyPath.get (.map entries) key) new = false ∧
      KeyPath.set (.map entries) key new = .ok (.map changed) ∧
      next = Document.jsonText (Layout.detect attempt.text .json) (.map changed) ∧
      HoldsObject next changed := by
  obtain ⟨document, written, parsed, revised, rendered⟩ :=
    Attempt.document_of_outcome structured outcome
  obtain rfl : document = HoldsObject.document attempt.text entries :=
    Except.ok.inj (parsed.symm.trans holds.parse)
  have deep : written.root.depth ≤ Json.nestingLimit := by
    simpa [Attempt.isReadable, parsed, Except.toOption, revised] using readable
  obtain ⟨key, new, changed, keyed, computed, differs, done, rfl, whole, distinct⟩ :=
    holds.revise carriesExact revised
  have text : next = Document.jsonText (Layout.detect attempt.text .json) (.map changed) := by
    rw [Document.render_json _ _ rfl] at rendered
    exact (Except.ok.inj rendered).symm
  refine ⟨key, new, changed, keyed, computed, differs, done, text, ?_⟩
  rw [text]
  exact HoldsObject.of_jsonText (Layout.indentOf_blank attempt.text) whole distinct deep

theorem HoldsObject.after_attempt {context : Context} {attempt : Attempt}
    {entries : List (String × Tree)} {next : List Char} {change : Change}
    (holds : HoldsObject attempt.text entries) (structured : attempt.action.isRaw = false)
    (carriesExact : attempt.action.isExact = true)
    (readable : attempt.isReadable context = true)
    (outcome : attempt.outcome context = some (next, change)) :
    ∃ key new changed, attempt.action.key? = some key ∧
      KeyPath.set (.map entries) key new = .ok (.map changed) ∧
      next = Document.jsonText (Layout.detect attempt.text .json) (.map changed) ∧
      HoldsObject next changed := by
  obtain ⟨key, new, changed, keyed, -, -, rest⟩ :=
    holds.difference_of_attempt structured carriesExact readable outcome
  exact ⟨key, new, changed, keyed, rest⟩

end ReleaseRules
