import ReleaseRules.Proofs.Document.WriteOrder
import ReleaseRules.Proofs.Rules.Simulation

/-!
Contract: two actions that write to different places of one object, in either order.

Owns:
- the value that an action has to write into a tree, if any;
- that a write elsewhere leaves an action what it has to write;
- what two actions leave in either order.

Does not own: actions whose keys lead to one place, and runs of rules.

What an action has to write depends on the value at its key and on what stands in the way there.
A write along a path that parts from its own changes neither, so each action writes the same in
both orders, or nothing in both.
-/

namespace ReleaseRules

open ReleaseRules.Tree (Same)
open ReleaseRules.KeyPath (Apart segments write)

namespace Action

variable {action : Action} {context : Context} {key other : String} {tree new value : Tree}

/-- The value that an action has to write into a tree: one that differs from the value at its key,
unless something stands in the way there. -/
def due (context : Context) (action : Action) (key : String) (tree : Tree) : Option Tree :=
  (action.compute context (KeyPath.get tree key)).filter fun new =>
    !Edit.isUnchanged (KeyPath.get tree key) new &&
      (KeyPath.blockedSegment tree (segments key)).isNone

theorem due_eq_some_iff :
    action.due context key tree = some new ↔
      action.compute context (KeyPath.get tree key) = some new ∧
        Edit.isUnchanged (KeyPath.get tree key) new = false ∧
        KeyPath.blockedSegment tree (segments key) = none := by
  simp [due, Option.filter_eq_some_iff]

theorem isKeyed_of_due (keyed : tree.isKeyed = true) (carriesExact : action.isExact = true)
    (isDue : action.due context key tree = some new) : new.isKeyed = true := by
  obtain ⟨computed, -, -⟩ := due_eq_some_iff.mp isDue
  refine every_compute Tree.isKeyedNode_survives context action ?_ ?_ computed
  · exact fun old found => KeyPath.every_get keyed found
  · intro value member
    rw [isExact, Option.mem_def.mp member] at carriesExact
    exact (Bool.and_eq_true_iff.mp carriesExact).2

/-- An action writes what is due, and nothing else. -/
theorem revise_eq_due (isKey : action.key? = some key) (nonempty : segments key ≠ [])
    (context : Context) (document : Document) :
    action.revise context document =
      (action.due context key document.root).map fun new =>
        { document with root := write new document.root (segments key) } := by
  rw [Option.ext_iff]
  intro written
  constructor
  · intro revised
    obtain ⟨key', new, isKey', computed, differs, isSet⟩ := exists_of_revise revised
    obtain rfl := Option.some.inj (isKey.symm.trans isKey')
    obtain ⟨root, result, same⟩ := ok_of_bind isSet
    obtain rfl := Except.ok.inj same
    obtain ⟨-, clear, rfl⟩ := KeyPath.set_eq_ok_iff.mp result
    rw [due_eq_some_iff.mpr ⟨computed, differs, clear⟩]
    rfl
  · intro shown
    obtain ⟨new, isDue, rfl⟩ := Option.map_eq_some_iff.mp shown
    obtain ⟨computed, differs, clear⟩ := due_eq_some_iff.mp isDue
    have isSet : KeyPath.set document.root key new =
        .ok (write new document.root (segments key)) :=
      KeyPath.set_eq_ok_iff.mpr ⟨nonempty, clear, rfl⟩
    simp [revise, isKey, Edit.reviseAt, Document.get, computed, differs, Document.set, isSet,
      Except.toOption, bind, Except.bind, pure, Except.pure]

/-- What an action has to write stays due after a write elsewhere. -/
theorem due_write_of_apart (apart : Apart (segments other) (segments key)) (value : Tree)
    (clear : KeyPath.blockedSegment tree (segments other) = none) :
    action.due context key (write value tree (segments other)) = action.due context key tree := by
  obtain ⟨notAbove, notBelow⟩ := KeyPath.apart_iff.mp apart
  have sameValue : KeyPath.get (write value tree (segments other)) key = KeyPath.get tree key := by
    rw [KeyPath.get_eq_follow apart.symm.ne_nil, KeyPath.get_eq_follow apart.symm.ne_nil]
    exact KeyPath.follow_write_of_apart value tree notAbove notBelow
  have sameWay :
      (KeyPath.blockedSegment (write value tree (segments other)) (segments key)).isNone =
        (KeyPath.blockedSegment tree (segments key)).isNone := by
    rw [Bool.eq_iff_iff, Option.isNone_iff_eq_none, Option.isNone_iff_eq_none]
    exact KeyPath.blockedSegment_write_eq_none_iff apart value clear
  rw [due, due, sameValue, sameWay]

end Action

namespace HoldsObject

variable {text : List Char} {entries : List (String × Tree)} {context : Context}

section OneAction

variable {action : Action} {key rule : String} {new : Tree}

theorem rewrite_eq_due (holds : HoldsObject text entries) (isKey : action.key? = some key)
    (nonempty : segments key ≠ []) :
    action.rewrite context text = (action.due context key (.map entries)).map fun new =>
      Document.jsonText (Layout.detect text .json) (write new (.map entries) (segments key)) := by
  simp only [Action.rewrite, holds.parse, Except.toOption, bind, Option.bind_some,
    Action.revise_eq_due isKey nonempty, document]
  cases action.due context key (.map entries) with
  | none => rfl
  | some new =>
      have rendered := Document.render_json (write new (.map entries) (segments key))
        (Layout.detect text .json) rfl
      simp only [Option.map_some, Option.bind_some, rendered]

/-- An action that has nothing to write leaves the text. -/
theorem textAfter_of_idle (holds : HoldsObject text entries) (isKey : action.key? = some key)
    (nonempty : segments key ≠ []) (idle : action.due context key (.map entries) = none)
    (rule : String) : action.textAfter rule context text = text := by
  rw [Action.textAfter_eq action rule context text (Action.isRaw_of_key? isKey),
    holds.rewrite_eq_due isKey nonempty, idle]
  rfl

/-- An action that has something to write leaves a text with the object that this gives, in the
layout of the text before. -/
theorem after_due (holds : HoldsObject text entries) (isKey : action.key? = some key)
    (nonempty : segments key ≠ []) (carriesExact : action.isExact = true)
    (isDue : action.due context key (.map entries) = some new)
    (deep : (write new (.map entries) (segments key)).depth ≤ Json.nestingLimit) (rule : String) :
    ∃ changed, .map changed = write new (.map entries) (segments key) ∧
      HoldsObject (action.textAfter rule context text) changed ∧
      action.textAfter rule context text =
        Document.jsonText (Layout.detect text .json) (.map changed) ∧
      Layout.detect (action.textAfter rule context text) .json = Layout.detect text .json := by
  have revised : action.revise context (document text entries) = some ⟨write new (.map entries)
      (segments key), .json, Layout.detect text .json⟩ := by
    rw [Action.revise_eq_due isKey nonempty]
    simp only [document, isDue, Option.map_some]
  obtain ⟨_, _, changed, -, -, -, -, same, whole, keyed⟩ := holds.revise carriesExact revised
  obtain ⟨shape, -, -⟩ := Document.mk.inj same
  have shown : action.textAfter rule context text =
      Document.jsonText (Layout.detect text .json) (.map changed) := by
    rw [Action.textAfter_eq action rule context text (Action.isRaw_of_key? isKey),
      holds.rewrite_eq_due isKey nonempty, isDue, Option.map_some, Option.getD_some, shape]
  have next : HoldsObject (action.textAfter rule context text) changed := by
    rw [shown]
    exact of_jsonText (Layout.indentOf_blank text) whole keyed (shape ▸ deep)
  refine ⟨changed, shape.symm, next, shown, ?_⟩
  rw [shown]
  exact next.detect_jsonText text (KeyPath.entries_ne_nil_of_write nonempty shape.symm)

/-- What an action has to write can be read again, if its attempt is readable. -/
theorem depth_of_isReadable (holds : HoldsObject text entries) (isKey : action.key? = some key)
    (nonempty : segments key ≠ [])
    (readable : (⟨rule, action, text⟩ : Attempt).isReadable context = true)
    (isDue : action.due context key (.map entries) = some new) :
    (write new (.map entries) (segments key)).depth ≤ Json.nestingLimit := by
  simpa [Attempt.isReadable, holds.parse, Except.toOption, document, isDue,
    Action.revise_eq_due isKey nonempty] using readable

end OneAction

section TwoActions

variable {first second : Action} {firstKey secondKey : String} {left right : Tree}

/-- An action that has nothing to write has nothing to write behind an action elsewhere either. -/
theorem textAfter_comm_of_idle (holds : HoldsObject text entries)
    (isFirst : first.key? = some firstKey) (isSecond : second.key? = some secondKey)
    (apart : Apart (segments firstKey) (segments secondKey)) (carriesExact : second.isExact = true)
    (idle : first.due context firstKey (.map entries) = none)
    (deep : ∀ new, second.due context secondKey (.map entries) = some new →
      (write new (.map entries) (segments secondKey)).depth ≤ Json.nestingLimit)
    (firstRule secondRule : String) :
    ∃ changed, HoldsObject (second.textAfter secondRule context text) changed ∧
      second.textAfter secondRule context (first.textAfter firstRule context text) =
        second.textAfter secondRule context text ∧
      first.textAfter firstRule context (second.textAfter secondRule context text) =
        second.textAfter secondRule context text := by
  have stays := holds.textAfter_of_idle isFirst apart.ne_nil idle firstRule
  cases isDue : second.due context secondKey (.map entries) with
  | none =>
      rw [stays, holds.textAfter_of_idle isSecond apart.symm.ne_nil isDue, stays]
      exact ⟨entries, holds, rfl, rfl⟩
  | some new =>
      obtain ⟨changed, shape, next, -, -⟩ :=
        holds.after_due isSecond apart.symm.ne_nil carriesExact isDue (deep new isDue) secondRule
      obtain ⟨-, -, clear⟩ := Action.due_eq_some_iff.mp isDue
      have idleBehind : first.due context firstKey (.map changed) = none := by
        rw [shape, Action.due_write_of_apart apart.symm new clear, idle]
      rw [stays, next.textAfter_of_idle isFirst apart.ne_nil idleBehind]
      exact ⟨changed, next, rfl, rfl⟩

/-- Two actions that both have something to write leave both writes, in the layout of the text
before. -/
theorem after_both (holds : HoldsObject text entries)
    (isFirst : first.key? = some firstKey) (isSecond : second.key? = some secondKey)
    (apart : Apart (segments firstKey) (segments secondKey))
    (exactFirst : first.isExact = true) (exactSecond : second.isExact = true)
    (dueFirst : first.due context firstKey (.map entries) = some left)
    (dueSecond : second.due context secondKey (.map entries) = some right)
    (deepFirst : (write left (.map entries) (segments firstKey)).depth ≤ Json.nestingLimit)
    (deepSecond : (write right (.map entries) (segments secondKey)).depth ≤ Json.nestingLimit)
    (firstRule secondRule : String) :
    ∃ changed,
      .map changed =
        write right (write left (.map entries) (segments firstKey)) (segments secondKey) ∧
      HoldsObject (second.textAfter secondRule context (first.textAfter firstRule context text))
        changed ∧
      second.textAfter secondRule context (first.textAfter firstRule context text) =
        Document.jsonText (Layout.detect text .json) (.map changed) := by
  obtain ⟨between, shape, next, -, layout⟩ :=
    holds.after_due isFirst apart.ne_nil exactFirst dueFirst deepFirst firstRule
  obtain ⟨-, -, clear⟩ := Action.due_eq_some_iff.mp dueFirst
  have dueBehind : second.due context secondKey (.map between) = some right := by
    rw [shape, Action.due_write_of_apart apart left clear, dueSecond]
  have deep : (write right (.map between) (segments secondKey)).depth ≤ Json.nestingLimit := by
    rw [shape]
    exact KeyPath.depth_write_write_le apart deepFirst deepSecond
  obtain ⟨changed, shapeLast, last, shown, -⟩ :=
    next.after_due isSecond apart.symm.ne_nil exactSecond dueBehind deep secondRule
  rw [shape] at shapeLast
  rw [layout] at shown
  exact ⟨changed, shapeLast, last, shown⟩

end TwoActions

end HoldsObject

/-- Whether two texts are parsed as documents with the same value at every key. -/
def Document.SameValues (left right : List Char) : Prop :=
  ∃ document other, parse left = .ok document ∧ parse right = .ok other ∧
    ∀ key, Option.Rel Same (document.get key) (other.get key)

theorem HoldsObject.sameValues {left right : List Char} {entries others : List (String × Tree)}
    (holds : HoldsObject left entries) (holdsOther : HoldsObject right others)
    (same : Same (.map entries) (.map others)) : Document.SameValues left right :=
  ⟨_, _, holds.parse, holdsOther.parse, fun key =>
    KeyPath.rel_get_of_same same holds.keyed holdsOther.keyed key⟩

namespace Action

variable {first second : Action} {firstKey secondKey firstRule secondRule : String}
  {context : Context} {text : List Char} {entries : List (String × Tree)}

/-- **Independent writes.** Two actions on an object in JSON with integers as its only numbers,
whose keys lead to different places, neither of them below the other, leave documents with the same
value at every key in either order. If there is a value at one of the keys before, they leave the
same text. What each of them writes alone can be read again. -/
theorem independent_writes_commute (read : Json.readTree text = .ok (.map entries))
    (whole : (Tree.map entries).isWhole = true)
    (isFirst : first.key? = some firstKey) (isSecond : second.key? = some secondKey)
    (exactFirst : first.isExact = true) (exactSecond : second.isExact = true)
    (notAbove : ¬ segments firstKey <+: segments secondKey)
    (notBelow : ¬ segments secondKey <+: segments firstKey)
    (readableFirst : (⟨firstRule, first, text⟩ : Attempt).isReadable context = true)
    (readableSecond : (⟨secondRule, second, text⟩ : Attempt).isReadable context = true) :
    let forth := second.textAfter secondRule context (first.textAfter firstRule context text)
    let back := first.textAfter firstRule context (second.textAfter secondRule context text)
    Document.SameValues forth back ∧
      ((KeyPath.get (.map entries) firstKey).isSome = true ∨
        (KeyPath.get (.map entries) secondKey).isSome = true → forth = back) := by
  intro forth back
  have holds : HoldsObject text entries := ⟨read, whole⟩
  have apart : Apart (segments firstKey) (segments secondKey) :=
    KeyPath.apart_iff.mpr ⟨notAbove, notBelow⟩
  have deepFirst : ∀ new, first.due context firstKey (.map entries) = some new →
      (write new (.map entries) (segments firstKey)).depth ≤ Json.nestingLimit := fun new isDue =>
    holds.depth_of_isReadable isFirst apart.ne_nil readableFirst isDue
  have deepSecond : ∀ new, second.due context secondKey (.map entries) = some new →
      (write new (.map entries) (segments secondKey)).depth ≤ Json.nestingLimit :=
    fun new isDue => holds.depth_of_isReadable isSecond apart.symm.ne_nil readableSecond isDue
  -- With at most one action that has something to write, both orders lead to one text.
  have settled : ∀ {last changed}, HoldsObject last changed → forth = last → back = last →
      Document.SameValues forth back ∧ forth = back := by
    intro last changed holdsLast shownForth shownBack
    rw [shownForth, shownBack]
    exact ⟨holdsLast.sameValues holdsLast (Tree.same_refl holdsLast.keyed), rfl⟩
  cases dueFirst : first.due context firstKey (.map entries) with
  | none =>
      obtain ⟨changed, next, shownForth, shownBack⟩ := holds.textAfter_comm_of_idle isFirst isSecond
        apart exactSecond dueFirst deepSecond firstRule secondRule
      exact (settled next shownForth shownBack).imp_right fun same _ => same
  | some left =>
      cases dueSecond : second.due context secondKey (.map entries) with
      | none =>
          obtain ⟨changed, next, shownBack, shownForth⟩ := holds.textAfter_comm_of_idle isSecond
            isFirst apart.symm exactFirst dueSecond deepFirst secondRule firstRule
          exact (settled next shownForth shownBack).imp_right fun same _ => same
      | some right =>
          obtain ⟨changedForth, shapeForth, holdsForth, shownForth⟩ := holds.after_both isFirst
            isSecond apart exactFirst exactSecond dueFirst dueSecond (deepFirst left dueFirst)
            (deepSecond right dueSecond) firstRule secondRule
          obtain ⟨changedBack, shapeBack, holdsBack, shownBack⟩ := holds.after_both isSecond
            isFirst apart.symm exactSecond exactFirst dueSecond dueFirst
            (deepSecond right dueSecond) (deepFirst left dueFirst) secondRule firstRule
          refine ⟨holdsForth.sameValues holdsBack ?values, fun present => ?texts⟩
          case values =>
            rw [shapeForth, shapeBack]
            exact KeyPath.same_write_write apart holds.keyed
              (isKeyed_of_due holds.keyed exactFirst dueFirst)
              (isKeyed_of_due holds.keyed exactSecond dueSecond)
          case texts =>
            have sameTree : Tree.map changedForth = .map changedBack := by
              rw [shapeForth, shapeBack]
              rw [KeyPath.get_eq_follow apart.ne_nil, KeyPath.get_eq_follow apart.symm.ne_nil]
                at present
              rcases present with atFirst | atSecond
              · exact KeyPath.write_comm_of_follow apart left right atFirst
              · exact (KeyPath.write_comm_of_follow apart.symm right left atSecond).symm
            exact shownForth.trans (sameTree ▸ shownBack.symm)

private def fillLeft : Action := .setIfAbsent "a.x" (.number (.integer 1))

private def extendRight : Action := .appendItem "a.y" (.bool true)

private def someDay : Context := ⟨"v1", "2026-01-15", [], false, none⟩

/-- An object with null where both actions need a map. -/
private def sharedNull : List Char := "\x7b\"a\":null\x7d".toList

/-- An object with a value for the first action and none for the second. -/
private def leftFilled : List Char := "\x7b\"a\":\x7b\"x\":null\x7d\x7d".toList

/-- The first of two actions makes the map that the other one needs, so the order of keys shows the
order of the actions; a value at one of the keys fixes it. -/
theorem independent_writes_commute_below_null :
    Document.SameValues
        (extendRight.textAfter "r" someDay (fillLeft.textAfter "r" someDay sharedNull))
        (fillLeft.textAfter "r" someDay (extendRight.textAfter "r" someDay sharedNull)) ∧
      extendRight.textAfter "r" someDay (fillLeft.textAfter "r" someDay sharedNull) ≠
        fillLeft.textAfter "r" someDay (extendRight.textAfter "r" someDay sharedNull) ∧
      extendRight.textAfter "r" someDay (fillLeft.textAfter "r" someDay leftFilled) =
        fillLeft.textAfter "r" someDay (extendRight.textAfter "r" someDay leftFilled) := by
  have readNull : Json.readTree sharedNull = .ok (.map [("a", .null)]) :=
    ok_of_toOption (by decide +kernel)
  have readFilled : Json.readTree leftFilled = .ok (.map [("a", .map [("x", .null)])]) :=
    ok_of_toOption (by decide +kernel)
  have isFirst : fillLeft.key? = some "a.x" := rfl
  have isSecond : extendRight.key? = some "a.y" := rfl
  have notAbove : ¬ segments "a.x" <+: segments "a.y" := by decide +kernel
  have notBelow : ¬ segments "a.y" <+: segments "a.x" := by decide +kernel
  have readable : ∀ action ∈ [fillLeft, extendRight], ∀ text ∈ [sharedNull, leftFilled],
      (⟨"r", action, text⟩ : Attempt).isReadable someDay = true := by
    decide +kernel
  have atNull := independent_writes_commute readNull (by decide) isFirst isSecond rfl rfl notAbove
    notBelow (readable _ (by simp) _ (by simp)) (readable _ (by simp) _ (by simp))
  have atFilled := independent_writes_commute readFilled (by decide) isFirst isSecond rfl rfl
    notAbove notBelow (readable _ (by simp) _ (by simp)) (readable _ (by simp) _ (by simp))
  exact ⟨atNull.1, by decide +kernel, atFilled.2 (.inl (by decide +kernel))⟩

end Action

end ReleaseRules
