import ReleaseRules.Proofs.Document.Refusals
import ReleaseRules.Proofs.Rules.KeptLayout

/-!
Contract: texts that pass through every run of rules that write to trees.

Owns:
- opaque texts: those that are read in neither format, and YAML with a number that would change;
- runs over opaque texts, and conditions on texts that are not read;
- a rule that changes any other text with a map.

Does not own: replacement in raw text.

A text that is not read stops an edit before there is a tree, and a number that would change stops
it after the write. In both cases the action has no outcome, so every later action meets the text
again that the first one has met.
-/

namespace ReleaseRules

namespace Document

/-- Neither format reads a text. -/
def IsUnreadable (text : List Char) : Prop :=
  ∀ format, ∃ reason, parseAs text format = .error reason

/-- A text is parsed as YAML and has a number that would not be written back as it stands. -/
def HasLossyNumber (text : List Char) : Prop :=
  ∃ document number, parse text = .ok document ∧ document.format = .yaml ∧
    Yaml.lossyNumber? text = some number

/-- Texts that no write to their tree can change. -/
def IsOpaque (text : List Char) : Prop := IsUnreadable text ∨ HasLossyNumber text

variable {text : List Char} {document written : Document}

theorem parse_of_isUnreadable (unreadable : IsUnreadable text) :
    ∃ reason, parse text = .error reason := by
  obtain ⟨reason, first⟩ := unreadable (Format.guess text)
  exact ⟨reason, parse_eq_error_iff.mpr ⟨first, unreadable (Format.guess text).other⟩⟩

theorem isUnreadable_of_parse {reason : ParseError} (failed : parse text = .error reason) :
    IsUnreadable text := by
  obtain ⟨first, second⟩ := parse_eq_error_iff.mp failed
  intro format
  by_cases guessed : format = Format.guess text
  · exact ⟨reason, guessed ▸ first⟩
  · have isOther : format = (Format.guess text).other := by
      cases format <;> cases guess : Format.guess text <;> simp_all [Format.other]
    exact isOther ▸ second

/-- A write keeps the layout of a document. -/
theorem layout_of_set {key : String} {new : Tree} (isSet : document.set key new = .ok written) :
    written.layout = document.layout := by
  obtain ⟨root, -, same⟩ := ok_of_bind isSet
  obtain rfl := Except.ok.inj same
  rfl

/-- Only YAML has numbers that would change. -/
theorem hasLossyNumber_of_layout {number : List Char} (parsed : parse text = .ok document)
    (lossy : document.layout.lossyNumber = some number) : HasLossyNumber text := by
  obtain ⟨layout, -⟩ := layout_of_parse parsed
  rw [layout] at lossy
  cases format : document.format with
  | json =>
      rw [format] at lossy
      cases lossy
  | yaml =>
      rw [format] at lossy
      exact ⟨document, number, parsed, format, lossy⟩

theorem hasLossyNumber_of_isSome
    (format : (parse text).toOption.map Document.format = some .yaml)
    (lossy : (Yaml.lossyNumber? text).isSome = true) : HasLossyNumber text := by
  obtain ⟨document, parsed, isYaml⟩ := Option.map_eq_some_iff.mp format
  obtain ⟨number, found⟩ := Option.isSome_iff_exists.mp lossy
  exact ⟨document, number, ok_of_toOption parsed, isYaml, found⟩

theorem lossyNumber_of_parse {number : List Char} (parsed : parse text = .ok document)
    (format : document.format = .yaml) (lossy : Yaml.lossyNumber? text = some number) :
    document.layout.lossyNumber = some number := by
  obtain ⟨layout, -⟩ := layout_of_parse parsed
  rw [layout, format]
  exact lossy

end Document

open Document (IsOpaque IsUnreadable)

variable {text : List Char}

/-- No action on a tree has an outcome for an opaque text. -/
theorem Action.rewrite_of_isOpaque (isOpaque : IsOpaque text) (action : Action)
    (context : Context) : action.rewrite context text = none := by
  rcases isOpaque with unreadable | ⟨document, number, parsed, format, lossy⟩
  · obtain ⟨reason, failed⟩ := Document.parse_of_isUnreadable unreadable
    simp [rewrite, failed, Except.toOption]
  · rw [rewrite, parsed]
    cases revised : action.revise context document with
    | none => simp [Except.toOption, revised]
    | some written =>
        obtain ⟨key, new, -, -, -, isSet⟩ := exists_of_revise revised
        have kept := Document.lossyNumber_of_parse parsed format lossy
        rw [← Document.layout_of_set isSet] at kept
        simp [Except.toOption, revised, Document.render, kept]

/-- Rules without raw edits make no change to an opaque text. -/
theorem Engine.process_of_isOpaque (isOpaque : IsOpaque text) {rules : List Rule}
    (structured : ∀ rule ∈ rules, ∀ action ∈ rule.actions, action.isRaw = false) (world : World)
    (path : List Char) (context : Context) :
    process world rules path text context = ⟨false, text, [], []⟩ := by
  apply process_of_idle
  intro rule member
  have idle : Rule.applyActions rule.name context rule.actions text = (text, []) := by
    apply Rule.applyActions_of_idle
    intro action inActions
    rw [Action.apply_eq_none_iff _ _ _ _ (structured rule member action inActions)]
    exact Action.rewrite_of_isOpaque isOpaque action context
  rw [idle]

/-- No condition on a key holds for a text that is not read. -/
theorem Condition.holds_of_isUnreadable (unreadable : IsUnreadable text) (world : World)
    (context : Context) (key pattern : String) (format : Option Format) :
    holds world context text (.keyExists key format) = false ∧
      holds world context text (.valueMatches key pattern) = false := by
  obtain ⟨reason, failed⟩ := Document.parse_of_isUnreadable unreadable
  constructor
  · cases format with
    | none => simp [holds, failed]
    | some format =>
        obtain ⟨cause, failedHere⟩ := unreadable format
        simp [holds, failedHere]
  · simp [holds, failed]

/-! ## Texts that are not opaque -/

/-- A rule for all files that writes a truth value. -/
def Rule.writing (value : Bool) : Rule := Rule.new "write" ["*"] [.replaceValue "a" (.bool value)]

/-- Of the two truth values, one differs from what stands at a key. -/
theorem Edit.exists_not_isUnchanged (old : Option Tree) :
    ∃ value, isUnchanged old (.bool value) = false := by
  cases same : isUnchanged old (.bool true) with
  | false => exact ⟨true, same⟩
  | true =>
      refine ⟨false, ?_⟩
      cases old with
      | none => rfl
      | some tree =>
          cases tree with
          | bool value =>
              have isTrue : value = true := by simpa [isUnchanged, Tree.same] using same
              simp [isUnchanged, Tree.same, isTrue]
          | _ => simp [isUnchanged, Tree.same]

/-- A key of one segment can be set in a map, and where there is nothing. -/
theorem Document.exists_set_of_not_isObstacle {document : Document}
    (isOpen : document.root.isObstacle = false) (new : Tree) :
    ∃ written, document.set "a" new = .ok written := by
  have shown : KeyPath.segments "a" = ["a"] := rfl
  have unblocked : KeyPath.blockedSegment document.root ["a"] = none := by
    cases root : document.root with
    | null => rfl
    | map entries =>
        rw [KeyPath.blockedSegment]
        split <;> rfl
    | _ => simp [root, Tree.isObstacle] at isOpen
  have rooted : KeyPath.set document.root "a" new =
      .ok (KeyPath.write new document.root (KeyPath.segments "a")) :=
    KeyPath.set_eq_ok_iff.mpr ⟨by simp [shown], shown ▸ unblocked, rfl⟩
  rw [Document.set, rooted]
  exact ⟨_, rfl⟩

/-- A text that is not opaque and has a map, or nothing, is changed by a rule. -/
theorem Engine.exists_change_of_not_isOpaque (clear : ¬ IsOpaque text)
    (isOpen : ∀ document, Document.parse text = .ok document → document.root.isObstacle = false)
    (world : World) (context : Context) :
    ∃ value, (process world [Rule.writing value] ['a'] text context).changes ≠ [] := by
  cases parsed : Document.parse text with
  | error reason => exact absurd (.inl (Document.isUnreadable_of_parse parsed)) clear
  | ok document =>
      obtain ⟨value, differs⟩ := Edit.exists_not_isUnchanged (document.get "a")
      let action : Action := .replaceValue "a" (.bool value)
      obtain ⟨written, isSet⟩ :=
        Document.exists_set_of_not_isObstacle (isOpen document parsed) (.bool value)
      have exactNumbers : written.layout.lossyNumber = none := by
        rw [Document.layout_of_set isSet, Option.eq_none_iff_forall_ne_some]
        intro number lossy
        exact clear (.inr (Document.hasLossyNumber_of_layout parsed lossy))
      have rendered := Document.render_eq_ok_iff.mpr ⟨exactNumbers, rfl⟩
      have rewritten : action.rewrite context text ≠ none := by
        have computed : action.compute context (document.get "a") = some (.bool value) := rfl
        simp [Action.rewrite, parsed, Action.revise, Action.key?, action, Edit.reviseAt, computed,
          differs, isSet, rendered, Except.toOption]
      have applied : action.apply "write" context text ≠ none := by
        rwa [ne_eq, Action.apply_eq_none_iff _ _ _ _ rfl]
      obtain ⟨made, outcome⟩ := Option.ne_none_iff_exists'.mp applied
      have targets : Glob.matchesAny ['a'] ["*"] = true := rfl
      have matching : matchingRules [Rule.writing value] ['a'] = [Rule.writing value] :=
        List.filter_cons_of_pos targets
      have met : (Rule.writing value).isMet world context text = true := rfl
      refine ⟨value, ?_⟩
      rw [process, matching, applyRules_cons_of_met world context met []]
      simp [Rule.writing, Rule.new, Rule.applyActions, outcome, action]

/-- **Opaque texts pass through.** A text that neither format reads, or that is YAML with a number
that would not be written back, is left as it is by every run without replacement in raw text: not
changed, without applied rules and without changes. No condition on a key holds for a text that is
not read. Other texts are not passed over: if there is a map or nothing in them, a rule changes
them. -/
theorem Engine.opaque_texts_pass (text : List Char) :
    (IsOpaque text → ∀ rules : List Rule,
      (∀ rule ∈ rules, ∀ action ∈ rule.actions, action.isRaw = false) →
        ∀ world path context, process world rules path text context = ⟨false, text, [], []⟩) ∧
    (IsUnreadable text → ∀ world context key pattern format,
      Condition.holds world context text (.keyExists key format) = false ∧
        Condition.holds world context text (.valueMatches key pattern) = false) ∧
    (¬ IsOpaque text →
      (∀ document, Document.parse text = .ok document → document.root.isObstacle = false) →
        ∀ world context, ∃ value,
          (process world [Rule.writing value] ['a'] text context).changes ≠ []) := by
  refine ⟨?runs, ?conditions, ?others⟩
  case runs =>
    intro isOpaque rules structured world path context
    exact process_of_isOpaque isOpaque structured world path context
  case conditions =>
    intro unreadable world context key pattern format
    exact Condition.holds_of_isUnreadable unreadable world context key pattern format
  case others =>
    intro clear isOpen world context
    exact exists_change_of_not_isOpaque clear isOpen world context

/-- A list that is not closed. -/
private def unclosedList : { text : List Char // IsUnreadable text } where
  val := "a: [unclosed\n  - : :".toList
  property := by
    intro format
    apply exists_error_of_toOption
    cases format
    · decide +kernel
    · decide +kernel

/-- A release number that is read as a shorter one. -/
private def shortenedNumber : { text : List Char // Document.HasLossyNumber text } where
  val := "python: 3.10\nversion: 1.0.0\n".toList
  property := Document.hasLossyNumber_of_isSome (by decide +kernel) (by decide +kernel)

private def eagerRules : List Rule :=
  [{ Rule.new "set" ["*"] [.replaceValue "a" (.text "{tag}"), .unknown] with stops := true },
    Rule.new "append" ["*"] [.appendItem "version" .null, .setIfAbsent "b" .null,
      .updateVersion "version" "{version}" .tag none]]

private def anyContext : Context := ⟨"v2", "2026-01-15", [], false, none⟩

/-- Rules of every kind pass over an unclosed list and over a number that would be shortened, but
an empty map is changed. -/
theorem Engine.eager_rules_pass_over_opaque_texts :
    (IsUnreadable unclosedList ∧
      process ⟨[], [], [], []⟩ eagerRules ['a'] unclosedList anyContext =
        ⟨false, unclosedList, [], []⟩ ∧
      Condition.holds ⟨[], [], [], []⟩ anyContext unclosedList (.keyExists "a" (some .yaml)) =
        false) ∧
    (Document.HasLossyNumber shortenedNumber ∧
      process ⟨[], [], [], []⟩ eagerRules ['a'] shortenedNumber anyContext =
        ⟨false, shortenedNumber, [], []⟩) ∧
    ¬ IsOpaque ['\x7b', '\x7d'] ∧
      ∃ value, (process ⟨[], [], [], []⟩ [Rule.writing value] ['a'] ['\x7b', '\x7d']
        anyContext).changes ≠ [] := by
  have structured : ∀ rule ∈ eagerRules, ∀ action ∈ rule.actions, action.isRaw = false := by
    simp [eagerRules, Rule.new, Action.isRaw]
  have unreadable := unclosedList.property
  have lossy := shortenedNumber.property
  have parsed : Document.parse ['\x7b', '\x7d'] =
      .ok ⟨.map [], .json, Layout.detect ['\x7b', '\x7d'] .json⟩ := rfl
  have clear : ¬ IsOpaque ['\x7b', '\x7d'] := by
    rintro (unread | ⟨other, number, isOther, format, -⟩)
    · obtain ⟨reason, failed⟩ := Document.parse_of_isUnreadable unread
      cases failed.symm.trans parsed
    · cases isOther.symm.trans parsed
      cases format
  obtain ⟨runs, conditions, -⟩ := opaque_texts_pass unclosedList
  obtain ⟨runsToo, -, -⟩ := opaque_texts_pass shortenedNumber
  obtain ⟨-, -, others⟩ := opaque_texts_pass ['\x7b', '\x7d']
  refine ⟨⟨unreadable, runs (.inl unreadable) _ structured _ _ _,
    (conditions unreadable _ _ "a" "x" (some .yaml)).1⟩,
    ⟨lossy, runsToo (.inr lossy) _ structured _ _ _⟩, clear, others clear ?_ _ _⟩
  intro other isOther
  cases isOther.symm.trans parsed
  rfl

end ReleaseRules
