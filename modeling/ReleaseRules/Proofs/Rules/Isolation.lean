import ReleaseRules.Proofs.Rules.Stopping
import ReleaseRules.Proofs.Rules.TreeEdit

/-!
Contract: rules and actions that cannot do anything leave a run as it is.

Owns:
- actions that change no text, and rules that change no text of a file;
- runs with and without them.

Does not own: the reasons for which a pattern is invalid.
-/

namespace ReleaseRules

namespace Action

/-- Actions that change no text: those of an unknown kind, those with a pattern that is invalid or
finds no version, and those with a key that has no segment. -/
inductive IsInert : Action → Prop where
  | unknown : IsInert .unknown
  | invalidPattern {pattern replacement : String} {guard : Option VersionGuard}
      {reason : Regex.PatternError} (invalid : Regex.compile pattern.toList = .error reason) :
      IsInert (.replaceText pattern replacement guard)
  | noVersionGroup {key pattern : String} {source : VersionSource} {strategy : Option Strategy}
      (lacking : ∀ regex, VersionPattern.compile pattern.toList = .ok regex →
        VersionPattern.hasVersionGroup regex = false) :
      IsInert (.updateVersion key pattern source strategy)
  | emptyKey {action : Action} {key : String} (isKey : action.key? = some key)
      (empty : KeyPath.segments key = []) : IsInert action

end Action

namespace Regex

/-- A group that an expression lacks takes part in no match. -/
theorem named_eq_none {regex : Regex} {name : String}
    (lacking : regex.groupNames.contains (some name) = false) (found : Match) :
    found.named regex name = none := by
  have absent : (regex.groupNames.zip found.groups).lookup (some name) = none := by
    rw [List.lookup_eq_none_iff]
    rintro ⟨group, span⟩ member
    have known : group ∈ regex.groupNames := (List.of_mem_zip member).1
    simp only [bne_iff_ne, ne_eq]
    rintro rfl
    simp [known] at lacking
  rw [Match.named, absent]
  rfl

end Regex

namespace Action

variable {action : Action} {context : Context} {text : List Char}

/-- An action on the tree of a document changes no text if it never has a value that can be set at
its key. -/
theorem apply_eq_none_of_structured (structured : action.isRaw = false)
    (blocked : ∀ (document written : Document) key new, action.key? = some key →
      action.compute context (document.get key) = some new → document.set key new ≠ .ok written)
    (name : String) : action.apply name context text = none := by
  cases outcome : action.apply name context text with
  | none => rfl
  | some made =>
      obtain ⟨next, change⟩ := made
      have attempted : (⟨name, action, text⟩ : Attempt).outcome context = some (next, change) :=
        outcome
      obtain ⟨document, written, -, revised, -⟩ :=
        Attempt.document_of_outcome structured attempted
      obtain ⟨key, new, isKey, computed, -, done⟩ := exists_of_revise revised
      exact absurd done (blocked document written key new isKey computed)

/-- An inert action changes no text. -/
theorem apply_of_isInert (inert : action.IsInert) (name : String) :
    action.apply name context text = none := by
  cases inert with
  | unknown => rfl
  | invalidPattern invalid => simp [apply, edit, Edit.replaceText, invalid, Except.toOption]
  | noVersionGroup lacking =>
      apply apply_eq_none_of_structured rfl
      intro document written key new isKey computed done
      simp only [compute, bind, Option.bind_eq_some_iff] at computed
      obtain ⟨regex, compiled, current, -, updated, isUpdated, -⟩ := computed
      have absent := Regex.named_eq_none (lacking regex (ok_of_toOption compiled))
      simp [Edit.updatedVersion, absent] at isUpdated
  | emptyKey isKey empty =>
      apply apply_eq_none_of_structured (isRaw_of_key? isKey)
      intro document written other new isOther computed done
      obtain rfl : _ = other := Option.some.inj (isKey.symm.trans isOther)
      obtain ⟨root, isSet, -⟩ := ok_of_bind done
      exact (KeyPath.set_eq_ok_iff.mp isSet).1 empty

end Action

/-- Nothing is a match of an invalid pattern. -/
theorem Condition.holds_of_invalid {key pattern : String} {reason : Regex.PatternError}
    (invalid : Regex.compile pattern.toList = .error reason) {world : World} {context : Context}
    {text : List Char} : (Condition.valueMatches key pattern).holds world context text = false := by
  rw [holds]
  split
  · rename_i document _
    cases (document.get key).bind Tree.asText with
    | none => rfl
    | some value => simp [hasMatch, invalid]
  · rfl

namespace Rule

/-- Rules that change no text of a file: those that are not about the file, those with a condition
that never holds, and those with inert actions only. -/
inductive IsInert (path : List Char) : Rule → Prop where
  | disabled {rule : Rule} (off : rule.enabled = false) : IsInert path rule
  | offTarget {rule : Rule} (apart : Glob.matchesAny path rule.targetFiles = false) :
      IsInert path rule
  | invalidTargets {rule : Rule}
      (invalid : ∀ pattern ∈ rule.targetFiles, ∃ reason,
        Glob.compile pattern.toList = .error reason) : IsInert path rule
  | unknownCondition {rule : Rule} (member : Condition.unknown ∈ rule.conditions) :
      IsInert path rule
  | invalidCondition {rule : Rule} {key pattern : String} {reason : Regex.PatternError}
      (member : Condition.valueMatches key pattern ∈ rule.conditions)
      (invalid : Regex.compile pattern.toList = .error reason) : IsInert path rule
  | inertActions {rule : Rule} (inert : ∀ action ∈ rule.actions, action.IsInert) :
      IsInert path rule

theorem matchesAny_of_invalid {patterns : List String}
    (invalid : ∀ pattern ∈ patterns, ∃ reason, Glob.compile pattern.toList = .error reason)
    (path : List Char) : Glob.matchesAny path patterns = false := by
  rw [Glob.matchesAny, List.any_eq_false]
  intro pattern member
  obtain ⟨reason, failed⟩ := invalid pattern member
  simp [Glob.matchesPath, Glob.matchesText, failed]

theorem isMet_eq_false {rule : Rule} {world : World} {context : Context} {text : List Char}
    {condition : Condition} (member : condition ∈ rule.conditions)
    (fails : condition.holds world context text = false) :
    rule.isMet world context text = false := by
  rw [isMet, List.all_eq_false]
  exact ⟨condition, member, by simp [fails]⟩

/-- An inert action between others makes no difference to them. -/
theorem applyActions_insert {action : Action} (inert : action.IsInert) (first second : List Action)
    (name : String) (context : Context) (text : List Char) :
    applyActions name context (first ++ action :: second) text =
      applyActions name context (first ++ second) text := by
  induction first generalizing text with
  | nil =>
      show applyActions name context (action :: second) text = applyActions name context second text
      rw [applyActions, Action.apply_of_isInert inert name]
  | cons earlier others inductionHypothesis =>
      rw [List.cons_append, List.cons_append, applyActions_cons, applyActions_cons,
        inductionHypothesis]

/-- An inert rule is not about the file, or its conditions do not hold, or its actions leave the
text as it is. -/
theorem idle_of_isInert {rule : Rule} {path : List Char} (inert : rule.IsInert path) (world : World)
    (context : Context) (text : List Char) :
    rule.isAbout path = false ∨ rule.isMet world context text = false ∨
      applyActions rule.name context rule.actions text = (text, []) := by
  cases inert with
  | disabled off => exact .inl (by simp [isAbout, off])
  | offTarget apart => exact .inl (by simp [isAbout, apart])
  | invalidTargets invalid => exact .inl (by simp [isAbout, matchesAny_of_invalid invalid path])
  | unknownCondition member => exact .inr (.inl (isMet_eq_false member rfl))
  | invalidCondition member invalid =>
      exact .inr (.inl (isMet_eq_false member (Condition.holds_of_invalid invalid)))
  | inertActions inert =>
      refine .inr (.inr (applyActions_of_idle ?_))
      intro action member
      exact Action.apply_of_isInert (inert action member) rule.name

end Rule

namespace Engine

variable (world : World) (context : Context)

theorem matchingRules_cons (rule : Rule) (rest : List Rule) (path : List Char) :
    matchingRules (rule :: rest) path =
      if rule.isAbout path then rule :: matchingRules rest path else matchingRules rest path :=
  List.filter_cons

/-- Rules behind others may be exchanged for rules that do the same to every text. -/
theorem process_congr {second third : List Rule} {path : List Char}
    (same : ∀ text, applyRules world context (matchingRules second path) text =
      applyRules world context (matchingRules third path) text)
    (first : List Rule) (text : List Char) :
    process world (first ++ second) path text context =
      process world (first ++ third) path text context := by
  simp only [process, matchingRules_append, applyRules_append, same]

/-- An inert rule in front of others makes no difference to them. -/
theorem applyRules_of_isInert {rule : Rule} {path : List Char} (inert : rule.IsInert path)
    (rest : List Rule) (text : List Char) :
    applyRules world context (matchingRules (rule :: rest) path) text =
      applyRules world context (matchingRules rest path) text := by
  rw [matchingRules_cons]
  split
  · rename_i about
    rcases rule.idle_of_isInert inert world context text with apart | unmet | idle
    · exact absurd about (by simp [apart])
    · exact applyRules_cons_of_not_met world context unmet _
    · rw [applyRules, idle]
      simp
  · rfl

/-- An inert action of a rule in front of others makes no difference to them. -/
theorem applyRules_insert {rule : Rule} {first second : List Action} {action : Action}
    (inert : action.IsInert) (shown : rule.actions = first ++ second) (path : List Char)
    (rest : List Rule) (text : List Char) :
    applyRules world context
        (matchingRules ({ rule with actions := first ++ action :: second } :: rest) path) text =
      applyRules world context (matchingRules (rule :: rest) path) text := by
  have sameFiles :
      ({ rule with actions := first ++ action :: second } : Rule).isAbout path =
        rule.isAbout path := rfl
  have sameTexts (text : List Char) :
      ({ rule with actions := first ++ action :: second } : Rule).isMet world context text =
        rule.isMet world context text := rfl
  rw [matchingRules_cons, matchingRules_cons, sameFiles]
  split
  · simp only [applyRules, sameTexts, Rule.applyActions_insert inert, shown]
  · rfl

/-- **Isolation of what cannot do anything.** A run is the same run, with its text, names, changes
and flag, when an inert rule is put at any place among the rules, or an inert action at any place
among the actions of a rule. -/
theorem process_ignores_inert (path text : List Char) :
    (∀ before after rule, rule.IsInert path →
      process world (before ++ rule :: after) path text context =
        process world (before ++ after) path text context) ∧
    (∀ before after rule first action second, rule.actions = first ++ second → action.IsInert →
      process world (before ++ { rule with actions := first ++ action :: second } :: after) path
          text context =
        process world (before ++ rule :: after) path text context) := by
  refine ⟨?rules, ?actions⟩
  case rules =>
    intro before after rule inert
    apply process_congr
    exact applyRules_of_isInert world context inert after
  case actions =>
    intro before after rule first action second shown inert
    apply process_congr
    exact applyRules_insert world context inert shown path after

private def taggedRule : Rule :=
  Rule.new "tag" ["*.json"] [.replaceValue "tag" (.text "{tag}")]

/-- A rule that would stop the run, with a pattern that is no regular expression. -/
private def brokenRule : Rule :=
  { Rule.new "broken" ["*"] [.replaceText "(" "x" none, .appendItem ".." .null] with stops := true }

private def isolationContext : Context := ⟨"v1", "2026-01-15", [], false, none⟩

/-- A broken rule in front of another and a broken action behind its own leave the run of the other
as it is. -/
theorem process_ignores_broken_rule :
    brokenRule.IsInert "a.json".toList ∧
      (Action.updateVersion "tag" "no version" .tag none).IsInert ∧
      process ⟨[], [], [], []⟩ [brokenRule, taggedRule] "a.json".toList "\x7b\x7d".toList
          isolationContext =
        process ⟨[], [], [], []⟩ [taggedRule] "a.json".toList "\x7b\x7d".toList isolationContext ∧
      process ⟨[], [], [], []⟩
          [{ taggedRule with
              actions := taggedRule.actions ++ [.updateVersion "tag" "no version" .tag none] }]
          "a.json".toList "\x7b\x7d".toList isolationContext =
        process ⟨[], [], [], []⟩ [taggedRule] "a.json".toList "\x7b\x7d".toList
          isolationContext := by
  have invalid : Regex.compile "(".toList = .error .unclosedGroup := rfl
  have inertRule : brokenRule.IsInert "a.json".toList := by
    apply Rule.IsInert.inertActions
    intro action member
    rcases List.mem_pair.mp member with rfl | rfl
    · exact .invalidPattern invalid
    · exact .emptyKey rfl (by decide +kernel)
  have withoutGroup : VersionPattern.compile "no version".toList = .error .noVersionGroup := rfl
  have inertAction : (Action.updateVersion "tag" "no version" .tag none).IsInert := by
    apply Action.IsInert.noVersionGroup
    intro regex compiled
    cases withoutGroup.symm.trans compiled
  obtain ⟨rules, actions⟩ :=
    process_ignores_inert ⟨[], [], [], []⟩ isolationContext "a.json".toList "\x7b\x7d".toList
  exact ⟨inertRule, inertAction, rules [] [taggedRule] brokenRule inertRule,
    actions [] [] taggedRule taggedRule.actions _ [] (List.append_nil _).symm inertAction⟩

end Engine

end ReleaseRules
