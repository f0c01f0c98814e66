import ReleaseRules.Rules.Engine

/-!
Contract: the course of a run over one file.

Owns:
- the attempts of a run: every action that is tried, with the text that it is tried on;
- the texts that a run goes through, and invariants that hold of all of them;
- whether a run is stopped by a rule, and runs of one list of rules after another.

Does not own: what a single action does to a text.
-/

namespace ReleaseRules

/-- The text that an action leaves: a new one, or the old one if it changes nothing. -/
def Action.textAfter (action : Action) (name : String) (context : Context)
    (text : List Char) : List Char :=
  ((action.apply name context text).map Prod.fst).getD text

/-- Action of a rule that is tried on a text in the course of a run. -/
structure Attempt where
  rule : String
  action : Action
  text : List Char

/-- The new text and the change, if the attempt makes one. -/
def Attempt.outcome (context : Context) (attempt : Attempt) : Option (List Char × Change) :=
  attempt.action.apply attempt.rule context attempt.text

namespace Rule

/-- The attempts of actions that are applied in order. -/
def attempts (name : String) (context : Context) : List Action → List Char → List Attempt
  | [], _ => []
  | action :: rest, text =>
      ⟨name, action, text⟩ :: attempts name context rest (action.textAfter name context text)

theorem applyActions_cons (name : String) (context : Context) (action : Action)
    (rest : List Action) (text : List Char) :
    applyActions name context (action :: rest) text =
      ((applyActions name context rest (action.textAfter name context text)).1,
        ((action.apply name context text).map Prod.snd).toList ++
          (applyActions name context rest (action.textAfter name context text)).2) := by
  cases outcome : action.apply name context text with
  | none => simp [applyActions, Action.textAfter, outcome]
  | some made => simp [applyActions, Action.textAfter, outcome]

/-- The changes of a rule are those of its attempts, in order. -/
theorem applyActions_changes (name : String) (context : Context) (actions : List Action)
    (text : List Char) :
    (applyActions name context actions text).2 =
      (attempts name context actions text).filterMap fun attempt =>
        (attempt.outcome context).map Prod.snd := by
  induction actions generalizing text with
  | nil => rfl
  | cons action rest inductionHypothesis =>
      rw [applyActions_cons, inductionHypothesis, attempts, List.filterMap_cons]
      cases outcome : action.apply name context text with
      | none => simp [Attempt.outcome, outcome]
      | some made => simp [Attempt.outcome, outcome]

/-- A text is left as it is when no attempt changes it. -/
theorem applyActions_text_of_no_changes (name : String) (context : Context)
    (actions : List Action) (text : List Char)
    (unchanged : (applyActions name context actions text).2 = []) :
    (applyActions name context actions text).1 = text := by
  induction actions generalizing text with
  | nil => rfl
  | cons action rest inductionHypothesis =>
      rw [applyActions_cons] at unchanged ⊢
      obtain ⟨none_here, none_later⟩ := List.append_eq_nil_iff.mp unchanged
      have same : action.textAfter name context text = text := by
        cases outcome : action.apply name context text with
        | none => simp [Action.textAfter, outcome]
        | some made => simp [outcome] at none_here
      rw [same] at none_later ⊢
      exact inductionHypothesis text none_later

/-- Actions that change nothing leave a text as it is. -/
theorem applyActions_of_idle {name : String} {context : Context} {actions : List Action}
    {text : List Char} (idle : ∀ action ∈ actions, action.apply name context text = none) :
    applyActions name context actions text = (text, []) := by
  induction actions with
  | nil => rfl
  | cons action rest inductionHypothesis =>
      rw [applyActions, idle action List.mem_cons_self]
      apply inductionHypothesis
      intro other member
      exact idle other (List.mem_cons_of_mem action member)

theorem action_of_mem_attempts {name : String} {context : Context} {actions : List Action}
    {text : List Char} {attempt : Attempt}
    (member : attempt ∈ attempts name context actions text) :
    attempt.rule = name ∧ attempt.action ∈ actions := by
  induction actions generalizing text with
  | nil => simp [attempts] at member
  | cons action rest inductionHypothesis =>
      rcases List.mem_cons.mp member with rfl | later
      · exact ⟨rfl, List.mem_cons_self⟩
      · obtain ⟨named, inRest⟩ := inductionHypothesis later
        exact ⟨named, List.mem_cons_of_mem _ inRest⟩

/-- What every attempt keeps holds of the text that a rule leaves. -/
theorem applyActions_invariant (name : String) (context : Context)
    (holds : List Char → Prop) (actions : List Action) (text : List Char)
    (start : holds text)
    (step : ∀ attempt ∈ attempts name context actions text, holds attempt.text →
      ∀ next change, attempt.outcome context = some (next, change) → holds next) :
    holds (applyActions name context actions text).1 := by
  induction actions generalizing text with
  | nil => exact start
  | cons action rest inductionHypothesis =>
      rw [applyActions_cons]
      have kept : holds (action.textAfter name context text) := by
        cases outcome : action.apply name context text with
        | none => simpa [Action.textAfter, outcome] using start
        | some made =>
            have next := step ⟨name, action, text⟩ List.mem_cons_self start made.1 made.2 outcome
            simpa [Action.textAfter, outcome] using next
      exact inductionHypothesis _ kept fun attempt member =>
        step attempt (List.mem_cons_of_mem _ member)

end Rule

namespace Engine

variable (world : World) (context : Context)

/-- Whether a rule of the list changes the text that is left for it and keeps the later rules
from the file. -/
def isStopped : List Rule → List Char → Bool
  | [], _ => false
  | rule :: rest, text =>
      if rule.isMet world context text then
        let outcome := Rule.applyActions rule.name context rule.actions text
        (!outcome.2.isEmpty && rule.stops) || isStopped rest outcome.1
      else isStopped rest text

/-- The attempts of rules that are applied in order. -/
def attempts : List Rule → List Char → List Attempt
  | [], _ => []
  | rule :: rest, text =>
      if rule.isMet world context text then
        let outcome := Rule.applyActions rule.name context rule.actions text
        Rule.attempts rule.name context rule.actions text ++
          if !outcome.2.isEmpty && rule.stops then [] else attempts rest outcome.1
      else attempts rest text

theorem applyRules_cons_of_not_met {rule : Rule} {text : List Char}
    (unmet : rule.isMet world context text = false) (rest : List Rule) :
    applyRules world context (rule :: rest) text = applyRules world context rest text := by
  simp [applyRules, unmet]

/-- A rule whose conditions hold: its changes come first, its name counts if there are any, and
the later rules follow unless it stops the run. -/
theorem applyRules_cons_of_met {rule : Rule} {text : List Char}
    (met : rule.isMet world context text = true) (rest : List Rule) :
    applyRules world context (rule :: rest) text =
      let outcome := Rule.applyActions rule.name context rule.actions text
      if !outcome.2.isEmpty && rule.stops then (outcome.1, [rule.name], outcome.2)
      else
        let later := applyRules world context rest outcome.1
        (later.1, (if outcome.2.isEmpty then [] else [rule.name]) ++ later.2.1,
          outcome.2 ++ later.2.2) := by
  simp only [applyRules, met, if_true]
  cases changes : (Rule.applyActions rule.name context rule.actions text).2 with
  | nil => simp
  | cons first others => cases rule.stops <;> simp

/-- Every attempt of a run is one of an action of its rules. -/
theorem source_of_mem_attempts {rules : List Rule} {text : List Char} {attempt : Attempt}
    (member : attempt ∈ attempts world context rules text) :
    ∃ source ∈ rules, attempt.rule = source.name ∧ attempt.action ∈ source.actions := by
  induction rules generalizing text with
  | nil => simp [attempts] at member
  | cons rule rest inductionHypothesis =>
      have later : ∀ {next : List Char}, attempt ∈ attempts world context rest next →
          ∃ source ∈ rule :: rest, attempt.rule = source.name ∧
            attempt.action ∈ source.actions := by
        intro next inRest
        obtain ⟨source, inRules, facts⟩ := inductionHypothesis inRest
        exact ⟨source, List.mem_cons_of_mem _ inRules, facts⟩
      rw [attempts] at member
      split at member
      · rcases List.mem_append.mp member with here | there
        · exact ⟨rule, List.mem_cons_self, Rule.action_of_mem_attempts here⟩
        · split at there
          · simp at there
          · exact later there
      · exact later member

/-- What every attempt of a run keeps holds of the text that the run leaves. -/
theorem applyRules_invariant (holds : List Char → Prop) (rules : List Rule)
    (text : List Char) (start : holds text)
    (step : ∀ attempt ∈ attempts world context rules text, holds attempt.text →
      ∀ next change, attempt.outcome context = some (next, change) → holds next) :
    holds (applyRules world context rules text).1 := by
  induction rules generalizing text with
  | nil => exact start
  | cons rule rest inductionHypothesis =>
      by_cases met : rule.isMet world context text = true
      · rw [applyRules_cons_of_met world context met]
        rw [attempts, if_pos met] at step
        have kept := Rule.applyActions_invariant rule.name context holds rule.actions text start
          fun attempt member => step attempt (List.mem_append_left _ member)
        by_cases stopped : (!(Rule.applyActions rule.name context rule.actions text).2.isEmpty &&
            rule.stops) = true
        · simpa [stopped] using kept
        · simp only [stopped, Bool.false_eq_true, if_false] at step ⊢
          exact inductionHypothesis _ kept fun attempt member =>
            step attempt (List.mem_append_right _ member)
      · have unmet : rule.isMet world context text = false := by simpa using met
        rw [applyRules_cons_of_not_met world context unmet]
        rw [attempts, if_neg met] at step
        exact inductionHypothesis text start step

/-- Rules after a list of rules: a stopped run ends with the list, and any other goes on with
the text that the list leaves. -/
theorem applyRules_append (first second : List Rule) (text : List Char) :
    applyRules world context (first ++ second) text =
      let left := applyRules world context first text
      if isStopped world context first text then left
      else
        let right := applyRules world context second left.1
        (right.1, left.2.1 ++ right.2.1, left.2.2 ++ right.2.2) := by
  induction first generalizing text with
  | nil => simp [applyRules, isStopped]
  | cons rule rest inductionHypothesis =>
      by_cases met : rule.isMet world context text = true
      · rw [List.cons_append, applyRules_cons_of_met world context met,
          applyRules_cons_of_met world context met, isStopped, if_pos met]
        simp only [inductionHypothesis]
        by_cases stopped : (!(Rule.applyActions rule.name context rule.actions text).2.isEmpty &&
            rule.stops) = true
        · simp [stopped]
        · simp only [stopped, Bool.false_eq_true, if_false, Bool.false_or]
          split
          · rfl
          · simp only [List.append_assoc]
      · have unmet : rule.isMet world context text = false := by simpa using met
        rw [List.cons_append, applyRules_cons_of_not_met world context unmet,
          applyRules_cons_of_not_met world context unmet, inductionHypothesis, isStopped,
          if_neg met]

theorem isStopped_append (first second : List Rule) (text : List Char) :
    isStopped world context (first ++ second) text =
      (isStopped world context first text ||
        isStopped world context second (applyRules world context first text).1) := by
  induction first generalizing text with
  | nil => simp [applyRules, isStopped]
  | cons rule rest inductionHypothesis =>
      by_cases met : rule.isMet world context text = true
      · rw [List.cons_append, isStopped, if_pos met, isStopped, if_pos met,
          applyRules_cons_of_met world context met]
        by_cases stopped : (!(Rule.applyActions rule.name context rule.actions text).2.isEmpty &&
            rule.stops) = true
        · simp [stopped]
        · simp only [stopped, Bool.false_eq_true, if_false, Bool.false_or]
          exact inductionHypothesis _
      · have unmet : rule.isMet world context text = false := by simpa using met
        rw [List.cons_append, isStopped, if_neg met, isStopped, if_neg met,
          applyRules_cons_of_not_met world context unmet]
        exact inductionHypothesis text

/-- Only a rule that is meant to can stop a run. -/
theorem exists_stops_of_isStopped {rules : List Rule} {text : List Char}
    (stopped : isStopped world context rules text = true) :
    ∃ rule ∈ rules, rule.stops = true := by
  induction rules generalizing text with
  | nil => simp [isStopped] at stopped
  | cons rule rest inductionHypothesis =>
      by_cases stops : rule.stops = true
      · exact ⟨rule, List.mem_cons_self, stops⟩
      · have later : ∃ next, isStopped world context rest next = true := by
          rw [isStopped] at stopped
          split at stopped
          · simp only [stops, Bool.and_false, Bool.false_or] at stopped
            exact ⟨_, stopped⟩
          · exact ⟨_, stopped⟩
        obtain ⟨next, stoppedLater⟩ := later
        obtain ⟨source, member, facts⟩ := inductionHypothesis stoppedLater
        exact ⟨source, List.mem_cons_of_mem _ member, facts⟩

theorem matchingRules_append (first second : List Rule) (path : List Char) :
    matchingRules (first ++ second) path =
      matchingRules first path ++ matchingRules second path := by
  simp [matchingRules]

/-! ## Runs of one rule -/

/-- A run of one rule without conditions that has a single action leaves what the action does. -/
theorem process_single {rule : Rule} {path : List Char} {action : Action}
    (about : rule.isAbout path = true) (unconditional : rule.conditions = [])
    (single : rule.actions = [action]) (text : List Char) :
    (process world [rule] path text context).text =
      action.textAfter rule.name context text := by
  have matching : matchingRules [rule] path = [rule] := List.filter_cons_of_pos about
  have met : rule.isMet world context text = true := by
    rw [Rule.isMet, unconditional, List.all_nil]
  rw [process, matching, applyRules_cons_of_met world context met []]
  simp only [single, Rule.applyActions_cons]
  split <;> rfl

/-! ## Runs without changes -/

/-- Rules that make no change leave a text as it is. -/
theorem applyRules_of_idle {rules : List Rule} {text : List Char}
    (idle : ∀ rule ∈ rules, (Rule.applyActions rule.name context rule.actions text).2 = []) :
    applyRules world context rules text = (text, [], []) := by
  induction rules with
  | nil => rfl
  | cons rule rest inductionHypothesis =>
      have later : applyRules world context rest text = (text, [], []) := by
        apply inductionHypothesis
        intro other member
        exact idle other (List.mem_cons_of_mem rule member)
      have none := idle rule List.mem_cons_self
      have same := Rule.applyActions_text_of_no_changes _ context _ _ none
      cases met : rule.isMet world context text with
      | false => rw [applyRules_cons_of_not_met world context met, later]
      | true =>
          rw [applyRules_cons_of_met world context met]
          simp [none, same, later]

/-- A run of rules that make no change leaves the text alone. -/
theorem process_of_idle {rules : List Rule} {text : List Char}
    (idle : ∀ rule ∈ rules, (Rule.applyActions rule.name context rule.actions text).2 = [])
    (path : List Char) : process world rules path text context = ⟨false, text, [], []⟩ := by
  have unchanged : applyRules world context (matchingRules rules path) text = (text, [], []) := by
    apply applyRules_of_idle
    intro rule member
    exact idle rule ((List.mem_filter.mp member).1)
  rw [process, unchanged]
  simp

end Engine

end ReleaseRules
