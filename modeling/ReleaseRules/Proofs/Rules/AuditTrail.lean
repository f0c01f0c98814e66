import ReleaseRules.Proofs.Rules.Run

/-!
Contract: what the records of a run tell about its course.

Owns:
- steps: attempts that change a text, with the text and the record that they make;
- stretches: the steps of one rule, in the order of its actions;
- the trail of a run, from the text at its start to the text that it leaves.

Does not own: whether the two texts differ.

A trail has one stretch for every time that a rule applies, so rules that share a name stay apart in
it although their records do not.
-/

namespace ReleaseRules

/-- Attempt that changes its text, with the new text and the record of the change. -/
structure Step (context : Context) where
  attempt : Attempt
  next : List Char
  change : Change
  made : attempt.outcome context = some (next, change)

namespace Step

variable {context : Context}

/-- Whether steps lead from one text to another: each is tried on the text that the one before it
has made. -/
def Lead : List Char → List (Step context) → List Char → Prop
  | text, [], final => text = final
  | text, step :: rest, final => step.attempt.text = text ∧ Lead step.next rest final

theorem Lead.append {text between final : List Char} {first second : List (Step context)}
    (there : Lead text first between) (onward : Lead between second final) :
    Lead text (first ++ second) final := by
  induction first generalizing text with
  | nil =>
      obtain rfl : text = between := there
      exact onward
  | cons step rest inductionHypothesis =>
      obtain ⟨start, later⟩ := there
      exact ⟨start, inductionHypothesis later⟩

/-- The record of a step names the rule of the attempt. -/
theorem change_rule (step : Step context) : step.change.rule = step.attempt.rule := by
  obtain ⟨edited, -, same⟩ := Option.map_eq_some_iff.mp step.made
  exact congrArg (fun made => made.2.rule) same.symm

end Step

/-- Steps of one rule: there are some, and they are attempts of its actions, in their order. -/
structure Stretch (context : Context) where
  rule : Rule
  steps : List (Step context)
  nonempty : steps ≠ []
  ordered : (steps.map fun step => step.attempt.action).Sublist rule.actions
  named : ∀ step ∈ steps, step.attempt.rule = rule.name

namespace Stretch

variable {context : Context}

/-- The records of a stretch. -/
def changes (stretch : Stretch context) : List Change := stretch.steps.map Step.change

theorem changes_ne_nil (stretch : Stretch context) : stretch.changes ≠ [] := by
  intro empty
  exact stretch.nonempty (List.map_eq_nil_iff.mp empty)

/-- Every record of a stretch names its rule. -/
theorem rule_of_mem_changes {stretch : Stretch context} {change : Change}
    (member : change ∈ stretch.changes) : change.rule = stretch.rule.name := by
  obtain ⟨step, inSteps, rfl⟩ := List.mem_map.mp member
  rw [step.change_rule]
  exact stretch.named step inSteps

end Stretch

/-- Whether an attempt changes its text. -/
def Attempt.succeeds (context : Context) (attempt : Attempt) : Bool :=
  (attempt.outcome context).isSome

theorem Step.mem_of_attempted {context : Context} {steps : List (Step context)}
    {tried : List Attempt}
    (attempted : steps.map Step.attempt = tried.filter (Attempt.succeeds context))
    {step : Step context} (member : step ∈ steps) : step.attempt ∈ tried := by
  have known : step.attempt ∈ steps.map Step.attempt := List.mem_map_of_mem member
  rw [attempted] at known
  exact (List.mem_filter.mp known).1

namespace Rule

variable (name : String) (context : Context)

theorem map_action_attempts (actions : List Action) (text : List Char) :
    (attempts name context actions text).map Attempt.action = actions := by
  induction actions generalizing text with
  | nil => rfl
  | cons action rest inductionHypothesis => rw [attempts, List.map_cons, inductionHypothesis]

/-- The actions of a rule leave their text by steps: the attempts that succeed, with the changes of
the rule as their records. -/
theorem exists_steps (actions : List Action) (text : List Char) :
    ∃ steps : List (Step context),
      steps.map Step.attempt =
        (attempts name context actions text).filter (Attempt.succeeds context) ∧
      steps.map Step.change = (applyActions name context actions text).2 ∧
      Step.Lead text steps (applyActions name context actions text).1 := by
  induction actions generalizing text with
  | nil => exact ⟨[], rfl, rfl, rfl⟩
  | cons action rest inductionHypothesis =>
      rw [applyActions_cons, attempts, List.filter_cons]
      obtain ⟨steps, attempted, recorded, leads⟩ :=
        inductionHypothesis (action.textAfter name context text)
      cases outcome : action.apply name context text with
      | none =>
          have same : action.textAfter name context text = text := by
            simp [Action.textAfter, outcome]
          rw [same] at attempted recorded leads ⊢
          exact ⟨steps, by simpa [Attempt.succeeds, Attempt.outcome, outcome] using attempted,
            recorded, leads⟩
      | some made =>
          have next : action.textAfter name context text = made.1 := by
            simp [Action.textAfter, outcome]
          rw [next] at attempted recorded leads ⊢
          let step : Step context := ⟨⟨name, action, text⟩, made.1, made.2, outcome⟩
          refine ⟨step :: steps, ?_, ?_, rfl, leads⟩
          · simp [Attempt.succeeds, Attempt.outcome, outcome, attempted, step]
          · rw [List.map_cons, recorded]
            rfl

end Rule

/-- The stretch of a rule whose steps are the attempts that succeed. -/
def Rule.stretch (rule : Rule) {context : Context} {text : List Char}
    (steps : List (Step context)) (nonempty : steps ≠ [])
    (attempted : steps.map Step.attempt =
      (attempts rule.name context rule.actions text).filter (Attempt.succeeds context)) :
    Stretch context where
  rule := rule
  steps := steps
  nonempty := nonempty
  ordered := by
    have among : (steps.map Step.attempt).Sublist
        (attempts rule.name context rule.actions text) := by
      rw [attempted]
      exact List.filter_sublist
    simpa [map_action_attempts, Function.comp_def] using among.map Attempt.action
  named := by
    intro step member
    exact (action_of_mem_attempts (Step.mem_of_attempted attempted member)).1

namespace Engine

variable (world : World) (context : Context)

/-- Whether stretches are the trail of a run of rules over a text: how they lie among the rules and
the attempts of the run, and what the run leaves, its text, its names and its changes. -/
structure IsTrail (rules : List Rule) (tried : List Attempt) (text : List Char)
    (trail : List (Stretch context)) (outcome : List Char × List String × List Change) :
    Prop where
  ordered : (trail.map Stretch.rule).Sublist rules
  unstopped : ∀ stretch ∈ trail.dropLast, stretch.rule.stops = false
  attempted : (trail.flatMap Stretch.steps).map Step.attempt =
    tried.filter (Attempt.succeeds context)
  named : outcome.2.1 = trail.map fun stretch => stretch.rule.name
  recorded : outcome.2.2 = (trail.map Stretch.changes).flatten
  leads : Step.Lead text (trail.flatMap Stretch.steps) outcome.1

namespace IsTrail

variable {context} {rules : List Rule} {tried : List Attempt} {text between : List Char}
  {trail : List (Stretch context)} {outcome : List Char × List String × List Change}

theorem nil (rules : List Rule) (text : List Char) :
    IsTrail context rules [] text [] (text, [], []) :=
  ⟨List.nil_sublist rules, by simp, rfl, rfl, rfl, rfl⟩

/-- A rule that applies puts its stretch in front of the trail of the rules after it. It may stop
the run only if there is none. -/
theorem cons (isTrail : IsTrail context rules tried between trail outcome)
    (stretch : Stretch context) {here : List Attempt}
    (attempted : stretch.steps.map Step.attempt = here.filter (Attempt.succeeds context))
    (leads : Step.Lead text stretch.steps between)
    (onward : trail = [] ∨ stretch.rule.stops = false) :
    IsTrail context (stretch.rule :: rules) (here ++ tried) text (stretch :: trail)
      (outcome.1, stretch.rule.name :: outcome.2.1, stretch.changes ++ outcome.2.2) where
  ordered := isTrail.ordered.cons_cons stretch.rule
  unstopped := by
    cases trail with
    | nil => simp
    | cons second others =>
        intro other member
        rw [List.dropLast_cons_cons] at member
        rcases List.mem_cons.mp member with rfl | later
        · exact onward.resolve_left (List.cons_ne_nil second others)
        · exact isTrail.unstopped other later
  attempted := by
    rw [List.flatMap_cons, List.map_append, List.filter_append, attempted, isTrail.attempted]
  named := by rw [isTrail.named, List.map_cons]
  recorded := by rw [isTrail.recorded, List.map_cons, List.flatten_cons]
  leads := leads.append isTrail.leads

/-- A rule whose attempts all fail leaves no trace in the trail. -/
theorem skip (isTrail : IsTrail context rules tried text trail outcome) (rule : Rule)
    {here : List Attempt} (failed : here.filter (Attempt.succeeds context) = []) :
    IsTrail context (rule :: rules) (here ++ tried) text trail outcome :=
  { isTrail with
    ordered := isTrail.ordered.cons rule
    attempted := by rw [List.filter_append, failed, List.nil_append, isTrail.attempted] }

end IsTrail

/-- Every run of rules has a trail. -/
theorem exists_trail (rules : List Rule) (text : List Char) :
    ∃ trail : List (Stretch context),
      IsTrail context rules (attempts world context rules text) text trail
        (applyRules world context rules text) := by
  induction rules generalizing text with
  | nil => exact ⟨[], IsTrail.nil [] text⟩
  | cons rule rest inductionHypothesis =>
      cases met : rule.isMet world context text with
      | false =>
          obtain ⟨trail, isTrail⟩ := inductionHypothesis text
          refine ⟨trail, ?_⟩
          rw [applyRules_cons_of_not_met world context met]
          have none : ([] : List Attempt).filter (Attempt.succeeds context) = [] := rfl
          simpa [attempts, met] using isTrail.skip rule none
      | true =>
          rw [applyRules_cons_of_met world context met, attempts, if_pos met]
          obtain ⟨steps, attempted, recorded, leads⟩ :=
            Rule.exists_steps rule.name context rule.actions text
          cases steps with
          | nil =>
              obtain ⟨trail, isTrail⟩ := inductionHypothesis text
              have same : text = (Rule.applyActions rule.name context rule.actions text).1 := leads
              refine ⟨trail, ?_⟩
              simpa [← same, ← recorded] using isTrail.skip rule attempted.symm
          | cons step others =>
              let stretch := rule.stretch (step :: others) (List.cons_ne_nil step others) attempted
              have applies : (Rule.applyActions rule.name context rule.actions text).2 =
                  stretch.changes := recorded.symm
              have changes := stretch.changes_ne_nil
              have isRule : stretch.rule = rule := rfl
              cases stops : rule.stops with
              | true =>
                  refine ⟨[stretch], ?_⟩
                  simpa [applies, changes, isRule] using
                    (IsTrail.nil rest _).cons stretch attempted leads (.inl rfl)
              | false =>
                  obtain ⟨trail, later⟩ := inductionHypothesis
                    (Rule.applyActions rule.name context rule.actions text).1
                  refine ⟨stretch :: trail, ?_⟩
                  simpa [applies, changes, isRule] using
                    later.cons stretch attempted leads (.inr stops)

/-- A run without records leaves its text alone. -/
theorem IsTrail.text_of_no_changes {context : Context} {rules : List Rule} {tried : List Attempt}
    {text : List Char} {trail : List (Stretch context)}
    {outcome : List Char × List String × List Change}
    (isTrail : IsTrail context rules tried text trail outcome) (unchanged : outcome.2.2 = []) :
    outcome.1 = text := by
  have leads := isTrail.leads
  cases trail with
  | nil => exact leads.symm
  | cons stretch others =>
      have recorded := isTrail.recorded
      rw [unchanged, List.map_cons, List.flatten_cons] at recorded
      exact absurd (List.append_eq_nil_iff.mp recorded.symm).1 stretch.changes_ne_nil

/-- **The trail of a run.** The rules that apply stand in the order of the matching rules, and only
the last of them may stop the run. The changes fall apart into one block for each of them, in this
order; a block has at least one record, and all its records name the rule. The steps behind the
records are the attempts that succeed. They lead from the first text to the one that is left, and
without a record the text is the first one. -/
theorem process_has_trail (rules : List Rule) (path text : List Char) :
    let matching := matchingRules rules path
    let result := process world rules path text context
    ∃ trail : List (Stretch context),
      (trail.map Stretch.rule).Sublist matching ∧
      (∀ stretch ∈ trail.dropLast, stretch.rule.stops = false) ∧
      result.appliedRules = trail.map (fun stretch => stretch.rule.name) ∧
      result.changes = (trail.map Stretch.changes).flatten ∧
      (∀ stretch ∈ trail, stretch.changes ≠ [] ∧
        ∀ change ∈ stretch.changes, change.rule = stretch.rule.name) ∧
      (trail.flatMap Stretch.steps).map Step.attempt =
        (attempts world context matching text).filter (Attempt.succeeds context) ∧
      Step.Lead text (trail.flatMap Stretch.steps) result.text ∧
      (result.changes = [] → result.text = text) := by
  intro matching result
  obtain ⟨trail, isTrail⟩ := exists_trail world context matching text
  refine ⟨trail, isTrail.ordered, isTrail.unstopped, isTrail.named, isTrail.recorded, ?_,
    isTrail.attempted, isTrail.leads, isTrail.text_of_no_changes⟩
  intro stretch member
  exact ⟨stretch.changes_ne_nil, fun change => Stretch.rule_of_mem_changes⟩

/-- A rule that writes the tag at some keys, with an action between that does nothing. -/
private def taggingRule (keys : List String) (stops : Bool) : Rule :=
  { Rule.new "tag" ["*"]
      ((keys.map fun key => .replaceValue key (.text "{tag}")) ++ [.unknown]) with
    stops := stops }

private def trailContext : Context := ⟨"v1", "2026-01-15", [], false, none⟩

/-- Three rules of one name, of which the second stops the run: there are two stretches, and their
three steps lead to a new text. -/
theorem trail_of_two_rules :
    let text := "\x7b\x7d".toList
    let rules :=
      [taggingRule ["a", "b"] false, taggingRule ["b", "c"] true, taggingRule ["d"] false]
    let result := process ⟨[], [], [], []⟩ rules ['f'] text trailContext
    ∃ trail : List (Stretch trailContext),
      trail.length = 2 ∧ (trail.flatMap Stretch.steps).length = 3 ∧
      (∀ stretch ∈ trail.dropLast, stretch.rule.stops = false) ∧
      (∀ stretch ∈ trail, ∀ change ∈ stretch.changes, change.rule = "tag") ∧
      Step.Lead text (trail.flatMap Stretch.steps) result.text ∧ result.text ≠ text := by
  intro text rules result
  obtain ⟨trail, ordered, unstopped, named, recorded, blocks, -, leads, -⟩ :=
    process_has_trail ⟨[], [], [], []⟩ trailContext rules ['f'] text
  have names : result.appliedRules = ["tag", "tag"] := by decide +kernel
  have count : result.changes.length = 3 := by decide +kernel
  refine ⟨trail, ?_, ?_, unstopped, ?_, leads, by decide +kernel⟩
  · simpa [result, names] using (congrArg List.length named).symm
  · simpa [result, Stretch.changes, List.flatMap, List.length_flatten, Function.comp_def, count]
      using (congrArg List.length recorded).symm
  · intro stretch member change inChanges
    have known : stretch.rule.name ∈ result.appliedRules := by
      rw [named]
      exact List.mem_map_of_mem member
    rw [(blocks stretch member).2 change inChanges]
    simpa [names] using known

end Engine

end ReleaseRules
