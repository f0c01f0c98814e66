import ReleaseRules.Proofs.Rules.Stopping

/-!
Contract: runs of one list of rules followed by another.

Owns:
- the rules that apply in a run, one entry for every time that a rule changes the text;
- the run of two lists of rules, by the runs of each.

Does not own: what a single rule does to a text.

The second list is run over the text that the first one leaves, so its conditions see that text. It
is not run at all if a rule of the first list that stops the run has applied, and a rule that is
meant to stop the run but changes nothing does not apply.
-/

namespace ReleaseRules.Engine

variable (world : World) (context : Context)

/-- The rules that apply in the course of a run, in order. -/
def applied : List Rule → List Char → List Rule
  | [], _ => []
  | rule :: rest, text =>
      if rule.isMet world context text then
        let outcome := Rule.applyActions rule.name context rule.actions text
        if outcome.2.isEmpty then applied rest outcome.1
        else if rule.stops then [rule]
        else rule :: applied rest outcome.1
      else applied rest text

theorem applied_cons_of_not_met {rule : Rule} {text : List Char}
    (unmet : rule.isMet world context text = false) (rest : List Rule) :
    applied world context (rule :: rest) text = applied world context rest text := by
  simp [applied, unmet]

/-- A rule whose conditions hold applies if it has changes, and the later rules follow unless it
stops the run. -/
theorem applied_cons_of_met {rule : Rule} {text : List Char}
    (met : rule.isMet world context text = true) (rest : List Rule) :
    applied world context (rule :: rest) text =
      let outcome := Rule.applyActions rule.name context rule.actions text
      (if outcome.2.isEmpty then [] else [rule]) ++
        if !outcome.2.isEmpty && rule.stops then [] else applied world context rest outcome.1 := by
  simp only [applied, met, if_true]
  cases changes : (Rule.applyActions rule.name context rule.actions text).2 with
  | nil => simp
  | cons first others => cases rule.stops <;> simp

/-- The names that a run reports are those of the rules that apply in it. -/
theorem applyRules_names (rules : List Rule) (text : List Char) :
    (applyRules world context rules text).2.1 =
      (applied world context rules text).map Rule.name := by
  induction rules generalizing text with
  | nil => rfl
  | cons rule rest inductionHypothesis =>
      cases met : rule.isMet world context text with
      | false =>
          rw [applyRules_cons_of_not_met world context met,
            applied_cons_of_not_met world context met]
          exact inductionHypothesis text
      | true =>
          rw [applyRules_cons_of_met world context met, applied_cons_of_met world context met]
          have later := inductionHypothesis
            (Rule.applyActions rule.name context rule.actions text).1
          cases changes : (Rule.applyActions rule.name context rule.actions text).2 with
          | nil => simpa [changes] using later
          | cons first others => cases rule.stops <;> simp [changes, later]

/-- A run is stopped exactly if a rule that applies in it is meant to stop it. -/
theorem isStopped_eq_any (rules : List Rule) (text : List Char) :
    isStopped world context rules text =
      (applied world context rules text).any Rule.stops := by
  induction rules generalizing text with
  | nil => rfl
  | cons rule rest inductionHypothesis =>
      cases met : rule.isMet world context text with
      | false =>
          rw [applied_cons_of_not_met world context met, ← inductionHypothesis text]
          simp [isStopped, met]
      | true =>
          rw [applied_cons_of_met world context met, isStopped, if_pos met]
          have later := inductionHypothesis
            (Rule.applyActions rule.name context rule.actions text).1
          cases changes : (Rule.applyActions rule.name context rule.actions text).2 with
          | nil => simpa [changes] using later
          | cons first others => cases stops : rule.stops <;> simp [changes, stops, later]

/-- **Composition.** A run of two lists of rules is the run of the first one if a rule that stops
the run has applied there. Otherwise it goes on with the run of the second list over the text that
is left: the text is the last one, the names and the changes of both runs follow each other, and the
text counts as changed if it differs from the one at the start. -/
theorem process_append (first second : List Rule) (path text : List Char) :
    let left := process world first path text context
    let right := process world second path left.text context
    let here := applied world context (matchingRules first path) text
    left.appliedRules = here.map Rule.name ∧
      process world (first ++ second) path text context =
        if here.any Rule.stops then left
        else
          ⟨right.text != text, right.text, left.appliedRules ++ right.appliedRules,
            left.changes ++ right.changes⟩ := by
  intro left right here
  refine ⟨applyRules_names world context (matchingRules first path) text, ?_⟩
  have stopping : isStopped world context (matchingRules first path) text =
      here.any Rule.stops := isStopped_eq_any world context (matchingRules first path) text
  cases stops : here.any Rule.stops with
  | true =>
      rw [if_pos rfl]
      apply process_append_of_stopped world context first second path text
      rw [stopping, stops]
  | false =>
      rw [if_neg Bool.false_ne_true]
      apply process_append_of_not_stopped world context first second path text
      rw [stopping, stops]

end ReleaseRules.Engine
