import ReleaseRules.Rules.Engine

/-!
Contract: what a run over one file sees besides the file.

Owns: runs in worlds in which the same paths lead somewhere, with or without the intention to keep
the outcome.

Does not own: which paths lead somewhere.
-/

namespace ReleaseRules

variable {world other : World} (sameExisting : ∀ path, other.contains path = world.contains path)

include sameExisting in
/-- A condition asks a world only which paths lead somewhere. -/
theorem Condition.holds_congr (context : Context) (text : List Char) (condition : Condition) :
    condition.holds other context text = condition.holds world context text := by
  cases condition with
  | fileExists path =>
      cases path with
      | none => rfl
      | some path =>
          rw [holds, holds]
          simp only [sameExisting]
  | _ => rfl

/-- An action does the same in a run that is not to be kept. -/
theorem Action.apply_dryRun (action : Action) (name : String) (context : Context) (dry : Bool)
    (text : List Char) :
    action.apply name { context with dryRun := dry } text = action.apply name context text := by
  cases action with
  | updateVersion key pattern source strategy => cases source <;> rfl
  | _ => rfl

theorem Rule.applyActions_dryRun (name : String) (context : Context) (dry : Bool)
    (actions : List Action) (text : List Char) :
    applyActions name { context with dryRun := dry } actions text =
      applyActions name context actions text := by
  induction actions generalizing text with
  | nil => rfl
  | cons action rest inductionHypothesis =>
      rw [applyActions, applyActions, Action.apply_dryRun]
      simp only [inductionHypothesis]

namespace Engine

include sameExisting in
/-- Rules do the same in worlds in which the same paths lead somewhere. -/
theorem applyRules_congr (context : Context) (dry : Bool) (rules : List Rule)
    (text : List Char) :
    applyRules other { context with dryRun := dry } rules text =
      applyRules world context rules text := by
  induction rules generalizing text with
  | nil => rfl
  | cons rule rest inductionHypothesis =>
      have met : rule.isMet other { context with dryRun := dry } text =
          rule.isMet world context text := by
        rw [Rule.isMet, Rule.isMet]
        congr 1
        funext condition
        rw [Condition.holds_congr sameExisting]
        cases condition <;> rfl
      rw [applyRules, applyRules, met, Rule.applyActions_dryRun]
      simp only [inductionHypothesis]

include sameExisting in
/-- A run that is not to be kept has the outcome of one that is. -/
theorem preview_eq_process (rules : List Rule) (path text : List Char) (context : Context) :
    preview world rules path text context = process other rules path text context := by
  have runs := applyRules_congr (fun path => (sameExisting path).symm) context true
    (matchingRules rules path) text
  rw [preview, process, process, runs]

end Engine

end ReleaseRules
