import ReleaseRules.Proofs.Rules.Run

/-!
Contract: rules that keep the later rules from a file.

Owns:
- a run that is stopped is a run of the rules up to the one that stops it;
- what the later rules do in the runs after it.

Does not own: runs of lists of rules in general.

A rule stops a run only by a change that it makes in this very run. So the rules behind it are
kept from the file in a later run exactly if one of the rules up to it stops that run as well.
-/

namespace ReleaseRules.Engine

/-- The text after so many runs of the same rules. -/
def textAfterRuns (world : World) (rules : List Rule) (path : List Char) (context : Context) :
    Nat → List Char → List Char
  | 0, text => text
  | runs + 1, text =>
      textAfterRuns world rules path context runs (process world rules path text context).text

variable (world : World) (context : Context)

/-- A run that the first rules stop is a run of the first rules. -/
theorem process_append_of_stopped (first second : List Rule) (path text : List Char)
    (stopped : isStopped world context (matchingRules first path) text = true) :
    process world (first ++ second) path text context =
      process world first path text context := by
  simp only [process, matchingRules_append, applyRules_append, stopped, if_true]

/-- A run that the first rules do not stop goes on with the text that they leave. -/
theorem process_append_of_not_stopped (first second : List Rule) (path text : List Char)
    (running : isStopped world context (matchingRules first path) text = false) :
    process world (first ++ second) path text context =
      let left := process world first path text context
      let right := process world second path left.text context
      ⟨right.text != text, right.text, left.appliedRules ++ right.appliedRules,
        left.changes ++ right.changes⟩ := by
  simp only [process, matchingRules_append, applyRules_append, running, Bool.false_eq_true,
    if_false]

/-- If a run is stopped by a rule, it is the run of the rules up to this rule. The same holds of
every later run over the text that is left, as long as one of these rules stops it again; a
later run that they do not stop goes on with the rules behind them. -/
theorem later_rules_wait_while_stopped (path text : List Char) (earlier later : List Rule)
    (stopper : Rule)
    (running : isStopped world context (matchingRules earlier path) text = false)
    (stopped : isStopped world context (matchingRules (earlier ++ [stopper]) path) text = true) :
    let rules := earlier ++ stopper :: later
    let shielding := earlier ++ [stopper]
    let once := process world rules path text context
    stopper.stops = true ∧ once = process world shielding path text context ∧
      ∀ runs : Nat,
        let current := textAfterRuns world rules path context runs once.text
        let again := process world shielding path current context
        let rest := process world later path again.text context
        process world rules path current context =
          if isStopped world context (matchingRules shielding path) current then again
          else
            ⟨rest.text != current, rest.text, again.appliedRules ++ rest.appliedRules,
              again.changes ++ rest.changes⟩ := by
  intro rules shielding once
  have split : rules = shielding ++ later := by simp [rules, shielding]
  refine ⟨?_, ?_, ?_⟩
  · -- The earlier rules do not stop the run, so the rule itself does.
    have alone : isStopped world context (matchingRules [stopper] path)
        (applyRules world context (matchingRules earlier path) text).1 = true := by
      have joined := stopped
      rw [matchingRules_append, isStopped_append, running, Bool.false_or] at joined
      exact joined
    obtain ⟨rule, member, stops⟩ := exists_stops_of_isStopped world context alone
    have same : rule = stopper := by
      simpa using (List.mem_filter.mp member).1
    exact same ▸ stops
  · simp only [once, split]
    exact process_append_of_stopped world context shielding later path text stopped
  · intro runs current again rest
    by_cases kept : isStopped world context (matchingRules shielding path) current = true
    · rw [if_pos kept, split]
      exact process_append_of_stopped world context shielding later path current kept
    · rw [if_neg kept, split]
      exact process_append_of_not_stopped world context shielding later path current
        (by simpa using kept)

/-- A rule for every file that writes a number at a key. -/
private def numberRule (name key : String) (value : Int) (stops : Bool) : Rule :=
  { Rule.new name ["*"] [.replaceValue key (.number (.integer value))] with stops := stops }

private def emptyWorld : World := ⟨[], [], [], []⟩

private def firstTag : Context := ⟨"v1", "2026-01-15", [], false, none⟩

/-- The first of two rules stops the run over a text, and the later runs are as described. -/
theorem later_rules_wait_behind_first_rule :
    let first := numberRule "first" "a" 1 true
    let second := numberRule "second" "b" 2 false
    let path := ['f', '.', 'j', 's', 'o', 'n']
    let once := process emptyWorld [first, second] path "\x7b\"a\":0\x7d".toList firstTag
    once = process emptyWorld [first] path "\x7b\"a\":0\x7d".toList firstTag ∧
      ∀ runs : Nat,
        let current := textAfterRuns emptyWorld [first, second] path firstTag runs once.text
        let again := process emptyWorld [first] path current firstTag
        let rest := process emptyWorld [second] path again.text firstTag
        process emptyWorld [first, second] path current firstTag =
          if isStopped emptyWorld firstTag (matchingRules [first] path) current then again
          else
            ⟨rest.text != current, rest.text, again.appliedRules ++ rest.appliedRules,
              again.changes ++ rest.changes⟩ := by
  intro first second path once
  exact (later_rules_wait_while_stopped emptyWorld firstTag path "\x7b\"a\":0\x7d".toList []
    [second] first (by decide +kernel) (by decide +kernel)).2

/-- A rule that has stopped one run does not keep the later rules from the next one: there it
has nothing left to change, so they get their turn. -/
theorem second_run_reaches_later_rule :
    ¬ ∀ (earlier later : List Rule) (stopper : Rule) (path text : List Char),
      isStopped emptyWorld firstTag (matchingRules earlier path) text = false →
      isStopped emptyWorld firstTag (matchingRules (earlier ++ [stopper]) path) text = true →
      let rules := earlier ++ stopper :: later
      let once := process emptyWorld rules path text firstTag
      (process emptyWorld rules path once.text firstTag).changes =
        (process emptyWorld (earlier ++ [stopper]) path once.text firstTag).changes := by
  intro shielded
  have same := shielded [] [numberRule "second" "b" 2 false] (numberRule "first" "a" 1 true)
    ['f', '.', 'j', 's', 'o', 'n'] "\x7b\"a\":0\x7d".toList (by decide +kernel)
    (by decide +kernel)
  revert same
  decide +kernel

end ReleaseRules.Engine
