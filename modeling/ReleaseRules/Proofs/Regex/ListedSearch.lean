import ReleaseRules.Proofs.Regex.Matches

/-!
Contract: the search of a program, with the visited pairs in a list.

Owns: the search that can be evaluated on a given text, and that it finds what the search finds.

Does not own: what the search finds.
-/

namespace ReleaseRules.Regex

namespace Program

/-- Explore branches in order of preference, with the marks of visited pairs in a list. -/
def exploreListed (program : Program) (text : Array Char) :
    Nat → List Nat → List Branch → Option (List (Nat × Nat)) × List Nat
  | 0, visited, _ => (none, visited)
  | _ + 1, visited, [] => (none, visited)
  | fuel + 1, visited, branch :: others =>
      let mark := branch.mark (text.size + 1)
      if visited.contains mark then program.exploreListed text fuel visited others
      else
        match program.step text branch with
        | none => (some branch.records, visited)
        | some next => program.exploreListed text fuel (mark :: visited) (next ++ others)

/-- Search from one start after another, with the marks of visited pairs in a list. -/
def searchFromListed (program : Program) (text : Array Char) :
    Nat → Nat → List Nat → Option (List (Nat × Nat))
  | 0, _, _ => none
  | remaining + 1, start, visited =>
      match program.exploreListed text (program.branchBound text) visited
          [⟨program.entry, start, []⟩] with
      | (some records, _) => some records
      | (none, visited) => program.searchFromListed text remaining (start + 1) visited

/-- The positions recorded by the leftmost match, with the marks of visited pairs in a list. -/
def searchListed (program : Program) (text : Array Char) (start : Nat) :
    Option (List (Nat × Nat)) :=
  if text.size < start then none
  else program.searchFromListed text (text.size - start + 1) start []

variable (program : Program) (text : Array Char)

theorem explore_eq_exploreListed (fuel : Nat) {visited : Std.HashSet Nat} {listed : List Nat}
    (agrees : ∀ mark, visited.contains mark = listed.contains mark) (branches : List Branch) :
    (program.explore text fuel visited branches).1 =
        (program.exploreListed text fuel listed branches).1 ∧
      ∀ mark, (program.explore text fuel visited branches).2.contains mark =
        (program.exploreListed text fuel listed branches).2.contains mark := by
  induction fuel generalizing visited listed branches with
  | zero => exact ⟨rfl, agrees⟩
  | succ fuel inductionHypothesis =>
      cases branches with
      | nil => exact ⟨rfl, agrees⟩
      | cons branch others =>
          simp only [explore, exploreListed, agrees]
          split
          · exact inductionHypothesis agrees others
          · cases program.step text branch with
            | none => exact ⟨rfl, agrees⟩
            | some next =>
                refine inductionHypothesis (fun mark => ?_) (next ++ others)
                rw [Std.HashSet.contains_insert, List.contains_cons, agrees, Bool.beq_comm]

theorem searchFrom_eq_searchFromListed (remaining start : Nat) {visited : Std.HashSet Nat}
    {listed : List Nat} (agrees : ∀ mark, visited.contains mark = listed.contains mark) :
    program.searchFrom text remaining start visited =
      program.searchFromListed text remaining start listed := by
  induction remaining generalizing start visited listed with
  | zero => rfl
  | succ remaining inductionHypothesis =>
      obtain ⟨sameRecords, stillAgrees⟩ := program.explore_eq_exploreListed text
        (program.branchBound text) agrees [⟨program.entry, start, []⟩]
      rw [searchFrom, searchFromListed]
      cases outcome : program.explore text (program.branchBound text) visited
          [⟨program.entry, start, []⟩] with
      | mk records after =>
          cases outcomeListed : program.exploreListed text (program.branchBound text) listed
              [⟨program.entry, start, []⟩] with
          | mk recordsListed afterListed =>
              rw [outcome, outcomeListed] at sameRecords stillAgrees
              dsimp only at sameRecords stillAgrees
              subst sameRecords
              cases records with
              | none => exact inductionHypothesis (start + 1) stillAgrees
              | some records => rfl

theorem search_eq_searchListed (start : Nat) :
    program.search text start = program.searchListed text start := by
  rw [search, searchListed]
  split
  · rfl
  · exact program.searchFrom_eq_searchFromListed text _ start fun mark => by simp

end Program

/-- The leftmost match that starts at `start` or later, by the search with a list. -/
def findListed (regex : Regex) (text : Array Char) (start : Nat) : Option Match :=
  (regex.program.searchListed text start).bind regex.matchOf

theorem find_eq_findListed (regex : Regex) (text : Array Char) (start : Nat) :
    regex.find text start = regex.findListed text start := by
  rw [find, findListed, Program.search_eq_searchListed]

/-- A match after another one, by the search with a list. -/
theorem findAfter_eq (regex : Regex) (text : Array Char) (last : Option Nat) (start : Nat) :
    regex.findAfter text last start =
      (regex.findListed text start).bind fun found =>
        if found.whole.start = found.whole.stop ∧ last = some found.whole.stop then
          regex.findListed text (start + 1)
        else some found := by
  rw [findAfter, find_eq_findListed, find_eq_findListed]
  cases regex.findListed text start with
  | none => rfl
  | some found => rfl

end ReleaseRules.Regex
