import ReleaseRules.Proofs.Regex.Machine

/-!
Contract: which of several matches the search gives.

Owns:
- branches that fail, and the run that is preferred: at every instruction it goes on at the first
  branch that does not fail;
- the search gives the records of the preferred run from the first start that has one.

Does not own: the programs of expressions.

Records do not decide where a branch leads, so all runs from one instruction and position that are
preferred are equally long. A branch of the preferred run has a shorter way to go than all branches
of the run before it: the search, which passes over what it has visited, never passes over such a
branch.
-/

namespace ReleaseRules.Regex

open Relation (ReflTransGen)

/-- What decides where a branch leads: its instruction and its position. -/
def Branch.place (branch : Branch) : Nat × Nat := (branch.instruction, branch.position)

namespace Program

variable {program : Program} {text : Array Char}

/-! ## Places -/

theorem map_place_step (program : Program) (text : Array Char) {branch other : Branch}
    (same : other.place = branch.place) :
    (program.step text other).map (List.map Branch.place) =
      (program.step text branch).map (List.map Branch.place) := by
  obtain ⟨instruction, position, records⟩ := branch
  obtain ⟨otherInstruction, otherPosition, otherRecords⟩ := other
  obtain ⟨rfl, rfl⟩ := Prod.mk.inj same
  unfold step
  dsimp only
  cases program.instructions[otherInstruction]? with
  | none => rfl
  | some here =>
      cases here with
      | accept => rfl
      | fork preferred alternative => rfl
      | record slot next => rfl
      | check kind next =>
          dsimp only
          split <;> rfl
      | consume members next =>
          dsimp only
          cases text[otherPosition]? with
          | none => rfl
          | some character =>
              dsimp only
              split <;> rfl

/-- Branches at one place lead to branches at the same places. -/
theorem exists_run_of_place_eq {branch other last : Branch} (same : other.place = branch.place)
    (run : ReflTransGen (program.Moves text) branch last) :
    ∃ last', ReflTransGen (program.Moves text) other last' ∧ last'.place = last.place := by
  induction run with
  | refl => exact ⟨other, .refl, same⟩
  | tail _ moves inductionHypothesis =>
      obtain ⟨before, run, sameBefore⟩ := inductionHypothesis
      obtain ⟨sameInstruction, samePosition⟩ := Prod.mk.inj sameBefore
      obtain ⟨next, moves', instruction, position⟩ := moves.congr sameInstruction samePosition
      exact ⟨next, run.tail moves', Prod.ext instruction position⟩

/-! ## Branches that fail -/

/-- No moves lead from a branch to acceptance. -/
def Fails (program : Program) (text : Array Char) (branch : Branch) : Prop :=
  ∀ last, ReflTransGen (program.Moves text) branch last → (program.step text last).isSome = true

namespace Fails

variable {branch other next : Branch}

theorem move (fails : program.Fails text branch) (moves : program.Moves text branch next) :
    program.Fails text next := by
  intro last run
  exact fails last (.head moves run)

/-- A branch fails if all branches that it leads to fail. -/
theorem of_step {nexts : List Branch} (taken : program.step text branch = some nexts)
    (all : ∀ next ∈ nexts, program.Fails text next) : program.Fails text branch := by
  intro last run
  rcases ReflTransGen.cases_head run with rfl | ⟨next, moves, later⟩
  · rw [taken]
    rfl
  · obtain ⟨nexts', taken', member⟩ := exists_mem_step_of_moves moves
    obtain rfl := Option.some.inj (taken.symm.trans taken')
    exact all next member last later

/-- A branch that can read nothing of what is there. -/
theorem of_unread {members : Unicode.IntervalSet} {after : Nat}
    (here : program.instructions[branch.instruction]? = some (.consume members after))
    (unread : text[branch.position]?.any members.hasChar = false) : program.Fails text branch := by
  have taken : program.step text branch = some [] := by
    unfold step
    rw [here]
    dsimp only
    cases shown : text[branch.position]? with
    | none => rfl
    | some character =>
        rw [shown, Option.any_some] at unread
        dsimp only
        rw [if_neg (by simp [unread])]
  apply of_step taken
  intro next member
  cases member

theorem of_consume {members : Unicode.IntervalSet} {after : Nat}
    (here : program.instructions[branch.instruction]? = some (.consume members after))
    (fails : program.Fails text
      { branch with instruction := after, position := branch.position + 1 }) :
    program.Fails text branch := by
  cases read : text[branch.position]?.any members.hasChar with
  | false => exact of_unread here read
  | true =>
      obtain ⟨character, shown, member⟩ := (Option.any_eq_true _ _).mp read
      have taken : program.step text branch =
          some [{ branch with instruction := after, position := branch.position + 1 }] := by
        simp [step, here, shown, member]
      apply of_step taken
      intro next isNext
      obtain rfl := List.mem_singleton.mp isNext
      exact fails

theorem of_record {slot after : Nat}
    (here : program.instructions[branch.instruction]? = some (.record slot after))
    (fails : program.Fails text { branch with
      instruction := after, records := (slot, branch.position) :: branch.records }) :
    program.Fails text branch := by
  have taken : program.step text branch = some [{ branch with
      instruction := after, records := (slot, branch.position) :: branch.records }] := by
    simp [step, here]
  apply of_step taken
  intro next isNext
  obtain rfl := List.mem_singleton.mp isNext
  exact fails

theorem congr (fails : program.Fails text branch) (same : other.place = branch.place) :
    program.Fails text other := by
  intro last run
  obtain ⟨last', run', sameLast⟩ := exists_run_of_place_eq same.symm run
  obtain ⟨sameInstruction, samePosition⟩ := Prod.mk.inj sameLast
  rw [← step_isSome_congr sameInstruction samePosition]
  exact fails last' run'

end Fails

/-- What has been visited fails once it is closed and nothing is pending. -/
theorem IsClosed.fails {visited : Std.HashSet Nat} {branch : Branch}
    (closed : program.IsClosed text visited [])
    (seen : visited.contains (branch.mark (text.size + 1)) = true)
    (inside : branch.position ≤ text.size) : program.Fails text branch := by
  intro last run
  exact closed.step_isSome seen inside run

/-! ## Preferred runs -/

/-- The run that a search prefers from a branch, with its length: it goes on at the first of the
next branches that does not fail, until one accepts. -/
inductive PrefersIn (program : Program) (text : Array Char) : Nat → Branch → Branch → Prop
  | accept {branch : Branch} (accepts : program.step text branch = none) :
      PrefersIn program text 0 branch branch
  | goOn {length : Nat} {branch next last : Branch} {before after : List Branch}
      (taken : program.step text branch = some (before ++ next :: after))
      (fail : ∀ earlier ∈ before, program.Fails text earlier)
      (later : PrefersIn program text length next last) :
      PrefersIn program text (length + 1) branch last

namespace PrefersIn

variable {length : Nat} {branch other last : Branch}

theorem run (prefers : program.PrefersIn text length branch last) :
    ReflTransGen (program.Moves text) branch last ∧ program.step text last = none := by
  induction prefers with
  | accept accepts => exact ⟨.refl, accepts⟩
  | goOn taken _ _ inductionHypothesis =>
      obtain ⟨later, accepts⟩ := inductionHypothesis
      exact ⟨.head (moves_of_mem_step taken (by simp)) later, accepts⟩

theorem not_fails (prefers : program.PrefersIn text length branch last) :
    ¬ program.Fails text branch := by
  intro fails
  obtain ⟨run, accepts⟩ := prefers.run
  have steps := fails last run
  rw [accepts] at steps
  cases steps

/-- Branches at one place have preferred runs of one length. -/
theorem congr (prefers : program.PrefersIn text length branch last)
    (same : other.place = branch.place) :
    ∃ last', program.PrefersIn text length other last' := by
  induction prefers generalizing other with
  | @accept branch accepts =>
      have steps := map_place_step program text same
      rw [accepts, Option.map_none, Option.map_eq_none_iff] at steps
      exact ⟨other, .accept steps⟩
  | @goOn length branch next last before after taken fail _ inductionHypothesis =>
      have steps := map_place_step program text same
      rw [taken, Option.map_some, Option.map_eq_some_iff] at steps
      obtain ⟨nexts, taken', places⟩ := steps
      rw [List.map_append, List.map_cons] at places
      obtain ⟨before', others, rfl, samesBefore, sameOthers⟩ := List.map_eq_append_iff.mp places
      obtain ⟨next', after', rfl, sameNext, -⟩ := List.map_eq_cons_iff.mp sameOthers
      obtain ⟨last', later⟩ := inductionHypothesis sameNext
      refine ⟨last', .goOn taken' ?_ later⟩
      intro earlier member
      have atPlace : earlier.place ∈ before.map Branch.place :=
        samesBefore ▸ List.mem_map_of_mem member
      obtain ⟨earlier', member', sameEarlier⟩ := List.mem_map.mp atPlace
      exact (fail earlier' member').congr sameEarlier.symm

theorem length_eq {length' : Nat} {last' : Branch}
    (prefers : program.PrefersIn text length branch last)
    (prefers' : program.PrefersIn text length' branch last') : length = length' := by
  induction prefers generalizing length' last' with
  | accept accepts =>
      cases prefers' with
      | accept => rfl
      | goOn taken' =>
          rw [accepts] at taken'
          cases taken'
  | @goOn length branch next last before after taken fail later inductionHypothesis =>
      cases prefers' with
      | accept accepts =>
          rw [accepts] at taken
          cases taken
      | @goOn length' _ next' _ before' after' taken' fail' later' =>
          have split : before ++ next :: after = before' ++ next' :: after' :=
            Option.some.inj (taken.symm.trans taken')
          -- What stands before the next branch of one run fails, so it is not that of the other.
          have sameNext : next = next' := by
            rcases List.append_eq_append_iff.mp split with
              ⟨between, shape, tail⟩ | ⟨between, shape, tail⟩
            · cases between with
              | nil => exact (List.cons.inj tail).1
              | cons first rest =>
                  obtain ⟨rfl, -⟩ := List.cons.inj tail
                  exact absurd (fail' next (by simp [shape])) later.not_fails
            · cases between with
              | nil => exact (List.cons.inj tail).1.symm
              | cons first rest =>
                  obtain ⟨rfl, -⟩ := List.cons.inj tail
                  exact absurd (fail next' (by simp [shape])) later'.not_fails
          subst sameNext
          exact congrArg (· + 1) (inductionHypothesis later')

end PrefersIn

/-- A search prefers to end there when it goes on from a branch. -/
def Prefers (program : Program) (text : Array Char) (branch last : Branch) : Prop :=
  ∃ length, program.PrefersIn text length branch last

namespace Prefers

variable {branch next last : Branch}

theorem accept (accepts : program.step text branch = none) : program.Prefers text branch branch :=
  ⟨0, .accept accepts⟩

/-- The first of the next branches is preferred unless it fails. -/
theorem goOn {others : List Branch} (taken : program.step text branch = some (next :: others))
    (later : program.Prefers text next last) : program.Prefers text branch last := by
  obtain ⟨length, later⟩ := later
  have split : program.step text branch = some ([] ++ next :: others) := taken
  refine ⟨length + 1, .goOn split ?_ later⟩
  intro earlier member
  cases member

theorem consume {members : Unicode.IntervalSet} {after : Nat} {character : Char}
    (here : program.instructions[branch.instruction]? = some (.consume members after))
    (shown : text[branch.position]? = some character) (member : members.hasChar character = true)
    (later : program.Prefers text
      { branch with instruction := after, position := branch.position + 1 } last) :
    program.Prefers text branch last := by
  apply goOn ?_ later
  · exact []
  · simp [step, here, shown, member]

theorem record {slot after : Nat}
    (here : program.instructions[branch.instruction]? = some (.record slot after))
    (later : program.Prefers text { branch with
      instruction := after, records := (slot, branch.position) :: branch.records } last) :
    program.Prefers text branch last := by
  apply goOn ?_ later
  · exact []
  · simp [step, here]

theorem prefer {preferred other : Nat}
    (here : program.instructions[branch.instruction]? = some (.fork preferred other))
    (later : program.Prefers text { branch with instruction := preferred } last) :
    program.Prefers text branch last := by
  apply goOn ?_ later
  · exact [{ branch with instruction := other }]
  · simp [step, here]

/-- The second branch of a fork is preferred if the first one fails. -/
theorem giveUp {preferred other : Nat}
    (here : program.instructions[branch.instruction]? = some (.fork preferred other))
    (fails : program.Fails text { branch with instruction := preferred })
    (later : program.Prefers text { branch with instruction := other } last) :
    program.Prefers text branch last := by
  have taken : program.step text branch =
      some ([{ branch with instruction := preferred }] ++
        { branch with instruction := other } :: []) := by
    simp [step, here]
  obtain ⟨length, later⟩ := later
  refine ⟨length + 1, .goOn taken ?_ later⟩
  intro earlier member
  obtain rfl := List.mem_singleton.mp member
  exact fails

end Prefers

/-! ## What the search gives -/

/-- What has been visited fails, or is on the way to a preferred run of some length. -/
def IsBehind (program : Program) (text : Array Char) (visited : Std.HashSet Nat)
    (length : Nat) : Prop :=
  ∀ branch : Branch, branch.position ≤ text.size →
    visited.contains (branch.mark (text.size + 1)) = true →
    program.Fails text branch ∨
      ∃ longer last, length < longer ∧ program.PrefersIn text longer branch last

theorem place_eq_of_mark_eq {branch other : Branch} (inside : branch.position ≤ text.size)
    (otherInside : other.position ≤ text.size)
    (same : branch.mark (text.size + 1) = other.mark (text.size + 1)) :
    branch.place = other.place := by
  obtain ⟨sameInstruction, samePosition⟩ := eq_of_mark_eq inside otherInside same
  exact Prod.ext sameInstruction samePosition

namespace IsBehind

variable {visited : Std.HashSet Nat} {length : Nat} {branch : Branch}

/-- The next branch of a preferred run has not been visited. -/
theorem not_visited {last : Branch} (behind : program.IsBehind text visited length)
    (prefers : program.PrefersIn text length branch last) (inside : branch.position ≤ text.size) :
    visited.contains (branch.mark (text.size + 1)) = false := by
  by_contra visits
  rcases behind branch inside (by simpa using visits) with fails | ⟨longer, last', more, prefers'⟩
  · exact prefers.not_fails fails
  · have same := prefers.length_eq prefers'
    omega

theorem insert_failing (behind : program.IsBehind text visited length)
    (fails : program.Fails text branch) (inside : branch.position ≤ text.size) :
    program.IsBehind text (visited.insert (branch.mark (text.size + 1))) length := by
  intro seen seenInside contained
  by_cases same : branch.mark (text.size + 1) = seen.mark (text.size + 1)
  · exact .inl (fails.congr (place_eq_of_mark_eq inside seenInside same).symm)
  · apply behind seen seenInside
    simpa [Std.HashSet.contains_insert, same] using contained

theorem insert_preferred {last : Branch} (behind : program.IsBehind text visited (length + 1))
    (prefers : program.PrefersIn text (length + 1) branch last)
    (inside : branch.position ≤ text.size) :
    program.IsBehind text (visited.insert (branch.mark (text.size + 1))) length := by
  intro seen seenInside contained
  by_cases same : branch.mark (text.size + 1) = seen.mark (text.size + 1)
  · obtain ⟨last', prefers'⟩ :=
      prefers.congr (place_eq_of_mark_eq inside seenInside same).symm
    exact .inr ⟨length + 1, last', Nat.lt_succ_self length, prefers'⟩
  · have before : visited.contains (seen.mark (text.size + 1)) = true := by
      simpa [Std.HashSet.contains_insert, same] using contained
    rcases behind seen seenInside before with fails | ⟨longer, last', more, prefers'⟩
    · exact .inl fails
    · exact .inr ⟨longer, last', by omega, prefers'⟩

end IsBehind

/-- What is found among branches that begin with failing ones and a preferred one is what the
preferred run has recorded. -/
theorem records_of_explore {fuel length : Nat} {visited after : Std.HashSet Nat}
    {failing others : List Branch} {branch last : Branch} {records : List (Nat × Nat)}
    (found : program.explore text fuel visited (failing ++ branch :: others) =
      (some records, after))
    (fail : ∀ earlier ∈ failing, program.Fails text earlier)
    (prefers : program.PrefersIn text length branch last)
    (inside : ∀ earlier ∈ failing ++ [branch], earlier.position ≤ text.size)
    (behind : program.IsBehind text visited length) : records = last.records := by
  induction fuel generalizing length visited failing others branch with
  | zero => cases found
  | succ fuel inductionHypothesis =>
      cases failing with
      | nil =>
          have here : branch.position ≤ text.size := inside branch (by simp)
          rw [List.nil_append, explore, if_neg (by simp [behind.not_visited prefers here])] at found
          cases prefers with
          | accept accepts =>
              rw [accepts] at found
              simpa using (congrArg Prod.fst found).symm
          | @goOn length _ next _ before after' taken fail' later =>
              rw [taken] at found
              change program.explore text fuel _ ((before ++ next :: after') ++ others) = _ at found
              rw [List.append_assoc, List.cons_append] at found
              apply inductionHypothesis found fail' later
              · intro reached member
                have isNext : reached ∈ before ++ next :: after' := by
                  rw [List.append_cons]
                  exact List.mem_append_left after' member
                exact (moves_of_mem_step taken isNext).position_le here
              · exact behind.insert_preferred (.goOn taken fail' later) here
      | cons first rest =>
          have here : first.position ≤ text.size := inside first (by simp)
          have fails := fail first List.mem_cons_self
          have failRest : ∀ earlier ∈ rest, program.Fails text earlier := by
            intro earlier member
            exact fail earlier (List.mem_cons_of_mem first member)
          have insideRest : ∀ earlier ∈ rest ++ [branch], earlier.position ≤ text.size := by
            intro earlier member
            exact inside earlier (List.mem_cons_of_mem first member)
          rw [List.cons_append, explore] at found
          split at found
          · exact inductionHypothesis found failRest prefers insideRest behind
          · split at found
            · rename_i accepts
              have steps := fails first .refl
              rw [accepts] at steps
              cases steps
            · rename_i nexts taken
              rw [← List.append_assoc] at found
              apply inductionHypothesis found ?_ prefers ?_ (behind.insert_failing fails here)
              · intro earlier member
                rcases List.mem_append.mp member with next | later
                · exact fails.move (moves_of_mem_step taken next)
                · exact failRest earlier later
              · rw [List.append_assoc]
                exact position_le_of_step inside taken

/-- **Preference.** A search gives what the preferred run from the first start that does not fail
has recorded. -/
theorem search_of_prefers {start first : Nat} {last : Branch} (startsAt : start ≤ first)
    (inside : first ≤ text.size)
    (fail : ∀ earlier, start ≤ earlier → earlier < first →
      program.Fails text ⟨program.entry, earlier, []⟩)
    (prefers : program.Prefers text ⟨program.entry, first, []⟩ last) :
    program.search text start = some last.records := by
  obtain ⟨length, prefers⟩ := prefers
  have sweep : ∀ remaining start visited, start ≤ first → first < start + remaining →
      (∀ earlier, start ≤ earlier → earlier < first →
        program.Fails text ⟨program.entry, earlier, []⟩) →
      program.IsClosed text visited [] →
      program.searchFrom text remaining start visited = some last.records := by
    intro remaining
    induction remaining with
    | zero =>
        intro start visited before reach
        omega
    | succ remaining inductionHypothesis =>
        intro start visited before reach fail closed
        rw [searchFrom]
        split
        · rename_i records after explored
          rcases Nat.lt_or_eq_of_le before with earlier | rfl
          · obtain ⟨branch, member, last', run', accepts', -⟩ := moves_of_explore explored
            obtain rfl := List.mem_singleton.mp member
            have steps := fail start (Nat.le_refl start) earlier last' run'
            rw [accepts'] at steps
            cases steps
          · have behind : program.IsBehind text visited length := by
              intro branch within seen
              exact .inl (closed.fails seen within)
            change program.explore text _ _ ([] ++ ⟨program.entry, start, []⟩ :: []) = _ at explored
            rw [records_of_explore explored ?none prefers ?here behind]
            case none =>
              intro earlier member
              cases member
            case here =>
              intro earlier member
              obtain rfl := List.mem_singleton.mp member
              exact inside
        · rename_i after explored
          obtain ⟨closedAfter, seen⟩ :=
            isClosed_of_explore_start explored (before.trans inside) closed
          apply inductionHypothesis (start + 1) after ?_ (by omega) ?_ closedAfter
          · apply Nat.lt_of_le_of_ne before
            rintro rfl
            exact prefers.not_fails (closedAfter.fails seen inside)
          · intro earlier later
            exact fail earlier (by omega)
  unfold search
  rw [if_neg (by omega)]
  exact sweep _ _ _ startsAt (by omega) fail isClosed_empty

theorem search_eq_none {start : Nat}
    (fail : ∀ first, start ≤ first → first ≤ text.size →
      program.Fails text ⟨program.entry, first, []⟩) : program.search text start = none := by
  cases found : program.search text start with
  | none => rfl
  | some records =>
      obtain ⟨first, last, startsAt, inside, run, accepts, -⟩ := moves_of_search found
      have steps := fail first startsAt inside last run
      rw [accepts] at steps
      cases steps

end Program

end ReleaseRules.Regex
