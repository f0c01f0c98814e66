import Mathlib.Data.Finset.Card
import Mathlib.Data.Finset.Range
import Mathlib.Logic.Relation
import ReleaseRules.Regex.Search

/-!
Contract: the matching machine and its search.

Owns:
- the moves of the machine from one branch to another, and where they lead;
- what the search gives is the record of moves that lead to acceptance;
- a search without a result has no such moves.

Does not own: the programs of expressions, and which of several matches is preferred.

The search keeps the pairs of instruction and position that it has explored. What it has explored
is closed under moves up to the branches that are still pending, so a search that runs out of
branches has seen everything that can be reached.
-/

namespace ReleaseRules.Regex

/-- Move of the machine: one instruction, from a branch to one of those that it leads to. -/
inductive Program.Moves (program : Program) (text : Array Char) : Branch → Branch → Prop where
  | consume {branch : Branch} {members : Unicode.IntervalSet} {next : Nat} {character : Char}
      (here : program.instructions[branch.instruction]? = some (.consume members next))
      (shown : text[branch.position]? = some character)
      (member : members.hasChar character = true) :
      Moves program text branch
        { branch with instruction := next, position := branch.position + 1 }
  | prefer {branch : Branch} {preferred other : Nat}
      (here : program.instructions[branch.instruction]? = some (.fork preferred other)) :
      Moves program text branch { branch with instruction := preferred }
  | giveUp {branch : Branch} {preferred other : Nat}
      (here : program.instructions[branch.instruction]? = some (.fork preferred other)) :
      Moves program text branch { branch with instruction := other }
  | check {branch : Branch} {kind : Assertion} {next : Nat}
      (here : program.instructions[branch.instruction]? = some (.check kind next))
      (holds : kind.holds text branch.position = true) :
      Moves program text branch { branch with instruction := next }
  | record {branch : Branch} {slot next : Nat}
      (here : program.instructions[branch.instruction]? = some (.record slot next)) :
      Moves program text branch
        { branch with instruction := next, records := (slot, branch.position) :: branch.records }

namespace Program

variable {program : Program} {text : Array Char}

theorem moves_of_mem_step {branch next : Branch} {nexts : List Branch}
    (taken : program.step text branch = some nexts) (member : next ∈ nexts) :
    program.Moves text branch next := by
  unfold step at taken
  split at taken
  · obtain rfl := Option.some.inj taken
    cases member
  · cases taken
  · rename_i here
    split at taken
    · rename_i shown
      split at taken
      · rename_i inMembers
        obtain rfl := Option.some.inj taken
        exact List.mem_singleton.mp member ▸ .consume here shown inMembers
      · obtain rfl := Option.some.inj taken
        cases member
    · obtain rfl := Option.some.inj taken
      cases member
  · rename_i here
    obtain rfl := Option.some.inj taken
    rcases List.mem_cons.mp member with rfl | other
    · exact .prefer here
    · exact List.mem_singleton.mp other ▸ .giveUp here
  · rename_i here
    split at taken
    · rename_i holds
      obtain rfl := Option.some.inj taken
      exact List.mem_singleton.mp member ▸ .check here holds
    · obtain rfl := Option.some.inj taken
      cases member
  · rename_i here
    obtain rfl := Option.some.inj taken
    exact List.mem_singleton.mp member ▸ .record here

theorem exists_mem_step_of_moves {branch next : Branch} (moves : program.Moves text branch next) :
    ∃ nexts, program.step text branch = some nexts ∧ next ∈ nexts := by
  cases moves with
  | @consume _ next _ here shown member =>
      refine ⟨[{ branch with instruction := next, position := branch.position + 1 }], ?_, ?_⟩
      · simp [step, here, shown, member]
      · exact List.mem_singleton_self _
  | @prefer preferred other here =>
      refine ⟨[{ branch with instruction := preferred }, { branch with instruction := other }],
        ?_, List.mem_cons_self⟩
      simp [step, here]
  | @giveUp preferred other here =>
      refine ⟨[{ branch with instruction := preferred }, { branch with instruction := other }],
        ?_, List.mem_cons_of_mem _ (List.mem_singleton_self _)⟩
      simp [step, here]
  | @check _ next here holds =>
      refine ⟨[{ branch with instruction := next }], ?_, List.mem_singleton_self _⟩
      simp [step, here, holds]
  | @record slot next here =>
      refine ⟨[{ branch with
        instruction := next, records := (slot, branch.position) :: branch.records }],
        ?_, List.mem_singleton_self _⟩
      simp [step, here]

theorem length_step_le {branch : Branch} {nexts : List Branch}
    (taken : program.step text branch = some nexts) : nexts.length ≤ 2 := by
  unfold step at taken
  grind

/-- Only instruction and position decide where the machine moves. -/
theorem Moves.congr {branch other next : Branch} (moves : program.Moves text branch next)
    (sameInstruction : other.instruction = branch.instruction)
    (samePosition : other.position = branch.position) :
    ∃ next', program.Moves text other next' ∧ next'.instruction = next.instruction ∧
      next'.position = next.position := by
  cases moves with
  | consume here shown member =>
      exact ⟨_, .consume (sameInstruction ▸ here) (samePosition ▸ shown) member, rfl,
        congrArg (· + 1) samePosition⟩
  | prefer here => exact ⟨_, .prefer (sameInstruction ▸ here), rfl, samePosition⟩
  | giveUp here => exact ⟨_, .giveUp (sameInstruction ▸ here), rfl, samePosition⟩
  | check here holds =>
      exact ⟨_, .check (sameInstruction ▸ here) (samePosition ▸ holds), rfl, samePosition⟩
  | record here => exact ⟨_, .record (sameInstruction ▸ here), rfl, samePosition⟩

/-- Whether the machine moves or accepts depends on instruction and position alone. -/
theorem step_isSome_congr {branch other : Branch}
    (sameInstruction : other.instruction = branch.instruction)
    (samePosition : other.position = branch.position) :
    (program.step text other).isSome = (program.step text branch).isSome := by
  unfold step
  rw [sameInstruction, samePosition]
  cases program.instructions[branch.instruction]? with
  | none => rfl
  | some instruction =>
      cases instruction with
      | accept => rfl
      | fork preferred alternative => rfl
      | record slot next => rfl
      | check kind next =>
          dsimp only
          split <;> rfl
      | consume members next =>
          dsimp only
          cases text[branch.position]? with
          | none => rfl
          | some character =>
              dsimp only
              split <;> rfl

theorem Moves.position_le {branch next : Branch} (moves : program.Moves text branch next)
    (inside : branch.position ≤ text.size) : next.position ≤ text.size := by
  cases moves with
  | consume here shown member =>
      exact (Array.getElem?_eq_some_iff.mp shown).1
  | prefer here => exact inside
  | giveUp here => exact inside
  | check here holds => exact inside
  | record here => exact inside

/-! ## What the search gives -/

/-- The records of a search are those of moves from one of its branches to acceptance. -/
theorem moves_of_explore {fuel : Nat} {visited after : Std.HashSet Nat} {branches : List Branch}
    {records : List (Nat × Nat)}
    (found : program.explore text fuel visited branches = (some records, after)) :
    ∃ first ∈ branches, ∃ last, Relation.ReflTransGen (program.Moves text) first last ∧
      program.step text last = none ∧ last.records = records := by
  induction fuel generalizing visited branches with
  | zero => cases found
  | succ fuel inductionHypothesis =>
      cases branches with
      | nil => cases found
      | cons branch others =>
          rw [explore] at found
          split at found
          · obtain ⟨first, member, rest⟩ := inductionHypothesis found
            exact ⟨first, List.mem_cons_of_mem _ member, rest⟩
          · split at found
            · rename_i accepted
              have same : branch.records = records := by simpa using congrArg Prod.fst found
              exact ⟨branch, List.mem_cons_self, branch, .refl, accepted, same⟩
            · rename_i nexts taken
              obtain ⟨first, member, last, moves, rest⟩ := inductionHypothesis found
              rcases List.mem_append.mp member with here | there
              · exact ⟨branch, List.mem_cons_self, last,
                  .head (moves_of_mem_step taken here) moves, rest⟩
              · exact ⟨first, List.mem_cons_of_mem _ there, last, moves, rest⟩

theorem moves_of_search {start : Nat} {records : List (Nat × Nat)}
    (found : program.search text start = some records) :
    ∃ first last, start ≤ first ∧ first ≤ text.size ∧
      Relation.ReflTransGen (program.Moves text) ⟨program.entry, first, []⟩ last ∧
      program.step text last = none ∧ last.records = records := by
  -- One start after another: the result comes from the first one that has any.
  have sweep : ∀ remaining start visited, start + remaining ≤ text.size + 1 →
      program.searchFrom text remaining start visited = some records →
      ∃ first last, start ≤ first ∧ first ≤ text.size ∧
        Relation.ReflTransGen (program.Moves text) ⟨program.entry, first, []⟩ last ∧
        program.step text last = none ∧ last.records = records := by
    intro remaining
    induction remaining with
    | zero => exact fun _ _ _ result => nomatch result
    | succ remaining inductionHypothesis =>
        intro start visited bound result
        rw [searchFrom] at result
        split at result
        · rename_i given after explored
          obtain rfl := Option.some.inj result
          obtain ⟨first, member, last, moves, rest⟩ := moves_of_explore explored
          obtain rfl := List.mem_singleton.mp member
          exact ⟨start, last, Nat.le_refl _, by omega, moves, rest⟩
        · obtain ⟨first, last, later, rest⟩ := inductionHypothesis _ _ (by omega) result
          exact ⟨first, last, by omega, rest⟩
  unfold search at found
  split at found
  · cases found
  · exact sweep _ _ _ (by omega) found

/-! ## What a search without a result has seen -/

/-- Within a text, a mark tells instruction and position. -/
theorem eq_of_mark_eq {branch other : Branch} (inside : branch.position ≤ text.size)
    (otherInside : other.position ≤ text.size)
    (same : branch.mark (text.size + 1) = other.mark (text.size + 1)) :
    branch.instruction = other.instruction ∧ branch.position = other.position := by
  unfold Branch.mark at same
  have position := congrArg (· % (text.size + 1)) same
  have instruction := congrArg (· / (text.size + 1)) same
  simp only [Nat.mul_add_mod_of_lt (Nat.lt_succ_of_le inside),
    Nat.mul_add_mod_of_lt (Nat.lt_succ_of_le otherInside)] at position
  have small : branch.position / (text.size + 1) = 0 :=
    Nat.div_eq_of_lt (Nat.lt_succ_of_le inside)
  have otherSmall : other.position / (text.size + 1) = 0 :=
    Nat.div_eq_of_lt (Nat.lt_succ_of_le otherInside)
  simp only [Nat.mul_comm _ (text.size + 1), Nat.mul_add_div (Nat.succ_pos _), small,
    otherSmall, Nat.add_zero] at instruction
  exact ⟨instruction, position⟩

/-- What a search has explored is closed under moves: every move from it leads to what is
explored, or to what is pending still. None of it accepts. -/
def IsClosed (program : Program) (text : Array Char) (visited : Std.HashSet Nat)
    (pending : List Branch) : Prop :=
  ∀ branch : Branch, branch.position ≤ text.size →
    visited.contains (branch.mark (text.size + 1)) = true →
    (program.step text branch).isSome = true ∧
      ∀ next, program.Moves text branch next →
        visited.contains (next.mark (text.size + 1)) = true ∨
          ∃ other ∈ pending, other.mark (text.size + 1) = next.mark (text.size + 1)

/-- Instructions at positions of the text that are not explored. -/
def unvisited (program : Program) (text : Array Char) (visited : Std.HashSet Nat) : Finset Nat :=
  (Finset.range (program.instructions.size * (text.size + 1))).filter
    fun mark => visited.contains mark = false

theorem card_unvisited_le (program : Program) (text : Array Char) (visited : Std.HashSet Nat) :
    (program.unvisited text visited).card ≤ program.instructions.size * (text.size + 1) :=
  (Finset.card_filter_le _ _).trans_eq (Finset.card_range _)

theorem unvisited_insert_subset (program : Program) (text : Array Char)
    (visited : Std.HashSet Nat) (mark : Nat) :
    program.unvisited text (visited.insert mark) ⊆ program.unvisited text visited := by
  intro other member
  simp only [unvisited, Finset.mem_filter, Std.HashSet.contains_insert, Bool.or_eq_false_iff]
    at member ⊢
  exact ⟨member.1, member.2.2⟩

/-- Exploring an instruction at a position leaves one less. -/
theorem card_unvisited_insert {visited : Std.HashSet Nat} {branch : Branch}
    (inside : branch.position ≤ text.size)
    (inRange : branch.instruction < program.instructions.size)
    (fresh : visited.contains (branch.mark (text.size + 1)) = false) :
    (program.unvisited text (visited.insert (branch.mark (text.size + 1)))).card <
      (program.unvisited text visited).card := by
  refine Finset.card_lt_card ⟨unvisited_insert_subset _ _ _ _, fun subset => ?_⟩
  have bound : branch.mark (text.size + 1) < program.instructions.size * (text.size + 1) := by
    calc branch.instruction * (text.size + 1) + branch.position
        < branch.instruction * (text.size + 1) + (text.size + 1) := by omega
      _ = (branch.instruction + 1) * (text.size + 1) := (Nat.succ_mul _ _).symm
      _ ≤ program.instructions.size * (text.size + 1) := Nat.mul_le_mul_right _ inRange
  have member := subset (Finset.mem_filter.mpr ⟨Finset.mem_range.mpr bound, fresh⟩)
  simpa using (Finset.mem_filter.mp member).2

theorem step_of_outOfRange {branch : Branch}
    (outOfRange : program.instructions.size ≤ branch.instruction) :
    program.step text branch = some [] := by
  simp [step, Array.getElem?_eq_none outOfRange]

/-- Exploring a branch keeps what is explored closed, once what it leads to is pending. -/
theorem IsClosed.insert {visited : Std.HashSet Nat} {branch : Branch} {others nexts : List Branch}
    (closed : program.IsClosed text visited (branch :: others))
    (inside : branch.position ≤ text.size)
    (taken : program.step text branch = some nexts) :
    program.IsClosed text (visited.insert (branch.mark (text.size + 1))) (nexts ++ others) := by
  intro seen seenInside contained
  by_cases same : branch.mark (text.size + 1) = seen.mark (text.size + 1)
  · obtain ⟨sameInstruction, samePosition⟩ := eq_of_mark_eq inside seenInside same
    refine ⟨?_, fun next moves => .inr ?_⟩
    · rw [step_isSome_congr sameInstruction.symm samePosition.symm, taken]
      rfl
    · obtain ⟨next', moves', instruction, position⟩ := moves.congr sameInstruction samePosition
      obtain ⟨nexts', taken', member⟩ := exists_mem_step_of_moves moves'
      obtain rfl := Option.some.inj (taken.symm.trans taken')
      exact ⟨next', List.mem_append_left _ member,
        by simp only [Branch.mark, instruction, position]⟩
  · have before : visited.contains (seen.mark (text.size + 1)) = true := by
      simpa [Std.HashSet.contains_insert, same] using contained
    obtain ⟨steps, leads⟩ := closed seen seenInside before
    refine ⟨steps, fun next moves => ?_⟩
    rcases leads next moves with explored | ⟨other, member, sameMark⟩
    · exact .inl (by simp [Std.HashSet.contains_insert, explored])
    · rcases List.mem_cons.mp member with rfl | waiting
      · exact .inl (by simp [Std.HashSet.contains_insert, sameMark])
      · exact .inr ⟨other, List.mem_append_right _ waiting, sameMark⟩

/-- A branch that has been explored need not be pending. -/
theorem IsClosed.skip {visited : Std.HashSet Nat} {branch : Branch} {others : List Branch}
    (closed : program.IsClosed text visited (branch :: others))
    (seen : visited.contains (branch.mark (text.size + 1)) = true) :
    program.IsClosed text visited others := by
  intro other otherInside contained
  obtain ⟨steps, leads⟩ := closed other otherInside contained
  refine ⟨steps, fun next moves => ?_⟩
  rcases leads next moves with explored | ⟨waiting, member, sameMark⟩
  · exact .inl explored
  · rcases List.mem_cons.mp member with rfl | waits
    · exact .inl (sameMark ▸ seen)
    · exact .inr ⟨waiting, waits, sameMark⟩

/-- What a step leads to is paid for by what is unvisited: a branch out of range leads nowhere,
and any other one takes a place that was free. -/
theorem card_unvisited_step {visited : Std.HashSet Nat} {branch : Branch} {nexts : List Branch}
    (inside : branch.position ≤ text.size)
    (fresh : visited.contains (branch.mark (text.size + 1)) = false)
    (taken : program.step text branch = some nexts) :
    2 * (program.unvisited text (visited.insert (branch.mark (text.size + 1)))).card +
      nexts.length ≤ 2 * (program.unvisited text visited).card := by
  by_cases inRange : branch.instruction < program.instructions.size
  · have less := card_unvisited_insert inside inRange fresh
    have few := length_step_le taken
    omega
  · have nowhere : program.step text branch = some [] :=
      step_of_outOfRange (Nat.le_of_not_lt inRange)
    obtain rfl := Option.some.inj (taken.symm.trans nowhere)
    have notMore := Finset.card_le_card
      (unvisited_insert_subset program text visited (branch.mark (text.size + 1)))
    rw [List.length_nil]
    omega

theorem position_le_of_step {branch : Branch} {nexts others : List Branch}
    (inside : ∀ pending ∈ branch :: others, pending.position ≤ text.size)
    (taken : program.step text branch = some nexts) :
    ∀ pending ∈ nexts ++ others, pending.position ≤ text.size := by
  intro next member
  rcases List.mem_append.mp member with reached | waits
  · exact (moves_of_mem_step taken reached).position_le (inside branch List.mem_cons_self)
  · exact inside next (List.mem_cons_of_mem _ waits)

/-- A search that ends without a result has explored all its branches, and what it has explored
is closed under moves. -/
theorem isClosed_of_explore {fuel : Nat} {visited after : Std.HashSet Nat}
    {branches : List Branch}
    (fails : program.explore text fuel visited branches = (none, after))
    (enough : 2 * (program.unvisited text visited).card + branches.length ≤ fuel)
    (inside : ∀ branch ∈ branches, branch.position ≤ text.size)
    (closed : program.IsClosed text visited branches) :
    program.IsClosed text after [] ∧
      (∀ mark, visited.contains mark = true → after.contains mark = true) ∧
      ∀ branch ∈ branches, after.contains (branch.mark (text.size + 1)) = true := by
  induction fuel generalizing visited branches with
  | zero =>
      obtain rfl : branches = [] := List.eq_nil_of_length_eq_zero (by omega)
      obtain rfl : visited = after := congrArg Prod.snd fails
      exact ⟨closed, fun _ seen => seen, fun _ member => nomatch member⟩
  | succ fuel inductionHypothesis =>
      cases branches with
      | nil =>
          obtain rfl : visited = after := congrArg Prod.snd fails
          exact ⟨closed, fun _ seen => seen, fun _ member => nomatch member⟩
      | cons branch others =>
          have here := inside branch List.mem_cons_self
          rw [explore] at fails
          rw [List.length_cons] at enough
          split at fails
          · rename_i seen
            obtain ⟨closedAfter, kept, explored⟩ := inductionHypothesis fails (by omega)
              (fun other member => inside other (List.mem_cons_of_mem _ member)) (closed.skip seen)
            refine ⟨closedAfter, kept, fun other member => ?_⟩
            rcases List.mem_cons.mp member with rfl | waits
            · exact kept _ seen
            · exact explored _ waits
          · rename_i fresh
            split at fails
            · cases congrArg Prod.fst fails
            · rename_i nexts taken
              have paid := card_unvisited_step here (by simpa using fresh) taken
              have enoughLeft : 2 * (program.unvisited text
                    (visited.insert (branch.mark (text.size + 1)))).card +
                  (nexts ++ others).length ≤ fuel := by
                rw [List.length_append]
                omega
              obtain ⟨closedAfter, kept, explored⟩ := inductionHypothesis fails enoughLeft
                (position_le_of_step inside taken) (closed.insert here taken)
              refine ⟨closedAfter, fun mark seen => kept mark ?_, fun other member => ?_⟩
              · simp [Std.HashSet.contains_insert, seen]
              · rcases List.mem_cons.mp member with rfl | waits
                · exact kept _ (by simp [Std.HashSet.contains_insert])
                · exact explored _ (List.mem_append_right _ waits)

/-- Nothing that is reached from what a search has explored accepts. -/
theorem IsClosed.step_isSome {visited : Std.HashSet Nat} {first last : Branch}
    (closed : program.IsClosed text visited [])
    (explored : visited.contains (first.mark (text.size + 1)) = true)
    (inside : first.position ≤ text.size)
    (moves : Relation.ReflTransGen (program.Moves text) first last) :
    (program.step text last).isSome = true := by
  have reached : visited.contains (last.mark (text.size + 1)) = true ∧
      last.position ≤ text.size := by
    induction moves with
    | refl => exact ⟨explored, inside⟩
    | tail _ move inductionHypothesis =>
        obtain ⟨seen, within⟩ := inductionHypothesis
        refine ⟨?_, move.position_le within⟩
        exact ((closed _ within seen).2 _ move).resolve_right
          fun ⟨_, member, _⟩ => nomatch member
  exact (closed last reached.2 reached.1).1

/-- A search from one start that ends without a result leaves what is explored closed. -/
theorem isClosed_of_explore_start {start : Nat} {visited after : Std.HashSet Nat}
    (fails : program.explore text (program.branchBound text) visited
      [⟨program.entry, start, []⟩] = (none, after))
    (inside : start ≤ text.size) (closed : program.IsClosed text visited []) :
    program.IsClosed text after [] ∧
      after.contains (Branch.mark ⟨program.entry, start, []⟩ (text.size + 1)) = true := by
  have card := card_unvisited_le program text visited
  have pending : program.IsClosed text visited [⟨program.entry, start, []⟩] := by
    intro branch within contained
    obtain ⟨steps, leads⟩ := closed branch within contained
    refine ⟨steps, fun next move => .inl ?_⟩
    exact (leads next move).resolve_right fun ⟨_, member, _⟩ => nomatch member
  obtain ⟨closedAfter, -, seen⟩ := isClosed_of_explore fails
    (by rw [branchBound, List.length_singleton]; omega)
    (fun branch member => by
      obtain rfl := List.mem_singleton.mp member
      exact inside) pending
  exact ⟨closedAfter, seen _ (List.mem_singleton_self _)⟩

/-- Nothing is explored yet. -/
theorem isClosed_empty : program.IsClosed text ∅ [] := by
  intro branch _ contained
  simp at contained

/-- A search finds a match wherever there are moves that accept. -/
theorem search_isSome_of_moves {start first : Nat} {last : Branch} (startsAt : start ≤ first)
    (inside : first ≤ text.size)
    (moves : Relation.ReflTransGen (program.Moves text) ⟨program.entry, first, []⟩ last)
    (accepts : program.step text last = none) : (program.search text start).isSome = true := by
  -- What is explored from earlier starts is closed, so it does not reach the accepting branch.
  have sweep : ∀ remaining start visited, start ≤ first → first < start + remaining →
      program.IsClosed text visited [] →
      (program.searchFrom text remaining start visited).isSome = true := by
    intro remaining
    induction remaining with
    | zero => exact fun _ _ _ beyond => absurd beyond (by omega)
    | succ remaining inductionHypothesis =>
        intro start visited before reach closed
        rw [searchFrom]
        split
        · rfl
        · rename_i after explored
          obtain ⟨closedAfter, seen⟩ :=
            isClosed_of_explore_start explored (before.trans inside) closed
          refine inductionHypothesis (start + 1) after ?_ (by omega) closedAfter
          refine Nat.lt_of_le_of_ne before fun same => ?_
          subst same
          have steps := closedAfter.step_isSome seen inside moves
          rw [accepts] at steps
          cases steps
  unfold search
  rw [if_neg (by omega)]
  exact sweep _ _ _ startsAt (by omega) isClosed_empty

end Program

end ReleaseRules.Regex
