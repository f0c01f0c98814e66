import ReleaseRules.Proofs.Regex.Machine

/-!
Contract: the frame of a compiled program.

Owns:
- the two instructions at which every compiled program ends: acceptance, and before it the record
  of the end of the whole match;
- what a compiled program has recorded when it accepts.

Does not own: which texts a program accepts.

Programs are built backwards, so the end of a program is its beginning as an array. Everything
that is added later goes on at another instruction than acceptance, and acceptance is reached
through the closing record alone.
-/

namespace ReleaseRules.Regex

/-- Instructions at which an instruction goes on. -/
def Instruction.successors : Instruction → List Nat
  | .consume _ next => [next]
  | .fork preferred other => [preferred, other]
  | .check _ next => [next]
  | .record _ next => [next]
  | .accept => []

/-- Instruction that neither accepts nor goes on at acceptance. -/
def Instruction.IsInner (instruction : Instruction) : Prop :=
  instruction ≠ .accept ∧ ∀ next ∈ instruction.successors, next ≠ 0

theorem isInner_of_successors {instruction : Instruction} {next : Nat}
    (only : instruction.successors = [next]) (inner : next ≠ 0) : instruction.IsInner := by
  refine ⟨fun accept => ?_, fun other member => ?_⟩
  · rw [accept] at only
    cases only
  · rw [only] at member
    exact List.mem_singleton.mp member ▸ inner

theorem isInner_forkTo (greedy : Bool) {body next : Nat} (bodyInner : body ≠ 0)
    (nextInner : next ≠ 0) : (forkTo greedy body next).IsInner := by
  cases greedy <;> simp [forkTo, Instruction.IsInner, Instruction.successors, bodyInner, nextInner]

/-- Instructions that end with acceptance and the record of the end of the whole match, and lead
to acceptance through that record alone. -/
structure Instructions.IsFramed (instructions : Instructions) : Prop where
  accept : instructions[0]? = some .accept
  close : instructions[1]? = some (.record 1 0)
  inner : ∀ (place : Nat) (instruction : Instruction), 2 ≤ place →
    instructions[place]? = some instruction → instruction.IsInner

namespace Instructions.IsFramed

variable {instructions : Instructions}

theorem two_le_size (framed : instructions.IsFramed) : 2 ≤ instructions.size :=
  (Array.getElem?_eq_some_iff.mp framed.close).1

theorem add (framed : instructions.IsFramed) {instruction : Instruction}
    (isInner : instruction.IsInner) :
    (instructions.add instruction).1 ≠ 0 ∧ (instructions.add instruction).2.IsFramed := by
  have large := framed.two_le_size
  refine ⟨show instructions.size ≠ 0 by omega, ?_, ?_, ?_⟩
  · rw [Instructions.add, Array.getElem?_push, if_neg (by omega)]
    exact framed.accept
  · rw [Instructions.add, Array.getElem?_push, if_neg (by omega)]
    exact framed.close
  · intro place other later here
    simp only [Instructions.add, Array.getElem?_push] at here
    split at here
    · obtain rfl := Option.some.inj here
      exact isInner
    · exact framed.inner place other later here

theorem set (framed : instructions.IsFramed) {place : Nat} {instruction : Instruction}
    (later : 2 ≤ place) (isInner : instruction.IsInner) :
    IsFramed (instructions.setIfInBounds place instruction) := by
  refine ⟨?_, ?_, fun other shown otherLater here => ?_⟩
  · exact (Array.getElem?_setIfInBounds_ne (by omega)).trans framed.accept
  · exact (Array.getElem?_setIfInBounds_ne (by omega)).trans framed.close
  · rw [Array.getElem?_setIfInBounds] at here
    split at here
    · split at here
      · obtain rfl := Option.some.inj here
        exact isInner
      · cases here
    · exact framed.inner other shown otherLater here

end Instructions.IsFramed

/-- Compilation step that keeps the frame: what goes on at an inner instruction begins at one. -/
def KeepsFrame (step : Nat → Instructions → Nat × Instructions) : Prop :=
  ∀ (next : Nat) (instructions : Instructions), next ≠ 0 → instructions.IsFramed →
    (step next instructions).1 ≠ 0 ∧ (step next instructions).2.IsFramed

namespace KeepsFrame

variable {body : Nat → Instructions → Nat × Instructions}

theorem times (keeps : KeepsFrame body) (count : Nat) : KeepsFrame (times body count) := by
  intro next instructions
  induction count generalizing next instructions with
  | zero => exact fun inner framed => ⟨inner, framed⟩
  | succ count inductionHypothesis =>
      intro inner framed
      obtain ⟨entryInner, entryFramed⟩ := keeps next instructions inner framed
      exact inductionHypothesis _ _ entryInner entryFramed

/-- The fork of a loop is set after its body, which goes on there. -/
theorem loop (keeps : KeepsFrame body) (greedy : Bool) {next : Nat} {instructions : Instructions}
    (inner : next ≠ 0) (framed : instructions.IsFramed) :
    (body (instructions.add (.fork next next)).1 (instructions.add (.fork next next)).2).1 ≠ 0 ∧
      Instructions.IsFramed
        ((body (instructions.add (.fork next next)).1
          (instructions.add (.fork next next)).2).2.setIfInBounds
          (instructions.add (.fork next next)).1
          (forkTo greedy (body (instructions.add (.fork next next)).1
            (instructions.add (.fork next next)).2).1 next)) := by
  obtain ⟨loopInner, loopFramed⟩ := framed.add (isInner_forkTo true inner inner)
  obtain ⟨entryInner, entryFramed⟩ := keeps _ _ loopInner loopFramed
  exact ⟨entryInner, entryFramed.set framed.two_le_size (isInner_forkTo _ entryInner inner)⟩

theorem oneOrMore (keeps : KeepsFrame body) (greedy : Bool) :
    KeepsFrame (oneOrMore body greedy) :=
  fun _ _ inner framed => keeps.loop greedy inner framed

theorem anyNumber (keeps : KeepsFrame body) (greedy : Bool) :
    KeepsFrame (anyNumber body greedy) := by
  intro next instructions inner framed
  refine ⟨?_, (keeps.loop greedy inner framed).2⟩
  exact Nat.ne_of_gt (Nat.lt_of_lt_of_le Nat.zero_lt_two framed.two_le_size)

theorem optionalRounds (keeps : KeepsFrame body) (greedy : Bool) {next : Nat} (inner : next ≠ 0)
    (count : Nat) : KeepsFrame (optionalRounds body greedy next count) := by
  intro after instructions
  induction count generalizing after instructions with
  | zero => exact fun afterInner framed => ⟨afterInner, framed⟩
  | succ count inductionHypothesis =>
      intro afterInner framed
      obtain ⟨entryInner, entryFramed⟩ := keeps after instructions afterInner framed
      obtain ⟨choiceInner, choiceFramed⟩ :=
        entryFramed.add (isInner_forkTo greedy entryInner inner)
      exact inductionHypothesis _ _ choiceInner choiceFramed

end KeepsFrame

mutual

theorem Expression.keepsFrame_compile : (expression : Expression) → KeepsFrame expression.compile
  | .empty => fun _ _ inner framed => ⟨inner, framed⟩
  | .set _ => fun _ _ inner framed => framed.add (isInner_of_successors rfl inner)
  | .assertion _ => fun _ _ inner framed => framed.add (isInner_of_successors rfl inner)
  | .capture index _ body => by
      intro next instructions inner framed
      have close : Instruction.IsInner (.record (2 * index + 1) next) :=
        isInner_of_successors rfl inner
      obtain ⟨closeInner, closeFramed⟩ := framed.add close
      obtain ⟨entryInner, entryFramed⟩ := body.keepsFrame_compile _ _ closeInner closeFramed
      exact entryFramed.add (isInner_of_successors rfl entryInner)
  | .concatenation parts => Expression.keepsFrame_compileParts parts
  | .alternation branches => Expression.keepsFrame_compileBranches branches
  | .repetition body least (some most) greedy => by
      intro next instructions inner framed
      obtain ⟨entryInner, entryFramed⟩ := body.keepsFrame_compile.optionalRounds greedy inner
        (most - least) next instructions inner framed
      exact body.keepsFrame_compile.times least _ _ entryInner entryFramed
  | .repetition body 0 none greedy => by
      intro next instructions inner framed
      rw [Expression.compile]
      split
      · obtain ⟨entryInner, entryFramed⟩ :=
          body.keepsFrame_compile.oneOrMore greedy next instructions inner framed
        exact entryFramed.add (isInner_forkTo _ entryInner inner)
      · exact body.keepsFrame_compile.anyNumber greedy next instructions inner framed
  | .repetition body (least + 1) none greedy => by
      intro next instructions inner framed
      obtain ⟨entryInner, entryFramed⟩ :=
        body.keepsFrame_compile.oneOrMore greedy next instructions inner framed
      exact body.keepsFrame_compile.times least _ _ entryInner entryFramed

theorem Expression.keepsFrame_compileParts : (parts : List Expression) →
    KeepsFrame (Expression.compileParts parts)
  | [] => fun _ _ inner framed => ⟨inner, framed⟩
  | part :: rest => by
      intro next instructions inner framed
      obtain ⟨entryInner, entryFramed⟩ :=
        Expression.keepsFrame_compileParts rest next instructions inner framed
      exact part.keepsFrame_compile _ _ entryInner entryFramed

theorem Expression.keepsFrame_compileBranches : (branches : List Expression) →
    KeepsFrame (Expression.compileBranches branches)
  | [] => fun _ _ inner framed => framed.add (isInner_of_successors rfl inner)
  | [branch] => branch.keepsFrame_compile
  | branch :: second :: rest => by
      intro next instructions inner framed
      obtain ⟨othersInner, othersFramed⟩ :=
        Expression.keepsFrame_compileBranches (second :: rest) next instructions inner framed
      obtain ⟨entryInner, entryFramed⟩ := branch.keepsFrame_compile _ _ inner othersFramed
      exact entryFramed.add (isInner_forkTo true entryInner othersInner)

end

namespace Program

/-- Every program of an expression has its frame and begins at an inner instruction. -/
theorem isFramed_ofExpression (expression : Expression) :
    (ofExpression expression).entry ≠ 0 ∧ (ofExpression expression).instructions.IsFramed := by
  have frame : Instructions.IsFramed #[.accept, .record 1 0] := by
    refine ⟨rfl, rfl, fun place instruction later here => ?_⟩
    rw [Array.getElem?_eq_none (show 2 ≤ place from later)] at here
    cases here
  obtain ⟨entryInner, entryFramed⟩ :=
    expression.keepsFrame_compile 1 #[.accept, .record 1 0] Nat.one_ne_zero frame
  exact entryFramed.add (isInner_of_successors rfl entryInner)

variable {program : Program} {text : Array Char}

/-- What holds at every branch of a search that began at `start`: it stands behind the start, has
recorded positions in between alone, and at acceptance has just recorded where it stands. -/
structure IsPlaced (text : Array Char) (start : Nat) (branch : Branch) : Prop where
  begins : start ≤ branch.position
  inside : branch.position ≤ text.size
  between : ∀ record ∈ branch.records, start ≤ record.2 ∧ record.2 ≤ branch.position
  closed : branch.instruction = 0 → branch.records.head? = some (1, branch.position)

theorem IsPlaced.move {start : Nat} {branch next : Branch} (placed : IsPlaced text start branch)
    (framed : program.instructions.IsFramed) (moves : program.Moves text branch next) :
    IsPlaced text start next := by
  have inside := moves.position_le placed.inside
  -- Only the closing record goes on at acceptance.
  have isInner : ∀ instruction, program.instructions[branch.instruction]? = some instruction →
      instruction ≠ .record 1 0 → ∀ next ∈ instruction.successors, next ≠ 0 := by
    intro instruction here other
    match which : branch.instruction with
    | 0 =>
        rw [which, framed.accept] at here
        obtain rfl := Option.some.inj here
        exact fun _ member => nomatch member
    | 1 =>
        rw [which, framed.close] at here
        exact absurd (Option.some.inj here).symm other
    | place + 2 =>
        rw [which] at here
        exact (framed.inner _ _ (by omega) here).2
  cases moves with
  | consume here shown member =>
      refine ⟨Nat.le_succ_of_le placed.begins, inside, fun record recorded => ?_, fun zero => ?_⟩
      · exact ⟨(placed.between record recorded).1,
          Nat.le_succ_of_le (placed.between record recorded).2⟩
      · exact absurd zero
          (isInner _ here Instruction.noConfusion _ (by simp [Instruction.successors]))
  | prefer here =>
      exact ⟨placed.begins, inside, placed.between, fun zero =>
        absurd zero (isInner _ here Instruction.noConfusion _ (by simp [Instruction.successors]))⟩
  | giveUp here =>
      exact ⟨placed.begins, inside, placed.between, fun zero =>
        absurd zero (isInner _ here Instruction.noConfusion _ (by simp [Instruction.successors]))⟩
  | check here holds =>
      exact ⟨placed.begins, inside, placed.between, fun zero =>
        absurd zero (isInner _ here Instruction.noConfusion _ (by simp [Instruction.successors]))⟩
  | @record slot next here =>
      refine ⟨placed.begins, inside, fun record recorded => ?_, fun zero => ?_⟩
      · rcases List.mem_cons.mp recorded with rfl | before
        · exact ⟨placed.begins, Nat.le_refl _⟩
        · exact placed.between record before
      · by_cases closing : Instruction.record slot next = .record 1 0
        · injection closing with slotOne
          exact congrArg (fun slot => some (slot, branch.position)) slotOne
        · exact absurd zero (isInner _ here closing _ (by simp [Instruction.successors]))

theorem IsPlaced.run {start : Nat} {branch last : Branch} (placed : IsPlaced text start branch)
    (framed : program.instructions.IsFramed)
    (moves : Relation.ReflTransGen (program.Moves text) branch last) :
    IsPlaced text start last := by
  induction moves with
  | refl => exact placed
  | tail _ move inductionHypothesis => exact inductionHypothesis.move framed move

theorem instruction_eq_zero_of_accepts (framed : program.instructions.IsFramed) {branch : Branch}
    (accepts : program.step text branch = none) : branch.instruction = 0 := by
  have here : program.instructions[branch.instruction]? = some .accept := by
    unfold step at accepts
    split at accepts
    · cases accepts
    · assumption
    all_goals grind
  rcases which : branch.instruction with _ | _ | place
  · rfl
  · rw [which, framed.close] at here
    cases here
  · rw [which] at here
    exact absurd rfl (framed.inner _ _ (by omega) here).1

/-- What a search has recorded: the end of the whole match last, and no position before the start
or behind that end. -/
theorem placed_of_search (framed : program.instructions.IsFramed) (entryInner : program.entry ≠ 0)
    {start : Nat} {records : List (Nat × Nat)}
    (found : program.search text start = some records) :
    ∃ stop, start ≤ stop ∧ stop ≤ text.size ∧ records.head? = some (1, stop) ∧
      ∀ record ∈ records, start ≤ record.2 ∧ record.2 ≤ stop := by
  obtain ⟨first, last, startsAt, inside, moves, accepts, rfl⟩ := moves_of_search found
  have begins : IsPlaced text start ⟨program.entry, first, []⟩ :=
    ⟨startsAt, inside, (fun _ member => nomatch member), fun zero => absurd zero entryInner⟩
  have placed := begins.run framed moves
  exact ⟨last.position, placed.begins, placed.inside,
    placed.closed (instruction_eq_zero_of_accepts framed accepts), placed.between⟩

end Program

end ReleaseRules.Regex
