import ReleaseRules.Proofs.Regex.Framing
import ReleaseRules.Proofs.Regex.Reads

/-!
Contract: programs read what their expressions read.

Owns:
- runs of the machine up to acceptance, and what each kind of instruction does in them;
- parts of a program that lead from one place to another by a reading, and how they are put
  together;
- the compilation of an expression, which adds such a part for what the expression reads;
- the search of a compiled program, which gives a reading and finds one if there is any.

Does not own: which of several readings a search prefers.

A part of a program `Passes` by a reading when its runs and the readings are the same. Runs are
counted, for the fork of a loop is reached again and again: what is left after a round is a shorter
run. Everything that a compilation step adds stays in the finished program, but for the fork of a
loop, whose place is held until the entry of the body is known.
-/

namespace ReleaseRules.Regex

/-- The branch at an instruction for a spot. -/
def Spot.branch (spot : Spot) (instruction : Nat) : Branch :=
  ⟨instruction, spot.position, spot.records⟩

namespace Program

variable {program : Program} {text : Array Char}

/-! ## Runs to acceptance -/

/-- Runs of a number of moves that end in acceptance with some records. -/
inductive AcceptsIn (program : Program) (text : Array Char) :
    Nat → Branch → List (Nat × Nat) → Prop where
  | accept {branch : Branch} (accepts : program.step text branch = none) :
      AcceptsIn program text 0 branch branch.records
  | move {length : Nat} {branch next : Branch} {records : List (Nat × Nat)}
      (moves : program.Moves text branch next) (rest : AcceptsIn program text length next records) :
      AcceptsIn program text (length + 1) branch records

theorem exists_acceptsIn {branch last : Branch}
    (moves : Relation.ReflTransGen (program.Moves text) branch last)
    (accepts : program.step text last = none) :
    ∃ length, program.AcceptsIn text length branch last.records := by
  induction moves using Relation.ReflTransGen.head_induction_on with
  | refl => exact ⟨0, .accept accepts⟩
  | head move _ inductionHypothesis =>
      obtain ⟨length, run⟩ := inductionHypothesis
      exact ⟨length + 1, .move move run⟩

section Kinds

variable {branch next : Branch} {length : Nat} {records : List (Nat × Nat)}

/-- A run that does not accept at once begins with a move. -/
theorem AcceptsIn.exists_move (run : program.AcceptsIn text length branch records)
    (goesOn : program.step text branch ≠ none) :
    ∃ rest next, length = rest + 1 ∧ program.Moves text branch next ∧
      program.AcceptsIn text rest next records := by
  cases run with
  | accept accepts => exact absurd accepts goesOn
  | move moves rest => exact ⟨_, _, rfl, moves, rest⟩

theorem AcceptsIn.of_consume {members : Unicode.IntervalSet} {after : Nat}
    (run : program.AcceptsIn text length branch records)
    (here : program.instructions[branch.instruction]? = some (.consume members after)) :
    ∃ rest character, length = rest + 1 ∧ text[branch.position]? = some character ∧
      members.hasChar character = true ∧
      program.AcceptsIn text rest
        { branch with instruction := after, position := branch.position + 1 } records := by
  obtain ⟨rest, next, counted, moves, others⟩ := run.exists_move (by simp [step, here]; grind)
  cases moves with
  | consume here' shown member =>
      cases here.symm.trans here'
      exact ⟨rest, _, counted, shown, member, others⟩
  | prefer here' | giveUp here' | check here' | record here' => cases here.symm.trans here'

theorem AcceptsIn.of_fork {preferred other : Nat}
    (run : program.AcceptsIn text length branch records)
    (here : program.instructions[branch.instruction]? = some (.fork preferred other)) :
    ∃ rest, length = rest + 1 ∧
      (program.AcceptsIn text rest { branch with instruction := preferred } records ∨
        program.AcceptsIn text rest { branch with instruction := other } records) := by
  obtain ⟨rest, next, counted, moves, others⟩ := run.exists_move (by simp [step, here])
  cases moves with
  | prefer here' =>
      cases here.symm.trans here'
      exact ⟨rest, counted, .inl others⟩
  | giveUp here' =>
      cases here.symm.trans here'
      exact ⟨rest, counted, .inr others⟩
  | consume here' | check here' | record here' => cases here.symm.trans here'

theorem AcceptsIn.of_check {kind : Assertion} {after : Nat}
    (run : program.AcceptsIn text length branch records)
    (here : program.instructions[branch.instruction]? = some (.check kind after)) :
    ∃ rest, length = rest + 1 ∧ kind.holds text branch.position = true ∧
      program.AcceptsIn text rest { branch with instruction := after } records := by
  obtain ⟨rest, next, counted, moves, others⟩ := run.exists_move (by simp [step, here]; grind)
  cases moves with
  | check here' holds =>
      cases here.symm.trans here'
      exact ⟨rest, counted, holds, others⟩
  | consume here' | prefer here' | giveUp here' | record here' => cases here.symm.trans here'

theorem AcceptsIn.of_record {slot after : Nat}
    (run : program.AcceptsIn text length branch records)
    (here : program.instructions[branch.instruction]? = some (.record slot after)) :
    ∃ rest, length = rest + 1 ∧
      program.AcceptsIn text rest { branch with
        instruction := after, records := (slot, branch.position) :: branch.records } records := by
  obtain ⟨rest, next, counted, moves, others⟩ := run.exists_move (by simp [step, here])
  cases moves with
  | record here' =>
      cases here.symm.trans here'
      exact ⟨rest, counted, others⟩
  | consume here' | prefer here' | giveUp here' | check here' => cases here.symm.trans here'

end Kinds

/-! ## Parts of a program -/

/-- From its entry, a part of a program leads to a place by the readings of a relation, and every
run that begins at the entry comes there by one of them. -/
structure Passes (program : Program) (text : Array Char) (entry next : Nat)
    (reads : Spot → Spot → Prop) : Prop where
  enters : ∀ {here there}, reads here there →
    Relation.ReflTransGen (program.Moves text) (here.branch entry) (there.branch next)
  leaves : ∀ {length here records}, program.AcceptsIn text length (here.branch entry) records →
    ∃ there rest, rest ≤ length ∧ reads here there ∧
      program.AcceptsIn text rest (there.branch next) records

namespace Passes

variable {entry middle next : Nat} {reads others : Spot → Spot → Prop}

theorem congr (passes : program.Passes text entry next reads)
    (same : ∀ here there, reads here there ↔ others here there) :
    program.Passes text entry next others :=
  (funext₂ fun here there => propext (same here there) : reads = others) ▸ passes

theorem refl (program : Program) (text : Array Char) (place : Nat) :
    program.Passes text place place Eq :=
  ⟨fun same => same ▸ .refl, fun run => ⟨_, _, Nat.le_refl _, rfl, run⟩⟩

theorem trans (first : program.Passes text entry middle reads)
    (second : program.Passes text middle next others) :
    program.Passes text entry next (Relation.Comp reads others) := by
  refine ⟨fun ⟨_, before, after⟩ => (first.enters before).trans (second.enters after),
    fun run => ?_⟩
  obtain ⟨between, rest, shorter, before, onward⟩ := first.leaves run
  obtain ⟨there, last, shorter', after, onward⟩ := second.leaves onward
  exact ⟨there, last, shorter'.trans shorter, ⟨between, before, after⟩, onward⟩

theorem consume {members : Unicode.IntervalSet}
    (here : program.instructions[entry]? = some (.consume members next)) :
    program.Passes text entry next ((Expression.set members).Reads text) := by
  refine ⟨fun ⟨_, shown, member, same⟩ => ?_, fun run => ?_⟩
  · subst same
    exact .single (.consume here shown member)
  · obtain ⟨rest, character, rfl, shown, member, onward⟩ := run.of_consume here
    exact ⟨_, rest, Nat.le_succ _, ⟨character, shown, member, rfl⟩, onward⟩

theorem check {kind : Assertion}
    (here : program.instructions[entry]? = some (.check kind next)) :
    program.Passes text entry next ((Expression.assertion kind).Reads text) := by
  refine ⟨fun ⟨holds, same⟩ => ?_, fun run => ?_⟩
  · subst same
    exact .single (.check here holds)
  · obtain ⟨rest, rfl, holds, onward⟩ := run.of_check here
    exact ⟨_, rest, Nat.le_succ _, ⟨holds, rfl⟩, onward⟩

theorem record {slot : Nat}
    (here : program.instructions[entry]? = some (.record slot next)) :
    program.Passes text entry next fun here there => there = here.record slot := by
  refine ⟨fun same => ?_, fun run => ?_⟩
  · subst same
    exact .single (.record here)
  · obtain ⟨rest, rfl, onward⟩ := run.of_record here
    exact ⟨_, rest, Nat.le_succ _, rfl, onward⟩

/-- A fork leads on by either of its two ways. -/
theorem fork {preferred other : Nat}
    (here : program.instructions[entry]? = some (.fork preferred other))
    (first : program.Passes text preferred next reads)
    (second : program.Passes text other next others) :
    program.Passes text entry next fun here there => reads here there ∨ others here there := by
  refine ⟨fun either => ?_, fun run => ?_⟩
  · rcases either with read | read
    · exact .head (.prefer here) (first.enters read)
    · exact .head (.giveUp here) (second.enters read)
  · obtain ⟨length, rfl, onward | onward⟩ := run.of_fork here
    · obtain ⟨there, rest, shorter, read, onward⟩ := first.leaves onward
      exact ⟨there, rest, Nat.le_succ_of_le shorter, .inl read, onward⟩
    · obtain ⟨there, rest, shorter, read, onward⟩ := second.leaves onward
      exact ⟨there, rest, Nat.le_succ_of_le shorter, .inr read, onward⟩

/-- Greed decides which way of a fork is preferred, not where the two lead. -/
theorem forkTo {greedy : Bool} {body after : Nat}
    (here : program.instructions[entry]? = some (Regex.forkTo greedy body after))
    (first : program.Passes text body next reads)
    (second : program.Passes text after next others) :
    program.Passes text entry next fun here there => reads here there ∨ others here there := by
  cases greedy with
  | true => exact .fork here first second
  | false => exact (Passes.fork here second first).congr fun _ _ => Or.comm

/-- A loop: the body leads back to the fork, which leads to the body or away. -/
theorem loop {greedy : Bool} {fork : Nat}
    (here : program.instructions[fork]? = some (Regex.forkTo greedy entry next))
    (body : program.Passes text entry fork reads) :
    program.Passes text fork next fun here there => ∃ count, Rounds reads count here there := by
  have ways : ∃ preferred other, program.instructions[fork]? = some (.fork preferred other) ∧
      (preferred = entry ∧ other = next ∨ preferred = next ∧ other = entry) := by
    cases greedy with
    | true => exact ⟨entry, next, here, .inl ⟨rfl, rfl⟩⟩
    | false => exact ⟨next, entry, here, .inr ⟨rfl, rfl⟩⟩
  obtain ⟨preferred, other, atFork, ways⟩ := ways
  refine ⟨fun {here there} read => ?_, fun {length here records} run => ?_⟩
  · obtain ⟨count, rounds⟩ := read
    have moves : ∀ place, place = entry ∨ place = next → ∀ spot : Spot,
        program.Moves text (spot.branch fork) (spot.branch place) := by
      rcases ways with ⟨rfl, rfl⟩ | ⟨rfl, rfl⟩ <;> rintro _ (rfl | rfl) spot
      · exact .prefer atFork
      · exact .giveUp atFork
      · exact .giveUp atFork
      · exact .prefer atFork
    induction count generalizing here with
    | zero =>
        obtain rfl : here = there := rounds
        exact .single (moves next (.inr rfl) here)
    | succ count inductionHypothesis =>
        obtain ⟨between, first, rest⟩ := rounds_succ_iff.mp rounds
        exact .head (moves entry (.inl rfl) here)
          ((body.enters first).trans (inductionHypothesis rest))
  · -- Every time at the fork, a shorter run is left.
    induction length using Nat.strongRecOn generalizing here with
    | ind length inductionHypothesis =>
        obtain ⟨left, rfl, onward⟩ := run.of_fork atFork
        have onward : program.AcceptsIn text left (here.branch entry) records ∨
            program.AcceptsIn text left (here.branch next) records := by
          rcases ways with ⟨rfl, rfl⟩ | ⟨rfl, rfl⟩
          · exact onward
          · exact onward.symm
        rcases onward with again | away
        · obtain ⟨between, rest, shorter, first, back⟩ := body.leaves again
          obtain ⟨there, last, shorter', ⟨count, rounds⟩, onward⟩ :=
            inductionHypothesis rest (Nat.lt_succ_of_le shorter) back
          exact ⟨there, last, by omega, ⟨count + 1, rounds_succ_iff.mpr ⟨between, first, rounds⟩⟩,
            onward⟩
        · exact ⟨here, left, Nat.le_succ _, ⟨0, rfl⟩, away⟩

end Passes

/-- From a place on, a program has the instructions of an array. -/
def Holds (program : Program) (first : Nat) (instructions : Instructions) : Prop :=
  ∀ place, first ≤ place → place < instructions.size →
    program.instructions[place]? = instructions[place]?

end Program

/-! ## Compilation steps -/

/-- Instructions of which others are the beginning. -/
structure Instructions.Grows (before after : Instructions) : Prop where
  size_le : before.size ≤ after.size
  keeps : ∀ place, place < before.size → after[place]? = before[place]?

namespace Instructions.Grows

variable {before middle after : Instructions}

theorem refl (instructions : Instructions) : instructions.Grows instructions :=
  ⟨Nat.le_refl _, fun _ _ => rfl⟩

theorem trans (first : before.Grows middle) (second : middle.Grows after) : before.Grows after :=
  ⟨first.size_le.trans second.size_le, fun place inside =>
    (second.keeps place (Nat.lt_of_lt_of_le inside first.size_le)).trans (first.keeps place inside)⟩

theorem add (instructions : Instructions) (instruction : Instruction) :
    instructions.Grows (instructions.add instruction).2 := by
  refine ⟨?_, fun place inside => ?_⟩
  · simp [Instructions.add]
  · rw [Instructions.add, Array.getElem?_push, if_neg (Nat.ne_of_lt inside)]

/-- What is set behind the beginning leaves it as it is. -/
theorem set (grows : before.Grows after) {place : Nat} (outside : before.size ≤ place)
    (instruction : Instruction) : before.Grows (after.setIfInBounds place instruction) := by
  refine ⟨?_, fun other inside => ?_⟩
  · rw [Array.size_setIfInBounds]
    exact grows.size_le
  · rw [Array.getElem?_setIfInBounds_ne (by omega)]
    exact grows.keeps other inside

end Instructions.Grows

namespace Program.Holds

variable {program : Program} {first : Nat} {instructions : Instructions}

theorem of_le {later : Nat} (holds : program.Holds first instructions) (le : first ≤ later) :
    program.Holds later instructions :=
  fun place behind inside => holds place (le.trans behind) inside

/-- What was there before the last addition is still there. -/
theorem of_grows {before : Instructions} (holds : program.Holds first instructions)
    (grows : before.Grows instructions) : program.Holds first before := by
  intro place behind inside
  rw [holds place behind (Nat.lt_of_lt_of_le inside grows.size_le), grows.keeps place inside]

theorem added {instruction : Instruction}
    (holds : program.Holds first (instructions.add instruction).2)
    (behind : first ≤ instructions.size) :
    program.instructions[instructions.size]? = some instruction := by
  rw [holds _ behind (by simp [Instructions.add])]
  simp [Instructions.add]

end Program.Holds

/-- A compilation step that adds a part for the readings of a relation, and keeps what is there. -/
structure Realizes (text : Array Char) (step : Nat → Instructions → Nat × Instructions)
    (reads : Spot → Spot → Prop) : Prop where
  grows : ∀ next (instructions : Instructions), instructions.Grows (step next instructions).2
  passes : ∀ {next : Nat} {instructions : Instructions} {program : Program},
    program.Holds instructions.size (step next instructions).2 →
      program.Passes text (step next instructions).1 next reads

namespace Realizes

variable {text : Array Char} {first second body : Nat → Instructions → Nat × Instructions}
  {reads others : Spot → Spot → Prop}

theorem congr (realizes : Realizes text body reads)
    (same : ∀ here there, reads here there ↔ others here there) : Realizes text body others :=
  ⟨realizes.grows, fun holds => (realizes.passes holds).congr same⟩

theorem nothing : Realizes text (fun next instructions => (next, instructions)) Eq :=
  ⟨fun _ => .refl, fun _ => .refl _ _ _⟩

theorem record (slot : Nat) :
    Realizes text (fun next instructions => instructions.add (.record slot next))
      fun here there => there = here.record slot :=
  ⟨fun _ instructions => .add instructions _, fun holds => .record (holds.added (Nat.le_refl _))⟩

/-- What follows is compiled first. -/
theorem andThen (realizes : Realizes text first reads) (after : Realizes text second others) :
    Realizes text (fun next instructions =>
      first (second next instructions).1 (second next instructions).2)
      (Relation.Comp reads others) := by
  refine ⟨fun next instructions => ?_, fun holds => ?_⟩
  · exact (after.grows _ _).trans (realizes.grows _ _)
  · exact (realizes.passes (holds.of_le (after.grows _ _).size_le)).trans
      (after.passes (holds.of_grows (realizes.grows _ _)))

theorem times (realizes : Realizes text body reads) : ∀ count,
    Realizes text (times body count) (Rounds reads count)
  | 0 => nothing
  | count + 1 => (realizes.times count).andThen realizes

/-- A fork in front of a part that can be left out. -/
theorem orNothing (realizes : Realizes text body reads) (greedy : Bool) :
    Realizes text (fun next instructions =>
      (body next instructions).2.add (forkTo greedy (body next instructions).1 next))
      fun here there => reads here there ∨ here = there := by
  refine ⟨fun next instructions => ?_, fun holds => ?_⟩
  · exact (realizes.grows _ _).trans (.add _ _)
  · exact .forkTo (holds.added (realizes.grows _ _).size_le)
      (realizes.passes (holds.of_grows (.add _ _))) (.refl _ _ _)

/-- A fork between two parts; the one that is given up is compiled first. -/
theorem either (preferred : Realizes text first reads) (other : Realizes text second others) :
    Realizes text (fun next instructions =>
      (first next (second next instructions).2).2.add
        (.fork (first next (second next instructions).2).1 (second next instructions).1))
      fun here there => reads here there ∨ others here there := by
  refine ⟨fun next instructions => ?_, fun {next instructions program} holds => ?_⟩
  · exact ((other.grows _ _).trans (preferred.grows _ _)).trans (.add _ _)
  · have grows := (other.grows next instructions).trans
      (preferred.grows next (second next instructions).2)
    have inner := holds.of_grows (.add _ _)
    exact .fork (holds.added grows.size_le)
      (preferred.passes (inner.of_le (other.grows _ _).size_le))
      (other.passes (inner.of_grows (preferred.grows _ _)))

/-! ### Repetitions -/

/-- The fork of a loop: its place is held while the body is compiled, and then it is set. -/
theorem grows_loop (realizes : Realizes text body reads) (greedy : Bool) (next : Nat)
    (instructions : Instructions) :
    instructions.Grows (Regex.oneOrMore body greedy next instructions).2 :=
  ((Instructions.Grows.add _ _).trans (realizes.grows _ _)).set (Nat.le_refl _) _

theorem passes_loop (realizes : Realizes text body reads) {greedy : Bool} {next : Nat}
    {instructions : Instructions} {program : Program}
    (holds : program.Holds instructions.size (Regex.oneOrMore body greedy next instructions).2) :
    program.Passes text (Regex.oneOrMore body greedy next instructions).1 instructions.size
        reads ∧
      program.Passes text instructions.size next fun here there =>
        ∃ count, Rounds reads count here there := by
  have larger := (realizes.grows instructions.size (instructions.push (.fork next next))).size_le
  rw [Array.size_push] at larger
  have inBody : program.Holds (instructions.push (.fork next next)).size
      (body instructions.size (instructions.push (.fork next next))).2 := by
    intro place behind inside
    rw [Array.size_push] at behind
    rw [holds place (Nat.le_of_succ_le behind) (by simpa [Regex.oneOrMore, Instructions.add] using inside)]
    exact Array.getElem?_setIfInBounds_ne (Nat.ne_of_lt behind)
  have atFork : program.instructions[instructions.size]? = some (forkTo greedy
      (body instructions.size (instructions.push (.fork next next))).1 next) := by
    rw [holds _ (Nat.le_refl _) (by simpa [Regex.oneOrMore, Instructions.add] using Nat.lt_of_succ_le larger)]
    exact Array.getElem?_setIfInBounds_self_of_lt larger
  have passes := realizes.passes inBody
  exact ⟨passes, .loop atFork passes⟩

theorem oneOrMore (realizes : Realizes text body reads) (greedy : Bool) :
    Realizes text (oneOrMore body greedy) fun here there =>
      ∃ count, Rounds reads (count + 1) here there := by
  refine ⟨realizes.grows_loop greedy, fun holds => ?_⟩
  obtain ⟨once, again⟩ := realizes.passes_loop holds
  refine (once.trans again).congr fun here there => ?_
  simp only [rounds_succ_iff]
  exact ⟨fun ⟨between, read, count, rounds⟩ => ⟨count, between, read, rounds⟩,
    fun ⟨count, between, read, rounds⟩ => ⟨between, read, count, rounds⟩⟩

theorem anyNumber (realizes : Realizes text body reads) (greedy : Bool) :
    Realizes text (anyNumber body greedy) fun here there => ∃ count, Rounds reads count here there :=
  ⟨realizes.grows_loop greedy, fun holds => (realizes.passes_loop holds).2⟩

theorem grows_optionalRounds (realizes : Realizes text body reads) (greedy : Bool) (next : Nat) :
    ∀ count after (instructions : Instructions),
      instructions.Grows (Regex.optionalRounds body greedy next count after instructions).2
  | 0, _, instructions => .refl instructions
  | count + 1, after, instructions =>
      ((realizes.grows after instructions).trans (.add _ _)).trans
        (realizes.grows_optionalRounds greedy next count _ _)

/-- Every optional round goes on at those that are there already, or gives all of them up. -/
theorem passes_optionalRounds (realizes : Realizes text body reads) {greedy : Bool} {next : Nat}
    {program : Program} (count : Nat) {after already : Nat} {instructions : Instructions}
    (holds : program.Holds instructions.size
      (Regex.optionalRounds body greedy next count after instructions).2)
    (rest : program.Passes text after next fun here there =>
      ∃ rounds ≤ already, Rounds reads rounds here there) :
    program.Passes text (Regex.optionalRounds body greedy next count after instructions).1 next
      fun here there => ∃ rounds ≤ already + count, Rounds reads rounds here there := by
  induction count generalizing after already instructions with
  | zero => exact rest
  | succ count inductionHypothesis =>
      have grown := realizes.grows after instructions
      have later := realizes.grows_optionalRounds greedy next count
        (body after instructions).2.size
        ((body after instructions).2.push (forkTo greedy (body after instructions).1 next))
      have inner := holds.of_grows later
      have round := realizes.passes (inner.of_grows (.add _ _))
      have choice := Program.Passes.forkTo (inner.added grown.size_le) (round.trans rest)
        (.refl _ _ _)
      rw [show already + (count + 1) = already + 1 + count by omega]
      refine inductionHypothesis (holds.of_le (grown.trans (.add _ _)).size_le)
        (choice.congr fun here there => ?_)
      constructor
      · rintro (⟨between, read, rounds, few, others⟩ | rfl)
        · exact ⟨rounds + 1, by omega, rounds_succ_iff.mpr ⟨between, read, others⟩⟩
        · exact ⟨0, Nat.zero_le _, rfl⟩
      · rintro ⟨rounds, few, read⟩
        rcases rounds with _ | rounds
        · exact .inr read
        · obtain ⟨between, first, others⟩ := rounds_succ_iff.mp read
          exact .inl ⟨between, first, rounds, Nat.le_of_succ_le_succ few, others⟩

theorem optionalRounds (realizes : Realizes text body reads) (greedy : Bool) (count : Nat) :
    Realizes text (fun next => optionalRounds body greedy next count next) fun here there =>
      ∃ rounds ≤ count, Rounds reads rounds here there := by
  refine ⟨fun next => realizes.grows_optionalRounds greedy next count next,
    fun {next _ program} holds => ?_⟩
  have none : program.Passes text next next fun here there =>
      ∃ rounds ≤ 0, Rounds reads rounds here there :=
    (Program.Passes.refl program text next).congr fun here there => by simp [Rounds]
  have passes := realizes.passes_optionalRounds count holds none
  rwa [Nat.zero_add] at passes

end Realizes

mutual

/-- **Compilation.** The instructions that are added for an expression lead on by exactly what it
reads. -/
theorem Expression.realizes_compile (text : Array Char) : (expression : Expression) →
    Realizes text expression.compile (expression.Reads text)
  | .empty => .nothing
  | .set _ => ⟨fun _ _ => .add _ _, fun holds => .consume (holds.added (Nat.le_refl _))⟩
  | .assertion _ => ⟨fun _ _ => .add _ _, fun holds => .check (holds.added (Nat.le_refl _))⟩
  | .capture index _ body => by
      refine ((Realizes.record (2 * index)).andThen
        ((body.realizes_compile text).andThen (.record (2 * index + 1)))).congr ?_
      exact fun here there =>
        ⟨fun ⟨_, rfl, last, read, close⟩ => ⟨last, read, close⟩,
          fun ⟨last, read, close⟩ => ⟨_, rfl, last, read, close⟩⟩
  | .concatenation parts => Expression.realizes_compileParts text parts
  | .alternation branches => Expression.realizes_compileBranches text branches
  | .repetition body least (some most) greedy => by
      have inner := body.realizes_compile text
      refine ((inner.times least).andThen
        (inner.optionalRounds greedy (most - least))).congr fun here there => ?_
      constructor
      · rintro ⟨between, needed, rounds, few, optional⟩
        refine ⟨least + rounds, Nat.le_add_right _ _, ?_, rounds_add_iff.mpr
          ⟨between, needed, optional⟩⟩
        rintro _ ⟨⟩
        omega
      · rintro ⟨count, enough, bounded, rounds⟩
        have few := bounded most rfl
        rw [show count = least + (count - least) by omega] at rounds
        obtain ⟨between, needed, optional⟩ := rounds_add_iff.mp rounds
        exact ⟨between, needed, count - least, by omega, optional⟩
  | .repetition body 0 none greedy => by
      have inner := body.realizes_compile text
      have unbounded : ∀ here there, (∃ count, Rounds (body.Reads text) count here there) ↔
          (Expression.repetition body 0 none greedy).Reads text here there :=
        fun here there => ⟨fun ⟨count, rounds⟩ => ⟨count, Nat.zero_le _, nofun, rounds⟩,
          fun ⟨count, _, _, rounds⟩ => ⟨count, rounds⟩⟩
      by_cases empty : body.canBeEmpty
      · have step : (Expression.repetition body 0 none greedy).compile = fun next instructions =>
            (oneOrMore body.compile greedy next instructions).2.add
              (forkTo greedy (oneOrMore body.compile greedy next instructions).1 next) := by
          funext next instructions
          simp [Expression.compile, empty]
        rw [step]
        refine ((inner.oneOrMore greedy).orNothing greedy).congr fun here there => ?_
        refine Iff.trans ⟨?_, ?_⟩ (unbounded here there)
        · rintro (⟨count, rounds⟩ | rfl)
          · exact ⟨count + 1, rounds⟩
          · exact ⟨0, rfl⟩
        · rintro ⟨count, rounds⟩
          rcases count with _ | count
          · exact .inr rounds
          · exact .inl ⟨count, rounds⟩
      · have step : (Expression.repetition body 0 none greedy).compile =
            anyNumber body.compile greedy := by
          funext next instructions
          simp [Expression.compile, empty]
        rw [step]
        exact (inner.anyNumber greedy).congr unbounded
  | .repetition body (least + 1) none greedy => by
      have inner := body.realizes_compile text
      refine ((inner.times least).andThen (inner.oneOrMore greedy)).congr fun here there => ?_
      constructor
      · rintro ⟨between, needed, count, rounds⟩
        exact ⟨least + (count + 1), by omega, nofun, rounds_add_iff.mpr ⟨between, needed, rounds⟩⟩
      · rintro ⟨count, enough, _, rounds⟩
        rw [show count = least + (count - (least + 1) + 1) by omega] at rounds
        obtain ⟨between, needed, others⟩ := rounds_add_iff.mp rounds
        exact ⟨between, needed, _, others⟩

theorem Expression.realizes_compileParts (text : Array Char) : (parts : List Expression) →
    Realizes text (Expression.compileParts parts) (Expression.PartsRead text parts)
  | [] => .nothing
  | part :: rest =>
      (part.realizes_compile text).andThen (Expression.realizes_compileParts text rest)

theorem Expression.realizes_compileBranches (text : Array Char) : (branches : List Expression) →
    Realizes text (Expression.compileBranches branches) (Expression.BranchesRead text branches)
  | [] => by
      have nothing : Realizes text (Expression.compileBranches [])
          ((Expression.set Unicode.IntervalSet.empty).Reads text) :=
        ⟨fun _ _ => .add _ _, fun holds => .consume (holds.added (Nat.le_refl _))⟩
      exact nothing.congr fun _ _ => ⟨fun ⟨_, _, member, _⟩ => (nomatch member), nofun⟩
  | [branch] =>
      (branch.realizes_compile text).congr fun _ _ => (or_iff_left id).symm
  | branch :: second :: rest =>
      (branch.realizes_compile text).either
        (Expression.realizes_compileBranches text (second :: rest))

end

/-! ## Programs of expressions -/

namespace Program

variable {text : Array Char}

theorem accepts_of_eq_zero (expression : Expression) {branch : Branch}
    (atEnd : branch.instruction = 0) : (ofExpression expression).step text branch = none := by
  simp [step, atEnd, (isFramed_ofExpression expression).2.accept]

/-- The program of an expression leads to acceptance by what the expression reads. -/
theorem passes_ofExpression (expression : Expression) :
    (ofExpression expression).Passes text (ofExpression expression).entry 0
      ((Expression.capture 0 none expression).Reads text) :=
  ((Expression.capture 0 none expression).realizes_compile text).passes fun _ _ _ => rfl

/-- **Search, soundly.** What a search has recorded is what a reading from some position on
records. -/
theorem exists_reads_of_search {expression : Expression} {start : Nat}
    {records : List (Nat × Nat)}
    (found : (ofExpression expression).search text start = some records) :
    ∃ first there, start ≤ first ∧ first ≤ text.size ∧ expression.ReadsMatch text first there ∧
      there.records = records := by
  obtain ⟨first, last, startsAt, inside, moves, accepts, rfl⟩ := moves_of_search found
  obtain ⟨length, run⟩ := exists_acceptsIn moves accepts
  have run : (ofExpression expression).AcceptsIn text length
      (Spot.branch ⟨first, []⟩ (ofExpression expression).entry) last.records := run
  obtain ⟨there, rest, -, read, atEnd⟩ := (passes_ofExpression expression).leaves run
  refine ⟨first, there, startsAt, inside, read, ?_⟩
  generalize last.records = records at atEnd
  cases atEnd with
  | accept => rfl
  | move moves _ =>
      obtain ⟨nexts, taken, -⟩ := exists_mem_step_of_moves moves
      cases (accepts_of_eq_zero expression rfl).symm.trans taken

/-- **Search, completely.** A search finds something if there is a reading from its start on. -/
theorem search_isSome_of_reads {expression : Expression} {start first : Nat} {there : Spot}
    (startsAt : start ≤ first) (inside : first ≤ text.size)
    (read : expression.ReadsMatch text first there) :
    ((ofExpression expression).search text start).isSome = true :=
  search_isSome_of_moves startsAt inside ((passes_ofExpression expression).enters read)
    (accepts_of_eq_zero expression rfl)

end Program

end ReleaseRules.Regex
