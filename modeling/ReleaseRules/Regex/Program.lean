import ReleaseRules.Regex.Expression

/-!
Contract: programs of a matching machine, and the compilation of expressions.

Owns:
- the instructions;
- the program of an expression, built backwards from what follows it;
- the names of the groups that a program records.

Does not own: running programs.
-/

namespace ReleaseRules.Regex

/-- Instruction of a matching program. Every instruction but the last names its successors. -/
inductive Instruction where
  | consume (members : Unicode.IntervalSet) (next : Nat)
  | fork (preferred other : Nat)
  | check (kind : Assertion) (next : Nat)
  | record (slot : Nat) (next : Nat)
  | accept
deriving Repr, Inhabited

/-- Program under construction. -/
abbrev Instructions := Array Instruction

/-- Add an instruction and give its place. -/
def Instructions.add (instructions : Instructions) (instruction : Instruction) :
    Nat × Instructions :=
  (instructions.size, instructions.push instruction)

/-- Fork towards the body first, or away from it first. -/
def forkTo (greedy : Bool) (body next : Nat) : Instruction :=
  if greedy then .fork body next else .fork next body

/-- Apply a step a number of times, each time to the place that the last one gave. -/
def times (step : Nat → Instructions → Nat × Instructions) :
    Nat → Nat → Instructions → Nat × Instructions
  | 0, next, instructions => (next, instructions)
  | count + 1, next, instructions =>
      let (entry, instructions) := step next instructions
      times step count entry instructions

/-- One or more rounds of a body: a fork after it leads back to it. -/
def oneOrMore (body : Nat → Instructions → Nat × Instructions) (greedy : Bool) (next : Nat)
    (instructions : Instructions) : Nat × Instructions :=
  let (loop, instructions) := instructions.add (.fork next next)
  let (entry, instructions) := body loop instructions
  (entry, instructions.setIfInBounds loop (forkTo greedy entry next))

/-- Any number of rounds of a body that cannot be empty: the fork before it is the one after
it. -/
def anyNumber (body : Nat → Instructions → Nat × Instructions) (greedy : Bool) (next : Nat)
    (instructions : Instructions) : Nat × Instructions :=
  let (loop, instructions) := instructions.add (.fork next next)
  let (entry, instructions) := body loop instructions
  (loop, instructions.setIfInBounds loop (forkTo greedy entry next))

/-- Optional rounds of a body, each of which gives up all later ones by going on at `next`. -/
def optionalRounds (body : Nat → Instructions → Nat × Instructions) (greedy : Bool)
    (next : Nat) : Nat → Nat → Instructions → Nat × Instructions
  | 0, after, instructions => (after, instructions)
  | count + 1, after, instructions =>
      let (entry, instructions) := body after instructions
      let (choice, instructions) := instructions.add (forkTo greedy entry next)
      optionalRounds body greedy next count choice instructions

mutual

/-- Add the instructions of an expression that goes on at `next`, and give its entry. -/
def Expression.compile : Expression → Nat → Instructions → Nat × Instructions
  | .empty, next, instructions => (next, instructions)
  | .set members, next, instructions => instructions.add (.consume members next)
  | .assertion kind, next, instructions => instructions.add (.check kind next)
  | .capture index _ body, next, instructions =>
      let (close, instructions) := instructions.add (.record (2 * index + 1) next)
      let (entry, instructions) := body.compile close instructions
      instructions.add (.record (2 * index) entry)
  | .concatenation parts, next, instructions =>
      Expression.compileParts parts next instructions
  | .alternation branches, next, instructions =>
      Expression.compileBranches branches next instructions
  | .repetition body least most greedy, next, instructions =>
      match most with
      | some most =>
          let (entry, instructions) :=
            optionalRounds body.compile greedy next (most - least) next instructions
          times body.compile least entry instructions
      | none =>
          match least with
          | 0 =>
              if body.canBeEmpty then
                let (entry, instructions) := oneOrMore body.compile greedy next instructions
                instructions.add (forkTo greedy entry next)
              else anyNumber body.compile greedy next instructions
          | least + 1 =>
              let (entry, instructions) := oneOrMore body.compile greedy next instructions
              times body.compile least entry instructions

/-- Add the instructions of parts in sequence. -/
def Expression.compileParts : List Expression → Nat → Instructions → Nat × Instructions
  | [], next, instructions => (next, instructions)
  | part :: rest, next, instructions =>
      let (entry, instructions) := Expression.compileParts rest next instructions
      part.compile entry instructions

/-- Add the instructions of branches, the first of which is preferred. -/
def Expression.compileBranches : List Expression → Nat → Instructions → Nat × Instructions
  | [], next, instructions => instructions.add (.consume Unicode.IntervalSet.empty next)
  | [branch], next, instructions => branch.compile next instructions
  | branch :: rest, next, instructions =>
      let (others, instructions) := Expression.compileBranches rest next instructions
      let (entry, instructions) := branch.compile next instructions
      instructions.add (.fork entry others)

end

mutual

/-- The numbers and names of the groups that an expression records. -/
def Expression.groups : Expression → List (Nat × Option String)
  | .capture index name body => (index, name) :: body.groups
  | .concatenation parts => Expression.partGroups parts
  | .alternation branches => Expression.partGroups branches
  | .repetition body _ _ _ => body.groups
  | _ => []

/-- The groups of all parts. -/
def Expression.partGroups : List Expression → List (Nat × Option String)
  | [] => []
  | part :: rest => part.groups ++ Expression.partGroups rest

end

/-- A matching program with its entry. -/
structure Program where
  instructions : Instructions
  entry : Nat
deriving Repr, Inhabited

/-- The program of an expression, whose whole match is group zero. -/
def Program.ofExpression (expression : Expression) : Program :=
  let (last, instructions) := Instructions.add #[] .accept
  let (entry, instructions) := (Expression.capture 0 none expression).compile last instructions
  ⟨instructions, entry⟩

end ReleaseRules.Regex
