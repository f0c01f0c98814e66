import ReleaseRules.Regex.Program
import Std.Data.HashSet

/-!
Contract: running matching programs over a text.

Owns:
- assertions at a position;
- the backtracking search, which visits every pair of instruction and position at most once
  and so prefers the same match as a search without that bound;
- the leftmost match from a position on.

Does not own: reading and compiling patterns.
-/

namespace ReleaseRules.Regex

open Unicode (isWord isAsciiWord)

/-- The character before a position. -/
def charBefore (text : Array Char) (position : Nat) : Option Char :=
  if position = 0 then none else text[position - 1]?

/-- Whether there is a word character. -/
def isWordAt (unicode : Bool) : Option Char → Bool
  | none => false
  | some character => if unicode then isWord character else isAsciiWord character

/-- Whether an assertion holds at a position. -/
def Assertion.holds (text : Array Char) (position : Nat) : Assertion → Bool
  | .textStart => position == 0
  | .textEnd => position == text.size
  | .lineStart carriageReturns =>
      match charBefore text position with
      | none => true
      | some '\n' => true
      | some '\r' => carriageReturns && text[position]? != some '\n'
      | some _ => false
  | .lineEnd carriageReturns =>
      match text[position]? with
      | none => true
      | some '\n' => !carriageReturns || charBefore text position != some '\r'
      | some '\r' => carriageReturns
      | some _ => false
  | .boundary unicode =>
      isWordAt unicode (charBefore text position) != isWordAt unicode text[position]?
  | .noBoundary unicode =>
      isWordAt unicode (charBefore text position) == isWordAt unicode text[position]?
  | .wordStart unicode =>
      !isWordAt unicode (charBefore text position) && isWordAt unicode text[position]?
  | .wordEnd unicode =>
      isWordAt unicode (charBefore text position) && !isWordAt unicode text[position]?
  | .wordStartHalf unicode => !isWordAt unicode (charBefore text position)
  | .wordEndHalf unicode => !isWordAt unicode text[position]?

/-- A point from which the search may go on: an instruction, a position and the positions
recorded so far, the latest first. -/
structure Branch where
  instruction : Nat
  position : Nat
  records : List (Nat × Nat)
deriving Repr

/-- The branches that one instruction leads to, the preferred one first; nothing when it
accepts. -/
def Program.step (program : Program) (text : Array Char) (branch : Branch) :
    Option (List Branch) :=
  match program.instructions[branch.instruction]? with
  | none => some []
  | some .accept => none
  | some (.consume members next) =>
      match text[branch.position]? with
      | some character =>
          if members.hasChar character then
            some [{ branch with instruction := next, position := branch.position + 1 }]
          else some []
      | none => some []
  | some (.fork preferred other) =>
      some [{ branch with instruction := preferred }, { branch with instruction := other }]
  | some (.check kind next) =>
      if kind.holds text branch.position then some [{ branch with instruction := next }]
      else some []
  | some (.record slot next) =>
      some [{ branch with
        instruction := next
        records := (slot, branch.position) :: branch.records }]

/-- The number under which a pair of instruction and position is kept. -/
def Branch.mark (branch : Branch) (width : Nat) : Nat :=
  branch.instruction * width + branch.position

/-- Explore branches in order of preference. Pairs that were visited before lead nowhere, for
otherwise the search would have ended there. `fuel` bounds the number of branches. -/
def Program.explore (program : Program) (text : Array Char) :
    Nat → Std.HashSet Nat → List Branch → Option (List (Nat × Nat)) × Std.HashSet Nat
  | 0, visited, _ => (none, visited)
  | _, visited, [] => (none, visited)
  | fuel + 1, visited, branch :: others =>
      let mark := branch.mark (text.size + 1)
      if visited.contains mark then program.explore text fuel visited others
      else
        match program.step text branch with
        | none => (some branch.records, visited)
        | some next => program.explore text fuel (visited.insert mark) (next ++ others)

/-- A bound on the number of branches of a search. -/
def Program.branchBound (program : Program) (text : Array Char) : Nat :=
  2 * (program.instructions.size * (text.size + 1)) + 2

/-- Search from one start after another; `remaining` is the number of starts. -/
def Program.searchFrom (program : Program) (text : Array Char) :
    Nat → Nat → Std.HashSet Nat → Option (List (Nat × Nat))
  | 0, _, _ => none
  | remaining + 1, start, visited =>
      match program.explore text (program.branchBound text) visited
          [⟨program.entry, start, []⟩] with
      | (some records, _) => some records
      | (none, visited) => program.searchFrom text remaining (start + 1) visited

/-- The positions recorded by the leftmost match that starts at `start` or later. -/
def Program.search (program : Program) (text : Array Char) (start : Nat) :
    Option (List (Nat × Nat)) :=
  if text.size < start then none
  else program.searchFrom text (text.size - start + 1) start ∅

end ReleaseRules.Regex
