import Mathlib.Tactic.IntervalCases
import ReleaseRules.Proofs.Regex.Matches
import ReleaseRules.Proofs.Version.Grammar
import ReleaseRules.Rules.VersionPattern

/-!
Contract: the placeholder pattern that is a version and nothing else.

Owns:
- its regular expression;
- whatever it matches, it captures the whole value;
- it matches every written version.

Does not own: patterns with other text around the version.
-/

namespace ReleaseRules.VersionPattern

open Regex (Program Branch Span Match)
open Unicode (IntervalSet decimalDigits)
open Version (isWritten isWrittenComponent)
open Relation (ReflTransGen)

/-- The program of a version between the ends of a text. It is built from its end on: the digits
before the first dot are read at 13 and 12, the optional rounds of a dot and digits at 11 to 8
and at 7 to 4. -/
def versionProgram : Program where
  instructions := #[
    .accept, .record 1 0, .check .textEnd 1, .record 3 2,
    .fork 5 3, .consume decimalDigits 4, .consume (IntervalSet.singleton 46) 5, .fork 6 3,
    .fork 9 7, .consume decimalDigits 8, .consume (IntervalSet.singleton 46) 9, .fork 10 3,
    .fork 13 11, .consume decimalDigits 12,
    .record 2 13, .check .textStart 14, .record 0 15]
  entry := 16

/-- The regular expression of a version between the ends of a text. -/
def versionRegex : Regex := ⟨versionProgram, [none, some versionGroup]⟩

theorem compile_version : compile "\x7bversion\x7d".toList = .ok versionRegex := rfl

/-! ## What a match captures -/

section Captures

variable {text : Array Char}

/-- What the program has recorded at each instruction, in a text of a size. -/
def HasRecorded (size : Nat) (branch : Branch) : Prop :=
  match branch.instruction with
  | 16 => branch.records = []
  | 15 => branch.records = [(0, branch.position)]
  | 14 => branch.position = 0 ∧ branch.records = [(0, 0)]
  | 2 => branch.records = [(3, branch.position), (2, 0), (0, 0)]
  | 1 => branch.position = size ∧ branch.records = [(3, size), (2, 0), (0, 0)]
  | 0 => branch.records = [(1, size), (3, size), (2, 0), (0, 0)]
  | _ => branch.records = [(2, 0), (0, 0)]

theorem HasRecorded.move {branch next : Branch} (recorded : HasRecorded text.size branch)
    (moves : versionProgram.Moves text branch next) : HasRecorded text.size next := by
  obtain ⟨nexts, taken, member⟩ := Program.exists_mem_step_of_moves moves
  obtain ⟨instruction, position, records⟩ := branch
  have inRange : instruction < 17 := by
    by_contra outside
    have nowhere : versionProgram.step text ⟨instruction, position, records⟩ = some [] :=
      Program.step_of_outOfRange (Nat.le_of_not_lt outside)
    obtain rfl := Option.some.inj (taken.symm.trans nowhere)
    cases member
  interval_cases instruction <;>
    simp [Program.step, versionProgram, HasRecorded, Regex.Assertion.holds] at taken recorded <;>
    grind [HasRecorded]

theorem HasRecorded.run {branch last : Branch} (recorded : HasRecorded text.size branch)
    (moves : ReflTransGen (versionProgram.Moves text) branch last) :
    HasRecorded text.size last := by
  induction moves with
  | refl => exact recorded
  | tail _ move inductionHypothesis => exact inductionHypothesis.move move

theorem isFramed_versionProgram : versionProgram.instructions.IsFramed := by
  have compiled : Regex.compile (placeholderSource "\x7bversion\x7d".toList) = .ok versionRegex :=
    rfl
  obtain ⟨expression, isProgram⟩ := Regex.isCompiled_of_compile compiled
  change versionRegex.program.instructions.IsFramed
  rw [isProgram]
  exact (Program.isFramed_ofExpression expression).2

/-- Whatever matches, the whole match and the version are the whole text. -/
theorem records_of_search {start : Nat} {records : List (Nat × Nat)}
    (found : versionProgram.search text start = some records) :
    records = [(1, text.size), (3, text.size), (2, 0), (0, 0)] := by
  obtain ⟨first, last, -, -, moves, accepts, rfl⟩ := Program.moves_of_search found
  have begins : HasRecorded text.size ⟨16, first, []⟩ := rfl
  have recorded := begins.run moves
  rw [HasRecorded, Program.instruction_eq_zero_of_accepts isFramed_versionProgram accepts]
    at recorded
  exact recorded

end Captures

/-! ## Written versions match -/

section Written

variable {text : List Char}

theorem hasChar_decimalDigits {digit : Char} (decimal : Number.isDecimalDigit digit = true) :
    decimalDigits.hasChar digit = true := by
  obtain ⟨lower, upper⟩ := Number.toNat_of_isDecimalDigit decimal
  rw [IntervalSet.hasChar, IntervalSet.contains, decimalDigits, IntervalSet.containsSorted,
    if_neg (Nat.not_lt.mpr lower), if_pos upper]

theorem getElem?_of_append {before after : List Char} {character : Char}
    (shape : text = before ++ character :: after) :
    text.toArray[before.length]? = some character := by
  simp [shape]

/-- Digits are read in a loop, which is left behind the last one. -/
theorem digits_run {place loop leave : Nat} (before piece after : List Char)
    (records : List (Nat × Nat))
    (consumes : versionProgram.instructions[place]? = some (.consume decimalDigits loop))
    (forks : versionProgram.instructions[loop]? = some (.fork place leave))
    (written : isWrittenComponent piece = true) (shape : text = before ++ (piece ++ after)) :
    ReflTransGen (versionProgram.Moves text.toArray) ⟨place, before.length, records⟩
      ⟨leave, (before ++ piece).length, records⟩ := by
  simp only [isWrittenComponent, Bool.and_eq_true, Bool.not_eq_true', List.isEmpty_eq_false_iff,
    List.all_eq_true] at written
  obtain ⟨⟨nonempty, decimal⟩, -⟩ := written
  induction piece generalizing before with
  | nil => exact absurd rfl nonempty
  | cons digit rest inductionHypothesis =>
      have read : versionProgram.Moves text.toArray ⟨place, before.length, records⟩
          ⟨loop, before.length + 1, records⟩ :=
        .consume consumes (getElem?_of_append shape)
          (hasChar_decimalDigits (decimal digit List.mem_cons_self))
      refine .head read ?_
      cases rest with
      | nil =>
          rw [List.length_append]
          exact .single (.giveUp forks)
      | cons next others =>
          have again : versionProgram.Moves text.toArray ⟨loop, before.length + 1, records⟩
              ⟨place, before.length + 1, records⟩ := .prefer forks
          have later := inductionHypothesis (before ++ [digit]) (by simp [shape])
            (List.cons_ne_nil _ _) fun other member => decimal other (List.mem_cons_of_mem _ member)
          refine .head again ?_
          simpa using later

/-- One more component: a dot and digits, for those who choose to go on. -/
theorem component_run {choice dot place loop leave : Nat} (before piece after : List Char)
    (records : List (Nat × Nat))
    (chooses : versionProgram.instructions[choice]? = some (.fork dot 3))
    (dots : versionProgram.instructions[dot]? = some (.consume (IntervalSet.singleton 46) place))
    (consumes : versionProgram.instructions[place]? = some (.consume decimalDigits loop))
    (forks : versionProgram.instructions[loop]? = some (.fork place leave))
    (written : isWrittenComponent piece = true) (shape : text = before ++ '.' :: (piece ++ after)) :
    ReflTransGen (versionProgram.Moves text.toArray) ⟨choice, before.length, records⟩
      ⟨leave, (before ++ '.' :: piece).length, records⟩ := by
  have chosen : versionProgram.Moves text.toArray ⟨choice, before.length, records⟩
      ⟨dot, before.length, records⟩ := .prefer chooses
  have read : versionProgram.Moves text.toArray ⟨dot, before.length, records⟩
      ⟨place, before.length + 1, records⟩ := .consume dots (getElem?_of_append shape) (by decide)
  have split : text = (before ++ ['.']) ++ (piece ++ after) := by simp [shape]
  have digits := digits_run (before ++ ['.']) piece after records consumes forks written split
  refine .head chosen (.head read ?_)
  simpa using digits

/-- The other components of a written version lead from the first choice to the end. -/
theorem components_run (before : List Char) (pieces : List (List Char))
    (records : List (Nat × Nat)) (few : pieces.length ≤ 2)
    (written : pieces.all isWrittenComponent = true)
    (shape : text = before ++ pieces.flatMap ('.' :: ·)) :
    ReflTransGen (versionProgram.Moves text.toArray) ⟨11, before.length, records⟩
      ⟨3, text.length, records⟩ := by
  have leave : ∀ (choice dot position : Nat),
      versionProgram.instructions[choice]? = some (.fork dot 3) →
      versionProgram.Moves text.toArray ⟨choice, position, records⟩ ⟨3, position, records⟩ :=
    fun _ _ _ chooses => .giveUp chooses
  match pieces with
  | [] =>
      obtain rfl : text = before := by simpa using shape
      exact .single (leave 11 10 _ rfl)
  | [second] =>
      simp only [List.all_cons, List.all_nil, Bool.and_true] at written
      have split : text = before ++ '.' :: (second ++ []) := by simpa using shape
      have run : ReflTransGen (versionProgram.Moves text.toArray) ⟨11, before.length, records⟩
          ⟨7, (before ++ '.' :: second).length, records⟩ :=
        component_run before second [] records rfl rfl rfl rfl written split
      obtain rfl : text = before ++ '.' :: second := by simpa using shape
      exact run.tail (leave 7 6 _ rfl)
  | [second, third] =>
      simp only [List.all_cons, List.all_nil, Bool.and_true, Bool.and_eq_true] at written
      have split : text = before ++ '.' :: (second ++ '.' :: third) := by simpa using shape
      have first : ReflTransGen (versionProgram.Moves text.toArray) ⟨11, before.length, records⟩
          ⟨7, (before ++ '.' :: second).length, records⟩ :=
        component_run before second ('.' :: third) records rfl rfl rfl rfl written.1 split
      have splitNext : text = (before ++ '.' :: second) ++ '.' :: (third ++ []) := by
        simpa using shape
      have next : ReflTransGen (versionProgram.Moves text.toArray)
          ⟨7, (before ++ '.' :: second).length, records⟩
          ⟨3, (before ++ '.' :: second ++ '.' :: third).length, records⟩ :=
        component_run (before ++ '.' :: second) third [] records rfl rfl rfl rfl written.2 splitNext
      obtain rfl : text = before ++ '.' :: second ++ '.' :: third := by simpa using shape
      exact first.trans next
  | _ :: _ :: _ :: _ => simp at few

/-- The match of a whole text of some length: the version is all of it. -/
def wholeMatch (length : Nat) : Match :=
  ⟨⟨0, length⟩, [some ⟨0, length⟩, some ⟨0, length⟩]⟩

theorem named_wholeMatch (length : Nat) :
    (wholeMatch length).named versionRegex versionGroup = some ⟨0, length⟩ := rfl

/-- **Extraction.** In a written version, the pattern finds the version, and it is the whole
text. -/
theorem find_of_isWritten (written : isWritten text = true) :
    versionRegex.find text.toArray 0 = some (wholeMatch text.length) := by
  obtain ⟨first, others, split⟩ := Text.splitAt_cons '.' text
  have shape := Text.eq_append_of_splitAt split
  simp only [isWritten, split, List.length_cons, List.all_cons, Bool.and_eq_true,
    decide_eq_true_eq] at written
  obtain ⟨few, firstWritten, othersWritten⟩ := written
  have begins : ReflTransGen (versionProgram.Moves text.toArray) ⟨16, 0, []⟩
      ⟨13, 0, [(2, 0), (0, 0)]⟩ :=
    .head (.record rfl) (.head (.check rfl rfl) (.single (.record rfl)))
  have digits : ReflTransGen (versionProgram.Moves text.toArray) ⟨13, 0, [(2, 0), (0, 0)]⟩
      ⟨11, first.length, [(2, 0), (0, 0)]⟩ :=
    digits_run [] first (others.flatMap ('.' :: ·)) [(2, 0), (0, 0)] rfl rfl firstWritten shape
  have components := components_run first others [(2, 0), (0, 0)] (by omega) othersWritten shape
  have ends : ReflTransGen (versionProgram.Moves text.toArray)
      ⟨3, text.length, [(2, 0), (0, 0)]⟩
      ⟨0, text.length, [(1, text.length), (3, text.length), (2, 0), (0, 0)]⟩ := by
    refine .head (.record rfl) (.head (.check rfl ?_) (.single (.record rfl)))
    simp [Regex.Assertion.holds]
  have accepted : (versionProgram.search text.toArray 0).isSome = true :=
    Program.search_isSome_of_moves (Nat.le_refl 0) (Nat.zero_le _)
      (begins.trans (digits.trans (components.trans ends))) rfl
  obtain ⟨records, found⟩ := Option.isSome_iff_exists.mp accepted
  obtain rfl := records_of_search found
  have program : versionRegex.program = versionProgram := rfl
  rw [Regex.find, program, found]
  rfl

end Written

end ReleaseRules.VersionPattern
