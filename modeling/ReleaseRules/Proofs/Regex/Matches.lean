import ReleaseRules.Proofs.Regex.Framing
import ReleaseRules.Regex.Basic

/-!
Contract: where the matches of a compiled regular expression stand.

Owns:
- one match: it lies in the text, not before the start of its search;
- all matches: they follow each other without overlap;
- that the matches of a text are all that there are: none is left out at the end.

Does not own: which texts match, and the spans of single groups.
-/

namespace ReleaseRules.Regex

/-- Spans follow each other from a position on, without overlap and within a size. -/
def Follow (size : Nat) : Nat → List Span → Prop
  | position, [] => position ≤ size
  | position, span :: rest =>
      position ≤ span.start ∧ span.start ≤ span.stop ∧ Follow size span.stop rest

theorem Follow.position_le {size position : Nat} {spans : List Span}
    (follow : Follow size position spans) : position ≤ size := by
  induction spans generalizing position with
  | nil => exact follow
  | cons span rest inductionHypothesis =>
      exact (follow.1.trans follow.2.1).trans (inductionHypothesis follow.2.2)

theorem Follow.of_le {size position before : Nat} {spans : List Span}
    (follow : Follow size position spans) (earlier : before ≤ position) :
    Follow size before spans := by
  cases spans with
  | nil => exact earlier.trans follow
  | cons span rest => exact ⟨earlier.trans follow.1, follow.2⟩

theorem mem_of_lookup {records : List (Nat × Nat)} {slot position : Nat}
    (found : records.lookup slot = some position) : (slot, position) ∈ records := by
  obtain ⟨before, after, rfl, -⟩ := List.lookup_eq_some_iff.mp found
  exact List.mem_append_right _ List.mem_cons_self

/-- A regular expression whose program is that of an expression, as every compiled one is. -/
def IsCompiled (regex : Regex) : Prop :=
  ∃ expression, regex.program = Program.ofExpression expression

theorem isCompiled_of_compile {pattern : List Char} {regex : Regex}
    (compiled : compile pattern = .ok regex) : regex.IsCompiled := by
  simp only [compile, bind, Except.bind, pure, Except.pure] at compiled
  split at compiled
  · cases compiled
  · split at compiled
    · cases compiled
    · rename_i expression _
      exact ⟨expression, congrArg program (Except.ok.inj compiled).symm⟩

variable {regex : Regex} {text : Array Char}

theorem bounds_of_find (compiled : regex.IsCompiled) {start : Nat} {found : Match}
    (result : regex.find text start = some found) :
    start ≤ found.whole.start ∧ found.whole.start ≤ found.whole.stop ∧
      found.whole.stop ≤ text.size := by
  obtain ⟨expression, isProgram⟩ := compiled
  obtain ⟨entryInner, framed⟩ := Program.isFramed_ofExpression expression
  rw [← isProgram] at entryInner framed
  obtain ⟨records, recorded, matched⟩ := Option.bind_eq_some_iff.mp result
  obtain ⟨whole, isWhole, rfl⟩ := Option.map_eq_some_iff.mp matched
  obtain ⟨stop, startsAt, inside, head, between⟩ :=
    Program.placed_of_search framed entryInner recorded
  obtain ⟨records, rfl⟩ : ∃ rest, records = (1, stop) :: rest := by
    cases records with
    | nil => cases head
    | cons record rest => exact ⟨rest, congrArg (· :: rest) (Option.some.inj head)⟩
  -- The end of the whole match is the latest record, and its start is some record.
  simp only [groupSpan, bind, Option.bind_eq_some_iff, pure, Option.some.injEq] at isWhole
  obtain ⟨last, lastFound, first, firstFound, rfl⟩ := isWhole
  obtain rfl : stop = last := Option.some.inj lastFound
  obtain ⟨later, notBehind⟩ := between _ (mem_of_lookup firstFound)
  exact ⟨later, notBehind, inside⟩

theorem bounds_of_findAfter (compiled : regex.IsCompiled) {last : Option Nat} {start : Nat}
    {found : Match} (result : regex.findAfter text last start = some found) :
    start ≤ found.whole.start ∧ found.whole.start ≤ found.whole.stop ∧
      found.whole.stop ≤ text.size := by
  unfold findAfter at result
  split at result
  · cases result
  · rename_i first firstFound
    split at result
    · obtain ⟨later, rest⟩ := bounds_of_find compiled result
      exact ⟨Nat.le_of_succ_le later, rest⟩
    · obtain rfl := Option.some.inj result
      exact bounds_of_find compiled firstFound

theorem follow_matchesFrom (compiled : regex.IsCompiled) (fuel : Nat) (last : Option Nat)
    {start : Nat} (inside : start ≤ text.size) :
    Follow text.size start ((regex.matchesFrom text fuel last start).map Match.whole) := by
  induction fuel generalizing last start with
  | zero => exact inside
  | succ fuel inductionHypothesis =>
      rw [matchesFrom]
      cases result : regex.findAfter text last start with
      | none => exact inside
      | some found =>
          obtain ⟨later, ordered, within⟩ := bounds_of_findAfter compiled result
          exact ⟨later, ordered, inductionHypothesis _ within⟩

/-- All matches of a compiled regular expression follow each other in the text. -/
theorem follow_allMatches (compiled : regex.IsCompiled) (text : Array Char) :
    Follow text.size 0 ((regex.allMatches text).map Match.whole) :=
  follow_matchesFrom compiled _ none (Nat.zero_le _)

/-! ## All matches -/

/-- The matches that a text yields from a position on: each is the first one after the one before,
and behind the last one there is none. -/
inductive Yields (regex : Regex) (text : Array Char) : Option Nat → Nat → List Match → Prop where
  | done {last : Option Nat} {start : Nat} (none : regex.findAfter text last start = none) :
      Yields regex text last start []
  | next {last : Option Nat} {start : Nat} {found : Match} {rest : List Match}
      (first : regex.findAfter text last start = some found)
      (later : Yields regex text (some found.whole.stop) found.whole.stop rest) :
      Yields regex text last start (found :: rest)

/-- A text yields one list of matches only. -/
theorem Yields.unique {last : Option Nat} {start : Nat} {all others : List Match}
    (yields : regex.Yields text last start all)
    (yieldsOthers : regex.Yields text last start others) : all = others := by
  induction yields generalizing others with
  | done none =>
      cases yieldsOthers with
      | done => rfl
      | next first later => cases none.symm.trans first
  | next first later inductionHypothesis =>
      cases yieldsOthers with
      | done none => cases first.symm.trans none
      | next firstOther laterOther =>
          obtain rfl := Option.some.inj (first.symm.trans firstOther)
          rw [inductionHypothesis laterOther]

/-- A bound on the number of matches that start at a position or later. At each position one of
them can be empty, unless a match has just ended there. -/
def matchBound (size : Nat) (last : Option Nat) (start : Nat) : Nat :=
  2 * (size - start) + if last = some start then 0 else 1

/-- Each match leaves room for fewer. -/
theorem matchBound_lt_of_findAfter (compiled : regex.IsCompiled) {last : Option Nat} {start : Nat}
    {found : Match} (result : regex.findAfter text last start = some found) :
    matchBound text.size (some found.whole.stop) found.whole.stop <
      matchBound text.size last start := by
  obtain ⟨later, ordered, within⟩ := bounds_of_findAfter compiled result
  have fresh : found.whole.stop = start → last ≠ some start := by
    intro atStart isLast
    unfold findAfter at result
    split at result
    · cases result
    · split at result
      · -- The search went on behind the start.
        have behind := (bounds_of_find compiled result).1
        omega
      · rename_i first _ keeps
        obtain rfl := Option.some.inj result
        exact keeps ⟨by omega, atStart ▸ isLast⟩
  rw [matchBound, matchBound, if_pos rfl]
  by_cases atStart : found.whole.stop = start
  · rw [if_neg (fresh atStart)]
    omega
  · omega

theorem yields_matchesFrom (compiled : regex.IsCompiled) {fuel : Nat} {last : Option Nat}
    {start : Nat} (enough : matchBound text.size last start < fuel) :
    regex.Yields text last start (regex.matchesFrom text fuel last start) := by
  induction fuel generalizing last start with
  | zero => exact absurd enough (Nat.not_lt_zero _)
  | succ fuel inductionHypothesis =>
      rw [matchesFrom]
      cases result : regex.findAfter text last start with
      | none => exact .done result
      | some found =>
          have fewer := matchBound_lt_of_findAfter compiled result
          exact .next result
            (inductionHypothesis (Nat.lt_of_lt_of_le fewer (Nat.le_of_lt_succ enough)))

/-- The matches of a compiled regular expression are all matches that the text yields. -/
theorem yields_allMatches (compiled : regex.IsCompiled) (text : Array Char) :
    regex.Yields text none 0 (regex.allMatches text) := by
  apply yields_matchesFrom compiled
  rw [matchBound, if_neg (by simp)]
  omega

end ReleaseRules.Regex
