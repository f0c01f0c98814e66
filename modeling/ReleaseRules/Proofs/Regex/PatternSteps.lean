import ReleaseRules.Regex.Basic

/-!
Contract: reading patterns part by part.

Owns:
- texts that add parts to the branch that is being read, and their sequences;
- characters, with or without a backslash, shorthand classes, repetition marks and groups;
- the pattern of a text that adds parts and nothing else.

Does not own: branches, bracketed classes and flags.

Every group of these texts has a name, so that the number of a group is that of the names so far.
What a repetition mark does depends on the character behind it: a question mark there belongs to it.
A text adds its parts only before something else.
-/

namespace ReleaseRules.Regex.Reading

variable {source further : List Char} {shown others : List Pattern} {names later last : List String}
  {part : Pattern}

/-- The state of reading in front of a text, with the names of the groups so far. -/
def before (names : List String) (text : List Char) : ReaderState :=
  ⟨text, false, names.length, names⟩

/-- Looking at the next character changes nothing. -/
theorem peek_before (names : List String) (text : List Char) :
    peek (before names text) = .ok (text.head?, before names text) :=
  rfl

theorem remaining_eq (state : ReaderState) : remaining state = .ok (state.remaining, state) := rfl

/-- Text that adds parts to the branch that is being read, in front of anything but a question
mark. -/
def Adds (source : List Char) (shown : List Pattern) (names later : List String) : Prop :=
  ∀ (fuel : Nat) (done parts : List Pattern) (rest : List Char), source.length ≤ fuel →
    rest.head? ≠ some '?' →
      ∃ left, fuel ≤ left + source.length ∧
        branches fuel done parts (before names (source ++ rest)) =
          branches left done (shown.reverse ++ parts) (before later rest)

namespace Adds

theorem nil (names : List String) : Adds [] [] names names :=
  fun fuel _ _ _ _ _ => ⟨fuel, Nat.le_refl _, rfl⟩

theorem append (first : Adds source shown names later) (second : Adds further others later last)
    (marked : further.head? ≠ some '?') :
    Adds (source ++ further) (shown ++ others) names last := by
  intro fuel done parts rest enough quiet
  rw [List.length_append] at enough
  have quietBetween : (further ++ rest).head? ≠ some '?' := by
    cases further with
    | nil => exact quiet
    | cons character _ => exact marked
  obtain ⟨left, bound, reads⟩ := first fuel done parts (further ++ rest) (by omega) quietBetween
  obtain ⟨left', bound', readsFurther⟩ := second left done (shown.reverse ++ parts) rest (by omega)
    quiet
  refine ⟨left', ?_, ?_⟩
  · rw [List.length_append]
    omega
  · rw [List.append_assoc, reads, readsFurther, List.reverse_append, List.append_assoc]

/-- Text that is read in one step. -/
theorem of_step (nonempty : source ≠ [])
    (step : ∀ (fuel : Nat) (done parts : List Pattern) (rest : List Char),
      branches (fuel + 1) done parts (before names (source ++ rest)) =
        branches fuel done (part :: parts) (before names rest)) :
    Adds source [part] names names := by
  intro fuel done parts rest enough _
  have positive := List.length_pos_iff.mpr nonempty
  obtain ⟨fuel, rfl⟩ : ∃ less, fuel = less + 1 := ⟨fuel - 1, by omega⟩
  exact ⟨fuel, by omega, step fuel done parts rest⟩

/-! ### Characters -/

theorem escaped {character : Char} (special : isMeta character = true) (names : List String) :
    Adds ['\\', character] [.literal ⟨character, false⟩] names names := by
  refine of_step (by simp) fun fuel done parts rest => ?_
  simp only [isMeta, List.contains_iff_mem, List.mem_cons, List.not_mem_nil, or_false] at special
  rcases special with rfl | rfl | rfl | rfl | rfl | rfl | rfl | rfl | rfl | rfl | rfl | rfl | rfl |
    rfl | rfl | rfl | rfl | rfl <;> rfl

theorem plain {character : Char} (ordinary : isMeta character = false) (names : List String) :
    Adds [character] [.literal ⟨character, false⟩] names names := by
  refine of_step (by simp) fun fuel done parts rest => ?_
  simp only [isMeta, List.contains_eq_mem, List.mem_cons, List.not_mem_nil, or_false,
    decide_eq_false_iff_not, not_or] at ordinary
  have unspaced : skipSpace (before names (character :: rest)) =
      .ok ((), before names (character :: rest)) := rfl
  rw [List.singleton_append, branches]
  simp only [bind, StateT.bind, unspaced, peek_before, List.head?_cons, Except.bind]
  simp_all
  rfl

/-- An escaped text adds its characters. -/
theorem escapeText (character : Char) (names : List String) :
    Adds (Regex.escapeText [character]) [.literal ⟨character, false⟩] names names := by
  cases special : isMeta character with
  | true =>
      simpa [Regex.escapeText, special] using escaped special names
  | false =>
      simpa [Regex.escapeText, special] using plain special names

theorem digit (names : List String) : Adds ['\\', 'd'] [.shorthand .digit false] names names :=
  of_step (by simp) fun _ _ _ _ => rfl

theorem dot (names : List String) : Adds ['.'] [.dot] names names :=
  of_step (by simp) fun _ _ _ _ => rfl

theorem caret (names : List String) : Adds ['^'] [.assertion .caret] names names :=
  of_step (by simp) fun _ _ _ _ => rfl

theorem dollar (names : List String) : Adds ['$'] [.assertion .dollar] names names :=
  of_step (by simp) fun _ _ _ _ => rfl

/-! ### Repetition marks -/

/-- Without a question mark behind it, a repetition is greedy. -/
theorem bind_greed {α : Type} {rest : List Char} (quiet : rest.head? ≠ some '?')
    (next : Bool → Reading α) :
    (greed >>= next) (before names rest) = next true (before names rest) := by
  have unmarked : (rest.head? == some '?') = false := beq_eq_false_iff_ne.mpr quiet
  simp only [greed, bind, StateT.bind, peek_before, Except.bind, unmarked, Bool.false_eq_true,
    if_false]
  rfl

/-- A text behind the part that it repeats. -/
theorem mark {repeated : Pattern} (adds : Adds source [part] names later)
    (marked : further ≠ []) (plain : further.head? ≠ some '?')
    (step : ∀ (fuel : Nat) (done parts : List Pattern) (rest : List Char), rest.head? ≠ some '?' →
      branches (fuel + 1) done (part :: parts) (before later (further ++ rest)) =
        branches fuel done (repeated :: parts) (before later rest)) :
    Adds (source ++ further) [repeated] names later := by
  intro fuel done parts rest enough quiet
  rw [List.length_append] at enough
  have positive := List.length_pos_iff.mpr marked
  have quietBetween : (further ++ rest).head? ≠ some '?' := by
    cases further with
    | nil => exact absurd rfl marked
    | cons character _ => exact plain
  obtain ⟨left, bound, reads⟩ := adds fuel done parts (further ++ rest) (by omega) quietBetween
  obtain ⟨left, rfl⟩ : ∃ less, left = less + 1 := ⟨left - 1, by omega⟩
  refine ⟨left, ?_, ?_⟩
  · rw [List.length_append]
    omega
  · rw [List.append_assoc, reads]
    exact step left done parts rest quiet

/-- A flag item is no part that can be repeated. -/
theorem bind_operand {α : Type} (operates : ∀ changes, part ≠ .flags changes)
    (parts : List Pattern) (next : Pattern × List Pattern → Reading α) (state : ReaderState) :
    (operand (part :: parts) >>= next) state = next (part, parts) state := by
  cases part with
  | flags changes => exact absurd rfl (operates changes)
  | _ => rfl

theorem plus (adds : Adds source [part] names later) (operates : ∀ changes, part ≠ .flags changes) :
    Adds (source ++ ['+']) [.repetition part 1 none true] names later := by
  refine adds.mark (by simp) (by simp) fun fuel done parts rest quiet => ?_
  have step : branches (fuel + 1) done (part :: parts) (before later ('+' :: rest)) =
      (do
        let operands ← operand (part :: parts)
        advance
        let greedy ← greed
        branches fuel done (.repetition operands.1 1 none greedy :: operands.2))
          (before later ('+' :: rest)) := rfl
  rw [List.singleton_append, step, bind_operand operates]
  exact bind_greed quiet fun greedy => branches fuel done (.repetition part 1 none greedy :: parts)

theorem lazyPlus (adds : Adds source [part] names later)
    (operates : ∀ changes, part ≠ .flags changes) :
    Adds (source ++ ['+', '?']) [.repetition part 1 none false] names later := by
  refine adds.mark (by simp) (by simp) fun fuel done parts rest _ => ?_
  have step : branches (fuel + 1) done (part :: parts) (before later ('+' :: '?' :: rest)) =
      (do
        let operands ← operand (part :: parts)
        advance
        let greedy ← greed
        branches fuel done (.repetition operands.1 1 none greedy :: operands.2))
          (before later ('+' :: '?' :: rest)) := rfl
  rw [List.cons_append, List.singleton_append, step, bind_operand operates]
  rfl

theorem upToTwo (adds : Adds source [part] names later)
    (operates : ∀ changes, part ≠ .flags changes) :
    Adds (source ++ "\x7b0,2\x7d".toList) [.repetition part 0 (some 2) true] names later := by
  refine adds.mark (by simp) (by simp) fun fuel done parts rest quiet => ?_
  have step : branches (fuel + 1) done (part :: parts)
      (before later ('\x7b' :: '0' :: ',' :: '2' :: '\x7d' :: rest)) =
      (do
        let operands ← operand (part :: parts)
        let bounds ← countedBounds
        let greedy ← greed
        branches fuel done (.repetition operands.1 bounds.1 bounds.2 greedy :: operands.2))
          (before later ('\x7b' :: '0' :: ',' :: '2' :: '\x7d' :: rest)) := rfl
  change branches (fuel + 1) done (part :: parts)
      (before later ('\x7b' :: '0' :: ',' :: '2' :: '\x7d' :: rest)) = _
  rw [step, bind_operand operates]
  exact bind_greed quiet fun greedy =>
    branches fuel done (.repetition part 0 (some 2) greedy :: parts)

/-! ### Groups -/

/-- What stands up to the parenthesis of a group is its body. -/
theorem enclosed_eq (adds : Adds source shown names later) {fuel : Nat}
    (enough : source.length + 2 ≤ fuel) (rest : List Char) :
    enclosed fuel [] (before names (source ++ ')' :: rest)) =
      .ok (Pattern.ofParts shown, before later rest) := by
  obtain ⟨fuel, rfl⟩ : ∃ less, fuel = less + 1 := ⟨fuel - 1, by omega⟩
  obtain ⟨left, bound, reads⟩ := adds fuel [] [] (')' :: rest) (by omega) (by simp)
  obtain ⟨left, rfl⟩ : ∃ less, left = less + 1 := ⟨left - 1, by omega⟩
  have ends : branches (left + 1) [] (shown.reverse ++ []) (before later (')' :: rest)) =
      .ok (Pattern.ofParts (shown.reverse ++ []).reverse, before later (')' :: rest)) := rfl
  rw [ends, List.append_nil, List.reverse_reverse] at reads
  have step : enclosed (fuel + 1) [] (before names (source ++ ')' :: rest)) =
      (do
        let body ← branches fuel [] []
        if (← peek) ≠ some ')' then throw PatternError.unclosedGroup
        modify fun state : ReaderState => { state with extended := false }
        advance
        return body : Reading Pattern) (before names (source ++ ')' :: rest)) := rfl
  rw [step]
  simp only [bind, StateT.bind, reads, Except.bind]
  rfl

/-- A text that is read as a group: a parenthesis with a mark behind it, the body and a closing
parenthesis. -/
theorem of_group {opening : List Char} (isMarked : 2 ≤ opening.length)
    (opens : ∀ (fuel : Nat) (rest : List Char), source.length + 3 ≤ fuel →
      group fuel (before names ('(' :: (opening ++ (source ++ ')' :: rest)))) =
        .ok (part, before later rest)) :
    Adds ('(' :: (opening ++ (source ++ [')']))) [part] names later := by
  intro fuel done parts rest enough _
  simp only [List.length_cons, List.length_append, List.length_nil] at enough
  obtain ⟨fuel, rfl⟩ : ∃ less, fuel = less + 1 := ⟨fuel - 1, by omega⟩
  refine ⟨fuel, by simp only [List.length_cons]; omega, ?_⟩
  have step : ∀ text, branches (fuel + 1) done parts (before names ('(' :: text)) =
      (do
        let part ← group fuel
        branches fuel done (part :: parts)) (before names ('(' :: text)) := fun _ => rfl
  rw [List.cons_append, List.append_assoc, List.append_assoc, List.singleton_append, step]
  simp only [bind, StateT.bind, opens fuel rest (by omega), Except.bind]
  rfl

theorem unnamedGroup (adds : Adds source shown names later) :
    Adds ("(?:".toList ++ (source ++ [')'])) [.group [] (Pattern.ofParts shown)] names later := by
  refine of_group (show 2 ≤ ['?', ':'].length from Nat.le_refl 2) fun fuel rest enough => ?_
  obtain ⟨fuel, rfl⟩ : ∃ less, fuel = less + 1 := ⟨fuel - 1, by omega⟩
  have step : group (fuel + 1) (before names ('(' :: '?' :: ':' :: (source ++ ')' :: rest))) =
      (do
        let body ← enclosed fuel []
        return .group [] body : Reading Pattern) (before names (source ++ ')' :: rest)) := rfl
  refine step.trans ?_
  simp only [bind, StateT.bind, adds.enclosed_eq (show source.length + 2 ≤ fuel by omega),
    Except.bind]
  rfl

end Adds

/-! ### Named groups -/

/-- Whether a text can name a group. -/
def isGroupName : List Char → Bool
  | [] => false
  | first :: others => isNameCharacter true first && others.all (isNameCharacter false)

theorem ne_of_isGroupName {name : List Char} (valid : isGroupName name = true) :
    ∀ character ∈ name, character ≠ '>' := by
  have notFirst : isNameCharacter true '>' = false := by decide
  have notLater : isNameCharacter false '>' = false := by decide
  cases name with
  | nil => cases valid
  | cons first others =>
      obtain ⟨validFirst, validOthers⟩ := (Bool.and_eq_true _ _).mp valid
      rintro character (_ | ⟨_, later⟩) rfl
      · rw [notFirst] at validFirst
        cases validFirst
      · have isValid := List.all_eq_true.mp validOthers _ later
        rw [notLater] at isValid
        cases isValid

/-- A group name that is new. -/
theorem groupName_eq {name : List Char} (valid : isGroupName name = true)
    (new : String.ofList name ∉ names) (count : Nat) (rest : List Char) :
    groupName ⟨name ++ '>' :: rest, false, count, names⟩ =
      .ok (String.ofList name, ⟨rest, false, count, String.ofList name :: names⟩) := by
  have taken : (name ++ '>' :: rest).takeWhile (· ≠ '>') = name := by
    rw [List.takeWhile_append_of_pos (by simpa using ne_of_isGroupName valid)]
    simp
  have dropped : (name ++ '>' :: rest).dropWhile (· ≠ '>') = '>' :: rest := by
    rw [List.dropWhile_append_of_pos (by simpa using ne_of_isGroupName valid)]
    simp
  cases name with
  | nil => cases valid
  | cons first others =>
      have fresh : names.contains (String.ofList (first :: others)) = false := by
        simpa using new
      rw [isGroupName] at valid
      have state : ∀ state : ReaderState, (get : Reading ReaderState) state = .ok (state, state) :=
        fun _ => rfl
      simp only [groupName, remaining_eq, state, bind, StateT.bind, Except.bind, taken, dropped,
        List.isEmpty_cons, valid, fresh, Bool.false_eq_true, if_false, if_true]
      rfl

theorem Adds.namedGroup {name : List Char} (valid : isGroupName name = true)
    (new : String.ofList name ∉ names)
    (adds : Adds source shown (String.ofList name :: names) later) :
    Adds ('(' :: ("?P<".toList ++ name ++ ['>'] ++ (source ++ [')'])))
      [.capture (names.length + 1) (some (String.ofList name)) (Pattern.ofParts shown)] names
      later := by
  refine .of_group (by simp) fun fuel rest enough => ?_
  obtain ⟨fuel, rfl⟩ : ∃ less, fuel = less + 1 := ⟨fuel - 1, by omega⟩
  have step : ∀ text, group (fuel + 1) (before names ('(' :: '?' :: 'P' :: '<' :: text)) =
      (do
        let name ← groupName
        let body ← enclosed fuel []
        return .capture (names.length + 1) (some name) body : Reading Pattern)
          ⟨text, false, names.length + 1, names⟩ := fun _ => rfl
  have here : "?P<".toList ++ name ++ ['>'] ++ (source ++ ')' :: rest) =
      '?' :: 'P' :: '<' :: (name ++ '>' :: (source ++ ')' :: rest)) := by
    simp
  rw [here, step]
  have inner : enclosed fuel [] ⟨source ++ ')' :: rest, false, names.length + 1,
      String.ofList name :: names⟩ = .ok (Pattern.ofParts shown, before later rest) :=
    adds.enclosed_eq (by omega) rest
  simp only [bind, StateT.bind, groupName_eq valid new, Except.bind, inner]
  rfl

/-! ## Whole patterns -/

/-- A text that adds parts and nothing else is the pattern of these parts. -/
theorem readPattern_eq (adds : Adds source shown [] later)
    (flat : (Pattern.ofParts shown).depth ≤ nestingLimit) :
    readPattern source = .ok ⟨Pattern.ofParts shown, later.length⟩ := by
  obtain ⟨left, bound, reads⟩ := adds (2 * source.length + 2) [] [] [] (by omega) (by simp)
  obtain ⟨left, rfl⟩ : ∃ less, left = less + 1 := ⟨left - 1, by omega⟩
  have ends : branches (left + 1) [] (shown.reverse ++ []) (before later []) =
      .ok (Pattern.ofParts (shown.reverse ++ []).reverse, before later []) := rfl
  rw [ends, List.append_nil, List.append_nil, List.reverse_reverse] at reads
  have reading : (do
      let pattern ← branches (2 * source.length + 2) [] []
      if (← peek).isSome then throw PatternError.unopenedGroup
      return pattern : Reading Pattern).run (before [] source) =
        .ok (Pattern.ofParts shown, before later []) := by
    simp only [StateT.run, bind, StateT.bind, reads, Except.bind]
    rfl
  have step : readPattern source = ((do
      let pattern ← branches (2 * source.length + 2) [] []
      if (← peek).isSome then throw PatternError.unopenedGroup
      return pattern : Reading Pattern).run (before [] source)).bind fun read =>
        if nestingLimit < read.1.depth then .error .nestingTooDeep
        else .ok ⟨read.1, read.2.groupCount⟩ := by
    unfold readPattern
    rfl
  rw [step, reading]
  exact if_neg (Nat.not_lt.mpr flat)

end ReleaseRules.Regex.Reading
