import ReleaseRules.Proofs.Regex.Preference
import ReleaseRules.Proofs.Text.CharacterSets
import ReleaseRules.Proofs.Version.FirstVersion

/-!
Contract: the pattern for the first version anywhere in a value.

Owns:
- its regular expression;
- in every text it finds the first version, and captures all of it.

Does not own: what is written in the place of the version.

The pattern is greedy in its digits and in its components. What it has read it never gives back, for
nothing has to follow.
-/

namespace ReleaseRules.VersionPattern

open Regex (Program Branch Span Match)
open Unicode (IntervalSet decimalDigits)

/-- The program of a version anywhere in a text. It is built from its end on: the digits before the
first dot are read at 12 and 11, the optional rounds of a dot and digits at 10 to 7 and at 6 to 3.
-/
def anywhereProgram : Program where
  instructions := #[
    .accept, .record 1 0, .record 3 1,
    .fork 4 2, .consume decimalDigits 3, .consume (IntervalSet.singleton 46) 4, .fork 5 2,
    .fork 8 6, .consume decimalDigits 7, .consume (IntervalSet.singleton 46) 8, .fork 9 2,
    .fork 12 10, .consume decimalDigits 11,
    .record 2 12, .record 0 13]
  entry := 14

/-- The regular expression of a version anywhere in a text. -/
def anywhereRegex : Regex := ⟨anywhereProgram, [none, some versionGroup]⟩

theorem compile_anywhere : compile anywhere.toList = .ok anywhereRegex := rfl

/-- The span of the version of a cut. -/
def Cut.span (cut : Cut) : Span := ⟨cut.before.length, cut.before.length + cut.version.length⟩

section Parts

variable {text : List Char} {cut : Cut}

theorem characters_span (found : firstVersion? text = some cut) :
    cut.span.characters text.toArray = cut.version := by
  rw [text_of_firstVersion? found]
  simp [Span.characters, Cut.span]

theorem characters_before (found : firstVersion? text = some cut) :
    (text.toArray.extract 0 cut.span.start).toList = cut.before := by
  rw [text_of_firstVersion? found]
  simp [Cut.span]

theorem characters_behind (found : firstVersion? text = some cut) :
    (text.toArray.extract cut.span.stop text.toArray.size).toList = cut.behind := by
  have passed : cut.before.drop (cut.before.length + cut.version.length) = [] :=
    List.drop_eq_nil_of_le (Nat.le_add_right _ _)
  rw [text_of_firstVersion? found]
  simp [Cut.span, List.drop_append, passed]
  omega

end Parts

/-- What the program records on the way to the end of a version: the whole match is the version. -/
def Cut.records (cut : Cut) : List (Nat × Nat) :=
  [(1, cut.span.stop), (3, cut.span.stop), (2, cut.span.start), (0, cut.span.start)]

/-- The match of a cut: the version is all of it. -/
def Cut.match (cut : Cut) : Match := ⟨cut.span, [some cut.span, some cut.span]⟩

theorem named_match (cut : Cut) : cut.match.named anywhereRegex versionGroup = some cut.span := rfl

section Search

theorem getElem?_length_append (before rest : List Char) :
    (before ++ rest).toArray[before.length]? = rest.head? := by
  simp [List.getElem?_append_right (Nat.le_refl _), List.head?_eq_getElem?]

variable {text : List Char} {records : List (Nat × Nat)} {last : Branch}

/-- Where no digit stands, digits cannot be read. -/
theorem fails_at_digits {place loop : Nat} (before rest : List Char)
    (consumes : anywhereProgram.instructions[place]? = some (.consume decimalDigits loop))
    (stops : rest.head?.any isAnyDigit = false) (shape : text = before ++ rest) :
    anywhereProgram.Fails text.toArray ⟨place, before.length, records⟩ := by
  apply Program.Fails.of_unread consumes
  rw [shape, getElem?_length_append]
  exact stops

/-- Digits are read in a loop, which is left behind the last one. -/
theorem digits_prefers {place loop leave : Nat} (before digits rest : List Char)
    (consumes : anywhereProgram.instructions[place]? = some (.consume decimalDigits loop))
    (forks : anywhereProgram.instructions[loop]? = some (.fork place leave))
    (run : IsRun digits rest) (shape : text = before ++ (digits ++ rest))
    (later : anywhereProgram.Prefers text.toArray
      ⟨leave, (before ++ digits).length, records⟩ last) :
    anywhereProgram.Prefers text.toArray ⟨place, before.length, records⟩ last := by
  obtain ⟨nonempty, digital, stops⟩ := run
  induction digits generalizing before with
  | nil => exact absurd rfl nonempty
  | cons digit others inductionHypothesis =>
      have split : text = (before ++ [digit]) ++ (others ++ rest) := by simp [shape]
      have behind : before.length + 1 = (before ++ [digit]).length := by simp
      apply Program.Prefers.consume consumes (getElem?_of_append shape)
        (digital digit List.mem_cons_self)
      show anywhereProgram.Prefers text.toArray ⟨loop, before.length + 1, records⟩ last
      rw [behind]
      have laterHere : anywhereProgram.Prefers text.toArray
          ⟨leave, ((before ++ [digit]) ++ others).length, records⟩ last := by
        simpa using later
      cases others with
      | nil =>
          apply Program.Prefers.giveUp forks
          · exact fails_at_digits (before ++ [digit]) rest consumes stops split
          · simpa using laterHere
      | cons next more =>
          apply Program.Prefers.prefer forks
          apply inductionHypothesis (before ++ [digit]) split laterHere (List.cons_ne_nil _ _)
          intro character member
          exact digital character (List.mem_cons_of_mem digit member)

/-- Where no further component stands, none can be read: there is no dot, or no digit behind it. -/
theorem fails_at_component {dot place loop : Nat} (before rest : List Char)
    (dots : anywhereProgram.instructions[dot]? = some (.consume (IntervalSet.singleton 46) place))
    (consumes : anywhereProgram.instructions[place]? = some (.consume decimalDigits loop))
    (shape : text = before ++ rest) (absent : furtherComponent? rest = none) :
    anywhereProgram.Fails text.toArray ⟨dot, before.length, records⟩ := by
  unfold furtherComponent? at absent
  split at absent
  · rename_i after
    split at absent
    · rename_i empty
      apply Program.Fails.of_consume dots
      show anywhereProgram.Fails text.toArray ⟨place, before.length + 1, records⟩
      have behind : before.length + 1 = (before ++ ['.']).length := by simp
      rw [behind]
      apply fails_at_digits (before ++ ['.']) after consumes ?_ (by simp [shape])
      cases after with
      | nil => rfl
      | cons next more =>
          cases digit : isAnyDigit next with
          | false => exact digit
          | true => simp [digit] at empty
    · cases absent
  · rename_i other
    apply Program.Fails.of_unread dots
    rw [shape, getElem?_length_append]
    cases rest with
    | nil => rfl
    | cons next more =>
        cases dot : (IntervalSet.singleton 46).hasChar next with
        | false => exact dot
        | true =>
            have same := (IntervalSet.hasChar_singleton '.').mp dot
            exact absurd (congrArg (· :: more) same) (other more)

/-- A further component is read if there is one. -/
theorem component_prefers {choice dot place loop leave : Nat} (before rest : List Char)
    (chooses : anywhereProgram.instructions[choice]? = some (.fork dot 2))
    (dots : anywhereProgram.instructions[dot]? = some (.consume (IntervalSet.singleton 46) place))
    (consumes : anywhereProgram.instructions[place]? = some (.consume decimalDigits loop))
    (forks : anywhereProgram.instructions[loop]? = some (.fork place leave))
    (shape : text = before ++ rest)
    (none : furtherComponent? rest = none →
      anywhereProgram.Prefers text.toArray ⟨2, before.length, records⟩ last)
    (some : ∀ component behind, furtherComponent? rest = some (component, behind) →
      anywhereProgram.Prefers text.toArray ⟨leave, (before ++ component).length, records⟩ last) :
    anywhereProgram.Prefers text.toArray ⟨choice, before.length, records⟩ last := by
  cases found : furtherComponent? rest with
  | none =>
      exact Program.Prefers.giveUp chooses (fails_at_component before rest dots consumes shape found)
        (none found)
  | some pair =>
      obtain ⟨component, behind⟩ := pair
      obtain ⟨digits, rfl, run, split⟩ := exists_of_furtherComponent? found
      apply Program.Prefers.prefer chooses
      apply Program.Prefers.consume dots (getElem?_of_append (shape.trans (by rw [split]; rfl)))
        (by decide)
      show anywhereProgram.Prefers text.toArray ⟨place, before.length + 1, records⟩ last
      have here : before.length + 1 = (before ++ ['.']).length := by simp
      rw [here]
      apply digits_prefers (before ++ ['.']) digits behind consumes forks run
        (by simp [shape, split])
      simpa using some _ _ found

/-- The further components are read, up to the second. -/
theorem components_prefers (before rest : List Char) (shape : text = before ++ rest)
    (later : anywhereProgram.Prefers text.toArray
      ⟨2, (before ++ (furtherComponents 2 rest).1).length, records⟩ last) :
    anywhereProgram.Prefers text.toArray ⟨10, before.length, records⟩ last := by
  apply component_prefers before rest rfl rfl rfl rfl shape
  · intro absent
    simpa [furtherComponents, absent] using later
  · intro component behind found
    obtain ⟨_, _, _, split⟩ := exists_of_furtherComponent? found
    apply component_prefers (before ++ component) behind rfl rfl rfl rfl (by simp [shape, split])
    · intro absent
      simpa [furtherComponents, found, absent] using later
    · intro next after foundNext
      simpa [furtherComponents, found, foundNext] using later

/-- Nothing is found from where no digit stands. -/
theorem fails_at_start (before rest : List Char) (stops : rest.head?.any isAnyDigit = false)
    (shape : text = before ++ rest) :
    anywhereProgram.Fails text.toArray ⟨14, before.length, []⟩ := by
  apply Program.Fails.of_record rfl
  apply Program.Fails.of_record rfl
  exact fails_at_digits before rest rfl stops shape

theorem prefers_of_firstVersion? {cut : Cut} (found : firstVersion? text = some cut) :
    anywhereProgram.Prefers text.toArray ⟨14, cut.span.start, []⟩
      ⟨0, cut.span.stop, cut.records⟩ := by
  obtain ⟨digits, rest, shape, -, run, version, -⟩ := exists_of_firstVersion? found
  apply Program.Prefers.record rfl
  apply Program.Prefers.record rfl
  apply digits_prefers cut.before digits rest rfl rfl run shape
  apply components_prefers (cut.before ++ digits) rest (by simp [shape])
  have here : (cut.before ++ digits ++ (furtherComponents 2 rest).1).length = cut.span.stop := by
    simp [Cut.span, version]
  rw [here]
  apply Program.Prefers.record rfl
  apply Program.Prefers.record rfl
  exact .accept rfl

theorem search_of_firstVersion? {cut : Cut} (found : firstVersion? text = some cut) :
    anywhereProgram.search text.toArray 0 = some cut.records := by
  obtain ⟨-, -, -, plain, -⟩ := exists_of_firstVersion? found
  have text_eq := text_of_firstVersion? found
  apply Program.search_of_prefers (Nat.zero_le _) ?inside ?earlier (prefers_of_firstVersion? found)
  case inside =>
    rw [List.size_toArray, text_eq]
    simp [Cut.span]
  case earlier =>
    intro earlier _ isEarlier
    have isEarlier : earlier < cut.before.length := isEarlier
    have fails : anywhereProgram.Fails text.toArray ⟨14, (cut.before.take earlier).length, []⟩ := by
      apply fails_at_start _ (cut.before.drop earlier ++ (cut.version ++ cut.behind))
      · rw [List.drop_eq_getElem_cons isEarlier, List.cons_append, List.head?_cons, Option.any_some]
        exact plain _ (List.getElem_mem isEarlier)
      · rw [← List.append_assoc, List.take_append_drop]
        exact text_eq
    rw [List.length_take, Nat.min_eq_left (Nat.le_of_lt isEarlier)] at fails
    exact fails

theorem search_eq_none_of_firstVersion? (absent : firstVersion? text = none) :
    anywhereProgram.search text.toArray 0 = none := by
  apply Program.search_eq_none
  intro first _ inside
  have start : (text.take first).length = first := by
    rw [List.length_take]
    exact Nat.min_eq_left inside
  have fails : anywhereProgram.Fails text.toArray ⟨14, (text.take first).length, []⟩ := by
    apply fails_at_start _ (text.drop first) ?_ (List.take_append_drop first text).symm
    cases shown : (text.drop first).head? with
    | none => rfl
    | some character =>
        apply firstVersion?_eq_none_iff.mp absent
        exact List.mem_of_mem_drop (List.mem_of_head? shown)
  rw [start] at fails
  exact fails

/-- **First version.** The pattern finds the first version of a text, and it captures all of it. -/
theorem find_anywhere (text : List Char) :
    anywhereRegex.find text.toArray 0 = (firstVersion? text).map Cut.match := by
  have program : anywhereRegex.program = anywhereProgram := rfl
  rw [Regex.find, program]
  cases found : firstVersion? text with
  | none =>
      rw [search_eq_none_of_firstVersion? found]
      rfl
  | some cut =>
      rw [search_of_firstVersion? found]
      rfl

end Search

end ReleaseRules.VersionPattern
