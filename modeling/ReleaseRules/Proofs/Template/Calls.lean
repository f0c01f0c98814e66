import Mathlib.Data.List.Forall2
import ReleaseRules.Proofs.Template.Slots
import ReleaseRules.Proofs.Text.Pieces

/-!
Contract: calls in texts with slots as calls over symbols.

Owns:
- the arguments of a call show the arguments over symbols, and their texts are the same;
- a call is found in a text if and only if it is found over the symbols, with the same name.

Does not own: what becomes of a call.

White space, quotes, commas, parentheses and the characters of names are all none of the characters
of a slot. So an atom is never trimmed, unquoted or split, and no name begins, goes on or ends in
one.
-/

namespace ReleaseRules.Template

open ReleaseRules.Template.Symbol (isInside isLiteral textOf)
open Unicode (isBlank isWord)

variable {slots : Slots} {text : List Char} {symbols : List Symbol}

/-! ## Arguments -/

theorem Shows.trim (shows : Shows slots text symbols) :
    Shows slots (Unicode.trim text) (trimSymbols symbols) := by
  have opening : isBlank slotOpen = false := by decide
  have closing : isBlank slotClose = false := by decide
  exact (shows.dropWhile (lifts_isLiteral opening)).rdropWhile closing

theorem unquote?_cons (quote first : Char) (rest : List Char) :
    unquote? quote (first :: rest) =
      if quote = first then Text.stripSuffix? [quote] rest else none := by
  rw [unquote?, Text.stripPrefix?]
  split <;> rfl

theorem stripSuffix?_concat (quote last : Char) (front : List Char) :
    Text.stripSuffix? [quote] (front ++ [last]) = if quote = last then some front else none := by
  rw [Text.stripSuffix?, List.reverse_append, List.reverse_singleton, List.reverse_singleton,
    List.singleton_append, Text.stripPrefix?]
  split
  · exact congrArg some (List.reverse_reverse front)
  · rfl

/-- A text ends in a quote where the last symbol is the literal quote. -/
theorem Shows.stripSuffix? {quote : Char} (shows : Shows slots text symbols)
    (plain : isPlain quote = true) :
    Option.Rel (Shows slots) (Text.stripSuffix? [quote] text)
      (if symbols.getLast? = some (.literal quote) then some symbols.dropLast else none) := by
  induction symbols using List.reverseRecOn with
  | nil =>
      cases shows
      exact .none
  | append_singleton front last _ =>
      obtain ⟨start, ending, rfl, left, right⟩ := shows.exists_append
      rw [List.getLast?_concat, List.dropLast_concat]
      cases right with
      | @literal character _ _ _ nothing =>
          cases nothing
          rw [stripSuffix?_concat]
          by_cases same : quote = character
          · rw [if_pos same, if_pos (by rw [same])]
            exact .some left
          · rw [if_neg same, if_neg (by simpa using fun equal => same equal.symm)]
            exact .none
      | @atom number value _ _ _ nothing =>
          cases nothing
          have other : quote ≠ slotClose := by
            rintro rfl
            cases plain
          rw [List.append_nil, append_slotText, stripSuffix?_concat, if_neg other,
            if_neg (by simp)]
          exact .none

theorem Shows.unquote? {quote : Char} (shows : Shows slots text symbols)
    (plain : isPlain quote = true) :
    Option.Rel (Shows slots) (Template.unquote? quote text) (unquoteSymbols? quote symbols) := by
  cases shows with
  | nil => exact .none
  | @literal character _ _ _ rest =>
      rw [unquote?_cons, unquoteSymbols?]
      by_cases same : quote = character
      · subst same
        rw [if_pos rfl]
        simpa using rest.stripSuffix? plain
      · rw [if_neg same, if_neg (by simp [Ne.symm same])]
        exact .none
  | @atom number _ _ _ _ rest =>
      have other : quote ≠ slotOpen := by
        rintro rfl
        cases plain
      rw [slotText, List.cons_append, unquote?_cons, if_neg other, unquoteSymbols?,
        if_neg (by simp)]
      exact .none

theorem Shows.argument (shows : Shows slots text symbols) :
    Shows slots (Template.argument text) (symbolArgument symbols) := by
  have trimmed := shows.trim
  have double : Option.Rel (Shows slots) (Template.unquote? '"' (Unicode.trim text))
    (unquoteSymbols? '"' (trimSymbols symbols)) := trimmed.unquote? rfl
  have single : Option.Rel (Shows slots) (Template.unquote? '\'' (Unicode.trim text))
    (unquoteSymbols? '\'' (trimSymbols symbols)) := trimmed.unquote? rfl
  rw [Template.argument, symbolArgument]
  generalize Template.unquote? '"' _ = found, unquoteSymbols? '"' _ = foundToo at double ⊢
  generalize Template.unquote? '\'' _ = other, unquoteSymbols? '\'' _ = otherToo at single ⊢
  cases double with
  | some shown => exact shown
  | none =>
      cases single with
      | some shown => exact shown
      | none => exact trimmed

theorem trimSymbols_eq_nil_iff (symbols : List Symbol) :
    trimSymbols symbols = [] ↔ symbols.all (isLiteral isBlank) = true := by
  rw [trimSymbols, List.rdropWhile_eq_nil_iff, List.all_eq_true]
  constructor
  · intro blank
    rw [← List.dropWhile_eq_nil_iff]
    have stops := List.head?_dropWhile_not (isLiteral isBlank) symbols
    generalize symbols.dropWhile (isLiteral isBlank) = rest at blank stops
    cases rest with
    | nil => rfl
    | cons first others =>
        exact absurd (stops.symm.trans (blank first List.mem_cons_self)) Bool.false_ne_true
  · intro blank symbol member
    exact blank symbol ((List.dropWhile_suffix _).subset member)

theorem Shows.isEmpty_eq (shows : Shows slots text symbols) :
    text.isEmpty = symbols.isEmpty := by
  cases shows with
  | nil => rfl
  | literal => rfl
  | atom => rfl

/-- Arguments are the arguments over symbols. -/
theorem Shows.arguments (shows : Shows slots text symbols) :
    List.Forall₂ (Shows slots) (Template.arguments text) (symbolArguments symbols) := by
  have empty := shows.trim.isEmpty_eq
  rw [Template.arguments, symbolArguments, empty]
  by_cases blank : symbols.all (isLiteral isBlank) = true
  · have nothing := (trimSymbols_eq_nil_iff symbols).mpr blank
    rw [if_pos blank, if_pos (List.isEmpty_iff.mpr nothing)]
    exact .nil
  · have something := mt (trimSymbols_eq_nil_iff symbols).mp blank
    rw [if_neg blank, if_neg (mt List.isEmpty_iff.mp something), Text.splitAt_eq_splitOnP]
    have never : ∀ number, ∀ character ∈ slotText number, decide (character = ',') = false := by
      apply forall_slotText
      · decide
      · rintro character decimal
        rw [decide_eq_false_iff_not]
        rintro rfl
        cases decimal
      · decide
    exact List.rel_map (fun _ _ shown => shown.argument) (shows.splitOnP never)

/-- A function is given the texts of the arguments, whatever slots stand for them. -/
theorem Shows.values_eq (shows : Shows slots text symbols) :
    (Template.arguments text).map (fill slots) = (symbolArguments symbols).map textOf := by
  have each := shows.arguments
  generalize Template.arguments text = parts, symbolArguments symbols = shown at each
  induction each with
  | nil => rfl
  | cons first _ inductionHypothesis =>
      rw [List.map_cons, List.map_cons, first.fill_eq, inductionHypothesis]

/-! ## Calls -/

/-- A call in a text shows a call over symbols. -/
structure ShowsCall (slots : Slots) (call : Call) (shown : SymbolCall) : Prop where
  name_eq : call.name = shown.name
  name_plain : ∀ character ∈ call.name, isPlain character = true
  arguments : Shows slots call.arguments shown.inside
  after : Shows slots call.after shown.after

/-- Characters that show literal symbols are the characters that these symbols are. -/
theorem Shows.textOf_takeWhile {test : Char → Bool} (shows : Shows slots text symbols)
    (opening : test slotOpen = false) :
    textOf (symbols.takeWhile (isLiteral test)) = text.takeWhile test := by
  induction shows with
  | nil => rfl
  | @literal character text symbols _ _ inductionHypothesis =>
      rw [List.takeWhile_cons, List.takeWhile_cons]
      show textOf (if test character = true then _ else _) = _
      split
      · exact congrArg (character :: ·) inductionHypothesis
      · rfl
  | atom =>
      have stops : ¬ test slotOpen = true := by simp [opening]
      exact (List.takeWhile_cons_of_neg stops).symm

theorem lifts_isInside : Lifts isInsideCall isInside := by
  refine ⟨fun _ => rfl, .inr ⟨?_, fun _ => rfl⟩⟩
  apply forall_slotText
  · decide
  · intro character decimal
    rw [isInsideCall, Bool.and_eq_true, bne_iff_ne, bne_iff_ne]
    constructor
    · rintro rfl
      cases decimal
    · rintro rfl
      cases decimal
  · decide

/-- A call is found where it is found over the symbols, if a word ends in front of both or of
none. -/
theorem Shows.call? {before : Option Char} {beforeToo : Option Symbol}
    (shows : Shows slots text symbols)
    (boundary : before.any isWord = beforeToo.any (isLiteral isWord)) :
    Option.Rel (ShowsCall slots) (Template.call? before text)
      (symbolCall? beforeToo symbols) := by
  cases shows with
  | nil => exact .none
  | atom => exact .none
  | @literal first text symbols plain rest =>
      rw [Template.call?, symbolCall?, boundary]
      by_cases start : (isFunctionStart first && !beforeToo.any (isLiteral isWord)) = true
      · have opening : isFunctionPart slotOpen = false := by decide
        have name := rest.textOf_takeWhile opening
        have namePlain : ∀ character ∈ first :: text.takeWhile isFunctionPart,
            isPlain character = true := by
          intro character member
          rcases List.mem_cons.mp member with rfl | later
          · exact plain
          · exact isPlain_of_test opening (by decide) (List.mem_takeWhile_imp later)
        have opened := rest.dropWhile (lifts_isLiteral opening)
        rw [if_pos start, if_pos start]
        generalize text.dropWhile _ = behind, symbols.dropWhile _ = behindToo at opened ⊢
        cases opened with
        | nil => exact .none
        | atom => exact .none
        | @literal character inside insideToo _ between =>
            by_cases parenthesis : character = '('
            · subst parenthesis
              have closed := between.dropWhile lifts_isInside
              have arguments := between.takeWhile lifts_isInside
              simp only
              generalize inside.dropWhile _ = behind, insideToo.dropWhile _ = behindToo at closed ⊢
              cases closed with
              | nil => exact .none
              | atom => exact .none
              | @literal character after afterToo _ later =>
                  by_cases parenthesis : character = ')'
                  · subst parenthesis
                    exact .some ⟨by rw [name], namePlain, arguments, later⟩
                  · simp [parenthesis]
            · simp [parenthesis]
      · rw [if_neg start, if_neg start]
        exact .none

end ReleaseRules.Template
