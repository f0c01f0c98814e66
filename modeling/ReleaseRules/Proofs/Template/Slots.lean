import ReleaseRules.Proofs.Template.Opaque
import ReleaseRules.Proofs.Text.WhiteSpace

/-!
Contract: texts with slots as symbols with atoms.

Owns:
- the texts that show symbols: every atom by a slot that keeps its text;
- the slots of a text are filled with the texts of the atoms;
- runs of characters in such a text, its ends and its parts between separators.

Does not own: calls and their arguments.

The marks of a slot and the digits between them are the only characters that a text has besides
those of literal symbols, and no literal symbol is a mark. So a scan that stops at the mark in front
of a slot stops at the atom, and one that passes over all characters of a slot passes over the atom.
-/

namespace ReleaseRules.Template

open ReleaseRules.Text (dropWhile_append_of_stop takeWhile_append_of_stop)
open ReleaseRules.Template.Symbol (isLiteral textOf)
open Unicode (isBlank)

/-! ## Slots -/

/-- Whether a character is no mark of a slot. -/
def isPlain (character : Char) : Bool := character != slotOpen && character != slotClose

theorem isPlain_of_test {test : Char → Bool} {character : Char} (opening : test slotOpen = false)
    (closing : test slotClose = false) (passes : test character = true) :
    isPlain character = true := by
  have notOpen : character ≠ slotOpen := by
    rintro rfl
    exact absurd (opening.symm.trans passes) Bool.false_ne_true
  have notClose : character ≠ slotClose := by
    rintro rfl
    exact absurd (closing.symm.trans passes) Bool.false_ne_true
  simp [isPlain, notOpen, notClose]

/-- The characters of a slot have a property that its marks and all digits have. -/
theorem forall_slotText {holds : Char → Prop} (opening : holds slotOpen)
    (digit : ∀ character, Number.isDecimalDigit character = true → holds character)
    (closing : holds slotClose) (number : Nat) :
    ∀ character ∈ slotText number, holds character := by
  intro character member
  rcases List.mem_cons.mp member with rfl | later
  · exact opening
  · rcases List.mem_append.mp later with inDigits | last
    · exact digit character (Number.isDecimalDigit_of_mem_digitsOf inDigits)
    · exact List.mem_singleton.mp last ▸ closing

/-- The last character of a slot is its mark. -/
theorem append_slotText (front : List Char) (number : Nat) :
    front ++ slotText number = front ++ slotOpen :: Number.digitsOf number ++ [slotClose] := by
  simp [slotText]

/-- A slot at the start of a text is its marks with the digits of its number between them. -/
theorem slot?_eq_some_iff {text after : List Char} {number : Nat} :
    slot? text = some (number, after) ↔
      ∃ digits, text = slotOpen :: (digits ++ slotClose :: after) ∧
        (∀ character ∈ digits, Number.isDecimalDigit character = true) ∧
        Number.natural? 10 digits = some number := by
  constructor
  · intro found
    unfold slot? at found
    split at found
    · cases found
    · rename_i first rest
      split at found
      · rename_i opens
        split at found
        · rename_i close _ dropped
          split at found
          · rename_i closes
            obtain ⟨_, read, same⟩ := Option.map_eq_some_iff.mp found
            obtain ⟨rfl, rfl⟩ := Prod.mk.inj same
            refine ⟨rest.takeWhile Number.isDecimalDigit, ?_,
              fun character member => List.mem_takeWhile_imp member, read⟩
            rw [opens, ← closes, ← dropped, List.takeWhile_append_dropWhile]
          · cases found
        · cases found
      · cases found
  · rintro ⟨digits, rfl, decimal, read⟩
    have stops : (slotClose :: after).head?.any Number.isDecimalDigit = false := by
      show Number.isDecimalDigit slotClose = false
      decide
    rw [slot?, if_pos rfl, dropWhile_append_of_stop decimal stops,
      takeWhile_append_of_stop decimal stops, read]
    exact if_pos rfl

/-- A slot is found as the slot that it is. -/
theorem slot?_slotText (number : Nat) (text : List Char) :
    slot? (slotText number ++ text) = some (number, text) :=
  slot?_eq_some_iff.mpr ⟨Number.digitsOf number, by simp [slotText],
    fun _ member => Number.isDecimalDigit_of_mem_digitsOf member, Number.natural?_digitsOf number⟩

/-- Slots start with their opening mark. -/
theorem slot?_of_ne {character : Char} (other : character ≠ slotOpen) (text : List Char) :
    slot? (character :: text) = none :=
  if_neg other

theorem ne_of_isPlain {character : Char} (plain : isPlain character = true) :
    character ≠ slotOpen := by
  rintro rfl
  cases plain

/-- What belongs to a slot behind its opening mark; there is no other opening mark in it. -/
theorem exists_inner_of_slot? {first : Char} {rest after : List Char} {number : Nat}
    (found : slot? (first :: rest) = some (number, after)) :
    ∃ inner, rest = inner ++ after ∧ rest.length - after.length = inner.length ∧
      slotOpen ∉ inner := by
  obtain ⟨digits, shown, decimal, -⟩ := slot?_eq_some_iff.mp found
  obtain ⟨-, rfl⟩ := List.cons.inj shown
  refine ⟨digits ++ [slotClose], List.append_cons digits slotClose after, ?_, ?_⟩
  · rw [List.append_cons digits slotClose after, List.length_append, Nat.add_sub_cancel]
  · intro member
    rcases List.mem_append.mp member with inDigits | last
    · cases decimal slotOpen inDigits
    · cases List.mem_singleton.mp last

/-- Filling goes on behind the characters of a slot. -/
theorem fillFrom_length_append (slots : Slots) (front text : List Char) :
    fillFrom slots front.length (front ++ text) = fill slots text := by
  induction front with
  | nil => rfl
  | cons _ _ inductionHypothesis => exact inductionHypothesis

theorem fill_of_slot? {slots : Slots} {number : Nat} {value text after : List Char}
    (found : slot? text = some (number, after)) (kept : slots[number]? = some value) :
    fill slots text = value ++ fill slots after := by
  cases text with
  | nil => cases found
  | cons first rest =>
      obtain ⟨inner, shape, length, -⟩ := exists_inner_of_slot? found
      rw [fill, fillFrom, found]
      simp only [kept]
      rw [length, shape, fillFrom_length_append]

theorem fill_slotText_append {slots : Slots} {number : Nat} {value : List Char}
    (kept : slots[number]? = some value) (text : List Char) :
    fill slots (slotText number ++ text) = value ++ fill slots text :=
  fill_of_slot? (slot?_slotText number text) kept

theorem fill_cons_of_ne {character : Char} (other : character ≠ slotOpen) (slots : Slots)
    (text : List Char) : fill slots (character :: text) = character :: fill slots text := by
  rw [fill, fillFrom, slot?_of_ne other]
  rfl

/-- Slots with more slots behind them. -/
def Slots.Extends (slots more : Slots) : Prop :=
  ∀ (number : Nat) (value : List Char), slots[number]? = some value → more[number]? = some value

theorem Slots.Extends.refl (slots : Slots) : slots.Extends slots := fun _ _ kept => kept

theorem Slots.Extends.trans {first second third : Slots} (left : first.Extends second)
    (right : second.Extends third) : first.Extends third :=
  fun number value kept => right number value (left number value kept)

theorem Slots.extends_push (slots : Slots) (value : List Char) :
    slots.Extends (slots.push value) := by
  intro number other kept
  have inside : number < slots.size := (Array.getElem?_eq_some_iff.mp kept).1
  rw [Array.getElem?_push_lt inside, ← kept, Array.getElem?_eq_getElem inside]

/-! ## Texts that show symbols -/

/-- A text shows symbols by slots: literal symbols by their characters, which are no marks, and
atoms by slots that keep their texts. -/
inductive Shows (slots : Slots) : List Char → List Symbol → Prop where
  | nil : Shows slots [] []
  | literal {character : Char} {text : List Char} {symbols : List Symbol}
      (plain : isPlain character = true) (rest : Shows slots text symbols) :
      Shows slots (character :: text) (.literal character :: symbols)
  | atom {number : Nat} {value text : List Char} {symbols : List Symbol}
      (kept : slots[number]? = some value) (rest : Shows slots text symbols) :
      Shows slots (slotText number ++ text) (.atom value :: symbols)

namespace Shows

variable {slots more : Slots} {text other : List Char} {symbols others : List Symbol}

theorem mono (shows : Shows slots text symbols) (longer : slots.Extends more) :
    Shows more text symbols := by
  induction shows with
  | nil => exact .nil
  | literal plain _ inductionHypothesis => exact .literal plain inductionHypothesis
  | atom kept _ inductionHypothesis => exact .atom (longer _ _ kept) inductionHypothesis

theorem append (shows : Shows slots text symbols) (later : Shows slots other others) :
    Shows slots (text ++ other) (symbols ++ others) := by
  induction shows with
  | nil => exact later
  | literal plain _ inductionHypothesis => exact .literal plain inductionHypothesis
  | atom kept _ inductionHypothesis =>
      rw [List.append_assoc]
      exact .atom kept inductionHypothesis

theorem of_plain (plain : ∀ character ∈ text, isPlain character = true) :
    Shows slots text (text.map Symbol.literal) := by
  induction text with
  | nil => exact .nil
  | cons first rest inductionHypothesis =>
      apply Shows.literal (plain first List.mem_cons_self)
      apply inductionHypothesis
      intro character member
      exact plain character (List.mem_cons_of_mem first member)

/-- A text that shows symbols in two parts has two parts that show them. -/
theorem exists_append (shows : Shows slots text (symbols ++ others)) :
    ∃ front back, text = front ++ back ∧ Shows slots front symbols ∧ Shows slots back others := by
  induction symbols generalizing text with
  | nil => exact ⟨[], text, rfl, .nil, shows⟩
  | cons first rest inductionHypothesis =>
      cases shows with
      | literal plain later =>
          obtain ⟨front, back, rfl, left, right⟩ := inductionHypothesis later
          exact ⟨_ :: front, back, rfl, .literal plain left, right⟩
      | atom kept later =>
          obtain ⟨front, back, rfl, left, right⟩ := inductionHypothesis later
          exact ⟨_, back, (List.append_assoc ..).symm, .atom kept left, right⟩

/-- A text shows one list of symbols only. -/
theorem unique (shows : Shows slots text symbols) (also : Shows slots text others) :
    symbols = others := by
  -- The first character of the text decides: a mark stands in front of a slot only.
  induction shows generalizing others with
  | nil =>
      cases also
      rfl
  | @literal character text symbols plain _ inductionHypothesis =>
      have found := slot?_of_ne (ne_of_isPlain plain) text
      generalize shown : character :: text = whole at also found
      cases also with
      | nil => cases shown
      | literal _ rest =>
          obtain ⟨rfl, rfl⟩ := List.cons.inj shown
          exact congrArg (Symbol.literal character :: ·) (inductionHypothesis rest)
      | atom kept rest =>
          rw [slot?_slotText] at found
          cases found
  | @atom number value text symbols kept _ inductionHypothesis =>
      have found := slot?_slotText number text
      generalize slotText number ++ text = whole at also found
      cases also with
      | nil => cases found
      | literal plain rest =>
          rw [slot?_of_ne (ne_of_isPlain plain)] at found
          cases found
      | @atom _ _ _ _ keptToo rest =>
          rw [slot?_slotText] at found
          obtain ⟨rfl, rfl⟩ := Prod.mk.inj (Option.some.inj found)
          obtain rfl := Option.some.inj (kept.symm.trans keptToo)
          exact congrArg (Symbol.atom value :: ·) (inductionHypothesis rest)

/-- The slots of a text give way to the texts of the atoms. -/
theorem fill_eq (shows : Shows slots text symbols) : fill slots text = textOf symbols := by
  induction shows with
  | nil => rfl
  | @literal character text symbols plain _ inductionHypothesis =>
      rw [fill_cons_of_ne (ne_of_isPlain plain), inductionHypothesis]
      rfl
  | @atom number value text symbols kept _ inductionHypothesis =>
      rw [fill_slotText_append kept, inductionHypothesis]
      rfl

end Shows

/-! ## Runs -/

/-- A test of symbols is a test of characters as a slot shows them: of an atom it says what the
first character of a slot says, which all its characters say if they pass. -/
structure Lifts (test : Char → Bool) (lifted : Symbol → Bool) : Prop where
  literal (character : Char) : lifted (.literal character) = test character
  atom : (test slotOpen = false ∧ ∀ text, lifted (.atom text) = false) ∨
    ((∀ number, ∀ character ∈ slotText number, test character = true) ∧
      ∀ text, lifted (.atom text) = true)

/-- Tests that no mark passes in front are tests of literal symbols. -/
theorem lifts_isLiteral {test : Char → Bool} (opening : test slotOpen = false) :
    Lifts test (isLiteral test) :=
  ⟨fun _ => rfl, .inl ⟨opening, fun _ => rfl⟩⟩

namespace Shows

variable {slots : Slots} {text : List Char} {symbols : List Symbol} {test : Char → Bool}
  {lifted : Symbol → Bool}

theorem forall₂_modifyHead {parts : List (List Char)} {shown : List (List Symbol)}
    {onText : List Char → List Char} {onSymbols : List Symbol → List Symbol}
    (each : List.Forall₂ (Shows slots) parts shown)
    (kept : ∀ text symbols, Shows slots text symbols →
      Shows slots (onText text) (onSymbols symbols)) :
    List.Forall₂ (Shows slots) (parts.modifyHead onText) (shown.modifyHead onSymbols) := by
  cases each with
  | nil => exact .nil
  | cons first later => exact .cons (kept _ _ first) later

/-- Characters that are no separators belong to the first part. -/
theorem splitOnP_append_of_none {front : List Char}
    (never : ∀ character ∈ front, test character = false) :
    (front ++ text).splitOnP test = (text.splitOnP test).modifyHead (front ++ ·) := by
  induction front with
  | nil => exact (congrFun List.modifyHead_id _).symm
  | cons first rest inductionHypothesis =>
      have later := inductionHypothesis fun character member =>
        never character (List.mem_cons_of_mem first member)
      rw [List.cons_append, List.splitOnP_cons_eq_if_modifyHead,
        if_neg (by simp [never first List.mem_cons_self]), later, List.modifyHead_modifyHead]
      rfl

/-- A run of characters at the start shows a run of symbols. -/
theorem takeWhile (shows : Shows slots text symbols) (lifts : Lifts test lifted) :
    Shows slots (text.takeWhile test) (symbols.takeWhile lifted) := by
  induction shows with
  | nil => exact .nil
  | @literal character text symbols plain _ inductionHypothesis =>
      rw [List.takeWhile_cons, List.takeWhile_cons, lifts.literal]
      cases test character with
      | true => exact .literal plain inductionHypothesis
      | false => exact .nil
  | @atom number value text symbols kept _ inductionHypothesis =>
      rcases lifts.atom with ⟨stops, never⟩ | ⟨passes, always⟩
      · have opening : ¬ test slotOpen = true := by simp [stops]
        rw [List.takeWhile_cons_of_neg (by simp [never]), slotText,
          List.cons_append, List.takeWhile_cons_of_neg opening]
        exact .nil
      · rw [List.takeWhile_cons_of_pos (always value), List.takeWhile_append_of_pos (passes number)]
        exact .atom kept inductionHypothesis

theorem dropWhile (shows : Shows slots text symbols) (lifts : Lifts test lifted) :
    Shows slots (text.dropWhile test) (symbols.dropWhile lifted) := by
  induction shows with
  | nil => exact .nil
  | @literal character text symbols plain rest inductionHypothesis =>
      rw [List.dropWhile_cons, List.dropWhile_cons, lifts.literal]
      cases test character with
      | true => exact inductionHypothesis
      | false => exact .literal plain rest
  | @atom number value text symbols kept rest inductionHypothesis =>
      rcases lifts.atom with ⟨stops, never⟩ | ⟨passes, always⟩
      · have opening : ¬ test slotOpen = true := by simp [stops]
        rw [List.dropWhile_cons_of_neg (by simp [never]), slotText,
          List.cons_append, List.dropWhile_cons_of_neg opening]
        exact .atom kept rest
      · rw [List.dropWhile_cons_of_pos (always value), List.dropWhile_append_of_pos (passes number)]
        exact inductionHypothesis

/-- What is left without a run at the end. No mark of a slot ends such a run. -/
theorem rdropWhile (shows : Shows slots text symbols) (closing : test slotClose = false) :
    Shows slots (text.rdropWhile test) (symbols.rdropWhile (isLiteral test)) := by
  -- A slot is many characters and one symbol, so the induction is on the symbols, from their end.
  induction symbols using List.reverseRecOn generalizing text with
  | nil =>
      cases shows
      exact .nil
  | append_singleton front last inductionHypothesis =>
      obtain ⟨start, ending, rfl, left, right⟩ := shows.exists_append
      cases right with
      | @literal character _ _ plain nothing =>
          cases nothing
          by_cases passes : test character = true
          · rw [List.rdropWhile_concat_pos _ _ _ passes,
              List.rdropWhile_concat_pos _ _ _ (by exact passes)]
            exact inductionHypothesis left
          · rw [List.rdropWhile_concat_neg _ _ _ passes,
              List.rdropWhile_concat_neg _ _ _ (by exact passes)]
            exact left.append (.literal plain .nil)
      | @atom number value _ _ kept nothing =>
          cases nothing
          have stops : ¬ test slotClose = true := by simp [closing]
          rw [List.append_nil, append_slotText, List.rdropWhile_concat_neg _ _ _ stops,
            List.rdropWhile_concat_neg _ _ _ (by simp [isLiteral]), ← append_slotText,
            ← List.append_nil (slotText number)]
          exact left.append (.atom kept .nil)

/-- The parts between separators that are no characters of slots show the parts between literal
separators. -/
theorem splitOnP (shows : Shows slots text symbols)
    (never : ∀ number, ∀ character ∈ slotText number, test character = false) :
    List.Forall₂ (Shows slots) (text.splitOnP test) (symbols.splitOnP (isLiteral test)) := by
  induction shows with
  | nil => exact .cons .nil .nil
  | @literal character text symbols plain rest inductionHypothesis =>
      rw [List.splitOnP_cons_eq_if_modifyHead, List.splitOnP_cons_eq_if_modifyHead]
      show List.Forall₂ _ _ (if test character = true then _ else _)
      by_cases passes : test character = true
      · rw [if_pos passes, if_pos passes]
        exact .cons .nil inductionHypothesis
      · rw [if_neg passes, if_neg passes]
        exact forall₂_modifyHead inductionHypothesis fun _ _ shown => .literal plain shown
  | @atom number value text symbols kept rest inductionHypothesis =>
      rw [splitOnP_append_of_none (never number), List.splitOnP_cons_eq_if_modifyHead,
        if_neg (by simp [isLiteral])]
      exact forall₂_modifyHead inductionHypothesis fun _ _ shown => .atom kept shown

end Shows

end ReleaseRules.Template
