import ReleaseRules.Proofs.Number.Notation
import ReleaseRules.Proofs.Text.Runs
import ReleaseRules.Unicode.CharacterClass

/-!
Contract: white space at the ends of texts.

Owns:
- the printed characters of ASCII are no white space;
- what trimming takes from the ends of a text;
- texts that begin and end with other characters than white space, and what trimming leaves of them.

Does not own: white space between the words of a text.
-/

namespace ReleaseRules.Unicode

open ReleaseRules.Text (dropWhile_append_of_stop)

/-- The printed characters of ASCII are no white space. -/
theorem isBlank_of_ascii {character : Char} (above : 32 < character.toNat)
    (below : character.toNat < 127) : isBlank character = false := by
  simp only [isBlank, IntervalSet.hasChar, IntervalSet.contains, whiteSpace,
    IntervalSet.containsSorted]
  rw [if_neg (by omega), if_neg (by omega), if_neg (by omega), if_neg (by omega),
    if_pos (by omega)]

theorem isBlank_of_isDecimalDigit {character : Char}
    (decimal : Number.isDecimalDigit character = true) : isBlank character = false := by
  have range := Number.toNat_of_isDecimalDigit decimal
  apply isBlank_of_ascii
  · omega
  · omega

/-- What trimming takes is white space at both ends. -/
theorem exists_trim (text : List Char) :
    ∃ front back, text = front ++ (trim text ++ back) ∧
      (∀ character ∈ front, isBlank character = true) ∧
      ∀ character ∈ back, isBlank character = true := by
  have split :
      trimStart text = trim text ++ ((trimStart text).reverse.takeWhile isBlank).reverse := by
    have parts := List.takeWhile_append_dropWhile (p := isBlank) (l := (trimStart text).reverse)
    rw [trim, trimEnd, ← List.reverse_append, parts, List.reverse_reverse]
  refine ⟨text.takeWhile isBlank, ((trimStart text).reverse.takeWhile isBlank).reverse, ?_, ?_, ?_⟩
  · rw [← split, trimStart, List.takeWhile_append_dropWhile]
  · exact List.all_eq_true.mp List.all_takeWhile
  · intro character member
    exact List.all_eq_true.mp List.all_takeWhile character (List.mem_reverse.mp member)

/-- White space in front of a text is taken by trimming. -/
theorem trim_append_of_isBlank {front : List Char}
    (blank : ∀ character ∈ front, isBlank character = true) (text : List Char) :
    trim (front ++ text) = trim text := by
  rw [trim, trimStart, List.dropWhile_append_of_pos blank]
  rfl

/-- Texts that have no white space at their ends. -/
structure IsTight (text : List Char) : Prop where
  start : text.head?.any isBlank = false
  stop : text.getLast?.any isBlank = false

variable {text behind : List Char}

theorem IsTight.of_noBlank (noBlank : ∀ character ∈ text, isBlank character = false) :
    IsTight text := by
  constructor
  · cases first : text.head? with
    | none => rfl
    | some character => exact noBlank character (List.mem_of_head? first)
  · cases last : text.getLast? with
    | none => rfl
    | some character => exact noBlank character (List.mem_of_getLast? last)

/-- A text between two characters that are no white space. -/
theorem IsTight.between {first last : Char} {middle : List Char} (start : isBlank first = false)
    (stop : isBlank last = false) : IsTight (first :: (middle ++ [last])) := by
  constructor
  · simpa using start
  · rw [← List.cons_append, List.getLast?_concat]
    simpa using stop

/-- White space behind a tight text is all that trimming takes. -/
theorem IsTight.trim_append (tight : IsTight text)
    (blank : ∀ character ∈ behind, isBlank character = true) : trim (text ++ behind) = text := by
  have ends : text.reverse.head?.any isBlank = false := by
    rw [List.head?_reverse]
    exact tight.stop
  have back : ∀ character ∈ behind.reverse, isBlank character = true := by
    intro character member
    exact blank character (List.mem_reverse.mp member)
  cases text with
  | nil =>
      have gone : (behind ++ []).dropWhile isBlank = [] := dropWhile_append_of_stop blank rfl
      rw [List.append_nil] at gone
      rw [List.nil_append, trim, trimStart, gone]
      rfl
  | cons first rest =>
      have start : isBlank first = false := tight.start
      have kept : trimStart (first :: rest ++ behind) = first :: rest ++ behind := by
        simp [trimStart, start]
      rw [trim, kept, trimEnd, List.reverse_append, dropWhile_append_of_stop back ends,
        List.reverse_reverse]

theorem IsTight.trim_eq (tight : IsTight text) : trim text = text := by
  have trimmed : trim (text ++ []) = text := tight.trim_append (by simp)
  rwa [List.append_nil] at trimmed

end ReleaseRules.Unicode
