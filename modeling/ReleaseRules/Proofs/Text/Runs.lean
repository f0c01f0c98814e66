/-!
Contract: runs of characters at the start and at the end of a text.

Owns:
- where a run ends when the text behind it is known;
- the longest run of characters that pass a test.

Does not own: which characters make a run.
-/

namespace ReleaseRules.Text

variable {test : Char → Bool}

/-- A run ends with the characters that pass if what follows starts with none. -/
theorem takeWhile_append_of_stop {front rest : List Char}
    (passed : ∀ character ∈ front, test character = true) (stops : rest.head?.any test = false) :
    (front ++ rest).takeWhile test = front := by
  rw [List.takeWhile_append_of_pos passed]
  cases rest with
  | nil => simp
  | cons character others => rw [List.takeWhile_cons_of_neg (by simpa using stops), List.append_nil]

theorem dropWhile_append_of_stop {front rest : List Char}
    (passed : ∀ character ∈ front, test character = true) (stops : rest.head?.any test = false) :
    (front ++ rest).dropWhile test = rest := by
  rw [List.dropWhile_append_of_pos passed]
  cases rest with
  | nil => rfl
  | cons character others => exact List.dropWhile_cons_of_neg (by simpa using stops)

/-- Two runs, each with one symbol behind it, make up the front of a text. -/
theorem eq_append_of_dropWhile {α : Type} {first second : α → Bool} {text inside after : List α}
    {middle last : α} (opened : text.dropWhile first = middle :: inside)
    (closed : inside.dropWhile second = last :: after) :
    text = text.takeWhile first ++ middle :: (inside.takeWhile second ++ last :: after) := by
  rw [← closed, List.takeWhile_append_dropWhile, ← opened, List.takeWhile_append_dropWhile]

/-- What follows the characters at the start that pass starts with none. -/
theorem stops_dropWhile (test : Char → Bool) (text : List Char) :
    (text.dropWhile test).head?.any test = false := by
  have stops := List.head?_dropWhile_not test text
  cases shown : (text.dropWhile test).head? with
  | none => rfl
  | some character =>
      rw [shown] at stops
      simpa using stops

/-- A text up to the first character that fails a test. -/
theorem exists_prefix (test : Char → Bool) (text : List Char) :
    ∃ front rest, text = front ++ rest ∧ (∀ character ∈ front, test character = true) ∧
      rest.head?.any test = false :=
  ⟨text.takeWhile test, text.dropWhile test, List.takeWhile_append_dropWhile.symm,
    List.all_eq_true.mp List.all_takeWhile, stops_dropWhile test text⟩

/-- A text behind the last character that fails a test. -/
theorem exists_suffix (test : Char → Bool) (text : List Char) :
    ∃ front rest, text = front ++ rest ∧ (∀ character ∈ rest, test character = true) ∧
      front.getLast?.any test = false := by
  obtain ⟨rest, front, split, passed, stops⟩ := exists_prefix test text.reverse
  refine ⟨front.reverse, rest.reverse, ?_, fun character member => ?_, ?_⟩
  · rw [← List.reverse_append, ← split, List.reverse_reverse]
  · exact passed character (List.mem_reverse.mp member)
  · rwa [List.getLast?_reverse]

end ReleaseRules.Text
