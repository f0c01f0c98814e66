import ReleaseRules.Text.Pieces

/-!
Contract: texts by their pieces between separators.

Owns:
- where the first piece of a text ends;
- the text that pieces come from, and the characters that stand in them.

Does not own: what the pieces mean.
-/

namespace ReleaseRules.Text

variable {separator : Char} {text : List Char}

theorem splitAt_cons (separator : Char) (text : List Char) :
    ∃ piece pieces, splitAt separator text = piece :: pieces := by
  induction text with
  | nil => exact ⟨[], [], rfl⟩
  | cons character rest inductionHypothesis =>
      obtain ⟨piece, pieces, split⟩ := inductionHypothesis
      by_cases same : character = separator
      · exact ⟨[], splitAt separator rest, by simp [splitAt, same]⟩
      · exact ⟨character :: piece, pieces, by simp [splitAt, same, split]⟩

theorem splitAt_eq_splitOnP (separator : Char) (text : List Char) :
    splitAt separator text = text.splitOnP (· = separator) := by
  induction text with
  | nil => rfl
  | cons first rest inductionHypothesis =>
      rw [splitAt, List.splitOnP_cons_eq_if_modifyHead, ← inductionHypothesis]
      by_cases same : first = separator
      · rw [if_pos same, if_pos (decide_eq_true same)]
      · obtain ⟨piece, pieces, split⟩ := splitAt_cons separator rest
        rw [if_neg same, if_neg (by simpa using same), split]
        rfl

/-- Characters in front that are no separators belong to the first piece. -/
theorem splitAt_append {front rest piece : List Char} {pieces : List (List Char)}
    (plain : separator ∉ front) (split : splitAt separator rest = piece :: pieces) :
    splitAt separator (front ++ rest) = (front ++ piece) :: pieces := by
  induction front with
  | nil => exact split
  | cons character others inductionHypothesis =>
      obtain ⟨other, plainOthers⟩ := List.ne_and_not_mem_of_not_mem_cons plain
      simp [splitAt, Ne.symm other, inductionHypothesis plainOthers]

theorem splitAt_of_not_mem (plain : separator ∉ text) : splitAt separator text = [text] := by
  have split := splitAt_append plain (show splitAt separator [] = [[]] from rfl)
  simpa using split

/-- A text is its first piece, and the others each behind a separator. -/
theorem eq_append_of_splitAt {piece : List Char} {pieces : List (List Char)}
    (split : splitAt separator text = piece :: pieces) :
    text = piece ++ pieces.flatMap (separator :: ·) := by
  induction text generalizing piece pieces with
  | nil =>
      obtain ⟨rfl, rfl⟩ := List.cons.inj split
      rfl
  | cons character rest inductionHypothesis =>
      obtain ⟨first, others, splitRest⟩ := splitAt_cons separator rest
      have rest := inductionHypothesis splitRest
      by_cases same : character = separator
      · rw [splitAt, if_pos same, splitRest] at split
        obtain ⟨rfl, rfl⟩ := List.cons.inj split
        simp [same, rest]
      · rw [splitAt, if_neg same, splitRest] at split
        obtain ⟨rfl, rfl⟩ := List.cons.inj split
        simp [rest]

/-- Pieces that are put together with separators are the pieces again. -/
theorem splitAt_flatMap {piece : List Char} {pieces : List (List Char)}
    (plain : ∀ other ∈ piece :: pieces, separator ∉ other) :
    splitAt separator (piece ++ pieces.flatMap (separator :: ·)) = piece :: pieces := by
  induction pieces generalizing piece with
  | nil =>
      rw [List.flatMap_nil, List.append_nil]
      exact splitAt_of_not_mem (plain piece List.mem_cons_self)
  | cons next rest inductionHypothesis =>
      have later := inductionHypothesis fun other member =>
        plain other (List.mem_cons_of_mem piece member)
      have split : splitAt separator (separator :: (next ++ rest.flatMap (separator :: ·))) =
          [] :: next :: rest := by
        rw [splitAt, if_pos rfl, later]
      have whole := splitAt_append (plain piece List.mem_cons_self) split
      rw [List.append_nil] at whole
      rw [List.flatMap_cons, List.cons_append]
      exact whole

/-- A character of a text is a separator or stands in a piece. -/
theorem eq_or_mem_piece (separator : Char) {character : Char} (member : character ∈ text) :
    character = separator ∨ ∃ piece ∈ splitAt separator text, character ∈ piece := by
  obtain ⟨piece, pieces, split⟩ := splitAt_cons separator text
  rw [eq_append_of_splitAt split] at member
  rw [split]
  rcases List.mem_append.mp member with inFirst | later
  · exact .inr ⟨piece, List.mem_cons_self, inFirst⟩
  · obtain ⟨other, inPieces, behind⟩ := List.mem_flatMap.mp later
    rcases List.mem_cons.mp behind with same | inside
    · exact .inl same
    · exact .inr ⟨other, List.mem_cons_of_mem piece inPieces, inside⟩

/-- No piece has a separator in it. -/
theorem not_mem_of_mem_splitAt {piece : List Char} (member : piece ∈ splitAt separator text) :
    separator ∉ piece := by
  induction text generalizing piece with
  | nil => simp_all [splitAt]
  | cons character rest inductionHypothesis =>
      obtain ⟨first, others, splitRest⟩ := splitAt_cons separator rest
      rw [splitRest] at inductionHypothesis
      by_cases same : character = separator
      · rw [splitAt, if_pos same, splitRest] at member
        rcases List.mem_cons.mp member with rfl | later
        · exact List.not_mem_nil
        · exact inductionHypothesis later
      · rw [splitAt, if_neg same, splitRest] at member
        rcases List.mem_cons.mp member with rfl | later
        · have plain := inductionHypothesis List.mem_cons_self
          exact List.not_mem_cons_of_ne_of_not_mem (Ne.symm same) plain
        · exact inductionHypothesis (List.mem_cons_of_mem first later)

/-- Pieces that are joined by separators are the pieces again. -/
theorem splitAt_join {pieces : List (List Char)} (nonempty : pieces ≠ [])
    (plain : ∀ piece ∈ pieces, separator ∉ piece) :
    splitAt separator (join [separator] pieces) = pieces := by
  have shape : ∀ (piece : List Char) (others : List (List Char)),
      join [separator] (piece :: others) = piece ++ others.flatMap (separator :: ·) := by
    intro piece others
    induction others generalizing piece with
    | nil => simp [join]
    | cons next rest inductionHypothesis =>
        rw [join, inductionHypothesis]
        · simp
        · exact List.cons_ne_nil next rest
  obtain ⟨piece, others, rfl⟩ := List.exists_cons_of_ne_nil nonempty
  rw [shape, splitAt_flatMap plain]

end ReleaseRules.Text
