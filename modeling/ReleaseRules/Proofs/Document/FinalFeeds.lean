import ReleaseRules.Document.Basic

/-!
Contract: texts without the line feeds at their end.

Owns:
- what is taken off a text, and what stays.

Does not own: which texts are rendered so.
-/

namespace ReleaseRules.Document

/-- A text is what stays of it and line feeds. -/
theorem withoutFinalNewlines_append (text : List Char) :
    ∃ feeds, text = withoutFinalNewlines text ++ feeds ∧ ∀ character ∈ feeds, character = '\n' := by
  refine ⟨(text.reverse.takeWhile (· = '\n')).reverse, ?_, fun character member => ?_⟩
  · rw [withoutFinalNewlines, ← List.reverse_append, List.takeWhile_append_dropWhile,
      List.reverse_reverse]
  · have passed := List.all_eq_true.mp List.all_takeWhile character (List.mem_reverse.mp member)
    simpa using passed

theorem getLast?_withoutFinalNewlines (text : List Char) :
    (withoutFinalNewlines text).getLast? ≠ some '\n' := by
  intro last
  have stops := List.head?_dropWhile_not (fun character => decide (character = '\n')) text.reverse
  rw [withoutFinalNewlines, List.getLast?_reverse] at last
  rw [last] at stops
  simp at stops

theorem withoutFinalNewlines_feeds (text : List Char) {feeds : List Char}
    (feeding : ∀ character ∈ feeds, character = '\n') :
    withoutFinalNewlines (text ++ feeds) = withoutFinalNewlines text := by
  rw [withoutFinalNewlines, List.reverse_append, List.dropWhile_append_of_pos, withoutFinalNewlines]
  intro character member
  simpa using feeding character (List.mem_reverse.mp member)

theorem withoutFinalNewlines_of_getLast? {text : List Char} (last : text.getLast? ≠ some '\n') :
    withoutFinalNewlines text = text := by
  rw [← List.head?_reverse] at last
  rw [withoutFinalNewlines]
  cases shown : text.reverse with
  | nil => simpa using congrArg List.reverse shown.symm
  | cons character others =>
      rw [shown] at last
      have stays : character ≠ '\n' := by simpa using last
      rw [List.dropWhile_cons_of_neg (by simpa using stays), ← shown, List.reverse_reverse]

/-- Only the end changes, if something stays of it. -/
theorem withoutFinalNewlines_behind (front : List Char) {text : List Char}
    (stays : withoutFinalNewlines text ≠ []) :
    withoutFinalNewlines (front ++ text) = front ++ withoutFinalNewlines text := by
  have last := getLast?_withoutFinalNewlines text
  obtain ⟨feeds, split, feeding⟩ := withoutFinalNewlines_append text
  have whole : front ++ text = front ++ withoutFinalNewlines text ++ feeds := by
    rw [List.append_assoc, ← split]
  rw [whole, withoutFinalNewlines_feeds _ feeding]
  refine withoutFinalNewlines_of_getLast? ?_
  rw [List.getLast?_append]
  cases shown : (withoutFinalNewlines text).getLast? with
  | none => exact absurd (List.getLast?_eq_none_iff.mp shown) stays
  | some character =>
      rw [shown] at last
      simpa using last

theorem withoutFinalNewlines_ne_nil {first : Char} {rest : List Char} (visible : first ≠ '\n') :
    withoutFinalNewlines (first :: rest) ≠ [] := by
  intro none
  obtain ⟨feeds, split, feeding⟩ := withoutFinalNewlines_append (first :: rest)
  rw [none, List.nil_append] at split
  exact visible (feeding first (split ▸ List.mem_cons_self))

end ReleaseRules.Document
