import ReleaseRules.Proofs.Template.Placeholders
import ReleaseRules.Proofs.Template.Slots

/-!
Contract: the text of a template in which slots stand for placeholders.

Owns:
- the marked texts of pieces, of which the text as it is written is one;
- a slot that literal pieces write is a slot in every marked text;
- the values of variables are put into slots, one for each placeholder with a value.

Does not own: calls, and what becomes of the slots.
-/

namespace ReleaseRules.Template

variable {bindings : Variables} {slots : Slots} {parts : List Piece} {text : List Char}

/-- Whether a piece is a placeholder with a value. -/
def Piece.isKnown (bindings : Variables) : Piece → Bool
  | .literal _ => false
  | .placeholder name _ => (Tree.lookup name bindings).isSome

/-- A text of pieces in which a slot stands for every placeholder with a value. -/
inductive Marked (slots : Slots) (bindings : Variables) : List Piece → List Char → Prop where
  | nil : Marked slots bindings [] []
  | literal (character : Char) {parts : List Piece} {text : List Char}
      (rest : Marked slots bindings parts text) :
      Marked slots bindings (.literal character :: parts) (character :: text)
  | known {name : String} {source : List Char} {value : String} {number : Nat}
      {parts : List Piece} {text : List Char} (braced : IsBraced source)
      (bound : Tree.lookup name bindings = some value)
      (kept : slots[number]? = some value.toList) (rest : Marked slots bindings parts text) :
      Marked slots bindings (.placeholder name source :: parts) (slotText number ++ text)
  | unknown {name : String} {source : List Char} {parts : List Piece} {text : List Char}
      (braced : IsBraced source) (free : Tree.lookup name bindings = none)
      (rest : Marked slots bindings parts text) :
      Marked slots bindings (.placeholder name source :: parts) (source ++ text)

namespace Marked

/-- As it is written, a template is the marked text of its pieces without values. -/
theorem written (marked : Marked slots bindings parts text) :
    Marked slots [] parts (parts.flatMap Piece.written) := by
  induction marked with
  | nil => exact .nil
  | literal character _ inductionHypothesis => exact .literal character inductionHypothesis
  | known braced _ _ _ inductionHypothesis => exact .unknown braced rfl inductionHypothesis
  | unknown braced _ _ inductionHypothesis => exact .unknown braced rfl inductionHypothesis

/-- Literal pieces are shown by their characters. -/
theorem literals_append_iff {front : List Char} {others : List Piece} :
    Marked slots bindings (front.map .literal ++ others) text ↔
      ∃ behind, text = front ++ behind ∧ Marked slots bindings others behind := by
  induction front generalizing text with
  | nil => simp
  | cons first rest inductionHypothesis =>
      constructor
      · intro marked
        cases marked with
        | literal _ later =>
            obtain ⟨behind, rfl, shown⟩ := inductionHypothesis.mp later
            exact ⟨behind, rfl, shown⟩
      · rintro ⟨behind, rfl, shown⟩
        exact .literal first (inductionHypothesis.mpr ⟨behind, rfl, shown⟩)

/-- Digits with a closing mark behind them are literal pieces: a slot starts with an opening mark,
and a placeholder with a brace. -/
theorem exists_of_digits {digits after : List Char}
    (marked : Marked slots bindings parts (digits ++ slotClose :: after))
    (decimal : ∀ character ∈ digits, Number.isDecimalDigit character = true) :
    ∃ others, parts = (digits ++ [slotClose]).map .literal ++ others ∧
      Marked slots bindings others after := by
  induction digits generalizing parts with
  | nil =>
      generalize shown : [] ++ slotClose :: after = text at marked
      cases marked with
      | nil => cases shown
      | @literal character others _ rest =>
          obtain ⟨rfl, rfl⟩ := List.cons.inj shown
          exact ⟨others, rfl, rest⟩
      | known => cases (List.cons.inj shown).1
      | unknown braced =>
          obtain ⟨inside, rfl, -⟩ := braced
          cases (List.cons.inj shown).1
  | cons first digits inductionHypothesis =>
      have isDigit := decimal first List.mem_cons_self
      generalize shown : first :: digits ++ slotClose :: after = text at marked
      cases marked with
      | nil => cases shown
      | literal _ rest =>
          obtain ⟨rfl, rfl⟩ := List.cons.inj shown
          obtain ⟨others, rfl, later⟩ := inductionHypothesis rest fun character member =>
            decimal character (List.mem_cons_of_mem first member)
          exact ⟨others, rfl, later⟩
      | known =>
          obtain rfl := (List.cons.inj shown).1
          cases isDigit
      | unknown braced =>
          obtain ⟨inside, rfl, -⟩ := braced
          obtain rfl := (List.cons.inj shown).1
          cases isDigit

/-- A slot that starts with a literal piece is made of literal pieces, and is a slot in every text
that shows these pieces. -/
theorem exists_of_slot? {first : Char} {number : Nat} {after : List Char}
    (marked : Marked slots bindings (.literal first :: parts) (first :: text))
    (found : slot? (first :: text) = some (number, after)) :
    ∃ front others, .literal first :: parts = front.map .literal ++ others ∧
      Marked slots bindings others after ∧ slotOpen ∈ front ∧
      ∀ behind, slot? (front ++ behind) = some (number, behind) := by
  obtain ⟨digits, shown, decimal, read⟩ := slot?_eq_some_iff.mp found
  obtain ⟨rfl, rfl⟩ := List.cons.inj shown
  cases marked with
  | literal _ rest =>
      obtain ⟨others, rfl, later⟩ := rest.exists_of_digits decimal
      refine ⟨slotOpen :: (digits ++ [slotClose]), others, rfl, later, List.mem_cons_self, ?_⟩
      intro behind
      exact slot?_eq_some_iff.mpr ⟨digits, by simp, decimal, read⟩

/-- Slots have no parenthesis in them. -/
theorem noParenthesis (marked : Marked slots bindings parts text)
    (written : '(' ∉ parts.flatMap Piece.written) : '(' ∉ text := by
  induction marked with
  | nil => nofun
  | literal character _ inductionHypothesis =>
      rw [List.flatMap_cons, Piece.written, List.singleton_append, List.mem_cons, not_or] at written
      exact List.not_mem_cons_of_ne_of_not_mem written.1 (inductionHypothesis written.2)
  | @known _ _ _ number _ _ _ _ _ _ inductionHypothesis =>
      rw [List.flatMap_cons, List.mem_append, not_or] at written
      have outside : ∀ character ∈ slotText number, character ≠ '(' := by
        apply forall_slotText
        · decide
        · rintro character decimal rfl
          cases decimal
        · decide
      rw [List.mem_append, not_or]
      exact ⟨fun member => outside '(' member rfl, inductionHypothesis written.2⟩
  | unknown _ _ _ inductionHypothesis =>
      rw [List.flatMap_cons, List.mem_append, not_or] at written
      rw [List.mem_append, not_or]
      exact ⟨written.1, inductionHypothesis written.2⟩

end Marked

/-! ## Values in slots -/

/-- Slots behind others, with the marked text of pieces. -/
structure Prepared (bindings : Variables) (parts : List Piece) (slots : Slots)
    (result : List Char × Slots) : Prop where
  longer : slots.Extends result.2
  marked : Marked result.2 bindings parts result.1
  size : result.2.size = slots.size + parts.countP (Piece.isKnown bindings)
  values : ∀ value ∈ result.2, value ∈ slots ∨
    ∃ name known, Tree.lookup name bindings = some known ∧ value = known.toList

theorem prepared_markPieces
    (braced : ∀ name source, .placeholder name source ∈ parts → IsBraced source) (slots : Slots) :
    Prepared bindings parts slots (markPieces bindings parts slots) := by
  induction parts generalizing slots with
  | nil => exact ⟨.refl slots, .nil, rfl, fun _ member => .inl member⟩
  | cons piece rest inductionHypothesis =>
      have later := inductionHypothesis fun name source member =>
        braced name source (List.mem_cons_of_mem piece member)
      cases piece with
      | literal character =>
          have rest := later slots
          exact ⟨rest.longer, .literal character rest.marked, rest.size, rest.values⟩
      | placeholder name source =>
          have first := braced name source List.mem_cons_self
          rw [markPieces]
          cases found : Tree.lookup name bindings with
          | none =>
              have rest := later slots
              have counted : Piece.isKnown bindings (.placeholder name source) = false := by
                rw [Piece.isKnown, found]
                rfl
              refine ⟨rest.longer, .unknown first found rest.marked, ?_, rest.values⟩
              rw [List.countP_cons_of_neg (by simp [counted])]
              exact rest.size
          | some value =>
              have longer := slots.extends_push value.toList
              have rest := later (slots.push value.toList)
              have kept : (slots.push value.toList)[slots.size]? = some value.toList :=
                Array.getElem?_push_size
              have counted : Piece.isKnown bindings (.placeholder name source) = true := by
                rw [Piece.isKnown, found]
                rfl
              refine ⟨longer.trans rest.longer, .known first found (rest.longer _ _ kept) rest.marked,
                ?_, ?_⟩
              · rw [List.countP_cons_of_pos counted, ← Nat.add_assoc, Nat.add_right_comm,
                  ← Array.size_push]
                exact rest.size
              · intro other member
                rcases rest.values other member with before | ofVariable
                · rcases Array.mem_push.mp before with old | rfl
                  · exact .inl old
                  · exact .inr ⟨name, value, found, rfl⟩
                · exact .inr ofVariable

end ReleaseRules.Template
