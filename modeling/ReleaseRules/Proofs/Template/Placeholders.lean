import Mathlib.Data.List.TakeWhile
import ReleaseRules.Template.Placeholder

/-!
Contract: names and placeholders as they are written.

Owns:
- the characters of a name and of a placeholder at the start of a text;
- the pieces of a template, put together, are the template.

Does not own: the values that stand for placeholders.
-/

namespace ReleaseRules.Template

open Unicode (isBlank)

/-- A name at the start of a text is not empty, and its characters are those of names. -/
theorem exists_of_name? {text name after : List Char} (found : name? text = some (name, after)) :
    text = name ++ after ∧ ∃ first others, name = first :: others ∧ isNameStart first = true ∧
      ∀ character ∈ others, isNamePart character = true := by
  cases text with
  | nil => cases found
  | cons first rest =>
      rw [name?] at found
      split at found
      · rename_i starts
        obtain ⟨rfl, rfl⟩ := Prod.mk.inj (Option.some.inj found)
        refine ⟨?_, first, rest.takeWhile isNamePart, rfl, starts,
          fun character member => List.mem_takeWhile_imp member⟩
        rw [List.cons_append, List.takeWhile_append_dropWhile]
      · cases found

theorem forall_isNamePart_of_name? {text name after : List Char}
    (found : name? text = some (name, after)) :
    ∀ character ∈ name, isNamePart character = true := by
  obtain ⟨-, first, others, rfl, starts, follow⟩ := exists_of_name? found
  intro character member
  rcases List.mem_cons.mp member with rfl | later
  · rw [isNamePart, starts, Bool.true_or]
  · exact follow character later

/-- Whether a character can stand in a placeholder behind its first brace. -/
def isPlaceholderPart (character : Char) : Bool :=
  isNamePart character || isBlank character || character = '\x7b' || character = '\x7d'

/-- A placeholder as it is written. -/
def IsBraced (source : List Char) : Prop :=
  ∃ inside, source = '\x7b' :: inside ∧ ∀ character ∈ inside, isPlaceholderPart character = true

theorem exists_inside_of_single {text name after : List Char}
    (found : afterSingleBrace? text = some (name, after)) :
    ∃ inside, text = inside ++ after ∧
      ∀ character ∈ inside, isPlaceholderPart character = true := by
  unfold afterSingleBrace? at found
  split at found
  · rename_i written _ named
    obtain ⟨rfl, rfl⟩ := Prod.mk.inj (Option.some.inj found)
    have part := forall_isNamePart_of_name? named
    refine ⟨written ++ ['\x7d'], by simpa using (exists_of_name? named).1, ?_⟩
    intro character member
    rcases List.mem_append.mp member with inName | brace
    · rw [isPlaceholderPart, part character inName]
      rfl
    · obtain rfl := List.mem_singleton.mp brace
      decide
  · cases found

theorem exists_inside_of_double {text name after : List Char}
    (found : afterDoubleBrace? text = some (name, after)) :
    ∃ inside, text = inside ++ after ∧
      ∀ character ∈ inside, isPlaceholderPart character = true := by
  have blankIsPart {test : List Char} : ∀ character ∈ test.takeWhile isBlank,
      isPlaceholderPart character = true := by
    intro character member
    rw [isPlaceholderPart, List.mem_takeWhile_imp member, Bool.or_true]
    rfl
  unfold afterDoubleBrace? at found
  split at found
  · cases found
  · rename_i written rest named
    split at found
    · rename_i closed
      obtain ⟨rfl, rfl⟩ := Prod.mk.inj (Option.some.inj found)
      have part := forall_isNamePart_of_name? named
      refine ⟨text.takeWhile isBlank ++ (written ++ (rest.takeWhile isBlank ++ ['\x7d', '\x7d'])),
        ?_, ?_⟩
      · have whole : text = text.takeWhile isBlank ++ (written ++ (rest.takeWhile isBlank ++
            rest.dropWhile isBlank)) := by
          rw [List.takeWhile_append_dropWhile, ← (exists_of_name? named).1,
            List.takeWhile_append_dropWhile]
        rw [closed] at whole
        simpa using whole
      · intro character member
        simp only [List.mem_append, List.mem_cons, List.not_mem_nil, or_false, or_self] at member
        rcases member with front | inName | behind | rfl
        · exact blankIsPart character front
        · rw [isPlaceholderPart, part character inName]
          rfl
        · exact blankIsPart character behind
        · decide
    · cases found

/-- A placeholder at the start of a text starts with a brace, and the text goes on behind it. -/
theorem exists_of_placeholder? {text name after : List Char}
    (found : placeholder? text = some (name, after)) :
    ∃ source, text = source ++ after ∧ IsBraced source := by
  have behindBrace {rest : List Char} (inner : ∃ inside, rest = inside ++ after ∧
      ∀ character ∈ inside, isPlaceholderPart character = true) :
      ∃ source, '\x7b' :: rest = source ++ after ∧ IsBraced source := by
    obtain ⟨inside, rfl, parts⟩ := inner
    exact ⟨'\x7b' :: inside, rfl, inside, rfl, parts⟩
  unfold placeholder? at found
  split at found
  · rename_i rest
    split at found
    · rename_i double
      obtain rfl := Option.some.inj found
      obtain ⟨inside, rfl, parts⟩ := exists_inside_of_double double
      refine behindBrace ⟨'\x7b' :: inside, rfl, ?_⟩
      intro character member
      rcases List.mem_cons.mp member with rfl | later
      · decide
      · exact parts character later
    · exact behindBrace (exists_inside_of_single found)
  · exact behindBrace (exists_inside_of_single found)
  · cases found

/-! ## Pieces -/

/-- The characters of a piece as it is written. -/
def Piece.written : Piece → List Char
  | .literal character => [character]
  | .placeholder _ source => source

/-- The characters that a piece takes from the text are a placeholder. -/
theorem isBraced_take_of_placeholder? {first : Char} {rest name after : List Char}
    (found : placeholder? (first :: rest) = some (name, after)) :
    IsBraced (first :: rest.take (rest.length - after.length)) := by
  obtain ⟨source, whole, inside, rfl, parts⟩ := exists_of_placeholder? found
  obtain ⟨rfl, same⟩ := List.cons.inj whole
  have length : rest.length - after.length = inside.length := by
    rw [same]
    simp
  rw [length, same]
  exact ⟨inside, congrArg _ List.take_left, parts⟩

/-- The pieces of a text, put together, are the text. -/
theorem flatMap_written_piecesFrom (skip : Nat) (text : List Char) :
    (piecesFrom skip text).flatMap Piece.written = text.drop skip := by
  induction text generalizing skip with
  | nil => simp [piecesFrom]
  | cons first rest inductionHypothesis =>
      cases skip with
      | succ more => exact inductionHypothesis more
      | zero =>
          rw [piecesFrom]
          cases found : placeholder? (first :: rest) with
          | none =>
              rw [List.flatMap_cons, inductionHypothesis]
              rfl
          | some parts =>
              rw [List.flatMap_cons, inductionHypothesis, Piece.written, List.cons_append,
                List.take_append_drop, List.drop_zero]

theorem flatMap_written_pieces (template : List Char) :
    (pieces template).flatMap Piece.written = template :=
  flatMap_written_piecesFrom 0 template

/-- The characters of a piece are characters of the template. -/
theorem mem_of_mem_piecesFrom {skip : Nat} {template : List Char} {piece : Piece}
    (member : piece ∈ piecesFrom skip template) : piece.written ⊆ template := by
  intro character inside
  have inText := List.mem_flatMap.mpr ⟨piece, member, inside⟩
  rw [flatMap_written_piecesFrom] at inText
  exact List.mem_of_mem_drop inText

/-- Placeholders of a template are written as placeholders. -/
theorem isBraced_of_mem_piecesFrom {skip : Nat} {text : List Char} {name : String}
    {source : List Char} (member : .placeholder name source ∈ piecesFrom skip text) :
    IsBraced source := by
  induction text generalizing skip with
  | nil => cases member
  | cons first rest inductionHypothesis =>
      cases skip with
      | succ more => exact inductionHypothesis member
      | zero =>
          rw [piecesFrom] at member
          cases found : placeholder? (first :: rest) with
          | none =>
              rw [found] at member
              exact inductionHypothesis ((List.mem_cons.mp member).resolve_left nofun)
          | some parts =>
              rw [found] at member
              rcases List.mem_cons.mp member with same | later
              · obtain ⟨-, rfl⟩ := Piece.placeholder.inj same
                exact isBraced_take_of_placeholder? found
              · exact inductionHypothesis later

end ReleaseRules.Template
