import ReleaseRules.Proofs.Template.Placeholders
import ReleaseRules.Proofs.Text.Runs
import ReleaseRules.Rules.VersionPattern

/-!
Contract: the pieces of placeholder patterns.

Owns:
- the pieces of a pattern: put together they are the pattern, the names of placeholders are names,
  and no brace that is left begins a placeholder;
- the version between braces is a placeholder wherever it stands.

Does not own: the regular expression of the pieces.
-/

namespace ReleaseRules.VersionPattern

open Template (isNameStart isNamePart name? afterSingleBrace?)
open Text (takeWhile_append_of_stop dropWhile_append_of_stop)

/-- A piece as it stands in the pattern. -/
def Piece.source : Piece → List Char
  | .literal character => [character]
  | .placeholder name => '\x7b' :: (name ++ ['\x7d'])

/-- Text that can stand between the braces of a placeholder. -/
def IsPlaceholderName (name : List Char) : Prop :=
  ∃ first others, name = first :: others ∧ isNameStart first = true ∧
    ∀ character ∈ others, isNamePart character = true

theorem exists_of_afterSingleBrace? {text name after : List Char}
    (found : afterSingleBrace? text = some (name, after)) :
    text = name ++ '\x7d' :: after ∧ IsPlaceholderName name := by
  unfold afterSingleBrace? at found
  split at found
  · rename_i name' after' named
    obtain ⟨rfl, rfl⟩ := Prod.mk.inj (Option.some.inj found)
    exact Template.exists_of_name? named
  · cases found

/-- The pieces of a text, put together, are the text. -/
theorem flatMap_source_piecesFrom (skip : Nat) (text : List Char) (inside : skip ≤ text.length) :
    (piecesFrom skip text).flatMap Piece.source = text.drop skip := by
  induction text generalizing skip with
  | nil =>
      obtain rfl : skip = 0 := Nat.le_zero.mp inside
      rfl
  | cons character rest inductionHypothesis =>
      cases skip with
      | succ more => exact inductionHypothesis more (Nat.le_of_succ_le_succ inside)
      | zero =>
          have alone := inductionHypothesis 0 (Nat.zero_le _)
          rw [List.drop_zero] at alone
          simp only [piecesFrom]
          split
          · rename_i opens
            split
            · rename_i name after found
              obtain ⟨shape, -⟩ := exists_of_afterSingleBrace? found
              have skipped : rest.length - after.length = name.length + 1 := by
                rw [shape]
                simp
                omega
              rw [List.flatMap_cons, skipped, inductionHypothesis _ (by rw [shape]; simp), shape,
                Piece.source, opens]
              simp
            · rw [List.flatMap_cons, alone]
              rfl
          · rw [List.flatMap_cons, alone]
            rfl

/-- The names of placeholders are names. -/
theorem isPlaceholderName_of_mem {name : List Char} (skip : Nat) (text : List Char)
    (member : .placeholder name ∈ piecesFrom skip text) : IsPlaceholderName name := by
  induction text generalizing skip with
  | nil => cases member
  | cons character rest inductionHypothesis =>
      cases skip with
      | succ more => exact inductionHypothesis more member
      | zero =>
          simp only [piecesFrom] at member
          split at member
          · split at member
            · rename_i found
              rcases List.mem_cons.mp member with same | later
              · obtain rfl := Piece.placeholder.inj same
                exact (exists_of_afterSingleBrace? found).2
              · exact inductionHypothesis _ later
            · exact inductionHypothesis 0 ((List.mem_cons.mp member).resolve_left nofun)
          · exact inductionHypothesis 0 ((List.mem_cons.mp member).resolve_left nofun)

theorem IsPlaceholderName.forall_ne {name : List Char} (isName : IsPlaceholderName name)
    {character : Char} (foreign : isNamePart character = false) : ∀ other ∈ name, other ≠ character := by
  obtain ⟨first, others, rfl, starts, follow⟩ := isName
  rintro other member rfl
  rcases List.mem_cons.mp member with rfl | later
  · rw [isNamePart, starts] at foreign
    cases foreign
  · rw [follow other later] at foreign
    cases foreign

/-- A name with a brace behind it ends a placeholder. -/
theorem afterSingleBrace?_of_isPlaceholderName {name : List Char} (isName : IsPlaceholderName name)
    (rest : List Char) : afterSingleBrace? (name ++ '\x7d' :: rest) = some (name, rest) := by
  obtain ⟨first, others, rfl, starts, follow⟩ := isName
  have stops : ('\x7d' :: rest).head?.any isNamePart = false := rfl
  have named : name? (first :: others ++ '\x7d' :: rest) =
      some (first :: others, '\x7d' :: rest) := by
    rw [List.cons_append, name?, if_pos starts, takeWhile_append_of_stop follow stops,
      dropWhile_append_of_stop follow stops]
  rw [afterSingleBrace?, named]
  rfl

/-- Pieces of a pattern: put together they are the pattern, placeholders have names, and no literal
brace begins a placeholder. -/
structure ArePiecesOf (pattern : List Char) (pieces : List Piece) : Prop where
  whole : pieces.flatMap Piece.source = pattern
  named : ∀ name, .placeholder name ∈ pieces → IsPlaceholderName name
  maximal : ∀ before after, pieces = before ++ .literal '\x7b' :: after →
    ∀ name, IsPlaceholderName name → ¬ name ++ ['\x7d'] <+: after.flatMap Piece.source

theorem no_placeholder_behind_literal {skip : Nat} {text : List Char} {before after : List Piece}
    (shape : piecesFrom skip text = before ++ .literal '\x7b' :: after) :
    afterSingleBrace? (after.flatMap Piece.source) = none := by
  induction text generalizing skip before with
  | nil => cases before <;> cases shape
  | cons character rest inductionHypothesis =>
      cases skip with
      | succ more => exact inductionHypothesis shape
      | zero =>
          simp only [piecesFrom] at shape
          split at shape
          · split at shape
            · cases before with
              | nil => cases shape
              | cons piece before => exact inductionHypothesis (List.cons.inj shape).2
            · rename_i unnamed
              cases before with
              | nil =>
                  rw [← (List.cons.inj shape).2, flatMap_source_piecesFrom 0 rest (Nat.zero_le _)]
                  exact unnamed
              | cons piece before => exact inductionHypothesis (List.cons.inj shape).2
          · rename_i ordinary
            cases before with
            | nil => exact absurd (Piece.literal.inj (List.cons.inj shape).1) ordinary
            | cons piece before => exact inductionHypothesis (List.cons.inj shape).2

/-- A pattern is cut into its pieces. -/
theorem arePiecesOf_pieces (pattern : List Char) : ArePiecesOf pattern (pieces pattern) where
  whole := flatMap_source_piecesFrom 0 pattern (Nat.zero_le _)
  named := fun _ => isPlaceholderName_of_mem 0 pattern
  maximal := by
    rintro before after shape name isName ⟨rest, opens⟩
    have unnamed := no_placeholder_behind_literal shape
    rw [← opens, List.append_assoc, List.singleton_append,
      afterSingleBrace?_of_isPlaceholderName isName] at unnamed
    cases unnamed

/-- No placeholder reaches into a brace behind it. -/
theorem length_sub_le_of_afterSingleBrace? {front behind name after : List Char}
    (found : afterSingleBrace? (front ++ '\x7b' :: behind) = some (name, after)) :
    (front ++ '\x7b' :: behind).length - after.length ≤ front.length := by
  obtain ⟨shape, isName⟩ := exists_of_afterSingleBrace? found
  have joined : front ++ '\x7b' :: behind = (name ++ ['\x7d']) ++ after := by
    rw [shape, List.append_assoc, List.singleton_append]
  rcases List.append_eq_append_iff.mp joined with ⟨tail, consumed, rest⟩ | ⟨tail, rfl, rest⟩
  · cases tail with
    | nil =>
        rw [rest]
        simp
    | cons brace tail =>
        obtain ⟨rfl, -⟩ := List.cons.inj rest
        have member : '\x7b' ∈ name ++ ['\x7d'] := consumed ▸ by simp
        rcases List.mem_append.mp member with inName | isClosing
        · exact absurd rfl (isName.forall_ne (by decide) _ inName)
        · cases List.mem_singleton.mp isClosing
  · rw [rest]
    simp
    omega

theorem placeholder_mem_piecesFrom (skip : Nat) (front behind : List Char)
    (before : skip ≤ front.length) :
    .placeholder versionGroup.toList ∈
      piecesFrom skip (front ++ ("\x7bversion\x7d".toList ++ behind)) := by
  induction front generalizing skip with
  | nil =>
      obtain rfl : skip = 0 := Nat.le_zero.mp before
      exact List.mem_cons_self
  | cons character rest inductionHypothesis =>
      cases skip with
      | succ more => exact inductionHypothesis more (Nat.le_of_succ_le_succ before)
      | zero =>
          have alone := inductionHypothesis 0 (Nat.zero_le _)
          simp only [List.cons_append, piecesFrom]
          split
          · split
            · rename_i name after found
              exact List.mem_cons_of_mem _
                (inductionHypothesis _ (length_sub_le_of_afterSingleBrace? found))
            · exact List.mem_cons_of_mem _ alone
          · exact List.mem_cons_of_mem _ alone

theorem hasVersionPlaceholder_of_contains {pattern : List Char}
    (holds : "\x7bversion\x7d".toList <:+: pattern) : hasVersionPlaceholder pattern = true := by
  obtain ⟨front, behind, rfl⟩ := holds
  rw [hasVersionPlaceholder, List.contains_iff_mem, List.append_assoc]
  exact placeholder_mem_piecesFrom 0 front behind (Nat.zero_le _)

end ReleaseRules.VersionPattern
