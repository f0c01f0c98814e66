import ReleaseRules.Proofs.Version.PlaceholderSource

/-!
Contract: the groups of placeholder patterns.

Owns:
- the names of the groups: every name of a placeholder once, in order;
- the numbers of the groups: from one on, in order;
- the group of the first placeholder of a name, with what stands before and behind it.

Does not own: what the groups read.
-/

namespace ReleaseRules.VersionPattern

open Regex (Expression)

/-- The names of placeholders, each where it stands first. `seen` are the names so far. -/
def firstNames (seen : List (List Char)) : List Piece → List (List Char)
  | [] => []
  | .literal _ :: rest => firstNames seen rest
  | .placeholder name :: rest =>
      if seen.contains name then firstNames (name :: seen) rest
      else name :: firstNames (name :: seen) rest

section Names

variable {seen : List (List Char)} {name : List Char}

theorem firstNames_of_mem (old : name ∈ seen) (rest : List Piece) :
    firstNames seen (.placeholder name :: rest) = firstNames (name :: seen) rest :=
  if_pos (List.contains_iff_mem.mpr old)

theorem firstNames_of_notMem (fresh : name ∉ seen) (rest : List Piece) :
    firstNames seen (.placeholder name :: rest) = name :: firstNames (name :: seen) rest :=
  if_neg (mt List.contains_iff_mem.mp fresh)

/-- The names are those of placeholders, and none was seen before. -/
theorem mem_of_mem_firstNames {pieces : List Piece} (member : name ∈ firstNames seen pieces) :
    .placeholder name ∈ pieces ∧ name ∉ seen := by
  induction pieces generalizing seen with
  | nil => cases member
  | cons piece rest inductionHypothesis =>
      cases piece with
      | literal character =>
          obtain ⟨inRest, fresh⟩ := inductionHypothesis (show name ∈ firstNames seen rest from member)
          exact ⟨List.mem_cons_of_mem _ inRest, fresh⟩
      | placeholder other =>
          by_cases old : other ∈ seen
          · rw [firstNames_of_mem old] at member
            obtain ⟨inRest, fresh⟩ := inductionHypothesis member
            exact ⟨List.mem_cons_of_mem _ inRest, mt (List.mem_cons_of_mem other) fresh⟩
          · rw [firstNames_of_notMem old] at member
            rcases List.mem_cons.mp member with rfl | later
            · exact ⟨List.mem_cons_self, old⟩
            · obtain ⟨inRest, fresh⟩ := inductionHypothesis later
              exact ⟨List.mem_cons_of_mem _ inRest, mt (List.mem_cons_of_mem other) fresh⟩

end Names

/-! ## Numbers -/

theorem innerExpressions_groups (name : List Char) :
    Expression.partGroups (innerExpressions name) = [] := by
  rw [innerExpressions]
  cases isVersion name <;> rfl

theorem innerExpression_groups (name : List Char) : (innerExpression name).groups = [] := by
  rw [innerExpression]
  cases isVersion name <;> rfl

/-- The groups of the parts are numbered in order, and have the names of the placeholders. -/
theorem partGroups_partsFrom (seen : List (List Char)) (count : Nat) (pieces : List Piece) :
    Expression.partGroups ((partsFrom seen count pieces).flatMap Part.expressions) =
      (List.range' (count + 1) (firstNames seen pieces).length).zip
        ((firstNames seen pieces).map fun name => some (String.ofList name)) := by
  induction pieces generalizing seen count with
  | nil => rfl
  | cons piece rest inductionHypothesis =>
      cases piece with
      | literal character => exact inductionHypothesis seen count
      | placeholder name =>
          by_cases old : name ∈ seen
          · rw [partsFrom_of_mem old, firstNames_of_mem old, List.flatMap_cons,
              Regex.partGroups_append, Part.expressions, innerExpressions_groups, List.nil_append,
              inductionHypothesis]
          · have group : Expression.partGroups (Part.group (count + 1) name).expressions =
                [(count + 1, some (String.ofList name))] := by
              rw [Part.expressions, Expression.partGroups, Expression.groups,
                innerExpression_groups]
              rfl
            rw [partsFrom_of_notMem old, firstNames_of_notMem old, List.flatMap_cons,
              Regex.partGroups_append, group, inductionHypothesis, List.length_cons,
              List.range'_succ, List.map_cons, List.zip_cons_cons, List.singleton_append]

theorem lt_of_mem_partGroups {seen : List (List Char)} {count : Nat} {pieces : List Piece} :
    ∀ group ∈ Expression.partGroups ((partsFrom seen count pieces).flatMap Part.expressions),
      count < group.1 := by
  intro group member
  rw [partGroups_partsFrom] at member
  exact (List.mem_range'_1.mp (List.of_mem_zip member).1).1

/-- The names of the groups of a placeholder pattern. -/
theorem namesOf_groups_placeholderExpression (pattern : List Char) :
    Regex.namesOf (placeholderExpression pattern).groups =
      none :: (firstNames [] (pieces pattern)).map fun name => some (String.ofList name) := by
  have groups : (placeholderExpression pattern).groups = Expression.partGroups
      ((partsFrom [] 0 (pieces pattern)).flatMap Part.expressions ++ [.assertion .textEnd]) := rfl
  rw [Regex.partGroups_append, partGroups_partsFrom] at groups
  have counted := Regex.namesOf_zip_range'
    ((firstNames [] (pieces pattern)).map fun name => some (String.ofList name))
  rw [List.length_map] at counted
  rw [groups, ← counted]
  exact congrArg Regex.namesOf (List.append_nil _)

/-! ## The first placeholder of a name -/

/-- The names so far behind some pieces. -/
def seenBehind (seen : List (List Char)) : List Piece → List (List Char)
  | [] => seen
  | .literal _ :: rest => seenBehind seen rest
  | .placeholder name :: rest => seenBehind (name :: seen) rest

theorem mem_seenBehind {seen : List (List Char)} {name : List Char} {pieces : List Piece} :
    name ∈ seenBehind seen pieces ↔ name ∈ seen ∨ .placeholder name ∈ pieces := by
  induction pieces generalizing seen with
  | nil => simp [seenBehind]
  | cons piece rest inductionHypothesis =>
      cases piece with
      | literal character => simp [seenBehind, inductionHypothesis]
      | placeholder other =>
          rw [seenBehind, inductionHypothesis, List.mem_cons, List.mem_cons, Piece.placeholder.injEq,
            or_assoc, or_left_comm]

theorem firstNames_append (seen : List (List Char)) (before after : List Piece) :
    firstNames seen (before ++ after) =
      firstNames seen before ++ firstNames (seenBehind seen before) after := by
  induction before generalizing seen with
  | nil => rfl
  | cons piece rest inductionHypothesis =>
      cases piece with
      | literal character => exact inductionHypothesis seen
      | placeholder name =>
          rw [List.cons_append, seenBehind]
          by_cases old : name ∈ seen
          · rw [firstNames_of_mem old, firstNames_of_mem old, inductionHypothesis]
          · rw [firstNames_of_notMem old, firstNames_of_notMem old, inductionHypothesis,
              List.cons_append]

/-- Behind some pieces, the parts go on with the names of these pieces and the number of their
groups. -/
theorem partsFrom_append (seen : List (List Char)) (count : Nat) (before after : List Piece) :
    partsFrom seen count (before ++ after) = partsFrom seen count before ++
      partsFrom (seenBehind seen before) (count + (firstNames seen before).length) after := by
  induction before generalizing seen count with
  | nil => rfl
  | cons piece rest inductionHypothesis =>
      cases piece with
      | literal character => exact congrArg (_ :: ·) (inductionHypothesis seen count)
      | placeholder name =>
          rw [List.cons_append, seenBehind]
          by_cases old : name ∈ seen
          · rw [firstNames_of_mem old, partsFrom_of_mem old, partsFrom_of_mem old,
              inductionHypothesis, List.cons_append]
          · rw [firstNames_of_notMem old, partsFrom_of_notMem old, partsFrom_of_notMem old,
              inductionHypothesis, List.cons_append, List.length_cons, Nat.add_assoc,
              Nat.add_comm 1]

section First

variable {name : List Char} {before : List Piece}

/-- No piece before the first placeholder of a name has this name. -/
theorem notMem_seenBehind (first : .placeholder name ∉ before) : name ∉ seenBehind [] before :=
  fun member => (mem_seenBehind.mp member).elim List.not_mem_nil first

theorem firstNames_of_first (first : .placeholder name ∉ before) (after : List Piece) :
    firstNames [] (before ++ .placeholder name :: after) =
      firstNames [] before ++ name :: firstNames (name :: seenBehind [] before) after := by
  rw [firstNames_append, firstNames_of_notMem (notMem_seenBehind first)]

/-- The first placeholder of a name is a group. -/
theorem partsFrom_of_first (first : .placeholder name ∉ before) (after : List Piece) :
    partsFrom [] 0 (before ++ .placeholder name :: after) = partsFrom [] 0 before ++
      .group ((firstNames [] before).length + 1) name ::
        partsFrom (name :: seenBehind [] before) ((firstNames [] before).length + 1) after := by
  rw [partsFrom_append, partsFrom_of_notMem (notMem_seenBehind first), Nat.zero_add]

end First

/-- The names of the groups for the pieces before some placeholder, with the whole match. -/
def namesBefore (before : List Piece) : List (Option String) :=
  none :: (firstNames [] before).map fun name => some (String.ofList name)

theorem length_namesBefore (before : List Piece) :
    (namesBefore before).length = (firstNames [] before).length + 1 := by
  rw [namesBefore, List.length_cons, List.length_map]

/-- The first placeholder of a name has the only group of this name. -/
theorem namesOf_of_first {pattern name : List Char} {before after : List Piece}
    (shape : pieces pattern = before ++ .placeholder name :: after)
    (first : .placeholder name ∉ before) :
    ∃ behind, Regex.namesOf (placeholderExpression pattern).groups =
        namesBefore before ++ some (String.ofList name) :: behind ∧
      some (String.ofList name) ∉ namesBefore before ∧ some (String.ofList name) ∉ behind := by
  have absent : ∀ others : List (List Char), name ∉ others →
      some (String.ofList name) ∉ others.map fun name => some (String.ofList name) := by
    intro others fresh member
    obtain ⟨other, isOther, same⟩ := List.mem_map.mp member
    exact fresh (String.ofList_injective (Option.some.inj same) ▸ isOther)
  refine ⟨(firstNames (name :: seenBehind [] before) after).map fun name =>
    some (String.ofList name), ?_, ?_, ?_⟩
  · rw [namesOf_groups_placeholderExpression, shape, firstNames_of_first first, List.map_append,
      List.map_cons, namesBefore, List.cons_append]
  · have fresh : name ∉ firstNames [] before := fun member => first (mem_of_mem_firstNames member).1
    exact fun member => absent _ fresh ((List.mem_cons.mp member).resolve_left nofun)
  · exact absent _ fun member => (mem_of_mem_firstNames member).2 List.mem_cons_self

end ReleaseRules.VersionPattern
