import ReleaseRules.Proofs.Document.Refusals
import ReleaseRules.Proofs.Document.Sameness

/-!
Contract: two writes to one tree, and their order.

Owns:
- paths that part, and the children that two writes along them go on with;
- what two writes leave in either order, up to the order of keys;
- when even the order of keys is the same;
- the depth of what two writes leave, and whether the second one is refused;
- what is read in trees that are the same.

Does not own: which values are written, and texts of trees.

Two paths that part share some segments first. Up to there both writes go on with the same child,
which the first one may have to make; from there on they go on with different ones.
-/

namespace ReleaseRules

open ReleaseRules.Tree (insert lookup keys Same)

namespace Tree

section Insertions

variable {α : Type} {first second : String}

theorem mem_insert_self (key : String) (value : α) (entries : List (String × α)) :
    (key, value) ∈ insert key value entries :=
  mem_of_lookup (lookup_insert_same key value entries)

/-- Two insertions commute if one of the keys is there already. If both are new, the order of the
insertions is the order of the keys. -/
theorem insert_comm (different : first ≠ second) (left right : α) {entries : List (String × α)}
    (present : (lookup first entries).isSome = true) :
    insert second right (insert first left entries) =
      insert first left (insert second right entries) := by
  induction entries with
  | nil => cases present
  | cons entry rest inductionHypothesis =>
      obtain ⟨name, old⟩ := entry
      by_cases isFirst : name = first
      · subst isFirst
        simp [insert, different]
      · have later : (lookup first rest).isSome = true := by
          simpa [lookup, isFirst] using present
        by_cases isSecond : name = second
        · simp [insert, isSecond, different.symm]
        · simp [insert, isFirst, isSecond, inductionHypothesis later]

/-- Each key has the same value after two insertions in either order. -/
theorem lookup_insert_comm (different : first ≠ second) (left right : α)
    (entries : List (String × α)) (key : String) :
    lookup key (insert second right (insert first left entries)) =
      lookup key (insert first left (insert second right entries)) := by
  simp only [lookup_insert]
  by_cases isFirst : key = first
  · subst isFirst
    simp [different]
  · simp [isFirst]

end Insertions

theorem nodup_of_isKeyed {entries : List (String × Tree)}
    (keyed : (Tree.map entries).isKeyed = true) : (keys entries).Nodup :=
  ((isKeyed_map_iff entries).mp keyed).1

/-- Maps that are the same lead to the same under each key. -/
theorem Same.lookup {left right : List (String × Tree)} (same : Same (.map left) (.map right))
    (keyedLeft : (Tree.map left).isKeyed = true) (keyedRight : (Tree.map right).isKeyed = true)
    (key : String) : Option.Rel Same (lookup key left) (lookup key right) :=
  (same_map_iff (nodup_of_isKeyed keyedLeft) (nodup_of_isKeyed keyedRight)).mp same key

theorem rel_lookup_self {entries : List (String × Tree)}
    (keyed : (Tree.map entries).isKeyed = true) (key : String) :
    Option.Rel Same (Tree.lookup key entries) (Tree.lookup key entries) :=
  (same_refl keyed).lookup keyed keyed key

theorem depth_map_le_iff {entries : List (String × Tree)} {bound : Nat} :
    (Tree.map entries).depth ≤ bound ↔
      0 < bound ∧ ∀ entry ∈ entries, entry.2.depth < bound := by
  rw [depth, Nat.add_one_le_iff]
  constructor
  · intro below
    have positive : 0 < bound := Nat.zero_lt_of_lt below
    exact ⟨positive, (entryDepth_lt_iff positive).mp below⟩
  · rintro ⟨positive, below⟩
    exact (entryDepth_lt_iff positive).mpr below

end Tree

namespace KeyPath

/-- Whether two paths part: neither continues the other. -/
inductive Apart : List String → List String → Prop where
  | here {first second : String} (different : first ≠ second) (rest others : List String) :
      Apart (first :: rest) (second :: others)
  | later (segment : String) {rest others : List String} (apart : Apart rest others) :
      Apart (segment :: rest) (segment :: others)

theorem apart_iff {path other : List String} :
    Apart path other ↔ ¬ path <+: other ∧ ¬ other <+: path := by
  constructor
  · intro apart
    induction apart with
    | here different rest others => simp [List.cons_prefix_cons, different, different.symm]
    | later segment apart inductionHypothesis => simpa [List.cons_prefix_cons] using
        inductionHypothesis
  · rintro ⟨notAbove, notBelow⟩
    induction path generalizing other with
    | nil => exact absurd List.nil_prefix notAbove
    | cons segment rest inductionHypothesis =>
        cases other with
        | nil => exact absurd List.nil_prefix notBelow
        | cons name others =>
            by_cases same : segment = name
            · subst same
              refine .later segment (inductionHypothesis ?_ ?_)
              · simpa [List.cons_prefix_cons] using notAbove
              · simpa [List.cons_prefix_cons] using notBelow
            · exact .here same rest others

theorem Apart.symm {path other : List String} (apart : Apart path other) : Apart other path :=
  apart_iff.mpr (apart_iff.mp apart).symm

theorem Apart.ne_nil {path other : List String} (apart : Apart path other) : path ≠ [] := by
  cases apart <;> exact List.cons_ne_nil _ _

/-! ## Writes and children -/

variable {tree value first second : Tree} {segment other : String} {path rest others : List String}

theorem write_cons (value tree : Tree) (segment : String) (rest : List String) :
    write value tree (segment :: rest) =
      .map (insert segment (write value (childUnder segment tree) rest) (entriesOf tree)) := rfl

theorem childUnder_write_same (value tree : Tree) (segment : String) (rest : List String) :
    childUnder segment (write value tree (segment :: rest)) =
      write value (childUnder segment tree) rest := by
  rw [childUnder, write_cons, entriesOf_map, Tree.lookup_insert_same, Option.getD_some]

theorem childUnder_write_of_ne (different : other ≠ segment) (value tree : Tree)
    (rest : List String) :
    childUnder other (write value tree (segment :: rest)) = childUnder other tree := by
  rw [childUnder, write_cons, entriesOf_map, Tree.lookup_insert_of_ne different, childUnder]

/-- Two writes below one child are one insertion of this child. -/
theorem write_write_same (first second tree : Tree) (segment : String)
    (rest others : List String) :
    write second (write first tree (segment :: rest)) (segment :: others) =
      .map (insert segment (write second (write first (childUnder segment tree) rest) others)
        (entriesOf tree)) := by
  rw [write_cons second, childUnder_write_same, write_cons first, entriesOf_map,
    Tree.insert_insert_same]

/-- Two writes below different children are two insertions. -/
theorem write_write_of_ne (different : segment ≠ other) (first second tree : Tree)
    (rest others : List String) :
    write second (write first tree (segment :: rest)) (other :: others) =
      .map (insert other (write second (childUnder other tree) others)
        (insert segment (write first (childUnder segment tree) rest) (entriesOf tree))) := by
  rw [write_cons second, childUnder_write_of_ne different.symm, write_cons first, entriesOf_map]

theorem every_entriesOf {test : Tree → Bool} (survives : Tree.SurvivesEdits test)
    (passed : tree.every test = true) : (Tree.map (entriesOf tree)).every test = true := by
  cases tree with
  | map entries => exact passed
  | _ => exact (Tree.every_map_iff []).mpr ⟨survives.empty, by simp⟩

theorem every_childUnder {test : Tree → Bool} (survives : Tree.SurvivesEdits test)
    (passed : tree.every test = true) (segment : String) :
    (childUnder segment tree).every test = true := by
  rw [childUnder]
  cases found : lookup segment (entriesOf tree) with
  | some child => exact Tree.every_of_lookup (every_entriesOf survives passed) found
  | none => exact (Tree.every_map_iff []).mpr ⟨survives.empty, by simp⟩

/-- A path is clear if the tree can be entered and the rest of the path is clear in the child. -/
theorem blockedSegment_cons_eq_none_iff :
    blockedSegment tree (segment :: rest) = none ↔
      tree.isObstacle = false ∧ blockedSegment (childUnder segment tree) rest = none := by
  have empty : ∀ path, blockedSegment (.map []) path = none := by
    intro path
    cases path <;> rfl
  cases tree with
  | null => exact ⟨fun _ => ⟨rfl, empty rest⟩, fun _ => rfl⟩
  | map entries =>
      rw [blockedSegment_map, childUnder, entriesOf_map]
      cases lookup segment entries with
      | none => exact ⟨fun _ => ⟨rfl, empty rest⟩, fun _ => rfl⟩
      | some child => exact ⟨fun clear => ⟨rfl, clear⟩, And.right⟩
  | _ => simp [blockedSegment, Tree.isObstacle]

/-! ## Two writes along paths that part -/

/-- A write that is not refused makes no other one refused, and unblocks none. -/
theorem blockedSegment_write_eq_none_iff (apart : Apart path others) (value : Tree)
    (clear : blockedSegment tree path = none) :
    blockedSegment (write value tree path) others = none ↔
      blockedSegment tree others = none := by
  induction apart generalizing tree with
  | here different rest others =>
      have entered := (blockedSegment_cons_eq_none_iff.mp clear).1
      rw [blockedSegment_cons_eq_none_iff, blockedSegment_cons_eq_none_iff,
        childUnder_write_of_ne different.symm, entered]
      exact Iff.rfl
  | later segment apart inductionHypothesis =>
      obtain ⟨entered, clearBelow⟩ := blockedSegment_cons_eq_none_iff.mp clear
      rw [blockedSegment_cons_eq_none_iff, blockedSegment_cons_eq_none_iff,
        childUnder_write_same, inductionHypothesis clearBelow, entered]
      exact Iff.rfl

/-- Two writes leave the same in either order, up to the order of keys. -/
theorem same_write_write (apart : Apart path others) (keyed : tree.isKeyed = true)
    (keyedFirst : first.isKeyed = true) (keyedSecond : second.isKeyed = true) :
    Same (write second (write first tree path) others)
      (write first (write second tree others) path) := by
  have survives := Tree.isKeyedNode_survives
  have keyedForth : (write second (write first tree path) others).isKeyed = true :=
    every_write survives keyedSecond (every_write survives keyedFirst keyed path) others
  have keyedBack : (write first (write second tree others) path).isKeyed = true :=
    every_write survives keyedFirst (every_write survives keyedSecond keyed others) path
  induction apart generalizing tree with
  | here different rest others =>
      rw [write_write_of_ne different] at keyedForth ⊢
      rw [write_write_of_ne different.symm] at keyedBack ⊢
      refine (Tree.same_map_iff (Tree.nodup_of_isKeyed keyedForth)
        (Tree.nodup_of_isKeyed keyedBack)).mpr fun key => ?_
      rw [← Tree.lookup_insert_comm different]
      exact Tree.rel_lookup_self keyedForth key
  | later segment apart inductionHypothesis =>
      rw [write_write_same] at keyedForth keyedBack ⊢
      rw [write_write_same]
      have keyedChild := every_childUnder survives keyed segment
      have sameChild := inductionHypothesis keyedChild
        (every_write survives keyedSecond (every_write survives keyedFirst keyedChild _) _)
        (every_write survives keyedFirst (every_write survives keyedSecond keyedChild _) _)
      refine (Tree.same_map_iff (Tree.nodup_of_isKeyed keyedForth)
        (Tree.nodup_of_isKeyed keyedBack)).mpr fun key => ?_
      rw [Tree.lookup_insert, Tree.lookup_insert]
      split
      · exact Option.Rel.some sameChild
      · exact Tree.rel_lookup_self (every_entriesOf survives keyed) key

/-- Two writes leave equal trees in either order if something stands where one of them writes. -/
theorem write_comm_of_follow (apart : Apart path others) (first second : Tree)
    (present : (follow tree path).isSome = true) :
    write second (write first tree path) others =
      write first (write second tree others) path := by
  obtain ⟨value, reached⟩ := Option.isSome_iff_exists.mp present
  clear present
  induction apart generalizing tree with
  | here different rest others =>
      obtain ⟨entries, child, rfl, found, -⟩ := exists_of_follow_cons reached
      rw [write_write_of_ne different, write_write_of_ne different.symm, entriesOf_map,
        Tree.insert_comm different _ _ (Option.isSome_iff_exists.mpr ⟨child, found⟩)]
  | later segment apart inductionHypothesis =>
      obtain ⟨entries, child, rfl, found, below⟩ := exists_of_follow_cons reached
      have isChild : childUnder segment (.map entries) = child := by
        rw [childUnder, entriesOf_map, found, Option.getD_some]
      rw [write_write_same, write_write_same, isChild, inductionHypothesis below]

/-- Two writes leave a tree that is no deeper than what each of them leaves alone. -/
theorem depth_write_write_le (apart : Apart path others) {bound : Nat}
    (deepFirst : (write first tree path).depth ≤ bound)
    (deepSecond : (write second tree others).depth ≤ bound) :
    (write second (write first tree path) others).depth ≤ bound := by
  induction apart generalizing tree bound with
  | here different rest others =>
      rw [write_write_of_ne different]
      rw [write_cons, Tree.depth_map_le_iff] at deepFirst deepSecond
      refine Tree.depth_map_le_iff.mpr ⟨deepFirst.1, fun entry member => ?_⟩
      rcases Tree.mem_insert member with rfl | earlier
      · exact deepSecond.2 _ (Tree.mem_insert_self _ _ _)
      · exact deepFirst.2 entry earlier
  | later segment apart inductionHypothesis =>
      -- The child that the first write leaves is counted, although the second one replaces it.
      rw [write_cons second, childUnder_write_same, write_cons first, entriesOf_map]
      rw [write_cons, Tree.depth_map_le_iff] at deepFirst deepSecond
      have below := inductionHypothesis
        (Nat.le_sub_one_of_lt (deepFirst.2 _ (Tree.mem_insert_self _ _ _)))
        (Nat.le_sub_one_of_lt (deepSecond.2 _ (Tree.mem_insert_self _ _ _)))
      refine Tree.depth_map_le_iff.mpr ⟨deepFirst.1, fun entry member => ?_⟩
      rcases Tree.mem_insert member with rfl | earlier
      · exact Nat.lt_of_le_sub_one deepFirst.1 below
      · exact deepFirst.2 entry earlier

/-! ## Trees that are the same -/

theorem rel_lookup_entriesOf {left right : Tree} (same : Same left right)
    (keyedLeft : left.isKeyed = true) (keyedRight : right.isKeyed = true) (key : String) :
    Option.Rel Same (lookup key (entriesOf left)) (lookup key (entriesOf right)) := by
  cases left with
  | map entries =>
      cases right with
      | map others => exact same.lookup keyedLeft keyedRight key
      | _ => cases same
  | _ =>
      cases right with
      | map others => cases same
      | _ => exact Option.Rel.none

/-- Every path leads to the same in trees that are the same. -/
theorem rel_follow_of_same {left right : Tree} (same : Same left right)
    (keyedLeft : left.isKeyed = true) (keyedRight : right.isKeyed = true) (path : List String) :
    Option.Rel Same (follow left path) (follow right path) := by
  induction path generalizing left right with
  | nil =>
      rw [follow_nil, follow_nil]
      exact Option.Rel.some same
  | cons segment rest inductionHypothesis =>
      rw [follow_cons_of_entriesOf left, follow_cons_of_entriesOf right, follow_map, follow_map]
      have children := rel_lookup_entriesOf same keyedLeft keyedRight segment
      have survives := Tree.isKeyedNode_survives
      cases foundLeft : lookup segment (entriesOf left) with
      | none =>
          rw [foundLeft] at children
          rw [rel_none_left children]
          exact Option.Rel.none
      | some child =>
          rw [foundLeft] at children
          obtain ⟨partner, foundRight, sameChild⟩ := rel_some_left children
          rw [foundRight]
          exact inductionHypothesis sameChild
            (Tree.every_of_lookup (every_entriesOf survives keyedLeft) foundLeft)
            (Tree.every_of_lookup (every_entriesOf survives keyedRight) foundRight)

theorem rel_get_of_same {left right : Tree} (same : Same left right)
    (keyedLeft : left.isKeyed = true) (keyedRight : right.isKeyed = true) (key : String) :
    Option.Rel Same (get left key) (get right key) := by
  by_cases empty : segments key = []
  · simp [get, empty]
  · rw [get_eq_follow empty, get_eq_follow empty]
    exact rel_follow_of_same same keyedLeft keyedRight (segments key)

end KeyPath

end ReleaseRules
