import ReleaseRules.KeyPath
import ReleaseRules.Proofs.Document.Shape

/-!
Contract: what a write at a key path does to a tree.

Owns:
- the frame of a write: the paths that it leaves alone;
- properties of nodes that writes and templates keep.

Does not own: which values are written.
-/

namespace ReleaseRules

namespace Tree

/-- Properties of nodes that edits of a tree keep: every text, every list and the empty map have
them, and a map has them by its keys alone, also with one more key. -/
structure SurvivesEdits (test : Tree → Bool) : Prop where
  null : test .null = true
  text : ∀ value, test (.text value) = true
  list : ∀ items, test (.list items) = true
  empty : test (.map []) = true
  sameKeys : ∀ left right, keys left = keys right →
    test (.map left) = true → test (.map right) = true
  insert : ∀ key value entries, test (.map entries) = true →
    test (.map (Tree.insert key value entries)) = true

theorem isWholeNode_survives : SurvivesEdits isWholeNode :=
  ⟨rfl, fun _ => rfl, fun _ => rfl, rfl, fun _ _ _ _ => rfl, fun _ _ _ _ => rfl⟩

theorem isKeyedNode_survives : SurvivesEdits isKeyedNode where
  null := rfl
  text _ := rfl
  list _ := rfl
  empty := rfl
  sameKeys left right same distinct := by
    simp only [isKeyedNode, decide_eq_true_eq] at distinct ⊢
    rw [← same]
    exact distinct
  insert key value entries distinct := by
    simp only [isKeyedNode, decide_eq_true_eq] at distinct ⊢
    exact nodup_keys_insert key value distinct

end Tree

namespace KeyPath

open ReleaseRules.Tree (lookup insert)

theorem follow_nil (tree : Tree) : follow tree [] = some tree := by
  cases tree <;> rfl

theorem follow_map (entries : List (String × Tree)) (segment : String) (rest : List String) :
    follow (.map entries) (segment :: rest) =
      (lookup segment entries).bind fun next => follow next rest := by
  rw [follow]
  cases lookup segment entries <;> rfl

/-- A path leads to something through a map, and through the child under its first segment. -/
theorem exists_of_follow_cons {tree value : Tree} {segment : String} {rest : List String}
    (found : follow tree (segment :: rest) = some value) :
    ∃ entries child, tree = .map entries ∧ lookup segment entries = some child ∧
      follow child rest = some value := by
  cases tree with
  | map entries =>
      rw [follow_map, Option.bind_eq_some_iff] at found
      obtain ⟨child, here, later⟩ := found
      exact ⟨entries, child, rfl, here, later⟩
  | _ => cases found

/-- What is neither a map nor at the end of a path leads nowhere. -/
theorem follow_cons_of_entriesOf (tree : Tree) (segment : String) (rest : List String) :
    follow tree (segment :: rest) = follow (.map (entriesOf tree)) (segment :: rest) := by
  cases tree <;> rfl

/-- A write is read at its own path. -/
theorem follow_write_same (value tree : Tree) (path : List String) :
    follow (write value tree path) path = some value := by
  induction path generalizing tree with
  | nil => cases value <;> rfl
  | cons segment rest inductionHypothesis =>
      rw [write, follow_map, Tree.lookup_insert_same, Option.bind_some, inductionHypothesis]

/-- A write leaves a path alone if neither the written path nor this one continues the other. -/
theorem follow_write_of_apart (value tree : Tree) {written read : List String}
    (notAbove : ¬ written <+: read) (notBelow : ¬ read <+: written) :
    follow (write value tree written) read = follow tree read := by
  induction written generalizing tree read with
  | nil => exact absurd List.nil_prefix notAbove
  | cons segment rest inductionHypothesis =>
      cases read with
      | nil => exact absurd List.nil_prefix notBelow
      | cons other others =>
          rw [follow_cons_of_entriesOf tree, write, follow_map, follow_map]
          by_cases same : other = segment
          · -- Both paths enter the same child, which may be new.
            subst same
            have apart := inductionHypothesis ((lookup other (entriesOf tree)).getD (.map []))
              (fun above => notAbove (List.cons_prefix_cons.mpr ⟨rfl, above⟩))
              (fun below => notBelow (List.cons_prefix_cons.mpr ⟨rfl, below⟩))
            rw [Tree.lookup_insert_same, Option.bind_some, apart]
            cases lookup other (entriesOf tree) with
            | some child => rfl
            | none =>
                cases others with
                | nil => exact absurd (by simp) notBelow
                | cons next more => rfl
          · rw [Tree.lookup_insert_of_ne same]

/-- A write keeps what survives edits. -/
theorem every_write {test : Tree → Bool} (survives : Tree.SurvivesEdits test) {value tree : Tree}
    (passedValue : value.every test = true) (passed : tree.every test = true)
    (path : List String) : (write value tree path).every test = true := by
  induction path generalizing tree with
  | nil => exact passedValue
  | cons segment rest inductionHypothesis =>
      have entries : (Tree.map (entriesOf tree)).every test = true := by
        cases tree with
        | map entries => exact passed
        | _ => exact (Tree.every_map_iff []).mpr ⟨survives.empty, by simp⟩
      have child : ((lookup segment (entriesOf tree)).getD (.map [])).every test = true := by
        cases found : lookup segment (entriesOf tree) with
        | some child => exact Tree.every_of_lookup entries found
        | none => exact (Tree.every_map_iff []).mpr ⟨survives.empty, by simp⟩
      exact Tree.every_insert (survives.insert _ _ _ ((Tree.every_map_iff _).mp entries).1)
        entries (inductionHypothesis child)

theorem every_follow {test : Tree → Bool} {tree value : Tree} {path : List String}
    (passed : tree.every test = true) (found : follow tree path = some value) :
    value.every test = true := by
  induction path generalizing tree with
  | nil =>
      rw [follow_nil] at found
      exact Option.some.inj found ▸ passed
  | cons segment rest inductionHypothesis =>
      obtain ⟨entries, child, rfl, here, later⟩ := exists_of_follow_cons found
      exact inductionHypothesis (Tree.every_of_lookup passed here) later

theorem get_eq_follow {tree : Tree} {path : String} (nonempty : segments path ≠ []) :
    get tree path = follow tree (segments path) := by
  unfold get
  split
  · contradiction
  · rename_i shown
    rw [shown]

theorem every_get {test : Tree → Bool} {tree value : Tree} {path : String}
    (passed : tree.every test = true) (found : get tree path = some value) :
    value.every test = true := by
  have nonempty : segments path ≠ [] := by
    intro empty
    simp [get, empty] at found
  rw [get_eq_follow nonempty] at found
  exact every_follow passed found

/-- A value stands in nobody's way if there is one already. -/
theorem blockedSegment_of_follow {tree old : Tree} {path : List String}
    (found : follow tree path = some old) :
    blockedSegment tree path = none := by
  induction path generalizing tree with
  | nil => cases tree <;> rfl
  | cons segment rest inductionHypothesis =>
      obtain ⟨entries, child, rfl, here, later⟩ := exists_of_follow_cons found
      rw [blockedSegment, here]
      exact inductionHypothesis later

/-- A write that succeeds has at least one segment and meets nothing in its way. -/
theorem set_eq_ok_iff {tree next value : Tree} {path : String} :
    set tree path value = .ok next ↔
      segments path ≠ [] ∧ blockedSegment tree (segments path) = none ∧
        next = write value tree (segments path) := by
  unfold set
  split
  · rename_i shown
    simp [shown]
  · rename_i segment rest shown
    rw [shown]
    split
    · rename_i blocked found
      simp [found]
    · rename_i found
      simp [found, eq_comm]

/-- A write that succeeds leaves a map. -/
theorem exists_map_of_set {tree next value : Tree} {path : String}
    (done : set tree path value = .ok next) : ∃ entries, next = .map entries := by
  obtain ⟨nonempty, -, rfl⟩ := set_eq_ok_iff.mp done
  obtain ⟨segment, rest, shown⟩ := List.exists_cons_of_ne_nil nonempty
  rw [shown]
  exact ⟨_, rfl⟩

/-- The value that has been written at a path stands there. -/
theorem get_of_set {tree next value : Tree} {path : String}
    (done : set tree path value = .ok next) :
    get next path = some value := by
  obtain ⟨nonempty, -, rfl⟩ := set_eq_ok_iff.mp done
  rw [get_eq_follow nonempty, follow_write_same]

theorem get_of_set_of_apart {tree next value : Tree} {written read : String}
    (done : set tree written value = .ok next) (nonempty : segments read ≠ [])
    (notAbove : ¬ segments written <+: segments read)
    (notBelow : ¬ segments read <+: segments written) : get next read = get tree read := by
  obtain ⟨-, -, rfl⟩ := set_eq_ok_iff.mp done
  rw [get_eq_follow nonempty, get_eq_follow nonempty]
  exact follow_write_of_apart value tree notAbove notBelow

end KeyPath

end ReleaseRules
