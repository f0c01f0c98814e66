import ReleaseRules.Proofs.Document.Writing

/-!
Contract: writes as changes of one tree, made one after the other.

Owns:
- the steps of a write in place: at each segment it makes a map of the value that it has come to,
  and goes on to the value under the segment, with a new map where there is none;
- the values that are dropped on the way because a map takes their place;
- after the last step the tree is the one that the write gives.

Does not own: which writes are refused.

A write in place knows only where it stands. What it leaves is compared with the write of a tree by
what both make of the value at that place.
-/

namespace ReleaseRules.KeyPath

open ReleaseRules.Tree (lookup insert)

/-! ## Changes at a place -/

/-- The tree with the value at a place replaced by what a change makes of it. Where there is no
value, nothing changes. -/
def updateAt (change : Tree → Tree) : Tree → List String → Tree
  | tree, [] => change tree
  | tree, segment :: rest =>
      match lookup segment (entriesOf tree) with
      | some next => .map (insert segment (updateAt change next rest) (entriesOf tree))
      | none => tree

@[simp]
theorem entriesOf_map (entries : List (String × Tree)) : entriesOf (.map entries) = entries := rfl

section Places

variable {tree node : Tree} {place : List String}

theorem follow_cons (tree : Tree) (segment : String) (rest : List String) :
    follow tree (segment :: rest) =
      (lookup segment (entriesOf tree)).bind fun next => follow next rest := by
  rw [follow_cons_of_entriesOf, follow_map]

theorem follow_append (tree : Tree) (front back : List String) :
    follow tree (front ++ back) = (follow tree front).bind fun node => follow node back := by
  induction front generalizing tree with
  | nil => rw [follow_nil, List.nil_append, Option.bind_some]
  | cons segment rest inductionHypothesis =>
      rw [List.cons_append, follow_cons, follow_cons, Option.bind_assoc]
      exact congrArg _ (funext fun next => inductionHypothesis next)

theorem follow_updateAt (change : Tree → Tree) (found : follow tree place = some node) :
    follow (updateAt change tree place) place = some (change node) := by
  induction place generalizing tree with
  | nil =>
      rw [follow_nil] at found ⊢
      rw [updateAt, Option.some.inj found]
  | cons segment rest inductionHypothesis =>
      rw [follow_cons, Option.bind_eq_some_iff] at found
      obtain ⟨next, here, later⟩ := found
      simp only [updateAt, here]
      rw [follow_map, Tree.lookup_insert_same, Option.bind_some, inductionHypothesis later]

/-- Of two changes at one place the second is made to what the first one leaves. -/
theorem updateAt_updateAt (first second : Tree → Tree) (tree : Tree) (place : List String) :
    updateAt second (updateAt first tree place) place =
      updateAt (fun node => second (first node)) tree place := by
  induction place generalizing tree with
  | nil => rfl
  | cons segment rest inductionHypothesis =>
      cases here : lookup segment (entriesOf tree) with
      | none => simp only [updateAt, here]
      | some next =>
          simp only [updateAt, here, entriesOf_map, Tree.lookup_insert_same,
            Tree.insert_insert_same, inductionHypothesis]

/-- A change below a place is a change of the value there. -/
theorem updateAt_append (change : Tree → Tree) (tree : Tree) (front back : List String) :
    updateAt change tree (front ++ back) =
      updateAt (fun node => updateAt change node back) tree front := by
  induction front generalizing tree with
  | nil => rfl
  | cons segment rest inductionHypothesis =>
      simp only [List.cons_append, updateAt, inductionHypothesis]

/-- Only the value at the place decides what a change leaves. -/
theorem updateAt_congr {first second : Tree → Tree} (found : follow tree place = some node)
    (same : first node = second node) : updateAt first tree place = updateAt second tree place := by
  induction place generalizing tree with
  | nil =>
      rw [follow_nil] at found
      rw [updateAt, updateAt, Option.some.inj found, same]
  | cons segment rest inductionHypothesis =>
      rw [follow_cons, Option.bind_eq_some_iff] at found
      obtain ⟨next, here, later⟩ := found
      simp only [updateAt, here, inductionHypothesis later]

end Places

/-! ## The steps of a write -/

/-- What is dropped where a map takes the place of a value: the value itself, unless it is a map. -/
def droppedFor : Tree → List Tree
  | .map _ => []
  | other => [other]

/-- A write on its way: the tree as it is by now, where the write has come to, and the values that
it has dropped for maps. -/
structure Progress where
  tree : Tree
  place : List String
  dropped : List Tree
deriving Repr

namespace Progress

/-- Make a map of the value at the place. What is none is dropped for one without entries. -/
def openMap (progress : Progress) : Progress :=
  match follow progress.tree progress.place with
  | none => progress
  | some node =>
      { progress with
        tree := updateAt (fun node => .map (entriesOf node)) progress.tree progress.place
        dropped := progress.dropped ++ droppedFor node }

/-- Put a value under a key of the map at the place. -/
def put (segment : String) (value : Tree) (progress : Progress) : Progress :=
  { progress with
    tree := updateAt (fun node => .map (insert segment value (entriesOf node))) progress.tree
      progress.place }

/-- Go on to a key of the map at the place. A key without a value gets a new map. -/
def enter (segment : String) (progress : Progress) : Progress :=
  let there := progress.place ++ [segment]
  match follow progress.tree there with
  | some _ => { progress with place := there }
  | none => { progress.put segment (.map []) with place := there }

/-- The steps of a write: through the maps under all segments but the last, and the value under the
last one. -/
def run (value : Tree) : List String → Progress → Progress
  | [], progress => progress
  | [segment], progress => progress.openMap.put segment value
  | segment :: rest, progress => run value rest (progress.openMap.enter segment)

end Progress

/-- The child under a segment that a write goes on with. -/
def childUnder (segment : String) (tree : Tree) : Tree :=
  (lookup segment (entriesOf tree)).getD (.map [])

/-- The values that are no maps where a write needs some. -/
def droppedOnTheWay : Tree → List String → List Tree
  | _, [] => []
  | tree, segment :: rest => droppedFor tree ++ droppedOnTheWay (childUnder segment tree) rest

namespace Progress

variable {progress : Progress} {node : Tree}

theorem openMap_put (here : follow progress.tree progress.place = some node) (segment : String)
    (value : Tree) :
    progress.openMap.put segment value =
      { progress with
        tree := updateAt (fun node => .map (insert segment value (entriesOf node))) progress.tree
          progress.place
        dropped := progress.dropped ++ droppedFor node } := by
  simp only [openMap, here, put, updateAt_updateAt, entriesOf_map]

/-- A step to the next segment: the child under it stands in the map at the place, whether it was
there or not. -/
theorem openMap_enter (here : follow progress.tree progress.place = some node)
    (segment : String) :
    progress.openMap.enter segment =
      { tree := updateAt
          (fun node => .map (insert segment (childUnder segment node) (entriesOf node)))
          progress.tree progress.place
        place := progress.place ++ [segment]
        dropped := progress.dropped ++ droppedFor node } := by
  have opened : follow progress.openMap.tree progress.place = some (.map (entriesOf node)) := by
    simp only [openMap, here]
    exact follow_updateAt _ here
  have under : follow progress.openMap.tree (progress.place ++ [segment]) =
      lookup segment (entriesOf node) := by
    rw [follow_append, opened, Option.bind_some, follow_map]
    simp [follow_nil]
  have samePlace : progress.openMap.place = progress.place := by
    simp only [openMap, here]
  simp only [enter, samePlace, under]
  cases found : lookup segment (entriesOf node) with
  | some next =>
      -- The child is there: putting it under its key again changes nothing.
      have same : updateAt (fun node => .map (entriesOf node)) progress.tree progress.place =
          updateAt (fun node => .map (insert segment (childUnder segment node) (entriesOf node)))
            progress.tree progress.place := by
        apply updateAt_congr here
        rw [childUnder, found, Option.getD_some, Tree.insert_of_lookup found]
      simp only [openMap, here, same]
  | none =>
      have same : updateAt (fun node => .map (insert segment (.map []) (entriesOf node)))
            progress.tree progress.place =
          updateAt (fun node => .map (insert segment (childUnder segment node) (entriesOf node)))
            progress.tree progress.place := by
        apply updateAt_congr here
        rw [childUnder, found, Option.getD_none]
      simp only [openMap, here, put, updateAt_updateAt, entriesOf_map, same]

/-- The steps of a write leave at the place what the write of the value there gives. -/
theorem run_eq (value : Tree) {path : List String} (nonempty : path ≠ [])
    (here : follow progress.tree progress.place = some node) :
    (run value path progress).tree =
        updateAt (fun node => write value node path) progress.tree progress.place ∧
      (run value path progress).dropped = progress.dropped ++ droppedOnTheWay node path := by
  induction path generalizing progress node with
  | nil => exact absurd rfl nonempty
  | cons segment rest inductionHypothesis =>
      cases rest with
      | nil =>
          rw [run, openMap_put here]
          refine ⟨rfl, ?_⟩
          simp [droppedOnTheWay]
      | cons next others =>
          let entered := updateAt
            (fun node => .map (insert segment (childUnder segment node) (entriesOf node)))
            progress.tree progress.place
          have child : follow entered (progress.place ++ [segment]) =
              some (childUnder segment node) := by
            rw [follow_append, follow_updateAt _ here, Option.bind_some, follow_map,
              Tree.lookup_insert_same, Option.bind_some, follow_nil]
          have later := @inductionHypothesis
            ⟨entered, progress.place ++ [segment], progress.dropped ++ droppedFor node⟩ _
            (List.cons_ne_nil next others) child
          rw [run, openMap_enter here, later.1, later.2]
          · refine ⟨?_, ?_⟩
            · rw [updateAt_append, updateAt_updateAt]
              apply updateAt_congr here
              simp only [updateAt, entriesOf_map, Tree.lookup_insert_same, Tree.insert_insert_same]
              rfl
            · rw [List.append_assoc]
              rfl
          · exact List.cons_ne_nil next others

/-- A write that has not begun. -/
def start (tree : Tree) : Progress := ⟨tree, [], []⟩

end Progress

/-! ## Writes at dotted paths -/

/-- A write at a path in place: what it reports, and what it leaves. It looks for values in its way
before its first step. -/
def setInPlace (tree : Tree) (key : String) (value : Tree) : Except WriteError Unit × Progress :=
  match segments key with
  | [] => (.error .emptyPath, .start tree)
  | segment :: rest =>
      match blockedSegment tree (segment :: rest) with
      | some blocked => (.error (.conflict key blocked), .start tree)
      | none => (.ok (), (Progress.start tree).run value (segment :: rest))

/-- A write in place reports what the write of the tree does. A refused one has made no step; any
other one leaves the tree that is written. -/
theorem setInPlace_eq (tree : Tree) (key : String) (value : Tree) :
    (setInPlace tree key value).1 = (set tree key value).map (fun _ => ()) ∧
      (∀ reason, set tree key value = .error reason →
        (setInPlace tree key value).2 = .start tree) ∧
      ∀ next, set tree key value = .ok next →
        (setInPlace tree key value).2.tree = next ∧
          (setInPlace tree key value).2.dropped = droppedOnTheWay tree (segments key) := by
  rw [setInPlace, set]
  cases segments key with
  | nil => simp [Except.map]
  | cons segment rest =>
      dsimp only
      cases blockedSegment tree (segment :: rest) with
      | some blocked => simp [Except.map]
      | none =>
          obtain ⟨sameTree, sameDropped⟩ := @Progress.run_eq (.start tree) _ value (segment :: rest)
            (List.cons_ne_nil segment rest) (follow_nil tree)
          refine ⟨rfl, ?_, ?_⟩
          · intro reason failed
            cases failed
          · intro next written
            obtain rfl := Except.ok.inj written
            exact ⟨sameTree, sameDropped⟩

end ReleaseRules.KeyPath
