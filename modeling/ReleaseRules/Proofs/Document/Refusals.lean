import ReleaseRules.Proofs.Document.InPlace
import ReleaseRules.Proofs.Text.Pieces

/-!
Contract: writes that are refused.

Owns:
- the values that no write goes through, and where a write comes to one;
- when a write is refused, and that it leaves the tree alone then;
- the segment that a refusal names.

Does not own: what a write leaves that is not refused.
-/

namespace ReleaseRules

/-- Whether no write goes through a value: it is neither null nor a map. -/
def Tree.isObstacle : Tree → Bool
  | .null => false
  | .map _ => false
  | _ => true

namespace KeyPath

open ReleaseRules.Tree (lookup)

variable {tree value : Tree} {path : List String}

/-! ## Segments and the paths that they make -/

/-- The dotted path of segments. -/
def join (segments : List String) : String :=
  String.ofList (Text.join ['.'] (segments.map String.toList))

/-- A segment as paths have them: not empty, and without dots. -/
def IsSegment (segment : String) : Prop := segment.toList ≠ [] ∧ '.' ∉ segment.toList

theorem isSegment_of_mem_segments {key segment : String} (member : segment ∈ segments key) :
    IsSegment segment := by
  obtain ⟨piece, kept, rfl⟩ := List.mem_map.mp member
  obtain ⟨inPieces, nonempty⟩ := List.mem_filter.mp kept
  rw [IsSegment, String.toList_ofList]
  refine ⟨by simpa using nonempty, ?_⟩
  exact Text.not_mem_of_mem_splitAt inPieces

theorem segments_join {front : List String} (nonempty : front ≠ [])
    (areSegments : ∀ segment ∈ front, IsSegment segment) : segments (join front) = front := by
  have plain : ∀ piece ∈ front.map String.toList, '.' ∉ piece := by
    intro piece member
    obtain ⟨segment, inFront, rfl⟩ := List.mem_map.mp member
    exact (areSegments segment inFront).2
  have kept : (front.map String.toList).filter (fun piece => !piece.isEmpty) =
      front.map String.toList := by
    apply List.filter_eq_self.mpr
    intro piece member
    obtain ⟨segment, inFront, rfl⟩ := List.mem_map.mp member
    simpa using (areSegments segment inFront).1
  rw [segments, join, String.toList_ofList, Text.splitAt_join (by simpa using nonempty) plain, kept,
    List.map_map]
  simp

/-- Reading at the dotted path of some of the first segments of a path follows them. -/
theorem get_join {key : String} {front : List String} (nonempty : front ≠ [])
    (isPrefix : front <+: segments key) : get tree (join front) = follow tree front := by
  have same : segments (join front) = front := by
    apply segments_join nonempty
    intro segment member
    exact isSegment_of_mem_segments (isPrefix.subset member)
  have nonemptyJoined : segments (join front) ≠ [] := by
    rw [same]
    exact nonempty
  rw [get_eq_follow nonemptyJoined, same]

theorem segments_eq_nil_iff (key : String) :
    segments key = [] ↔ ∀ piece ∈ Text.splitAt '.' key.toList, piece = [] := by
  simp [segments]

/-! ## Values in the way -/

/-- Where a path enters a map, it is blocked as the rest of it is blocked in the child. -/
theorem blockedSegment_map (entries : List (String × Tree)) (segment : String)
    (rest : List String) :
    blockedSegment (.map entries) (segment :: rest) =
      (lookup segment entries).bind fun next => blockedSegment next rest := by
  rw [blockedSegment]
  cases lookup segment entries <;> rfl

/-- The segment that cannot be written stands right behind the value that is in the way. -/
theorem blockedSegment_eq_some_iff {blocked : String} :
    blockedSegment tree path = some blocked ↔
      ∃ front back node, path = front ++ blocked :: back ∧ follow tree front = some node ∧
        node.isObstacle = true := by
  induction path generalizing tree with
  | nil => simp [blockedSegment]
  | cons segment rest inductionHypothesis =>
      constructor
      · intro found
        cases tree with
        | null => cases found
        | map entries =>
            rw [blockedSegment_map, Option.bind_eq_some_iff] at found
            obtain ⟨next, here, later⟩ := found
            obtain ⟨front, back, node, rfl, reached, obstacle⟩ := inductionHypothesis.mp later
            refine ⟨segment :: front, back, node, rfl, ?_, obstacle⟩
            rw [follow_map, here, Option.bind_some, reached]
        | _ =>
            obtain rfl := Option.some.inj found
            exact ⟨[], rest, _, rfl, rfl, rfl⟩
      · rintro ⟨front, back, node, shape, reached, obstacle⟩
        cases front with
        | nil =>
            obtain ⟨rfl, rfl⟩ := List.cons.inj shape
            rw [follow_nil] at reached
            obtain rfl := Option.some.inj reached
            cases tree with
            | null => cases obstacle
            | map entries => cases obstacle
            | _ => rfl
        | cons first others =>
            obtain ⟨rfl, rfl⟩ := List.cons.inj shape
            obtain ⟨entries, child, rfl, here, later⟩ := exists_of_follow_cons reached
            rw [blockedSegment_map, here, Option.bind_some]
            exact inductionHypothesis.mpr ⟨others, back, node, rfl, later, obstacle⟩

theorem droppedOnTheWay_empty (path : List String) : droppedOnTheWay (.map []) path = [] := by
  induction path with
  | nil => rfl
  | cons segment rest inductionHypothesis => exact inductionHypothesis

/-- A path is clear if the steps of a write along it drop nothing but null. -/
theorem blockedSegment_eq_none_iff :
    blockedSegment tree path = none ↔ ∀ dropped ∈ droppedOnTheWay tree path, dropped = .null := by
  induction path generalizing tree with
  | nil => simp [blockedSegment, droppedOnTheWay]
  | cons segment rest inductionHypothesis =>
      cases tree with
      | null =>
          simp [blockedSegment, droppedOnTheWay, droppedFor, childUnder, entriesOf, lookup,
            droppedOnTheWay_empty]
      | map entries =>
          rw [blockedSegment_map, droppedOnTheWay, droppedFor, List.nil_append, childUnder,
            entriesOf_map]
          cases lookup segment entries with
          | none => simp [droppedOnTheWay_empty]
          | some next => exact inductionHypothesis
      | _ => simp [blockedSegment, droppedOnTheWay, droppedFor]

/-- Whether a write at a path comes to a value that it cannot go through: the root, or what is read
at the dotted path of some of the first segments, but not of all. -/
def IsObstructed (tree : Tree) (key : String) : Prop :=
  tree.isObstacle = true ∨
    ∃ front node, front ≠ [] ∧ front ≠ segments key ∧ front <+: segments key ∧
      get tree (join front) = some node ∧ node.isObstacle = true

theorem isObstructed_iff {key : String} (nonempty : segments key ≠ []) :
    IsObstructed tree key ↔ ∃ blocked, blockedSegment tree (segments key) = some blocked := by
  constructor
  · rintro (obstacle | ⟨front, node, frontNonempty, proper, ⟨back, split⟩, found, obstacle⟩)
    · obtain ⟨segment, rest, shape⟩ := List.exists_cons_of_ne_nil nonempty
      exact ⟨segment, blockedSegment_eq_some_iff.mpr
        ⟨[], rest, tree, shape, follow_nil tree, obstacle⟩⟩
    · rw [get_join frontNonempty ⟨back, split⟩] at found
      cases back with
      | nil => exact absurd (by simpa using split) proper
      | cons blocked others =>
          exact ⟨blocked, blockedSegment_eq_some_iff.mpr
            ⟨front, others, node, split.symm, found, obstacle⟩⟩
  · rintro ⟨blocked, isBlocked⟩
    obtain ⟨front, back, node, split, found, obstacle⟩ := blockedSegment_eq_some_iff.mp isBlocked
    cases front with
    | nil =>
        rw [follow_nil] at found
        obtain rfl := Option.some.inj found
        exact .inl obstacle
    | cons first others =>
        have isPrefix : first :: others <+: segments key := ⟨blocked :: back, split.symm⟩
        refine .inr ⟨first :: others, node, List.cons_ne_nil first others, ?_, isPrefix, ?_,
          obstacle⟩
        · rw [split]
          simp
        · rw [get_join (List.cons_ne_nil first others) isPrefix, found]

theorem set_eq_emptyPath_iff {key : String} :
    set tree key value = .error .emptyPath ↔ segments key = [] := by
  unfold set
  split
  · rename_i shown
    simp [shown]
  · rename_i segment rest shown
    rw [shown]
    split <;> simp

theorem set_eq_conflict_iff {key shown blocked : String} :
    set tree key value = .error (.conflict shown blocked) ↔
      shown = key ∧ blockedSegment tree (segments key) = some blocked := by
  unfold set
  split
  · rename_i empty
    simp [empty, blockedSegment]
  · rename_i segment rest split
    rw [split]
    split
    · rename_i other found
      simp [found, eq_comm]
    · rename_i found
      simp [found]

/-- **Refusals.** A write is refused for an empty path exactly if no piece between the dots holds
anything, and for a conflict exactly if some piece does and the write comes to a value that is
neither null nor a map; any other write succeeds. A write in place reports the same. It has made no
step if it is refused; otherwise it leaves the tree that is written and has dropped nothing but
null. -/
theorem set_fails_exactly_at_obstacles (tree value : Tree) (key : String) :
    (set tree key value = .error .emptyPath ↔
      ∀ piece ∈ Text.splitAt '.' key.toList, piece = []) ∧
    ((∃ blocked, set tree key value = .error (.conflict key blocked)) ↔
      (∃ piece ∈ Text.splitAt '.' key.toList, piece ≠ []) ∧ IsObstructed tree key) ∧
    ((∃ next, set tree key value = .ok next) ↔
      (∃ piece ∈ Text.splitAt '.' key.toList, piece ≠ []) ∧ ¬ IsObstructed tree key) ∧
    (setInPlace tree key value).1 = (set tree key value).map (fun _ => ()) ∧
    (∀ reason, set tree key value = .error reason →
      (setInPlace tree key value).2 = .start tree) ∧
    ∀ next, set tree key value = .ok next →
      (setInPlace tree key value).2.tree = next ∧
        ∀ dropped ∈ (setInPlace tree key value).2.dropped, dropped = .null := by
  obtain ⟨sameReport, refused, written⟩ := setInPlace_eq tree key value
  have hasSegments : (∃ piece ∈ Text.splitAt '.' key.toList, piece ≠ []) ↔ segments key ≠ [] := by
    rw [Ne, segments_eq_nil_iff]
    simp
  refine ⟨?_, ?_, ?_, sameReport, refused, ?_⟩
  · rw [set_eq_emptyPath_iff, segments_eq_nil_iff]
  · simp only [set_eq_conflict_iff, true_and, hasSegments]
    constructor
    · rintro ⟨blocked, isBlocked⟩
      have nonempty : segments key ≠ [] := by
        intro empty
        rw [empty, blockedSegment] at isBlocked
        cases isBlocked
      exact ⟨nonempty, (isObstructed_iff nonempty).mpr ⟨blocked, isBlocked⟩⟩
    · rintro ⟨nonempty, obstructed⟩
      exact (isObstructed_iff nonempty).mp obstructed
  · simp only [set_eq_ok_iff, hasSegments]
    constructor
    · rintro ⟨next, nonempty, clear, -⟩
      refine ⟨nonempty, ?_⟩
      rw [isObstructed_iff nonempty, clear]
      simp
    · rintro ⟨nonempty, unobstructed⟩
      rw [isObstructed_iff nonempty, ← Option.isSome_iff_exists, Bool.not_eq_true,
        Option.isSome_eq_false_iff, Option.isNone_iff_eq_none] at unobstructed
      exact ⟨_, nonempty, unobstructed, rfl⟩
  · intro next isWritten
    obtain ⟨sameTree, sameDropped⟩ := written next isWritten
    refine ⟨sameTree, ?_⟩
    rw [sameDropped]
    exact blockedSegment_eq_none_iff.mp (set_eq_ok_iff.mp isWritten).2.1

/-- A map with null and a number under its keys. -/
private def mixedMap : Tree := .map [("a", .null), ("b", .number (.integer 5))]

/-- The number stands in the way of a write and stays; null gives way to a map. -/
theorem set_fails_at_number_beside_null :
    (∃ blocked, set mixedMap "b.c.d" .null = .error (.conflict "b.c.d" blocked)) ∧
      (setInPlace mixedMap "b.c.d" .null).2.tree = mixedMap ∧
      (setInPlace mixedMap "a.c.d" .null).2.dropped = [.null] ∧
      ∃ next, set mixedMap "a.c.d" .null = .ok next ∧
        (setInPlace mixedMap "a.c.d" .null).2.tree = next := by
  obtain ⟨-, conflicts, -, -, refused, -⟩ := set_fails_exactly_at_obstacles mixedMap .null "b.c.d"
  obtain ⟨-, -, -, -, -, written⟩ := set_fails_exactly_at_obstacles mixedMap .null "a.c.d"
  obtain ⟨blocked, isRefused⟩ := conflicts.mpr ⟨⟨['b'], by decide, by decide⟩,
    .inr ⟨["b"], .number (.integer 5), by decide, by decide, by decide, by decide, rfl⟩⟩
  have isWritten : set mixedMap "a.c.d" .null =
      .ok (.map [("a", .map [("c", .map [("d", .null)])]), ("b", .number (.integer 5))]) := rfl
  refine ⟨⟨blocked, isRefused⟩, ?_, rfl, _, isWritten, (written _ isWritten).1⟩
  rw [refused _ isRefused]
  rfl

/-! ## The segment that a refusal names -/

/-- Whether a refusal names the value in the way: what is read along the path up to the segment
that it names, this one included. -/
def NamesObstacle (tree : Tree) (key blocked : String) : Prop :=
  ∃ index node, (segments key)[index]? = some blocked ∧
    get tree (join ((segments key).take (index + 1))) = some node ∧ node.isObstacle = true

/-- Only one value along a path is in the way. -/
theorem eq_of_obstacles {front others : List String} {node other : Tree} (isPrefix : front <+: path)
    (isOtherPrefix : others <+: path) (found : follow tree front = some node)
    (foundOther : follow tree others = some other) (obstacle : node.isObstacle = true)
    (otherObstacle : other.isObstacle = true) : front = others := by
  -- Behind a value in the way there is nothing to read.
  have ends : ∀ {shorter longer : List String} {first second : Tree}, shorter <+: longer →
      follow tree shorter = some first → follow tree longer = some second →
      first.isObstacle = true → shorter = longer := by
    rintro shorter longer first second ⟨back, rfl⟩ reached reachedBehind isObstacle
    cases back with
    | nil => rw [List.append_nil]
    | cons segment rest =>
        rw [follow_append, reached, Option.bind_some] at reachedBehind
        match first, isObstacle with
        | .bool _, _ | .number _, _ | .text _, _ | .list _, _ => cases reachedBehind
  rcases List.prefix_or_prefix_of_prefix isPrefix isOtherPrefix with shorter | longer
  · exact ends shorter found foundOther obstacle
  · exact (ends longer foundOther found otherObstacle).symm

/-- **The named segment.** In a map or null, a refusal for a conflict names the segment right behind
the value in the way. So it names the value itself only if the two segments are spelled alike. -/
theorem conflict_names_next_segment {key shown blocked : String} (isOpen : tree.isObstacle = false)
    (refused : set tree key value = .error (.conflict shown blocked)) :
    ∃ front culprit back node, segments key = front ++ culprit :: blocked :: back ∧
      get tree (join (front ++ [culprit])) = some node ∧ node.isObstacle = true ∧
      (NamesObstacle tree key blocked ↔ culprit = blocked) := by
  obtain ⟨-, isBlocked⟩ := set_eq_conflict_iff.mp refused
  obtain ⟨before, back, node, split, found, obstacle⟩ := blockedSegment_eq_some_iff.mp isBlocked
  obtain ⟨front, culprit, rfl⟩ : ∃ front culprit, before = front ++ [culprit] := by
    rcases List.eq_nil_or_concat before with rfl | ⟨front, culprit, shape⟩
    · rw [follow_nil] at found
      obtain rfl := Option.some.inj found
      rw [isOpen] at obstacle
      cases obstacle
    · exact ⟨front, culprit, by simpa using shape⟩
  have isPrefix : front ++ [culprit] <+: segments key := ⟨blocked :: back, split.symm⟩
  have shape : segments key = front ++ culprit :: blocked :: back := by simpa using split
  refine ⟨front, culprit, back, node, shape, ?_, obstacle, ?_, ?_⟩
  · rw [get_join (by simp) isPrefix, found]
  · rintro ⟨index, other, atIndex, foundOther, otherObstacle⟩
    have inside : index < (segments key).length := (List.getElem?_eq_some_iff.mp atIndex).1
    have nonempty : (segments key).take (index + 1) ≠ [] := by
      rw [Ne, List.take_eq_nil_iff]
      rintro (zero | empty)
      · cases zero
      · simp [empty] at inside
    rw [get_join nonempty (List.take_prefix _ _)] at foundOther
    have same := eq_of_obstacles isPrefix (List.take_prefix (index + 1) (segments key)) found
      foundOther obstacle otherObstacle
    have place : front.length = index := by
      have lengths := congrArg List.length same
      rw [List.length_append, List.length_singleton, List.length_take_of_le inside] at lengths
      exact Nat.succ.inj lengths
    rw [shape, ← place] at atIndex
    simpa using atIndex
  · rintro rfl
    refine ⟨front.length, node, by simp [shape], ?_, obstacle⟩
    have taken : (segments key).take (front.length + 1) = front ++ [culprit] := by
      rw [split]
      exact List.take_left' (by simp)
    rw [taken, get_join (by simp) isPrefix, found]

/-- A number under a key that is written twice: the refusal names both segments. -/
theorem conflict_names_repeated_segment :
    set mixedMap "b.b" .null = .error (.conflict "b.b" "b") ∧ NamesObstacle mixedMap "b.b" "b" := by
  have refused : set mixedMap "b.b" .null = .error (.conflict "b.b" "b") := rfl
  obtain ⟨front, culprit, back, -, split, -, -, names⟩ := conflict_names_next_segment rfl refused
  have two : segments "b.b" = ["b", "b"] := by decide
  rw [two] at split
  refine ⟨refused, names.mpr ?_⟩
  have inPath : culprit ∈ ["b", "b"] := by
    rw [split]
    simp
  simpa using inPath

/-- A refusal need not name the value in the way. -/
theorem conflict_names_no_obstacle :
    ¬ ∀ (tree value : Tree) (key shown blocked : String), tree.isObstacle = false →
      set tree key value = .error (.conflict shown blocked) → NamesObstacle tree key blocked := by
  intro names
  have refused : set mixedMap "b.c" .null = .error (.conflict "b.c" "c") := rfl
  obtain ⟨index, node, atIndex, found, -⟩ := names _ _ _ _ _ rfl refused
  have two : segments "b.c" = ["b", "c"] := by decide
  have isPrefix : (segments "b.c").take (index + 1) <+: segments "b.c" := List.take_prefix _ _
  rw [get_join ?nonempty isPrefix] at found
  case nonempty =>
    rw [two]
    simp
  rw [two] at atIndex found
  rcases index with _ | _ | index
  · simp at atIndex
  · cases found
  · simp at atIndex

end KeyPath

end ReleaseRules
