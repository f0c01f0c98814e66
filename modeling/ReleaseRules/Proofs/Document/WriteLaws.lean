import ReleaseRules.Proofs.Document.Writing

/-!
Contract: writes at key paths as updates of one place in a tree.

Owns:
- the laws of a write and the value that is read at its path;
- the order of keys in the maps that a write comes through.

Does not own: which writes are refused.
-/

namespace ReleaseRules.KeyPath

open ReleaseRules.Tree (keys lookup)

variable {tree value : Tree} {path : List String}

/-- Writing the value that stands at a path changes nothing. -/
theorem write_of_follow (found : follow tree path = some value) :
    write value tree path = tree := by
  induction path generalizing tree with
  | nil =>
      rw [follow_nil] at found
      exact (Option.some.inj found).symm
  | cons segment rest inductionHypothesis =>
      obtain ⟨entries, child, rfl, here, later⟩ := exists_of_follow_cons found
      show Tree.map (Tree.insert segment
        (write value ((lookup segment entries).getD (.map [])) rest) entries) = .map entries
      rw [here, Option.getD_some, inductionHypothesis later, Tree.insert_of_lookup here]

/-- Of two writes at one path the second counts. -/
theorem write_write (first second : Tree) (tree : Tree) (path : List String) :
    write second (write first tree path) path = write second tree path := by
  induction path generalizing tree with
  | nil => rfl
  | cons segment rest inductionHypothesis =>
      simp only [write, entriesOf, Tree.lookup_insert_same, Option.getD_some,
        inductionHypothesis, Tree.insert_insert_same]

/-- A map on the way of a write stays a map. Its keys keep their order, and at most the next
segment is added behind them. -/
theorem follow_write_above (value : Tree) {entries : List (String × Tree)} {front : List String}
    (onTheWay : follow tree front = some (.map entries)) (segment : String)
    (back : List String) :
    ∃ changed, follow (write value tree (front ++ segment :: back)) front = some (.map changed) ∧
      keys changed = if segment ∈ keys entries then keys entries
        else keys entries ++ [segment] := by
  induction front generalizing tree with
  | nil =>
      rw [follow_nil] at onTheWay
      obtain rfl := Option.some.inj onTheWay
      exact ⟨_, rfl, Tree.keys_insert _ _ _⟩
  | cons other rest inductionHypothesis =>
      obtain ⟨outer, child, rfl, here, later⟩ := exists_of_follow_cons onTheWay
      obtain ⟨changed, reached, sameOrder⟩ := inductionHypothesis later
      refine ⟨changed, ?_, sameOrder⟩
      rw [List.cons_append, write, follow_map, Tree.lookup_insert_same, Option.bind_some,
        entriesOf, here, Option.getD_some]
      exact reached

/-- **Writes.** A value that has been written at a path is read there, and every path that neither
leads to it nor goes on from it is read as before. The maps on the way keep their keys in order and
get at most one more, at the end. Writing what is read at a path changes nothing, and of two writes
at one path the second counts. -/
theorem set_is_lawful {tree next value : Tree} {path : String}
    (done : set tree path value = .ok next) :
    get next path = some value ∧
    (∀ read, ¬ segments path <+: segments read → ¬ segments read <+: segments path →
      get next read = get tree read) ∧
    (∀ front segment back entries, segments path = front ++ segment :: back →
      follow tree front = some (.map entries) →
      ∃ changed, follow next front = some (.map changed) ∧
        (keys changed = keys entries ∨
          segment ∉ keys entries ∧ keys changed = keys entries ++ [segment])) ∧
    (get tree path = some value → next = tree) ∧
    ∀ second, ∃ last, set tree path second = .ok last ∧ set next path second = .ok last := by
  obtain ⟨nonempty, clear, shape⟩ := set_eq_ok_iff.mp done
  refine ⟨get_of_set done, ?_, ?_, ?_, ?_⟩
  · intro read notAbove notBelow
    apply get_of_set_of_apart done _ notAbove notBelow
    intro empty
    apply notBelow
    rw [empty]
    exact List.nil_prefix
  · intro front segment back entries split onTheWay
    obtain ⟨changed, reached, order⟩ := follow_write_above value onTheWay segment back
    refine ⟨changed, ?_, ?_⟩
    · rw [shape, split]
      exact reached
    · by_cases known : segment ∈ keys entries
      · left
        rw [order, if_pos known]
      · right
        refine ⟨known, ?_⟩
        rw [order, if_neg known]
  · intro found
    rw [get_eq_follow nonempty] at found
    rw [shape]
    exact write_of_follow found
  · intro second
    refine ⟨write second tree (segments path), set_eq_ok_iff.mpr ⟨nonempty, clear, rfl⟩, ?_⟩
    have reached : follow next (segments path) = some value := by
      rw [shape]
      exact follow_write_same value tree (segments path)
    refine set_eq_ok_iff.mpr ⟨nonempty, blockedSegment_of_follow reached, ?_⟩
    rw [shape, write_write]

/-- A map with null under its last key. -/
private def openMap : Tree := .map [("b", .number (.integer 1)), ("a", .null)]

/-- A write that turns null into a map, along a path with empty pieces. -/
theorem set_is_lawful_through_null :
    ∃ next changed, set openMap "a..c." (.bool true) = .ok next ∧
      get next "a..c." = some (.bool true) ∧
      get next "b" = some (.number (.integer 1)) ∧
      follow next [] = some (.map changed) ∧ keys changed = ["b", "a"] := by
  have done : set openMap "a..c." (.bool true) =
      .ok (.map [("b", .number (.integer 1)), ("a", .map [("c", .bool true)])]) := rfl
  obtain ⟨written, apart, order, -, -⟩ := set_is_lawful done
  obtain ⟨changed, reached, kept | ⟨fresh, -⟩⟩ :=
    order [] "a" ["c"] [("b", .number (.integer 1)), ("a", .null)] (by decide +kernel) rfl
  · refine ⟨_, changed, done, written, ?_, reached, kept⟩
    exact apart "b" (by decide +kernel) (by decide +kernel)
  · exact absurd fresh (by decide)

end ReleaseRules.KeyPath
