import ReleaseRules.Proofs.Document.Sameness
import ReleaseRules.Rules.Edit

/-!
Contract: writes to a tree that is given or absent, one after another.

Owns:
- writes as a recursion along their path;
- what a write does to the children of a map;
- likenesses: equivalences of trees that writes respect.

Does not own: texts, and runs of rules.

A write to a map is a write to one of its children, and a write to what is absent or null is a
write to the empty map. So the writes of a run fall apart into those to the node itself and, for
each key, those to the child under it.
-/

namespace ReleaseRules

open ReleaseRules.Tree (lookup insert keys)

/-- What a write has for its place. -/
inductive Content where
  | replace (value : Tree)
  | fill (value : Tree)
  | append (value : Tree)

/-- A write of some content to the place that a path leads to. -/
structure Write where
  path : List String
  content : Content

namespace Content

/-- The value that content carries. -/
def value : Content → Tree
  | .replace value => value
  | .fill value => value
  | .append value => value

/-- The value that content has for a place, given the current one. -/
def compute : Content → Option Tree → Option Tree
  | .replace value, _ => some value
  | .fill value, old => Edit.initialValue value old
  | .append value, old => Edit.extendedList value old

end Content

/-- The entries that a write can go on in: those of a map, and none where nothing is. -/
def openEntries : Option Tree → Option (List (String × Tree))
  | none => some []
  | some .null => some []
  | some (.map entries) => some entries
  | some _ => none

/-- Whether nothing is at a place. -/
def isVacant : Option Tree → Bool
  | none => true
  | some .null => true
  | some _ => false

/-- The items at a place; what is no list has none. -/
def itemsAt (old : Option Tree) : List Tree := (old.bind Tree.asItems).getD []

section Writes

variable (unchanged : Tree → Tree → Bool)

/-- The outcome of content at its place. -/
def Content.settle (content : Content) (old : Option Tree) : Option Tree :=
  match content.compute old with
  | none => old
  | some new => if old.any fun current => unchanged current new then old else some new

/-- The outcome of a write, by recursion along its path. -/
def Content.put (content : Content) : List String → Option Tree → Option Tree
  | [], old => content.settle unchanged old
  | segment :: rest, old =>
      match openEntries old with
      | none => old
      | some entries =>
          match content.put rest (lookup segment entries) with
          | none => old
          | some child => some (.map (insert segment child entries))

/-- The outcome of writes in order. -/
def runWrites (writes : List Write) (old : Option Tree) : Option Tree :=
  writes.foldl (fun current write => write.content.put unchanged write.path current) old

variable {unchanged}

theorem runWrites_cons (write : Write) (rest : List Write) (old : Option Tree) :
    runWrites unchanged (write :: rest) old =
      runWrites unchanged rest (write.content.put unchanged write.path old) := rfl

theorem runWrites_append (first second : List Write) (old : Option Tree) :
    runWrites unchanged (first ++ second) old =
      runWrites unchanged second (runWrites unchanged first old) := List.foldl_append

theorem Content.compute_none (content : Content) : ∃ new, content.compute none = some new := by
  cases content with
  | replace value => exact ⟨value, rfl⟩
  | fill value => exact ⟨value, rfl⟩
  | append value => exact ⟨.list [value], rfl⟩

theorem Content.settle_isSome (content : Content) (old : Option Tree) :
    (content.settle unchanged old).isSome = true := by
  cases old with
  | none =>
      obtain ⟨new, computed⟩ := content.compute_none
      simp [settle, computed]
  | some tree =>
      unfold settle
      split
      · rfl
      · split <;> rfl

/-- After a write there is always something. -/
theorem Content.put_isSome (content : Content) (path : List String) (old : Option Tree) :
    (content.put unchanged path old).isSome = true := by
  induction path generalizing old with
  | nil => exact content.settle_isSome old
  | cons segment rest inductionHypothesis =>
      unfold put
      split
      · rename_i closed
        cases old with
        | none => cases closed
        | some tree => rfl
      · rename_i entries opened
        have child := inductionHypothesis (lookup segment entries)
        split
        · rename_i absent
          rw [absent] at child
          cases child
        · rfl

/-- A write below a place that can be opened is a write to one child. -/
theorem Content.put_open (unchanged : Tree → Tree → Bool) (content : Content)
    (segment : String) (rest : List String) {old : Option Tree} {entries : List (String × Tree)}
    (opened : openEntries old = some entries) :
    ∃ child, content.put unchanged rest (lookup segment entries) = some child ∧
      content.put unchanged (segment :: rest) old =
        some (.map (insert segment child entries)) := by
  obtain ⟨child, found⟩ :=
    Option.isSome_iff_exists.mp (content.put_isSome rest (lookup segment entries))
  refine ⟨child, found, ?_⟩
  simp only [put, opened, found]

theorem Content.put_closed (content : Content) (segment : String) (rest : List String)
    {old : Option Tree} (closed : openEntries old = none) :
    content.put unchanged (segment :: rest) old = old := by
  simp only [put, closed]

/-- What is filled in where something is stays away. -/
theorem Content.settle_fill (value : Tree) (old : Option Tree) :
    (Content.fill value).settle unchanged old =
      if isVacant old then (Content.replace value).settle unchanged old else old := by
  cases old with
  | none => rfl
  | some tree => cases tree <;> rfl

/-! ## The recursion and the write at a key path -/

/-- A write to what is absent writes to an empty map. -/
theorem Content.put_none (unchanged : Tree → Tree → Bool) {content : Content} {new : Tree}
    (computed : content.compute none = some new) (path : List String) :
    content.put unchanged path none = some (KeyPath.write new (.map []) path) := by
  induction path with
  | nil => simp [put, settle, computed, KeyPath.write]
  | cons segment rest inductionHypothesis =>
      have child : content.put unchanged rest (lookup segment []) =
          some (KeyPath.write new (.map []) rest) := inductionHypothesis
      simp only [put, openEntries, child]
      rfl

/-- The recursion computes what looking up a value, comparing it with the new one and writing
the new one does. -/
theorem Content.put_some (content : Content) (tree : Tree) (path : List String) :
    content.put unchanged path (some tree) =
      match content.compute (KeyPath.follow tree path) with
      | none => some tree
      | some new =>
          if (KeyPath.follow tree path).any (fun current => unchanged current new) ||
              (KeyPath.blockedSegment tree path).isSome then some tree
          else some (KeyPath.write new tree path) := by
  induction path generalizing tree with
  | nil =>
      have here : KeyPath.follow tree [] = some tree := by cases tree <;> rfl
      have free : KeyPath.blockedSegment tree [] = none := by cases tree <;> rfl
      rw [put, settle, here, free]
      split
      · rfl
      · simp [KeyPath.write]
  | cons segment rest inductionHypothesis =>
      obtain ⟨new, computed⟩ := content.compute_none
      cases tree with
      | map entries =>
          have opened : openEntries (some (.map entries)) = some entries := rfl
          cases found : lookup segment entries with
          | none =>
              have child := put_none unchanged computed rest
              have absent : KeyPath.follow (.map entries) (segment :: rest) = none := by
                simp [KeyPath.follow, found]
              have free : KeyPath.blockedSegment (.map entries) (segment :: rest) = none := by
                simp [KeyPath.blockedSegment, found]
              simp only [put, opened, found, child, absent, computed, free]
              simp [KeyPath.write, KeyPath.entriesOf, found]
          | some current =>
              have follows : KeyPath.follow (.map entries) (segment :: rest) =
                  KeyPath.follow current rest := by
                simp [KeyPath.follow, found]
              have blocks : KeyPath.blockedSegment (.map entries) (segment :: rest) =
                  KeyPath.blockedSegment current rest := by
                simp [KeyPath.blockedSegment, found]
              have same := Tree.insert_of_lookup found
              simp only [put, opened, found, inductionHypothesis, follows, blocks]
              cases content.compute (KeyPath.follow current rest) with
              | none => simp [same]
              | some value =>
                  by_cases quiet : ((KeyPath.follow current rest).any
                      (fun present => unchanged present value) ||
                    (KeyPath.blockedSegment current rest).isSome) = true
                  · simp only [if_pos quiet, same]
                  · simp only [if_neg quiet, KeyPath.write, KeyPath.entriesOf, found,
                      Option.getD_some]
      | null =>
          have child := put_none unchanged computed rest
          have absent : KeyPath.follow .null (segment :: rest) = none := rfl
          have free : KeyPath.blockedSegment .null (segment :: rest) = none := rfl
          simp only [put, openEntries, lookup, child, absent, computed, free]
          rfl
      | _ =>
          -- Neither a map nor null: nothing is found here, and the write is blocked.
          simp only [put, openEntries, KeyPath.follow, computed, KeyPath.blockedSegment]
          rfl

end Writes

end ReleaseRules
