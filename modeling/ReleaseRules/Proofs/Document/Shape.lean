import Mathlib.Data.List.Forall2
import ReleaseRules.Document.Datum
import ReleaseRules.Proofs.Document.Entries

/-!
Contract: properties of all nodes of a tree.

Owns:
- induction over trees, with a hypothesis for every item and every entry;
- trees whose numbers are integers, trees whose maps have distinct keys, and nesting;
- the data of such trees denotes them.

Does not own: texts of trees.
-/

namespace ReleaseRules

namespace Tree

/-- Induction over trees. -/
@[induction_eliminator]
theorem induction {holds : Tree → Prop} (null : holds .null)
    (bool : ∀ value, holds (.bool value)) (number : ∀ value, holds (.number value))
    (text : ∀ value, holds (.text value))
    (list : ∀ items, (∀ item ∈ items, holds item) → holds (.list items))
    (map : ∀ entries, (∀ entry ∈ entries, holds entry.2) → holds (.map entries))
    (tree : Tree) : holds tree :=
  @Tree.rec holds (fun items => ∀ item ∈ items, holds item)
    (fun entries => ∀ entry ∈ entries, holds entry.2) (fun entry => holds entry.2)
    null bool number text list map
    (fun _ member => nomatch member)
    (fun _ _ first others item member => by
      rcases List.mem_cons.mp member with rfl | later
      · exact first
      · exact others item later)
    (fun _ member => nomatch member)
    (fun _ _ first others entry member => by
      rcases List.mem_cons.mp member with rfl | later
      · exact first
      · exact others entry later)
    (fun _ _ value => value)
    tree

mutual

/-- Whether every node of a tree passes a test. -/
def every (test : Tree → Bool) : Tree → Bool
  | .list items => test (.list items) && everyItem test items
  | .map entries => test (.map entries) && everyEntry test entries
  | tree => test tree

/-- Whether every node of all items passes a test. -/
def everyItem (test : Tree → Bool) : List Tree → Bool
  | [] => true
  | item :: rest => every test item && everyItem test rest

/-- Whether every node of all values passes a test. -/
def everyEntry (test : Tree → Bool) : List (String × Tree) → Bool
  | [] => true
  | (_, value) :: rest => every test value && everyEntry test rest

end

mutual

/-- How many lists and maps are inside of each other. -/
def depth : Tree → Nat
  | .list items => itemDepth items + 1
  | .map entries => entryDepth entries + 1
  | _ => 0

/-- The depth of the deepest item. -/
def itemDepth : List Tree → Nat
  | [] => 0
  | item :: rest => max (depth item) (itemDepth rest)

/-- The depth of the deepest value. -/
def entryDepth : List (String × Tree) → Nat
  | [] => 0
  | (_, value) :: rest => max (depth value) (entryDepth rest)

end

/-- Whether a node is no number but one of the integers of 64 bits. -/
def isWholeNode : Tree → Bool
  | .number (.integer value) => exactInteger value
  | .number (.floating _) => false
  | _ => true

/-- Whether a node is no map with a repeated key. -/
def isKeyedNode : Tree → Bool
  | .map entries => decide (keys entries).Nodup
  | _ => true

/-- Whether all numbers of a tree are integers of 64 bits. -/
def isWhole (tree : Tree) : Bool := tree.every isWholeNode

/-- Whether no map of a tree repeats a key. -/
def isKeyed (tree : Tree) : Bool := tree.every isKeyedNode

variable {test : Tree → Bool}

theorem everyItem_iff (items : List Tree) :
    everyItem test items = true ↔ ∀ item ∈ items, every test item = true := by
  induction items with
  | nil => simp [everyItem]
  | cons item rest inductionHypothesis => simp [everyItem, inductionHypothesis]

theorem everyEntry_iff (entries : List (String × Tree)) :
    everyEntry test entries = true ↔ ∀ entry ∈ entries, every test entry.2 = true := by
  induction entries with
  | nil => simp [everyEntry]
  | cons entry rest inductionHypothesis =>
      obtain ⟨key, value⟩ := entry
      simp only [everyEntry, Bool.and_eq_true, inductionHypothesis, List.forall_mem_cons]

theorem every_list_iff (items : List Tree) :
    every test (.list items) = true ↔
      test (.list items) = true ∧ ∀ item ∈ items, every test item = true := by
  rw [every, Bool.and_eq_true, everyItem_iff]

theorem every_map_iff (entries : List (String × Tree)) :
    every test (.map entries) = true ↔
      test (.map entries) = true ∧ ∀ entry ∈ entries, every test entry.2 = true := by
  rw [every, Bool.and_eq_true, everyEntry_iff]

theorem every_of_lookup {entries : List (String × Tree)} {key : String} {value : Tree}
    (passed : every test (.map entries) = true) (found : lookup key entries = some value) :
    every test value = true :=
  ((every_map_iff entries).mp passed).2 _ (mem_of_lookup found)

theorem isKeyed_list_iff (items : List Tree) :
    (Tree.list items).isKeyed = true ↔ ∀ item ∈ items, item.isKeyed = true :=
  (every_list_iff items).trans (and_iff_right rfl)

theorem isKeyed_map_iff (entries : List (String × Tree)) :
    (Tree.map entries).isKeyed = true ↔
      (keys entries).Nodup ∧
        ∀ key child, lookup key entries = some child → child.isKeyed = true := by
  constructor
  · intro keyed
    exact ⟨of_decide_eq_true ((every_map_iff entries).mp keyed).1,
      fun key child found => every_of_lookup keyed found⟩
  · rintro ⟨distinct, children⟩
    exact (every_map_iff entries).mpr ⟨decide_eq_true distinct,
      fun entry member => children _ _ (lookup_of_mem distinct member)⟩

/-- A test that follows from another one is passed by every node that passes this one. -/
theorem every_mono {stronger weaker : Tree → Bool}
    (follows : ∀ node, stronger node = true → weaker node = true) {tree : Tree}
    (passed : every stronger tree = true) : every weaker tree = true := by
  induction tree with
  | list items inductionHypothesis =>
      obtain ⟨here, inItems⟩ := (every_list_iff items).mp passed
      exact (every_list_iff items).mpr ⟨follows _ here, fun item member =>
        inductionHypothesis item member (inItems item member)⟩
  | map entries inductionHypothesis =>
      obtain ⟨here, inEntries⟩ := (every_map_iff entries).mp passed
      exact (every_map_iff entries).mpr ⟨follows _ here, fun entry member =>
        inductionHypothesis entry member (inEntries entry member)⟩
  | _ => exact follows _ passed

/-- The entries of a map after an insertion. -/
theorem every_insert {entries : List (String × Tree)} {key : String} {value : Tree}
    (kept : test (.map (insert key value entries)) = true)
    (passed : every test (.map entries) = true) (passedValue : every test value = true) :
    every test (.map (insert key value entries)) = true := by
  refine (every_map_iff _).mpr ⟨kept, ?_⟩
  intro entry member
  rcases mem_insert member with rfl | old
  · exact passedValue
  · exact ((every_map_iff entries).mp passed).2 entry old

theorem depth_le_itemDepth {items : List Tree} {item : Tree} (member : item ∈ items) :
    depth item ≤ itemDepth items := by
  induction items with
  | nil => simp at member
  | cons head rest inductionHypothesis =>
      rw [itemDepth]
      rcases List.mem_cons.mp member with rfl | later
      · omega
      · have bound := inductionHypothesis later
        omega

theorem depth_le_entryDepth {entries : List (String × Tree)} {entry : String × Tree}
    (member : entry ∈ entries) : depth entry.2 ≤ entryDepth entries := by
  induction entries with
  | nil => simp at member
  | cons head rest inductionHypothesis =>
      obtain ⟨key, value⟩ := head
      rw [entryDepth]
      rcases List.mem_cons.mp member with rfl | later
      · simp only
        omega
      · have bound := inductionHypothesis later
        omega

/-- The items are less deep than a positive bound if each of them is. -/
theorem itemDepth_lt_iff {bound : Nat} (positive : 0 < bound) {items : List Tree} :
    itemDepth items < bound ↔ ∀ item ∈ items, depth item < bound := by
  induction items with
  | nil => simp [itemDepth, positive]
  | cons head rest inductionHypothesis =>
      rw [itemDepth, Nat.max_lt, inductionHypothesis, List.forall_mem_cons]

theorem entryDepth_lt_iff {bound : Nat} (positive : 0 < bound) {entries : List (String × Tree)} :
    entryDepth entries < bound ↔ ∀ entry ∈ entries, depth entry.2 < bound := by
  induction entries with
  | nil => simp [entryDepth, positive]
  | cons head rest inductionHypothesis =>
      obtain ⟨key, value⟩ := head
      rw [entryDepth, Nat.max_lt, inductionHypothesis, List.forall_mem_cons]

/-! ## Decidable equality -/

mutual

/-- Whether two trees are the same, with their entries in the same order. -/
def identical : Tree → Tree → Bool
  | .null, .null => true
  | .bool left, .bool right => left == right
  | .number left, .number right => decide (left = right)
  | .text left, .text right => left == right
  | .list left, .list right => identicalItems left right
  | .map left, .map right => identicalEntries left right
  | _, _ => false

/-- Whether items are the same. -/
def identicalItems : List Tree → List Tree → Bool
  | [], [] => true
  | left :: leftRest, right :: rightRest =>
      identical left right && identicalItems leftRest rightRest
  | _, _ => false

/-- Whether entries are the same. -/
def identicalEntries : List (String × Tree) → List (String × Tree) → Bool
  | [], [] => true
  | (key, left) :: leftRest, (other, right) :: rightRest =>
      key == other && identical left right && identicalEntries leftRest rightRest
  | _, _ => false

end

theorem identical_iff (left right : Tree) : identical left right = true ↔ left = right := by
  induction left generalizing right with
  | null => cases right <;> simp [identical]
  | bool value => cases right <;> simp [identical]
  | number value => cases right <;> simp [identical]
  | text value => cases right <;> simp [identical]
  | list items inductionHypothesis =>
      cases right with
      | list others =>
          rw [identical, list.injEq]
          induction items generalizing others with
          | nil => cases others <;> simp [identicalItems]
          | cons item rest innerHypothesis =>
              cases others with
              | nil => simp [identicalItems]
              | cons other more =>
                  rw [identicalItems, Bool.and_eq_true, inductionHypothesis item (by simp),
                    innerHypothesis
                      (fun later member =>
                        inductionHypothesis later (List.mem_cons_of_mem _ member)),
                    List.cons.injEq]
      | _ => simp [identical]
  | map entries inductionHypothesis =>
      cases right with
      | map others =>
          rw [identical, map.injEq]
          induction entries generalizing others with
          | nil => cases others <;> simp [identicalEntries]
          | cons entry rest innerHypothesis =>
              cases others with
              | nil => simp [identicalEntries]
              | cons other more =>
                  obtain ⟨key, value⟩ := entry
                  obtain ⟨otherKey, otherValue⟩ := other
                  rw [identicalEntries, Bool.and_eq_true, Bool.and_eq_true, beq_iff_eq,
                    inductionHypothesis (key, value) (by simp), innerHypothesis
                      (fun later member =>
                        inductionHypothesis later (List.mem_cons_of_mem _ member)),
                    List.cons.injEq, Prod.mk.injEq]
      | _ => simp [identical]

instance : DecidableEq Tree :=
  fun left right => decidable_of_iff _ (identical_iff left right)

end Tree

namespace Datum

open ReleaseRules.Tree (every isWhole isKeyed isWholeNode isKeyedNode)

/-- The data of a tree whose numbers are integers and whose keys are distinct denotes it. -/
theorem toTree?_ofTree (tree : Tree) (whole : tree.isWhole = true) (keyed : tree.isKeyed = true) :
    toTree? (ofTree tree) = some tree := by
  induction tree with
  | null => rfl
  | bool value => rfl
  | number value =>
      cases value with
      | integer value =>
          have exact : exactInteger value = true := whole
          simp [ofTree, toTree?, exact]
      | floating value => simp [isWhole, every, isWholeNode] at whole
  | text value => rfl
  | list items inductionHypothesis =>
      have wholeItems := ((Tree.every_list_iff items).mp whole).2
      have keyedItems := ((Tree.every_list_iff items).mp keyed).2
      have trees : itemTrees? (ofItems items) = some items := by
        clear whole keyed
        induction items with
        | nil => rfl
        | cons item rest innerHypothesis =>
            have first := inductionHypothesis item (by simp) (wholeItems item (by simp))
              (keyedItems item (by simp))
            have others := innerHypothesis
              (fun other member => inductionHypothesis other (List.mem_cons_of_mem _ member))
              (fun other member => wholeItems other (List.mem_cons_of_mem _ member))
              (fun other member => keyedItems other (List.mem_cons_of_mem _ member))
            simp [ofItems, itemTrees?, first, others]
      simp [ofTree, toTree?, trees]
  | map entries inductionHypothesis =>
      have wholeEntries := ((Tree.every_map_iff entries).mp whole).2
      obtain ⟨distinct, keyedEntries⟩ := (Tree.every_map_iff entries).mp keyed
      have trees : entryTrees? (ofEntries entries) = some entries := by
        clear whole keyed distinct
        induction entries with
        | nil => rfl
        | cons entry rest innerHypothesis =>
            have first := inductionHypothesis entry (by simp) (wholeEntries entry (by simp))
              (keyedEntries entry (by simp))
            have others := innerHypothesis
              (fun other member => inductionHypothesis other (List.mem_cons_of_mem _ member))
              (fun other member => wholeEntries other (List.mem_cons_of_mem _ member))
              (fun other member => keyedEntries other (List.mem_cons_of_mem _ member))
            simp [ofEntries, entryTrees?, first, others]
      have collected := Tree.collect_of_nodup (of_decide_eq_true distinct)
      simp [ofTree, toTree?, trees, collected]

mutual

/-- No map of a tree that data denotes repeats a key. -/
theorem isKeyed_of_toTree? {datum : Datum} {tree : Tree} (denoted : toTree? datum = some tree) :
    tree.isKeyed = true := by
  cases datum with
  | unusable => simp [toTree?] at denoted
  | null => simp only [toTree?, Option.some.injEq] at denoted; subst denoted; rfl
  | bool value => simp only [toTree?, Option.some.injEq] at denoted; subst denoted; rfl
  | integer value =>
      by_cases exact : exactInteger value = true
      · simp only [toTree?, exact, if_true, Option.some.injEq] at denoted
        subst denoted
        rfl
      · simp [toTree?, exact] at denoted
  | floating value =>
      cases value <;> simp only [toTree?, Option.some.injEq] at denoted <;> subst denoted <;> rfl
  | text value => simp only [toTree?, Option.some.injEq] at denoted; subst denoted; rfl
  | list items =>
      obtain ⟨trees, found, rfl⟩ : ∃ trees, itemTrees? items = some trees ∧ .list trees = tree := by
        simpa [toTree?] using denoted
      exact (Tree.every_list_iff trees).mpr ⟨rfl, isKeyed_of_itemTrees? found⟩
  | record entries =>
      obtain ⟨trees, found, rfl⟩ :
          ∃ trees, entryTrees? entries = some trees ∧ .map (Tree.collect trees) = tree := by
        simpa [toTree?] using denoted
      refine (Tree.every_map_iff _).mpr ⟨?_, ?_⟩
      · exact decide_eq_true (Tree.nodup_keys_collect trees)
      · intro entry member
        exact isKeyed_of_entryTrees? found entry (Tree.mem_collect member)

theorem isKeyed_of_itemTrees? {items : List Datum} {trees : List Tree}
    (denoted : itemTrees? items = some trees) : ∀ tree ∈ trees, tree.isKeyed = true := by
  cases items with
  | nil =>
      simp only [itemTrees?, Option.some.injEq] at denoted
      simp [← denoted]
  | cons item rest =>
      obtain ⟨first, found, others, foundRest, rfl⟩ : ∃ first, toTree? item = some first ∧
          ∃ others, itemTrees? rest = some others ∧ first :: others = trees := by
        simpa [itemTrees?, Option.bind_eq_some_iff] using denoted
      intro tree member
      rcases List.mem_cons.mp member with rfl | later
      · exact isKeyed_of_toTree? found
      · exact isKeyed_of_itemTrees? foundRest tree later

theorem isKeyed_of_entryTrees? {entries : List (Datum × Datum)} {trees : List (String × Tree)}
    (denoted : entryTrees? entries = some trees) :
    ∀ entry ∈ trees, entry.2.isKeyed = true := by
  match entries with
  | [] =>
      simp only [entryTrees?, Option.some.injEq] at denoted
      simp [← denoted]
  | (.text key, value) :: rest =>
      obtain ⟨first, found, others, foundRest, rfl⟩ : ∃ first, toTree? value = some first ∧
          ∃ others, entryTrees? rest = some others ∧ (key, first) :: others = trees := by
        simpa [entryTrees?, Option.bind_eq_some_iff] using denoted
      intro entry member
      rcases List.mem_cons.mp member with rfl | later
      · exact isKeyed_of_toTree? found
      · exact isKeyed_of_entryTrees? foundRest entry later
  | (.unusable, _) :: _ | (.null, _) :: _ | (.bool _, _) :: _ | (.integer _, _) :: _
  | (.floating _, _) :: _ | (.list _, _) :: _ | (.record _, _) :: _ =>
      simp [entryTrees?] at denoted

end

/-- The trees of items, one by one. -/
theorem forall_of_itemTrees? {items : List Datum} {trees : List Tree}
    (denoted : itemTrees? items = some trees) :
    List.Forall₂ (fun item tree => toTree? item = some tree) items trees := by
  induction items generalizing trees with
  | nil =>
      obtain rfl := Option.some.inj denoted
      exact .nil
  | cons item rest inductionHypothesis =>
      obtain ⟨first, found, others, foundRest, rfl⟩ : ∃ first, toTree? item = some first ∧
          ∃ others, itemTrees? rest = some others ∧ first :: others = trees := by
        simpa [itemTrees?, Option.bind_eq_some_iff] using denoted
      exact .cons found (inductionHypothesis foundRest)

/-- The trees of entries, one by one. -/
theorem forall_of_entryTrees? {entries : List (Datum × Datum)} {trees : List (String × Tree)}
    (denoted : entryTrees? entries = some trees) :
    List.Forall₂ (fun entry tree => entry.1 = .text tree.1 ∧ toTree? entry.2 = some tree.2)
      entries trees := by
  induction entries generalizing trees with
  | nil =>
      obtain rfl := Option.some.inj denoted
      exact .nil
  | cons entry rest inductionHypothesis =>
      obtain ⟨key, value⟩ := entry
      cases key with
      | text key =>
          obtain ⟨first, found, others, foundRest, rfl⟩ : ∃ first, toTree? value = some first ∧
              ∃ others, entryTrees? rest = some others ∧ (key, first) :: others = trees := by
            simpa [entryTrees?, Option.bind_eq_some_iff] using denoted
          exact .cons ⟨rfl, found⟩ (inductionHypothesis foundRest)
      | _ => simp [entryTrees?] at denoted

end Datum

end ReleaseRules
