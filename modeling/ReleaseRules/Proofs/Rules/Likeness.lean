import ReleaseRules.Proofs.Rules.Writes

/-!
Contract: equivalences of trees that writes respect.

Owns:
- what such an equivalence is, and the outcomes of writes to equivalent places;
- the two that matter: equality, and sameness up to the order of entries.

Does not own: runs of writes.

An equivalence holds between trees that repeat no key only. So a tree that is like itself is one
that repeats no key.
-/

namespace ReleaseRules

open ReleaseRules.Tree (lookup insert keys Same KeyedSame)

/-- An equivalence that goes by the parts of lists and maps, and that a test decides. `order`
says which orders of keys it takes for one. -/
structure Likeness (unchanged : Tree → Tree → Bool) where
  alike : Tree → Tree → Prop
  order : List String → List String → Prop
  symm : ∀ {left right}, alike left right → alike right left
  trans : ∀ {left middle right}, alike left middle → alike middle right → alike left right
  null_iff : ∀ {right}, alike .null right ↔ right = .null
  list_iff : ∀ {items right},
    alike (.list items) right ↔ ∃ others, right = .list others ∧ List.Forall₂ alike items others
  map_iff : ∀ {entries right}, alike (.map entries) right ↔
    ∃ others, right = .map others ∧ (keys entries).Nodup ∧ (keys others).Nodup ∧
      order (keys entries) (keys others) ∧
      ∀ key, Option.Rel alike (lookup key entries) (lookup key others)
  order_refl : ∀ names, order names names
  order_append : ∀ {left right}, order left right → ∀ name, order (left ++ [name]) (right ++ [name])
  unchanged_iff : ∀ {left right}, alike left left → alike right right →
    (unchanged left right = true ↔ alike left right)
  same_congr : ∀ {left right value}, alike left right → alike value value →
    left.same value = right.same value
  same_refl : ∀ {value}, alike value value → value.same value = true

namespace Likeness

variable {unchanged : Tree → Tree → Bool} (likeness : Likeness unchanged)

/-- Whether two places hold alike trees, or none. -/
def Alike (left right : Option Tree) : Prop := Option.Rel likeness.alike left right

variable {likeness}

theorem Alike.symm {left right : Option Tree} (related : likeness.Alike left right) :
    likeness.Alike right left := rel_symm (fun _ _ => likeness.symm) related

theorem Alike.trans {left middle right : Option Tree} (first : likeness.Alike left middle)
    (second : likeness.Alike middle right) : likeness.Alike left right :=
  rel_trans (fun _ _ => likeness.trans) first second

theorem Alike.left {left right : Option Tree} (related : likeness.Alike left right) :
    likeness.Alike left left := related.trans related.symm

theorem alike_some_iff {left right : Tree} :
    likeness.Alike (some left) (some right) ↔ likeness.alike left right := by
  constructor
  · rintro ⟨holds⟩
    exact holds
  · exact Option.Rel.some

/-- The empty map repeats no key. -/
theorem alike_empty : likeness.alike (.map []) (.map []) :=
  likeness.map_iff.mpr ⟨[], rfl, List.nodup_nil, List.nodup_nil, likeness.order_refl [],
    fun _ => Option.Rel.none⟩

/-! ## Shapes of alike places -/

theorem isVacant_congr {left right : Option Tree} (related : likeness.Alike left right) :
    isVacant left = isVacant right := by
  cases related with
  | none => rfl
  | some holds =>
      rename_i first second
      by_cases null : first = .null
      · subst null
        rw [likeness.null_iff.mp holds]
      · have other : second ≠ .null := by
          rintro rfl
          exact null (likeness.null_iff.mp (likeness.symm holds))
        cases first <;> cases second <;> first | rfl | contradiction

theorem itemsAt_congr {left right : Option Tree} (related : likeness.Alike left right) :
    List.Forall₂ likeness.alike (itemsAt left) (itemsAt right) := by
  have closed : ∀ tree : Tree, (∀ items, tree ≠ .list items) → itemsAt (some tree) = [] := by
    intro tree noList
    cases tree <;> first | rfl | exact absurd rfl (noList _)
  cases related with
  | none => exact List.Forall₂.nil
  | some holds =>
      rename_i first second
      by_cases isList : ∃ items, first = .list items
      · obtain ⟨items, rfl⟩ := isList
        obtain ⟨others, rfl, pairs⟩ := likeness.list_iff.mp holds
        exact pairs
      · have noList : ∀ items, first ≠ .list items := fun items same => isList ⟨items, same⟩
        have otherNoList : ∀ items, second ≠ .list items := by
          rintro items rfl
          obtain ⟨others, same, -⟩ := likeness.list_iff.mp (likeness.symm holds)
          exact noList others same
        rw [closed first noList, closed second otherNoList]
        exact List.Forall₂.nil

/-- Alike places are both closed to writes below them, or go on with alike entries. -/
theorem openEntries_congr {left right : Option Tree} (related : likeness.Alike left right) :
    openEntries left = none ∧ openEntries right = none ∨
      ∃ entries others, openEntries left = some entries ∧ openEntries right = some others ∧
        likeness.alike (.map entries) (.map others) := by
  have closed : ∀ tree : Tree, tree ≠ .null → (∀ entries, tree ≠ .map entries) →
      openEntries (some tree) = none := by
    intro tree notNull noMap
    cases tree <;> first | rfl | exact absurd rfl notNull | exact absurd rfl (noMap _)
  cases related with
  | none => exact Or.inr ⟨[], [], rfl, rfl, alike_empty⟩
  | some holds =>
      rename_i first second
      by_cases null : first = .null
      · subst null
        rw [likeness.null_iff.mp holds]
        exact Or.inr ⟨[], [], rfl, rfl, alike_empty⟩
      · by_cases isMap : ∃ entries, first = .map entries
        · obtain ⟨entries, rfl⟩ := isMap
          obtain ⟨others, rfl, -⟩ := likeness.map_iff.mp holds
          exact Or.inr ⟨entries, others, rfl, rfl, holds⟩
        · have noMap : ∀ entries, first ≠ .map entries := fun entries same => isMap ⟨entries, same⟩
          refine Or.inl ⟨closed first null noMap, closed second ?_ ?_⟩
          · rintro rfl
            exact null (likeness.null_iff.mp (likeness.symm holds))
          · rintro others rfl
            obtain ⟨entries, same, -⟩ := likeness.map_iff.mp (likeness.symm holds)
            exact noMap entries same

theorem alike_insert {entries others : List (String × Tree)} {child other : Tree} (key : String)
    (related : likeness.alike (.map entries) (.map others))
    (children : likeness.alike child other) :
    likeness.alike (.map (insert key child entries)) (.map (insert key other others)) := by
  obtain ⟨_, same, distinct, distinctOthers, ordered, values⟩ := likeness.map_iff.mp related
  obtain rfl := Tree.map.inj same
  refine likeness.map_iff.mpr ⟨_, rfl, Tree.nodup_keys_insert key child distinct,
    Tree.nodup_keys_insert key other distinctOthers, ?_, ?_⟩
  · have member := Tree.mem_keys_of_rel values key
    rw [Tree.keys_insert, Tree.keys_insert]
    by_cases known : key ∈ keys entries
    · rw [if_pos known, if_pos (member.mp known)]
      exact ordered
    · rw [if_neg known, if_neg fun there => known (member.mpr there)]
      exact likeness.order_append ordered key
  · intro name
    rw [Tree.lookup_insert, Tree.lookup_insert]
    split
    · exact Option.Rel.some children
    · exact values name

/-! ## Outcomes of writes -/

/-- A replaced value is there, or one like it. -/
theorem settle_replace {value : Tree} {old : Option Tree} (valid : likeness.alike value value)
    (present : likeness.Alike old old) :
    likeness.Alike ((Content.replace value).settle unchanged old) (some value) := by
  have here : likeness.Alike (some value) (some value) := alike_some_iff.mpr valid
  cases old with
  | none => exact here
  | some tree =>
      have settled : (Content.replace value).settle unchanged (some tree) =
          if unchanged tree value then some tree else some value := rfl
      rw [settled]
      split
      · rename_i kept
        have holds := alike_some_iff.mp present
        exact alike_some_iff.mpr ((likeness.unchanged_iff holds valid).mp kept)
      · exact here

/-- A list is never like one with an item less, and nothing else is like a list. -/
theorem not_unchanged_append {value : Tree} {old : Option Tree}
    (valid : likeness.alike value value) (present : likeness.Alike old old) :
    (old.any fun current => unchanged current (.list (itemsAt old ++ [value]))) = false := by
  cases old with
  | none => rfl
  | some tree =>
      refine Bool.eq_false_iff.mpr fun kept => ?_
      have values : List.Forall₂ likeness.alike (itemsAt (some tree) ++ [value])
          (itemsAt (some tree) ++ [value]) :=
        List.rel_append (itemsAt_congr present) (List.Forall₂.cons valid List.Forall₂.nil)
      have extended : likeness.alike (.list (itemsAt (some tree) ++ [value]))
          (.list (itemsAt (some tree) ++ [value])) :=
        likeness.list_iff.mpr ⟨_, rfl, values⟩
      have equal := (likeness.unchanged_iff (alike_some_iff.mp present) extended).mp kept
      have lengths := (itemsAt_congr (alike_some_iff.mpr equal)).length_eq
      simp [itemsAt, Tree.asItems] at lengths

/-- An item is appended to the items of a place unless they have it. -/
theorem settle_append {value : Tree} {old : Option Tree} (valid : likeness.alike value value)
    (present : likeness.Alike old old) :
    (Content.append value).settle unchanged old =
      if (itemsAt old).any fun item => item.same value then old
      else some (.list (itemsAt old ++ [value])) := by
  have computed : (Content.append value).compute old =
      if (itemsAt old).any fun item => item.same value then none
      else some (.list (itemsAt old ++ [value])) := rfl
  rw [Content.settle, computed]
  by_cases known : ((itemsAt old).any fun item => item.same value) = true
  · simp only [if_pos known]
  · simp only [if_neg known, not_unchanged_append valid present, Bool.false_eq_true, if_false]

theorem any_same_congr {items others : List Tree} {value : Tree}
    (valid : likeness.alike value value) (pairs : List.Forall₂ likeness.alike items others) :
    (items.any fun item => item.same value) = others.any fun item => item.same value := by
  induction pairs with
  | nil => rfl
  | cons holds _ inductionHypothesis =>
      rw [List.any_cons, List.any_cons, likeness.same_congr holds valid, inductionHypothesis]

theorem settle_congr {content : Content} {left right : Option Tree}
    (valid : likeness.alike content.value content.value) (related : likeness.Alike left right) :
    likeness.Alike (content.settle unchanged left) (content.settle unchanged right) := by
  have replaced : ∀ value, likeness.alike value value →
      likeness.Alike ((Content.replace value).settle unchanged left)
        ((Content.replace value).settle unchanged right) := fun value carried =>
    (settle_replace carried related.left).trans (settle_replace carried related.symm.left).symm
  cases content with
  | replace value => exact replaced value valid
  | fill value =>
      rw [Content.settle_fill, Content.settle_fill, isVacant_congr related]
      split
      · exact replaced value valid
      · exact related
  | append value =>
      have carried : likeness.alike value value := valid
      have items := itemsAt_congr related
      rw [settle_append carried related.left, settle_append carried related.symm.left,
        any_same_congr carried items]
      split
      · exact related
      · exact alike_some_iff.mpr (likeness.list_iff.mpr ⟨_, rfl,
          List.rel_append items (List.Forall₂.cons carried List.Forall₂.nil)⟩)

/-- Writes of the same content to alike places have alike outcomes. -/
theorem put_congr {content : Content} (valid : likeness.alike content.value content.value)
    (path : List String) {left right : Option Tree} (related : likeness.Alike left right) :
    likeness.Alike (content.put unchanged path left) (content.put unchanged path right) := by
  induction path generalizing left right with
  | nil => exact settle_congr valid related
  | cons segment rest inductionHypothesis =>
      rcases openEntries_congr related with ⟨closed, otherClosed⟩ | ⟨entries, others, opened,
        otherOpened, maps⟩
      · rw [content.put_closed segment rest closed, content.put_closed segment rest otherClosed]
        exact related
      · obtain ⟨child, found, put⟩ := content.put_open unchanged segment rest opened
        obtain ⟨other, otherFound, otherPut⟩ :=
          content.put_open unchanged segment rest otherOpened
        obtain ⟨_, same, -, -, -, values⟩ := likeness.map_iff.mp maps
        obtain rfl := Tree.map.inj same
        have children := inductionHypothesis (values segment)
        rw [found, otherFound] at children
        rw [put, otherPut]
        exact alike_some_iff.mpr (alike_insert segment maps (alike_some_iff.mp children))

/-- Whether all writes carry values that repeat no key. -/
def Valid (likeness : Likeness unchanged) (writes : List Write) : Prop :=
  ∀ write ∈ writes, likeness.alike write.content.value write.content.value

theorem Valid.head {write : Write} {rest : List Write} (valid : likeness.Valid (write :: rest)) :
    likeness.alike write.content.value write.content.value :=
  valid write List.mem_cons_self

theorem Valid.tail {write : Write} {rest : List Write} (valid : likeness.Valid (write :: rest)) :
    likeness.Valid rest :=
  fun later member => valid later (List.mem_cons_of_mem _ member)

theorem runWrites_congr {writes : List Write} (valid : likeness.Valid writes)
    {left right : Option Tree} (related : likeness.Alike left right) :
    likeness.Alike (runWrites unchanged writes left) (runWrites unchanged writes right) := by
  induction writes generalizing left right with
  | nil => exact related
  | cons write rest inductionHypothesis =>
      rw [runWrites_cons, runWrites_cons]
      exact inductionHypothesis valid.tail (put_congr valid.head write.path related)

/-! ## The two equivalences -/

/-- Equality of trees that repeat no key. -/
def exact : Likeness (fun left right => decide (left = right)) where
  alike left right := left = right ∧ left.isKeyed = true
  order left right := left = right
  symm := by
    rintro left right ⟨rfl, keyed⟩
    exact ⟨rfl, keyed⟩
  trans := by
    rintro left middle right ⟨rfl, keyed⟩ ⟨rfl, -⟩
    exact ⟨rfl, keyed⟩
  null_iff := by
    intro right
    exact ⟨fun related => related.1.symm, fun same => ⟨same.symm, rfl⟩⟩
  list_iff := by
    intro items right
    constructor
    · rintro ⟨rfl, keyed⟩
      have keyedItems := (Tree.isKeyed_list_iff items).mp keyed
      exact ⟨items, rfl, List.forall₂_same.mpr fun item member => ⟨rfl, keyedItems item member⟩⟩
    · rintro ⟨others, rfl, pairs⟩
      obtain ⟨keyedItems, equal⟩ := (List.forall₂_and_left items others).mp
        (pairs.imp fun _ _ related => related.symm)
      rw [List.forall₂_eq_eq_eq] at equal
      exact ⟨congrArg Tree.list equal, (Tree.isKeyed_list_iff items).mpr keyedItems⟩
  map_iff := by
    intro entries right
    constructor
    · rintro ⟨rfl, keyed⟩
      obtain ⟨distinct, children⟩ := (Tree.isKeyed_map_iff entries).mp keyed
      refine ⟨entries, rfl, distinct, distinct, rfl, fun key => ?_⟩
      cases found : lookup key entries with
      | none => exact Option.Rel.none
      | some child => exact Option.Rel.some ⟨rfl, children key child found⟩
    · rintro ⟨others, rfl, distinct, -, sameKeys, values⟩
      have sameValues : ∀ key, lookup key entries = lookup key others := fun key =>
        eq_of_rel (fun related => related.1) (values key)
      refine ⟨congrArg Tree.map (Tree.entries_ext distinct sameKeys sameValues),
        (Tree.isKeyed_map_iff entries).mpr ⟨distinct, fun key child found => ?_⟩⟩
      have related := values key
      rw [found] at related
      obtain ⟨-, -, -, keyed⟩ := rel_some_left related
      exact keyed
  order_refl names := rfl
  order_append := by
    rintro left right rfl name
    rfl
  unchanged_iff := by
    rintro left right ⟨-, keyed⟩ -
    simp [keyed]
  same_congr := by
    rintro left right value ⟨rfl, -⟩ -
    rfl
  same_refl := fun ⟨_, keyed⟩ => Tree.same_refl keyed

/-- Sameness up to the order of entries, of trees that repeat no key. -/
def upToOrder : Likeness Tree.same where
  alike left right := Same left right ∧ left.isKeyed = true ∧ right.isKeyed = true
  order _ _ := True
  symm := KeyedSame.symm
  trans := KeyedSame.trans
  null_iff := KeyedSame.null_iff
  list_iff := KeyedSame.list_iff
  map_iff := by
    intro entries right
    simp only [true_and]
    exact KeyedSame.map_iff
  order_refl names := trivial
  order_append := fun _ _ => trivial
  unchanged_iff := by
    rintro left right ⟨-, keyed, -⟩ ⟨-, otherKeyed, -⟩
    simp [Same, keyed, otherKeyed]
  same_congr := by
    intro left right value related valid
    refine Bool.eq_iff_iff.mpr ⟨fun found => ?_, fun found => ?_⟩
    · exact (KeyedSame.trans (KeyedSame.symm related) ⟨found, related.2.1, valid.2.1⟩).1
    · exact (KeyedSame.trans related ⟨found, related.2.2, valid.2.1⟩).1
  same_refl := fun ⟨_, keyed, _⟩ => Tree.same_refl keyed

end Likeness

end ReleaseRules
