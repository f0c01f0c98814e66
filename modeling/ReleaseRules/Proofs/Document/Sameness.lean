import Mathlib.Data.List.Forall2
import Mathlib.Data.List.Perm.Subperm
import ReleaseRules.Proofs.Document.Shape

/-!
Contract: equality of trees up to the order of entries.

Owns:
- sameness of maps as sameness of what each key leads to;
- sameness of trees that repeat no key, part by part, which is an equivalence.

Does not own: what depends on the order of entries.

Sameness compares one direction only, entry by entry, and the number of entries. That this is
symmetric rests on distinct keys.
-/

namespace ReleaseRules

namespace TreeNumber

open Number (Binary64)

private theorem sameValue_iff (left right : Binary64) :
    left.sameValue right = true ↔ left = right ∨ left.mantissa = 0 ∧ right.mantissa = 0 := by
  simp only [Binary64.sameValue, Bool.or_eq_true, Bool.and_eq_true, beq_iff_eq]

theorem same_refl (number : TreeNumber) : number.same number = true := by
  cases number with
  | integer value => exact beq_self_eq_true value
  | floating value => exact (sameValue_iff value value).mpr (Or.inl rfl)

theorem same_symm {left right : TreeNumber} (equal : left.same right = true) :
    right.same left = true := by
  cases left <;> cases right
  case integer.integer => exact beq_iff_eq.mpr (beq_iff_eq.mp equal).symm
  case floating.floating left right =>
    rcases (sameValue_iff left right).mp equal with rfl | zeros
    · exact equal
    · exact (sameValue_iff right left).mpr (Or.inr zeros.symm)
  all_goals cases equal

theorem same_trans {left middle right : TreeNumber} (first : left.same middle = true)
    (second : middle.same right = true) : left.same right = true := by
  cases left <;> cases middle <;> cases right
  case integer.integer.integer =>
    exact beq_iff_eq.mpr ((beq_iff_eq.mp first).trans (beq_iff_eq.mp second))
  case floating.floating.floating left middle right =>
    rcases (sameValue_iff left middle).mp first with rfl | zeros
    · exact second
    · rcases (sameValue_iff middle right).mp second with rfl | others
      · exact first
      · exact (sameValue_iff left right).mpr (Or.inr ⟨zeros.1, others.2⟩)
  all_goals first | cases first | cases second

end TreeNumber

/-! ## Related options and lists -/

section Related

variable {α : Type} {relation : α → α → Prop}

theorem rel_some_left {value : α} {other : Option α}
    (related : Option.Rel relation (some value) other) :
    ∃ partner, other = some partner ∧ relation value partner := by
  cases related with
  | some holds => exact ⟨_, rfl, holds⟩

theorem rel_none_left {other : Option α} (related : Option.Rel relation none other) :
    other = none := by
  cases related
  rfl

theorem rel_isSome {left right : Option α} (related : Option.Rel relation left right) :
    left.isSome = right.isSome := by
  cases related <;> rfl

/-- A relation that is symmetric for what is in an option relates options symmetrically. -/
theorem rel_symm {left right : Option α}
    (symm : ∀ first, left = some first → ∀ {second}, relation first second → relation second first)
    (related : Option.Rel relation left right) : Option.Rel relation right left := by
  cases related with
  | none => exact Option.Rel.none
  | some holds => exact Option.Rel.some (symm _ rfl holds)

theorem rel_trans {left middle right : Option α}
    (trans : ∀ one, left = some one → ∀ {two three}, relation one two → relation two three →
      relation one three)
    (first : Option.Rel relation left middle) (second : Option.Rel relation middle right) :
    Option.Rel relation left right := by
  cases first with
  | none => exact second
  | some holds =>
      obtain ⟨partner, rfl, others⟩ := rel_some_left second
      exact Option.Rel.some (trans _ rfl holds others)

/-- A relation that is symmetric for the items of a list relates lists symmetrically. -/
theorem forall₂_symm {left right : List α}
    (symm : ∀ first ∈ left, ∀ {second}, relation first second → relation second first)
    (pairs : List.Forall₂ relation left right) : List.Forall₂ relation right left := by
  induction pairs with
  | nil => exact List.Forall₂.nil
  | cons holds _ inductionHypothesis =>
      exact List.Forall₂.cons (symm _ List.mem_cons_self holds)
        (inductionHypothesis fun first member => symm first (List.mem_cons_of_mem _ member))

theorem forall₂_trans {left middle right : List α}
    (trans : ∀ one ∈ left, ∀ {two three}, relation one two → relation two three →
      relation one three)
    (first : List.Forall₂ relation left middle) (second : List.Forall₂ relation middle right) :
    List.Forall₂ relation left right := by
  induction first generalizing right with
  | nil => exact second
  | cons holds _ inductionHypothesis =>
      cases second with
      | cons next others =>
          exact List.Forall₂.cons (trans _ List.mem_cons_self holds next)
            (inductionHypothesis (fun one member => trans one (List.mem_cons_of_mem _ member))
              others)

theorem eq_of_rel {left right : Option α}
    (equal : ∀ {first second}, relation first second → first = second)
    (related : Option.Rel relation left right) : left = right := by
  cases related with
  | none => rfl
  | some holds => rw [equal holds]

end Related

namespace Tree

/-- Whether two trees are the same up to the order of entries. -/
def Same (left right : Tree) : Prop := same left right = true

theorem sameItems_iff (left right : List Tree) :
    sameItems left right = true ↔ List.Forall₂ Same left right := by
  induction left generalizing right with
  | nil => cases right <;> simp [sameItems]
  | cons item rest inductionHypothesis =>
      cases right with
      | nil => simp [sameItems]
      | cons other others => simp [sameItems, Same, inductionHypothesis]

theorem sameEntries_iff (left right : List (String × Tree)) :
    sameEntries left right = true ↔
      ∀ entry ∈ left, ∃ partner, lookup entry.1 right = some partner ∧ Same entry.2 partner := by
  induction left with
  | nil => simp [sameEntries]
  | cons entry rest inductionHypothesis =>
      obtain ⟨key, value⟩ := entry
      rw [sameEntries, Bool.and_eq_true, inductionHypothesis, List.forall_mem_cons]
      refine and_congr_left' ?_
      cases lookup key right <;> simp [Same]

theorem mem_keys_of_rel {left right : List (String × Tree)} {relation : Tree → Tree → Prop}
    (related : ∀ key, Option.Rel relation (lookup key left) (lookup key right)) (key : String) :
    key ∈ keys left ↔ key ∈ keys right := by
  rw [← lookup_isSome_iff, ← lookup_isSome_iff, rel_isSome (related key)]

/-- Maps with distinct keys are the same if every key leads to the same in both. -/
theorem same_map_iff {left right : List (String × Tree)} (distinctLeft : (keys left).Nodup)
    (distinctRight : (keys right).Nodup) :
    Same (.map left) (.map right) ↔
      ∀ key, Option.Rel Same (lookup key left) (lookup key right) := by
  have unfolded : Same (.map left) (.map right) ↔ left.length = right.length ∧
      ∀ entry ∈ left, ∃ partner, lookup entry.1 right = some partner ∧ Same entry.2 partner := by
    rw [Same, same, Bool.and_eq_true, beq_iff_eq, sameEntries_iff]
  rw [unfolded]
  constructor
  · rintro ⟨lengths, partners⟩ key
    have included : keys left ⊆ keys right := by
      intro name member
      obtain ⟨entry, inLeft, rfl⟩ := List.mem_map.mp member
      obtain ⟨partner, found, -⟩ := partners entry inLeft
      rw [← lookup_isSome_iff, found]
      rfl
    have permuted : (keys left).Perm (keys right) :=
      (distinctLeft.subperm included).perm_of_length_le (by simp [keys, lengths])
    cases found : lookup key left with
    | some value =>
        obtain ⟨partner, partnerFound, equal⟩ := partners _ (mem_of_lookup found)
        rw [partnerFound]
        exact Option.Rel.some equal
    | none =>
        have absent := (lookup_eq_none_iff key left).mp found
        rw [(lookup_eq_none_iff key right).mpr fun member => absent (permuted.mem_iff.mpr member)]
        exact Option.Rel.none
  · intro related
    have permuted : (keys left).Perm (keys right) :=
      (List.perm_ext_iff_of_nodup distinctLeft distinctRight).mpr (mem_keys_of_rel related)
    refine ⟨by simpa [keys] using permuted.length_eq, ?_⟩
    intro entry member
    have partner := related entry.1
    rw [lookup_of_mem distinctLeft member] at partner
    exact rel_some_left partner

theorem same_refl {tree : Tree} (keyed : tree.isKeyed = true) : Same tree tree := by
  induction tree with
  | null => rfl
  | bool value => simp [Same, same]
  | number value => exact value.same_refl
  | text value => simp [Same, same]
  | list items inductionHypothesis =>
      have keyedItems := (isKeyed_list_iff items).mp keyed
      exact (sameItems_iff items items).mpr (List.forall₂_same.mpr fun item member =>
        inductionHypothesis item member (keyedItems item member))
  | map entries inductionHypothesis =>
      obtain ⟨distinct, children⟩ := (isKeyed_map_iff entries).mp keyed
      refine (same_map_iff distinct distinct).mpr fun key => ?_
      cases found : lookup key entries with
      | none => exact Option.Rel.none
      | some value =>
          exact Option.Rel.some
            (inductionHypothesis _ (mem_of_lookup found) (children key value found))

/-! ## Trees that repeat no key -/

/-- Sameness of trees that repeat no key. -/
def KeyedSame (left right : Tree) : Prop :=
  Same left right ∧ left.isKeyed = true ∧ right.isKeyed = true

theorem forall₂_keyedSame_iff {items others : List Tree} :
    List.Forall₂ KeyedSame items others ↔ List.Forall₂ Same items others ∧
      (∀ item ∈ items, item.isKeyed = true) ∧ ∀ other ∈ others, other.isKeyed = true := by
  induction items generalizing others with
  | nil => cases others <;> simp
  | cons item rest inductionHypothesis =>
      cases others with
      | nil => simp
      | cons other more =>
          simp only [List.forall₂_cons, inductionHypothesis, KeyedSame, List.forall_mem_cons]
          tauto

theorem rel_keyedSame_iff {left right : Option Tree} :
    Option.Rel KeyedSame left right ↔ Option.Rel Same left right ∧
      (∀ tree, left = some tree → tree.isKeyed = true) ∧
        ∀ tree, right = some tree → tree.isKeyed = true := by
  cases left <;> cases right <;> simp [KeyedSame]

namespace KeyedSame

variable {left middle right : Tree}

theorem null_iff : KeyedSame .null right ↔ right = .null := by
  constructor
  · rintro ⟨same, -⟩
    cases right <;> first | rfl | cases same
  · rintro rfl
    exact ⟨rfl, rfl, rfl⟩

theorem bool_iff {value : Bool} : KeyedSame (.bool value) right ↔ right = .bool value := by
  constructor
  · rintro ⟨same, -⟩
    cases right with
    | bool other => exact congrArg Tree.bool (beq_iff_eq.mp same).symm
    | _ => cases same
  · rintro rfl
    exact ⟨beq_self_eq_true value, rfl, rfl⟩

theorem number_iff {value : TreeNumber} :
    KeyedSame (.number value) right ↔ ∃ other, right = .number other ∧ value.same other = true := by
  constructor
  · rintro ⟨same, -⟩
    cases right with
    | number other => exact ⟨other, rfl, same⟩
    | _ => cases same
  · rintro ⟨other, rfl, same⟩
    exact ⟨same, rfl, rfl⟩

theorem text_iff {value : String} : KeyedSame (.text value) right ↔ right = .text value := by
  constructor
  · rintro ⟨same, -⟩
    cases right with
    | text other => exact congrArg Tree.text (beq_iff_eq.mp same).symm
    | _ => cases same
  · rintro rfl
    exact ⟨beq_self_eq_true value, rfl, rfl⟩

theorem list_iff {items : List Tree} :
    KeyedSame (.list items) right ↔
      ∃ others, right = .list others ∧ List.Forall₂ KeyedSame items others := by
  have lists : ∀ others, KeyedSame (.list items) (.list others) ↔
      List.Forall₂ KeyedSame items others := by
    intro others
    rw [KeyedSame, isKeyed_list_iff, isKeyed_list_iff, forall₂_keyedSame_iff, Same, same,
      sameItems_iff]
  constructor
  · intro related
    cases right with
    | list others => exact ⟨others, rfl, (lists others).mp related⟩
    | _ => cases related.1
  · rintro ⟨others, rfl, pairs⟩
    exact (lists others).mpr pairs

theorem map_iff {entries : List (String × Tree)} :
    KeyedSame (.map entries) right ↔
      ∃ others, right = .map others ∧ (keys entries).Nodup ∧ (keys others).Nodup ∧
        ∀ key, Option.Rel KeyedSame (lookup key entries) (lookup key others) := by
  have maps : ∀ others, KeyedSame (.map entries) (.map others) ↔
      (keys entries).Nodup ∧ (keys others).Nodup ∧
        ∀ key, Option.Rel KeyedSame (lookup key entries) (lookup key others) := by
    intro others
    simp only [KeyedSame, isKeyed_map_iff, rel_keyedSame_iff, forall_and]
    constructor
    · rintro ⟨same, ⟨distinct, children⟩, distinctOthers, otherChildren⟩
      exact ⟨distinct, distinctOthers, (same_map_iff distinct distinctOthers).mp same, children,
        otherChildren⟩
    · rintro ⟨distinct, distinctOthers, related, children, otherChildren⟩
      exact ⟨(same_map_iff distinct distinctOthers).mpr related, ⟨distinct, children⟩,
        distinctOthers, otherChildren⟩
  constructor
  · intro related
    cases right with
    | map others => exact ⟨others, rfl, (maps others).mp related⟩
    | _ => cases related.1
  · rintro ⟨others, rfl, parts⟩
    exact (maps others).mpr parts

theorem symm (related : KeyedSame left right) : KeyedSame right left := by
  induction left generalizing right with
  | null =>
      obtain rfl := null_iff.mp related
      exact related
  | bool value =>
      obtain rfl := bool_iff.mp related
      exact related
  | number value =>
      obtain ⟨other, rfl, same⟩ := number_iff.mp related
      exact number_iff.mpr ⟨value, rfl, TreeNumber.same_symm same⟩
  | text value =>
      obtain rfl := text_iff.mp related
      exact related
  | list items inductionHypothesis =>
      obtain ⟨others, rfl, pairs⟩ := list_iff.mp related
      exact list_iff.mpr ⟨items, rfl, forall₂_symm inductionHypothesis pairs⟩
  | map entries inductionHypothesis =>
      obtain ⟨others, rfl, distinct, distinctOthers, children⟩ := map_iff.mp related
      exact map_iff.mpr ⟨entries, rfl, distinctOthers, distinct, fun key =>
        rel_symm (fun _ found => inductionHypothesis _ (mem_of_lookup found)) (children key)⟩

theorem trans (first : KeyedSame left middle) (second : KeyedSame middle right) :
    KeyedSame left right := by
  induction left generalizing middle right with
  | null =>
      obtain rfl := null_iff.mp first
      exact second
  | bool value =>
      obtain rfl := bool_iff.mp first
      exact second
  | number value =>
      obtain ⟨other, rfl, same⟩ := number_iff.mp first
      obtain ⟨last, rfl, moreSame⟩ := number_iff.mp second
      exact number_iff.mpr ⟨last, rfl, TreeNumber.same_trans same moreSame⟩
  | text value =>
      obtain rfl := text_iff.mp first
      exact second
  | list items inductionHypothesis =>
      obtain ⟨others, rfl, pairs⟩ := list_iff.mp first
      obtain ⟨third, rfl, morePairs⟩ := list_iff.mp second
      exact list_iff.mpr ⟨third, rfl, forall₂_trans inductionHypothesis pairs morePairs⟩
  | map entries inductionHypothesis =>
      obtain ⟨others, rfl, distinct, -, children⟩ := map_iff.mp first
      obtain ⟨third, rfl, -, distinctThird, moreChildren⟩ := map_iff.mp second
      exact map_iff.mpr ⟨third, rfl, distinct, distinctThird, fun key =>
        rel_trans (fun _ found => inductionHypothesis _ (mem_of_lookup found)) (children key)
          (moreChildren key)⟩

end KeyedSame

end Tree

end ReleaseRules
