import Mathlib.Algebra.GroupWithZero.Nat
import ReleaseRules.Proofs.Rules.Likeness

/-!
Contract: writes that are made twice.

Owns: the outcome of making the same writes again, for every place and every likeness.

Does not own: texts, and which writes a run of rules makes.

The proof goes by what the writes do to the node itself:
- a replacement makes the outcome independent of what was there before;
- an append leaves a list, to which writes below it do nothing, and which has all items that are
  appended;
- otherwise nothing happens to a map but to its children, one key at a time, and nothing happens
  at all to what is neither a map nor vacant. A vacant place is filled by the first write, or
  counts as the empty map.
-/

namespace ReleaseRules

open ReleaseRules.Tree (lookup insert keys)

variable {unchanged : Tree → Tree → Bool} {likeness : Likeness unchanged}

/-- The writes to the child under a key, with the rest of their paths. -/
def childWrites (key : String) (writes : List Write) : List Write :=
  writes.filterMap fun write =>
    match write.path with
    | [] => none
    | segment :: rest => if segment = key then some ⟨rest, write.content⟩ else none

/-- The size of writes: how many there are, and how long their paths are. -/
def sizeOfWrites (writes : List Write) : Nat :=
  (writes.map fun write => write.path.length + 1).sum

theorem sizeOfWrites_cons (write : Write) (rest : List Write) :
    sizeOfWrites (write :: rest) = write.path.length + 1 + sizeOfWrites rest := by
  simp [sizeOfWrites]

theorem childWrites_cons (key : String) (write : Write) (rest : List Write) :
    childWrites key (write :: rest) =
      (match write.path with
        | [] => []
        | segment :: path => if segment = key then [⟨path, write.content⟩] else []) ++
        childWrites key rest := by
  rw [childWrites, List.filterMap_cons, ← childWrites]
  cases write.path with
  | nil => rfl
  | cons segment path =>
      dsimp only
      split <;> simp_all

theorem sizeOfWrites_childWrites (key : String) (writes : List Write) :
    sizeOfWrites (childWrites key writes) + (childWrites key writes).length ≤
      sizeOfWrites writes := by
  induction writes with
  | nil => simp [childWrites, sizeOfWrites]
  | cons write rest inductionHypothesis =>
      rw [childWrites_cons, sizeOfWrites_cons]
      cases path : write.path with
      | nil =>
          simp only [List.nil_append, List.length_nil]
          omega
      | cons segment others =>
          by_cases same : segment = key
          · simp only [if_pos same, List.singleton_append, List.length_cons, sizeOfWrites_cons]
            omega
          · simp only [if_neg same, List.nil_append, List.length_cons]
            omega

theorem mem_childWrites {key : String} {writes : List Write} {child : Write} :
    child ∈ childWrites key writes ↔ (⟨key :: child.path, child.content⟩ : Write) ∈ writes := by
  rw [childWrites, List.mem_filterMap]
  constructor
  · rintro ⟨⟨path, content⟩, member, found⟩
    cases path with
    | nil => cases found
    | cons segment rest =>
        dsimp only at found
        split at found
        · rename_i same
          obtain rfl := Option.some.inj found
          exact same ▸ member
        · cases found
  · intro member
    exact ⟨_, member, by simp⟩

theorem valid_childWrites {writes : List Write} (valid : likeness.Valid writes) (key : String) :
    likeness.Valid (childWrites key writes) :=
  fun child member => valid ⟨key :: child.path, child.content⟩ (mem_childWrites.mp member)

/-! ## What is there stays there -/

theorem runWrites_isSome {writes : List Write} {old : Option Tree}
    (present : old.isSome = true ∨ writes ≠ []) :
    (runWrites unchanged writes old).isSome = true := by
  induction writes generalizing old with
  | nil => simpa [runWrites] using present
  | cons write rest inductionHypothesis =>
      rw [runWrites_cons]
      exact inductionHypothesis (Or.inl (write.content.put_isSome write.path old))

/-- Whether writes do nothing to the node itself but fill it. -/
def OnlyFillsHere (writes : List Write) : Prop :=
  ∀ write ∈ writes, write.path = [] → ∃ value, write.content = .fill value

theorem OnlyFillsHere.tail {write : Write} {rest : List Write}
    (quiet : OnlyFillsHere (write :: rest)) : OnlyFillsHere rest :=
  fun later member => quiet later (List.mem_cons_of_mem _ member)

/-- A fill does nothing to a node that is not vacant. -/
theorem put_fill (value : Tree) {old : Option Tree} (taken : isVacant old = false) :
    (Content.fill value).put unchanged [] old = old := by
  rw [Content.put, Content.settle_fill, taken, if_neg (by decide)]

theorem runWrites_taken {writes : List Write} (quiet : OnlyFillsHere writes) {old : Option Tree}
    (taken : isVacant old = false) : isVacant (runWrites unchanged writes old) = false := by
  induction writes generalizing old with
  | nil => exact taken
  | cons write rest inductionHypothesis =>
      obtain ⟨path, content⟩ := write
      rw [runWrites_cons]
      refine inductionHypothesis quiet.tail ?_
      cases path with
      | nil =>
          obtain ⟨value, rfl⟩ := quiet _ List.mem_cons_self rfl
          rw [put_fill value taken]
          exact taken
      | cons segment others =>
          cases opened : openEntries old with
          | none =>
              rw [content.put_closed segment others opened]
              exact taken
          | some entries =>
              obtain ⟨child, -, put⟩ := content.put_open unchanged segment others opened
              rw [put]
              rfl

/-- Nothing happens to what is neither a map nor vacant. -/
theorem runWrites_closed {writes : List Write} (quiet : OnlyFillsHere writes)
    {old : Option Tree} (closed : openEntries old = none) :
    runWrites unchanged writes old = old := by
  have taken : isVacant old = false := by
    cases old with
    | none => cases closed
    | some tree => cases tree <;> first | rfl | cases closed
  induction writes with
  | nil => rfl
  | cons write rest inductionHypothesis =>
      obtain ⟨path, content⟩ := write
      have kept : content.put unchanged path old = old := by
        cases path with
        | nil =>
            obtain ⟨value, rfl⟩ := quiet _ List.mem_cons_self rfl
            exact put_fill value taken
        | cons segment others => exact content.put_closed segment others closed
      rw [runWrites_cons, kept]
      exact inductionHypothesis quiet.tail

/-! ## Maps -/

/-- To a map, only its children matter, one key at a time. Its keys stay in order, and no key is
new if each write goes below one that is there. -/
theorem runWrites_map (unchanged : Tree → Tree → Bool) {writes : List Write}
    (quiet : OnlyFillsHere writes) (entries : List (String × Tree)) :
    ∃ outcome, runWrites unchanged writes (some (.map entries)) = some (.map outcome) ∧
      (∀ key, lookup key outcome =
        runWrites unchanged (childWrites key writes) (lookup key entries)) ∧
      ((∀ write ∈ writes, ∀ segment rest, write.path = segment :: rest →
        segment ∈ keys entries) → keys outcome = keys entries) := by
  induction writes generalizing entries with
  | nil => exact ⟨entries, rfl, fun _ => rfl, fun _ => rfl⟩
  | cons write rest inductionHypothesis =>
      obtain ⟨path, content⟩ := write
      cases path with
      | nil =>
          obtain ⟨value, rfl⟩ := quiet _ List.mem_cons_self rfl
          obtain ⟨outcome, found, children, sameKeys⟩ := inductionHypothesis quiet.tail entries
          refine ⟨outcome, ?_, ?_, ?_⟩
          · rw [runWrites_cons, put_fill value rfl, found]
          · intro key
            rw [children key, childWrites_cons]
            rfl
          · exact fun known => sameKeys fun later member =>
              known later (List.mem_cons_of_mem _ member)
      | cons segment others =>
          have opened : openEntries (some (.map entries)) = some entries := rfl
          obtain ⟨child, childFound, put⟩ := content.put_open unchanged segment others opened
          obtain ⟨outcome, found, children, sameKeys⟩ :=
            inductionHypothesis quiet.tail (insert segment child entries)
          refine ⟨outcome, ?_, ?_, ?_⟩
          · rw [runWrites_cons, put, found]
          · intro key
            rw [children key, childWrites_cons, Tree.lookup_insert]
            by_cases same : key = segment
            · subst same
              simp only [if_true, List.singleton_append, runWrites_cons, childFound]
            · simp only [if_neg same, if_neg (Ne.symm same), List.nil_append]
          · intro known
            have here : segment ∈ keys entries := known _ List.mem_cons_self segment others rfl
            have stays : keys (insert segment child entries) = keys entries := by
              rw [Tree.keys_insert, if_pos here]
            rw [sameKeys ?_, stays]
            intro later member head tail path
            rw [stays]
            exact known later (List.mem_cons_of_mem _ member) head tail path

/-! ## Lists -/

/-- Whether writes do not replace the node itself. -/
def NeverReplaceHere (writes : List Write) : Prop := ∀ value, ⟨[], .replace value⟩ ∉ writes

theorem NeverReplaceHere.head {write : Write} {rest : List Write}
    (keeps : NeverReplaceHere (write :: rest)) (value : Tree) : write ≠ ⟨[], .replace value⟩ :=
  fun same => keeps value (same ▸ List.mem_cons_self)

theorem NeverReplaceHere.tail {write : Write} {rest : List Write}
    (keeps : NeverReplaceHere (write :: rest)) : NeverReplaceHere rest :=
  fun value => List.not_mem_of_not_mem_cons (keeps value)

/-- Writes that neither replace the node itself nor append to it do nothing to it but fill it. -/
theorem onlyFillsHere_of_neverReplace {writes : List Write} (keeps : NeverReplaceHere writes)
    (appends : ∀ value, ⟨[], .append value⟩ ∉ writes) : OnlyFillsHere writes := by
  rintro ⟨path, content⟩ member here
  obtain rfl : path = [] := here
  cases content with
  | replace value => exact absurd member (keeps value)
  | fill value => exact ⟨value, rfl⟩
  | append value => exact absurd member (appends value)

/-- Whether items have all that writes append to the node itself. -/
def HasAppended (items : List Tree) (writes : List Write) : Prop :=
  ∀ value, ⟨[], .append value⟩ ∈ writes → (items.any fun item => item.same value) = true

theorem hasAppended_cons_iff {items : List Tree} {write : Write} {rest : List Write} :
    HasAppended items (write :: rest) ↔ HasAppended items [write] ∧ HasAppended items rest := by
  simp only [HasAppended, List.mem_cons, List.not_mem_nil, or_false, or_imp, forall_and]

theorem hasAppended_append_iff {items : List Tree} {value : Tree} :
    HasAppended items [⟨[], .append value⟩] ↔
      (items.any fun item => item.same value) = true := by
  constructor
  · intro complete
    exact complete value List.mem_cons_self
  · intro known other member
    obtain ⟨-, same⟩ := Write.mk.inj (List.mem_singleton.mp member)
    obtain rfl := Content.append.inj same
    exact known

theorem hasAppended_of_ne {items : List Tree} {write : Write}
    (other : ∀ value, write ≠ ⟨[], .append value⟩) : HasAppended items [write] :=
  fun value member => absurd (List.mem_singleton.mp member).symm (other value)

theorem HasAppended.extend {items : List Tree} {writes : List Write}
    (complete : HasAppended items writes) (more : List Tree) :
    HasAppended (items ++ more) writes := by
  intro value member
  rw [List.any_append, complete value member, Bool.true_or]

/-- A write to a list appends to it or does nothing, unless it replaces the list. -/
theorem put_list {write : Write} {items : List Tree}
    (keeps : ∀ value, write ≠ ⟨[], .replace value⟩)
    (valid : likeness.alike write.content.value write.content.value)
    (present : likeness.Alike (some (.list items)) (some (.list items))) :
    (∃ value, write = ⟨[], .append value⟩ ∧ (items.any fun item => item.same value) = false ∧
        write.content.put unchanged write.path (some (.list items)) =
          some (.list (items ++ [value]))) ∨
      HasAppended items [write] ∧
        write.content.put unchanged write.path (some (.list items)) = some (.list items) := by
  obtain ⟨path, content⟩ := write
  cases path with
  | cons segment rest =>
      have other : ∀ value, (⟨segment :: rest, content⟩ : Write) ≠ ⟨[], .append value⟩ :=
        fun _ same => nomatch same
      exact Or.inr ⟨hasAppended_of_ne other, content.put_closed segment rest rfl⟩
  | nil =>
      cases content with
      | replace value => exact absurd rfl (keeps value)
      | fill value =>
          have other : ∀ appended, (⟨[], .fill value⟩ : Write) ≠ ⟨[], .append appended⟩ :=
            fun _ same => nomatch same
          exact Or.inr ⟨hasAppended_of_ne other, put_fill value rfl⟩
      | append value =>
          have carried : likeness.alike value value := valid
          have settled := Likeness.settle_append carried present
          have here : itemsAt (some (.list items)) = items := rfl
          rw [here] at settled
          by_cases known : (items.any fun item => item.same value) = true
          · rw [if_pos known] at settled
            exact Or.inr ⟨hasAppended_append_iff.mpr known, settled⟩
          · rw [if_neg known] at settled
            exact Or.inl ⟨value, rfl, by simpa using known, settled⟩

/-- Writes that have nothing left to append leave a list as it is. -/
theorem runWrites_list_of_hasAppended {writes : List Write} {items : List Tree}
    (keeps : NeverReplaceHere writes) (valid : likeness.Valid writes)
    (present : likeness.Alike (some (.list items)) (some (.list items)))
    (complete : HasAppended items writes) :
    runWrites unchanged writes (some (.list items)) = some (.list items) := by
  induction writes with
  | nil => rfl
  | cons write rest inductionHypothesis =>
      obtain ⟨completeHere, completeRest⟩ := hasAppended_cons_iff.mp complete
      have kept : write.content.put unchanged write.path (some (.list items)) =
          some (.list items) := by
        rcases put_list keeps.head valid.head present with ⟨value, rfl, missing, -⟩ | ⟨-, put⟩
        · rw [hasAppended_append_iff.mp completeHere] at missing
          cases missing
        · exact put
      rw [runWrites_cons, kept]
      exact inductionHypothesis keeps.tail valid.tail completeRest

/-- A list that is not replaced only grows, and has all that is appended in the end. -/
theorem runWrites_list {writes : List Write} {items : List Tree}
    (keeps : NeverReplaceHere writes) (valid : likeness.Valid writes)
    (present : likeness.Alike (some (.list items)) (some (.list items))) :
    ∃ more, runWrites unchanged writes (some (.list items)) = some (.list (items ++ more)) ∧
      HasAppended (items ++ more) writes := by
  induction writes generalizing items with
  | nil => exact ⟨[], by simp [runWrites], fun _ member => nomatch member⟩
  | cons write rest inductionHypothesis =>
      rcases put_list keeps.head valid.head present with ⟨value, rfl, -, put⟩ | ⟨complete, put⟩
      · have extended : likeness.Alike (some (.list (items ++ [value])))
            (some (.list (items ++ [value]))) := by
          rw [← put]
          exact Likeness.put_congr valid.head [] present
        obtain ⟨more, found, completeRest⟩ := inductionHypothesis keeps.tail valid.tail extended
        rw [List.append_assoc, List.singleton_append] at found completeRest
        have self : value.same value = true := likeness.same_refl valid.head
        exact ⟨value :: more, by rw [runWrites_cons, put, found],
          hasAppended_cons_iff.mpr ⟨hasAppended_append_iff.mpr (by simp [self]), completeRest⟩⟩
      · obtain ⟨more, found, completeRest⟩ := inductionHypothesis keeps.tail valid.tail present
        exact ⟨more, by rw [runWrites_cons, put, found],
          hasAppended_cons_iff.mpr ⟨complete.extend more, completeRest⟩⟩

/-- An append leaves a list that has what it appends. -/
theorem put_append {value : Tree} (valid : likeness.alike value value) {old : Option Tree}
    (present : likeness.Alike old old) :
    ∃ items, (Content.append value).put unchanged [] old = some (.list items) ∧
      HasAppended items [⟨[], .append value⟩] := by
  have settled := Likeness.settle_append valid present
  by_cases known : ((itemsAt old).any fun item => item.same value) = true
  · rw [if_pos known] at settled
    obtain ⟨items, isList⟩ : ∃ items, old = some (.list items) := by
      cases old with
      | none => cases known
      | some tree => cases tree <;> first | exact ⟨_, rfl⟩ | cases known
    subst isList
    exact ⟨items, settled, hasAppended_append_iff.mpr known⟩
  · rw [if_neg known] at settled
    have self : value.same value = true := likeness.same_refl valid
    exact ⟨itemsAt old ++ [value], settled, hasAppended_append_iff.mpr (by simp [self])⟩

/-- Writes that append to the node itself leave a list that has all they append. -/
theorem runWrites_of_append {writes : List Write} (keeps : NeverReplaceHere writes)
    (valid : likeness.Valid writes) {value : Tree} (appended : ⟨[], .append value⟩ ∈ writes)
    {old : Option Tree} (present : likeness.Alike old old) :
    ∃ items, runWrites unchanged writes old = some (.list items) ∧ HasAppended items writes := by
  induction writes generalizing old with
  | nil => cases appended
  | cons write rest inductionHypothesis =>
      have presentAfter := Likeness.put_congr valid.head write.path present
      by_cases here : ∃ first, write = ⟨[], .append first⟩
      · -- The first append makes the list that the rest goes on with.
        obtain ⟨first, rfl⟩ := here
        have carried : likeness.alike first first := valid.head
        obtain ⟨items, put, complete⟩ := put_append carried present
        rw [put] at presentAfter
        obtain ⟨more, found, completeRest⟩ := runWrites_list keeps.tail valid.tail presentAfter
        exact ⟨items ++ more, by rw [runWrites_cons, put, found],
          hasAppended_cons_iff.mpr ⟨complete.extend more, completeRest⟩⟩
      · have inRest : ⟨[], .append value⟩ ∈ rest := by
          rcases List.mem_cons.mp appended with same | later
          · exact absurd ⟨value, same.symm⟩ here
          · exact later
        obtain ⟨items, found, completeRest⟩ :=
          inductionHypothesis keeps.tail valid.tail inRest presentAfter
        exact ⟨items, by rw [runWrites_cons, found], hasAppended_cons_iff.mpr
          ⟨hasAppended_of_ne fun first same => here ⟨first, same⟩, completeRest⟩⟩

/-! ## Replacements -/

/-- What is there before a replacement of the node itself does not matter. -/
theorem runWrites_of_replace {first second : List Write} {value : Tree}
    (valid : likeness.Valid (first ++ ⟨[], .replace value⟩ :: second)) {old : Option Tree}
    (present : likeness.Alike old old) :
    likeness.Alike (runWrites unchanged (first ++ ⟨[], .replace value⟩ :: second) old)
      (runWrites unchanged second (some value)) := by
  have validFirst : likeness.Valid first := fun write member =>
    valid write (List.mem_append_left _ member)
  have validSecond : likeness.Valid second := fun write member =>
    valid write (List.mem_append_right _ (List.mem_cons_of_mem _ member))
  have carried : likeness.alike value value :=
    valid ⟨[], .replace value⟩ (List.mem_append_right _ List.mem_cons_self)
  rw [runWrites_append, runWrites_cons]
  exact Likeness.runWrites_congr validSecond
    (Likeness.settle_replace carried (Likeness.runWrites_congr validFirst present))

/-! ## The second time -/

/-- What has entries to go on with and is not vacant is a map. -/
theorem eq_map_of_openEntries {old : Option Tree} {entries : List (String × Tree)}
    (opened : openEntries old = some entries) (taken : ¬ isVacant old = true) :
    old = some (.map entries) := by
  cases old with
  | none => exact absurd rfl taken
  | some tree =>
      cases tree with
      | map given => rw [Option.some.inj opened]
      | null => exact absurd rfl taken
      | _ => cases opened

/-- Below a map, the children are as after one time if this is so for each key. -/
theorem runWrites_twice_map {writes : List Write} (quiet : OnlyFillsHere writes)
    (valid : likeness.Valid writes) {entries : List (String × Tree)}
    (present : likeness.alike (.map entries) (.map entries))
    (children : ∀ key, likeness.Alike
      (runWrites unchanged (childWrites key writes)
        (runWrites unchanged (childWrites key writes) (lookup key entries)))
      (runWrites unchanged (childWrites key writes) (lookup key entries))) :
    likeness.Alike (runWrites unchanged writes (runWrites unchanged writes (some (.map entries))))
      (runWrites unchanged writes (some (.map entries))) := by
  obtain ⟨once, foundOnce, childrenOnce, -⟩ := runWrites_map unchanged quiet entries
  obtain ⟨twice, foundTwice, childrenTwice, sameKeys⟩ := runWrites_map unchanged quiet once
  have presentOnce : likeness.Alike (some (.map once)) (some (.map once)) := by
    rw [← foundOnce]
    exact Likeness.runWrites_congr valid (Likeness.alike_some_iff.mpr present)
  have presentTwice : likeness.Alike (some (.map twice)) (some (.map twice)) := by
    rw [← foundTwice]
    exact Likeness.runWrites_congr valid presentOnce
  obtain ⟨_, same, distinctOnce, -⟩ :=
    likeness.map_iff.mp (Likeness.alike_some_iff.mp presentOnce)
  obtain ⟨_, sameAgain, distinctTwice, -⟩ :=
    likeness.map_iff.mp (Likeness.alike_some_iff.mp presentTwice)
  -- Every key that is written to is there after one time.
  have stays : keys twice = keys once := by
    refine sameKeys fun write member segment rest path => ?_
    rw [← Tree.lookup_isSome_iff, childrenOnce segment]
    have child : (⟨rest, write.content⟩ : Write) ∈ childWrites segment writes := by
      refine mem_childWrites.mpr ?_
      rw [← path]
      exact member
    exact runWrites_isSome (Or.inr (List.ne_nil_of_mem child))
  rw [foundOnce, foundTwice]
  refine Likeness.alike_some_iff.mpr (likeness.map_iff.mpr
    ⟨once, rfl, distinctTwice, distinctOnce, ?_, fun key => ?_⟩)
  · rw [stays]
    exact likeness.order_refl _
  · rw [childrenTwice key, childrenOnce key]
    exact children key

/-- A vacant place counts as the empty map for writes that go below it first. -/
theorem runWrites_vacant (unchanged : Tree → Tree → Bool) (segment : String) (others : List String)
    (content : Content) (rest : List Write) {old : Option Tree} (vacant : isVacant old = true) :
    runWrites unchanged (⟨segment :: others, content⟩ :: rest) old =
      runWrites unchanged (⟨segment :: others, content⟩ :: rest) (some (.map [])) := by
  have opened : openEntries old = some [] := by
    cases old with
    | none => rfl
    | some tree => cases tree <;> first | rfl | cases vacant
  have openedMap : openEntries (some (.map [])) = some [] := rfl
  obtain ⟨child, found, put⟩ := content.put_open unchanged segment others opened
  obtain ⟨other, otherFound, otherPut⟩ := content.put_open unchanged segment others openedMap
  obtain rfl : child = other := Option.some.inj (found.symm.trans otherFound)
  rw [runWrites_cons, runWrites_cons, put, otherPut]

/-- A fill leaves a vacant place vacant only if it fills in null, and then null stays there. -/
theorem runWrites_fill_vacant {value : Tree} (valid : likeness.alike value value)
    {rest : List Write} (quiet : OnlyFillsHere rest) {old : Option Tree}
    (present : likeness.Alike old old) (vacant : isVacant old = true)
    (stillVacant : isVacant (runWrites unchanged rest
      ((Content.fill value).put unchanged [] old)) = true) :
    value = .null ∧
      runWrites unchanged rest ((Content.fill value).put unchanged [] old) = some .null := by
  have filled : (Content.fill value).put unchanged [] old =
      (Content.replace value).settle unchanged old := by
    rw [Content.put, Content.settle_fill, vacant, if_pos rfl]
  constructor
  · have vacantBefore : isVacant ((Content.fill value).put unchanged [] old) = true := by
      by_contra notVacant
      rw [runWrites_taken quiet (by simpa using notVacant)] at stillVacant
      cases stillVacant
    have same := Likeness.isVacant_congr (Likeness.settle_replace valid present)
    rw [← filled, vacantBefore] at same
    cases value <;> first | rfl | cases same
  · have there : (runWrites unchanged rest
        ((Content.fill value).put unchanged [] old)).isSome = true :=
      runWrites_isSome (Or.inl (Content.put_isSome _ _ _))
    obtain ⟨tree, found⟩ := Option.isSome_iff_exists.mp there
    rw [found] at stillVacant ⊢
    cases tree <;> first | rfl | cases stillVacant

/-- A fill of a vacant place may be made once more after the writes behind it. -/
theorem runWrites_twice_fill {value : Tree} {rest : List Write}
    (valid : likeness.Valid (⟨[], .fill value⟩ :: rest)) (quiet : OnlyFillsHere rest)
    {old : Option Tree} (present : likeness.Alike old old) (vacant : isVacant old = true)
    (behind : ∀ {start : Option Tree}, likeness.Alike start start →
      likeness.Alike (runWrites unchanged rest (runWrites unchanged rest start))
        (runWrites unchanged rest start)) :
    likeness.Alike
      (runWrites unchanged (⟨[], .fill value⟩ :: rest)
        (runWrites unchanged (⟨[], .fill value⟩ :: rest) old))
      (runWrites unchanged (⟨[], .fill value⟩ :: rest) old) := by
  have carried : likeness.alike value value := valid.head
  have once := behind (Likeness.put_congr valid.head [] present)
  rw [runWrites_cons, runWrites_cons]
  cases taken : isVacant (runWrites unchanged rest
      ((Content.fill value).put unchanged [] old)) with
  | false =>
      rw [put_fill value taken]
      exact once
  | true =>
      obtain ⟨rfl, final⟩ := runWrites_fill_vacant carried quiet present vacant taken
      rw [final] at once ⊢
      have again : likeness.Alike ((Content.fill .null).put unchanged [] (some .null))
          (some .null) :=
        Likeness.settle_replace carried (Likeness.alike_some_iff.mpr carried)
      exact (Likeness.runWrites_congr valid.tail again).trans once

/-- A vacant place is filled by a fill, and counts as the empty map for any other write. -/
private theorem runWrites_twice_vacant {writes : List Write} (quiet : OnlyFillsHere writes)
    (valid : likeness.Valid writes) {old : Option Tree} (present : likeness.Alike old old)
    (vacant : isVacant old = true)
    (atEmptyMap : likeness.Alike
      (runWrites unchanged writes (runWrites unchanged writes (some (.map []))))
      (runWrites unchanged writes (some (.map []))))
    (behind : ∀ write rest, writes = write :: rest → ∀ {start : Option Tree},
      likeness.Alike start start →
      likeness.Alike (runWrites unchanged rest (runWrites unchanged rest start))
        (runWrites unchanged rest start)) :
    likeness.Alike (runWrites unchanged writes (runWrites unchanged writes old))
      (runWrites unchanged writes old) := by
  cases writes with
  | nil => exact present
  | cons write rest =>
      obtain ⟨path, content⟩ := write
      cases path with
      | cons segment others =>
          rw [runWrites_vacant unchanged segment others content rest vacant]
          exact atEmptyMap
      | nil =>
          obtain ⟨value, rfl⟩ := quiet _ List.mem_cons_self rfl
          exact runWrites_twice_fill valid quiet.tail present vacant (behind _ rest rfl)

/-- Writes that are made twice leave what they leave when they are made once, up to any
likeness. -/
theorem runWrites_twice {writes : List Write} (valid : likeness.Valid writes) {old : Option Tree}
    (present : likeness.Alike old old) :
    likeness.Alike (runWrites unchanged writes (runWrites unchanged writes old))
      (runWrites unchanged writes old) := by
  -- The children have shorter paths, and the writes behind a fill are fewer.
  induction bound : sizeOfWrites writes using Nat.strongRecOn generalizing writes old with
  | ind size inductionHypothesis =>
      subst bound
      have presentAfter := Likeness.runWrites_congr valid present
      by_cases replaced : ∃ value, ⟨[], .replace value⟩ ∈ writes
      · obtain ⟨value, member⟩ := replaced
        obtain ⟨first, second, rfl⟩ := List.append_of_mem member
        exact (runWrites_of_replace valid presentAfter).trans
          (runWrites_of_replace valid present).symm
      have keeps : NeverReplaceHere writes := fun value member => replaced ⟨value, member⟩
      by_cases appended : ∃ value, ⟨[], .append value⟩ ∈ writes
      · obtain ⟨value, member⟩ := appended
        obtain ⟨items, found, complete⟩ := runWrites_of_append keeps valid member present
        rw [found] at presentAfter ⊢
        rw [runWrites_list_of_hasAppended keeps valid presentAfter complete]
        exact presentAfter
      have quiet : OnlyFillsHere writes := onlyFillsHere_of_neverReplace keeps
        fun value member => appended ⟨value, member⟩
      have atMap : ∀ entries, likeness.alike (.map entries) (.map entries) →
          likeness.Alike
            (runWrites unchanged writes (runWrites unchanged writes (some (.map entries))))
            (runWrites unchanged writes (some (.map entries))) := by
        intro entries presentMap
        refine runWrites_twice_map quiet valid presentMap fun key => ?_
        obtain ⟨_, same, -, -, -, values⟩ := likeness.map_iff.mp presentMap
        obtain rfl := Tree.map.inj same
        by_cases untouched : childWrites key writes = []
        · rw [untouched]
          exact values key
        · have smaller := sizeOfWrites_childWrites key writes
          have touched := List.length_pos_of_ne_nil untouched
          exact inductionHypothesis _ (by omega) (valid_childWrites valid key) (values key) rfl
      cases opened : openEntries old with
      | none =>
          rw [runWrites_closed quiet opened, runWrites_closed quiet opened]
          exact present
      | some entries =>
          by_cases vacant : isVacant old = true
          · refine runWrites_twice_vacant quiet valid present vacant
              (atMap [] Likeness.alike_empty) ?_
            rintro write rest rfl start presentStart
            have smaller : sizeOfWrites rest < sizeOfWrites (write :: rest) := by
              rw [sizeOfWrites_cons]
              omega
            exact inductionHypothesis _ smaller valid.tail presentStart rfl
          · obtain rfl := eq_map_of_openEntries opened vacant
            exact atMap entries (Likeness.alike_some_iff.mp present)

end ReleaseRules
