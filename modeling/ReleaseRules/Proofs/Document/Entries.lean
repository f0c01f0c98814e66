import ReleaseRules.Document.Tree

/-!
Contract: the laws of the entries of a map.

Owns:
- what a key has after an insertion, and which keys there are;
- when collecting entries leaves them as they are.

Does not own: nested maps.
-/

namespace ReleaseRules.Tree

variable {α : Type}

/-- The keys of entries, in order. -/
def keys (entries : List (String × α)) : List String := entries.map Prod.fst

theorem lookup_cons (key name : String) (value : α) (rest : List (String × α)) :
    lookup key ((name, value) :: rest) = if name = key then some value else lookup key rest :=
  rfl

theorem lookup_insert_same (key : String) (value : α) (entries : List (String × α)) :
    lookup key (insert key value entries) = some value := by
  induction entries with
  | nil => simp [insert, lookup]
  | cons entry rest inductionHypothesis =>
      obtain ⟨name, old⟩ := entry
      by_cases same : name = key
      · simp [insert, lookup, same]
      · simp [insert, lookup, same, inductionHypothesis]

theorem lookup_insert_of_ne {key other : String} (different : other ≠ key) (value : α)
    (entries : List (String × α)) :
    lookup other (insert key value entries) = lookup other entries := by
  induction entries with
  | nil => simp [insert, lookup, Ne.symm different]
  | cons entry rest inductionHypothesis =>
      obtain ⟨name, old⟩ := entry
      by_cases same : name = key
      · subst same
        simp [insert, lookup, Ne.symm different]
      · simp [insert, lookup, same, inductionHypothesis]

/-- An insertion changes exactly one key. -/
theorem lookup_insert (key other : String) (value : α) (entries : List (String × α)) :
    lookup other (insert key value entries) =
      if other = key then some value else lookup other entries := by
  by_cases same : other = key
  · subst same
    simp [lookup_insert_same]
  · simp [same, lookup_insert_of_ne same]

theorem mem_of_lookup {key : String} {value : α} {entries : List (String × α)}
    (found : lookup key entries = some value) : (key, value) ∈ entries := by
  induction entries with
  | nil => simp [lookup] at found
  | cons entry rest inductionHypothesis =>
      obtain ⟨name, old⟩ := entry
      by_cases same : name = key
      · have values : old = value := by simpa [lookup, same] using found
        simp [same, values]
      · have later : lookup key rest = some value := by simpa [lookup, same] using found
        exact List.mem_cons_of_mem _ (inductionHypothesis later)

theorem lookup_isSome_iff (key : String) (entries : List (String × α)) :
    (lookup key entries).isSome = true ↔ key ∈ keys entries := by
  induction entries with
  | nil => simp [lookup, keys]
  | cons entry rest inductionHypothesis =>
      obtain ⟨name, old⟩ := entry
      by_cases same : name = key
      · simp [lookup, keys, same]
      · simpa [lookup, keys, same, Ne.symm same] using inductionHypothesis

theorem lookup_eq_none_iff (key : String) (entries : List (String × α)) :
    lookup key entries = none ↔ key ∉ keys entries := by
  rw [← lookup_isSome_iff]
  simp

/-- With distinct keys, every entry is the one that its key leads to. -/
theorem lookup_of_mem {key : String} {value : α} {entries : List (String × α)}
    (distinct : (keys entries).Nodup) (member : (key, value) ∈ entries) :
    lookup key entries = some value := by
  induction entries with
  | nil => simp at member
  | cons entry rest inductionHypothesis =>
      obtain ⟨name, old⟩ := entry
      obtain ⟨fresh, distinctRest⟩ := List.nodup_cons.mp distinct
      rcases List.mem_cons.mp member with here | later
      · obtain ⟨rfl, rfl⟩ := Prod.mk.inj here
        simp [lookup]
      · have other : name ≠ key := by
          rintro rfl
          exact fresh (List.mem_map.mpr ⟨_, later, rfl⟩)
        simp [lookup, other, inductionHypothesis distinctRest later]

theorem mem_insert {key : String} {value : α} {entries : List (String × α)}
    {entry : String × α} (member : entry ∈ insert key value entries) :
    entry = (key, value) ∨ entry ∈ entries := by
  induction entries with
  | nil => exact Or.inl (List.mem_singleton.mp member)
  | cons head rest inductionHypothesis =>
      obtain ⟨name, old⟩ := head
      by_cases same : name = key
      · simp only [insert, if_pos same, List.mem_cons] at member
        rcases member with here | later
        · exact Or.inl (by simpa [same] using here)
        · exact Or.inr (List.mem_cons_of_mem _ later)
      · simp only [insert, if_neg same, List.mem_cons] at member
        rcases member with here | later
        · exact Or.inr (by simp [here])
        · rcases inductionHypothesis later with new | kept
          · exact Or.inl new
          · exact Or.inr (List.mem_cons_of_mem _ kept)

/-- An insertion keeps the keys in order and adds a new key at the end. -/
theorem keys_insert (key : String) (value : α) (entries : List (String × α)) :
    keys (insert key value entries) =
      if key ∈ keys entries then keys entries else keys entries ++ [key] := by
  induction entries with
  | nil => simp [insert, keys]
  | cons entry rest inductionHypothesis =>
      obtain ⟨name, old⟩ := entry
      by_cases same : name = key
      · simp [insert, keys, same]
      · have split : keys (insert key value ((name, old) :: rest)) =
            name :: keys (insert key value rest) := by
          simp [insert, keys, same]
        rw [split, inductionHypothesis]
        by_cases known : key ∈ keys rest
        · simp_all [keys]
        · simp_all [keys, Ne.symm same]

theorem nodup_keys_insert (key : String) (value : α) {entries : List (String × α)}
    (distinct : (keys entries).Nodup) : (keys (insert key value entries)).Nodup := by
  rw [keys_insert]
  split
  · exact distinct
  · rename_i fresh
    exact List.nodup_append.mpr
      ⟨distinct, by simp, fun name member other last =>
        fun same => fresh (List.mem_singleton.mp last ▸ same ▸ member)⟩

theorem insert_of_not_mem {key : String} (value : α) {entries : List (String × α)}
    (fresh : key ∉ keys entries) : insert key value entries = entries ++ [(key, value)] := by
  induction entries with
  | nil => rfl
  | cons entry rest inductionHypothesis =>
      obtain ⟨name, old⟩ := entry
      have other : name ≠ key := fun same => fresh (by simp [keys, same])
      have later : key ∉ keys rest := fun member => fresh (List.mem_cons_of_mem _ member)
      simp [insert, other, inductionHypothesis later]

/-- Writing the value that is there changes nothing. -/
theorem insert_of_lookup {key : String} {value : α} {entries : List (String × α)}
    (found : lookup key entries = some value) : insert key value entries = entries := by
  induction entries with
  | nil => simp [lookup] at found
  | cons entry rest inductionHypothesis =>
      obtain ⟨name, old⟩ := entry
      by_cases same : name = key
      · have values : old = value := by simpa [lookup, same] using found
        simp [insert, same, values]
      · have later : lookup key rest = some value := by simpa [lookup, same] using found
        simp [insert, same, inductionHypothesis later]

/-- Of two insertions under one key the second counts. -/
theorem insert_insert_same (key : String) (first second : α) (entries : List (String × α)) :
    insert key second (insert key first entries) = insert key second entries := by
  induction entries with
  | nil => simp [insert]
  | cons entry rest inductionHypothesis =>
      obtain ⟨name, old⟩ := entry
      by_cases same : name = key
      · simp [insert, same]
      · simp [insert, same, inductionHypothesis]

/-- Entries with distinct keys are equal if they have the same keys in the same order, and the
same values under them. -/
theorem entries_ext {left right : List (String × α)} (distinct : (keys left).Nodup)
    (sameKeys : keys left = keys right)
    (sameValues : ∀ key, lookup key left = lookup key right) : left = right := by
  induction left generalizing right with
  | nil =>
      cases right with
      | nil => rfl
      | cons _ _ => simp [keys] at sameKeys
  | cons entry rest inductionHypothesis =>
      cases right with
      | nil => simp [keys] at sameKeys
      | cons other others =>
          obtain ⟨name, value⟩ := entry
          obtain ⟨otherName, otherValue⟩ := other
          obtain ⟨rfl, restKeys⟩ : name = otherName ∧ keys rest = keys others := by
            simpa [keys] using sameKeys
          obtain ⟨fresh, distinctRest⟩ := List.nodup_cons.mp distinct
          have values : value = otherValue := by simpa [lookup] using sameValues name
          have restValues : ∀ key, lookup key rest = lookup key others := by
            intro key
            by_cases same : name = key
            · subst same
              rw [(lookup_eq_none_iff name rest).mpr fresh,
                (lookup_eq_none_iff name others).mpr (restKeys ▸ fresh)]
            · simpa [lookup, same] using sameValues key
          rw [values, inductionHypothesis distinctRest restKeys restValues]

private theorem foldl_insert_append (before entries : List (String × α))
    (distinct : (keys (before ++ entries)).Nodup) :
    entries.foldl (fun collected entry => insert entry.1 entry.2 collected) before =
      before ++ entries := by
  induction entries generalizing before with
  | nil => simp
  | cons entry rest inductionHypothesis =>
      obtain ⟨name, value⟩ := entry
      have fresh : name ∉ keys before := by
        intro known
        rw [keys, List.map_append] at distinct
        exact (List.nodup_append.mp distinct).2.2 name known name (by simp) rfl
      rw [List.foldl_cons, insert_of_not_mem value fresh, inductionHypothesis]
      · simp
      · simpa using distinct

/-- Entries with distinct keys are collected as they are. -/
theorem collect_of_nodup {entries : List (String × α)} (distinct : (keys entries).Nodup) :
    collect entries = entries := by
  rw [collect, foldl_insert_append [] entries (by simpa using distinct), List.nil_append]

/-- What holds without entries and after each insertion holds of collected entries. -/
theorem collect_induction (holds : List (String × α) → Prop) (entries : List (String × α))
    (start : holds [])
    (step : ∀ entry ∈ entries, ∀ collected, holds collected →
      holds (insert entry.1 entry.2 collected)) : holds (collect entries) := by
  suffices every : ∀ before, holds before →
      holds (entries.foldl (fun collected entry => insert entry.1 entry.2 collected) before) from
    every [] start
  induction entries with
  | nil => exact fun before kept => kept
  | cons entry rest inductionHypothesis =>
      intro before kept
      exact inductionHypothesis
        (fun later member => step later (List.mem_cons_of_mem _ member)) _
        (step entry List.mem_cons_self before kept)

theorem nodup_keys_collect (entries : List (String × α)) : (keys (collect entries)).Nodup :=
  collect_induction (fun collected => (keys collected).Nodup) entries (by simp [keys])
    fun entry _ _ distinct => nodup_keys_insert entry.1 entry.2 distinct

theorem mem_collect {entries : List (String × α)} {entry : String × α}
    (member : entry ∈ collect entries) : entry ∈ entries := by
  revert member
  refine collect_induction (fun collected => entry ∈ collected → entry ∈ entries) entries
    (by simp) ?_
  intro given inEntries collected kept member
  rcases mem_insert member with same | old
  · exact same ▸ inEntries
  · exact kept old

end ReleaseRules.Tree
