import Mathlib.Logic.Relation
import ReleaseRules.Regex.Program
import ReleaseRules.Regex.Search

/-!
Contract: what expressions read.

Owns:
- the parts of a text that an expression reads, with the positions that its groups record on the
  way, by recursion on the expression;
- parts one after another, and rounds of a reading;
- what every reading adds to the records: positions between its ends, for groups of the expression
  alone, and for every group a start with an end that is not before it.

Does not own: programs, and which of several readings a search prefers.

A repetition reads any number of rounds within its bounds, whether it is greedy or not: greed
decides which reading is preferred, not which readings there are.
-/

namespace ReleaseRules.Regex

/-- Where a reading stands: a position of the text and the positions recorded so far, the latest
first. -/
structure Spot where
  position : Nat
  records : List (Nat × Nat)
deriving Repr, DecidableEq

/-- Record the position in a slot. -/
def Spot.record (spot : Spot) (slot : Nat) : Spot :=
  { spot with records := (slot, spot.position) :: spot.records }

/-- A number of rounds of a reading, one after another. -/
def Rounds (reads : Spot → Spot → Prop) : Nat → Spot → Spot → Prop
  | 0 => Eq
  | count + 1 => Relation.Comp (Rounds reads count) reads

mutual

/-- From one spot to another, an expression reads what lies between them. -/
def Expression.Reads (text : Array Char) : Expression → Spot → Spot → Prop
  | .empty => Eq
  | .set members => fun here there =>
      ∃ character, text[here.position]? = some character ∧ members.hasChar character = true ∧
        there = { here with position := here.position + 1 }
  | .assertion kind => fun here there => kind.holds text here.position = true ∧ there = here
  | .capture index _ body => fun here there =>
      ∃ last, body.Reads text (here.record (2 * index)) last ∧
        there = last.record (2 * index + 1)
  | .concatenation parts => Expression.PartsRead text parts
  | .alternation branches => Expression.BranchesRead text branches
  | .repetition body least most _ => fun here there =>
      ∃ count, least ≤ count ∧ (∀ bound ∈ most, count ≤ max least bound) ∧
        Rounds (body.Reads text) count here there

/-- Parts read one after another. -/
def Expression.PartsRead (text : Array Char) : List Expression → Spot → Spot → Prop
  | [] => Eq
  | part :: rest => Relation.Comp (part.Reads text) (Expression.PartsRead text rest)

/-- One of the branches reads. -/
def Expression.BranchesRead (text : Array Char) : List Expression → Spot → Spot → Prop
  | [] => fun _ _ => False
  | branch :: rest => fun here there =>
      branch.Reads text here there ∨ Expression.BranchesRead text rest here there

end

/-- A reading of the whole match of an expression: from a position on, and with the start and the
end of the match recorded. -/
def Expression.ReadsMatch (text : Array Char) (expression : Expression) (first : Nat)
    (there : Spot) : Prop :=
  (Expression.capture 0 none expression).Reads text ⟨first, []⟩ there

/-! ## Parts -/

section Parts

variable {text : Array Char} {here there : Spot}

theorem partsRead_append (first second : List Expression) :
    Expression.PartsRead text (first ++ second) here there ↔
      ∃ between, Expression.PartsRead text first here between ∧
        Expression.PartsRead text second between there := by
  induction first generalizing here with
  | nil => exact ⟨fun read => ⟨here, rfl, read⟩, fun ⟨_, same, read⟩ => same ▸ read⟩
  | cons part rest inductionHypothesis =>
      constructor
      · rintro ⟨middle, read, others⟩
        obtain ⟨between, before, after⟩ := inductionHypothesis.mp others
        exact ⟨between, ⟨middle, read, before⟩, after⟩
      · rintro ⟨between, ⟨middle, read, before⟩, after⟩
        exact ⟨middle, read, inductionHypothesis.mpr ⟨between, before, after⟩⟩

theorem partsRead_singleton (part : Expression) :
    Expression.PartsRead text [part] here there ↔ part.Reads text here there :=
  ⟨fun ⟨_, read, same⟩ => same ▸ read, fun read => ⟨there, read, rfl⟩⟩

theorem partGroups_append (first second : List Expression) :
    Expression.partGroups (first ++ second) =
      Expression.partGroups first ++ Expression.partGroups second := by
  induction first with
  | nil => rfl
  | cons part rest inductionHypothesis =>
      rw [List.cons_append, Expression.partGroups, Expression.partGroups, inductionHypothesis,
        List.append_assoc]

end Parts

/-! ## Rounds -/

section Rounds

variable {reads : Spot → Spot → Prop} {here there : Spot}

theorem rounds_one : Rounds reads 1 here there ↔ reads here there :=
  ⟨fun ⟨_, same, last⟩ => same ▸ last, fun last => ⟨here, rfl, last⟩⟩

/-- Rounds can be counted from the first one as well as from the last. -/
theorem rounds_succ_iff {count : Nat} :
    Rounds reads (count + 1) here there ↔
      ∃ between, reads here between ∧ Rounds reads count between there := by
  induction count generalizing there with
  | zero => exact rounds_one.trans ⟨fun only => ⟨there, only, rfl⟩, fun ⟨_, only, same⟩ => same ▸ only⟩
  | succ count inductionHypothesis =>
      constructor
      · rintro ⟨middle, rounds, last⟩
        obtain ⟨between, first, rest⟩ := inductionHypothesis.mp rounds
        exact ⟨between, first, middle, rest, last⟩
      · rintro ⟨between, first, middle, rest, last⟩
        exact ⟨middle, inductionHypothesis.mpr ⟨between, first, rest⟩, last⟩

theorem rounds_add_iff {first second : Nat} :
    Rounds reads (first + second) here there ↔
      ∃ between, Rounds reads first here between ∧ Rounds reads second between there := by
  induction second generalizing there with
  | zero => exact ⟨fun rounds => ⟨there, rounds, rfl⟩, fun ⟨_, rounds, same⟩ => same ▸ rounds⟩
  | succ second inductionHypothesis =>
      constructor
      · rintro ⟨middle, rounds, last⟩
        obtain ⟨between, before, after⟩ := inductionHypothesis.mp rounds
        exact ⟨between, before, middle, after, last⟩
      · rintro ⟨between, before, middle, after, last⟩
        exact ⟨middle, inductionHypothesis.mpr ⟨between, before, after⟩, last⟩

/-- What every round has, and what is kept when one follows another, all rounds have together. -/
theorem Rounds.induction {related : Spot → Spot → Prop} (refl : ∀ spot, related spot spot)
    (trans : ∀ {first second third}, related first second → related second third →
      related first third)
    (each : ∀ {first second}, reads first second → related first second) {count : Nat}
    (rounds : Rounds reads count here there) : related here there := by
  induction count generalizing there with
  | zero => exact rounds ▸ refl here
  | succ count inductionHypothesis =>
      obtain ⟨between, before, last⟩ := rounds
      exact trans (inductionHypothesis before) (each last)

end Rounds

/-! ## What a reading records -/

section Records

/-- Records that were made between two positions by groups of a kind: whatever group has a start has
an end as well, and it is not before the start. -/
structure AreBetween (owns : Nat → Prop) (first last : Nat) (records : List (Nat × Nat)) : Prop where
  ordered : first ≤ last
  owned : ∀ record ∈ records, owns (record.1 / 2)
  between : ∀ record ∈ records, first ≤ record.2 ∧ record.2 ≤ last
  paired : ∀ index,
    (records.lookup (2 * index)).isSome = (records.lookup (2 * index + 1)).isSome
  inOrder : ∀ index start stop, records.lookup (2 * index) = some start →
    records.lookup (2 * index + 1) = some stop → start ≤ stop

variable {owns : Nat → Prop} {first last index : Nat} {records : List (Nat × Nat)}

namespace AreBetween

theorem nil (ordered : first ≤ last) : AreBetween owns first last [] :=
  ⟨ordered, (fun _ member => nomatch member), (fun _ member => nomatch member), fun _ => rfl,
    fun _ _ _ found => nomatch found⟩

/-- Records of other groups say nothing of a group. -/
theorem lookup_eq_none (between : AreBetween owns first last records) {slot : Nat}
    (foreign : ¬ owns (slot / 2)) : records.lookup slot = none := by
  rw [List.lookup_eq_none_iff]
  intro record member
  have differs : slot ≠ record.1 := fun same => foreign (same ▸ between.owned record member)
  simpa using differs

theorem append {middle : Nat} {earlier later : List (Nat × Nat)}
    (before : AreBetween owns first middle earlier)
    (after : AreBetween owns middle last later) :
    AreBetween owns first last (later ++ earlier) := by
  refine ⟨Nat.le_trans before.ordered after.ordered, fun record member => ?_,
    fun record member => ?_, fun index => ?_, fun index start stop isStart isStop => ?_⟩
  · exact (List.mem_append.mp member).elim (after.owned record) (before.owned record)
  · rcases List.mem_append.mp member with isLater | isEarlier
    · obtain ⟨begins, ends⟩ := after.between record isLater
      exact ⟨Nat.le_trans before.ordered begins, ends⟩
    · obtain ⟨begins, ends⟩ := before.between record isEarlier
      exact ⟨begins, Nat.le_trans ends after.ordered⟩
  · rw [List.lookup_append, List.lookup_append, Option.isSome_or, Option.isSome_or,
      after.paired index, before.paired index]
  · -- A group that the later records have is complete there.
    rw [List.lookup_append] at isStart isStop
    have paired := after.paired index
    cases laterStart : later.lookup (2 * index) with
    | some _ =>
        cases laterStop : later.lookup (2 * index + 1) with
        | some _ =>
            rw [laterStart] at isStart
            rw [laterStop] at isStop
            exact after.inOrder index _ _ (laterStart.trans isStart) (laterStop.trans isStop)
        | none =>
            rw [laterStart, laterStop] at paired
            cases paired
    | none =>
        cases laterStop : later.lookup (2 * index + 1) with
        | some _ =>
            rw [laterStart, laterStop] at paired
            cases paired
        | none =>
            rw [laterStart] at isStart
            rw [laterStop] at isStop
            exact before.inOrder index _ _ isStart isStop

end AreBetween

/-- The records of a group around those of its body. -/
def enclosed (index first last : Nat) (records : List (Nat × Nat)) : List (Nat × Nat) :=
  (2 * index + 1, last) :: (records ++ [(2 * index, first)])

theorem lookup_enclosed_start (other : Nat) :
    (enclosed index first last records).lookup (2 * other) =
      (records.lookup (2 * other)).or (if other = index then some first else none) := by
  have even : (2 * other == 2 * index + 1) = false := beq_eq_false_iff_ne.mpr (by omega)
  rw [enclosed, List.lookup_cons, even, List.lookup_append, List.lookup_cons]
  by_cases same : other = index
  · simp [same]
  · simp [same, show (2 * other == 2 * index) = false from beq_eq_false_iff_ne.mpr (by omega)]

theorem lookup_enclosed_stop (other : Nat) :
    (enclosed index first last records).lookup (2 * other + 1) =
      if other = index then some last else records.lookup (2 * other + 1) := by
  have odd : (2 * other + 1 == 2 * index) = false := beq_eq_false_iff_ne.mpr (by omega)
  rw [enclosed, List.lookup_cons, List.lookup_append, List.lookup_cons, odd]
  by_cases same : other = index
  · simp [same]
  · simp [same, show (2 * other == 2 * index) = false from beq_eq_false_iff_ne.mpr (by omega)]

theorem AreBetween.enclose (isOwned : owns index) (inner : AreBetween owns first last records) :
    AreBetween owns first last (enclosed index first last records) := by
  have bounds : ∀ record ∈ enclosed index first last records,
      owns (record.1 / 2) ∧ first ≤ record.2 ∧ record.2 ≤ last := by
    intro record member
    rcases List.mem_cons.mp member with rfl | member
    · exact ⟨show owns ((2 * index + 1) / 2) by rwa [show (2 * index + 1) / 2 = index by omega],
        inner.ordered, Nat.le_refl _⟩
    · rcases List.mem_append.mp member with isInner | isOpening
      · exact ⟨inner.owned record isInner, inner.between record isInner⟩
      · obtain rfl := List.mem_singleton.mp isOpening
        exact ⟨show owns (2 * index / 2) by rwa [show 2 * index / 2 = index by omega],
          Nat.le_refl _, inner.ordered⟩
  refine ⟨inner.ordered, fun record member => (bounds record member).1,
    fun record member => (bounds record member).2, fun other => ?_,
    fun other start stop isStart isStop => ?_⟩
  · rw [lookup_enclosed_start, lookup_enclosed_stop]
    by_cases same : other = index
    · simp [same]
    · simpa [same] using inner.paired other
  · by_cases same : other = index
    · rw [lookup_enclosed_stop, if_pos same] at isStop
      obtain rfl := Option.some.inj isStop
      obtain ⟨before, after, rows, -⟩ := List.lookup_eq_some_iff.mp isStart
      exact (bounds (2 * other, start) (rows ▸ by simp)).2.2
    · rw [lookup_enclosed_start, if_neg same, Option.or_none] at isStart
      rw [lookup_enclosed_stop, if_neg same] at isStop
      exact inner.inOrder other start stop isStart isStop

/-- A spot that a reading can lead to: further on in the text, with new records of what lies in
between. -/
structure Spot.Leads (text : Array Char) (owns : Nat → Prop) (here there : Spot) : Prop where
  inside : here.position ≤ text.size → there.position ≤ text.size
  records : ∃ new, there.records = new ++ here.records ∧
    AreBetween owns here.position there.position new

namespace Spot.Leads

variable {text : Array Char} {here there : Spot}

theorem refl (spot : Spot) : spot.Leads text owns spot :=
  ⟨id, [], rfl, .nil (Nat.le_refl _)⟩

theorem trans {between : Spot} (first : here.Leads text owns between)
    (second : between.Leads text owns there) : here.Leads text owns there := by
  obtain ⟨earlier, shown, isEarlier⟩ := first.records
  obtain ⟨later, shownLater, isLater⟩ := second.records
  refine ⟨fun inside => second.inside (first.inside inside), later ++ earlier, ?_,
    isEarlier.append isLater⟩
  rw [shownLater, shown, List.append_assoc]

theorem capture (isOwned : owns index) (body : (here.record (2 * index)).Leads text owns there) :
    here.Leads text owns (there.record (2 * index + 1)) := by
  obtain ⟨new, shown, between⟩ := body.records
  refine ⟨body.inside, enclosed index here.position there.position new, ?_,
    between.enclose isOwned⟩
  simp [enclosed, Spot.record, shown]

end Spot.Leads

end Records

section Leads

variable {text : Array Char} {owns : Nat → Prop}

mutual

/-- **Records of a reading.** A reading goes on in the text, and what it records lies between its
ends, group by group with the start before the end. -/
theorem Expression.leads_of_reads : (expression : Expression) →
    (∀ group ∈ expression.groups, owns group.1) → {here there : Spot} →
    expression.Reads text here there → here.Leads text owns there
  | .empty, _, here, _, same => (show here = _ from same) ▸ .refl here
  | .set _, _, here, _, ⟨_, shown, _, same⟩ => by
      subst same
      refine ⟨fun _ => (Array.getElem?_eq_some_iff.mp shown).1, [], rfl, ?_⟩
      exact .nil (Nat.le_succ _)
  | .assertion _, _, here, _, ⟨_, same⟩ => same.symm ▸ .refl here
  | .capture index name body, owned, _, _, ⟨_, inner, same⟩ =>
      same ▸ (body.leads_of_reads (fun group member => owned group (List.mem_cons_of_mem _ member))
        inner).capture (owned (index, name) List.mem_cons_self)
  | .concatenation parts, owned, _, _, read => Expression.leads_of_partsRead parts owned read
  | .alternation branches, owned, _, _, read =>
      Expression.leads_of_branchesRead branches owned read
  | .repetition body _ _ _, owned, _, _, ⟨_, _, _, rounds⟩ =>
      rounds.induction .refl Spot.Leads.trans (body.leads_of_reads owned)

theorem Expression.leads_of_partsRead : (parts : List Expression) →
    (∀ group ∈ Expression.partGroups parts, owns group.1) → {here there : Spot} →
    Expression.PartsRead text parts here there → here.Leads text owns there
  | [], _, here, _, same => (show here = _ from same) ▸ .refl here
  | part :: rest, owned, _, _, ⟨_, first, others⟩ =>
      (part.leads_of_reads (fun group member => owned group (List.mem_append_left _ member))
        first).trans
      (Expression.leads_of_partsRead rest
        (fun group member => owned group (List.mem_append_right _ member)) others)

theorem Expression.leads_of_branchesRead : (branches : List Expression) →
    (∀ group ∈ Expression.partGroups branches, owns group.1) → {here there : Spot} →
    Expression.BranchesRead text branches here there → here.Leads text owns there
  | [], _, _, _, read => nomatch read
  | branch :: rest, owned, _, _, read => by
      rcases read with first | others
      · exact branch.leads_of_reads
          (fun group member => owned group (List.mem_append_left _ member)) first
      · exact Expression.leads_of_branchesRead rest
          (fun group member => owned group (List.mem_append_right _ member)) others

end

end Leads

end ReleaseRules.Regex
