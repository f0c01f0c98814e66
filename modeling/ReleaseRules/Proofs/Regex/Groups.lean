import ReleaseRules.Proofs.Regex.Matches
import ReleaseRules.Proofs.Regex.Realization

/-!
Contract: the readings behind matches, and the spans of groups.

Owns:
- a match of a compiled regular expression stands for a reading of its expression, and there is a
  match if there is a reading;
- the names of numbered groups;
- the span of a group: it lies in the text, with its start before its end;
- the span of a named group by the place of its name.

Does not own: matches as wholes, and which of several readings a search prefers.
-/

namespace ReleaseRules.Regex

section Readings

variable {text : Array Char} {expression : Expression} {first : Nat} {there : Spot}

/-- What a whole match records lies in the text, group by group with the start before the end. -/
theorem Expression.ReadsMatch.areBetween (read : expression.ReadsMatch text first there)
    (inside : first ≤ text.size) :
    there.position ≤ text.size ∧
      AreBetween (fun _ => True) first there.position there.records := by
  have leads : Spot.Leads text (fun _ => True) ⟨first, []⟩ there :=
    Expression.leads_of_reads _ (fun _ _ => trivial) read
  obtain ⟨new, shown, between⟩ := leads.records
  rw [List.append_nil] at shown
  exact ⟨leads.inside inside, shown ▸ between⟩

/-- A whole match has the span from the position where its reading began to where it ended. -/
theorem Expression.ReadsMatch.groupSpan_zero (read : expression.ReadsMatch text first there)
    (inside : first ≤ text.size) : ∃ start, groupSpan there.records 0 = some ⟨start, there.position⟩ := by
  have paired := (read.areBetween inside).2.paired 0
  obtain ⟨last, -, rfl⟩ := read
  obtain ⟨start, isStart⟩ := Option.isSome_iff_exists.mp paired
  refine ⟨start, ?_⟩
  rw [groupSpan, isStart]
  rfl

end Readings

/-- A regular expression with the program of an expression. -/
def Expression.regex (expression : Expression) (names : List (Option String)) : Regex :=
  ⟨Program.ofExpression expression, names⟩

section Matches

variable {expression : Expression} {names : List (Option String)} {text : Array Char}

theorem exists_reads_of_find {start : Nat} {found : Match}
    (result : (expression.regex names).find text start = some found) :
    ∃ first there, start ≤ first ∧ first ≤ text.size ∧ expression.ReadsMatch text first there ∧
      (expression.regex names).matchOf there.records = some found := by
  obtain ⟨records, recorded, matched⟩ := Option.bind_eq_some_iff.mp result
  obtain ⟨first, there, startsAt, inside, read, rfl⟩ := Program.exists_reads_of_search recorded
  exact ⟨first, there, startsAt, inside, read, matched⟩

/-- **Matches are readings.** A compiled regular expression matches a text if and only if its
expression reads a part of it. -/
theorem isMatch_iff_exists_reads :
    (expression.regex names).isMatch text = true ↔
      ∃ first there, first ≤ text.size ∧ expression.ReadsMatch text first there := by
  rw [isMatch, Option.isSome_iff_exists]
  constructor
  · rintro ⟨found, result⟩
    obtain ⟨first, there, -, inside, read, -⟩ := exists_reads_of_find result
    exact ⟨first, there, inside, read⟩
  · rintro ⟨first, there, inside, read⟩
    obtain ⟨records, recorded⟩ := Option.isSome_iff_exists.mp
      (Program.search_isSome_of_reads (Nat.zero_le first) inside read)
    obtain ⟨other, last, -, otherInside, otherRead, rfl⟩ :=
      Program.exists_reads_of_search recorded
    obtain ⟨start, isWhole⟩ := otherRead.groupSpan_zero otherInside
    refine ⟨⟨⟨start, last.position⟩, (List.range names.length).map (groupSpan last.records)⟩, ?_⟩
    refine Option.bind_eq_some_iff.mpr ⟨last.records, recorded, ?_⟩
    rw [matchOf, isWhole]
    rfl

end Matches

/-! ## Names of groups -/

section Names

variable (names : List (Option String))

theorem lookup_zip_range'_add (base index : Nat) :
    ((List.range' base names.length).zip names).lookup (base + index) = names[index]? := by
  induction names generalizing base index with
  | nil => rfl
  | cons name names inductionHypothesis =>
      rw [List.length_cons, List.range'_succ, List.zip_cons_cons, List.lookup_cons]
      cases index with
      | zero => simp
      | succ index =>
          have differs : (base + (index + 1) == base) = false := beq_eq_false_iff_ne.mpr (by omega)
          rw [differs, show base + (index + 1) = base + 1 + index by omega]
          exact inductionHypothesis (base + 1) index

theorem foldl_max_zip_range' (last : Nat) :
    ((List.range' (last + 1) names.length).zip names).foldl
      (fun last entry => max last entry.1) last = last + names.length := by
  induction names generalizing last with
  | nil => rfl
  | cons name names inductionHypothesis =>
      rw [List.length_cons, List.range'_succ, List.zip_cons_cons, List.foldl_cons,
        Nat.max_eq_right (Nat.le_succ last), inductionHypothesis (last + 1)]
      omega

/-- Groups that are numbered from one on keep their names; the whole match has none. -/
theorem namesOf_zip_range' :
    namesOf ((List.range' 1 names.length).zip names) = none :: names := by
  have whole : ((List.range' 1 names.length).zip names).lookup 0 = none := by
    rw [List.lookup_eq_none_iff]
    intro group member
    have numbered := (List.mem_range'_1.mp (List.of_mem_zip member).1).1
    simpa using (show 0 ≠ group.1 by omega)
  rw [namesOf, foldl_max_zip_range' names 0, Nat.zero_add, List.range_succ_eq_map, List.map_cons,
    whole, List.map_map]
  refine congrArg (none :: ·) (List.ext_getElem? fun index => ?_)
  rw [List.getElem?_map]
  by_cases inside : index < names.length
  · rw [List.getElem?_range inside, Option.map_some, Function.comp_apply, Nat.succ_eq_one_add,
      lookup_zip_range'_add, List.getElem?_eq_getElem inside]
    rfl
  · rw [List.getElem?_eq_none (by simpa using inside), List.getElem?_eq_none (by omega)]
    rfl

end Names

/-! ## Spans of groups -/

section Spans

variable {regex : Regex} {text : Array Char} {records : List (Nat × Nat)} {found : Match}

theorem groupSpan_eq_some_iff {index : Nat} {span : Span} :
    groupSpan records index = some span ↔
      records.lookup (2 * index) = some span.start ∧
        records.lookup (2 * index + 1) = some span.stop := by
  obtain ⟨start, stop⟩ := span
  simp only [groupSpan, bind, Option.bind_eq_some_iff, pure, Option.some.injEq, Span.mk.injEq]
  constructor
  · rintro ⟨_, isStop, _, isStart, rfl, rfl⟩
    exact ⟨isStart, isStop⟩
  · rintro ⟨isStart, isStop⟩
    exact ⟨stop, isStop, start, isStart, rfl, rfl⟩

section Records

variable {owns : Nat → Prop} {here there : Spot} {index : Nat}

theorem lookup_slots_eq_none {first last : Nat} (between : AreBetween owns first last records)
    (foreign : ¬ owns index) :
    records.lookup (2 * index) = none ∧ records.lookup (2 * index + 1) = none := by
  refine ⟨between.lookup_eq_none ?_, between.lookup_eq_none ?_⟩
  · rwa [show 2 * index / 2 = index by omega]
  · rwa [show (2 * index + 1) / 2 = index by omega]

/-- A record of another group changes no span. -/
theorem groupSpan_record_of_ne {slot : Nat} (spot : Spot) (other : slot / 2 ≠ index) :
    groupSpan (spot.record slot).records index = groupSpan spot.records index := by
  have start : (2 * index == slot) = false := beq_eq_false_iff_ne.mpr (by omega)
  have stop : (2 * index + 1 == slot) = false := beq_eq_false_iff_ne.mpr (by omega)
  rw [groupSpan, groupSpan, Spot.record, List.lookup_cons, List.lookup_cons, start, stop]

namespace Spot.Leads

/-- The span of a group stays as it is where the group does not stand. -/
theorem groupSpan_eq (leads : here.Leads text owns there) (foreign : ¬ owns index) :
    groupSpan there.records index = groupSpan here.records index := by
  obtain ⟨new, shown, between⟩ := leads.records
  obtain ⟨start, stop⟩ := lookup_slots_eq_none between foreign
  rw [groupSpan, groupSpan, shown, List.lookup_append, List.lookup_append, start, stop,
    Option.none_or, Option.none_or]

/-- Behind a group its span is what its body has read, unless it stands in its own body. -/
theorem groupSpan_of_capture (leads : (here.record (2 * index)).Leads text owns there)
    (foreign : ¬ owns index) :
    groupSpan (there.record (2 * index + 1)).records index =
      some ⟨here.position, there.position⟩ := by
  obtain ⟨new, shown, between⟩ := leads.records
  obtain ⟨start, -⟩ := lookup_slots_eq_none between foreign
  have differs : (2 * index == 2 * index + 1) = false := beq_eq_false_iff_ne.mpr (by omega)
  rw [groupSpan_eq_some_iff, record, List.lookup_cons, differs, List.lookup_cons_self, shown,
    List.lookup_append, start, record, List.lookup_cons_self, Option.none_or]
  exact ⟨rfl, rfl⟩

end Spot.Leads

end Records

theorem AreBetween.bounds_of_groupSpan {owns : Nat → Prop} {first last index : Nat} {span : Span}
    (between : AreBetween owns first last records) (isSpan : groupSpan records index = some span) :
    first ≤ span.start ∧ span.start ≤ span.stop ∧ span.stop ≤ last := by
  obtain ⟨isStart, isStop⟩ := groupSpan_eq_some_iff.mp isSpan
  exact ⟨(between.between _ (mem_of_lookup isStart)).1,
    between.inOrder index _ _ isStart isStop, (between.between _ (mem_of_lookup isStop)).2⟩

theorem groups_of_matchOf (matched : regex.matchOf records = some found) :
    found.groups = (List.range regex.groupNames.length).map (groupSpan records) := by
  obtain ⟨whole, -, rfl⟩ := Option.map_eq_some_iff.mp matched
  rfl

theorem exists_of_named {name : String} {span : Span}
    (matched : regex.matchOf records = some found) (named : found.named regex name = some span) :
    ∃ index, groupSpan records index = some span := by
  obtain ⟨before, after, rows, -⟩ :=
    List.lookup_eq_some_iff.mp (Option.join_eq_some_iff.mp named)
  have member : some span ∈ found.groups :=
    (List.of_mem_zip (rows ▸ List.mem_append_right before List.mem_cons_self)).2
  rw [groups_of_matchOf matched] at member
  obtain ⟨index, -, isSpan⟩ := List.mem_map.mp member
  exact ⟨index, isSpan⟩

/-- **Named groups lie in the text.** The span of a named group begins where the search began or
later, does not end before it begins, and ends in the text. -/
theorem bounds_of_named (compiled : regex.IsCompiled) {start : Nat} {name : String} {span : Span}
    (result : regex.find text start = some found) (named : found.named regex name = some span) :
    start ≤ span.start ∧ span.start ≤ span.stop ∧ span.stop ≤ text.size := by
  obtain ⟨expression, isProgram⟩ := compiled
  obtain ⟨program, names⟩ := regex
  subst isProgram
  obtain ⟨first, there, startsAt, inside, read, matched⟩ := exists_reads_of_find result
  obtain ⟨index, isSpan⟩ := exists_of_named matched named
  obtain ⟨insideThere, between⟩ := read.areBetween inside
  obtain ⟨begins, ordered, ends⟩ := between.bounds_of_groupSpan isSpan
  exact ⟨startsAt.trans begins, ordered, ends.trans insideThere⟩

theorem lookup_zip_range' {key : Option String} (numbered : Nat → Option Span)
    (before after : List (Option String)) (first : key ∉ before) (base : Nat) :
    ((before ++ key :: after).zip
      ((List.range' base (before ++ key :: after).length).map numbered)).lookup key =
        some (numbered (base + before.length)) := by
  induction before generalizing base with
  | nil => simp [List.range'_succ]
  | cons other before inductionHypothesis =>
      obtain ⟨differs, later⟩ := not_or.mp (mt List.mem_cons.mpr first)
      have below := inductionHypothesis later (base + 1)
      simp only [List.cons_append, List.length_cons, List.range'_succ, List.map_cons,
        List.zip_cons_cons, List.lookup_cons, beq_eq_false_iff_ne.mpr differs]
      rw [below, Nat.add_right_comm, Nat.add_assoc]

/-- The first group of a name is the one that the name stands for. -/
theorem named_of_matchOf {before after : List (Option String)} {name : String}
    (names : regex.groupNames = before ++ some name :: after) (first : some name ∉ before)
    (matched : regex.matchOf records = some found) :
    found.named regex name = groupSpan records before.length := by
  rw [Match.named, groups_of_matchOf matched, names, List.range_eq_range',
    lookup_zip_range' _ before after first 0, Nat.zero_add]
  rfl

end Spans

end ReleaseRules.Regex
