import Mathlib.Data.List.Nodup
import ReleaseRules.Proofs.Document.Reading
import ReleaseRules.Regex.Basic

/-!
Contract: the names of the groups of a regular expression.

Owns:
- what each step of the pattern reader does to the names that it has seen;
- the names in a pattern that is read, and in the expression that it means;
- that no two groups of a compiled regular expression share a name.

Does not own: the numbers of groups, and what they match.

Only one step of the reader adds a name, and it refuses one that is there. Every other step keeps
the names, which is all that its specification says; the steps that read groups return patterns with
the names that have been added on the way.
-/

namespace ReleaseRules.Regex

open Std.Do

set_option mvcgen.warning false

/-! ## Names in patterns -/

mutual

/-- The names of the groups of a pattern. -/
@[simp]
def Pattern.groupNames : Pattern → List String
  | .repetition body _ _ _ => body.groupNames
  | .capture _ name body => name.toList ++ body.groupNames
  | .group _ body => body.groupNames
  | .alternation branches => Pattern.partNames branches
  | .concatenation parts => Pattern.partNames parts
  | _ => []

/-- The names of the groups of parts. -/
@[simp]
def Pattern.partNames : List Pattern → List String
  | [] => []
  | part :: rest => part.groupNames ++ Pattern.partNames rest

end

@[simp]
theorem Pattern.partNames_append (front back : List Pattern) :
    partNames (front ++ back) = partNames front ++ partNames back := by
  induction front with
  | nil => rfl
  | cons part rest inductionHypothesis => simp [inductionHypothesis]

@[simp]
theorem Pattern.groupNames_ofParts (parts : List Pattern) :
    (ofParts parts).groupNames = partNames parts := by
  match parts with
  | [] => rfl
  | [part] => simp [ofParts]
  | _ :: _ :: _ => rfl

@[simp]
theorem Pattern.groupNames_ofBranches (branches : List Pattern) :
    (ofBranches branches).groupNames = partNames branches := by
  match branches with
  | [] => rfl
  | [branch] => simp [ofBranches]
  | _ :: _ :: _ => rfl

@[simp]
theorem Pattern.count_partNames_reverse (name : String) (parts : List Pattern) :
    (partNames parts.reverse).count name = (partNames parts).count name := by
  induction parts with
  | nil => rfl
  | cons part rest inductionHypothesis => simp [inductionHypothesis, Nat.add_comm]

/-! ## Steps that keep the names -/

namespace Reading

/-- The names that the reader has seen are the given ones. -/
abbrev hasNames (names : List String) :
    Std.Do.Assertion (.arg ReaderState (.except PatternError .pure)) :=
  fun state => ⌜state.groupNames = names⌝

variable {names : List String}

@[spec 10000]
theorem throw_spec {α : Type} (reason : PatternError)
    (after : α → Std.Do.Assertion (.arg ReaderState (.except PatternError .pure))) :
    ⦃⌜True⌝⦄ (throw reason : Reading α) ⦃⇓? value => after value⦄ :=
  fun _ _ => trivial

@[spec]
theorem remaining_spec : ⦃hasNames names⦄ remaining ⦃⇓? _ => hasNames names⦄ := by
  mvcgen [remaining]

@[spec]
theorem continueWith_spec (text : List Char) :
    ⦃hasNames names⦄ continueWith text ⦃⇓? _ => hasNames names⦄ := by
  mvcgen [continueWith]

@[spec]
theorem skipSpace_spec : ⦃hasNames names⦄ skipSpace ⦃⇓? _ => hasNames names⦄ := by
  mvcgen [skipSpace]
  rename_i state kept result
  simp only [result]
  split <;> exact kept

@[spec]
theorem peek_spec : ⦃hasNames names⦄ peek ⦃⇓? _ => hasNames names⦄ := by
  mvcgen [peek]

@[spec]
theorem advance_spec : ⦃hasNames names⦄ advance ⦃⇓? _ => hasNames names⦄ := by
  mvcgen [advance]

@[spec]
theorem advanceAndSkip_spec : ⦃hasNames names⦄ advanceAndSkip ⦃⇓? _ => hasNames names⦄ := by
  mvcgen [advanceAndSkip] with simp_all

@[spec]
theorem require_spec (reason : PatternError) :
    ⦃hasNames names⦄ require reason ⦃⇓? _ => hasNames names⦄ := by
  mvcgen [require] with simp_all

@[spec]
theorem skipText_spec (text : List Char) :
    ⦃hasNames names⦄ skipText text ⦃⇓? _ => hasNames names⦄ := by
  mvcgen [skipText] with simp_all

@[spec]
theorem digits_spec (fuel : Nat) : ⦃hasNames names⦄ digits fuel ⦃⇓? _ => hasNames names⦄ := by
  induction fuel generalizing names with
  | zero => mvcgen [digits]
  | succ fuel inductionHypothesis => mvcgen [digits, inductionHypothesis] with simp_all

@[spec]
theorem count_spec : ⦃hasNames names⦄ count ⦃⇓? _ => hasNames names⦄ := by
  mvcgen [count] with simp_all

@[spec]
theorem fixedHexadecimal_spec (more : Nat) :
    ⦃hasNames names⦄ fixedHexadecimal more ⦃⇓? _ => hasNames names⦄ := by
  induction more generalizing names with
  | zero => mvcgen [fixedHexadecimal]
  | succ more inductionHypothesis => mvcgen [fixedHexadecimal, inductionHypothesis] with simp_all

@[spec]
theorem bracedHexadecimal_spec (fuel : Nat) :
    ⦃hasNames names⦄ bracedHexadecimal fuel ⦃⇓? _ => hasNames names⦄ := by
  induction fuel generalizing names with
  | zero => mvcgen [bracedHexadecimal]
  | succ fuel inductionHypothesis => mvcgen [bracedHexadecimal, inductionHypothesis] with simp_all

@[spec]
theorem characterOf_spec (shown : List Char) :
    ⦃hasNames names⦄ characterOf shown ⦃⇓? _ => hasNames names⦄ := by
  mvcgen [characterOf]

@[spec]
theorem boundaryName_spec (fuel : Nat) :
    ⦃hasNames names⦄ boundaryName fuel ⦃⇓? _ => hasNames names⦄ := by
  induction fuel generalizing names with
  | zero => mvcgen [boundaryName]
  | succ fuel inductionHypothesis => mvcgen [boundaryName, inductionHypothesis] with simp_all

@[spec]
theorem namedBoundary_spec : ⦃hasNames names⦄ namedBoundary ⦃⇓? _ => hasNames names⦄ := by
  mvcgen [namedBoundary] with simp_all

/-! ## Escapes and classes

An escape gives a pattern without groups. -/

@[spec]
theorem hexadecimalEscape_spec (letter : Char) :
    ⦃hasNames names⦄ hexadecimalEscape letter
    ⦃⇓? read state => ⌜state.groupNames = names ∧ read.groupNames = []⌝⦄ := by
  mvcgen [hexadecimalEscape] with simp_all

@[spec]
theorem propertyEscape_spec (negated : Bool) :
    ⦃hasNames names⦄ propertyEscape negated
    ⦃⇓? read state => ⌜state.groupNames = names ∧ read.groupNames = []⌝⦄ := by
  mvcgen [propertyEscape] with simp_all

@[spec]
theorem escape_spec :
    ⦃hasNames names⦄ escape
    ⦃⇓? read state => ⌜state.groupNames = names ∧ read.groupNames = []⌝⦄ := by
  mvcgen [escape] with simp_all

@[spec]
theorem classMember_spec : ⦃hasNames names⦄ classMember ⦃⇓? _ => hasNames names⦄ := by
  mvcgen [classMember] with simp_all

@[spec]
theorem itemOf_spec (member : Pattern) :
    ⦃hasNames names⦄ itemOf member ⦃⇓? _ => hasNames names⦄ := by
  mvcgen [itemOf]

@[spec]
theorem endOf_spec (member : Pattern) :
    ⦃hasNames names⦄ endOf member ⦃⇓? _ => hasNames names⦄ := by
  mvcgen [endOf]

@[spec]
theorem classItem_spec : ⦃hasNames names⦄ classItem ⦃⇓? _ => hasNames names⦄ := by
  mvcgen [classItem] with simp_all

@[spec]
theorem leadingDashes_spec (fuel : Nat) :
    ⦃hasNames names⦄ leadingDashes fuel ⦃⇓? _ => hasNames names⦄ := by
  induction fuel generalizing names with
  | zero => mvcgen [leadingDashes]
  | succ fuel inductionHypothesis => mvcgen [leadingDashes, inductionHypothesis] with simp_all

/-- A class and its contents, which may hold classes again. -/
theorem class_specs (fuel : Nat) :
    (∀ names, ⦃hasNames names⦄ bracketedClass fuel ⦃⇓? _ => hasNames names⦄) ∧
    ∀ names pending items,
      ⦃hasNames names⦄ classContents fuel pending items ⦃⇓? _ => hasNames names⦄ := by
  induction fuel with
  | zero =>
      refine ⟨fun names => ?_, fun names pending items => ?_⟩
      · mvcgen [bracketedClass]
      · mvcgen [classContents]
  | succ fuel inductionHypothesis =>
      obtain ⟨inBrackets, inside⟩ := inductionHypothesis
      refine ⟨fun names => ?_, fun names pending items => ?_⟩
      · mvcgen [bracketedClass, inside] with simp_all
      · mvcgen [classContents, inBrackets, inside] with simp_all

@[spec]
theorem bracketedClass_spec (fuel : Nat) :
    ⦃hasNames names⦄ bracketedClass fuel ⦃⇓? _ => hasNames names⦄ :=
  (class_specs fuel).1 names

/-! ## Groups -/

@[spec]
theorem flagChanges_spec (fuel : Nat) (changes : FlagChanges) (negative dangling : Bool) :
    ⦃hasNames names⦄ flagChanges fuel changes negative dangling ⦃⇓? _ => hasNames names⦄ := by
  induction fuel generalizing names changes negative dangling with
  | zero => mvcgen [flagChanges]
  | succ fuel inductionHypothesis => mvcgen [flagChanges, inductionHypothesis] with simp_all

@[spec]
theorem applyExtended_spec (changes : FlagChanges) :
    ⦃hasNames names⦄ applyExtended changes ⦃⇓? _ => hasNames names⦄ := by
  mvcgen [applyExtended]

@[spec]
theorem nextGroup_spec : ⦃hasNames names⦄ nextGroup ⦃⇓? _ => hasNames names⦄ := by
  mvcgen [nextGroup]

@[spec]
theorem greed_spec : ⦃hasNames names⦄ greed ⦃⇓? _ => hasNames names⦄ := by
  mvcgen [greed] with simp_all

@[spec]
theorem countedBounds_spec : ⦃hasNames names⦄ countedBounds ⦃⇓? _ => hasNames names⦄ := by
  mvcgen [countedBounds] with simp_all

@[spec]
theorem operand_spec (parts : List Pattern) :
    ⦃hasNames names⦄ operand parts
    ⦃⇓? split state => ⌜state.groupNames = names ∧ parts = split.1 :: split.2⌝⦄ := by
  mvcgen [operand]

/-- The name of a group is a new one. -/
@[spec]
theorem groupName_spec :
    ⦃hasNames names⦄ groupName
    ⦃⇓? shown state => ⌜shown ∉ names ∧ state.groupNames = shown :: names⌝⦄ := by
  mvcgen [groupName] with simp_all

/-- What is read accounts for a name: it has the name as often as the parts before had it and the
reader added it to the names on the way; and a name seen once at most is still seen once at most. -/
def Accounts (name : String) (before : Nat) (names : List String) (read : Pattern)
    (state : ReaderState) : Prop :=
  (names.count name ≤ 1 → state.groupNames.count name ≤ 1) ∧
    read.groupNames.count name + names.count name = before + state.groupNames.count name

section Accounts

variable {name shown : String} {before : Nat} {body : Pattern} {state : ReaderState}

theorem Accounts.capture (accounts : Accounts name 0 (shown :: names) body state)
    (fresh : shown ∉ names) (index : Nat) :
    Accounts name 0 names (.capture index (some shown) body) state := by
  obtain ⟨once, count⟩ := accounts
  have absent : shown = name → names.count name = 0 := fun same =>
    List.count_eq_zero.mpr (same ▸ fresh)
  rw [List.count_cons] at once count
  have names : (Pattern.capture index (some shown) body).groupNames.count name =
      body.groupNames.count name + if shown == name then 1 else 0 := by
    simp [List.count_cons]
  refine ⟨fun few => once ?_, ?_⟩
  · split
    · rename_i same
      simp [absent (eq_of_beq same)]
    · exact few
  · omega

variable {fuel : Nat}

/-- A group, given how bodies of groups are read. -/
theorem group_spec
    (inner : ∀ names changes, ⦃hasNames names⦄ enclosed fuel changes
      ⦃⇓? read state => ⌜Accounts name 0 names read state⌝⦄) (names : List String) :
    ⦃hasNames names⦄ group (fuel + 1) ⦃⇓? read state => ⌜Accounts name 0 names read state⌝⦄ := by
  mvcgen [group, inner] with clear inner
  case vc1 | vc5 => simp_all [Accounts.capture]
  all_goals simp_all [Accounts]

/-- The body of a group, given how branches are read. -/
theorem enclosed_spec
    (inner : ∀ names, ⦃hasNames names⦄ branches fuel [] []
      ⦃⇓? read state => ⌜Accounts name 0 names read state⌝⦄) (names : List String)
    (changes : FlagChanges) :
    ⦃hasNames names⦄ enclosed (fuel + 1) changes
    ⦃⇓? read state => ⌜Accounts name 0 names read state⌝⦄ := by
  mvcgen [enclosed, inner] with (clear inner; simp_all +zetaDelta [Accounts])

/-- Branches, given how groups are read and how the branches go on. -/
theorem branches_spec
    (inner : ∀ names, ⦃hasNames names⦄ group fuel
      ⦃⇓? read state => ⌜Accounts name 0 names read state⌝⦄)
    (onward : ∀ names complete parts, ⦃hasNames names⦄ branches fuel complete parts
      ⦃⇓? read state => ⌜Accounts name ((Pattern.partNames complete).count name +
        (Pattern.partNames parts).count name) names read state⌝⦄)
    (names : List String) (complete parts : List Pattern) :
    ⦃hasNames names⦄ branches (fuel + 1) complete parts
    ⦃⇓? read state => ⌜Accounts name ((Pattern.partNames complete).count name +
      (Pattern.partNames parts).count name) names read state⌝⦄ := by
  mvcgen [branches, inner, onward] with (clear inner onward; simp_all [Accounts])
  all_goals omega

/-- Whatever is read accounts for the names that it adds. -/
theorem reading_specs (name : String) (fuel : Nat) :
    (∀ names, ⦃hasNames names⦄ group fuel
      ⦃⇓? read state => ⌜Accounts name 0 names read state⌝⦄) ∧
    (∀ names changes, ⦃hasNames names⦄ enclosed fuel changes
      ⦃⇓? read state => ⌜Accounts name 0 names read state⌝⦄) ∧
    ∀ names complete parts, ⦃hasNames names⦄ branches fuel complete parts
      ⦃⇓? read state => ⌜Accounts name ((Pattern.partNames complete).count name +
        (Pattern.partNames parts).count name) names read state⌝⦄ := by
  induction fuel with
  | zero =>
      refine ⟨fun names => ?_, fun names changes => ?_, fun names complete parts => ?_⟩
      · mvcgen [group]
      · mvcgen [enclosed]
      · mvcgen [branches]
  | succ fuel inductionHypothesis =>
      obtain ⟨groups, bodies, onward⟩ := inductionHypothesis
      exact ⟨group_spec bodies, enclosed_spec fun names => onward names [] [],
        branches_spec groups onward⟩

end Accounts

/-- What a specification says holds of every run that succeeds. -/
theorem holds_of_run {α : Type} {step : Reading α} {post : α → ReaderState → Prop}
    (spec : ⦃hasNames names⦄ step ⦃⇓? value state => ⌜post value state⌝⦄)
    {before after : ReaderState} {value : α} (sameNames : before.groupNames = names)
    (done : step.run before = .ok (value, after)) : post value after := by
  apply Except.of_wp_eq done
    (fun | .ok (value, after) => post value after | .error _ => True)
  rw [WP.StateT_run]
  exact fun _ => spec before sameNames

end Reading

/-- No name is given to two groups of a pattern that is read. -/
theorem nodup_groupNames_of_readPattern {text : List Char} {numbered : NumberedPattern}
    (read : readPattern text = .ok numbered) : numbered.pattern.groupNames.Nodup := by
  obtain ⟨⟨pattern, state⟩, done, checked⟩ := ok_of_bind read
  have isRead : numbered.pattern = pattern := by
    dsimp only at checked
    split at checked
    · cases checked
    · rw [← Except.ok.inj checked]
  rw [isRead, List.nodup_iff_count_le_one]
  intro name
  have onward := (Reading.reading_specs name (2 * text.length + 2)).2.2
  have accounts : Reading.Accounts name 0 [] pattern state := by
    refine Reading.holds_of_run ?_ rfl done
    mvcgen [onward] with (clear onward; simp_all [Reading.Accounts])
  obtain ⟨once, count⟩ := accounts
  have few := once (by simp)
  rw [List.count_nil] at count
  omega

/-! ## Names in expressions -/

theorem Expression.groups_repeated (body : Expression) (least : Nat) (most : Option Nat)
    (greedy : Bool) : (body.repeated least most greedy).groups.Sublist body.groups := by
  unfold repeated
  dsimp only
  split
  · exact List.nil_sublist _
  · exact List.Sublist.refl _
  · exact List.Sublist.refl _

theorem Flags.groups_of_literal {flags : Flags} {value : Literal} {expression : Expression}
    (meant : flags.literal value = .ok expression) : expression.groups = [] := by
  unfold literal at meant
  dsimp only at meant
  repeat' split at meant
  all_goals cases meant
  all_goals rfl

theorem Flags.groups_of_dot {flags : Flags} {expression : Expression}
    (meant : flags.dot = .ok expression) : expression.groups = [] := by
  unfold dot at meant
  repeat' split at meant
  all_goals cases meant
  all_goals rfl

mutual

/-- The expression that a pattern means has groups of the pattern only. -/
theorem sublist_of_meaning {pattern : Pattern} {flags after : Flags} {expression : Expression}
    (meant : pattern.meaning flags = .ok (expression, after)) :
    (expression.groups.filterMap Prod.snd).Sublist pattern.groupNames := by
  cases pattern with
  | empty | flags _ | assertion _ =>
      obtain ⟨rfl, -⟩ := Prod.mk.inj (Except.ok.inj meant)
      exact List.nil_sublist _
  | literal value =>
      obtain ⟨_, found, same⟩ := ok_of_bind meant
      obtain ⟨rfl, -⟩ := Prod.mk.inj (Except.ok.inj same)
      rw [Flags.groups_of_literal found]
      exact List.nil_sublist _
  | dot =>
      obtain ⟨_, found, same⟩ := ok_of_bind meant
      obtain ⟨rfl, -⟩ := Prod.mk.inj (Except.ok.inj same)
      rw [Flags.groups_of_dot found]
      exact List.nil_sublist _
  | property query negated | shorthand kind negated =>
      obtain ⟨_, -, same⟩ := ok_of_bind meant
      obtain ⟨rfl, -⟩ := Prod.mk.inj (Except.ok.inj same)
      exact List.nil_sublist _
  | bracketed negated contents =>
      obtain ⟨_, -, rest⟩ := ok_of_bind meant
      obtain ⟨_, -, same⟩ := ok_of_bind rest
      obtain ⟨rfl, -⟩ := Prod.mk.inj (Except.ok.inj same)
      exact List.nil_sublist _
  | repetition body least most greedy =>
      obtain ⟨⟨inner, state⟩, found, same⟩ := ok_of_bind meant
      obtain ⟨rfl, -⟩ := Prod.mk.inj (Except.ok.inj same)
      have below : (inner.groups.filterMap Prod.snd).Sublist body.groupNames :=
        sublist_of_meaning found
      exact ((inner.groups_repeated least most _).filterMap Prod.snd).trans below
  | capture index name body =>
      obtain ⟨⟨inner, state⟩, found, same⟩ := ok_of_bind meant
      obtain ⟨rfl, -⟩ := Prod.mk.inj (Except.ok.inj same)
      have below : (inner.groups.filterMap Prod.snd).Sublist body.groupNames :=
        sublist_of_meaning found
      cases name <;> simpa [Expression.groups] using below
  | group changes body =>
      obtain ⟨⟨inner, state⟩, found, same⟩ := ok_of_bind meant
      obtain ⟨rfl, -⟩ := Prod.mk.inj (Except.ok.inj same)
      have below : (inner.groups.filterMap Prod.snd).Sublist body.groupNames :=
        sublist_of_meaning found
      exact below
  | alternation branches =>
      obtain ⟨⟨inner, state⟩, found, same⟩ := ok_of_bind meant
      obtain ⟨rfl, -⟩ := Prod.mk.inj (Except.ok.inj same)
      exact sublist_of_partMeanings found
  | concatenation parts =>
      obtain ⟨⟨inner, state⟩, found, same⟩ := ok_of_bind meant
      obtain ⟨rfl, -⟩ := Prod.mk.inj (Except.ok.inj same)
      exact sublist_of_partMeanings found

theorem sublist_of_partMeanings {parts : List Pattern} {flags after : Flags}
    {expressions : List Expression}
    (meant : Pattern.partMeanings flags parts = .ok (expressions, after)) :
    ((Expression.partGroups expressions).filterMap Prod.snd).Sublist
      (Pattern.partNames parts) := by
  cases parts with
  | nil =>
      obtain ⟨rfl, -⟩ := Prod.mk.inj (Except.ok.inj meant)
      exact List.nil_sublist _
  | cons part rest =>
      obtain ⟨⟨first, between⟩, found, onward⟩ := ok_of_bind meant
      obtain ⟨⟨others, last⟩, foundOthers, same⟩ := ok_of_bind onward
      obtain ⟨rfl, -⟩ := Prod.mk.inj (Except.ok.inj same)
      rw [Expression.partGroups, List.filterMap_append]
      exact (sublist_of_meaning found).append (sublist_of_partMeanings foundOthers)

end

/-! ## Names in compiled regular expressions -/

/-- A name stands for one group only, if no name repeats. -/
theorem eq_of_mem_groups {groups : List (Nat × Option String)}
    (distinct : (groups.filterMap Prod.snd).Nodup) {first second : Nat} {name : String}
    (isFirst : (first, some name) ∈ groups) (isSecond : (second, some name) ∈ groups) :
    first = second := by
  induction groups with
  | nil => cases isFirst
  | cons group rest inductionHypothesis =>
      have named : ∀ {index}, (index, some name) ∈ rest → name ∈ rest.filterMap Prod.snd :=
        fun member => List.mem_filterMap.mpr ⟨_, member, rfl⟩
      rcases List.mem_cons.mp isFirst with rfl | firstLater
      · rcases List.mem_cons.mp isSecond with same | secondLater
        · exact (Prod.mk.inj same).1.symm
        · exact absurd (named secondLater) (List.nodup_cons.mp distinct).1
      · rcases List.mem_cons.mp isSecond with rfl | secondLater
        · exact absurd (named firstLater) (List.nodup_cons.mp distinct).1
        · have distinctRest : (rest.filterMap Prod.snd).Nodup :=
            List.Nodup.sublist ((List.sublist_cons_self group rest).filterMap Prod.snd) distinct
          exact inductionHypothesis distinctRest firstLater secondLater

theorem nodup_namesOf {groups : List (Nat × Option String)}
    (distinct : (groups.filterMap Prod.snd).Nodup) :
    ((namesOf groups).filterMap id).Nodup := by
  rw [namesOf, List.filterMap_map]
  refine List.Nodup.filterMap ?_ List.nodup_range
  intro first second name isFirst isSecond
  have member : ∀ {index}, name ∈ (id ∘ fun index => (groups.lookup index).join) index →
      (index, some name) ∈ groups := by
    intro index found
    have looked : groups.lookup index = some (some name) := by
      cases entry : groups.lookup index with
      | none => simp [entry] at found
      | some shown => simpa [entry] using found
    obtain ⟨before, behind, rfl, -⟩ := List.lookup_eq_some_iff.mp looked
    exact List.mem_append_right _ List.mem_cons_self
  exact eq_of_mem_groups distinct (member isFirst) (member isSecond)

/-- **Group names.** No two groups of a compiled regular expression share a name. -/
theorem nodup_groupNames_of_compile {pattern : List Char} {regex : Regex}
    (compiled : compile pattern = .ok regex) : (regex.groupNames.filterMap id).Nodup := by
  obtain ⟨numbered, read, onward⟩ := ok_of_bind compiled
  obtain ⟨expression, meant, same⟩ := ok_of_bind onward
  obtain ⟨⟨inner, flags⟩, found, checked⟩ := ok_of_bind meant
  have isMeaning : expression = inner := by
    dsimp only at checked
    split at checked
    · cases checked
    · exact (Except.ok.inj checked).symm
  rw [← Except.ok.inj same, isMeaning]
  exact nodup_namesOf
    (List.Nodup.sublist (sublist_of_meaning found) (nodup_groupNames_of_readPattern read))

end ReleaseRules.Regex
