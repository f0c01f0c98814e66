import ReleaseRules.Proofs.Document.Reading
import ReleaseRules.Proofs.Regex.Groups
import ReleaseRules.Proofs.Regex.PatternSteps
import ReleaseRules.Proofs.Version.PlaceholderPieces

/-!
Contract: the regular expressions of placeholder patterns.

Owns:
- the parts of the regular expression: pieces with the numbers of their groups;
- the source of the regular expression is read as these parts, and compiles to their expressions.

Does not own: what the regular expression matches.
-/

namespace ReleaseRules.VersionPattern

open Regex (Pattern Expression)
open Unicode (IntervalSet decimalDigits)
open Regex.Reading (Adds isGroupName)
open Template (isNameStart isNamePart)

/-! ## Parts of the regular expression -/

/-- Part of the regular expression of a placeholder pattern: a literal, the group of a name with its
number, or a placeholder whose name has a group already. -/
inductive Part where
  | literal (character : Char)
  | group (index : Nat) (name : List Char)
  | again (name : List Char)
deriving DecidableEq, Repr

/-- The parts of pieces. `seen` are the names so far and `count` is the number of their groups. -/
def partsFrom (seen : List (List Char)) (count : Nat) : List Piece → List Part
  | [] => []
  | .literal character :: rest => .literal character :: partsFrom seen count rest
  | .placeholder name :: rest =>
      if seen.contains name then .again name :: partsFrom (name :: seen) count rest
      else .group (count + 1) name :: partsFrom (name :: seen) (count + 1) rest

section Parts

variable {seen : List (List Char)} {name : List Char}

theorem partsFrom_of_mem (old : name ∈ seen) (count : Nat) (rest : List Piece) :
    partsFrom seen count (.placeholder name :: rest) =
      .again name :: partsFrom (name :: seen) count rest :=
  if_pos (List.contains_iff_mem.mpr old)

theorem partsFrom_of_notMem (fresh : name ∉ seen) (count : Nat) (rest : List Piece) :
    partsFrom seen count (.placeholder name :: rest) =
      .group (count + 1) name :: partsFrom (name :: seen) (count + 1) rest :=
  if_neg (mt List.contains_iff_mem.mp fresh)

end Parts

/-- Whether a placeholder stands for a version. -/
def isVersion (name : List Char) : Bool := name = versionGroup.toList

/-- One or more digits. -/
def digitsPattern : Pattern := .repetition (.shorthand .digit false) 1 none true

/-- Up to two dots, with digits behind each. -/
def furtherPattern : Pattern :=
  .repetition (.group [] (.concatenation [.literal ⟨'.', false⟩, digitsPattern])) 0 (some 2) true

/-- What a placeholder is read as. -/
def innerPatterns (name : List Char) : List Pattern :=
  if isVersion name then [digitsPattern, furtherPattern] else [.repetition .dot 1 none false]

/-- What a part is read as. -/
def Part.patterns : Part → List Pattern
  | .literal character => [.literal ⟨character, false⟩]
  | .group index name =>
      [.capture index (some (String.ofList name)) (Pattern.ofParts (innerPatterns name))]
  | .again name => innerPatterns name

section Source

variable {seen : List (List Char)} {names : List String}

theorem adds_versionSource (names : List String) :
    Adds versionSource [digitsPattern, furtherPattern] names names := by
  have digits := (Adds.digit names).plus nofun
  have dot : Adds ['\\', '.'] [.literal ⟨'.', false⟩] names names := .escaped (by decide) names
  have further := ((dot.append digits (by decide)).unnamedGroup).upToTwo nofun
  exact digits.append further (by decide)

theorem adds_anySource (names : List String) :
    Adds anySource [.repetition .dot 1 none false] names names :=
  (Adds.dot names).lazyPlus nofun

/-- The source of a placeholder without its group. -/
def innerSource (name : List Char) : List Char :=
  if name = versionGroup.toList then versionSource else anySource

theorem sourceOf_placeholder (seen : List (List Char)) (name : List Char) (rest : List Piece) :
    sourceOf seen (.placeholder name :: rest) =
      (if seen.contains name then innerSource name else namedGroup name (innerSource name)) ++
        sourceOf (name :: seen) rest :=
  rfl

theorem adds_innerSource (name : List Char) (names : List String) :
    Adds (innerSource name) (innerPatterns name) names names := by
  unfold innerSource innerPatterns isVersion
  by_cases version : name = versionGroup.toList
  · rw [if_pos version, if_pos (decide_eq_true version)]
    exact adds_versionSource names
  · rw [if_neg version, if_neg (by simpa using version)]
    exact adds_anySource names

theorem isNameCharacter_of_isNameStart {character : Char} (starts : isNameStart character = true)
    (first : Bool) : Regex.Reading.isNameCharacter first character = true := by
  simp only [isNameStart, Bool.or_eq_true, Bool.and_eq_true, decide_eq_true_eq] at starts
  by_cases underscore : character = '_'
  · simp [Regex.Reading.isNameCharacter, underscore]
  · have letter := starts.resolve_right underscore
    have small : character.toNat < 128 := by
      rcases letter with ⟨-, upper⟩ | ⟨-, upper⟩
      · exact Nat.lt_of_le_of_lt (show character.toNat ≤ 'z'.toNat from upper) (by decide)
      · exact Nat.lt_of_le_of_lt (show character.toNat ≤ 'Z'.toNat from upper) (by decide)
    have alphabetic : Unicode.Version17.isAlphabetic character = true := by
      rw [Unicode.Version17.isAlphabetic, if_pos small]
      simpa using letter
    simp [Regex.Reading.isNameCharacter, alphabetic]

theorem isNameCharacter_of_isNamePart {character : Char} (follows : isNamePart character = true) :
    Regex.Reading.isNameCharacter false character = true := by
  rcases (Bool.or_eq_true _ _).mp follows with starts | digit
  · exact isNameCharacter_of_isNameStart starts false
  · have upper : character ≤ '9' := by
      simp only [Bool.and_eq_true, decide_eq_true_eq] at digit
      exact digit.2
    have small : character.toNat < 128 :=
      Nat.lt_of_le_of_lt (show character.toNat ≤ '9'.toNat from upper) (by decide)
    have numeric : Unicode.Version17.isNumeric character = true := by
      rw [Unicode.Version17.isNumeric, if_pos small]
      exact digit
    simp [Regex.Reading.isNameCharacter, numeric]

/-- The name of a placeholder can name a group. -/
theorem isGroupName_of_isPlaceholderName {name : List Char} (isName : IsPlaceholderName name) :
    isGroupName name = true := by
  obtain ⟨first, others, rfl, starts, follow⟩ := isName
  rw [isGroupName, isNameCharacter_of_isNameStart starts true, Bool.true_and, List.all_eq_true]
  exact fun character member => isNameCharacter_of_isNamePart (follow character member)

/-- No source begins with a question mark. -/
theorem head?_sourceOf (seen : List (List Char)) (pieces : List Piece) :
    (sourceOf seen pieces).head? ≠ some '?' := by
  cases pieces with
  | nil => exact nofun
  | cons piece rest =>
      cases piece with
      | literal character =>
          rw [sourceOf, Regex.escapeText, List.flatMap_singleton]
          split
          · simp
          · rename_i ordinary
            simp only [List.singleton_append, List.head?_cons, ne_eq, Option.some.injEq]
            rintro rfl
            exact ordinary (by decide)
      | placeholder name =>
          rw [sourceOf_placeholder]
          by_cases old : seen.contains name = true
          · rw [if_pos old, innerSource]
            by_cases version : name = versionGroup.toList
            · rw [if_pos version, show ∀ text, (versionSource ++ text).head? = some '\\' from fun _ => rfl]
              decide
            · rw [if_neg version, show ∀ text, (anySource ++ text).head? = some '.' from fun _ => rfl]
              decide
          · rw [if_neg old, show ∀ inner text, (namedGroup name inner ++ text).head? = some '(' from
              fun _ _ => rfl]
            decide

/-- The source of pieces adds their parts. -/
theorem adds_sourceOf (pieces : List Piece)
    (named : ∀ name, .placeholder name ∈ pieces → IsPlaceholderName name)
    (known : ∀ name, String.ofList name ∈ names → name ∈ seen) :
    ∃ later, Adds (sourceOf seen pieces)
      ((partsFrom seen names.length pieces).flatMap Part.patterns) names later := by
  induction pieces generalizing seen names with
  | nil => exact ⟨names, .nil names⟩
  | cons piece rest inductionHypothesis =>
      have namedRest : ∀ name, .placeholder name ∈ rest → IsPlaceholderName name :=
        fun name member => named name (List.mem_cons_of_mem _ member)
      cases piece with
      | literal character =>
          obtain ⟨later, adds⟩ := inductionHypothesis namedRest known
          exact ⟨later, (Adds.escapeText character names).append adds (head?_sourceOf seen rest)⟩
      | placeholder name =>
          by_cases old : name ∈ seen
          · have knownStill : ∀ other, String.ofList other ∈ names → other ∈ name :: seen :=
              fun other member => List.mem_cons_of_mem _ (known other member)
            obtain ⟨later, adds⟩ := inductionHypothesis namedRest knownStill
            have both := (adds_innerSource name names).append adds (head?_sourceOf _ rest)
            rw [sourceOf_placeholder, if_pos (by simpa using old), partsFrom_of_mem old,
              List.flatMap_cons]
            exact ⟨later, both⟩
          · have fresh : String.ofList name ∉ names := fun member => old (known name member)
            have knownLater : ∀ other, String.ofList other ∈ String.ofList name :: names →
                other ∈ name :: seen := by
              intro other member
              rcases List.mem_cons.mp member with same | older
              · rw [String.ofList_injective same]
                exact List.mem_cons_self
              · exact List.mem_cons_of_mem name (known other older)
            obtain ⟨later, adds⟩ := inductionHypothesis namedRest knownLater
            have group := (adds_innerSource name (String.ofList name :: names)).namedGroup
              (isGroupName_of_isPlaceholderName (named name List.mem_cons_self)) fresh
            have both := group.append adds (head?_sourceOf _ rest)
            have shape : sourceOf seen (.placeholder name :: rest) =
                '(' :: ("?P<".toList ++ name ++ ['>'] ++ (innerSource name ++ [')'])) ++
                  sourceOf (name :: seen) rest := by
              rw [sourceOf_placeholder, if_neg (by simpa using old), namedGroup]
              simp
            rw [shape, partsFrom_of_notMem old, List.flatMap_cons]
            exact ⟨later, both⟩

end Source

/-! ## Expressions of the parts -/

/-- The expression of one or more digits. -/
def digitsExpression : Expression := .repetition (.set decimalDigits) 1 none true

/-- The expression of up to two dots with digits behind each. -/
def furtherExpression : Expression :=
  .repetition (.concatenation [.set (.singleton '.'.toNat), digitsExpression]) 0 (some 2) true

/-- The expression of a text without line feeds. -/
def anyExpression : Expression :=
  .repetition (.set (IntervalSet.complement ⟨[⟨10, 10⟩]⟩)) 1 none false

/-- The expressions of a placeholder that is no group. -/
def innerExpressions (name : List Char) : List Expression :=
  if isVersion name then [digitsExpression, furtherExpression] else [anyExpression]

/-- The body of the group of a placeholder. -/
def innerExpression (name : List Char) : Expression :=
  if isVersion name then .concatenation [digitsExpression, furtherExpression] else anyExpression

/-- What a part stands for. -/
def Part.expressions : Part → List Expression
  | .literal character => [.set (.singleton character.toNat)]
  | .group index name => [.capture index (some (String.ofList name)) (innerExpression name)]
  | .again name => innerExpressions name

theorem partMeanings_append {flags between last : Regex.Flags} {first second : List Pattern}
    {meanings others : List Expression}
    (before : Pattern.partMeanings flags first = .ok (meanings, between))
    (after : Pattern.partMeanings between second = .ok (others, last)) :
    Pattern.partMeanings flags (first ++ second) = .ok (meanings ++ others, last) := by
  induction first generalizing flags meanings with
  | nil =>
      obtain ⟨rfl, rfl⟩ := Prod.mk.inj (Except.ok.inj before)
      exact after
  | cons part rest inductionHypothesis =>
      rw [Pattern.partMeanings] at before
      obtain ⟨⟨meaning, next⟩, isMeaning, before⟩ := ok_of_bind before
      obtain ⟨⟨rests, next'⟩, areRests, before⟩ := ok_of_bind before
      obtain ⟨rfl, rfl⟩ := Prod.mk.inj (Except.ok.inj before)
      have onward := inductionHypothesis areRests
      simp only [List.cons_append, Pattern.partMeanings, isMeaning, onward, bind, Except.bind, pure,
        Except.pure]

theorem Part.partMeanings_patterns (part : Part) :
    Pattern.partMeanings {} part.patterns = .ok (part.expressions, {}) := by
  cases part with
  | literal character => rfl
  | group index name =>
      rw [patterns, expressions, innerPatterns, innerExpression]
      cases isVersion name <;> rfl
  | again name =>
      rw [patterns, expressions, innerPatterns, innerExpressions]
      cases isVersion name <;> rfl

theorem partMeanings_flatMap (parts : List Part) :
    Pattern.partMeanings {} (parts.flatMap Part.patterns) =
      .ok (parts.flatMap Part.expressions, {}) := by
  induction parts with
  | nil => rfl
  | cons part rest inductionHypothesis =>
      rw [List.flatMap_cons, List.flatMap_cons]
      exact partMeanings_append part.partMeanings_patterns inductionHypothesis

theorem partsDepth_le {bound : Nat} (parts : List Pattern)
    (flat : ∀ part ∈ parts, part.depth ≤ bound) : Pattern.partsDepth parts ≤ bound := by
  induction parts with
  | nil => exact Nat.zero_le _
  | cons part rest inductionHypothesis =>
      obtain ⟨flatPart, flatRest⟩ := List.forall_mem_cons.mp flat
      exact Nat.max_le.mpr ⟨flatPart, inductionHypothesis flatRest⟩

theorem Part.depth_le (part : Part) : ∀ pattern ∈ part.patterns, pattern.depth ≤ 6 := by
  cases part with
  | literal character =>
      rw [patterns]
      simp [Pattern.depth]
  | group index name =>
      rw [patterns, innerPatterns]
      cases isVersion name <;>
        simp [Pattern.depth, Pattern.partsDepth, Pattern.ofParts, digitsPattern, furtherPattern]
  | again name =>
      rw [patterns, innerPatterns]
      cases isVersion name <;>
        simp [Pattern.depth, Pattern.partsDepth, digitsPattern, furtherPattern]

/-- The parts of the regular expression of a placeholder pattern. -/
def partsOf (pattern : List Char) : List Part := partsFrom [] 0 (pieces pattern)

/-- The expression of a placeholder pattern. -/
def placeholderExpression (pattern : List Char) : Expression :=
  .concatenation (.assertion .textStart ::
    ((partsOf pattern).flatMap Part.expressions ++ [.assertion .textEnd]))

theorem ofParts_of_two (first last : Pattern) (between : List Pattern) :
    Pattern.ofParts (first :: (between ++ [last])) = .concatenation (first :: (between ++ [last])) := by
  cases between <;> rfl

theorem exists_readPattern_placeholderSource (pattern : List Char) :
    ∃ count, Regex.readPattern (placeholderSource pattern) =
      .ok ⟨.concatenation (.assertion .caret ::
        ((partsOf pattern).flatMap Part.patterns ++ [.assertion .dollar])), count⟩ := by
  have known : ∀ name, String.ofList name ∈ ([] : List String) → name ∈ ([] : List (List Char)) :=
    nofun
  obtain ⟨later, adds⟩ := adds_sourceOf (pieces pattern)
    (fun name => isPlaceholderName_of_mem 0 pattern) known
  have quiet : (sourceOf [] (pieces pattern) ++ ['$']).head? ≠ some '?' := by
    rw [List.head?_append]
    have plain := head?_sourceOf [] (pieces pattern)
    cases head : (sourceOf [] (pieces pattern)).head? with
    | none => decide
    | some first => rwa [Option.some_or, ← head]
  have whole := (Adds.caret []).append (adds.append (Adds.dollar later) (by decide)) quiet
  refine ⟨later.length, ?_⟩
  have read := Regex.Reading.readPattern_eq whole ?_
  · rw [List.singleton_append, List.singleton_append, ofParts_of_two] at read
    exact read
  · rw [List.singleton_append, ofParts_of_two, Pattern.depth]
    have flat : ∀ part ∈ Pattern.assertion .caret ::
        ((partsOf pattern).flatMap Part.patterns ++ [.assertion .dollar]), part.depth ≤ 6 := by
      intro part member
      rcases List.mem_cons.mp member with rfl | later
      · exact Nat.zero_le _
      · rcases List.mem_append.mp later with inParts | atEnd
        · obtain ⟨source, -, among⟩ := List.mem_flatMap.mp inParts
          exact source.depth_le part among
        · obtain rfl := List.mem_singleton.mp atEnd
          exact Nat.zero_le _
    exact Nat.le_trans (Nat.succ_le_succ (partsDepth_le _ flat)) (by decide)

/-- The source of a placeholder pattern compiles to its expression, unless this is too large. -/
theorem compile_placeholderSource (pattern : List Char) :
    Regex.compile (placeholderSource pattern) =
      if Regex.sizeLimit < (placeholderExpression pattern).compiledSize then .error .tooLarge
      else .ok ((placeholderExpression pattern).regex
        (Regex.namesOf (placeholderExpression pattern).groups)) := by
  obtain ⟨count, read⟩ := exists_readPattern_placeholderSource pattern
  have parts : Pattern.partMeanings {} (.assertion .caret ::
      ((partsOf pattern).flatMap Part.patterns ++ [.assertion .dollar])) =
        .ok (.assertion .textStart ::
          ((partsOf pattern).flatMap Part.expressions ++ [.assertion .textEnd]), {}) := by
    have dollar : Pattern.partMeanings {} [.assertion .dollar] =
        .ok ([.assertion .textEnd], {}) := rfl
    have caret : Pattern.partMeanings {} [.assertion .caret] =
        .ok ([.assertion .textStart], {}) := rfl
    exact partMeanings_append caret
      (partMeanings_append (partMeanings_flatMap (partsOf pattern)) dollar)
  have meaning : Pattern.meaning {} (.concatenation (.assertion .caret ::
      ((partsOf pattern).flatMap Part.patterns ++ [.assertion .dollar]))) =
        .ok (placeholderExpression pattern, {}) := by
    rw [Pattern.meaning, parts]
    rfl
  rw [Regex.compile, read]
  simp only [bind, Except.bind, Pattern.expression, meaning]
  by_cases large : Regex.sizeLimit < (placeholderExpression pattern).compiledSize
  · simp only [if_pos large]
    rfl
  · simp only [if_neg large]
    rfl

/-- A pattern with a placeholder for a version, which is no regular expression with a group for it,
stands for the expression of its pieces. -/
theorem compile_eq_of_placeholder {pattern : List Char}
    (holds : hasVersionPlaceholder pattern = true)
    (unusable : ∀ regex, Regex.compile pattern = .ok regex →
      some versionGroup ∉ regex.groupNames) :
    compile pattern =
      if Regex.sizeLimit < (placeholderExpression pattern).compiledSize then
        .error (.invalid .tooLarge)
      else .ok ((placeholderExpression pattern).regex
        (Regex.namesOf (placeholderExpression pattern).groups)) := by
  have unchosen : (Regex.compile pattern).toOption.filter hasVersionGroup = none := by
    rw [Option.filter_eq_none_iff]
    intro regex compiled
    have absent := unusable regex (ok_of_toOption compiled)
    simpa [hasVersionGroup] using absent
  simp only [compile, unchosen, if_pos holds, compile_placeholderSource]
  split <;> rfl

end ReleaseRules.VersionPattern
