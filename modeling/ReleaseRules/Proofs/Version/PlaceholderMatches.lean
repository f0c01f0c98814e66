import Mathlib.Data.List.Forall2
import ReleaseRules.Proofs.Regex.Language
import ReleaseRules.Proofs.Text.CharacterSets
import ReleaseRules.Proofs.Version.FirstVersion
import ReleaseRules.Proofs.Version.PlaceholderGroups

/-!
Contract: what placeholder patterns match.

Owns:
- the texts that a piece of a pattern stands for, and texts that split into such texts;
- the parts of the regular expression read what the pieces stand for;
- a placeholder pattern matches the texts that split into its pieces, as a whole, and the group of
  the version is the text of the first placeholder for it.

Does not own: which of several ways to split a text a match stands for.
-/

namespace ReleaseRules.VersionPattern

open Regex (Expression Spot Denotes AreBetween groupSpan)
open Unicode (IntervalSet)

/-! ## What pieces stand for -/

/-- One or more decimal digits of any script. -/
def IsDigits (text : List Char) : Prop :=
  text ≠ [] ∧ ∀ character ∈ text, isAnyDigit character = true

/-- A version: one to three runs of digits with dots between them. -/
def IsVersionText (text : List Char) : Prop :=
  ∃ runs, 1 ≤ runs.length ∧ runs.length ≤ 3 ∧ (∀ run ∈ runs, IsDigits run) ∧
    text = ['.'].intercalate runs

/-- The texts that a piece stands for. -/
def Piece.Fits : Piece → List Char → Prop
  | .literal character, text => text = [character]
  | .placeholder name, text =>
      if name = versionGroup.toList then IsVersionText text
      else text ≠ [] ∧ '\n' ∉ text

/-- Whether a text splits into texts of the pieces, from its first to its last character. -/
def SplitsInto (pieces : List Piece) (text : List Char) : Prop :=
  ∃ texts, List.Forall₂ Piece.Fits pieces texts ∧ text = texts.flatten

section Languages

variable {text : List Char}

theorem mem_language_digitsExpression : text ∈ digitsExpression.language ↔ IsDigits text :=
  Regex.mem_language_oneOrMore

theorem mem_language_anyExpression :
    text ∈ anyExpression.language ↔ text ≠ [] ∧ '\n' ∉ text := by
  rw [anyExpression, Regex.mem_language_oneOrMore, ← List.forall_mem_ne']
  exact and_congr_right fun _ => forall₂_congr fun character _ =>
    IntervalSet.hasChar_complement_singleton '\n'

/-- Further runs, each with a dot in front. -/
theorem mem_language_component_pow {count : Nat} :
    text ∈ (Expression.concatenation
        [.set (.singleton '.'.toNat), digitsExpression]).language ^ count ↔
      ∃ runs : List (List Char), runs.length = count ∧ (∀ run ∈ runs, IsDigits run) ∧
        text = runs.flatMap ('.' :: ·) := by
  have component : ∀ text, text ∈ (Expression.concatenation
      [.set (.singleton '.'.toNat), digitsExpression]).language ↔
        ∃ run, IsDigits run ∧ text = '.' :: run := by
    intro text
    rw [Expression.language, Expression.partsLanguage, Expression.partsLanguage,
      Expression.partsLanguage, mul_one, Language.mem_mul]
    constructor
    · rintro ⟨_, ⟨character, rfl, isDot⟩, run, digits, rfl⟩
      obtain rfl := (IntervalSet.hasChar_singleton '.').mp isDot
      exact ⟨run, mem_language_digitsExpression.mp digits, rfl⟩
    · rintro ⟨run, digits, rfl⟩
      exact ⟨['.'], ⟨'.', rfl, (IntervalSet.hasChar_singleton '.').mpr rfl⟩, run,
        mem_language_digitsExpression.mpr digits, rfl⟩
  induction count generalizing text with
  | zero =>
      rw [pow_zero, Language.mem_one]
      constructor
      · rintro rfl
        exact ⟨[], rfl, List.forall_mem_nil _, rfl⟩
      · rintro ⟨runs, none, -, rfl⟩
        rw [List.length_eq_zero_iff.mp none]
        rfl
  | succ count inductionHypothesis =>
      rw [pow_succ', Language.mem_mul]
      constructor
      · rintro ⟨first, inFirst, rest, inRest, rfl⟩
        obtain ⟨run, digits, rfl⟩ := (component first).mp inFirst
        obtain ⟨runs, counted, all, rfl⟩ := inductionHypothesis.mp inRest
        exact ⟨run :: runs, congrArg (· + 1) counted, List.forall_mem_cons.mpr ⟨digits, all⟩, rfl⟩
      · rintro ⟨runs, counted, all, rfl⟩
        obtain ⟨run, runs, rfl⟩ := List.exists_cons_of_length_eq_add_one counted
        obtain ⟨digits, others⟩ := List.forall_mem_cons.mp all
        exact ⟨'.' :: run, (component _).mpr ⟨run, digits, rfl⟩, runs.flatMap ('.' :: ·),
          inductionHypothesis.mpr ⟨runs, Nat.succ.inj counted, others, rfl⟩, rfl⟩

theorem intercalate_dot (run : List Char) (runs : List (List Char)) :
    ['.'].intercalate (run :: runs) = run ++ runs.flatMap ('.' :: ·) := by
  induction runs generalizing run with
  | nil => simp [List.intercalate]
  | cons next runs inductionHypothesis =>
      have goesOn : ['.'].intercalate (run :: next :: runs) =
          run ++ '.' :: ['.'].intercalate (next :: runs) := by
        simp [List.intercalate]
      rw [goesOn, inductionHypothesis next]
      rfl

theorem mem_partsLanguage_version :
    text ∈ Expression.partsLanguage [digitsExpression, furtherExpression] ↔
      IsVersionText text := by
  rw [Expression.partsLanguage, Expression.partsLanguage, Expression.partsLanguage, mul_one,
    Language.mem_mul]
  constructor
  · rintro ⟨run, digits, _, ⟨count, -, bounded, member⟩, rfl⟩
    obtain ⟨runs, rfl, all, rfl⟩ := mem_language_component_pow.mp member
    refine ⟨run :: runs, Nat.succ_pos _, Nat.succ_le_succ (bounded 2 rfl),
      List.forall_mem_cons.mpr ⟨mem_language_digitsExpression.mp digits, all⟩,
      (intercalate_dot run runs).symm⟩
  · rintro ⟨runs, some, few, all, rfl⟩
    obtain ⟨run, runs, rfl⟩ := List.exists_cons_of_length_pos some
    obtain ⟨digits, others⟩ := List.forall_mem_cons.mp all
    refine ⟨run, mem_language_digitsExpression.mpr digits, runs.flatMap ('.' :: ·), ?_,
      (intercalate_dot run runs).symm⟩
    refine ⟨runs.length, Nat.zero_le _, ?_, mem_language_component_pow.mpr ⟨runs, rfl, others, rfl⟩⟩
    rintro bound ⟨⟩
    exact Nat.le_of_succ_le_succ few

/-! ## What parts read -/

/-- The piece that a part was made of. -/
def Part.piece : Part → Piece
  | .literal character => .literal character
  | .group _ name => .placeholder name
  | .again name => .placeholder name

theorem map_piece_partsFrom (seen : List (List Char)) (count : Nat) (pieces : List Piece) :
    (partsFrom seen count pieces).map Part.piece = pieces := by
  induction pieces generalizing seen count with
  | nil => rfl
  | cons piece rest inductionHypothesis =>
      cases piece with
      | literal character => exact congrArg (_ :: ·) (inductionHypothesis seen count)
      | placeholder name =>
          by_cases old : name ∈ seen
          · rw [partsFrom_of_mem old, List.map_cons, inductionHypothesis]
            rfl
          · rw [partsFrom_of_notMem old, List.map_cons, inductionHypothesis]
            rfl

theorem mem_partsLanguage_innerExpressions (name : List Char) :
    text ∈ Expression.partsLanguage (innerExpressions name) ↔
      (Piece.placeholder name).Fits text := by
  rw [innerExpressions, Piece.Fits, isVersion]
  by_cases version : name = versionGroup.toList
  · rw [if_pos (decide_eq_true version), if_pos version, mem_partsLanguage_version]
  · rw [if_neg (by simpa using version), if_neg version, Expression.partsLanguage,
      Expression.partsLanguage, mul_one, mem_language_anyExpression]

theorem language_innerExpression (name : List Char) :
    (innerExpression name).language = Expression.partsLanguage (innerExpressions name) := by
  rw [innerExpression, innerExpressions]
  cases isVersion name with
  | true => rfl
  | false => exact (mul_one _).symm

theorem Part.mem_partsLanguage_expressions (part : Part) :
    text ∈ Expression.partsLanguage part.expressions ↔ part.piece.Fits text := by
  cases part with
  | literal character =>
      rw [expressions, Expression.partsLanguage, Expression.partsLanguage, mul_one, piece,
        Piece.Fits, Regex.mem_language_set]
      constructor
      · rintro ⟨other, rfl, same⟩
        rw [(IntervalSet.hasChar_singleton character).mp same]
      · rintro rfl
        exact ⟨character, rfl, (IntervalSet.hasChar_singleton character).mpr rfl⟩
  | group index name =>
      rw [expressions, Expression.partsLanguage, Expression.partsLanguage, mul_one,
        Expression.language, language_innerExpression]
      exact mem_partsLanguage_innerExpressions name
  | again name => exact mem_partsLanguage_innerExpressions name

theorem splitsInto_nil : SplitsInto [] text ↔ text = [] := by
  constructor
  · rintro ⟨texts, fit, rfl⟩
    cases fit
    rfl
  · rintro rfl
    exact ⟨[], .nil, rfl⟩

theorem splitsInto_cons {piece : Piece} {rest : List Piece} :
    SplitsInto (piece :: rest) text ↔
      ∃ front behind, piece.Fits front ∧ SplitsInto rest behind ∧ text = front ++ behind := by
  constructor
  · rintro ⟨texts, fit, rfl⟩
    obtain ⟨front, others, fits, fitOthers, rfl⟩ := List.forall₂_cons_left_iff.mp fit
    exact ⟨front, others.flatten, fits, ⟨others, fitOthers, rfl⟩, rfl⟩
  · rintro ⟨front, _, fits, ⟨others, fitOthers, rfl⟩, rfl⟩
    exact ⟨front :: others, .cons fits fitOthers, rfl⟩

/-- The parts stand for the texts that split into their pieces. -/
theorem mem_partsLanguage_flatMap (parts : List Part) :
    text ∈ Expression.partsLanguage (parts.flatMap Part.expressions) ↔
      SplitsInto (parts.map Part.piece) text := by
  induction parts generalizing text with
  | nil => exact (Language.mem_one text).trans splitsInto_nil.symm
  | cons part rest inductionHypothesis =>
      rw [List.flatMap_cons, Regex.partsLanguage_append, Language.mem_mul, List.map_cons,
        splitsInto_cons]
      constructor
      · rintro ⟨front, inPart, behind, inRest, rfl⟩
        exact ⟨front, behind, part.mem_partsLanguage_expressions.mp inPart,
          inductionHypothesis.mp inRest, rfl⟩
      · rintro ⟨front, behind, fits, splits, rfl⟩
        exact ⟨front, part.mem_partsLanguage_expressions.mpr fits, behind,
          inductionHypothesis.mpr splits, rfl⟩

end Languages

section Plain

theorem isPlain_innerExpression (name : List Char) : (innerExpression name).isPlain = true := by
  rw [innerExpression]
  cases isVersion name <;> rfl

theorem arePlain_innerExpressions (name : List Char) :
    Expression.arePlain (innerExpressions name) = true := by
  rw [innerExpressions]
  cases isVersion name <;> rfl

theorem arePlain_flatMap (parts : List Part) :
    Expression.arePlain (parts.flatMap Part.expressions) = true := by
  induction parts with
  | nil => rfl
  | cons part rest inductionHypothesis =>
      rw [List.flatMap_cons, Regex.arePlain_append, inductionHypothesis, Bool.and_true]
      cases part with
      | literal character => rfl
      | group index name => exact (Bool.and_true _).trans (isPlain_innerExpression name)
      | again name => exact arePlain_innerExpressions name

end Plain

/-- The parts of pieces read the texts that split into these pieces. -/
theorem denotes_partsFrom (seen : List (List Char)) (count : Nat) (pieces : List Piece) :
    Denotes (fun text => Expression.PartsRead text
      ((partsFrom seen count pieces).flatMap Part.expressions)) {text | SplitsInto pieces text} := by
  have denotes := Expression.denotes_partsRead _ (arePlain_flatMap (partsFrom seen count pieces))
  have same : Expression.partsLanguage ((partsFrom seen count pieces).flatMap Part.expressions) =
      {text | SplitsInto pieces text} := by
    ext text
    rw [mem_partsLanguage_flatMap, map_piece_partsFrom]
    rfl
  rwa [same] at denotes

/-- The body of a group reads what its placeholder stands for. -/
theorem denotes_innerExpression (name : List Char) :
    Denotes (fun text => (innerExpression name).Reads text)
      {text | (Piece.placeholder name).Fits text} := by
  have denotes := Expression.denotes_reads _ (isPlain_innerExpression name)
  have same : (innerExpression name).language = {text | (Piece.placeholder name).Fits text} := by
    ext text
    rw [language_innerExpression, mem_partsLanguage_innerExpressions]
    rfl
  rwa [same] at denotes

/-! ## Matches -/

section Matches

variable {pattern : List Char} {text : Array Char}

/-- A match reads the parts from the beginning of a text to its end. -/
theorem readsMatch_iff {first : Nat} {there : Spot} :
    (placeholderExpression pattern).ReadsMatch text first there ↔
      first = 0 ∧ ∃ last, Expression.PartsRead text ((partsOf pattern).flatMap Part.expressions)
        ⟨0, [(0, 0)]⟩ last ∧ last.position = text.size ∧ there = last.record 1 := by
  constructor
  · rintro ⟨last, ⟨_, ⟨isStart, rfl⟩, read⟩, rfl⟩
    obtain rfl : first = 0 := eq_of_beq isStart
    obtain ⟨_, read, atEnd⟩ := (Regex.partsRead_append _ _).mp read
    obtain ⟨isEnd, rfl⟩ := (Regex.partsRead_singleton _).mp atEnd
    exact ⟨rfl, last, read, by simpa [Regex.Assertion.holds] using isEnd, rfl⟩
  · rintro ⟨rfl, last, read, isEnd, rfl⟩
    refine ⟨last, ⟨_, ⟨rfl, rfl⟩, ?_⟩, rfl⟩
    refine (Regex.partsRead_append _ _).mpr ⟨last, read, (Regex.partsRead_singleton _).mpr ?_⟩
    exact ⟨by simpa [Regex.Assertion.holds] using isEnd, rfl⟩

end Matches

/-- A placeholder pattern matches the texts that split into its pieces. -/
theorem isMatch_placeholderExpression (pattern : List Char) (names : List (Option String))
    (text : List Char) :
    ((placeholderExpression pattern).regex names).isMatch text.toArray = true ↔
      SplitsInto (pieces pattern) text := by
  have denotes := denotes_partsFrom [] 0 (pieces pattern)
  rw [Regex.isMatch_iff_exists_reads]
  constructor
  · rintro ⟨first, there, -, read⟩
    obtain ⟨rfl, last, read, isEnd, -⟩ := readsMatch_iff.mp read
    rw [← List.nil_append text] at read
    obtain ⟨piece, behind, rfl, isLast, splits⟩ := denotes.sound (Eq.refl ([] : List Char).length) read
    have nothing : behind = [] := by
      rw [isLast] at isEnd
      simpa using isEnd
    rw [nothing, List.append_nil]
    exact splits
  · intro splits
    obtain ⟨last, read, isLast⟩ := denotes.complete [] []
      (show (⟨0, [(0, 0)]⟩ : Spot).position = ([] : List Char).length from rfl) splits
    rw [List.append_nil, List.nil_append] at read
    exact ⟨0, last.record 1, Nat.zero_le _,
      readsMatch_iff.mpr ⟨rfl, last, read, by simpa using isLast, rfl⟩⟩

/-! ## The group of the version -/

section Group

variable {before after : List Piece} {name : List Char} {text : List Char}

/-- A match splits the text into what stands before the first placeholder of a name, what this
placeholder stands for, and what stands behind it. The group of the name has the span of the second
of them, and the match that of all. -/
theorem exists_cut_of_readsMatch {pattern : List Char} {first : Nat} {there : Spot}
    (shape : pieces pattern = before ++ .placeholder name :: after)
    (isFirst : .placeholder name ∉ before)
    (read : (placeholderExpression pattern).ReadsMatch text.toArray first there) :
    ∃ front inside back, text = front ++ inside ++ back ∧ SplitsInto before front ∧
      (Piece.placeholder name).Fits inside ∧ SplitsInto after back ∧
      groupSpan there.records 0 = some ⟨0, text.length⟩ ∧
      groupSpan there.records ((firstNames [] before).length + 1) =
        some ⟨front.length, front.length + inside.length⟩ := by
  have parts := partsFrom_of_first isFirst after
  generalize (firstNames [] before).length = groupsBefore at parts ⊢
  obtain ⟨rfl, last, readParts, isEnd, rfl⟩ := readsMatch_iff.mp read
  have leads : Spot.Leads text.toArray (0 < ·) ((⟨0, []⟩ : Spot).record (2 * 0)) last :=
    Expression.leads_of_partsRead _ lt_of_mem_partGroups readParts
  have whole := leads.groupSpan_of_capture (Nat.lt_irrefl 0)
  rw [isEnd, List.size_toArray] at whole
  rw [partsOf, shape, parts, List.flatMap_append, List.flatMap_cons, Regex.partsRead_append]
    at readParts
  obtain ⟨opened, readFront, _, ⟨inner, readInside, rfl⟩, readBack⟩ := readParts
  -- The text is cut where the group begins and where it ends.
  rw [← List.nil_append text] at readFront
  obtain ⟨front, rest, rfl, isOpened, splitsFront⟩ :=
    (denotes_partsFrom [] 0 before).sound (Eq.refl ([] : List Char).length) readFront
  rw [List.length_nil, Nat.zero_add] at isOpened
  obtain ⟨inside, behind, rfl, isInner, fits⟩ :=
    (denotes_innerExpression name).sound (show (opened.record _).position = _ from isOpened)
      readInside
  rw [← List.append_assoc] at readBack
  obtain ⟨back, nothing, rfl, isLast, splitsBack⟩ :=
    (denotes_partsFrom (name :: seenBehind [] before) (groupsBefore + 1) after).sound
      (show (inner.record _).position = (front ++ inside).length by
        rw [List.length_append]
        exact isInner) readBack
  obtain rfl : nothing = [] := by
    simp only [isLast, List.size_toArray, List.length_append] at isEnd
    exact List.length_eq_zero_iff.mp (by omega)
  -- Neither the body of the group nor what follows has a group of its number.
  have behindIt := Expression.leads_of_partsRead _ lt_of_mem_partGroups readBack
  have inIt : Spot.Leads _ (fun _ => False) _ inner :=
    (innerExpression name).leads_of_reads (innerExpression_groups name ▸ nofun) readInside
  refine ⟨front, inside, back, by simp, splitsFront, fits, splitsBack, whole, ?_⟩
  rw [Regex.groupSpan_record_of_ne last (by omega),
    behindIt.groupSpan_eq (Nat.lt_irrefl (groupsBefore + 1)), inIt.groupSpan_of_capture id,
    isOpened, isInner]

end Group

/-- **Placeholder patterns.** A pattern with a version between braces, which is no regular expression
with a group for the version, compiles unless its regular expression is too large. It matches a text
if and only if the whole of it splits into texts of the pieces of the pattern. It has one group for
the version, which is what the first placeholder for it stands for. -/
theorem compile_matches_pieces {pattern : List Char}
    (holds : "\x7bversion\x7d".toList <:+: pattern)
    (unusable : ∀ regex, Regex.compile pattern = .ok regex →
      some versionGroup ∉ regex.groupNames)
    (small : compile pattern ≠ .error (.invalid .tooLarge)) :
    ArePiecesOf pattern (pieces pattern) ∧
    ∃ regex before after,
      compile pattern = .ok regex ∧
      (∀ text, regex.isMatch text.toArray = true ↔ SplitsInto (pieces pattern) text) ∧
      regex.groupNames.count (some versionGroup) = 1 ∧
      pieces pattern = before ++ .placeholder versionGroup.toList :: after ∧
      .placeholder versionGroup.toList ∉ before ∧
      ∀ text found, regex.find text.toArray 0 = some found →
        ∃ front version back, text = front ++ version ++ back ∧ SplitsInto before front ∧
          IsVersionText version ∧ SplitsInto after back ∧ found.whole = ⟨0, text.length⟩ ∧
          found.named regex versionGroup = some ⟨front.length, front.length + version.length⟩ := by
  have present := hasVersionPlaceholder_of_contains holds
  have compiled := compile_eq_of_placeholder present unusable
  rw [if_neg fun large => small (compiled.trans (if_pos large))] at compiled
  obtain ⟨before, after, shape, isFirst⟩ :=
    List.eq_append_cons_of_mem (List.contains_iff_mem.mp present)
  obtain ⟨behind, names, unnamedBefore, unnamedBehind⟩ := namesOf_of_first shape isFirst
  rw [String.ofList_toList] at names unnamedBefore unnamedBehind
  have once : (Regex.namesOf (placeholderExpression pattern).groups).count (some versionGroup) =
      1 := by
    rw [names, List.count_append, List.count_cons_self, List.count_eq_zero_of_not_mem unnamedBefore,
      List.count_eq_zero_of_not_mem unnamedBehind]
  refine ⟨arePiecesOf_pieces pattern, _, before, after, compiled,
    isMatch_placeholderExpression pattern _, once, shape, isFirst, fun text found result => ?_⟩
  obtain ⟨first, there, -, -, read, matched⟩ := Regex.exists_reads_of_find result
  obtain ⟨front, version, back, cut, splitsFront, fits, splitsBack, whole, group⟩ :=
    exists_cut_of_readsMatch shape isFirst read
  refine ⟨front, version, back, cut, splitsFront, fits, splitsBack, ?_, ?_⟩
  · obtain ⟨span, isWhole, rfl⟩ := Option.map_eq_some_iff.mp matched
    exact Option.some.inj (isWhole.symm.trans whole)
  · rw [Regex.named_of_matchOf names unnamedBefore matched, length_namesBefore, group]

/-- The name of a file: the match is all of it, up to the end of an extension with a dot in it. -/
theorem compile_matches_file_name :
    ∃ regex found,
      compile "\x7bprefix\x7d-\x7bversion\x7d.\x7bext\x7d".toList = .ok regex ∧
      regex.find "my-app-1.0.0.tar.gz".toList.toArray 0 = some found ∧
      found.whole = ⟨0, 19⟩ := by
  have holds : "\x7bversion\x7d".toList <:+:
      "\x7bprefix\x7d-\x7bversion\x7d.\x7bext\x7d".toList :=
    ⟨"\x7bprefix\x7d-".toList, ".\x7bext\x7d".toList, by decide⟩
  have unreadable :
      (Regex.compile "\x7bprefix\x7d-\x7bversion\x7d.\x7bext\x7d".toList).toOption = none :=
    Option.isNone_iff_eq_none.mp (by decide)
  have unusable : ∀ regex,
      Regex.compile "\x7bprefix\x7d-\x7bversion\x7d.\x7bext\x7d".toList = .ok regex →
        some versionGroup ∉ regex.groupNames := by
    intro regex compiled
    rw [compiled] at unreadable
    cases unreadable
  have small : compile "\x7bprefix\x7d-\x7bversion\x7d.\x7bext\x7d".toList ≠
      .error (.invalid .tooLarge) := by
    rw [compile_eq_of_placeholder (hasVersionPlaceholder_of_contains holds) unusable,
      if_neg (by decide)]
    exact nofun
  have splits : SplitsInto (pieces "\x7bprefix\x7d-\x7bversion\x7d.\x7bext\x7d".toList)
      "my-app-1.0.0.tar.gz".toList := by
    have version : IsVersionText "1.0.0".toList := by
      have one : IsDigits ['1'] := ⟨by decide, List.all_eq_true.mp (by decide)⟩
      have zero : IsDigits ['0'] := ⟨by decide, List.all_eq_true.mp (by decide)⟩
      exact ⟨[['1'], ['0'], ['0']], by decide, by decide, by simp [one, zero], by decide⟩
    have cut : pieces "\x7bprefix\x7d-\x7bversion\x7d.\x7bext\x7d".toList =
        [.placeholder "prefix".toList, .literal '-', .placeholder "version".toList, .literal '.',
          .placeholder "ext".toList] := by decide
    rw [cut]
    refine ⟨["my-app".toList, ['-'], "1.0.0".toList, ['.'], "tar.gz".toList], ?_, by decide⟩
    refine .cons ?_ (.cons rfl (.cons ?_ (.cons rfl (.cons ?_ .nil))))
    · rw [Piece.Fits, if_neg (by decide)]
      decide
    · rw [Piece.Fits, if_pos (by decide)]
      exact version
    · rw [Piece.Fits, if_neg (by decide)]
      decide
  obtain ⟨-, regex, _, _, compiled, isMatch, -, -, -, finds⟩ :=
    compile_matches_pieces holds unusable small
  obtain ⟨found, result⟩ := Option.isSome_iff_exists.mp ((isMatch _).mpr splits)
  obtain ⟨_, _, _, -, -, -, -, whole, -⟩ := finds _ found result
  exact ⟨regex, found, compiled, result, whole⟩

end ReleaseRules.VersionPattern
