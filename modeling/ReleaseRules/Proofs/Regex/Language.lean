import Mathlib.Computability.Language
import ReleaseRules.Proofs.Regex.Reads

/-!
Contract: the language of an expression.

Owns:
- languages of expressions without assertions, by recursion on the expression;
- such an expression reads the texts of its language, wherever they stand;
- parts in sequence;
- texts of single characters, and repetitions of them.

Does not own: assertions, which depend on what stands around them.
-/

namespace ReleaseRules.Regex

mutual

/-- Whether no assertion stands in an expression. -/
def Expression.isPlain : Expression → Bool
  | .empty => true
  | .set _ => true
  | .assertion _ => false
  | .capture _ _ body => body.isPlain
  | .concatenation parts => Expression.arePlain parts
  | .alternation branches => Expression.arePlain branches
  | .repetition body _ _ _ => body.isPlain

/-- Whether no assertion stands in any part. -/
def Expression.arePlain : List Expression → Bool
  | [] => true
  | part :: rest => part.isPlain && Expression.arePlain rest

end

mutual

/-- The texts that an expression stands for. Assertions are not looked at. -/
def Expression.language : Expression → Language Char
  | .empty => 1
  | .set members => {text | ∃ character, text = [character] ∧ members.hasChar character = true}
  | .assertion _ => 1
  | .capture _ _ body => body.language
  | .concatenation parts => Expression.partsLanguage parts
  | .alternation branches => Expression.branchesLanguage branches
  | .repetition body least most _ =>
      {text | ∃ count, least ≤ count ∧ (∀ bound ∈ most, count ≤ max least bound) ∧
        text ∈ body.language ^ count}

/-- The texts of all parts in sequence. -/
def Expression.partsLanguage : List Expression → Language Char
  | [] => 1
  | part :: rest => part.language * Expression.partsLanguage rest

/-- The texts of all branches. -/
def Expression.branchesLanguage : List Expression → Language Char
  | [] => 0
  | branch :: rest => branch.language + Expression.branchesLanguage rest

end

/-- A reading of the texts of a language, wherever they stand. -/
structure Denotes (reads : Array Char → Spot → Spot → Prop) (language : Language Char) : Prop where
  sound : ∀ {before rest : List Char} {here there : Spot}, here.position = before.length →
    reads (before ++ rest).toArray here there →
      ∃ piece behind, rest = piece ++ behind ∧ there.position = before.length + piece.length ∧
        piece ∈ language
  complete : ∀ (before : List Char) {piece : List Char} (behind : List Char) {here : Spot},
    here.position = before.length → piece ∈ language →
      ∃ there, reads (before ++ (piece ++ behind)).toArray here there ∧
        there.position = before.length + piece.length

namespace Denotes

variable {reads others : Array Char → Spot → Spot → Prop} {language further : Language Char}

theorem nothing : Denotes (fun _ => Eq) 1 := by
  constructor
  · rintro before rest here there isHere rfl
    exact ⟨[], rest, rfl, isHere, Language.nil_mem_one⟩
  · rintro before piece behind here isHere rfl
    exact ⟨here, rfl, isHere⟩

theorem comp (first : Denotes reads language) (second : Denotes others further) :
    Denotes (fun text => Relation.Comp (reads text) (others text)) (language * further) := by
  constructor
  · rintro before rest here there isHere ⟨between, read, readOther⟩
    obtain ⟨front, rest, rfl, isBetween, inFirst⟩ := first.sound isHere read
    rw [← List.append_assoc] at readOther
    obtain ⟨back, behind, rfl, isThere, inSecond⟩ :=
      second.sound (isBetween.trans List.length_append.symm) readOther
    refine ⟨front ++ back, behind, (List.append_assoc _ _ _).symm, ?_,
      Language.mem_mul.mpr ⟨front, inFirst, back, inSecond, rfl⟩⟩
    rw [isThere, List.length_append, List.length_append, Nat.add_assoc]
  · rintro before piece behind here isHere member
    obtain ⟨front, inFirst, back, inSecond, rfl⟩ := Language.mem_mul.mp member
    obtain ⟨between, read, isBetween⟩ := first.complete before (back ++ behind) isHere inFirst
    obtain ⟨there, readOther, isThere⟩ := second.complete (before ++ front) behind
      (isBetween.trans List.length_append.symm) inSecond
    refine ⟨there, ⟨between, ?_, ?_⟩, ?_⟩
    · rwa [List.append_assoc]
    · rwa [List.append_assoc, ← List.append_assoc front] at readOther
    · rw [isThere, List.length_append, List.length_append, Nat.add_assoc]

theorem rounds (denotes : Denotes reads language) : ∀ count,
    Denotes (fun text => Rounds (reads text) count) (language ^ count)
  | 0 => nothing
  | count + 1 => pow_succ language count ▸ (denotes.rounds count).comp denotes

/-- A reading of texts of two languages. -/
theorem either (first : Denotes reads language) (second : Denotes others further) :
    Denotes (fun text here there => reads text here there ∨ others text here there)
      (language + further) := by
  constructor
  · rintro before rest here there isHere (read | read)
    · obtain ⟨piece, behind, shape, isThere, member⟩ := first.sound isHere read
      exact ⟨piece, behind, shape, isThere, .inl member⟩
    · obtain ⟨piece, behind, shape, isThere, member⟩ := second.sound isHere read
      exact ⟨piece, behind, shape, isThere, .inr member⟩
  · rintro before piece behind here isHere (member | member)
    · obtain ⟨there, read, isThere⟩ := first.complete before behind isHere member
      exact ⟨there, .inl read, isThere⟩
    · obtain ⟨there, read, isThere⟩ := second.complete before behind isHere member
      exact ⟨there, .inr read, isThere⟩

theorem set (members : Unicode.IntervalSet) :
    Denotes (fun text => (Expression.set members).Reads text) (Expression.set members).language := by
  constructor
  · rintro before rest here there isHere ⟨character, shown, member, rfl⟩
    rw [isHere] at shown
    cases rest with
    | nil => simp at shown
    | cons first rest =>
        obtain rfl : first = character := by simpa using shown
        exact ⟨[first], rest, rfl, congrArg (· + 1) isHere, first, rfl, member⟩
  · rintro before _ behind here isHere ⟨character, rfl, member⟩
    refine ⟨_, ⟨character, ?_, member, rfl⟩, congrArg (· + 1) isHere⟩
    rw [isHere]
    simp

/-- A group reads what its body reads. -/
theorem capture {body : Expression} (index : Nat) (name : Option String)
    (denotes : Denotes (fun text => body.Reads text) language) :
    Denotes (fun text => (Expression.capture index name body).Reads text) language := by
  constructor
  · rintro before rest here there isHere ⟨last, read, rfl⟩
    obtain ⟨piece, behind, shape, isThere, member⟩ :=
      denotes.sound (show (here.record (2 * index)).position = _ from isHere) read
    exact ⟨piece, behind, shape, isThere, member⟩
  · intro before piece behind here isHere member
    obtain ⟨last, read, isThere⟩ :=
      denotes.complete before behind (show (here.record (2 * index)).position = _ from isHere) member
    exact ⟨_, ⟨last, read, rfl⟩, isThere⟩

/-- A repetition reads as many rounds as its bounds allow. -/
theorem repetition {body : Expression} (least : Nat) (most : Option Nat) (greedy : Bool)
    (denotes : Denotes (fun text => body.Reads text) body.language) :
    Denotes (fun text => (Expression.repetition body least most greedy).Reads text)
      (Expression.repetition body least most greedy).language := by
  constructor
  · rintro before rest here there isHere ⟨count, enough, bounded, read⟩
    obtain ⟨piece, behind, shape, isThere, member⟩ := (denotes.rounds count).sound isHere read
    exact ⟨piece, behind, shape, isThere, count, enough, bounded, member⟩
  · rintro before piece behind here isHere ⟨count, enough, bounded, member⟩
    obtain ⟨there, read, isThere⟩ := (denotes.rounds count).complete before behind isHere member
    exact ⟨there, ⟨count, enough, bounded, read⟩, isThere⟩

end Denotes

mutual

/-- **Languages.** Where no assertion stands in it, an expression reads the texts of its language,
and reads them wherever they stand. -/
theorem Expression.denotes_reads : (expression : Expression) → expression.isPlain = true →
    Denotes (fun text => expression.Reads text) expression.language
  | .empty, _ => .nothing
  | .set members, _ => .set members
  | .capture index name body, plain => (body.denotes_reads plain).capture index name
  | .concatenation parts, plain => Expression.denotes_partsRead parts plain
  | .alternation branches, plain => Expression.denotes_branchesRead branches plain
  | .repetition body least most greedy, plain =>
      (body.denotes_reads plain).repetition least most greedy

theorem Expression.denotes_partsRead : (parts : List Expression) →
    Expression.arePlain parts = true →
    Denotes (fun text => Expression.PartsRead text parts) (Expression.partsLanguage parts)
  | [], _ => .nothing
  | part :: rest, plain => by
      obtain ⟨plainPart, plainRest⟩ := (Bool.and_eq_true _ _).mp plain
      exact (part.denotes_reads plainPart).comp (Expression.denotes_partsRead rest plainRest)

theorem Expression.denotes_branchesRead : (branches : List Expression) →
    Expression.arePlain branches = true →
    Denotes (fun text => Expression.BranchesRead text branches)
      (Expression.branchesLanguage branches)
  | [], _ => by
      constructor
      · rintro _ _ _ _ _ ⟨⟩
      · rintro _ _ _ _ _ ⟨⟩
  | branch :: rest, plain => by
      obtain ⟨plainBranch, plainRest⟩ := (Bool.and_eq_true _ _).mp plain
      exact (branch.denotes_reads plainBranch).either
        (Expression.denotes_branchesRead rest plainRest)

end

/-! ## Parts in sequence -/

theorem arePlain_append (first second : List Expression) :
    Expression.arePlain (first ++ second) =
      (Expression.arePlain first && Expression.arePlain second) := by
  induction first with
  | nil => rfl
  | cons part rest inductionHypothesis =>
      rw [List.cons_append, Expression.arePlain, Expression.arePlain, inductionHypothesis,
        Bool.and_assoc]

theorem partsLanguage_append (first second : List Expression) :
    Expression.partsLanguage (first ++ second) =
      Expression.partsLanguage first * Expression.partsLanguage second := by
  induction first with
  | nil => exact (one_mul _).symm
  | cons part rest inductionHypothesis =>
      rw [List.cons_append, Expression.partsLanguage, Expression.partsLanguage,
        inductionHypothesis, mul_assoc]

/-! ## Repeated characters -/

section Characters

variable {members : Unicode.IntervalSet} {text : List Char}

theorem mem_language_set :
    text ∈ (Expression.set members).language ↔
      ∃ character, text = [character] ∧ members.hasChar character = true :=
  Iff.rfl

theorem mem_language_set_pow {count : Nat} :
    text ∈ (Expression.set members).language ^ count ↔
      text.length = count ∧ ∀ character ∈ text, members.hasChar character = true := by
  induction count generalizing text with
  | zero =>
      rw [pow_zero, Language.mem_one, ← List.length_eq_zero_iff]
      exact ⟨fun empty => ⟨empty, by simp [List.length_eq_zero_iff.mp empty]⟩, And.left⟩
  | succ count inductionHypothesis =>
      rw [pow_succ', Language.mem_mul]
      constructor
      · rintro ⟨_, ⟨first, rfl, member⟩, rest, inRest, rfl⟩
        obtain ⟨counted, others⟩ := inductionHypothesis.mp inRest
        refine ⟨by simp [counted], ?_⟩
        rintro character (_ | ⟨_, later⟩)
        · exact member
        · exact others character later
      · rintro ⟨counted, all⟩
        cases text with
        | nil => cases counted
        | cons first rest =>
            obtain ⟨member, others⟩ := List.forall_mem_cons.mp all
            exact ⟨[first], ⟨first, rfl, member⟩, rest,
              inductionHypothesis.mpr ⟨Nat.succ.inj counted, others⟩, rfl⟩

/-- One or more characters of a set. -/
theorem mem_language_oneOrMore {greedy : Bool} :
    text ∈ (Expression.repetition (.set members) 1 none greedy).language ↔
      text ≠ [] ∧ ∀ character ∈ text, members.hasChar character = true := by
  constructor
  · rintro ⟨count, enough, -, member⟩
    obtain ⟨counted, all⟩ := mem_language_set_pow.mp member
    exact ⟨List.ne_nil_of_length_pos (counted ▸ enough), all⟩
  · rintro ⟨nonempty, all⟩
    exact ⟨text.length, List.length_pos_iff.mpr nonempty, nofun,
      mem_language_set_pow.mpr ⟨rfl, all⟩⟩

end Characters

end ReleaseRules.Regex
