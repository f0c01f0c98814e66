import ReleaseRules.Proofs.Regex.GroupNames
import ReleaseRules.Proofs.Regex.ListedSearch
import ReleaseRules.Proofs.Rules.VersionGate

/-!
Contract: the replacement of the matches of a regular expression, match by match.

Owns:
- the variables that the replacement of a match sees;
- why a match stays, and what stands in the place of every match;
- the text between matches, and the text and the record that a replacement leaves.

Does not own: which parts of a text match, and how templates are expanded.

A replacement goes through the matches that it replaces and passes over the others together with
the text around them. With what stands in its place for every match, the new text is made of the
same gaps as the old one.
-/

namespace ReleaseRules

open Regex (Span Match Follow)

namespace Edit

/-! ## Variables -/

/-- The text of the group with a name, if the group took part in a match. -/
def groupText? (regex : Regex) (characters : Array Char) (found : Match) (name : String) :
    Option String :=
  (found.named regex name).map fun span => String.ofList (span.characters characters)

section Variables

variable {program : Regex.Program} {names : List (Option String)} {whole : Span}
  {groups : List (Option Span)}

theorem named_cons (first : Option String) (span : Option Span) (name : String) :
    Match.named ⟨whole, span :: groups⟩ ⟨program, first :: names⟩ name =
      if first = some name then span else Match.named ⟨whole, groups⟩ ⟨program, names⟩ name := by
  simp only [Match.named, List.zip_cons_cons, List.lookup_cons]
  by_cases same : first = some name
  · rw [if_pos same, same, beq_self_eq_true]
    rfl
  · rw [if_neg same, beq_eq_false_iff_ne.mpr (Ne.symm same)]

/-- A name that no group has gives no span. -/
theorem named_of_not_mem {name : String} (absent : some name ∉ names) :
    Match.named ⟨whole, groups⟩ ⟨program, names⟩ name = none := by
  induction names generalizing groups with
  | nil => rfl
  | cons first names inductionHypothesis =>
      rw [List.mem_cons, not_or] at absent
      obtain ⟨differs, later⟩ := absent
      cases groups with
      | nil => rfl
      | cons span groups => rw [named_cons, if_neg (Ne.symm differs), inductionHypothesis later]

/-- With distinct names of groups, each variable has the text of its group if this one took part. -/
theorem lookup_matchVariables_of_nodup (distinct : (names.filterMap id).Nodup)
    (bindings : Template.Variables) (characters : Array Char) (name : String) :
    Tree.lookup name (matchVariables bindings ⟨program, names⟩ characters ⟨whole, groups⟩) =
      (groupText? ⟨program, names⟩ characters ⟨whole, groups⟩ name).or
        (Tree.lookup name bindings) := by
  induction names generalizing groups bindings with
  | nil => rfl
  | cons first names inductionHypothesis =>
      cases groups with
      | nil => rfl
      | cons span groups =>
          have distinctRest : (names.filterMap id).Nodup :=
            List.Nodup.sublist ((List.sublist_cons_self first names).filterMap id) distinct
          have onward := @inductionHypothesis groups distinctRest
          simp only [groupText?] at onward ⊢
          rw [named_cons]
          cases first with
          | none =>
              rw [if_neg nofun]
              exact onward bindings
          | some shown =>
              have absent : shown = name →
                  Match.named ⟨whole, groups⟩ ⟨program, names⟩ name = none := by
                rintro rfl
                exact named_of_not_mem fun member =>
                  (List.nodup_cons.mp distinct).1 (List.mem_filterMap.mpr ⟨_, member, rfl⟩)
              cases span with
              | none =>
                  refine (onward bindings).trans ?_
                  by_cases same : shown = name
                  · rw [if_pos (congrArg some same), absent same]
                  · rw [if_neg (by simpa using same)]
              | some span =>
                  refine (onward (Tree.insert shown
                    (String.ofList (span.characters characters)) bindings)).trans ?_
                  by_cases same : shown = name
                  · rw [if_pos (congrArg some same), absent same, same, Tree.lookup_insert_same]
                    rfl
                  · rw [if_neg (by simpa using same), Tree.lookup_insert_of_ne (Ne.symm same)]

end Variables

/-! ## Matches that stay -/

section Matches

variable (context : Context) (regex : Regex) (characters : Array Char) (replacement : String)
  (guard : Option VersionGuard)

/-- The replacement expanded for a match. -/
def expansion (found : Match) : List Char :=
  Template.expand replacement.toList (matchVariables context.bindings regex characters found)

/-- Reasons for which a match stays: the group of the guard did not take part, the strategy of the
guard refuses its text, or the expanded replacement is the text of the match. -/
inductive Stays (found : Match) : Prop where
  | notCaptured {given : VersionGuard} (isGuard : guard = some given)
      (absent : found.named regex given.group = none)
  | refused {given : VersionGuard} {captured : Span} (isGuard : guard = some given)
      (isCaptured : found.named regex given.group = some captured)
      (refuses : ¬ given.strategy.Passes (captured.characters characters)
        (given.source.resolve context))
  | unchanged (same : expansion context regex characters replacement found =
      found.whole.characters characters)

variable {context regex characters replacement guard}

/-- A match that stays has no replacement. -/
theorem replacementOf_of_stays {found : Match}
    (stays : Stays context regex characters replacement guard found) :
    replacementOf context regex characters replacement guard found = none := by
  cases stays with
  | notCaptured isGuard absent =>
      subst isGuard
      simp [replacementOf, guardAllows, absent]
  | refused isGuard isCaptured refuses =>
      subst isGuard
      have refusal := Bool.eq_false_iff.mpr (mt (Strategy.allows_iff _ _ _).mp refuses)
      simp [replacementOf, guardAllows, isCaptured, refusal]
  | unchanged same =>
      rw [expansion] at same
      simp [replacementOf, same]

/-- A match that does not stay is replaced by its expansion. -/
theorem replacementOf_of_not_stays {found : Match}
    (changes : ¬ Stays context regex characters replacement guard found) :
    replacementOf context regex characters replacement guard found =
      some (expansion context regex characters replacement found) := by
  have allowed : (guard.all fun given =>
      guardAllows regex characters found (given.source.resolve context) given) = true := by
    cases isGuard : guard with
    | none => rfl
    | some given =>
        cases isCaptured : found.named regex given.group with
        | none => exact absurd (.notCaptured isGuard isCaptured) changes
        | some captured =>
            have passes : given.strategy.Passes (captured.characters characters)
                (given.source.resolve context) := by
              by_contra refuses
              exact changes (.refused isGuard isCaptured refuses)
            simpa [guardAllows, isCaptured] using (Strategy.allows_iff _ _ _).mpr passes
  have differs : expansion context regex characters replacement found ≠
      found.whole.characters characters := fun same => changes (.unchanged same)
  simp only [replacementOf, allowed, if_true]
  exact if_neg differs

instance : DecidablePred (Stays context regex characters replacement guard) := fun found =>
  decidable_of_iff (replacementOf context regex characters replacement guard found = none) <| by
    constructor
    · intro none
      by_contra changes
      rw [replacementOf_of_not_stays changes] at none
      cases none
    · exact replacementOf_of_stays

end Matches

/-! ## Gaps -/

/-- The texts between spans: before the first one, between neighbours and behind the last one. -/
def gaps (characters : Array Char) : Nat → List Span → List (List Char)
  | position, [] => [(characters.extract position characters.size).toList]
  | position, span :: rest =>
      (characters.extract position span.start).toList :: gaps characters span.stop rest

/-- Gaps with a text behind each of them but the last. -/
def weave : List (List Char) → List (List Char) → List Char
  | gap :: rest, shown :: others => gap ++ shown ++ weave rest others
  | rest, _ => rest.flatten

/-- A text with spans replaced is made of the gaps between them and of the replacements. -/
theorem splice_eq_weave (characters : Array Char) (position : Nat)
    (spans : List (Span × List Char)) :
    splice characters position spans =
      weave (gaps characters position (spans.map Prod.fst)) (spans.map Prod.snd) := by
  induction spans generalizing position with
  | nil => simp [splice, gaps, weave]
  | cons entry rest inductionHypothesis =>
      rw [splice, inductionHypothesis]
      rfl

/-! ## Replacements -/

section Replacements

variable (context : Context) (regex : Regex) (characters : Array Char) (replacement : String)
  (guard : Option VersionGuard)

/-- What stands in the place of a match afterwards. -/
def standing (found : Match) : List Char :=
  if Stays context regex characters replacement guard found then found.whole.characters characters
  else expansion context regex characters replacement found

/-- The matches that do not stay, in order. -/
def changing (found : List Match) : List Match :=
  found.filter fun found => ¬ Stays context regex characters replacement guard found

variable {context regex characters replacement guard}

theorem restated_eq_standing (found : List Match) :
    restated (replacementOf context regex characters replacement guard) characters found =
      found.map fun found =>
        (found.whole, standing context regex characters replacement guard found) := by
  refine List.map_congr_left fun found _ => ?_
  by_cases stays : Stays context regex characters replacement guard found
  · rw [standing, if_pos stays, replacementOf_of_stays stays, Option.getD_none]
  · rw [standing, if_neg stays, replacementOf_of_not_stays stays, Option.getD_some]

theorem filterMap_replacementOf (found : List Match) :
    (found.filterMap fun found =>
        (replacementOf context regex characters replacement guard found).map (found.whole, ·)) =
      (changing context regex characters replacement guard found).map fun found =>
        (found.whole, expansion context regex characters replacement found) := by
  induction found with
  | nil => rfl
  | cons first rest inductionHypothesis =>
      rw [changing] at inductionHypothesis ⊢
      by_cases stays : Stays context regex characters replacement guard first
      · simp [replacementOf_of_stays stays, stays, inductionHypothesis]
      · simp [replacementOf_of_not_stays stays, stays, inductionHypothesis]

end Replacements

/-- The edit that the replacement of matches makes, if a match changes. -/
def replacementEdit (context : Context) (regex : Regex) (characters : Array Char)
    (pattern replacement : String) (guard : Option VersionGuard) (found : List Match) : Edited :=
  let changed := changing context regex characters replacement guard found
  { text := weave (gaps characters 0 (found.map Match.whole))
      (found.map (standing context regex characters replacement guard))
    key := none
    oldValue := some (", ".intercalate (changed.map fun found =>
      String.ofList (found.whole.characters characters)))
    newValue := some (", ".intercalate (changed.map fun found =>
      String.ofList (expansion context regex characters replacement found)))
    description :=
      "Replaced " ++ toString changed.length ++ " match(es) of /" ++ pattern ++ "/" }

/-- A replacement of matches leaves the edit of those that change, if there are any. -/
theorem replaceText_eq (context : Context) (text : List Char) {pattern : String}
    (replacement : String) (guard : Option VersionGuard) {regex : Regex}
    (compiled : Regex.compile pattern.toList = .ok regex) :
    replaceText context text pattern replacement guard =
      if ∀ found ∈ regex.allMatches text.toArray,
          Stays context regex text.toArray replacement guard found then none
      else some (replacementEdit context regex text.toArray pattern replacement guard
        (regex.allMatches text.toArray)) := by
  have follow := Regex.follow_allMatches (Regex.isCompiled_of_compile compiled) text.toArray
  have spliced := splice_restated
    (replacementOf context regex text.toArray replacement guard) follow
  rw [filterMap_replacementOf, restated_eq_standing,
    splice_eq_weave text.toArray 0 (List.map _ (regex.allMatches text.toArray))] at spliced
  have unchanged : changing context regex text.toArray replacement guard
      (regex.allMatches text.toArray) = [] ↔ ∀ found ∈ regex.allMatches text.toArray,
        Stays context regex text.toArray replacement guard found := by
    simp [changing, List.filter_eq_nil_iff]
  simp only [replaceText, compiled, Except.toOption, filterMap_replacementOf, spliced, bind,
    Option.bind_some, List.isEmpty_map, List.isEmpty_iff, unchanged]
  split
  · rfl
  · simp only [replacementEdit, List.map_map, List.length_map]
    rfl

end Edit

/-- **Replaced matches.** A replacement goes by all matches that the text yields. The text is made
of these and the gaps between them. If every match stays, nothing changes; otherwise the new text
has the same gaps, with the expanded replacement in the place of each match that does not stay. The
record shows the matches that do not stay and their replacements in order, and counts them. A
replacement is expanded for a match with the variables of the context and, over them, the texts of
the named groups that took part in it. -/
theorem Action.replaceText_replaces_matches (rule : String) (context : Context) (text : List Char)
    {pattern : String} (replacement : String) (guard : Option VersionGuard) {regex : Regex}
    (compiled : Regex.compile pattern.toList = .ok regex) :
    let characters := text.toArray
    let all := regex.allMatches characters
    let gaps := Edit.gaps characters 0 (all.map Match.whole)
    let own := fun found : Match => found.whole.characters characters
    let expansion := Edit.expansion context regex characters replacement
    let stays := Edit.Stays context regex characters replacement guard
    let changed := all.filter fun found => ¬ stays found
    let outcome := (Action.replaceText pattern replacement guard).apply rule context text
    regex.Yields characters none 0 all ∧
    Edit.weave gaps (all.map own) = text ∧
    (∀ found ∈ all, ∀ name, Tree.lookup name
        (Edit.matchVariables context.bindings regex characters found) =
      (Edit.groupText? regex characters found name).or (Tree.lookup name context.bindings)) ∧
    (outcome = none ↔ ∀ found ∈ all, stays found) ∧
    ∀ next change, outcome = some (next, change) →
      next = Edit.weave gaps (all.map fun found =>
        if stays found then own found else expansion found) ∧
      change =
        { rule := rule
          action := "regex_replace"
          key := none
          oldValue := some (", ".intercalate (changed.map fun found => String.ofList (own found)))
          newValue := some (", ".intercalate
            (changed.map fun found => String.ofList (expansion found)))
          description :=
            "Replaced " ++ toString changed.length ++ " match(es) of /" ++ pattern ++ "/" } := by
  intro characters all gaps own expansion stays changed outcome
  have isCompiled := Regex.isCompiled_of_compile compiled
  have edits := Edit.replaceText_eq context text replacement guard compiled
  refine ⟨Regex.yields_allMatches isCompiled characters, ?gaps, ?bindings, ?none, ?some⟩
  case gaps =>
    have spliced := Edit.splice_ownTexts (Regex.follow_allMatches isCompiled characters)
    rw [Edit.splice_eq_weave, Edit.ownTexts, List.map_map, List.map_map] at spliced
    exact spliced
  case bindings =>
    intro found _ name
    exact Edit.lookup_matchVariables_of_nodup (Regex.nodup_groupNames_of_compile compiled)
      context.bindings characters name
  case none =>
    refine Option.map_eq_none_iff.trans ?_
    rw [edit, edits]
    split
    · rename_i kept
      exact iff_of_true rfl kept
    · rename_i changes
      exact iff_of_false (by simp) changes
  case some =>
    intro next change done
    obtain ⟨edited, made, same⟩ := Option.map_eq_some_iff.mp done
    rw [edit, edits] at made
    split at made
    · cases made
    · obtain rfl := Option.some.inj made
      obtain ⟨rfl, rfl⟩ := Prod.mk.inj same
      exact ⟨rfl, rfl⟩

/-- A pattern that also matches the empty text. -/
private def optionalDigit : String := "(?P<n>[0-9]?)"

private def digitRegex : Regex := (Regex.compile optionalDigit.toList).toOption.getD default

private theorem compile_optionalDigit :
    Regex.compile optionalDigit.toList = .ok digitRegex := by
  obtain ⟨regex, isRegex⟩ := Option.isSome_iff_exists.mp
    (show (Regex.compile optionalDigit.toList).toOption.isSome = true by decide +kernel)
  rw [digitRegex, isRegex, Option.getD_some]
  exact ok_of_toOption isRegex

/-- A match of the only group with a span. -/
private def digitAt (start stop : Nat) : Match :=
  ⟨⟨start, stop⟩, [some ⟨start, stop⟩, some ⟨start, stop⟩]⟩

private theorem allMatches_optionalDigit :
    digitRegex.allMatches "b1a2".toList.toArray = [digitAt 0 0, digitAt 1 2, digitAt 3 4] := by
  have yields : digitRegex.Yields "b1a2".toList.toArray none 0
      [digitAt 0 0, digitAt 1 2, digitAt 3 4] := by
    refine .next ?_ (.next ?_ (.next ?_ (.done ?_)))
    · rw [Regex.findAfter_eq]; decide +kernel
    · rw [Regex.findAfter_eq]; decide +kernel
    · rw [Regex.findAfter_eq]; decide +kernel
    · rw [Regex.findAfter_eq]; decide +kernel
  exact (Regex.yields_allMatches (Regex.isCompiled_of_compile compile_optionalDigit) _).unique
    yields

/-- The second release. -/
private def secondRelease : Context := ⟨"v2", "2026-01-15", [], false, none⟩

/-- Only digits older than the tag. -/
private def olderDigit : VersionGuard := ⟨"n", .ifNewer, .tag⟩

private theorem not_stays_digitAt : ¬ Edit.Stays secondRelease digitRegex "b1a2".toList.toArray
    "\x7btag_without_v\x7d" (some olderDigit) (digitAt 1 2) := by
  decide +kernel

/-- Empty matches and a digit that is not older stay, and the digit between them is replaced. -/
theorem Action.replaceText_replaces_older_digit : ∃ next change,
    (Action.replaceText optionalDigit "\x7btag_without_v\x7d" (some olderDigit)).apply "bump"
      secondRelease "b1a2".toList = some (next, change) ∧
    next = "b2a2".toList ∧ change.oldValue = some "1" ∧ change.newValue = some "2" ∧
    change.description = "Replaced 1 match(es) of /(?P<n>[0-9]?)/" := by
  obtain ⟨-, -, -, kept, shown⟩ := Action.replaceText_replaces_matches "bump" secondRelease
    "b1a2".toList "\x7btag_without_v\x7d" (some olderDigit) compile_optionalDigit
  rw [allMatches_optionalDigit] at kept shown
  have changes : (Action.replaceText optionalDigit "\x7btag_without_v\x7d" (some olderDigit)).apply
      "bump" secondRelease "b1a2".toList ≠ none := fun none =>
    not_stays_digitAt (kept.mp none _ (by simp))
  obtain ⟨⟨next, change⟩, outcome⟩ := Option.ne_none_iff_exists'.mp changes
  obtain ⟨isNext, isChange⟩ := shown next change outcome
  refine ⟨next, change, outcome, isNext.trans ?_, ?_, ?_, ?_⟩
  · decide +kernel
  · rw [isChange]; decide +kernel
  · rw [isChange]; decide +kernel
  · rw [isChange]; decide +kernel

end ReleaseRules
