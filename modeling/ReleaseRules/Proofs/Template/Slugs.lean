import Mathlib.Data.List.DropRight
import ReleaseRules.Proofs.Text.LetterCase
import ReleaseRules.Proofs.Text.Runs
import ReleaseRules.Template.Slug

/-!
Contract: slugs as a normal form of names.

Owns:
- the texts that are slugs: their alphabet and their ends;
- texts that differ in nothing but what their runs of other characters are made of;
- every text is reduced to a slug, slugs stay as they are, and texts of the second kind have the
  same slug.

Does not own: which characters have which lower-case forms.

The reduction keeps in mind one thing about what it has written: whether it ends in a dash. A dash of
the text and the dash of a run cannot be told apart there, so a run behind a dash leaves nothing
itself. What a run leaves depends on this alone, not on its characters or its length.
-/

namespace ReleaseRules.Template

open Unicode (isAsciiCapital lowerAfter lowerChar lowerText)

/-! ## The alphabet -/

/-- The characters that slugs are made of: small letters and digits of ASCII, the dot, the underscore
and the dash. -/
def isReduced (character : Char) : Bool :=
  ('a' ≤ character && character ≤ 'z') || ('0' ≤ character && character ≤ '9') ||
    character = '.' || character = '_' || character = '-'

/-- Slugs: texts of the alphabet without a dash at either end. -/
structure IsSlug (text : List Char) : Prop where
  reduced : ∀ character ∈ text, isReduced character = true
  start : text.head? ≠ some '-'
  stop : text.getLast? ≠ some '-'

theorem isSlugCharacter_eq (character : Char) :
    isSlugCharacter character = (isReduced character || isAsciiCapital character) := by
  rw [isSlugCharacter, isReduced, isAsciiCapital]
  ac_rfl

theorem isSlugCharacter_of_small {character : Char} (small : isAsciiCapital character = false) :
    isSlugCharacter character = isReduced character := by
  rw [isSlugCharacter_eq, small, Bool.or_false]

theorem toNat_of_isReduced {character : Char} (reduced : isReduced character = true) :
    character.toNat < 128 ∧ isAsciiCapital character = false := by
  rw [Bool.eq_false_iff, ne_eq, Unicode.isAsciiCapital_iff]
  simp only [isReduced, Bool.or_eq_true, Bool.and_eq_true, decide_eq_true_eq, Char.le_def,
    UInt32.le_iff_toNat_le] at reduced
  have letters : ('a'.val.toNat = 97 ∧ 'z'.val.toNat = 122) ∧
    '0'.val.toNat = 48 ∧ '9'.val.toNat = 57 := by decide
  rcases reduced with (((letter | digit) | rfl) | rfl) | rfl
  · show character.val.toNat < 128 ∧ ¬ (65 ≤ character.val.toNat ∧ character.val.toNat ≤ 90)
    omega
  · show character.val.toNat < 128 ∧ ¬ (65 ≤ character.val.toNat ∧ character.val.toNat ≤ 90)
    omega
  · decide
  · decide
  · decide

theorem lowerChar_of_isReduced {character : Char} (reduced : isReduced character = true) :
    lowerChar character = [character] :=
  Unicode.lowerChar_of_ascii (toNat_of_isReduced reduced).1 (toNat_of_isReduced reduced).2

theorem flatMap_lowerChar_of_isReduced {text : List Char}
    (reduced : ∀ character ∈ text, isReduced character = true) :
    text.flatMap lowerChar = text := by
  induction text with
  | nil => rfl
  | cons first rest inductionHypothesis =>
      have later := inductionHypothesis fun character member =>
        reduced character (List.mem_cons_of_mem first member)
      rw [List.flatMap_cons, lowerChar_of_isReduced (reduced first List.mem_cons_self), later]
      rfl

theorem not_isAsciiCapital_of_mem_flatMap_lowerChar {text : List Char} {lowered : Char}
    (member : lowered ∈ text.flatMap lowerChar) : isAsciiCapital lowered = false := by
  obtain ⟨character, -, inForm⟩ := List.mem_flatMap.mp member
  exact Unicode.not_isAsciiCapital_of_mem_lowerChar inForm

/-! ## Dashes at the ends -/

section Ends

variable {character : Char} {text : List Char}

theorem dropWhile_of_head? (other : text.head? ≠ some character) :
    text.dropWhile (· = character) = text := by
  cases text with
  | nil => rfl
  | cons first rest =>
      apply List.dropWhile_cons_of_neg
      simpa using other

theorem trimCharacter_of_ends (start : text.head? ≠ some character)
    (stop : text.getLast? ≠ some character) : Text.trimCharacter character text = text := by
  rw [Text.trimCharacter, dropWhile_of_head? start, dropWhile_of_head?, List.reverse_reverse]
  rwa [List.head?_reverse]

theorem head?_dropWhile_ne (character : Char) (text : List Char) :
    (text.dropWhile (· = character)).head? ≠ some character := by
  intro first
  have stops := Text.stops_dropWhile (· = character) text
  rw [first] at stops
  simp at stops

theorem trimCharacter_prefix_dropWhile (character : Char) (text : List Char) :
    Text.trimCharacter character text <+: text.dropWhile (· = character) :=
  List.rdropWhile_prefix (· = character) _

theorem head?_trimCharacter_ne (character : Char) (text : List Char) :
    (Text.trimCharacter character text).head? ≠ some character := by
  have atStart := head?_dropWhile_ne character text
  obtain ⟨back, whole⟩ := trimCharacter_prefix_dropWhile character text
  rw [← whole] at atStart
  cases left : Text.trimCharacter character text with
  | nil => nofun
  | cons first rest =>
      rw [left] at atStart
      exact atStart

theorem getLast?_trimCharacter_ne (character : Char) (text : List Char) :
    (Text.trimCharacter character text).getLast? ≠ some character := by
  rw [Text.trimCharacter, List.getLast?_reverse]
  exact head?_dropWhile_ne character _

theorem trimCharacter_subset (character : Char) (text : List Char) :
    Text.trimCharacter character text ⊆ text :=
  ((trimCharacter_prefix_dropWhile character text).sublist.trans
    (List.dropWhile_suffix _).sublist).subset

end Ends

/-! ## Squashed runs -/

/-- What is squashed has nothing in it but slug characters of the text and dashes. -/
theorem isSlugCharacter_of_mem_squash {dashed : Bool} {text : List Char} {character : Char}
    (member : character ∈ squash dashed text) :
    (character ∈ text ∧ isSlugCharacter character = true) ∨ character = '-' := by
  induction text generalizing dashed with
  | nil => cases member
  | cons first rest inductionHypothesis =>
      have behind {state : Bool} (later : character ∈ squash state rest) :
          (character ∈ first :: rest ∧ isSlugCharacter character = true) ∨ character = '-' := by
        rcases inductionHypothesis later with ⟨inRest, kept⟩ | dash
        · exact .inl ⟨List.mem_cons_of_mem first inRest, kept⟩
        · exact .inr dash
      rw [squash] at member
      split at member
      · rename_i kept
        rcases List.mem_cons.mp member with rfl | later
        · exact .inl ⟨List.mem_cons_self, kept⟩
        · exact behind later
      · split at member
        · exact behind member
        · rcases List.mem_cons.mp member with dash | later
          · exact .inr dash
          · exact behind later

theorem squash_of_isSlugCharacter {text : List Char}
    (kept : ∀ character ∈ text, isSlugCharacter character = true) (dashed : Bool) :
    squash dashed text = text := by
  induction text generalizing dashed with
  | nil => rfl
  | cons first rest inductionHypothesis =>
      have later := inductionHypothesis fun character member =>
        kept character (List.mem_cons_of_mem first member)
      rw [squash, if_pos (kept first List.mem_cons_self), later]

/-- A run behind a dash leaves nothing. -/
theorem squash_true_append {run : List Char}
    (outside : ∀ character ∈ run, isSlugCharacter character = false) (text : List Char) :
    squash true (run ++ text) = squash true text := by
  induction run with
  | nil => rfl
  | cons first rest inductionHypothesis =>
      have other : ¬ isSlugCharacter first = true := by
        simp [outside first List.mem_cons_self]
      rw [List.cons_append, squash, if_neg other, if_pos rfl]
      exact inductionHypothesis fun character member =>
        outside character (List.mem_cons_of_mem first member)

/-- A run leaves one dash, or none behind another dash. -/
theorem squash_append {run : List Char} (nonempty : run ≠ [])
    (outside : ∀ character ∈ run, isSlugCharacter character = false) (dashed : Bool)
    (text : List Char) :
    squash dashed (run ++ text) = (if dashed then [] else ['-']) ++ squash true text := by
  obtain ⟨first, rest, rfl⟩ := List.exists_cons_of_ne_nil nonempty
  have other : ¬ isSlugCharacter first = true := by
    simp [outside first List.mem_cons_self]
  have later := squash_true_append (fun character member =>
    outside character (List.mem_cons_of_mem first member)) text
  rw [List.cons_append, squash, if_neg other, later]
  cases dashed with
  | true => rfl
  | false => rfl

/-- Texts that differ only in their runs of characters outside of the alphabet: which characters these
are, and how many. -/
inductive SameRuns : List Char → List Char → Prop where
  | nil : SameRuns [] []
  | kept {character : Char} {text other : List Char} (reduced : isReduced character = true)
      (later : SameRuns text other) : SameRuns (character :: text) (character :: other)
  | run {run otherRun text other : List Char} (nonempty : run ≠ []) (otherNonempty : otherRun ≠ [])
      (outside : ∀ character ∈ run, isReduced character = false)
      (otherOutside : ∀ character ∈ otherRun, isReduced character = false)
      (later : SameRuns text other) : SameRuns (run ++ text) (otherRun ++ other)

/-- Without capital letters, texts with the same runs are squashed to the same text. -/
theorem SameRuns.squash_eq {text other : List Char} (same : SameRuns text other)
    (small : ∀ character ∈ text, isAsciiCapital character = false)
    (otherSmall : ∀ character ∈ other, isAsciiCapital character = false) (dashed : Bool) :
    squash dashed text = squash dashed other := by
  induction same generalizing dashed with
  | nil => rfl
  | @kept character text other reduced _ inductionHypothesis =>
      have slug : isSlugCharacter character = true := by
        rw [isSlugCharacter_eq, reduced, Bool.true_or]
      have later := inductionHypothesis
        (fun character member => small character (List.mem_cons_of_mem _ member))
        (fun character member => otherSmall character (List.mem_cons_of_mem _ member))
      rw [squash, squash, if_pos slug, if_pos slug, later]
  | @run run otherRun text other nonempty otherNonempty outside otherOutside _ inductionHypothesis =>
      have later := inductionHypothesis
        (fun character member => small character (List.mem_append_right _ member))
        (fun character member => otherSmall character (List.mem_append_right _ member))
      rw [squash_append nonempty, squash_append otherNonempty, later]
      · intro character member
        rw [isSlugCharacter_of_small (otherSmall character (List.mem_append_left _ member))]
        exact otherOutside character member
      · intro character member
        rw [isSlugCharacter_of_small (small character (List.mem_append_left _ member))]
        exact outside character member

/-! ## Lower-casing of whole texts -/

theorem squash_append_congr {text other : List Char}
    (same : ∀ dashed, squash dashed text = squash dashed other) (front : List Char)
    (dashed : Bool) : squash dashed (front ++ text) = squash dashed (front ++ other) := by
  induction front generalizing dashed with
  | nil => exact same dashed
  | cons first rest inductionHypothesis =>
      rw [List.cons_append, List.cons_append, squash, squash]
      simp only [inductionHypothesis]

/-- Lower-casing a whole text is as good as lower-casing its characters: the small sigma that it may
choose otherwise is outside of the alphabet. -/
theorem squash_lowerAfter (before text : List Char) (dashed : Bool) :
    squash dashed (lowerAfter before text) = squash dashed (text.flatMap lowerChar) := by
  induction text generalizing before dashed with
  | nil => rfl
  | cons character rest inductionHypothesis =>
      rw [lowerAfter, List.flatMap_cons]
      split
      · rename_i sigma
        have leaves {small : Char} (outside : isSlugCharacter small = false) :
            squash dashed ([small] ++ lowerAfter (character :: before) rest) =
              (if dashed then [] else ['-']) ++ squash true (rest.flatMap lowerChar) := by
          have alone : ∀ other ∈ [small], isSlugCharacter other = false := by simpa using outside
          rw [squash_append (List.cons_ne_nil _ _) alone, inductionHypothesis]
        have form : ∀ other ∈ ['\u03C3'], isSlugCharacter other = false :=
          List.forall_mem_singleton.mpr (by decide)
        rw [sigma, Unicode.lowerChar_capitalSigma, squash_append (List.cons_ne_nil _ _) form,
          ← sigma]
        split
        · exact leaves (by decide)
        · exact leaves (by decide)
      · exact squash_append_congr (inductionHypothesis (character :: before)) _ dashed

theorem slug_eq_of_lowerText (text : List Char) :
    slug text = Text.trimCharacter '-' (squash false (lowerText text)) := by
  rw [slug, lowerText, squash_lowerAfter]

/-! ## The normal form -/

theorem isSlug_slug (text : List Char) : IsSlug (slug text) := by
  refine ⟨?_, head?_trimCharacter_ne '-' _, getLast?_trimCharacter_ne '-' _⟩
  intro character member
  rcases isSlugCharacter_of_mem_squash (trimCharacter_subset '-' _ member) with
    ⟨inLowered, kept⟩ | rfl
  · rwa [isSlugCharacter_of_small
      (not_isAsciiCapital_of_mem_flatMap_lowerChar inLowered)] at kept
  · decide

theorem IsSlug.slug_eq {text : List Char} (isSlug : IsSlug text) : slug text = text := by
  have kept : ∀ character ∈ text, isSlugCharacter character = true := by
    intro character member
    rw [isSlugCharacter_eq, isSlug.reduced character member, Bool.true_or]
  rw [slug, flatMap_lowerChar_of_isReduced isSlug.reduced, squash_of_isSlugCharacter kept,
    trimCharacter_of_ends isSlug.start isSlug.stop]

theorem SameRuns.slug_eq {text other : List Char}
    (same : SameRuns (text.flatMap lowerChar) (other.flatMap lowerChar)) :
    slug text = slug other := by
  rw [slug, slug, same.squash_eq]
  · intro character member
    exact not_isAsciiCapital_of_mem_flatMap_lowerChar member
  · intro character member
    exact not_isAsciiCapital_of_mem_flatMap_lowerChar member

theorem SameRuns.slug_eq_of_lowerText {text other : List Char}
    (same : SameRuns (lowerText text) (lowerText other)) : slug text = slug other := by
  rw [Template.slug_eq_of_lowerText, Template.slug_eq_of_lowerText, same.squash_eq]
  · intro character member
    exact Unicode.not_isAsciiCapital_of_mem_lowerAfter member
  · intro character member
    exact Unicode.not_isAsciiCapital_of_mem_lowerAfter member

/-- **Slugs are a normal form.** The slug of a text is a slug, and it is its own slug; a text is its own
slug exactly if it is one; and texts whose lower-case forms, taken for each character or for the
text as a whole, differ only in what the runs outside of the alphabet are made of have one slug. -/
theorem slug_is_normalForm (text : List Char) :
    IsSlug (slug text) ∧ slug (slug text) = slug text ∧ (slug text = text ↔ IsSlug text) ∧
      ∀ other,
        SameRuns (text.flatMap lowerChar) (other.flatMap lowerChar) ∨
          SameRuns (lowerText text) (lowerText other) → slug text = slug other := by
  refine ⟨isSlug_slug text, (isSlug_slug text).slug_eq, ?_, ?_⟩
  · constructor
    · intro same
      rw [← same]
      exact isSlug_slug text
    · exact IsSlug.slug_eq
  · rintro other (same | same)
    · exact same.slug_eq
    · exact same.slug_eq_of_lowerText

/-- A capital with a dot above is two characters in lower case, and the second one opens a run. -/
theorem slug_of_dotted_capital :
    SameRuns ("\u0130//A\u2026".toList.flatMap lowerChar) ("I A!!".toList.flatMap lowerChar) ∧
      slug "\u0130//A\u2026".toList = slug "I A!!".toList ∧
      slug "I A!!".toList = "i-a".toList := by
  have dotted : "\u0130//A\u2026".toList.flatMap lowerChar =
      'i' :: (['\u0307', '/', '/'] ++ 'a' :: (['\u2026'] ++ [])) := by decide +kernel
  have plain : "I A!!".toList.flatMap lowerChar =
      'i' :: ([' '] ++ 'a' :: (['!', '!'] ++ [])) := by decide +kernel
  have same : SameRuns ("\u0130//A\u2026".toList.flatMap lowerChar)
      ("I A!!".toList.flatMap lowerChar) := by
    rw [dotted, plain]
    apply SameRuns.kept (by decide)
    apply SameRuns.run (by decide) (by decide) (by simp [isReduced]) (by simp [isReduced])
    apply SameRuns.kept (by decide)
    exact SameRuns.run (by decide) (by decide) (by simp [isReduced]) (by simp [isReduced]) .nil
  exact ⟨same, (slug_is_normalForm _).2.2.2 _ (.inl same), by decide +kernel⟩

end ReleaseRules.Template
