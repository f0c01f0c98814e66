import ReleaseRules.Proofs.Version.Written
import ReleaseRules.Rules.Context

/-!
Contract: the grammar of versions.

Owns:
- the spellings of a version, and the version that a spelling denotes;
- a text is read as a version exactly if it spells this version;
- the text of a version, and the tag of a release without its mark.

Does not own: the order of versions, and versions inside of other texts.
-/

namespace ReleaseRules.Version

open ReleaseRules.Unicode (isBlank IsTight)

/-- A spelling of a version: one to three components with dots between them, behind a mark or none,
with white space around. A component is a run of ASCII digits whose number is below the bound. -/
structure Spelling where
  before : List Char
  mark : List Char
  first : List Char
  others : List (List Char)
  behind : List Char
  blank_before : ∀ character ∈ before, isBlank character = true
  mark_cases : mark = [] ∨ mark = ['v'] ∨ mark = ['V']
  written : ∀ piece ∈ first :: others, isWrittenComponent piece = true
  few : others.length ≤ 2
  blank_behind : ∀ character ∈ behind, isBlank character = true

namespace Spelling

variable (spelling : Spelling)

/-- The components with dots between them. -/
def body : List Char := spelling.first ++ spelling.others.flatMap ('.' :: ·)

/-- The text that a spelling is. -/
def text : List Char :=
  spelling.before ++ (spelling.mark ++ spelling.body ++ spelling.behind)

/-- The number of a component behind the first one; a missing one is zero. -/
def componentAt (index : Nat) : Nat :=
  (spelling.others[index]?).elim 0 (Nat.ofDigitChars 10 · 0)

/-- The version that a spelling denotes. -/
def version : Version :=
  ⟨Nat.ofDigitChars 10 spelling.first 0, spelling.componentAt 0, spelling.componentAt 1⟩

theorem splitAt_body : Text.splitAt '.' spelling.body = spelling.first :: spelling.others := by
  apply Text.splitAt_flatMap
  intro piece member dot
  have written := spelling.written piece member
  simp only [isWrittenComponent, Bool.and_eq_true, List.all_eq_true] at written
  cases written.1.2 '.' dot

theorem isWritten_body : isWritten spelling.body = true := by
  rw [isWritten, splitAt_body, List.all_eq_true.mpr spelling.written, Bool.and_true]
  exact decide_eq_true (Nat.succ_le_succ spelling.few)

/-- Neither the mark nor the components have white space in them. -/
theorem isBlank_of_mem {character : Char}
    (member : character ∈ spelling.mark ++ spelling.body) : isBlank character = false := by
  rcases List.mem_append.mp member with inMark | inBody
  · rcases spelling.mark_cases with none | lower | upper
    · simp [none] at inMark
    · obtain rfl := List.mem_singleton.mp (lower ▸ inMark)
      decide
    · obtain rfl := List.mem_singleton.mp (upper ▸ inMark)
      decide
  · exact (isBlank_of_isVersionCharacter
      (isVersionCharacter_of_mem spelling.isWritten_body inBody)).1

theorem withoutMark_append (behind : List Char) :
    withoutMark (spelling.mark ++ spelling.body ++ behind) = spelling.body ++ behind := by
  rcases spelling.mark_cases with none | lower | upper
  · -- The first component starts with a digit, which is no mark.
    obtain ⟨first, rest, shown⟩ : ∃ first rest, spelling.body = first :: rest := by
      apply List.exists_cons_of_ne_nil
      intro empty
      have written := spelling.isWritten_body
      rw [empty] at written
      cases written
    have digit := isBlank_of_isVersionCharacter
      (isVersionCharacter_of_mem spelling.isWritten_body (shown ▸ List.mem_cons_self))
    rw [none, shown, List.nil_append, List.cons_append]
    unfold withoutMark
    split
    · rename_i isMark
      exact absurd (List.cons.inj isMark).1 digit.2.1
    · rename_i isMark
      exact absurd (List.cons.inj isMark).1 digit.2.2
    · rfl
  · rw [lower]
    rfl
  · rw [upper]
    rfl

/-- A spelling is read as the version that it denotes. -/
theorem parse?_text : parse? spelling.text = some spelling.version := by
  have tight : IsTight (spelling.mark ++ spelling.body) :=
    .of_noBlank fun character member => spelling.isBlank_of_mem member
  have trimmed : Unicode.trim spelling.text = spelling.mark ++ spelling.body := by
    rw [text, Unicode.trim_append_of_isBlank spelling.blank_before,
      tight.trim_append spelling.blank_behind]
  have bare : withoutMark (spelling.mark ++ spelling.body) = spelling.body := by
    simpa using spelling.withoutMark_append []
  have components : components? (spelling.first :: spelling.others) =
      some ((spelling.first :: spelling.others).map (Nat.ofDigitChars 10 · 0)) :=
    components?_eq_some_iff.mpr ⟨List.all_eq_true.mpr spelling.written, rfl⟩
  rw [parse?, trimmed, bare, splitAt_body, components, Option.bind_some, version, componentAt,
    componentAt]
  have few := spelling.few
  generalize spelling.others = others at few
  cases others with
  | nil => rfl
  | cons minor rest =>
      cases rest with
      | nil => rfl
      | cons patch more =>
          rw [List.length_cons, List.length_cons] at few
          obtain rfl : more = [] := List.eq_nil_of_length_eq_zero (by omega)
          rfl

/-- The components of a spelling, without mark and white space, as a spelling. -/
def bare : Spelling :=
  { spelling with
    before := []
    mark := []
    behind := []
    blank_before := by simp
    mark_cases := .inl rfl
    blank_behind := by simp }

theorem parse?_body : parse? spelling.body = some spelling.version := by
  have shown : spelling.bare.text = spelling.body := List.append_nil _
  rw [← shown]
  exact spelling.bare.parse?_text

end Spelling

/-- A text that is read as a version spells this version. -/
theorem exists_spelling {text : List Char} {version : Version}
    (parsed : parse? text = some version) :
    ∃ spelling : Spelling, spelling.text = text ∧ spelling.version = version := by
  obtain ⟨before, behind, whole, blankBefore, blankBehind⟩ := Unicode.exists_trim text
  obtain ⟨mark, marked, isMark⟩ := exists_withoutMark (Unicode.trim text)
  obtain ⟨values, areValues, made⟩ := Option.bind_eq_some_iff.mp parsed
  obtain ⟨first, others, split⟩ := Text.splitAt_cons '.' (withoutMark (Unicode.trim text))
  rw [split] at areValues
  obtain ⟨written, rfl⟩ := components?_eq_some_iff.mp areValues
  have few := length_of_ofComponents? made
  rw [List.length_map, List.length_cons] at few
  let spelling : Spelling :=
    { before, mark, first, others, behind
      blank_before := blankBefore
      mark_cases := isMark
      written := List.all_eq_true.mp written
      few := Nat.le_of_succ_le_succ few
      blank_behind := blankBehind }
  have same : spelling.text = text := by
    have body : spelling.body = withoutMark (Unicode.trim text) :=
      (Text.eq_append_of_splitAt split).symm
    rw [Spelling.text, body, ← marked]
    exact whole.symm
  have denoted := spelling.parse?_text
  rw [same, parsed] at denoted
  exact ⟨spelling, same, (Option.some.inj denoted).symm⟩

/-! ## Texts of versions -/

theorem isWrittenComponent_digitsOf {value : Nat} (bounded : value < componentBound) :
    isWrittenComponent (Number.digitsOf value) = true := by
  have written : component? (Number.digitsOf value) = some value := by
    rw [component?, Number.natural?_digitsOf]
    exact if_pos bounded
  exact (component?_eq_some_iff.mp written).1

theorem ofDigitChars_digitsOf (value : Nat) : Nat.ofDigitChars 10 (Number.digitsOf value) 0 = value :=
  Nat.ofDigitChars_toDigits (by decide) (by decide)

/-- The text of a version is read as the version. -/
theorem parse?_text {version : Version} (major : version.major < componentBound)
    (minor : version.minor < componentBound) (patch : version.patch < componentBound) :
    parse? version.text = some version := by
  let spelling : Spelling :=
    { before := []
      mark := []
      first := Number.digitsOf version.major
      others := [Number.digitsOf version.minor, Number.digitsOf version.patch]
      behind := []
      blank_before := by simp
      mark_cases := .inl rfl
      written := by
        simp [isWrittenComponent_digitsOf major, isWrittenComponent_digitsOf minor,
          isWrittenComponent_digitsOf patch]
      few := Nat.le_refl 2
      blank_behind := by simp }
  have shown : spelling.text = version.text := by
    simp [spelling, Spelling.text, Spelling.body, text]
  have denoted : spelling.version = version := by
    simp [spelling, Spelling.version, Spelling.componentAt, ofDigitChars_digitsOf]
  rw [← shown, spelling.parse?_text, denoted]

/-! ## Tags -/

/-- A spelling without its mark. -/
def Spelling.unmarked (spelling : Spelling) : Spelling :=
  { spelling with mark := [], mark_cases := .inl rfl }

/-- Without the mark in front, a spelling is left without its mark, or as it is because white space
stands in front of the mark. -/
theorem Spelling.withoutMark_text (spelling : Spelling) :
    withoutMark spelling.text = spelling.unmarked.text ∨
      withoutMark spelling.text = spelling.text := by
  cases front : spelling.before with
  | nil =>
      left
      have bare := spelling.withoutMark_append spelling.behind
      rw [text, front, List.nil_append, bare, text]
      simp [unmarked, front, body]
  | cons first rest =>
      right
      have blank := spelling.blank_before first (front ▸ List.mem_cons_self)
      rw [text, front, List.cons_append]
      unfold withoutMark
      split
      · rename_i isMark
        obtain rfl := (List.cons.inj isMark).1
        cases blank
      · rename_i isMark
        obtain rfl := (List.cons.inj isMark).1
        cases blank
      · rfl

/-- A text without a mark in front is read as the same version. -/
theorem parse?_withoutMark {tag : List Char} {version : Version}
    (parsed : parse? tag = some version) : parse? (withoutMark tag) = some version := by
  obtain ⟨spelling, rfl, rfl⟩ := exists_spelling parsed
  rcases spelling.withoutMark_text with bare | same
  · rw [bare]
    exact spelling.unmarked.parse?_text
  · rw [same]
    exact spelling.parse?_text

/-- A written version behind a mark, or alone, is a spelling. -/
theorem exists_spelling_of_mark {mark text : List Char}
    (isMark : mark = [] ∨ mark = ['v'] ∨ mark = ['V']) (written : isWritten text = true) :
    ∃ spelling : Spelling, spelling.text = mark ++ text ∧ spelling.body = text := by
  obtain ⟨first, others, split⟩ := Text.splitAt_cons '.' text
  rw [isWritten, split, Bool.and_eq_true, decide_eq_true_eq, List.all_eq_true] at written
  let spelling : Spelling :=
    { before := []
      mark
      first
      others
      behind := []
      blank_before := by simp
      mark_cases := isMark
      written := written.2
      few := Nat.le_of_succ_le_succ written.1
      blank_behind := by simp }
  have body : spelling.body = text := (Text.eq_append_of_splitAt split).symm
  refine ⟨spelling, ?_, body⟩
  rw [Spelling.text, body]
  exact List.append_nil _

/-- A written version is read as a version. -/
theorem parse?_isSome_of_isWritten {text : List Char} (written : isWritten text = true) :
    (parse? text).isSome = true := by
  obtain ⟨spelling, -, rfl⟩ := exists_spelling_of_mark (.inl rfl) written
  rw [spelling.parse?_body]
  rfl

/-- A tag is read as the version behind its mark. -/
theorem parse?_of_isReleaseTag {tag : List Char} (isTag : isReleaseTag tag = true) :
    parse? tag = parse? (withoutMark tag) := by
  obtain ⟨mark, marked, isMark⟩ := exists_withoutMark tag
  obtain ⟨spelling, whole, bare⟩ := exists_spelling_of_mark isMark isTag
  rw [← bare, spelling.parse?_body, ← spelling.parse?_text, whole, ← marked]

/-- A text that is read as a version is a written version, but for white space at both ends and a
mark in front. -/
theorem exists_written_of_parse? {text : List Char} {version : Version}
    (parsed : parse? text = some version) :
    ∃ before body behind, text = before ++ (body ++ behind) ∧ isWritten body = true ∧
      parse? body = some version ∧
      (∀ character ∈ before, isBlank character = true ∨ character = 'v' ∨ character = 'V') ∧
      ∀ character ∈ behind, isBlank character = true := by
  obtain ⟨spelling, rfl, rfl⟩ := exists_spelling parsed
  refine ⟨spelling.before ++ spelling.mark, spelling.body, spelling.behind, ?_,
    spelling.isWritten_body, spelling.parse?_body, ?_, spelling.blank_behind⟩
  · simp [Spelling.text]
  · intro character member
    rcases List.mem_append.mp member with inFront | inMark
    · exact .inl (spelling.blank_before character inFront)
    · rcases spelling.mark_cases with none | lower | upper
      · simp [none] at inMark
      · exact .inr (.inl (List.mem_singleton.mp (lower ▸ inMark)))
      · exact .inr (.inr (List.mem_singleton.mp (upper ▸ inMark)))

/-- **The grammar of versions.** A text is read as a version exactly if it is a spelling of this
version: within white space, one `v` of either case or none, and one to three components with dots
between them, each of them digits of a number below the bound; missing components are zero. The
text of a version is read as the version, and a tag without its mark as the version of the tag. -/
theorem accepts_exactly_spellings :
    (∀ text version, parse? text = some version ↔
      ∃ spelling : Spelling, spelling.text = text ∧ spelling.version = version) ∧
    (∀ version : Version, version.major < componentBound → version.minor < componentBound →
      version.patch < componentBound → parse? version.text = some version) ∧
    ∀ (context : Context) (version : Version), parse? context.tag.toList = some version →
      parse? context.tagWithoutMark.toList = some version := by
  refine ⟨?spellings, ?texts, ?tags⟩
  case spellings =>
    intro text version
    constructor
    · exact exists_spelling
    · rintro ⟨spelling, rfl, rfl⟩
      exact spelling.parse?_text
  case texts =>
    intro version major minor patch
    exact parse?_text major minor patch
  case tags =>
    intro context version parsed
    rw [Context.tagWithoutMark, String.toList_ofList]
    exact parse?_withoutMark parsed

/-- Zeros in front, the greatest component, and white space in front of a mark. -/
theorem accepts_greatest_component_behind_zeros :
    (∃ spelling : Spelling, spelling.text = "\tV007.18446744073709551615 ".toList ∧
      spelling.version = ⟨7, 18446744073709551615, 0⟩) ∧
    parse? (text ⟨0, 18446744073709551615, 10⟩) = some ⟨0, 18446744073709551615, 10⟩ ∧
    parse? (Context.tagWithoutMark ⟨" v1.2", "2026-01-15", [], false, none⟩).toList =
      some ⟨1, 2, 0⟩ := by
  obtain ⟨spellings, texts, tags⟩ := accepts_exactly_spellings
  refine ⟨(spellings _ _).mp rfl, texts _ ?_ ?_ ?_, tags _ _ rfl⟩
  · decide
  · decide
  · decide

end ReleaseRules.Version
