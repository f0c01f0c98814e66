import Mathlib.Tactic.ByContra
import ReleaseRules.Proofs.Yaml.NodeScalars
import ReleaseRules.Proofs.Yaml.NumberGuard

/-!
Contract: the spelling of numbers in contents that are rendered.

Owns:
- the plain numbers of a content, with the texts that they are written back as;
- when exactly a content that is rendered has no number with another spelling.

Does not own: what a line guards.
-/

namespace ReleaseRules

namespace Yaml

open Number (integerText)

/-- The value that a plain text resolves to under its tag. -/
def plainScalar (tag : Option String) (text : List Char) : Except ReadError Scalar :=
  match tag with
  | none => .ok (.ofPlain text)
  | some tag => Scalar.underTag tag text

/-- The text that a number is written as; nothing for other scalars. -/
def writtenNumber? : Scalar → Option (List Char)
  | .integer value => some (integerText value)
  | .floating value => some (floatingText value)
  | _ => none

/-- A plain scalar of a content resolves to a number under its tag, if it has one, with its
spelling and the text that the number is written as. -/
def HasPlainNumber (source : List Char) (tag : Option String) (spelling written : List Char) :
    Prop :=
  ∃ node scalar, Node.document source = .ok (some node) ∧
    (tag, .plain, spelling) ∈ node.scalars ∧ plainScalar tag spelling = .ok scalar ∧
    writtenNumber? scalar = some written

/-- Every plain number of a content is spelled as it is written. -/
def SpellsNumbersAsWritten (source : List Char) : Prop :=
  ∀ tag spelling written, HasPlainNumber source tag spelling written → spelling = written

/-- Some line of a content guards a number with another spelling. -/
def GuardsNumber (source : List Char) : Prop :=
  ∃ line ∈ Text.splitAt '\n' source, ∃ number, Guards line number ∧ IsRespelled number

/-- A plain number without a tag is one for the guard too. -/
theorem writtenBack?_of_hasPlainNumber {source spelling written : List Char} {root : Tree}
    (read : Document.readTree source .yaml = .ok root)
    (number : HasPlainNumber source none spelling written) :
    writtenBack? spelling = some written := by
  obtain ⟨node, scalar, isDocument, member, resolved, isWritten⟩ := number
  obtain rfl : Scalar.ofPlain spelling = scalar := Except.ok.inj resolved
  obtain ⟨held, isHeld⟩ := ofScalar_of_readTree read isDocument member
  rw [Scalar.ofStyle, if_pos rfl] at isHeld
  unfold writtenBack?
  cases shown : Scalar.ofPlain spelling with
  | integer value =>
      rw [shown] at isHeld isWritten
      have exact : exactInteger value = true := by
        rw [Value.ofScalar] at isHeld
        split at isHeld
        · assumption
        · cases isHeld
      simpa [exact, writtenNumber?] using isWritten
  | floating value =>
      rw [shown] at isWritten
      exact isWritten
  | _ => simp [shown, writtenNumber?] at isWritten

end Yaml

namespace Document

open ReleaseRules.Yaml (GuardsNumber SpellsNumbersAsWritten HasPlainNumber)

/-- A content in YAML is rendered exactly if no line guards a number with another spelling. -/
theorem exists_render_iff {source : List Char} {root : Tree} :
    (∃ rendered, (⟨root, .yaml, Layout.detect source .yaml⟩ : Document).render = .ok rendered) ↔
      ¬ GuardsNumber source := by
  have silent : Yaml.lossyNumber? source = none ↔ ¬ GuardsNumber source := by
    rw [Yaml.lossyNumber?_eq_none_iff]
    simp only [GuardsNumber, not_exists, not_and]
  have layout : (Layout.detect source .yaml).lossyNumber = Yaml.lossyNumber? source := rfl
  rw [← silent, render, layout]
  cases Yaml.lossyNumber? source with
  | none => simp
  | some number => simp

/-- **Spelling of numbers.** In a content in YAML that is rendered, every plain number without a
tag that some line guards is spelled as it is written. All plain numbers are so exactly if they are
spelled as they are written in the first place, or some line guards a number that is not, so that
nothing is rendered. -/
theorem render_keeps_spelling {source : List Char} {document : Document}
    (parsed : parseAs source .yaml = .ok document) :
    ((∃ rendered, document.render = .ok rendered) →
      ∀ line ∈ Text.splitAt '\n' source, ∀ spelling written, Yaml.Guards line spelling →
        HasPlainNumber source none spelling written → spelling = written) ∧
    (((∃ rendered, document.render = .ok rendered) → SpellsNumbersAsWritten source) ↔
      SpellsNumbersAsWritten source ∨ GuardsNumber source) := by
  obtain ⟨root, read, isDocument⟩ := ok_of_bind parsed
  obtain rfl := Except.ok.inj isDocument
  rw [exists_render_iff]
  refine ⟨fun silent line member spelling written guards number => ?_, ?_⟩
  · by_contra differs
    exact silent ⟨line, member, spelling, guards, written,
      Yaml.writtenBack?_of_hasPlainNumber read number, differs⟩
  · by_cases guarded : GuardsNumber source
    · exact iff_of_true (fun silent => absurd guarded silent) (.inr guarded)
    · exact ⟨fun spells => .inl (spells guarded),
        fun either _ => either.resolve_right guarded⟩

/-- A number with another spelling at the end of a line behind a colon is not rendered. -/
theorem padded_number_at_line_end_is_kept :
    ∃ document, parseAs ['a', ':', ' ', '3', '.', '1', '0', '\n'] .yaml = .ok document ∧
      ((∃ rendered, document.render = .ok rendered) →
        SpellsNumbersAsWritten ['a', ':', ' ', '3', '.', '1', '0', '\n']) := by
  have read :
      (readTree ['a', ':', ' ', '3', '.', '1', '0', '\n'] .yaml).toOption.isSome = true := by
    decide +kernel
  obtain ⟨root, isRoot⟩ := Option.isSome_iff_exists.mp read
  have parsed := parseAs_of_readTree (ok_of_toOption isRoot)
  have guards : Yaml.Guards ['a', ':', ' ', '3', '.', '1', '0'] ['3', '.', '1', '0'] :=
    Yaml.numberOfLine?_eq_some_iff.mp (by decide)
  have respelled : Yaml.IsRespelled ['3', '.', '1', '0'] := Yaml.isLossy_iff.mp (by decide +kernel)
  exact ⟨_, parsed, (render_keeps_spelling parsed).2.mpr
    (.inr ⟨_, by decide, _, guards, respelled⟩)⟩

/-- Behind a carriage return the line does not end for the guard, so the same number is rendered
in another spelling. -/
theorem padded_number_before_carriage_return_is_respelled :
    ¬ ∀ (source : List Char) (document : Document), parseAs source .yaml = .ok document →
      (∃ rendered, document.render = .ok rendered) → SpellsNumbersAsWritten source := by
  intro spells
  have read : (readTree ['a', ':', ' ', '3', '.', '1', '0', '\r', '\n'] .yaml).toOption.isSome =
      true := by
    decide +kernel
  obtain ⟨root, isRoot⟩ := Option.isSome_iff_exists.mp read
  have parsed := parseAs_of_readTree (ok_of_toOption isRoot)
  have silent : Yaml.lossyNumber? ['a', ':', ' ', '3', '.', '1', '0', '\r', '\n'] = none := by
    decide +kernel
  have rendered : ∃ text, (⟨root, .yaml, Layout.detect
      ['a', ':', ' ', '3', '.', '1', '0', '\r', '\n'] .yaml⟩ : Document).render = .ok text := by
    simp [render, Layout.detect, silent]
  have member : ((Yaml.Node.document
      ['a', ':', ' ', '3', '.', '1', '0', '\r', '\n']).toOption.bind id).any (fun node =>
        node.scalars.contains (none, .plain, ['3', '.', '1', '0'])) = true := by
    decide +kernel
  obtain ⟨node, isNode, inNode⟩ := (Option.any_eq_true _ _).mp member
  obtain ⟨document, isDocument, isSome⟩ := Option.bind_eq_some_iff.mp isNode
  obtain rfl : document = some node := isSome
  have written : HasPlainNumber ['a', ':', ' ', '3', '.', '1', '0', '\r', '\n']
      none ['3', '.', '1', '0'] ['3', '.', '1'] :=
    ⟨node, .ofPlain ['3', '.', '1', '0'], ok_of_toOption isDocument,
      List.contains_iff_mem.mp inNode, rfl, by decide +kernel⟩
  exact absurd (spells _ _ parsed rendered _ _ _ written) (by decide)

end Document

end ReleaseRules
