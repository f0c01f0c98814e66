import ReleaseRules.Proofs.Document.Reading
import ReleaseRules.Proofs.Document.Shape
import ReleaseRules.Proofs.Yaml.FinalTexts
import ReleaseRules.Proofs.Yaml.LastTokens
import ReleaseRules.Proofs.Yaml.NodeReading

/-!
Contract: YAML documents from texts without a final newline.

Owns:
- which trees lose line feeds when they are rendered without a final newline;
- that no other tree changes.

Does not own: that written trees are read back at all.
-/

namespace ReleaseRules.Document

open Yaml (Node nodeOf withoutFeeds finalText? lastText)

/-- Whether a tree ends with a text that is written as a literal scalar and ends with a line
feed. -/
def losesFinalFeeds (tree : Tree) : Bool :=
  (finalText? tree).any fun text =>
    decide (Yaml.styleOf text.toList = .literal) && text.toList.getLast? == some '\n'

theorem withoutFeeds_of_losesFinalFeeds {tree : Tree} (keeps : losesFinalFeeds tree = false) :
    withoutFeeds (nodeOf tree) = nodeOf tree := by
  refine Yaml.withoutFeeds_nodeOf tree fun text final => ?_
  rw [losesFinalFeeds, final, Option.any_some] at keeps
  rw [lastText]
  split
  · rename_i literal
    refine withoutFinalNewlines_of_getLast? fun last => ?_
    simp [literal, last] at keeps
  · rfl

/-! ## Reading -/

/-- A text is read as its document is. -/
theorem value_of_document {text : List Char} {node : Node}
    (read : Node.document text = .ok (some node)) :
    Yaml.Value.read text = Yaml.Value.ofContent (Yaml.Content.ofNode node) := by
  simp [Yaml.Value.read, Yaml.Content.read, read, bind, Except.bind, pure, Except.pure]

theorem readTree_congr {left right : List Char}
    (same : Yaml.Value.read left = Yaml.Value.read right) :
    readTree left .yaml = readTree right .yaml := by
  rw [readTree, readTree, same]

/-- A text is read as a tree by way of a value. -/
theorem value_of_readTree {text : List Char} {tree : Tree}
    (read : readTree text .yaml = .ok tree) :
    ∃ value, Yaml.Value.read text = .ok value ∧ value.toTree = .ok tree := by
  rw [readTree] at read
  cases found : Yaml.Value.read text with
  | error reason => simp [found] at read
  | ok value =>
      rw [found] at read
      exact ⟨value, rfl, mapError_eq_ok_iff.mp read⟩

/-- A text that is read has no forbidden characters. -/
theorem isAllowed_of_readTree {text : List Char} {tree : Tree}
    (read : readTree text .yaml = .ok tree) :
    ∀ character ∈ text, Yaml.isAllowed character = true := by
  obtain ⟨value, read, -⟩ := value_of_readTree read
  obtain ⟨content, read, -⟩ := ok_of_bind read
  obtain ⟨node, read, -⟩ := ok_of_bind read
  obtain ⟨tokens, read, -⟩ := ok_of_bind read
  rw [Yaml.tokens] at read
  split at read
  · cases read
  · rename_i noOther
    simpa using noOther

/-! ## Rendering -/

/-- The text of a document whose source has no final newline. -/
theorem render_unended {source text : List Char} {original : Document} {root : Tree}
    (parsed : parseAs source .yaml = .ok original) (unended : source.getLast? ≠ some '\n')
    (rendered : ({ original with root := root } : Document).render = .ok text) :
    text = withoutFinalNewlines (Yaml.write root) := by
  obtain ⟨tree, -, parsed⟩ := ok_of_bind parsed
  cases parsed
  rw [render] at rendered
  split at rendered
  · cases rendered
  · have ends : (Layout.detect source .yaml).finalNewline = false := by
      simpa [Layout.detect] using unended
    rw [ends] at rendered
    exact (Except.ok.inj rendered).symm

/-- What is rendered without a final newline is read as the node that has lost the line feeds of
its last text. -/
theorem value_withoutFinalNewlines (entries : List (String × Tree))
    (allowed : ∀ character ∈ Yaml.write (.map entries), Yaml.isAllowed character = true) :
    Yaml.Value.read (withoutFinalNewlines (Yaml.write (.map entries))) =
      Yaml.Value.ofContent (Yaml.Content.ofNode (withoutFeeds (nodeOf (.map entries)))) :=
  value_of_document (Yaml.document_of_tokens
    (Yaml.isBare_withoutFeeds _ (Yaml.isBare_nodeOf (.map entries)))
    (Yaml.tokens_withoutFinalNewlines entries allowed))

/-- A tree that is read from a node whose last literal text has lost its line feeds ends with
this text, so if it is the written tree, there was nothing to lose. -/
theorem finalText_of_readTree {text : List Char} {tree : Tree} {last : String}
    (shortened : Yaml.Value.read text =
      Yaml.Value.ofContent (Yaml.Content.ofNode (withoutFeeds (nodeOf tree))))
    (same : readTree text .yaml = .ok tree) (final : finalText? tree = some last)
    (literal : Yaml.styleOf last.toList = .literal) :
    last.toList = withoutFinalNewlines last.toList := by
  obtain ⟨value, read, held⟩ := value_of_readTree same
  rw [shortened] at read
  have scalar := Yaml.finalScalar_withoutFeeds (nodeOf tree) (Yaml.finalScalar_nodeOf tree final)
  have shown := Yaml.finalText_of_node _ _ (withoutFeeds (nodeOf tree))
    (Yaml.isBare_withoutFeeds _ (Yaml.isBare_nodeOf tree)) scalar (by rw [literal]; decide) _ _
    read held
  rw [final, Option.some.injEq, lastText, if_pos literal] at shown
  have kept := congrArg String.toList shown
  rwa [String.toList_ofList] at kept

/-- A document from a text without a final newline is read back as it is, unless it ends with a
literal text that ends with a line feed. -/
theorem readTree_render_iff {source text : List Char} {original : Document}
    {entries : List (String × Tree)} (parsed : parseAs source .yaml = .ok original)
    (unended : source.getLast? ≠ some '\n')
    (undone : readTree (Yaml.write (.map entries)) .yaml = .ok (.map entries))
    (rendered : ({ original with root := .map entries } : Document).render = .ok text) :
    readTree text .yaml = .ok (.map entries) ↔ losesFinalFeeds (.map entries) = false := by
  have allowed := isAllowed_of_readTree undone
  have shortened := value_withoutFinalNewlines entries allowed
  rw [render_unended parsed unended rendered]
  constructor
  · intro same
    rw [losesFinalFeeds]
    cases final : finalText? (.map entries) with
    | none => rfl
    | some last =>
        rw [Option.any_some, Bool.and_eq_false_iff]
        by_cases literal : Yaml.styleOf last.toList = .literal
        · -- What is read ends with the last text without its line feeds, so it has none.
          refine Or.inr ?_
          have kept := finalText_of_readTree shortened same final literal
          rw [beq_eq_false_iff_ne, kept]
          exact getLast?_withoutFinalNewlines last.toList
        · exact Or.inl (decide_eq_false literal)
  · intro keeps
    have whole : Yaml.Value.read (Yaml.write (.map entries)) =
        Yaml.Value.ofContent (Yaml.Content.ofNode (nodeOf (.map entries))) :=
      value_of_document (Yaml.document_of_tokens (Yaml.isBare_nodeOf (.map entries))
        (Yaml.tokens_write entries allowed))
    rw [withoutFeeds_of_losesFinalFeeds keeps] at shortened
    rw [readTree_congr (shortened.trans whole.symm), undone]

/-- A text without a final line feed, which is parsed as YAML. -/
private def unendedSource : List Char := ['a', ':', ' ', '1']

private def unendedDocument (root : Tree) : Document :=
  ⟨root, .yaml, Layout.detect unendedSource .yaml⟩

private theorem parse_unendedSource :
    parseAs unendedSource .yaml =
      .ok (unendedDocument (.map [("a", .number (.integer 1))])) :=
  parseAs_of_readTree (ok_of_toOption (by decide +kernel))

/-- A literal text in front of another value keeps its line feed. -/
theorem literal_before_last_value_is_read_back :
    let entries := [("note", Tree.text "x\n"), ("a", .number (.integer 1))]
    (unendedDocument (.map entries)).render = .ok "note: |\n  x\na: 1".toList ∧
      losesFinalFeeds (.map entries) = false ∧
      readTree "note: |\n  x\na: 1".toList .yaml = .ok (.map entries) := by
  intro entries
  have rendered : (unendedDocument (.map entries)).render = .ok "note: |\n  x\na: 1".toList :=
    ok_of_toOption (by decide +kernel)
  have keeps : losesFinalFeeds (.map entries) = false := by decide +kernel
  exact ⟨rendered, keeps,
    (readTree_render_iff parse_unendedSource (by decide)
      (ok_of_toOption (by decide +kernel)) rendered).mpr keeps⟩

/-- A literal text at the end loses its line feed, although the written text is read back with
it. -/
theorem literal_at_end_is_not_read_back :
    ¬ ∀ (source text : List Char) (original : Document) (entries : List (String × Tree)),
      parseAs source .yaml = .ok original → source.getLast? ≠ some '\n' →
      readTree (Yaml.write (.map entries)) .yaml = .ok (.map entries) →
      ({ original with root := .map entries } : Document).render = .ok text →
      readTree text .yaml = .ok (.map entries) := by
  intro readBack
  have same := readBack ['n', 'o', 't', 'e', ':', ' ', '"', 'x', '\\', 'n', '"']
    "note: |\n  x".toList _ [("note", .text "x\n")]
    (parseAs_of_readTree (ok_of_toOption
      (show _ = some (Tree.map [("note", .text "x\n")]) by decide +kernel)))
    (by decide) (ok_of_toOption (by decide +kernel)) (ok_of_toOption (by decide +kernel))
  have differs : (readTree "note: |\n  x".toList .yaml).toOption ≠
      some (.map [("note", .text "x\n")]) := by decide +kernel
  exact differs (congrArg Except.toOption same)

end ReleaseRules.Document
