import ReleaseRules.Proofs.Document.FinalFeeds
import ReleaseRules.Proofs.Document.Reading
import ReleaseRules.Proofs.Json.RoundTrip
import ReleaseRules.Proofs.Text.WhiteSpace

/-!
Contract: documents in JSON and their texts.

Owns:
- parsing a text that is an object;
- the white space at the ends of a written tree;
- rendering a document, and reading its text.

Does not own: edits of documents, and the layout of a rendered document.
-/

namespace ReleaseRules

namespace Layout

/-- The indent unit of a text is white space and not empty. -/
theorem indentOf_spec {text indent : List Char} (found : indentOf text = some indent) :
    indent ≠ [] ∧ ∀ character ∈ indent, isIndent character = true := by
  unfold indentOf at found
  split at found
  · cases found
  · cases found
  · rename_i lines _ _
    have unit : (((lines.map fun line => line.takeWhile isIndent).find? fun indent =>
        !indent.isEmpty).getD defaultIndent) = indent := by simpa using found
    cases search : (lines.map fun line => line.takeWhile isIndent).find? fun indent =>
        !indent.isEmpty with
    | none =>
        rw [search, Option.getD_none] at unit
        subst unit
        exact ⟨by simp [defaultIndent], by simp [defaultIndent, isIndent]⟩
    | some piece =>
        rw [search, Option.getD_some] at unit
        subst unit
        refine ⟨?_, ?_⟩
        · simpa using List.find?_some search
        · obtain ⟨line, -, rfl⟩ := List.mem_map.mp (List.mem_of_find?_eq_some search)
          exact List.all_eq_true.mp List.all_takeWhile

theorem isSpace_of_isIndent {character : Char} (indent : isIndent character = true) :
    Json.isSpace character = true := by
  have either : character = ' ' ∨ character = '\t' := by simpa [isIndent] using indent
  rcases either with rfl | rfl <;> rfl

theorem indentOf_blank (text : List Char) : Json.isBlankUnit (indentOf text) = true := by
  cases found : indentOf text with
  | none => rfl
  | some indent =>
      simp only [Json.isBlankUnit, Option.all_some, List.all_eq_true]
      exact fun character member =>
        isSpace_of_isIndent ((indentOf_spec found).2 character member)

end Layout

namespace Json

theorem Literal.isBlank_of_mem_exponentText {literal : Literal}
    (wellFormed : literal.IsWellFormed) {character : Char}
    (member : character ∈ literal.exponentText) : Unicode.isBlank character = false := by
  rcases wellFormed.exponent with none | ⟨sign, digits, shown, isSign, -, areDigits⟩
  · simp [exponentText, none] at member
  · unfold exponentText at member
    split at member
    · cases member
    · rw [shown] at member
      rcases List.mem_cons.mp member with rfl | later
      · decide
      · rcases List.mem_append.mp later with inSign | inDigits
        · rcases isSign with rfl | rfl | rfl
          · cases inSign
          · exact List.mem_singleton.mp inSign ▸ by decide
          · exact List.mem_singleton.mp inSign ▸ by decide
        · exact Unicode.isBlank_of_isDecimalDigit (areDigits character inDigits)

/-- The text of a literal has no white space. -/
theorem Literal.isBlank_of_mem_text {literal : Literal} (wellFormed : literal.IsWellFormed)
    {character : Char} (member : character ∈ literal.text) :
    Unicode.isBlank character = false := by
  rcases List.mem_append.mp member with inSign | later
  · cases negative : literal.negative with
    | true =>
        rw [negative] at inSign
        exact List.mem_singleton.mp inSign ▸ by decide
    | false => simp [negative] at inSign
  · rcases List.mem_append.mp later with inWhole | inTail
    · exact Unicode.isBlank_of_isDecimalDigit (wellFormed.whole.digits character inWhole)
    · unfold tailText at inTail
      split at inTail
      · exact isBlank_of_mem_exponentText wellFormed inTail
      · rcases List.mem_cons.mp inTail with rfl | inside
        · decide
        · rcases List.mem_append.mp inside with inFraction | inExponent
          · exact Unicode.isBlank_of_isDecimalDigit (wellFormed.fraction character inFraction)
          · exact isBlank_of_mem_exponentText wellFormed inExponent

/-- The text of a number has no white space. -/
theorem isBlank_of_mem_writeNumber {number : TreeNumber}
    (held : (Tree.number number).fits = true) {character : Char}
    (member : character ∈ writeNumber number) : Unicode.isBlank character = false := by
  obtain ⟨literal, wellFormed, shown⟩ := Literal.exists_literal (Tree.fits_of_number held)
  rw [shown] at member
  exact Literal.isBlank_of_mem_text wellFormed member

/-- A written tree has no white space at its ends. -/
theorem isTight_write (unit : Option (List Char)) (level : Nat) {tree : Tree}
    (held : tree.fits = true) : Unicode.IsTight (write unit level tree) := by
  have quote : Unicode.isBlank '"' = false := by decide
  have bracket : Unicode.isBlank '[' = false ∧ Unicode.isBlank ']' = false := by decide
  have brace : Unicode.isBlank '\x7b' = false ∧ Unicode.isBlank '\x7d' = false := by decide
  cases tree with
  | null =>
      show Unicode.IsTight ['n', 'u', 'l', 'l']
      exact ⟨by decide, by decide⟩
  | bool value =>
      cases value with
      | true =>
          show Unicode.IsTight ['t', 'r', 'u', 'e']
          exact ⟨by decide, by decide⟩
      | false =>
          show Unicode.IsTight ['f', 'a', 'l', 's', 'e']
          exact ⟨by decide, by decide⟩
  | number value => exact .of_noBlank fun character member => isBlank_of_mem_writeNumber held member
  | text value => exact .between quote quote
  | list items =>
      cases items with
      | nil =>
          show Unicode.IsTight ('[' :: ([] ++ [']']))
          exact .between bracket.1 bracket.2
      | cons item rest => exact .between bracket.1 bracket.2
  | map entries =>
      cases entries with
      | nil =>
          show Unicode.IsTight ('\x7b' :: ([] ++ ['\x7d']))
          exact .between brace.1 brace.2
      | cons entry rest => exact .between brace.1 brace.2

theorem getLast?_write (unit : Option (List Char)) (level : Nat) {tree : Tree}
    (held : tree.fits = true) : (write unit level tree).getLast? ≠ some '\n' := by
  intro last
  have visible := (isTight_write unit level held).stop
  rw [last] at visible
  exact absurd visible (by decide)

/-- A text that is read as an object starts with a brace behind white space. -/
theorem brace_of_readTree {text : List Char} {entries : List (String × Tree)}
    (read : readTree text = .ok (.map entries)) : ∃ more, skipSpace text = '\x7b' :: more := by
  obtain ⟨datum, rest, found, denoted⟩ := readValue_of_readTree read
  cases datum with
  | record given => exact skipSpace_of_readValue_record found
  | floating value => cases value <;> simp [Datum.toTree?] at denoted
  | integer value => simp [Datum.toTree?] at denoted
  | list items => simp [Datum.toTree?] at denoted
  | _ => simp [Datum.toTree?] at denoted

theorem isKeyed_of_readTree {text : List Char} {tree : Tree} (read : readTree text = .ok tree) :
    tree.isKeyed = true := by
  obtain ⟨datum, rest, -, denoted⟩ := readValue_of_readTree read
  exact Datum.isKeyed_of_toTree? denoted

end Json

namespace Document

/-- White space in JSON is white space, so a visible character behind it is the first one of the
text. -/
theorem trimStart_of_skipSpace {text more : List Char} {first : Char}
    (start : Json.skipSpace text = first :: more) (visible : Unicode.isBlank first = false) :
    Unicode.trimStart text = first :: more := by
  induction text with
  | nil => simp [Json.skipSpace] at start
  | cons character rest inductionHypothesis =>
      by_cases space : Json.isSpace character = true
      · have blank : Unicode.isBlank character = true := by
          have each : ((character = ' ' ∨ character = '\n') ∨ character = '\t') ∨
              character = '\r' := by simpa [Json.isSpace] using space
          rcases each with ((rfl | rfl) | rfl) | rfl <;> decide
        have later : Json.skipSpace rest = first :: more := by
          simpa [Json.skipSpace, space] using start
        have rest := inductionHypothesis later
        simpa [Unicode.trimStart, blank] using rest
      · have same : character :: rest = first :: more := by
          simpa [Json.skipSpace, space] using start
        rw [same]
        simp [Unicode.trimStart, visible]

/-- Texts whose first visible character is a brace are taken for JSON. -/
theorem guess_of_brace {text more : List Char} (brace : Json.skipSpace text = '\x7b' :: more) :
    Format.guess text = .json := by
  rw [Format.guess, trimStart_of_skipSpace brace (by decide)]
  rfl

/-- A text that is an object in JSON is parsed as one. -/
theorem parse_of_readTree {text : List Char} {entries : List (String × Tree)}
    (read : Json.readTree text = .ok (.map entries)) :
    parse text = .ok ⟨.map entries, .json, Layout.detect text .json⟩ := by
  obtain ⟨more, brace⟩ := Json.brace_of_readTree read
  rw [parse, guess_of_brace brace, parseAs_of_readTree (readTree_json_iff.mpr read)]

/-- The text of a tree in a layout of JSON. -/
def jsonText (layout : Layout) (root : Tree) : List Char :=
  finish layout.finalNewline (Json.write layout.indent 0 root)

theorem render_json (root : Tree) (layout : Layout) (exact : layout.lossyNumber = none) :
    (⟨root, .json, layout⟩ : Document).render = .ok (jsonText layout root) := by
  simp only [render, exact, body, jsonText]

/-- Only a final line feed is added to a written tree. -/
theorem jsonText_eq (layout : Layout) {root : Tree} (held : root.fits = true) :
    jsonText layout root =
      Json.write layout.indent 0 root ++ (if layout.finalNewline then ['\n'] else []) := by
  have last := Json.getLast?_write layout.indent 0 held
  rw [jsonText, finish]
  cases layout.finalNewline with
  | true => simp [last]
  | false => simp [withoutFinalNewlines_of_getLast? last]

/-- A rendered tree is read back. -/
theorem readTree_jsonText {layout : Layout} {root : Tree}
    (blank : Json.isBlankUnit layout.indent = true) (whole : root.isWhole = true)
    (keyed : root.isKeyed = true) (deep : root.depth ≤ Json.nestingLimit) :
    Json.readTree (jsonText layout root) = .ok root := by
  rw [jsonText_eq layout (Tree.fits_of_isWhole whole)]
  apply Json.readTree_write blank whole keyed deep
  cases layout.finalNewline <;> rfl

end Document

end ReleaseRules
