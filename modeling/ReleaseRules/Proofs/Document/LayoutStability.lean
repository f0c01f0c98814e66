import ReleaseRules.Proofs.Document.Rendering
import ReleaseRules.Proofs.Text.Pieces
import ReleaseRules.Proofs.Text.Runs

/-!
Contract: a rendered document shows the layout that it is rendered in.

Owns:
- line feeds and indentation of written trees;
- the layout that is detected in a rendered document, and what it is rendered as again.

Does not own: the tree of a rendered document.
-/

namespace ReleaseRules

namespace Json

/-! ## Line feeds -/

private theorem newline_not_mem_escape (character : Char) : '\n' ∉ escape character := by
  unfold escape
  iterate 7
    split
    · decide
  split
  · rename_i control
    have digits : ∀ value < 32,
        hexDigitChar (value / 16) ≠ '\n' ∧ hexDigitChar (value % 16) ≠ '\n' := by decide
    obtain ⟨high, low⟩ := digits character.toNat control
    simp [Ne.symm high, Ne.symm low]
  · rename_i notNewline _ _ _
    simp [Ne.symm notNewline]

theorem newline_not_mem_writeString (value : String) : '\n' ∉ writeString value := by
  simp only [writeString, List.mem_cons, List.mem_append, List.mem_flatMap, List.not_mem_nil,
    or_false, not_or, not_exists, not_and]
  refine ⟨by decide, fun character _ => newline_not_mem_escape character, by decide⟩

private theorem newline_not_mem_writeNumber {number : TreeNumber}
    (held : (Tree.number number).fits = true) : '\n' ∉ writeNumber number := by
  intro member
  exact absurd (isBlank_of_mem_writeNumber held member) (by decide)

private theorem newline_not_mem_writeItems {items : List Tree} (level : Nat)
    (plain : ∀ item ∈ items, '\n' ∉ write none level item) :
    '\n' ∉ writeItems none level items := by
  induction items with
  | nil => simp [writeItems]
  | cons item rest inductionHypothesis =>
      have later := inductionHypothesis fun other member =>
        plain other (List.mem_cons_of_mem _ member)
      simp [writeItems, lineStart, plain item (by simp), later]

private theorem newline_not_mem_writeEntries {entries : List (String × Tree)} (level : Nat)
    (plain : ∀ entry ∈ entries, '\n' ∉ write none level entry.2) :
    '\n' ∉ writeEntries none level entries := by
  induction entries with
  | nil => simp [writeEntries]
  | cons entry rest inductionHypothesis =>
      obtain ⟨key, value⟩ := entry
      have here : '\n' ∉ write none level value := plain (key, value) (by simp)
      have later := inductionHypothesis fun other member =>
        plain other (List.mem_cons_of_mem _ member)
      simp [writeEntries, lineStart, colon, newline_not_mem_writeString, here, later]

/-- The compact layout has no line feed. -/
theorem newline_not_mem_write {tree : Tree} (held : tree.fits = true) (level : Nat) :
    '\n' ∉ write none level tree := by
  induction tree generalizing level with
  | null => simp [write]
  | bool value => cases value <;> simp [write]
  | number value => exact newline_not_mem_writeNumber held
  | text value => exact newline_not_mem_writeString value
  | list items inductionHypothesis =>
      have heldItems := ((Tree.every_list_iff items).mp held).2
      cases items with
      | nil => simp [write]
      | cons item others =>
          have plain := fun other member =>
            inductionHypothesis other member (heldItems other member) (level + 1)
          have first := plain item (by simp)
          have rest := newline_not_mem_writeItems (level + 1) fun other member =>
            plain other (List.mem_cons_of_mem item member)
          simp [write, lineStart, first, rest]
  | map entries inductionHypothesis =>
      have heldValues := ((Tree.every_map_iff entries).mp held).2
      cases entries with
      | nil => simp [write]
      | cons entry others =>
          obtain ⟨key, value⟩ := entry
          have plain := fun other member =>
            inductionHypothesis other member (heldValues other member) (level + 1)
          have first : '\n' ∉ write none (level + 1) value := plain (key, value) (by simp)
          have rest := newline_not_mem_writeEntries (level + 1) fun other member =>
            plain other (List.mem_cons_of_mem (key, value) member)
          simp [write, lineStart, colon, newline_not_mem_writeString, first, rest]

/-! ## Indentation -/

/-- Whether a tree has no item and no entry of its own, so that it takes a single line in every
layout. -/
def isSingleLine : Tree → Bool
  | .list (_ :: _) => false
  | .map (_ :: _) => false
  | _ => true

theorem write_of_isSingleLine {tree : Tree} (single : isSingleLine tree = true)
    (unit : Option (List Char)) (level : Nat) : write unit level tree = write none level tree := by
  cases tree with
  | list items =>
      cases items with
      | nil => rfl
      | cons item rest => cases single
  | map entries =>
      cases entries with
      | nil => rfl
      | cons entry rest => cases single
  | bool value => cases value <;> rfl
  | _ => rfl

/-- The second line of a list or map that is indented starts with one unit and a visible
character. -/
theorem write_second_line {tree : Tree} (several : isSingleLine tree = false)
    (held : tree.fits = true) (unit : List Char) :
    ∃ opening first tail, write (some unit) 0 tree = opening :: '\n' :: (unit ++ first :: tail) ∧
      opening ≠ '\n' ∧ isSpace first = false := by
  cases tree with
  | list items =>
      cases items with
      | nil => cases several
      | cons item rest =>
          have heldItem : item.fits = true :=
            ((Tree.every_list_iff _).mp held).2 item List.mem_cons_self
          obtain ⟨first, others, shown, visible, -⟩ := write_cons (some unit) 1 heldItem
          refine ⟨'[', first, others ++ (writeItems (some unit) 1 rest ++ ['\n', ']']), ?_,
            by decide, visible⟩
          simp [write, shown, lineStart]
  | map entries =>
      cases entries with
      | nil => cases several
      | cons entry rest =>
          obtain ⟨key, value⟩ := entry
          exact ⟨'\x7b', '"', _, by simp [write, lineStart, writeString]; rfl, by decide, by decide⟩
  | _ => cases several

end Json

namespace Document

/-! ## Layouts -/

/-- A written tree has no white space at its ends, so trimming takes the final line feed alone. -/
theorem trim_jsonText (layout : Layout) {root : Tree} (held : root.fits = true) :
    Unicode.trim (jsonText layout root) = Json.write layout.indent 0 root := by
  rw [jsonText_eq layout held]
  apply (Json.isTight_write layout.indent 0 held).trim_append
  have newline : Unicode.isBlank '\n' = true := by decide
  cases layout.finalNewline with
  | false => simp
  | true => simpa using newline

theorem finalNewline_jsonText (layout : Layout) {root : Tree} (held : root.fits = true) :
    ((jsonText layout root).getLast? == some '\n') = layout.finalNewline := by
  rw [jsonText_eq layout held]
  cases layout.finalNewline with
  | true =>
      rw [if_pos rfl, List.getLast?_concat]
      decide
  | false =>
      rw [if_neg Bool.false_ne_true, List.append_nil, beq_eq_false_iff_ne]
      exact Json.getLast?_write layout.indent 0 held

/-- The indent unit that is detected in a rendered list or map is the one that it is rendered with,
if this one has been detected itself and there is an item or entry to show it. -/
theorem indentOf_jsonText (text : List Char) {root : Tree}
    (several : Json.isSingleLine root = false) (held : root.fits = true) :
    Layout.indentOf (jsonText (Layout.detect text .json) root) = Layout.indentOf text := by
  rw [Layout.indentOf, trim_jsonText (Layout.detect text .json) held]
  show _ = (Layout.detect text .json).indent
  cases found : (Layout.detect text .json).indent with
  | none => rw [Text.splitAt_of_not_mem (Json.newline_not_mem_write held 0)]
  | some unit =>
      have detected : Layout.indentOf text = some unit := found
      obtain ⟨filled, blank⟩ := Layout.indentOf_spec detected
      obtain ⟨opening, first, tail, written, other, visible⟩ :=
        Json.write_second_line several held unit
      obtain ⟨piece, pieces, split⟩ := Text.splitAt_cons '\n' tail
      have plain : '\n' ∉ unit ++ [first] := by
        intro member
        rcases List.mem_append.mp member with inUnit | isFirst
        · exact absurd (blank _ inUnit) (by decide)
        · exact absurd visible (by rw [← List.mem_singleton.mp isFirst]; decide)
      have line : Text.splitAt '\n' (unit ++ first :: tail) =
          (unit ++ first :: piece) :: pieces := by
        have joined := Text.splitAt_append plain split
        simpa using joined
      have stops : (first :: piece).head?.any Layout.isIndent = false := by
        cases indent : Layout.isIndent first with
        | false => exact indent
        | true => exact absurd (Layout.isSpace_of_isIndent indent) (by simp [visible])
      have run : (unit ++ first :: piece).takeWhile Layout.isIndent = unit :=
        Text.takeWhile_append_of_stop blank stops
      have shown : unit.isEmpty = false := by simpa using filled
      rw [written]
      simp [Text.splitAt, other, line, run, shown]

/-- The layout that is detected in a rendered list or map is the one that it is rendered in, if this
one has been detected itself and there is an item or entry to show it. -/
theorem detect_jsonText (text : List Char) {root : Tree}
    (several : Json.isSingleLine root = false) (held : root.fits = true) :
    Layout.detect (jsonText (Layout.detect text .json) root) .json = Layout.detect text .json := by
  rw [Layout.detect, finalNewline_jsonText _ held, indentOf_jsonText text several held]
  rfl

/-- Layouts differ by the final line feed alone for a tree on a single line. -/
theorem jsonText_of_isSingleLine {left right : Layout} {root : Tree}
    (single : Json.isSingleLine root = true) (held : root.fits = true)
    (sameEnd : left.finalNewline = right.finalNewline) :
    jsonText left root = jsonText right root := by
  rw [jsonText_eq left held, jsonText_eq right held, sameEnd,
    Json.write_of_isSingleLine single left.indent, Json.write_of_isSingleLine single right.indent]

/-- A rendered tree is rendered the same way in the layout that is detected in it. -/
theorem jsonText_jsonText (text : List Char) {root : Tree} (held : root.fits = true) :
    jsonText (Layout.detect (jsonText (Layout.detect text .json) root) .json) root =
      jsonText (Layout.detect text .json) root := by
  cases single : Json.isSingleLine root with
  | false => rw [detect_jsonText text single held]
  | true =>
      apply jsonText_of_isSingleLine single held
      exact finalNewline_jsonText (Layout.detect text .json) held

end Document

end ReleaseRules
