import ReleaseRules.Proofs.Document.LayoutStability
import ReleaseRules.Proofs.Document.Reading
import ReleaseRules.Proofs.Document.Writing

/-!
Contract: documents in JSON are rendered to texts that they can be parsed from again.

Owns:
- documents after any number of writes;
- rendering, parsing and rendering again.

Does not own: texts in YAML, and documents with other numbers than integers.
-/

namespace ReleaseRules.Document

/-- The document after writes at key paths, one after the other, if all of them succeed. -/
def setAll (document : Document) (writes : List (String × Tree)) :
    Except KeyPath.WriteError Document :=
  writes.foldlM (fun document write => document.set write.1 write.2) document

/-- Writes keep the format and the layout of a document, and what survives edits. -/
theorem every_setAll {test : Tree → Bool} (survives : Tree.SurvivesEdits test)
    {document written : Document} {writes : List (String × Tree)}
    (done : document.setAll writes = .ok written) (passed : document.root.every test = true)
    (passedValues : ∀ write ∈ writes, write.2.every test = true) :
    written.format = document.format ∧ written.layout = document.layout ∧
      written.root.every test = true := by
  induction writes generalizing document with
  | nil =>
      obtain rfl : document = written := Except.ok.inj done
      exact ⟨rfl, rfl, passed⟩
  | cons write rest inductionHypothesis =>
      rw [setAll, List.foldlM_cons] at done
      obtain ⟨next, here, later⟩ := ok_of_bind done
      obtain ⟨root, isSet, same⟩ := ok_of_bind here
      obtain rfl := Except.ok.inj same
      obtain ⟨-, -, rfl⟩ := KeyPath.set_eq_ok_iff.mp isSet
      have passedNext := KeyPath.every_write survives
        (passedValues write List.mem_cons_self) passed (KeyPath.segments write.1)
      apply inductionHypothesis later passedNext
      intro other member
      exact passedValues other (List.mem_cons_of_mem write member)

/-- **Round trip.** A document that is parsed from a JSON text with integers of 64 bits as its only
numbers, and written to any number of times, is rendered. The text is parsed as the same tree, with
the keys of every map in the same order, and this document is rendered as the same text, whatever
the layout of the first text is. -/
theorem parseAs_render {source : List Char} {start document : Document}
    {writes : List (String × Tree)} (parsed : parseAs source .json = .ok start)
    (whole : start.root.isWhole = true)
    (exactValues : ∀ write ∈ writes, write.2.isWhole = true ∧ write.2.isKeyed = true)
    (written : start.setAll writes = .ok document)
    (deep : document.root.depth ≤ Json.nestingLimit) :
    ∃ text again, document.render = .ok text ∧ parseAs text .json = .ok again ∧
      again.root = document.root ∧ again.render = .ok text := by
  obtain ⟨root, read, same⟩ := ok_of_bind parsed
  obtain rfl := Except.ok.inj same
  obtain ⟨sameFormat, sameLayout, wholeAfter⟩ := every_setAll Tree.isWholeNode_survives written
    whole fun write member => (exactValues write member).1
  have keyed : root.isKeyed = true := Json.isKeyed_of_readTree (readTree_json_iff.mp read)
  obtain ⟨-, -, keyedAfter⟩ := every_setAll Tree.isKeyedNode_survives written
    keyed fun write member => (exactValues write member).2
  obtain ⟨final, format, layout⟩ := document
  obtain rfl : format = .json := sameFormat
  obtain rfl : layout = Layout.detect source .json := sameLayout
  have blank : Json.isBlankUnit (Layout.detect source .json).indent = true :=
    Layout.indentOf_blank source
  have readBack : readTree (jsonText (Layout.detect source .json) final) .json = .ok final :=
    readTree_json_iff.mpr (readTree_jsonText blank wholeAfter keyedAfter deep)
  refine ⟨_, _, render_json final _ rfl, parseAs_of_readTree readBack, rfl, ?_⟩
  rw [render_json final _ rfl, jsonText_jsonText source (Tree.fits_of_isWhole wholeAfter)]

private def tabbedSource : List Char := "\x7b\r\n\t\"a\" : [ 1, \"\\u0041\" ]\x7d \n".toList

private def tabbedWrites : List (String × Tree) :=
  [("a", .map [("b", .text "\n")]), ("c.d", .list [])]

/-- Two writes to an object in an odd layout. -/
theorem parseAs_render_of_tabbed_source :
    ∃ start document, parseAs tabbedSource .json = .ok start ∧
      start.setAll tabbedWrites = .ok document ∧
      ∃ text again, document.render = .ok text ∧ parseAs text .json = .ok again ∧
        again.root = document.root ∧ again.render = .ok text := by
  have read : Json.readTree tabbedSource =
      .ok (.map [("a", .list [.number (.integer 1), .text "A"])]) :=
    ok_of_toOption (by decide +kernel)
  have parsed := parseAs_of_readTree (readTree_json_iff.mpr read)
  have written : (⟨.map [("a", .list [.number (.integer 1), .text "A"])], .json,
      Layout.detect tabbedSource .json⟩ : Document).setAll tabbedWrites =
      .ok ⟨.map [("a", .map [("b", .text "\n")]), ("c", .map [("d", .list [])])], .json,
        Layout.detect tabbedSource .json⟩ := rfl
  exact ⟨_, _, parsed, written, parseAs_render parsed (by decide +kernel) (by decide +kernel)
    written (by decide +kernel)⟩

end ReleaseRules.Document
