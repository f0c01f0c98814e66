import ReleaseRules.Proofs.Document.FormatChoice
import ReleaseRules.Proofs.Rules.Simulation

/-!
Contract: the layout of a text that an action on its tree has changed.

Owns:
- the final line feed of a rendered document, in both formats;
- the document that an action leaves, and the layout of it;
- the layout of a text in JSON before and after an action.

Does not own: the layout of a written tree.

An action renders its document in the layout that was detected with it, and in the format that it
was parsed in. The second matters for texts that are valid in both formats.
-/

namespace ReleaseRules

namespace Document

theorem getLast?_finish (finalNewline : Bool) (text : List Char) :
    (finish finalNewline text).getLast? = some '\n' ↔ finalNewline = true := by
  cases finalNewline with
  | false => simpa [finish] using getLast?_withoutFinalNewlines text
  | true =>
      rw [finish, if_pos rfl]
      split
      · rename_i ends
        simpa using ends
      · simp

/-- A text is rendered without any number that would change. -/
theorem render_eq_ok_iff {document : Document} {text : List Char} :
    document.render = .ok text ↔
      document.layout.lossyNumber = none ∧
        text = finish document.layout.finalNewline document.body := by
  unfold render
  cases document.layout.lossyNumber with
  | some number => simp
  | none => simp [eq_comm]

/-- The layout of a parsed document is the one of its text in the format of the document. -/
theorem layout_of_parse {text : List Char} {document : Document}
    (parsed : parse text = .ok document) :
    document.layout = Layout.detect text document.format ∧
      readTree text document.format = .ok document.root := by
  have parsedAs : parseAs text document.format = .ok document := by
    cases first : parseAs text (Format.guess text) with
    | ok guessed =>
        obtain rfl := Except.ok.inj ((parse_of_guess first).symm.trans parsed)
        obtain ⟨root, -, rfl⟩ := parseAs_eq_ok_iff.mp first
        exact first
    | error reason =>
        cases second : parseAs text (Format.guess text).other with
        | ok other =>
            obtain rfl := Except.ok.inj ((parse_of_other first second).symm.trans parsed)
            obtain ⟨root, -, rfl⟩ := parseAs_eq_ok_iff.mp second
            exact second
        | error other =>
            rw [parse_eq_error_iff.mpr ⟨first, other, second⟩] at parsed
            cases parsed
  obtain ⟨root, read, same⟩ := parseAs_eq_ok_iff.mp parsedAs
  rw [same]
  exact ⟨rfl, read⟩

end Document

namespace Action

variable {action : Action} {rule : String} {context : Context} {text next : List Char}
  {change : Change}

/-- An action on the tree of a text renders a map that is not empty, in the format and the layout
of the parsed document. -/
theorem exists_document_of_apply (structured : action.isRaw = false)
    (applied : action.apply rule context text = some (next, change)) :
    ∃ document changed, Document.parse text = .ok document ∧ changed ≠ [] ∧
      action.revise context document =
        some ⟨.map changed, document.format, Layout.detect text document.format⟩ ∧
      Document.render ⟨.map changed, document.format, Layout.detect text document.format⟩ =
        .ok next := by
  have outcome : Attempt.outcome context ⟨rule, action, text⟩ = some (next, change) := applied
  obtain ⟨document, written, parsed, revised, rendered⟩ :=
    Attempt.document_of_outcome structured outcome
  obtain ⟨key, new, -, -, -, isSet⟩ := exists_of_revise revised
  obtain ⟨root, result, same⟩ := ok_of_bind isSet
  obtain rfl := Except.ok.inj same
  obtain ⟨changed, rfl⟩ := KeyPath.exists_map_of_set result
  obtain ⟨nonempty, -, shape⟩ := KeyPath.set_eq_ok_iff.mp result
  have layout : document.layout = Layout.detect text document.format :=
    (Document.layout_of_parse parsed).1
  rw [layout] at revised rendered
  exact ⟨document, changed, parsed, KeyPath.entries_ne_nil_of_write nonempty shape, revised,
    rendered⟩

/-- **Kept layout.** An action on the tree of a text leaves a final line feed exactly if there was
one. In a text that is parsed as JSON it leaves the whole layout as it was, and so it does in every
list and object in JSON. The value that the action carries has no numbers beyond 64 bits, as no
value has that is read. -/
theorem apply_keeps_layout (structured : action.isRaw = false)
    (applied : action.apply rule context text = some (next, change)) :
    (next.getLast? = some '\n' ↔ text.getLast? = some '\n') ∧
    ((∀ value ∈ action.value?, value.fits = true) →
      (∀ document, Document.parse text = .ok document → document.format = .json →
        Layout.detect next .json = Layout.detect text .json) ∧
      ∀ root, Json.readTree text = .ok root → root.isContainer = true →
        Layout.detect next .json = Layout.detect text .json) := by
  obtain ⟨document, changed, parsed, filled, revised, rendered⟩ :=
    exists_document_of_apply structured applied
  refine ⟨?feed, fun carried => ?layout⟩
  case feed =>
    obtain ⟨-, rfl⟩ := Document.render_eq_ok_iff.mp rendered
    rw [Document.getLast?_finish]
    simp [Layout.detect]
  case layout =>
    have kept : document.format = .json → Layout.detect next .json = Layout.detect text .json := by
      intro isJson
      have read := (Document.layout_of_parse parsed).2
      rw [isJson] at read revised rendered
      have held := every_of_revise Tree.fitsNode_survives revised
        (Json.fits_of_readTree (Document.readTree_json_iff.mp read)) carried
      rw [Document.render_json _ _ rfl] at rendered
      obtain rfl := Except.ok.inj rendered
      obtain ⟨entry, rest, rfl⟩ := List.exists_cons_of_ne_nil filled
      exact Document.detect_jsonText text rfl held
    refine ⟨fun other parsedOther isJson => kept ?_, fun root read container => kept ?_⟩
    · obtain rfl := Except.ok.inj (parsed.symm.trans parsedOther)
      exact isJson
    · have guess := Document.guess_of_isContainer read container
      have parsedAs := Document.parseAs_of_readTree (Document.readTree_json_iff.mpr read)
      rw [← guess] at parsedAs
      obtain rfl := Except.ok.inj (parsed.symm.trans (Document.parse_of_guess parsedAs))
      exact guess

private def writeBelow : Action := .replaceValue "a.b" (.number (.integer 1))

private def anyDay : Context := ⟨"v1", "2026-01-15", [], false, none⟩

/-- An object that is indented by a space and a tab, with a final line feed. -/
private def oddlyIndented : List Char := "\x7b\n \t\"a\": null\n\x7d\n".toList

/-- An indent unit of a space and a tab is kept, and so is a final line feed. -/
theorem apply_keeps_odd_layout :
    ∃ next change, writeBelow.apply "r" anyDay oddlyIndented = some (next, change) ∧
      next.getLast? = some '\n' ∧
      Layout.detect next .json = ⟨true, some [' ', '\t'], none⟩ := by
  have made : (writeBelow.apply "r" anyDay oddlyIndented).isSome = true := by decide +kernel
  obtain ⟨⟨next, change⟩, applied⟩ := Option.isSome_iff_exists.mp made
  have read : Json.readTree oddlyIndented = .ok (.map [("a", .null)]) :=
    ok_of_toOption (by decide +kernel)
  obtain ⟨feed, layout⟩ := apply_keeps_layout rfl applied
  refine ⟨next, change, applied, feed.mpr (by decide +kernel), ?_⟩
  rw [(layout (by decide)).2 _ read rfl]
  decide +kernel

/-- The text `null` is valid in both formats, parsed as YAML, and rendered as a map in YAML: what
was on a single line gets a second one. -/
theorem apply_indents_null :
    ¬ ∀ (action : Action) (rule : String) (context : Context) (text next : List Char)
        (change : Change) (root : Tree),
      Json.readTree text = .ok root → action.isRaw = false →
      action.apply rule context text = some (next, change) →
      Layout.detect next .json = Layout.detect text .json := by
  intro keeps
  have made : (writeBelow.apply "r" anyDay "null".toList).map Prod.fst =
      some "a:\n  b: 1".toList := by
    decide +kernel
  obtain ⟨⟨next, change⟩, applied, rfl⟩ := Option.map_eq_some_iff.mp made
  have read : Json.readTree "null".toList = .ok .null := ok_of_toOption (by decide +kernel)
  have kept := keeps _ _ _ _ _ _ _ read rfl applied
  exact absurd kept (by decide +kernel)

end Action

end ReleaseRules
