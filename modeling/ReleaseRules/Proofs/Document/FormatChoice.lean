import ReleaseRules.Proofs.Document.Rendering
import ReleaseRules.Rules.Condition

/-!
Contract: the format that a text is parsed in when none is asked for.

Owns:
- the first character of a list in JSON, and the guess for lists and objects;
- parsing without a format by way of parsing in each of the two;
- conditions on a key, with and without a format.

Does not own: what a text is parsed as in a format.
-/

namespace ReleaseRules

/-- Whether a tree is a list or a map. -/
def Tree.isContainer : Tree → Bool
  | .list _ => true
  | .map _ => true
  | _ => false

namespace Json

/-- Only a text that starts with a bracket is read as a list. -/
theorem skipSpace_of_readValue_list {budget depth : Nat} {text rest : List Char}
    {items : List Datum} (found : readValue budget depth text = .ok (.list items, rest)) :
    ∃ more, skipSpace text = '[' :: more := by
  rcases readValue_cases found with ⟨_, _, more, _, bracket, _⟩ | ⟨_, _, _, _, _, isRecord, _⟩ |
    ⟨-, ⟨_, _, read⟩ | isOther | isOther | ⟨_, isOther⟩ | ⟨_, isOther⟩⟩
  · exact ⟨more, bracket⟩
  · cases isRecord
  · rcases isFigure_of_readFigure read with isOther | ⟨_, isOther⟩ | ⟨_, _, isOther⟩ <;>
      cases isOther
  all_goals cases isOther

/-- A text that is read as a list starts with a bracket behind white space. -/
theorem bracket_of_readTree {text : List Char} {items : List Tree}
    (read : readTree text = .ok (.list items)) : ∃ more, skipSpace text = '[' :: more := by
  obtain ⟨datum, rest, found, denoted⟩ := readValue_of_readTree read
  cases datum with
  | list given => exact skipSpace_of_readValue_list found
  | floating value => cases value <;> simp [Datum.toTree?] at denoted
  | integer value => simp [Datum.toTree?] at denoted
  | record entries => simp [Datum.toTree?] at denoted
  | _ => simp [Datum.toTree?] at denoted

end Json

namespace Document

theorem guess_of_bracket {text more : List Char} (bracket : Json.skipSpace text = '[' :: more) :
    Format.guess text = .json := by
  rw [Format.guess, trimStart_of_skipSpace bracket (by decide)]
  rfl

/-- Lists and objects in JSON are taken for JSON. -/
theorem guess_of_isContainer {text : List Char} {root : Tree}
    (read : Json.readTree text = .ok root) (container : root.isContainer = true) :
    Format.guess text = .json := by
  cases root with
  | list items =>
      obtain ⟨more, bracket⟩ := Json.bracket_of_readTree read
      exact guess_of_bracket bracket
  | map entries =>
      obtain ⟨more, brace⟩ := Json.brace_of_readTree read
      exact guess_of_brace brace
  | _ => cases container

theorem parseAs_eq_ok_iff {text : List Char} {format : Format} {document : Document} :
    parseAs text format = .ok document ↔
      ∃ root, readTree text format = .ok root ∧
        document = ⟨root, format, Layout.detect text format⟩ := by
  constructor
  · intro parsed
    obtain ⟨root, read, same⟩ := ok_of_bind parsed
    exact ⟨root, read, (Except.ok.inj same).symm⟩
  · rintro ⟨root, read, rfl⟩
    exact parseAs_of_readTree read

/-- The reason for which a text is not parsed in a format names this format. -/
theorem format_of_parseAs {text : List Char} {format : Format} {reason : ParseError}
    (failed : parseAs text format = .error reason) : reason.format = format := by
  rw [parseAs] at failed
  cases format with
  | json =>
      rw [readTree] at failed
      cases read : Json.readTree text with
      | ok root =>
          rw [read] at failed
          cases failed
      | error cause =>
          rw [read] at failed
          obtain rfl := Except.error.inj failed
          rfl
  | yaml =>
      rw [readTree] at failed
      cases read : Yaml.Value.read text with
      | error cause =>
          rw [read] at failed
          obtain rfl := Except.error.inj failed
          rfl
      | ok value =>
          rw [read] at failed
          dsimp only at failed
          cases denoted : value.toTree with
          | ok root =>
              rw [denoted] at failed
              cases failed
          | error cause =>
              rw [denoted] at failed
              obtain rfl := Except.error.inj failed
              rfl

variable {text : List Char} {document : Document}

/-- What is parsed in the format of the guess is parsed. -/
theorem parse_of_guess (parsed : parseAs text (Format.guess text) = .ok document) :
    parse text = .ok document := by
  rw [parse, parsed]

/-- What fails in the format of the guess is parsed in the other one, if it can be. -/
theorem parse_of_other {first : ParseError}
    (failed : parseAs text (Format.guess text) = .error first)
    (parsed : parseAs text (Format.guess text).other = .ok document) :
    parse text = .ok document := by
  rw [parse, failed]
  dsimp only
  rw [parsed]

/-- A text is not parsed exactly if it is parsed in neither format, and the failure in the format
of the guess is reported. -/
theorem parse_eq_error_iff {reason : ParseError} :
    parse text = .error reason ↔
      parseAs text (Format.guess text) = .error reason ∧
        ∃ other, parseAs text (Format.guess text).other = .error other := by
  constructor
  · intro failed
    rw [parse] at failed
    cases first : parseAs text (Format.guess text) with
    | ok document =>
        rw [first] at failed
        cases failed
    | error cause =>
        rw [first] at failed
        dsimp only at failed
        cases second : parseAs text (Format.guess text).other with
        | ok document =>
            rw [second] at failed
            cases failed
        | error other =>
            rw [second] at failed
            exact ⟨congrArg Except.error (Except.error.inj failed), other, rfl⟩
  · rintro ⟨first, other, second⟩
    rw [parse, first]
    dsimp only
    rw [second]

/-- Only maps have values at key paths. -/
theorem isContainer_of_get {key : String} (found : (document.get key).isSome = true) :
    document.root.isContainer = true := by
  rw [get, KeyPath.get] at found
  split at found
  · cases found
  · cases root : document.root with
    | map entries => rfl
    | _ =>
        rw [root] at found
        cases found

/-- **Choice of a format.** A list or an object in JSON is parsed as what it is in JSON, so a key
that exists there exists as well when no format is asked for. A text that is not valid in JSON is
parsed in YAML if it can be. Parsing fails exactly if it fails in both formats, for the reason of
the format that the text seems to have. -/
theorem parse_agrees_with_formats (text : List Char) :
    (∀ document, parseAs text .json = .ok document → document.root.isContainer = true →
      document.format = .json ∧ parse text = .ok document) ∧
    (∀ world context key,
      Condition.holds world context text (.keyExists key (some .json)) = true →
        Condition.holds world context text (.keyExists key none) = true) ∧
    (∀ reason document, parseAs text .json = .error reason →
      parseAs text .yaml = .ok document → document.format = .yaml ∧ parse text = .ok document) ∧
    ((∃ reason, parse text = .error reason) ↔
      (∃ reason, parseAs text .json = .error reason) ∧
        ∃ reason, parseAs text .yaml = .error reason) ∧
    ∀ reason, parse text = .error reason →
      parseAs text (Format.guess text) = .error reason ∧ reason.format = Format.guess text := by
  have containers : ∀ document, parseAs text .json = .ok document →
      document.root.isContainer = true → document.format = .json ∧ parse text = .ok document := by
    intro document parsed container
    obtain ⟨root, read, rfl⟩ := parseAs_eq_ok_iff.mp parsed
    have guess := guess_of_isContainer (readTree_json_iff.mp read) container
    exact ⟨rfl, parse_of_guess (guess ▸ parsed)⟩
  refine ⟨containers, ?conditions, ?fallback, ?failures, ?reasons⟩
  case conditions =>
    intro world context key holds
    simp only [Condition.holds] at holds ⊢
    cases parsed : parseAs text .json with
    | error reason =>
        rw [parsed] at holds
        cases holds
    | ok document =>
        rw [parsed] at holds
        rw [(containers document parsed (isContainer_of_get holds)).2]
        exact holds
  case fallback =>
    intro reason document failed parsed
    obtain ⟨root, -, rfl⟩ := parseAs_eq_ok_iff.mp parsed
    refine ⟨rfl, ?_⟩
    cases guess : Format.guess text with
    | json => exact parse_of_other (guess ▸ failed) (guess ▸ parsed)
    | yaml => exact parse_of_guess (guess ▸ parsed)
  case failures =>
    simp only [parse_eq_error_iff, exists_and_right]
    cases Format.guess text with
    | json => exact Iff.rfl
    | yaml => exact and_comm
  case reasons =>
    intro reason failed
    obtain ⟨first, -⟩ := parse_eq_error_iff.mp failed
    exact ⟨first, format_of_parseAs first⟩

/-- An object in JSON behind a tab. -/
private def tabbedObject : List Char := "\t\x7b\"a\":null\x7d".toList

/-- A map in YAML that looks like an object in JSON. -/
private def flowMap : List Char := "\x7bname: demo\x7d".toList

/-- A tab in front does not hide an object in JSON, a brace does not make one, and a brace alone is
reported as no JSON. -/
theorem parse_agrees_with_formats_on_odd_texts :
    Condition.holds ⟨[], [], [], []⟩ ⟨"v1", "2026-01-15", [], false, none⟩ tabbedObject
        (.keyExists "a" none) = true ∧
      (∃ reason document, parseAs flowMap .json = .error reason ∧
        parseAs flowMap .yaml = .ok document ∧ parse flowMap = .ok document) ∧
      ∃ reason, parse ['\x7b'] = .error reason ∧ reason.format = .json := by
  obtain ⟨-, conditions, -, -, -⟩ := parse_agrees_with_formats tabbedObject
  obtain ⟨-, -, fallback, -, -⟩ := parse_agrees_with_formats flowMap
  obtain ⟨-, -, -, failures, reasons⟩ := parse_agrees_with_formats ['\x7b']
  refine ⟨conditions _ _ _ (by decide +kernel), ?_, ?_⟩
  · obtain ⟨reason, noJson⟩ := exists_error_of_toOption
      (show (parseAs flowMap .json).toOption.isSome = false by decide +kernel)
    obtain ⟨document, isYaml⟩ := Option.isSome_iff_exists.mp
      (show (parseAs flowMap .yaml).toOption.isSome = true by decide +kernel)
    have parsed := ok_of_toOption isYaml
    exact ⟨reason, document, noJson, parsed, (fallback reason document noJson parsed).2⟩
  · obtain ⟨reason, unparsed⟩ := failures.mpr
      ⟨exists_error_of_toOption (by decide +kernel), exists_error_of_toOption (by decide +kernel)⟩
    exact ⟨reason, unparsed, (reasons reason unparsed).2⟩

end Document

end ReleaseRules
