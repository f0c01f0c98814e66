import ReleaseRules.Json.Reader
import ReleaseRules.Json.Writer
import ReleaseRules.KeyPath
import ReleaseRules.Unicode.CharacterClass
import ReleaseRules.Yaml.NumberLiteral
import ReleaseRules.Yaml.Value
import ReleaseRules.Yaml.Writer

/-!
Contract: documents: a tree, the format of its text and the layout to keep.

Owns:
- the two formats and the guess which one a text has;
- the layout of a text: its final newline, its indentation and numbers that must not change;
- parsing a text and rendering a document.

Does not own: the grammars of the formats.
-/

namespace ReleaseRules

/-- Format of a document. -/
inductive Format where
  | yaml
  | json
deriving DecidableEq, Repr, Inhabited

namespace Format

/-- The name of a format. -/
def name : Format → String
  | .yaml => "YAML"
  | .json => "JSON"

/-- The format to try first: texts that start with a brace or a bracket may be JSON. -/
def guess (text : List Char) : Format :=
  match Unicode.trimStart text with
  | '\x7b' :: _ => .json
  | '[' :: _ => .json
  | _ => .yaml

/-- The format to try next. -/
def other : Format → Format
  | .yaml => .json
  | .json => .yaml

end Format

/-- Layout of a text. Without an indent unit JSON is compact. -/
structure Layout where
  finalNewline : Bool
  indent : Option (List Char)
  lossyNumber : Option (List Char)
deriving DecidableEq, Repr, Inhabited

namespace Layout

/-- Whether a character indents a line. -/
def isIndent (character : Char) : Bool := character = ' ' || character = '\t'

/-- The indent unit of a text whose lines show none. -/
def defaultIndent : List Char := [' ', ' ']

/-- The indent unit of a text: the first indentation behind its first line. A text on a single
line has none. -/
def indentOf (text : List Char) : Option (List Char) :=
  match Text.splitAt '\n' (Unicode.trim text) with
  | [] => none
  | [_] => none
  | _ :: lines =>
      some (((lines.map fun line => line.takeWhile isIndent).find? fun indent =>
        !indent.isEmpty).getD defaultIndent)

/-- The layout of a text of a format. Only YAML has numbers that would change. -/
def detect (text : List Char) (format : Format) : Layout :=
  { finalNewline := text.getLast? == some '\n'
    indent := indentOf text
    lossyNumber :=
      match format with
      | .yaml => Yaml.lossyNumber? text
      | .json => none }

end Layout

/-- Parsed document. -/
structure Document where
  root : Tree
  format : Format
  layout : Layout
deriving Repr, Inhabited

namespace Document

/-- Reasons for which a text is not parsed. -/
inductive ParseError where
  | json (reason : Json.ReadError)
  | yaml (reason : Yaml.ReadError)
  | noTree (reason : Yaml.Value.TreeError)
deriving Repr

/-- The format in which a text is not valid. -/
def ParseError.format : ParseError → Format
  | .json _ => .json
  | .yaml _ => .yaml
  | .noTree _ => .yaml

/-- Message of a text that is not parsed, if it is about values that no tree holds. -/
def ParseError.message? : ParseError → Option String
  | .noTree reason => some ("Failed to parse YAML content: " ++ reason.message)
  | _ => none

/-- Reason for which a document is not rendered: a number that would change. -/
inductive RenderError where
  | lossyNumber (number : List Char)
deriving DecidableEq, Repr

/-- Message of a document that is not rendered. -/
def RenderError.message : RenderError → String
  | .lossyNumber number =>
      "Failed to serialize YAML content: number '" ++ String.ofList number ++
        "' would not be written back verbatim"

/-- The tree of a text in a format. -/
def readTree (text : List Char) : Format → Except ParseError Tree
  | .json => (Json.readTree text).mapError .json
  | .yaml =>
      match Yaml.Value.read text with
      | .error reason => .error (.yaml reason)
      | .ok value => value.toTree.mapError .noTree

/-- Parse a text in a format. -/
def parseAs (text : List Char) (format : Format) : Except ParseError Document := do
  let root ← readTree text format
  return ⟨root, format, Layout.detect text format⟩

/-- Parse a text in the format that it seems to have, or else in the other one. If both fail,
the first failure is reported. -/
def parse (text : List Char) : Except ParseError Document :=
  match parseAs text (Format.guess text) with
  | .ok document => .ok document
  | .error first =>
      match parseAs text (Format.guess text).other with
      | .ok document => .ok document
      | .error _ => .error first

/-- The value at a key path. -/
def get (document : Document) (key : String) : Option Tree := KeyPath.get document.root key

/-- Write a value at a key path. -/
def set (document : Document) (key : String) (value : Tree) :
    Except KeyPath.WriteError Document := do
  return { document with root := ← KeyPath.set document.root key value }

/-- The text without line feeds at its end. -/
def withoutFinalNewlines (text : List Char) : List Char :=
  (text.reverse.dropWhile (· = '\n')).reverse

/-- The text with a line feed at its end or without any. -/
def finish (finalNewline : Bool) (text : List Char) : List Char :=
  if finalNewline then
    if text.getLast? == some '\n' then text else text ++ ['\n']
  else withoutFinalNewlines text

/-- The text of the tree in the format of the document, before its end is adjusted. -/
def body (document : Document) : List Char :=
  match document.format with
  | .json => Json.write document.layout.indent 0 document.root
  | .yaml => Yaml.write document.root

/-- Render a document. One with a number that would change is refused. -/
def render (document : Document) : Except RenderError (List Char) :=
  match document.layout.lossyNumber with
  | some number => .error (.lossyNumber number)
  | none => .ok (finish document.layout.finalNewline document.body)

end Document

end ReleaseRules
