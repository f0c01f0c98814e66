import ReleaseRules.Document.Tree
import ReleaseRules.Number.Shortest

/-!
Contract: writing trees as JSON.

Owns:
- the escapes of strings;
- the compact layout and the indented one, which are one function of the indent unit.

Does not own: the choice of the layout of a document.
-/

namespace ReleaseRules.Json

open ReleaseRules.Number (FloatNotation integerText)

/-- Numbers with an exponent carry its sign. -/
def numberNotation : FloatNotation := ⟨"+"⟩

/-- A digit of a hexadecimal escape. -/
def hexDigitChar (value : Nat) : Char :=
  if value < 10 then Char.ofNat (48 + value) else Char.ofNat (87 + value)

/-- The written form of one character of a string. -/
def escape (character : Char) : List Char :=
  if character = '"' then ['\\', '"']
  else if character = '\\' then ['\\', '\\']
  else if character = '\x08' then ['\\', 'b']
  else if character = '\x0c' then ['\\', 'f']
  else if character = '\n' then ['\\', 'n']
  else if character = '\r' then ['\\', 'r']
  else if character = '\t' then ['\\', 't']
  else if character.toNat < 32 then
    ['\\', 'u', '0', '0', hexDigitChar (character.toNat / 16),
      hexDigitChar (character.toNat % 16)]
  else [character]

/-- A string between quotes. -/
def writeString (value : String) : List Char :=
  '"' :: (value.toList.flatMap escape ++ ['"'])

/-- A number. -/
def writeNumber : TreeNumber → List Char
  | .integer value => integerText value
  | .floating value => value.text numberNotation

/-- What starts a line at a nesting level: nothing in the compact layout. -/
def lineStart (unit : Option (List Char)) (level : Nat) : List Char :=
  match unit with
  | none => []
  | some indent => '\n' :: (List.replicate level indent).flatten

/-- What stands between a key and its value. -/
def colon (unit : Option (List Char)) : List Char :=
  match unit with
  | none => [':']
  | some _ => [':', ' ']

mutual

/-- Write a tree at a nesting level; `unit` is the indent unit, and without one the layout is
compact. -/
def write (unit : Option (List Char)) (level : Nat) : Tree → List Char
  | .null => ['n', 'u', 'l', 'l']
  | .bool true => ['t', 'r', 'u', 'e']
  | .bool false => ['f', 'a', 'l', 's', 'e']
  | .number value => writeNumber value
  | .text value => writeString value
  | .list [] => ['[', ']']
  | .list (item :: rest) =>
      '[' :: (lineStart unit (level + 1) ++ write unit (level + 1) item ++
        writeItems unit (level + 1) rest ++ lineStart unit level ++ [']'])
  | .map [] => ['\x7b', '\x7d']
  | .map ((key, value) :: rest) =>
      '\x7b' :: (lineStart unit (level + 1) ++ writeString key ++ colon unit ++
        write unit (level + 1) value ++ writeEntries unit (level + 1) rest ++
        lineStart unit level ++ ['\x7d'])

/-- Write the items after the first. -/
def writeItems (unit : Option (List Char)) (level : Nat) : List Tree → List Char
  | [] => []
  | item :: rest =>
      ',' :: (lineStart unit level ++ write unit level item ++ writeItems unit level rest)

/-- Write the entries after the first. -/
def writeEntries (unit : Option (List Char)) (level : Nat) :
    List (String × Tree) → List Char
  | [] => []
  | (key, value) :: rest =>
      ',' :: (lineStart unit level ++ writeString key ++ colon unit ++
        write unit level value ++ writeEntries unit level rest)

end

/-- The compact text of a tree. -/
def compactText (tree : Tree) : String := String.ofList (write none 0 tree)

end ReleaseRules.Json
