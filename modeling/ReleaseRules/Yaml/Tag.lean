import ReleaseRules.Yaml.ScalarText

/-!
Contract: the written forms of names: anchors, tags and directives.

Owns:
- names of anchors and aliases;
- tags with their handles, and the escapes in their suffixes;
- version and tag directives.

Does not own: what a handle stands for.
-/

namespace ReleaseRules.Yaml

/-- Whether a character may follow the name of an anchor. -/
def endsAnchor (text : List Char) : Bool :=
  startsSeparated text ||
    text.head?.any fun character =>
      character = '?' || character = ':' || character = ',' || character = ']' ||
        character = '\x7d' || character = '%' || character = '@' || character = '\x60'

/-- Read the name of an anchor or alias behind its mark. -/
def readAnchorName (cursor : Cursor) : Except ReadError (List Char × Cursor) :=
  let name := cursor.rest.takeWhile isNameCharacter
  let cursor := cursor.skip name.length
  if name.isEmpty || !endsAnchor cursor.rest then .error .invalidName else .ok (name, cursor)

/-- Whether a character may stand in the suffix of a tag. Inside angle brackets more are
allowed. -/
def isTagCharacter (verbatim : Bool) (character : Char) : Bool :=
  isNameCharacter character ||
    (";/?:@&=+$.%!~*'()".toList.contains character) ||
    (verbatim && (character = ',' || character = '[' || character = ']'))

/-- The octet that two hexadecimal digits behind a percent sign denote. -/
def percentOctet? : List Char → Option (Nat × List Char)
  | '%' :: first :: second :: rest => do
      let high ← hexDigit? first
      let low ← hexDigit? second
      return (16 * high + low, rest)
  | _ => none

/-- Read further octets of an escaped character; each adds six bits to the value. -/
def readContinuation : Nat → Nat → List Char → Except ReadError (Nat × List Char)
  | 0, value, text => .ok (value, text)
  | count + 1, value, text =>
      match percentOctet? text with
      | some (octet, rest) =>
          if 0x80 ≤ octet ∧ octet < 0xC0 then
            readContinuation count (64 * value + (octet - 0x80)) rest
          else .error .invalidTag
      | none => .error .invalidTag

/-- Read a character written as escaped octets, and give the length of its written form. -/
def readPercent (text : List Char) : Except ReadError (Char × Nat) :=
  match percentOctet? text with
  | none => .error .invalidTag
  | some (octet, rest) => do
      let (value, count) ←
        if octet < 0x80 then Except.ok (octet, 0)
        else if 0xC0 ≤ octet ∧ octet < 0xE0 then .ok (octet - 0xC0, 1)
        else if 0xE0 ≤ octet ∧ octet < 0xF0 then .ok (octet - 0xE0, 2)
        else if 0xF0 ≤ octet ∧ octet < 0xF8 then .ok (octet - 0xF0, 3)
        else .error .invalidTag
      let (value, _) ← readContinuation count value rest
      if value.isValidChar then return (Char.ofNat value, 3 * (count + 1))
      else throw .invalidTag

/-- Read the suffix of a tag. `budget` bounds the number of characters. -/
def readTagSuffix (verbatim : Bool) :
    Nat → Cursor → Except ReadError (List Char × Cursor)
  | 0, cursor => .ok ([], cursor)
  | budget + 1, cursor =>
      match cursor.rest with
      | [] => .ok ([], cursor)
      | character :: _ =>
          if character = '%' then do
            let (shown, length) ← readPercent cursor.rest
            let (more, cursor) ← readTagSuffix verbatim budget (cursor.skip length)
            return (shown :: more, cursor)
          else if isTagCharacter verbatim character then do
            let (more, cursor) ← readTagSuffix verbatim budget (cursor.skip 1)
            return (character :: more, cursor)
          else .ok ([], cursor)

/-- Read a suffix that must not be empty. -/
def readWholeSuffix (verbatim : Bool) (cursor : Cursor) :
    Except ReadError (List Char × Cursor) := do
  let (suffix, cursor) ← readTagSuffix verbatim (cursor.rest.length + 1) cursor
  if suffix.isEmpty then throw .invalidTag else return (suffix, cursor)

/-- Read a handle, with the exclamation marks at its ends; the cursor is at the first one. The
second one may be missing. -/
def readHandle (cursor : Cursor) : Except ReadError (List Char × Cursor) :=
  match cursor.rest with
  | '!' :: rest =>
      let name := rest.takeWhile isNameCharacter
      let after := cursor.skip (name.length + 1)
      match after.rest with
      | '!' :: _ => .ok ('!' :: (name ++ ['!']), after.skip 1)
      | _ => .ok ('!' :: name, after)
  | _ => .error .invalidTag

/-- Whether a handle is closed by a second exclamation mark. -/
def isClosedHandle (handle : List Char) : Bool :=
  1 < handle.length && handle.getLast? == some '!'

/-- Read a tag: its handle, which may be empty, and its suffix. -/
def readTag (inFlow : Bool) (cursor : Cursor) :
    Except ReadError (List Char × List Char × Cursor) := do
  let (handle, suffix, cursor) ←
    match cursor.rest with
    | '!' :: '<' :: _ => do
        let (suffix, cursor) ← readWholeSuffix true (cursor.skip 2)
        match cursor.rest with
        | '>' :: _ => Except.ok ([], suffix, cursor.skip 1)
        | _ => .error .invalidTag
    | _ => do
        let (handle, cursor) ← readHandle cursor
        if isClosedHandle handle then do
          let (suffix, cursor) ← readWholeSuffix false cursor
          Except.ok (handle, suffix, cursor)
        else do
          let (more, cursor) ← readTagSuffix false (cursor.rest.length + 1) cursor
          let suffix := handle.drop 1 ++ more
          if suffix.isEmpty then Except.ok ([], ['!'], cursor)
          else Except.ok (['!'], suffix, cursor)
  if (inFlow && cursor.rest.head? == some ',') || cursor.atSeparator then
    return (handle, suffix, cursor)
  else throw .invalidTag

/-- Read a part of a version: one to nine digits. -/
def readVersionPart (cursor : Cursor) : Except ReadError (Nat × Cursor) :=
  let digits := cursor.rest.takeWhile Char.isDigit
  if digits.isEmpty || 9 < digits.length then .error .invalidDirective
  else
    .ok (digits.foldl (fun value digit => 10 * value + (digit.toNat - 48)) 0,
      cursor.skip digits.length)

/-- Read the value of a version directive. -/
def readVersion (cursor : Cursor) : Except ReadError (Token × Cursor) := do
  let (major, cursor) ← readVersionPart cursor.skipBlanks
  match cursor.rest with
  | '.' :: _ =>
      let (minor, cursor) ← readVersionPart (cursor.skip 1)
      return (.versionDirective major minor, cursor)
  | _ => throw .invalidDirective

/-- Read the value of a tag directive. -/
def readTagDirective (cursor : Cursor) : Except ReadError (Token × Cursor) := do
  let (handle, cursor) ← readHandle cursor.skipBlanks
  if !(isClosedHandle handle || handle == ['!']) then throw .invalidDirective
  if !(cursor.rest.head?.any isBlank) then throw .invalidDirective
  let (start, cursor) ← readWholeSuffix true cursor.skipBlanks
  if cursor.atSeparator then return (.tagDirective handle start, cursor)
  else throw .invalidDirective

/-- Read a directive with the rest of its line; the cursor is at its percent sign. -/
def readDirective (cursor : Cursor) : Except ReadError (Token × Cursor) := do
  let cursor := cursor.skip 1
  let name := cursor.rest.takeWhile isNameCharacter
  let cursor := cursor.skip name.length
  if name.isEmpty || !cursor.atSeparator then throw .invalidDirective
  let (token, cursor) ←
    if name = "YAML".toList then readVersion cursor
    else if name = "TAG".toList then readTagDirective cursor
    else throw .invalidDirective
  let cursor := cursor.skipBlanks.skipComment
  if cursor.rest.isEmpty || cursor.atBreak then return (token, cursor.takeBreak.2)
  else throw .invalidDirective

end ReleaseRules.Yaml
