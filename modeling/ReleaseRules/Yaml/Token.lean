/-!
Contract: the tokens of YAML texts.

Owns:
- styles of scalars and kinds of tokens;
- the reasons for which a text is refused.

Does not own: reading tokens from a text.
-/

namespace ReleaseRules.Yaml

/-- How a scalar is written. -/
inductive ScalarStyle where
  | plain
  | singleQuoted
  | doubleQuoted
  | literal
  | folded
deriving DecidableEq, Repr, Inhabited

/-- Token of a text. The end of the text is the end of the list of tokens. -/
inductive Token where
  | versionDirective (major minor : Nat)
  | tagDirective (handle start : List Char)
  | documentStart
  | documentEnd
  | blockSequenceStart
  | blockMappingStart
  | blockEnd
  | flowSequenceStart
  | flowSequenceEnd
  | flowMappingStart
  | flowMappingEnd
  | blockEntry
  | flowEntry
  | key
  | value
  | alias (name : List Char)
  | anchor (name : List Char)
  | tag (handle suffix : List Char)
  | scalar (style : ScalarStyle) (text : List Char)
deriving DecidableEq, Repr, Inhabited

/-- Reasons for which a text is refused. -/
inductive ReadError where
  | forbiddenCharacter (character : Char)
  | unexpectedCharacter (character : Char)
  | unexpectedEnd
  | tabInIndentation
  | invalidBlockHeader
  | invalidEscape
  | documentMarkInScalar
  | invalidName
  | invalidTag
  | invalidDirective
  | keyWithoutValue
  | entryNotAllowed
  | unexpectedToken
  | undefinedHandle
  | unknownAnchor
  | incompatibleVersion
  | severalDocuments
  | nestingTooDeep
  | tooManyAliases
  | duplicateKey
  | invalidScalar
  | integerTooLarge
  | shape
deriving DecidableEq, Repr

end ReleaseRules.Yaml
