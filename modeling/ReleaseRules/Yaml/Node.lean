import ReleaseRules.Yaml.Lexer

/-!
Contract: the nodes of a YAML document, with aliases still in place.

Owns:
- the node type, with labels for anchored nodes;
- the grammar by which tokens make up nodes, and the handles of tags;
- the document of a text, of which there is at most one.

Does not own: what aliases stand for and the values of scalars.
-/

namespace ReleaseRules.Yaml

/-- Node of a document. A label stands for an anchor; an alias carries the label of its
anchor. -/
inductive Node where
  | scalar (label : Option Nat) (tag : Option String) (style : ScalarStyle)
      (text : List Char)
  | sequence (label : Option Nat) (tag : Option String) (items : List Node)
  | mapping (label : Option Nat) (tag : Option String) (entries : List (Node × Node))
  | alias (label : Nat)
deriving Repr, Inhabited

namespace Node

/-- A scalar that is not written. -/
def missing : Node := .scalar none none .plain []

/-- Labels by the names of anchors. -/
abbrev Labels := List (List Char × Nat)

/-- Give a name the next label. The next label is the number of names, so that a name which
is used again shares its label with the next new one. -/
def addLabel (labels : Labels) (name : List Char) : Nat × Labels :=
  (labels.length, (name, labels.length) :: labels.filter (·.1 != name))

/-- What handles of tags stand for. -/
abbrev Handles := List (List Char × List Char)

/-- The handles that need no directive. -/
def defaultHandles : Handles :=
  [(['!'], ['!']), (['!', '!'], "tag:yaml.org,2002:".toList)]

/-- The tag of a handle and a suffix. -/
def fullTag (handles : Handles) (handle suffix : List Char) : Except ReadError String :=
  if handle.isEmpty then .ok (String.ofList suffix)
  else
    match handles.lookup handle with
    | some start => .ok (String.ofList (start ++ suffix))
    | none => .error .undefinedHandle

/-- What may stand in front of a node: an anchor and a tag in either order. -/
structure Properties where
  anchor : Option (List Char)
  tag : Option String
  present : Bool
deriving Repr

/-- Read the anchor and the tag in front of a node. -/
def readProperties (handles : Handles) :
    List Token → Except ReadError (Properties × List Token)
  | .anchor name :: .tag handle suffix :: rest => do
      return (⟨some name, some (← fullTag handles handle suffix), true⟩, rest)
  | .tag handle suffix :: .anchor name :: rest => do
      return (⟨some name, some (← fullTag handles handle suffix), true⟩, rest)
  | .anchor name :: rest => .ok (⟨some name, none, true⟩, rest)
  | .tag handle suffix :: rest => do
      return (⟨none, some (← fullTag handles handle suffix), true⟩, rest)
  | rest => .ok (⟨none, none, false⟩, rest)

/-- The label of an anchor, if there is one. -/
def labelFor (labels : Labels) : Option (List Char) → Option Nat × Labels
  | none => (none, labels)
  | some name =>
      let (label, labels) := addLabel labels name
      (some label, labels)

/-- Where a node stands, which decides what it may be. -/
structure Place where
  block : Bool
  indentless : Bool
deriving DecidableEq, Repr

/-- Whether the tokens after a key's mark start no node. -/
def endsKey : List Token → Bool
  | .key :: _ => true
  | .value :: _ => true
  | .blockEnd :: _ => true
  | [] => true
  | _ => false

/-- Whether the tokens in a flow mapping start no node. -/
def endsFlowNode (close : Token) (tokens : List Token) (withValue : Bool) : Bool :=
  match tokens with
  | .value :: _ => withValue
  | .flowEntry :: _ => true
  | token :: _ => token = close
  | [] => false

/-- What was read, the labels given so far and the tokens after it. -/
abbrev Step (α : Type) := α × Labels × List Token

mutual

/-- Read a node at a place. `budget` bounds the depth of the recursion. -/
def read (handles : Handles) :
    Nat → Place → Labels → List Token → Except ReadError (Step Node)
  | 0, _, _, _ => .error .unexpectedEnd
  | budget + 1, place, labels, tokens =>
      match tokens with
      | .alias name :: rest =>
          match labels.lookup name with
          | some label => .ok (.alias label, labels, rest)
          | none => .error .unknownAnchor
      | _ => do
          let (properties, rest) ← readProperties handles tokens
          let (label, labels) := labelFor labels properties.anchor
          let tag := properties.tag
          match rest with
          | .scalar style text :: rest =>
              return (.scalar label tag style text, labels, rest)
          | .flowSequenceStart :: rest => do
              let (items, labels, rest) ← readFlowItems handles budget true labels rest
              return (.sequence label tag items, labels, rest)
          | .flowMappingStart :: rest => do
              let (entries, labels, rest) ← readFlowEntries handles budget true labels rest
              return (.mapping label tag entries, labels, rest)
          | token :: after =>
              if token = .blockEntry ∧ place.indentless then do
                let (items, labels, rest) ← readIndentless handles budget labels rest
                return (.sequence label tag items, labels, rest)
              else if token = .blockSequenceStart ∧ place.block then do
                let (items, labels, rest) ← readBlockItems handles budget labels after
                return (.sequence label tag items, labels, rest)
              else if token = .blockMappingStart ∧ place.block then do
                let (entries, labels, rest) ← readBlockEntries handles budget labels after
                return (.mapping label tag entries, labels, rest)
              else if properties.present then
                return (.scalar label tag .plain [], labels, rest)
              else throw .unexpectedToken
          | [] =>
              if properties.present then return (.scalar label tag .plain [], labels, [])
              else throw .unexpectedEnd

/-- Read the items of a block sequence up to its end. -/
def readBlockItems (handles : Handles) :
    Nat → Labels → List Token → Except ReadError (Step (List Node))
  | 0, _, _ => .error .unexpectedEnd
  | budget + 1, labels, tokens =>
      match tokens with
      | .blockEnd :: rest => .ok ([], labels, rest)
      | .blockEntry :: rest => do
          let (item, labels, rest) ←
            match rest with
            | .blockEntry :: _ => Except.ok (missing, labels, rest)
            | .blockEnd :: _ => Except.ok (missing, labels, rest)
            | _ => read handles budget ⟨true, false⟩ labels rest
          let (items, labels, rest) ← readBlockItems handles budget labels rest
          return (item :: items, labels, rest)
      | _ => .error .unexpectedToken

/-- Read the items of a block sequence that is not indented; it ends before the first token
that is not an entry. -/
def readIndentless (handles : Handles) :
    Nat → Labels → List Token → Except ReadError (Step (List Node))
  | 0, _, _ => .error .unexpectedEnd
  | budget + 1, labels, tokens =>
      match tokens with
      | .blockEntry :: rest => do
          let (item, labels, rest) ←
            match rest with
            | .blockEntry :: _ => Except.ok (missing, labels, rest)
            | _ =>
                if endsKey rest then Except.ok (missing, labels, rest)
                else read handles budget ⟨true, false⟩ labels rest
          let (items, labels, rest) ← readIndentless handles budget labels rest
          return (item :: items, labels, rest)
      | _ => .ok ([], labels, tokens)

/-- Read the entries of a block mapping up to its end. -/
def readBlockEntries (handles : Handles) :
    Nat → Labels → List Token → Except ReadError (Step (List (Node × Node)))
  | 0, _, _ => .error .unexpectedEnd
  | budget + 1, labels, tokens =>
      match tokens with
      | .blockEnd :: rest => .ok ([], labels, rest)
      | .key :: rest => do
          let (key, labels, rest) ←
            if endsKey rest then Except.ok (missing, labels, rest)
            else read handles budget ⟨true, true⟩ labels rest
          let (value, labels, rest) ←
            match rest with
            | .value :: rest =>
                if endsKey rest then Except.ok (missing, labels, rest)
                else read handles budget ⟨true, true⟩ labels rest
            | _ => Except.ok (missing, labels, rest)
          let (entries, labels, rest) ← readBlockEntries handles budget labels rest
          return ((key, value) :: entries, labels, rest)
      | _ => .error .unexpectedToken

/-- Read the items of a flow sequence up to its bracket. -/
def readFlowItems (handles : Handles) :
    Nat → Bool → Labels → List Token → Except ReadError (Step (List Node))
  | 0, _, _, _ => .error .unexpectedEnd
  | budget + 1, first, labels, tokens => do
      let tokens ←
        match tokens with
        | .flowSequenceEnd :: _ => Except.ok tokens
        | .flowEntry :: rest => if first then Except.ok tokens else Except.ok rest
        | _ => if first then Except.ok tokens else Except.error ReadError.unexpectedToken
      match tokens with
      | .flowSequenceEnd :: rest => return ([], labels, rest)
      | .key :: rest => do
          let (entry, labels, rest) ← readFlowPair handles budget labels rest
          let (items, labels, rest) ← readFlowItems handles budget false labels rest
          return (.mapping none none [entry] :: items, labels, rest)
      | _ => do
          let (item, labels, rest) ← read handles budget ⟨false, false⟩ labels tokens
          let (items, labels, rest) ← readFlowItems handles budget false labels rest
          return (item :: items, labels, rest)

/-- Read a single pair in a flow sequence. Without a key, the token in its place is passed
over. -/
def readFlowPair (handles : Handles) :
    Nat → Labels → List Token → Except ReadError (Step (Node × Node))
  | 0, _, _ => .error .unexpectedEnd
  | budget + 1, labels, tokens => do
      let (key, labels, rest) ←
        if endsFlowNode .flowSequenceEnd tokens true then
          Except.ok (missing, labels, tokens.drop 1)
        else read handles budget ⟨false, false⟩ labels tokens
      let (value, labels, rest) ←
        match rest with
        | .value :: rest =>
            if endsFlowNode .flowSequenceEnd rest false then Except.ok (missing, labels, rest)
            else read handles budget ⟨false, false⟩ labels rest
        | _ => Except.ok (missing, labels, rest)
      return ((key, value), labels, rest)

/-- Read the entries of a flow mapping up to its brace. -/
def readFlowEntries (handles : Handles) :
    Nat → Bool → Labels → List Token → Except ReadError (Step (List (Node × Node)))
  | 0, _, _, _ => .error .unexpectedEnd
  | budget + 1, first, labels, tokens => do
      let tokens ←
        match tokens with
        | .flowMappingEnd :: _ => Except.ok tokens
        | .flowEntry :: rest => if first then Except.ok tokens else Except.ok rest
        | _ => if first then Except.ok tokens else Except.error ReadError.unexpectedToken
      match tokens with
      | .flowMappingEnd :: rest => return ([], labels, rest)
      | .key :: rest => do
          let (key, labels, rest) ←
            if endsFlowNode .flowMappingEnd rest true then Except.ok (missing, labels, rest)
            else read handles budget ⟨false, false⟩ labels rest
          let (value, labels, rest) ←
            match rest with
            | .value :: rest =>
                if endsFlowNode .flowMappingEnd rest false then
                  Except.ok (missing, labels, rest)
                else read handles budget ⟨false, false⟩ labels rest
            | _ => Except.ok (missing, labels, rest)
          let (entries, labels, rest) ← readFlowEntries handles budget false labels rest
          return ((key, value) :: entries, labels, rest)
      | _ => do
          let (key, labels, rest) ← read handles budget ⟨false, false⟩ labels tokens
          let (entries, labels, rest) ← readFlowEntries handles budget false labels rest
          return ((key, missing) :: entries, labels, rest)

end

/-- Directives in front of a document: the version, if it is given, and the handles. -/
structure Directives where
  version : Bool
  handles : Handles
deriving Repr

/-- Read the directives in front of a document. A second version and a second use of a handle
are refused. -/
def readDirectives (directives : Directives) :
    List Token → Except ReadError (Directives × List Token)
  | .versionDirective major minor :: rest =>
      if directives.version then .error .invalidDirective
      else if major = 1 ∧ (minor = 1 ∨ minor = 2) then
        readDirectives { directives with version := true } rest
      else .error .incompatibleVersion
  | .tagDirective handle start :: rest =>
      if (directives.handles.lookup handle).isSome then .error .invalidDirective
      else
        readDirectives { directives with handles := directives.handles ++ [(handle, start)] }
          rest
  | rest => .ok (directives, rest)

/-- Whether the tokens start no content of a document. -/
def startsNoContent : List Token → Bool
  | [] => true
  | .versionDirective _ _ :: _ => true
  | .tagDirective _ _ :: _ => true
  | .documentStart :: _ => true
  | .documentEnd :: _ => true
  | _ => false

/-- Read a node that makes up a whole document. -/
def readRoot (handles : Handles) (tokens : List Token) :
    Except ReadError (Node × List Token) := do
  let (node, _, rest) ← read handles (4 * tokens.length + 4) ⟨true, false⟩ [] tokens
  return (node, rest)

/-- The tokens without leading ends of documents. -/
def skipDocumentEnds : List Token → List Token
  | .documentEnd :: rest => skipDocumentEnds rest
  | tokens => tokens

/-- Read the first document. Without tokens there is none. -/
def readDocument (tokens : List Token) : Except ReadError (Option Node × List Token) := do
  match tokens with
  | [] => return (none, [])
  | _ =>
      let (directives, rest) ← readDirectives ⟨false, []⟩ tokens
      let handles := directives.handles ++ defaultHandles
      match rest with
      | .documentStart :: content =>
          if startsNoContent content then return (some missing, content)
          else do
            let (node, rest) ← readRoot handles content
            return (some node, rest)
      | _ =>
          if rest.length < tokens.length then throw .unexpectedToken
          else do
            let (node, rest) ← readRoot handles tokens
            return (some node, rest)

/-- The only document of a text. -/
def document (text : List Char) : Except ReadError (Option Node) := do
  let (node, rest) ← readDocument (← tokens text)
  if (skipDocumentEnds rest).isEmpty then return node else throw .severalDocuments

mutual

/-- The anchored nodes in document order. -/
def anchored : Node → List (Nat × Node)
  | .scalar label tag style text => (label.map (·, .scalar label tag style text)).toList
  | .sequence label tag items =>
      (label.map (·, .sequence label tag items)).toList ++ anchoredItems items
  | .mapping label tag entries =>
      (label.map (·, .mapping label tag entries)).toList ++ anchoredEntries entries
  | .alias _ => []

/-- The anchored nodes of items. -/
def anchoredItems : List Node → List (Nat × Node)
  | [] => []
  | item :: rest => anchored item ++ anchoredItems rest

/-- The anchored nodes of keys and values. -/
def anchoredEntries : List (Node × Node) → List (Nat × Node)
  | [] => []
  | (key, value) :: rest => anchored key ++ anchored value ++ anchoredEntries rest

end

mutual

/-- The number of events that a node consists of: one for a scalar or an alias, two for the
ends of a collection. -/
def events : Node → Nat
  | .sequence _ _ items => 2 + itemEvents items
  | .mapping _ _ entries => 2 + entryEvents entries
  | _ => 1

/-- The number of events of items. -/
def itemEvents : List Node → Nat
  | [] => 0
  | item :: rest => events item + itemEvents rest

/-- The number of events of keys and values. -/
def entryEvents : List (Node × Node) → Nat
  | [] => 0
  | (key, value) :: rest => events key + events value + entryEvents rest

end

end Node

end ReleaseRules.Yaml
