import ReleaseRules.Template.Placeholder
import ReleaseRules.Template.Slug
import ReleaseRules.Version

/-!
Contract: expansion of templates with calls of functions.

Owns:
- the functions and the form of their calls;
- slots, which stand for text that is not to be read as a call;
- the passes that evaluate calls from the inside out.

Does not own: substitution without calls.
-/

namespace ReleaseRules.Template

open Unicode (isWord trim)

/-- Texts that slots stand for, by number. -/
abbrev Slots := Array (List Char)

/-- The mark that opens a slot. -/
def slotOpen : Char := '\uE000'

/-- The mark that closes a slot. -/
def slotClose : Char := '\uE001'

/-- The written form of a slot. -/
def slotText (number : Nat) : List Char :=
  slotOpen :: (Number.digitsOf number ++ [slotClose])

/-- Keep a text in a new slot. -/
def Slots.keep (slots : Slots) (text : List Char) : List Char × Slots :=
  (slotText slots.size, slots.push text)

/-- The number of a slot at the start of a text, with the text after it. -/
def slot? (text : List Char) : Option (Nat × List Char) :=
  match text with
  | [] => none
  | first :: rest =>
      if first = slotOpen then
        match rest.dropWhile Number.isDecimalDigit with
        | close :: after =>
            if close = slotClose then
              (Number.natural? 10 (rest.takeWhile Number.isDecimalDigit)).map (·, after)
            else none
        | [] => none
      else none

/-- Put the kept texts in the place of their slots; the texts are not read again. `skip`
characters belong to the last slot. -/
def fillFrom (slots : Slots) (skip : Nat) : List Char → List Char
  | [] => []
  | character :: rest =>
      match skip with
      | more + 1 => fillFrom slots more rest
      | 0 =>
          match slot? (character :: rest) with
          | some (number, after) =>
              let length := rest.length - after.length
              match slots[number]? with
              | some text => text ++ fillFrom slots length rest
              | none => character :: (rest.take length ++ fillFrom slots length rest)
          | none => character :: fillFrom slots 0 rest

/-- Put the kept texts in the place of their slots. -/
def fill (slots : Slots) (text : List Char) : List Char := fillFrom slots 0 text

/-- Put the values of variables into slots. -/
def markPieces (bindings : Variables) : List Piece → Slots → List Char × Slots
  | [], slots => ([], slots)
  | piece :: rest, slots =>
      match piece with
      | .literal character =>
          let (text, slots) := markPieces bindings rest slots
          (character :: text, slots)
      | .placeholder name source =>
          match Tree.lookup name bindings with
          | some value =>
              let (shown, slots) := slots.keep value.toList
              let (text, slots) := markPieces bindings rest slots
              (shown ++ text, slots)
          | none =>
              let (text, slots) := markPieces bindings rest slots
              (source ++ text, slots)

/-- Whether a character can start the name of a function. -/
def isFunctionStart (character : Char) : Bool :=
  ('a' ≤ character && character ≤ 'z') || character = '_'

/-- Whether a character can follow in the name of a function. -/
def isFunctionPart (character : Char) : Bool :=
  isFunctionStart character || ('0' ≤ character && character ≤ '9')

/-- Whether a character is no parenthesis. -/
def isInsideCall (character : Char) : Bool := character != '(' && character != ')'

/-- A call as written: name, arguments and the text after it. -/
structure Call where
  name : List Char
  arguments : List Char
  after : List Char
deriving DecidableEq, Repr

/-- A call at the start of a text. The name has to begin at a word boundary, and no
parenthesis stands between those of the call. -/
def call? (before : Option Char) (text : List Char) : Option Call :=
  match text with
  | [] => none
  | first :: rest =>
      if isFunctionStart first && !(before.any isWord) then
        match rest.dropWhile isFunctionPart with
        | '(' :: inside =>
            match inside.dropWhile isInsideCall with
            | ')' :: after =>
                some ⟨first :: rest.takeWhile isFunctionPart, inside.takeWhile isInsideCall,
                  after⟩
            | _ => none
        | _ => none
      else none

/-- The text between two equal quotes, if that is what it is. -/
def unquote? (quote : Char) (text : List Char) : Option (List Char) :=
  (Text.stripPrefix? [quote] text).bind (Text.stripSuffix? [quote])

/-- One argument: without white space around it and without one pair of quotes. -/
def argument (raw : List Char) : List Char :=
  let shown := trim raw
  match unquote? '"' shown with
  | some text => text
  | none =>
      match unquote? '\'' shown with
      | some text => text
      | none => shown

/-- The arguments of a call. -/
def arguments (raw : List Char) : List (List Char) :=
  if (trim raw).isEmpty then [] else (Text.splitAt ',' raw).map argument

/-- The value of a call; nothing when the function is unknown or its arguments do not fit. -/
def evaluate (name : String) (values : List (List Char)) : Option (List Char) :=
  match name, values with
  | "strip_prefix", [value, start] => some ((Text.stripPrefix? start value).getD value)
  | "strip_suffix", [value, suffix] => some ((Text.stripSuffix? suffix value).getD value)
  | "major", [value] => (Version.parse? value).map fun version => Number.digitsOf version.major
  | "minor", [value] => (Version.parse? value).map fun version => Number.digitsOf version.minor
  | "patch", [value] => (Version.parse? value).map fun version => Number.digitsOf version.patch
  | "lower", [value] => some (Unicode.lowerText value)
  | "slug", [value] => some (slug value)
  | _, _ => none

/-- Evaluate the innermost calls from left to right. `before` is the character in front of the
text, and `skip` characters belong to the last call. -/
def evaluatePass (before : Option Char) (skip : Nat) :
    List Char → Slots → List Char × Slots
  | [], slots => ([], slots)
  | character :: rest, slots =>
      match skip with
      | more + 1 => evaluatePass (some character) more rest slots
      | 0 =>
          match call? before (character :: rest) with
          | none =>
              let (text, slots) := evaluatePass (some character) 0 rest slots
              (character :: text, slots)
          | some call =>
              let length := rest.length - call.after.length
              let values := (arguments call.arguments).map (fill slots)
              match evaluate (String.ofList call.name) values with
              | some result =>
                  let (shown, slots) := slots.keep result
                  let (text, slots) := evaluatePass (some character) length rest slots
                  (shown ++ text, slots)
              | none =>
                  let (text, slots) := evaluatePass (some character) length rest slots
                  (character :: (rest.take length ++ text), slots)

/-- The greatest number of passes. -/
def passLimit : Nat := 8

/-- Passes until nothing changes or the number of passes is used up. -/
def evaluatePasses : Nat → List Char → Slots → List Char × Slots
  | 0, text, slots => (text, slots)
  | more + 1, text, slots =>
      let (next, slots) := evaluatePass none 0 text slots
      if next = text then (text, slots) else evaluatePasses more next slots

/-- Expand a template: values of variables go into slots, calls are evaluated, and at the end
the slots are filled. -/
def expand (template : List Char) (bindings : Variables) : List Char :=
  let (marked, slots) := markPieces bindings (pieces template) #[]
  let (evaluated, slots) := evaluatePasses passLimit marked slots
  fill slots evaluated

end ReleaseRules.Template
