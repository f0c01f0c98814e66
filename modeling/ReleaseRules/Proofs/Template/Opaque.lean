import Mathlib.Data.List.DropRight
import Mathlib.Logic.Function.Iterate
import ReleaseRules.Proofs.Text.Runs
import ReleaseRules.Template.Expansion

/-!
Contract: templates whose variables are opaque, as the meaning of their expansion.

Owns:
- the symbols of a template: characters as written, and atoms that stand for a text as a whole;
- calls over symbols, and their arguments;
- passes over symbols, and the text that is left.

Does not own: how atoms are held in a text.

An atom is no character. It is never part of the name of a call, no separator, white space or quote
is found in it, and a pass cannot tell which text it stands for: the text comes in where a function
is given its arguments, and once for each atom at the end.
-/

namespace ReleaseRules.Template

open Unicode (isBlank isWord)

/-- Symbol of a template: a character as written, or an atom that stands for a text. -/
inductive Symbol where
  | literal (character : Char)
  | atom (text : List Char)
deriving DecidableEq, Repr

namespace Symbol

/-- The text that a symbol stands for. -/
def text : Symbol → List Char
  | .literal character => [character]
  | .atom text => text

/-- Whether a symbol is a character as written that passes a test; an atom never is. -/
def isLiteral (test : Char → Bool) : Symbol → Bool
  | .literal character => test character
  | .atom _ => false

/-- Whether a symbol may stand between the parentheses of an innermost call. -/
def isInside : Symbol → Bool
  | .literal character => isInsideCall character
  | .atom _ => true

/-- The text of symbols, each atom by its own text. -/
def textOf (symbols : List Symbol) : List Char := symbols.flatMap text

/-- The symbols of a piece of a template: a known variable is one atom, and an unknown one stays as
it is written. -/
def ofPiece (bindings : Variables) : Piece → List Symbol
  | .literal character => [.literal character]
  | .placeholder name source =>
      match Tree.lookup name bindings with
      | some value => [.atom value.toList]
      | none => source.map literal

end Symbol

open ReleaseRules.Template.Symbol (isLiteral isInside textOf)

/-! ## Calls -/

/-- A call over symbols: the characters of its name, the symbols between its parentheses and those
behind it. -/
structure SymbolCall where
  name : List Char
  inside : List Symbol
  after : List Symbol
deriving DecidableEq, Repr

/-- The symbols of a call as it is written. -/
def callSymbols (name : List Char) (inside : List Symbol) : List Symbol :=
  name.map Symbol.literal ++ .literal '(' :: (inside ++ [.literal ')'])

/-- An innermost call at the start of symbols. `before` is the symbol in front of them: a name does
not begin behind a character of a word. -/
def symbolCall? (before : Option Symbol) : List Symbol → Option SymbolCall
  | .literal first :: rest =>
      if isFunctionStart first && !before.any (isLiteral isWord) then
        match rest.dropWhile (isLiteral isFunctionPart) with
        | .literal '(' :: inside =>
            match inside.dropWhile isInside with
            | .literal ')' :: after =>
                some ⟨first :: textOf (rest.takeWhile (isLiteral isFunctionPart)),
                  inside.takeWhile isInside, after⟩
            | _ => none
        | _ => none
      else none
  | _ => none

theorem map_literal_textOf {test : Char → Bool} {symbols : List Symbol}
    (literal : ∀ symbol ∈ symbols, isLiteral test symbol = true) :
    (textOf symbols).map Symbol.literal = symbols := by
  induction symbols with
  | nil => rfl
  | cons first rest inductionHypothesis =>
      have later := inductionHypothesis fun symbol member =>
        literal symbol (List.mem_cons_of_mem first member)
      cases first with
      | literal character => exact congrArg (Symbol.literal character :: ·) later
      | atom text => cases literal (.atom text) List.mem_cons_self

/-- A call and what stands behind it are the symbols that it is found in. -/
theorem callSymbols_append {before : Option Symbol} {symbols : List Symbol} {call : SymbolCall}
    (found : symbolCall? before symbols = some call) :
    symbols = callSymbols call.name call.inside ++ call.after := by
  unfold symbolCall? at found
  split at found
  · rename_i first rest
    split at found
    · split at found
      · rename_i inside opened
        split at found
        · rename_i after closed
          obtain rfl := Option.some.inj found
          have name : (textOf (rest.takeWhile (isLiteral isFunctionPart))).map Symbol.literal =
              rest.takeWhile (isLiteral isFunctionPart) := by
            apply map_literal_textOf
            intro symbol member
            exact List.mem_takeWhile_imp member
          have written := Text.eq_append_of_dropWhile opened closed
          rw [callSymbols, List.map_cons, name]
          conv_lhs => rw [written]
          simp
        · cases found
      · cases found
    · cases found
  · cases found

theorem length_after_lt {before : Option Symbol} {symbols : List Symbol} {call : SymbolCall}
    (found : symbolCall? before symbols = some call) : call.after.length < symbols.length := by
  have lengths := congrArg List.length (callSymbols_append found)
  simp only [callSymbols, List.length_append, List.length_cons] at lengths
  omega

/-! ## Arguments -/

/-- Symbols without the white space that is written at their ends. -/
def trimSymbols (symbols : List Symbol) : List Symbol :=
  (symbols.dropWhile (isLiteral isBlank)).rdropWhile (isLiteral isBlank)

/-- The symbols between two written quotes, if that is what they are. -/
def unquoteSymbols? (quote : Char) : List Symbol → Option (List Symbol)
  | [] => none
  | first :: rest =>
      if first = .literal quote ∧ rest.getLast? = some (.literal quote) then some rest.dropLast
      else none

/-- One argument: without written white space around it and without one pair of written quotes. -/
def symbolArgument (symbols : List Symbol) : List Symbol :=
  let shown := trimSymbols symbols
  ((unquoteSymbols? '"' shown).orElse fun _ => unquoteSymbols? '\'' shown).getD shown

/-- The arguments between the parentheses of a call: the parts between written commas. Nothing but
written white space is no argument. -/
def symbolArguments (inside : List Symbol) : List (List Symbol) :=
  if inside.all (isLiteral isBlank) then []
  else (inside.splitOnP (isLiteral (· = ','))).map symbolArgument

/-! ## Passes -/

/-- What a pass finds in a row: a symbol of its own, or an innermost call. -/
inductive Finding where
  | single (symbol : Symbol)
  | call (name : List Char) (inside : List Symbol)
deriving DecidableEq, Repr

/-- The findings of a pass from left to right. Calls do not overlap: the search goes on behind the
last one. -/
def findCalls (before : Option Symbol) (symbols : List Symbol) : List Finding :=
  match symbols with
  | [] => []
  | first :: rest =>
      match _found : symbolCall? before (first :: rest) with
      | some call =>
          .call call.name call.inside :: findCalls (some (.literal ')')) call.after
      | none => .single first :: findCalls (some first) rest
termination_by symbols.length
decreasing_by
  · exact length_after_lt ‹_›
  · exact Nat.lt_succ_self _

/-- What a finding becomes: a call is one atom with its result if the function is known and the
arguments fit, each of them by its text; all else stays as it is. -/
def Finding.replaced : Finding → List Symbol
  | .single symbol => [symbol]
  | .call name inside =>
      match evaluate (String.ofList name) ((symbolArguments inside).map textOf) with
      | some result => [.atom result]
      | none => callSymbols name inside

/-- One pass: all innermost calls are replaced at once. -/
def symbolPass (symbols : List Symbol) : List Symbol :=
  (findCalls none symbols).flatMap Finding.replaced

/-- The expansion of a template whose variables are opaque: known variables become atoms, calls are
replaced in eight passes, of which those that find no call to replace change nothing, and at last
every atom gives way to its text. -/
def expandOpaque (template : List Char) (bindings : Variables) : List Char :=
  textOf (symbolPass^[8] ((pieces template).flatMap (Symbol.ofPiece bindings)))

end ReleaseRules.Template
