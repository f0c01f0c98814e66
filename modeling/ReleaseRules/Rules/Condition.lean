import ReleaseRules.Document.Basic
import ReleaseRules.Files.World
import ReleaseRules.Regex.Basic
import ReleaseRules.Rules.Context

/-!
Contract: the conditions of rules.

Owns: the kinds of conditions and when they hold.

Does not own: how conditions are written.
-/

namespace ReleaseRules

/-- Condition on the file that a rule is applied to. -/
inductive Condition where
  | keyExists (key : String) (format : Option Format)
  | valueMatches (key pattern : String)
  | fileExists (path : Option String)
  | unknown
deriving DecidableEq, Repr, Inhabited

namespace Condition

/-- Whether a text has a match of a pattern; an invalid pattern matches nothing. -/
def hasMatch (pattern : String) (text : String) : Bool :=
  match Regex.compile pattern.toList with
  | .ok regex => regex.isMatch text.toList.toArray
  | .error _ => false

/-- Whether a condition holds for a text. What cannot be checked does not hold. -/
def holds (world : World) (context : Context) (text : List Char) : Condition → Bool
  | .keyExists key format =>
      let parsed :=
        match format with
        | some format => Document.parseAs text format
        | none => Document.parse text
      match parsed with
      | .ok document => (document.get key).isSome
      | .error _ => false
  | .valueMatches key pattern =>
      match Document.parse text with
      | .ok document => ((document.get key).bind Tree.asText).any (hasMatch pattern)
      | .error _ => false
  | .fileExists none => true
  | .fileExists (some path) =>
      context.baseDirectory.any fun base => world.contains (Path.join base path.toList)
  | .unknown => false

end Condition

end ReleaseRules
