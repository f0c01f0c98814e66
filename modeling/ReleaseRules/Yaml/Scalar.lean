import ReleaseRules.Number.Literal
import ReleaseRules.Number.Shortest
import ReleaseRules.Yaml.Token

/-!
Contract: the values of plain scalars.

Owns:
- null, truth values, integers and floating-point numbers in plain text;
- the tags that ask for one of these kinds.

Does not own: values of collections.
-/

namespace ReleaseRules.Yaml

open Number (Floating Binary64 decimalLiteral? natural? isDecimalDigit twoTo)

/-- Value of a scalar. -/
inductive Scalar where
  | null
  | bool (value : Bool)
  | integer (value : Int)
  | floating (value : Floating)
  | text (value : List Char)
deriving DecidableEq, Repr

/-- Whether a text is a written null. The empty text is not. -/
def isNull (text : List Char) : Bool :=
  ["~", "null", "Null", "NULL"].any (·.toList == text)

/-- The truth value that a text denotes. -/
def bool? (text : List Char) : Option Bool :=
  if ["true", "True", "TRUE"].any (·.toList == text) then some true
  else if ["false", "False", "FALSE"].any (·.toList == text) then some false
  else none

/-- The text behind an optional sign. -/
def withoutSign : List Char → List Char
  | '-' :: rest => rest
  | '+' :: rest => rest
  | text => text

/-- Whether a text consists of digits, the first of several being zero. Such a text is no
number. -/
def isZeroPadded (text : List Char) : Bool :=
  match withoutSign text with
  | '0' :: first :: rest => (first :: rest).all isDecimalDigit
  | _ => false

/-- The radix that a prefix asks for, with the digits behind the prefix. -/
def radix? : List Char → Option (Nat × List Char)
  | '0' :: 'x' :: digits => some (16, digits)
  | '0' :: 'o' :: digits => some (8, digits)
  | '0' :: 'b' :: digits => some (2, digits)
  | _ => none

/-- The natural number that digits in the notation of their prefix denote. -/
def magnitude? (text : List Char) : Option Nat :=
  match radix? text with
  | some (radix, digits) => natural? radix digits
  | none => natural? 10 text

/-- The integer that a text denotes. Integers of more than 128 bits are left to the
floating-point numbers. -/
def integer? (text : List Char) : Option Int :=
  if isZeroPadded text then none
  else
    match text with
    | '-' :: rest =>
        (magnitude? rest).bind fun value =>
          if value ≤ twoTo 127 then some (-(value : Int)) else none
    | '+' :: rest =>
        (magnitude? rest).bind fun value => if value < twoTo 128 then some (value : Int) else none
    | _ =>
        (magnitude? text).bind fun value => if value < twoTo 128 then some (value : Int) else none

/-- The floating-point number that a text denotes. A decimal literal has to be finite. -/
def floating? (text : List Char) : Option Floating :=
  let unsigned :=
    match text with
    | '+' :: rest => rest
    | _ => text
  if [".inf", ".Inf", ".INF"].any (·.toList == unsigned) then some (.infinity false)
  else if ["-.inf", "-.Inf", "-.INF"].any (·.toList == text) then some (.infinity true)
  else if [".nan", ".NaN", ".NAN"].any (·.toList == text) then some .notANumber
  else
    let literal :=
      match text with
      | '-' :: rest => decimalLiteral? true rest
      | _ => decimalLiteral? false unsigned
    match literal with
    | some (.finite value) => some (.finite value)
    | _ => none

/-- The value of a plain text. -/
def Scalar.ofPlain (text : List Char) : Scalar :=
  if text.isEmpty || isNull text then .null
  else
    match bool? text with
    | some value => .bool value
    | none =>
        match integer? text with
        | some value => .integer value
        | none =>
            if isZeroPadded text then .text text
            else
              match floating? text with
              | some value => .floating value
              | none => .text text

/-- The value of a scalar without a tag: only plain ones are more than texts. -/
def Scalar.ofStyle (style : ScalarStyle) (text : List Char) : Scalar :=
  if style = .plain then .ofPlain text else .text text

/-- The name of a local tag, which is what follows its exclamation mark. -/
def localName? (tag : String) : Option String :=
  match tag.toList with
  | '!' :: [] => some "!"
  | '!' :: rest => some (String.ofList rest)
  | _ => none

/-- The value of a scalar under a tag that is not local. -/
def Scalar.underTag (tag : String) (text : List Char) : Except ReadError Scalar :=
  match tag with
  | "tag:yaml.org,2002:bool" =>
      match bool? text with
      | some value => .ok (.bool value)
      | none => .error .invalidScalar
  | "tag:yaml.org,2002:int" =>
      match integer? text with
      | some value => .ok (.integer value)
      | none => .error .invalidScalar
  | "tag:yaml.org,2002:float" =>
      match floating? text with
      | some value => .ok (.floating value)
      | none => .error .invalidScalar
  | "tag:yaml.org,2002:null" => if isNull text then .ok .null else .error .invalidScalar
  | _ => .ok (.text text)

/-- Numbers have no sign in front of a positive exponent. -/
def numberNotation : Number.FloatNotation := ⟨""⟩

/-- The text of a floating-point number. -/
def floatingText : Floating → List Char
  | .finite value => value.text numberNotation
  | .infinity false => ".inf".toList
  | .infinity true => "-.inf".toList
  | .notANumber => ".nan".toList

end ReleaseRules.Yaml
