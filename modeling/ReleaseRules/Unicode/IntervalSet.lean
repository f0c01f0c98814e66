/-!
Contract: finite sets of code points, kept as inclusive intervals.

Owns:
- the interval type and the set operations that character classes need;
- the compact written form in which the property tables are stored.

Does not own: which characters have which property.
-/

namespace ReleaseRules.Unicode

/-- Inclusive interval of code points. -/
structure Interval where
  first : Nat
  last : Nat
deriving DecidableEq, Repr, Inhabited

/-- Whether a code point lies in the interval. -/
def Interval.contains (interval : Interval) (codePoint : Nat) : Bool :=
  decide (interval.first ≤ codePoint) && decide (codePoint ≤ interval.last)

/-- The largest code point. -/
def lastCodePoint : Nat := 0x10FFFF

/-- Set of code points as a list of intervals. -/
structure IntervalSet where
  intervals : List Interval
deriving DecidableEq, Repr, Inhabited

namespace IntervalSet

/-- The set without members. -/
def empty : IntervalSet := ⟨[]⟩

/-- Every code point. -/
def all : IntervalSet := ⟨[⟨0, lastCodePoint⟩]⟩

/-- The set of one code point. -/
def singleton (codePoint : Nat) : IntervalSet := ⟨[⟨codePoint, codePoint⟩]⟩

/-- The set of one interval. -/
def range (first last : Nat) : IntervalSet := ⟨[⟨first, last⟩]⟩

/-- Membership over a list sorted by `first`: the search ends at the first interval
that starts beyond the code point. -/
def containsSorted : List Interval → Nat → Bool
  | [], _ => false
  | interval :: rest, codePoint =>
      if codePoint < interval.first then false
      else if codePoint ≤ interval.last then true
      else containsSorted rest codePoint

/-- Membership of a code point; the set has to be normal. -/
def contains (set : IntervalSet) (codePoint : Nat) : Bool :=
  containsSorted set.intervals codePoint

/-- Membership of a character. -/
def hasChar (set : IntervalSet) (character : Char) : Bool :=
  set.contains character.toNat

/-- Join `current` with the intervals that touch or overlap it, in a list sorted by `first`, and
go on in the same way after the first gap. -/
def coalesceFrom (current : Interval) : List Interval → List Interval
  | [] => [current]
  | next :: rest =>
      if next.first ≤ current.last + 1 then
        coalesceFrom ⟨current.first, max current.last next.last⟩ rest
      else current :: coalesceFrom next rest

/-- Join intervals that touch or overlap, in a list sorted by `first`. -/
def coalesce : List Interval → List Interval
  | [] => []
  | interval :: rest => coalesceFrom interval rest

/-- The normal form: sorted, disjoint and with gaps between the intervals. -/
def normalize (intervals : List Interval) : IntervalSet :=
  ⟨coalesce (intervals.mergeSort fun left right => decide (left.first ≤ right.first))⟩

/-- Members of either set. -/
def union (left right : IntervalSet) : IntervalSet :=
  normalize (left.intervals ++ right.intervals)

/-- The gaps of a normal list from `start` on. -/
def gaps (start : Nat) : List Interval → List Interval
  | [] => if start ≤ lastCodePoint then [⟨start, lastCodePoint⟩] else []
  | interval :: rest =>
      if start < interval.first then
        ⟨start, interval.first - 1⟩ :: gaps (interval.last + 1) rest
      else gaps (interval.last + 1) rest

/-- All code points outside a normal set. -/
def complement (set : IntervalSet) : IntervalSet := ⟨gaps 0 set.intervals⟩

/-- Members of both sets. -/
def intersection (left right : IntervalSet) : IntervalSet :=
  complement (union (complement left) (complement right))

/-- Members of the left set that are not in the right one. -/
def difference (left right : IntervalSet) : IntervalSet :=
  intersection left (complement right)

/-- Members of exactly one of the two sets. -/
def symmetricDifference (left right : IntervalSet) : IntervalSet :=
  union (difference left right) (difference right left)

/-- Whether the set has no member. -/
def isEmpty (set : IntervalSet) : Bool := set.intervals.isEmpty

/-- Read space-separated hexadecimal numbers. -/
def hexNumbers (text : String) : List Nat :=
  (text.splitOn " ").map fun word =>
    word.toList.foldl (fun value digit =>
      16 * value + (if digit ≤ '9' then digit.toNat - 48 else digit.toNat - 87)) 0

/-- Intervals from alternating gaps and lengths, starting at `start`. -/
def ofGapsAndLengths (start : Nat) : List Nat → List Interval
  | gap :: length :: rest =>
      ⟨start + gap, start + gap + length - 1⟩ ::
        ofGapsAndLengths (start + gap + length) rest
  | _ => []

/-- Read a stored table: alternating gaps and lengths in hexadecimal. -/
def ofTable (table : String) : IntervalSet := ⟨ofGapsAndLengths 0 (hexNumbers table)⟩

/-- Read a stored partition of all code points: lengths in hexadecimal, each followed by a
label that starts with a capital letter. -/
def labelledRuns (start : Nat) : List String → List (Interval × String)
  | [] => []
  | word :: rest =>
      let digits := word.toList.takeWhile fun character => !character.isUpper
      let label := word.toList.dropWhile fun character => !character.isUpper
      let length := digits.foldl (fun value digit =>
        16 * value + (if digit ≤ '9' then digit.toNat - 48 else digit.toNat - 87)) 0
      (⟨start, start + length - 1⟩, String.ofList label) :: labelledRuns (start + length) rest

/-- The code points whose label is one of `labels`. -/
def ofLabels (runs : List (Interval × String)) (labels : List String) : IntervalSet :=
  ⟨coalesce ((runs.filter fun run => labels.contains run.2).map Prod.fst)⟩

end IntervalSet

end ReleaseRules.Unicode
