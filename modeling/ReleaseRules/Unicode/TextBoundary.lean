import ReleaseRules.Unicode.Category
import ReleaseRules.Unicode.Property
import ReleaseRules.Unicode.Script

/-!
Contract: the classes of characters that decide where clusters, words and sentences end.

Owns: the classes of the three kinds of boundaries and their names, in loose spelling.

Does not own: finding boundaries in a text.

Every class is given by other properties and a few single characters. A class that has to leave
out the members of another one says so, and no two classes of one kind share a member.
-/

namespace ReleaseRules.Unicode.TextBoundary

open IntervalSet (ofTable range singleton)

/-- The members of any of the sets. -/
def anyOf (sets : List IntervalSet) : IntervalSet :=
  IntervalSet.normalize (sets.flatMap IntervalSet.intervals)

/-- Single code points. -/
def points (codePoints : List Nat) : IntervalSet := anyOf (codePoints.map singleton)

/-- The code points of the given scripts. -/
def ofScripts (labels : List String) : IntervalSet := IntervalSet.ofLabels scriptRuns labels

/-- The zero-width joiner. -/
def joiner : IntervalSet := singleton 0x200D

/-- The two zero-width characters that join and separate letters. -/
def joinControls : IntervalSet := range 0x200C 0x200D

/-- Signs that stand before the digits or letters that they span. -/
def spanningSigns : IntervalSet := ofTable prependedConcatenationMarkTable

/-- The spanning sign that is read with letters; all others are read with digits. -/
def spanningLetterSign : IntervalSet := singleton 0x70F

/-- Format characters that are neither join controls, nor spanning signs, nor tags. -/
def formatCharacters : IntervalSet :=
  (ofCategories ["Cf"]).difference (anyOf [joinControls, spanningSigns, range 0xE0020 0xE007F])

/-- Digits and their separators, with the signs that span digits. -/
def digits : IntervalSet :=
  anyOf [ofCategories ["Nd"], singleton 0x66B, spanningSigns.difference spanningLetterSign]

namespace Cluster

/-- Characters that belong to the cluster before them. -/
def extend : IntervalSet :=
  (anyOf [ofTable graphemeExtendTable, ofTable emojiModifierTable]).difference joiner

/-- Characters that belong to the cluster after them. -/
def prepend : IntervalSet :=
  anyOf [spanningSigns,
    points [0xD4E, 0x111C2, 0x111C3, 0x113D1, 0x1193F, 0x11941, 0x11A3A, 0x11D46, 0x11F02],
    range 0x11A84 0x11A89]

/-- Characters that stand alone. -/
def control : IntervalSet :=
  (anyOf [ofCategories ["Zl", "Zp", "Cc"], formatCharacters,
    (ofCategories ["Cn"]).intersection (ofTable defaultIgnorableCodePointTable)]).difference
      (points [0xA, 0xD])

/-- Spacing marks of South East Asian scripts that begin a cluster. -/
def independentMarks : IntervalSet :=
  anyOf [range 0x102B 0x102C, singleton 0x1038, range 0x1062 0x1064, range 0x1067 0x106D,
    singleton 0x1083, range 0x1087 0x108C, singleton 0x108F, range 0x109A 0x109C,
    points [0x1A61, 0x1A63, 0x1A64, 0xAA7B, 0xAA7D], range 0x11720 0x11721]

/-- Marks that belong to the cluster before them and take up space. -/
def spacingMark : IntervalSet :=
  (anyOf [(ofCategories ["Mc"]).difference independentMarks, points [0xE33, 0xEB3]]).difference
    extend

/-- Vowels of Hangul and of Kirat Rai, which join into syllables. -/
def vowel : IntervalSet :=
  anyOf [range 0x1160 0x11A7, range 0xD7B0 0xD7C6, singleton 0x16D63, range 0x16D67 0x16D6A]

/-- Hangul syllables without a final consonant: every twenty-eighth one. -/
def openSyllable : IntervalSet :=
  points ((List.range 399).map fun number => 0xAC00 + 28 * number)

/-- Hangul syllables with a final consonant. -/
def closedSyllable : IntervalSet := (range 0xAC00 0xD7A3).difference openSyllable

/-- The class of a loose name. -/
def named : String → Option IntervalSet
  | "cr" => some (singleton 0xD)
  | "lf" => some (singleton 0xA)
  | "cn" | "control" => some control
  | "ex" | "extend" => some extend
  | "zwj" => some joiner
  | "pp" | "prepend" => some prepend
  | "ri" | "regionalindicator" => some (ofTable regionalIndicatorTable)
  | "sm" | "spacingmark" => some spacingMark
  | "l" => some (anyOf [range 0x1100 0x115F, range 0xA960 0xA97C])
  | "v" => some vowel
  | "t" => some (anyOf [range 0x11A8 0x11FF, range 0xD7CB 0xD7FB])
  | "lv" => some openSyllable
  | "lvt" => some closedSyllable
  | _ => none

end Cluster

namespace Word

/-- Characters that belong to the word part before them. -/
def extend : IntervalSet :=
  (anyOf [ofTable graphemeExtendTable, ofCategories ["Mc"], ofTable emojiModifierTable]).difference
    joiner

/-- Letters of the Katakana script and the signs that are used among them. -/
def katakana : IntervalSet :=
  anyOf [ofScripts ["Kana"], range 0x3031 0x3035, range 0x309B 0x309C,
    points [0x30A0, 0x30FC, 0xFF70]]

/-- Letters of the Hebrew script. -/
def hebrewLetter : IntervalSet := (ofScripts ["Hebr"]).intersection (ofCategories ["Lo"])

/-- Scripts that are written without blanks between words. -/
def scriptsWithoutBlanks : IntervalSet :=
  ofScripts ["Thai", "Laoo", "Mymr", "Khmr", "Tale", "Talu", "Lana", "Tavt", "Ahom", "Hira"]

/-- Signs that are not alphabetic but stand among letters. -/
def letterLike : IntervalSet :=
  anyOf [singleton 0xB8, range 0x2C2 0x2C5, range 0x2D2 0x2D7, range 0x2DE 0x2DF,
    range 0x2E5 0x2EB, singleton 0x2ED, range 0x2EF 0x2FF, range 0x55A 0x55C,
    points [0x55E, 0x58A, 0x5F3], spanningLetterSign, range 0xA708 0xA716, range 0xA720 0xA721,
    range 0xA789 0xA78A, singleton 0xAB5B]

/-- Letters of the other scripts that have blanks between words. -/
def letter : IntervalSet :=
  (anyOf [ofTable alphabeticTable, letterLike]).difference
    (anyOf [ofTable ideographicTable, katakana, hebrewLetter, scriptsWithoutBlanks, extend])

/-- The class of a loose name. -/
def named : String → Option IntervalSet
  | "cr" => some (singleton 0xD)
  | "lf" => some (singleton 0xA)
  | "nl" | "newline" => some (points [0xB, 0xC, 0x85, 0x2028, 0x2029])
  | "extend" => some extend
  | "zwj" => some joiner
  | "fo" | "format" => some (formatCharacters.difference (singleton 0x200B))
  | "ri" | "regionalindicator" => some (ofTable regionalIndicatorTable)
  | "ka" | "katakana" => some katakana
  | "hl" | "hebrewletter" => some hebrewLetter
  | "le" | "aletter" => some letter
  | "sq" | "singlequote" => some (singleton 0x27)
  | "dq" | "doublequote" => some (singleton 0x22)
  | "mb" | "midnumlet" => some (points [0x2E, 0x2018, 0x2019, 0x2024, 0xFE52, 0xFF07, 0xFF0E])
  | "ml" | "midletter" =>
      some (points [0x3A, 0xB7, 0x387, 0x55F, 0x5F4, 0x2027, 0xFE13, 0xFE55, 0xFF1A])
  | "mn" | "midnum" =>
      some (points [0x2C, 0x3B, 0x37E, 0x589, 0x60C, 0x60D, 0x66C, 0x7F8, 0x2044, 0xFE10, 0xFE14,
        0xFE50, 0xFE54, 0xFF0C, 0xFF1B])
  | "nu" | "numeric" => some digits
  | "ex" | "extendnumlet" => some (anyOf [ofCategories ["Pc"], singleton 0x202F])
  | "wsegspace" => some ((ofCategories ["Zs"]).difference (points [0xA0, 0x2007, 0x202F]))
  | _ => none

end Word

namespace Sentence

/-- Characters that belong to the sentence part before them. -/
def extend : IntervalSet :=
  anyOf [ofTable graphemeExtendTable, ofCategories ["Mc"], joiner]

/-- Line ends other than the carriage return and the line feed. -/
def lineEnd : IntervalSet := points [0x85, 0x2028, 0x2029]

/-- Lower-case letters; those of Georgian do not tell where a sentence begins. -/
def lower : IntervalSet :=
  (ofTable lowercaseTable).difference
    (anyOf [ofTable graphemeExtendTable, range 0x10D0 0x10FA, range 0x10FD 0x10FF])

/-- Capital letters; those of Georgian do not tell where a sentence begins. -/
def upper : IntervalSet :=
  (anyOf [ofCategories ["Lt"], ofTable uppercaseTable]).difference
    (anyOf [range 0x1C90 0x1CBA, range 0x1CBD 0x1CBF])

/-- Letters without case. -/
def otherLetter : IntervalSet :=
  (anyOf [ofTable alphabeticTable, singleton 0x5F3, spanningLetterSign]).difference
    (anyOf [lower, upper, extend])

/-- Full stops, which end some sentences. -/
def fullStop : IntervalSet := points [0x2E, 0x2024, 0xFE52, 0xFF0E]

/-- Marks that end every sentence. -/
def terminator : IntervalSet := (ofTable sentenceTerminalTable).difference fullStop

/-- Quotation marks that are not paired. -/
def plainQuotes : IntervalSet :=
  anyOf [points [0x22, 0x27, 0x2E0B], range 0x275B 0x2760, range 0x2E00 0x2E01,
    range 0x2E06 0x2E08, range 0x1F676 0x1F678]

/-- Brackets and quotation marks. -/
def close : IntervalSet :=
  (anyOf [ofCategories ["Ps", "Pe", "Pi", "Pf"], plainQuotes]).difference
    (anyOf [fullStop, terminator])

/-- Marks after which a sentence goes on. -/
def continuation : IntervalSet :=
  points [0x2C, 0x2D, 0x3A, 0x3B, 0x37E, 0x55D, 0x60C, 0x60D, 0x7F8, 0x1802, 0x1808, 0x2013,
    0x2014, 0x3001, 0xFE10, 0xFE11, 0xFE13, 0xFE14, 0xFE31, 0xFE32, 0xFE50, 0xFE51, 0xFE54,
    0xFE55, 0xFE58, 0xFE63, 0xFF0C, 0xFF0D, 0xFF1A, 0xFF1B, 0xFF64]

/-- The class of a loose name. -/
def named : String → Option IntervalSet
  | "cr" => some (singleton 0xD)
  | "lf" => some (singleton 0xA)
  | "ex" | "extend" => some extend
  | "se" | "sep" => some lineEnd
  | "fo" | "format" => some formatCharacters
  | "sp" => some ((ofTable whiteSpaceTable).difference (anyOf [points [0xA, 0xD], lineEnd]))
  | "lo" | "lower" => some lower
  | "up" | "upper" => some upper
  | "le" | "oletter" => some otherLetter
  | "nu" | "numeric" => some (anyOf [digits, singleton 0x66C])
  | "at" | "aterm" => some fullStop
  | "sc" | "scontinue" => some continuation
  | "st" | "sterm" => some terminator
  | "cl" | "close" => some close
  | _ => none

end Sentence

end ReleaseRules.Unicode.TextBoundary
