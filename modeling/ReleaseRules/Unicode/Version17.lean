import ReleaseRules.Unicode.Category
import ReleaseRules.Unicode.Property

/-!
Contract: what version 17.0 of the Unicode standard changes about version 16.0.

Owns:
- the characters that version 17.0 adds, with their general categories, and the one character
  that it moves to another category;
- the properties of version 17.0 that letter case, names of groups and shown texts depend on.

Does not own: the tables of version 16.0, which patterns refer to.
-/

namespace ReleaseRules.Unicode.Version17

/-- The characters that version 17.0 adds, with their general categories. -/
def additions : List (Interval × String) :=
  [(⟨0x88F, 0x88F⟩, "Lo"), (⟨0xC5C, 0xC5C⟩, "Lo"), (⟨0xCDC, 0xCDC⟩, "Lo"),
   (⟨0x1ACF, 0x1ADD⟩, "Mn"), (⟨0x1AE0, 0x1AEB⟩, "Mn"), (⟨0x20C1, 0x20C1⟩, "Sc"),
   (⟨0x2B96, 0x2B96⟩, "So"), (⟨0xA7CE, 0xA7CE⟩, "Lu"), (⟨0xA7CF, 0xA7CF⟩, "Ll"),
   (⟨0xA7D2, 0xA7D2⟩, "Lu"), (⟨0xA7D4, 0xA7D4⟩, "Lu"), (⟨0xA7F1, 0xA7F1⟩, "Lm"),
   (⟨0xFBC3, 0xFBD2⟩, "So"), (⟨0xFD90, 0xFD91⟩, "So"), (⟨0xFDC8, 0xFDCE⟩, "So"),
   (⟨0x10940, 0x10959⟩, "Lo"), (⟨0x10EC5, 0x10EC5⟩, "Lm"), (⟨0x10EC6, 0x10EC7⟩, "Lo"),
   (⟨0x10ED0, 0x10ED0⟩, "Po"), (⟨0x10ED1, 0x10ED8⟩, "So"), (⟨0x10EFA, 0x10EFB⟩, "Mn"),
   (⟨0x11B60, 0x11B60⟩, "Mn"), (⟨0x11B61, 0x11B61⟩, "Mc"), (⟨0x11B62, 0x11B64⟩, "Mn"),
   (⟨0x11B65, 0x11B65⟩, "Mc"), (⟨0x11B66, 0x11B66⟩, "Mn"), (⟨0x11B67, 0x11B67⟩, "Mc"),
   (⟨0x11DB0, 0x11DD8⟩, "Lo"), (⟨0x11DD9, 0x11DD9⟩, "Lm"), (⟨0x11DDA, 0x11DDB⟩, "Lo"),
   (⟨0x11DE0, 0x11DE9⟩, "Nd"), (⟨0x16EA0, 0x16EB8⟩, "Lu"), (⟨0x16EBB, 0x16ED3⟩, "Ll"),
   (⟨0x16FF2, 0x16FF3⟩, "Lm"), (⟨0x16FF4, 0x16FF6⟩, "Nl"), (⟨0x187F8, 0x187FF⟩, "Lo"),
   (⟨0x18D09, 0x18D1E⟩, "Lo"), (⟨0x18D80, 0x18DF2⟩, "Lo"), (⟨0x1CCFA, 0x1CCFC⟩, "So"),
   (⟨0x1CEBA, 0x1CED0⟩, "So"), (⟨0x1CEE0, 0x1CEEF⟩, "So"), (⟨0x1CEF0, 0x1CEF0⟩, "Sm"),
   (⟨0x1E6C0, 0x1E6DE⟩, "Lo"), (⟨0x1E6E0, 0x1E6E2⟩, "Lo"), (⟨0x1E6E3, 0x1E6E3⟩, "Mn"),
   (⟨0x1E6E4, 0x1E6E5⟩, "Lo"), (⟨0x1E6E6, 0x1E6E6⟩, "Mn"), (⟨0x1E6E7, 0x1E6ED⟩, "Lo"),
   (⟨0x1E6EE, 0x1E6EF⟩, "Mn"), (⟨0x1E6F0, 0x1E6F4⟩, "Lo"), (⟨0x1E6F5, 0x1E6F5⟩, "Mn"),
   (⟨0x1E6FE, 0x1E6FE⟩, "Lo"), (⟨0x1E6FF, 0x1E6FF⟩, "Lm"), (⟨0x1F6D8, 0x1F6D8⟩, "So"),
   (⟨0x1F777, 0x1F77A⟩, "So"), (⟨0x1F8D0, 0x1F8D8⟩, "Sm"), (⟨0x1FA54, 0x1FA57⟩, "So"),
   (⟨0x1FA8A, 0x1FA8A⟩, "So"), (⟨0x1FA8E, 0x1FA8E⟩, "So"), (⟨0x1FAC8, 0x1FAC8⟩, "So"),
   (⟨0x1FACD, 0x1FACD⟩, "So"), (⟨0x1FAEA, 0x1FAEA⟩, "So"), (⟨0x1FAEF, 0x1FAEF⟩, "So"),
   (⟨0x1FBFA, 0x1FBFA⟩, "So"), (⟨0x2B73A, 0x2B73F⟩, "Lo"), (⟨0x2CEA2, 0x2CEAD⟩, "Lo"),
   (⟨0x323B0, 0x33479⟩, "Lo")]

/-- Added characters of any of the given general categories. -/
def added (categories : List String) : IntervalSet :=
  IntervalSet.ofLabels additions categories

/-- The pharyngeal voiced fricative, a lower-case letter before version 17.0 and a letter
without case since then. -/
def movedLetter : IntervalSet := IntervalSet.singleton 0x295

/-- Code points of any of the given general categories. -/
def ofCategories (categories : List String) : IntervalSet :=
  let changed := movedLetter.union (IntervalSet.normalize (additions.map Prod.fst))
  let moved := if categories.contains "Lo" then movedLetter else IntervalSet.empty
  (((Unicode.ofCategories categories).difference changed).union (added categories)).union moved

/-- Alphabetic characters: of those added, all letters and all marks but the ones that extend
the block of combining diacritical marks. -/
def alphabetic : IntervalSet :=
  let letters := added ["Lu", "Ll", "Lm", "Lo", "Nl", "Mn", "Mc"]
  (IntervalSet.ofTable alphabeticTable).union
    (letters.difference (IntervalSet.range 0x1ACF 0x1AEB))

/-- Whether a character is alphabetic. The answer for ASCII needs no table. -/
def isAlphabetic (character : Char) : Bool :=
  if character.toNat < 128 then
    ('a' ≤ character && character ≤ 'z') || ('A' ≤ character && character ≤ 'Z')
  else alphabetic.hasChar character

/-- Characters that denote numbers. -/
def numeric : IntervalSet := ofCategories ["Nd", "Nl", "No"]

/-- Whether a character denotes a number. The answer for ASCII needs no table. -/
def isNumeric (character : Char) : Bool :=
  if character.toNat < 128 then '0' ≤ character && character ≤ '9'
  else numeric.hasChar character

/-- Characters that have case: of those added, the letters of either case and one modifier
letter. -/
def cased : IntervalSet :=
  ((IntervalSet.ofTable casedTable).difference movedLetter).union
    ((added ["Lu", "Ll"]).union (IntervalSet.singleton 0xA7F1))

/-- Characters that are skipped when the neighbouring cased letter is looked for. -/
def caseIgnorable : IntervalSet :=
  (IntervalSet.ofTable caseIgnorableTable).union (added ["Mn", "Lm"])

/-- Characters that extend the one before them to a cluster. -/
def graphemeExtend : IntervalSet :=
  (IntervalSet.ofTable graphemeExtendTable).union (added ["Mn"])

/-- Characters that leave nothing visible on their own: controls, unassigned code points and
separators, the space among them, and characters that extend the one before them. -/
def invisible : IntervalSet :=
  (ofCategories ["Cc", "Cf", "Cs", "Co", "Cn", "Zl", "Zp", "Zs"]).union graphemeExtend

end ReleaseRules.Unicode.Version17
