import ReleaseRules.Unicode.LetterCase

/-!
Contract: equality of characters up to simple case folding.

Owns:
- a representative for every class of characters that fold together, as of version 16.0 of the
  Unicode standard;
- the closure of a set of code points under that equality.

Does not own: the lower-case mapping, which treats some letters differently.
-/

namespace ReleaseRules.Unicode

/-- Characters that fold together with a smaller one, which represents the class. -/
def orbitRuns : List MappingRun :=
  [⟨0x61, 26, 1, -32⟩, ⟨0xE0, 23, 1, -32⟩, ⟨0xF8, 7, 1, -32⟩, ⟨0x101, 24, 2, -1⟩,
   ⟨0x133, 3, 2, -1⟩, ⟨0x13A, 8, 2, -1⟩, ⟨0x14B, 23, 2, -1⟩, ⟨0x178, 1, 1, -121⟩,
   ⟨0x17A, 3, 2, -1⟩, ⟨0x17F, 1, 1, -300⟩, ⟨0x183, 2, 2, -1⟩, ⟨0x188, 1, 1, -1⟩,
   ⟨0x18C, 1, 1, -1⟩, ⟨0x192, 1, 1, -1⟩, ⟨0x199, 1, 1, -1⟩, ⟨0x1A1, 3, 2, -1⟩,
   ⟨0x1A8, 1, 1, -1⟩, ⟨0x1AD, 1, 1, -1⟩, ⟨0x1B0, 1, 1, -1⟩, ⟨0x1B4, 2, 2, -1⟩,
   ⟨0x1B9, 1, 1, -1⟩, ⟨0x1BD, 1, 1, -1⟩, ⟨0x1C5, 1, 1, -1⟩, ⟨0x1C6, 1, 1, -2⟩,
   ⟨0x1C8, 1, 1, -1⟩, ⟨0x1C9, 1, 1, -2⟩, ⟨0x1CB, 1, 1, -1⟩, ⟨0x1CC, 1, 1, -2⟩,
   ⟨0x1CE, 8, 2, -1⟩, ⟨0x1DD, 1, 1, -79⟩, ⟨0x1DF, 9, 2, -1⟩, ⟨0x1F2, 1, 1, -1⟩,
   ⟨0x1F3, 1, 1, -2⟩, ⟨0x1F5, 1, 1, -1⟩, ⟨0x1F6, 1, 1, -97⟩, ⟨0x1F7, 1, 1, -56⟩,
   ⟨0x1F9, 20, 2, -1⟩, ⟨0x220, 1, 1, -130⟩, ⟨0x223, 9, 2, -1⟩, ⟨0x23C, 1, 1, -1⟩,
   ⟨0x23D, 1, 1, -163⟩, ⟨0x242, 1, 1, -1⟩, ⟨0x243, 1, 1, -195⟩, ⟨0x247, 5, 2, -1⟩,
   ⟨0x253, 1, 1, -210⟩, ⟨0x254, 1, 1, -206⟩, ⟨0x256, 2, 1, -205⟩, ⟨0x259, 1, 1, -202⟩,
   ⟨0x25B, 1, 1, -203⟩, ⟨0x260, 1, 1, -205⟩, ⟨0x263, 1, 1, -207⟩, ⟨0x268, 1, 1, -209⟩,
   ⟨0x269, 1, 1, -211⟩, ⟨0x26F, 1, 1, -211⟩, ⟨0x272, 1, 1, -213⟩, ⟨0x275, 1, 1, -214⟩,
   ⟨0x280, 1, 1, -218⟩, ⟨0x283, 1, 1, -218⟩, ⟨0x288, 1, 1, -218⟩, ⟨0x289, 1, 1, -69⟩,
   ⟨0x28A, 2, 1, -217⟩, ⟨0x28C, 1, 1, -71⟩, ⟨0x292, 1, 1, -219⟩, ⟨0x371, 2, 2, -1⟩,
   ⟨0x377, 1, 1, -1⟩, ⟨0x399, 1, 1, -84⟩, ⟨0x39C, 1, 1, -743⟩, ⟨0x3AC, 1, 1, -38⟩,
   ⟨0x3AD, 3, 1, -37⟩, ⟨0x3B1, 8, 1, -32⟩, ⟨0x3B9, 1, 1, -116⟩, ⟨0x3BA, 2, 1, -32⟩,
   ⟨0x3BC, 1, 1, -775⟩, ⟨0x3BD, 8, 2, -32⟩, ⟨0x3BE, 2, 2, -32⟩, ⟨0x3C2, 1, 1, -31⟩,
   ⟨0x3C4, 4, 2, -32⟩, ⟨0x3CC, 1, 1, -64⟩, ⟨0x3CD, 2, 1, -63⟩, ⟨0x3D0, 1, 1, -62⟩,
   ⟨0x3D1, 1, 1, -57⟩, ⟨0x3D5, 1, 1, -47⟩, ⟨0x3D6, 1, 1, -54⟩, ⟨0x3D7, 1, 1, -8⟩,
   ⟨0x3D9, 12, 2, -1⟩, ⟨0x3F0, 1, 1, -86⟩, ⟨0x3F1, 1, 1, -80⟩, ⟨0x3F3, 1, 1, -116⟩,
   ⟨0x3F4, 1, 1, -92⟩, ⟨0x3F5, 1, 1, -96⟩, ⟨0x3F8, 1, 1, -1⟩, ⟨0x3F9, 1, 1, -7⟩,
   ⟨0x3FB, 1, 1, -1⟩, ⟨0x3FD, 3, 1, -130⟩, ⟨0x430, 32, 1, -32⟩, ⟨0x450, 16, 1, -80⟩,
   ⟨0x461, 17, 2, -1⟩, ⟨0x48B, 27, 2, -1⟩, ⟨0x4C2, 7, 2, -1⟩, ⟨0x4CF, 1, 1, -15⟩,
   ⟨0x4D1, 48, 2, -1⟩, ⟨0x561, 38, 1, -48⟩, ⟨0x13F8, 6, 1, -8⟩, ⟨0x1C80, 1, 1, -6254⟩,
   ⟨0x1C81, 1, 1, -6253⟩, ⟨0x1C82, 1, 1, -6244⟩, ⟨0x1C83, 2, 1, -6242⟩,
   ⟨0x1C85, 1, 1, -6243⟩, ⟨0x1C86, 1, 1, -6236⟩, ⟨0x1C87, 1, 1, -6181⟩, ⟨0x1C8A, 1, 1, -1⟩,
   ⟨0x1C90, 43, 1, -3008⟩, ⟨0x1CBD, 3, 1, -3008⟩, ⟨0x1E01, 75, 2, -1⟩, ⟨0x1E9B, 1, 1, -59⟩,
   ⟨0x1E9E, 1, 1, -7615⟩, ⟨0x1EA1, 48, 2, -1⟩, ⟨0x1F08, 8, 1, -8⟩, ⟨0x1F18, 6, 1, -8⟩,
   ⟨0x1F28, 8, 1, -8⟩, ⟨0x1F38, 8, 1, -8⟩, ⟨0x1F48, 6, 1, -8⟩, ⟨0x1F59, 4, 2, -8⟩,
   ⟨0x1F68, 8, 1, -8⟩, ⟨0x1F88, 8, 1, -8⟩, ⟨0x1F98, 8, 1, -8⟩, ⟨0x1FA8, 8, 1, -8⟩,
   ⟨0x1FB8, 2, 1, -8⟩, ⟨0x1FBA, 2, 1, -74⟩, ⟨0x1FBC, 1, 1, -9⟩, ⟨0x1FBE, 1, 1, -7289⟩,
   ⟨0x1FC8, 4, 1, -86⟩, ⟨0x1FCC, 1, 1, -9⟩, ⟨0x1FD3, 1, 1, -7235⟩, ⟨0x1FD8, 2, 1, -8⟩,
   ⟨0x1FDA, 2, 1, -100⟩, ⟨0x1FE3, 1, 1, -7219⟩, ⟨0x1FE8, 2, 1, -8⟩, ⟨0x1FEA, 2, 1, -112⟩,
   ⟨0x1FEC, 1, 1, -7⟩, ⟨0x1FF8, 2, 1, -128⟩, ⟨0x1FFA, 2, 1, -126⟩, ⟨0x1FFC, 1, 1, -9⟩,
   ⟨0x2126, 1, 1, -7549⟩, ⟨0x212A, 1, 1, -8415⟩, ⟨0x212B, 1, 1, -8294⟩, ⟨0x214E, 1, 1, -28⟩,
   ⟨0x2170, 16, 1, -16⟩, ⟨0x2184, 1, 1, -1⟩, ⟨0x24D0, 26, 1, -26⟩, ⟨0x2C30, 48, 1, -48⟩,
   ⟨0x2C61, 1, 1, -1⟩, ⟨0x2C62, 1, 1, -10743⟩, ⟨0x2C63, 1, 1, -3814⟩,
   ⟨0x2C64, 1, 1, -10727⟩, ⟨0x2C65, 1, 1, -10795⟩, ⟨0x2C66, 1, 1, -10792⟩,
   ⟨0x2C68, 3, 2, -1⟩, ⟨0x2C6D, 1, 1, -10780⟩, ⟨0x2C6E, 1, 1, -10749⟩,
   ⟨0x2C6F, 1, 1, -10783⟩, ⟨0x2C70, 1, 1, -10782⟩, ⟨0x2C73, 1, 1, -1⟩, ⟨0x2C76, 1, 1, -1⟩,
   ⟨0x2C7E, 2, 1, -10815⟩, ⟨0x2C81, 50, 2, -1⟩, ⟨0x2CEC, 2, 2, -1⟩, ⟨0x2CF3, 1, 1, -1⟩,
   ⟨0x2D00, 38, 1, -7264⟩, ⟨0x2D27, 1, 1, -7264⟩, ⟨0x2D2D, 1, 1, -7264⟩, ⟨0xA641, 5, 2, -1⟩,
   ⟨0xA64A, 1, 1, -35266⟩, ⟨0xA64B, 1, 1, -35267⟩, ⟨0xA64D, 17, 2, -1⟩, ⟨0xA681, 14, 2, -1⟩,
   ⟨0xA723, 7, 2, -1⟩, ⟨0xA733, 31, 2, -1⟩, ⟨0xA77A, 2, 2, -1⟩, ⟨0xA77D, 1, 1, -35332⟩,
   ⟨0xA77F, 5, 2, -1⟩, ⟨0xA78C, 1, 1, -1⟩, ⟨0xA78D, 1, 1, -42280⟩, ⟨0xA791, 2, 2, -1⟩,
   ⟨0xA797, 10, 2, -1⟩, ⟨0xA7AA, 1, 1, -42308⟩, ⟨0xA7AB, 1, 1, -42319⟩,
   ⟨0xA7AC, 1, 1, -42315⟩, ⟨0xA7AD, 1, 1, -42305⟩, ⟨0xA7AE, 1, 1, -42308⟩,
   ⟨0xA7B0, 1, 1, -42258⟩, ⟨0xA7B1, 1, 1, -42282⟩, ⟨0xA7B2, 1, 1, -42261⟩,
   ⟨0xA7B5, 8, 2, -1⟩, ⟨0xA7C4, 1, 1, -48⟩, ⟨0xA7C5, 1, 1, -42307⟩, ⟨0xA7C6, 1, 1, -35384⟩,
   ⟨0xA7C8, 2, 2, -1⟩, ⟨0xA7CB, 1, 1, -42343⟩, ⟨0xA7CD, 1, 1, -1⟩, ⟨0xA7D1, 1, 1, -1⟩,
   ⟨0xA7D7, 3, 2, -1⟩, ⟨0xA7DC, 1, 1, -42561⟩, ⟨0xA7F6, 1, 1, -1⟩, ⟨0xAB53, 1, 1, -928⟩,
   ⟨0xAB70, 80, 1, -38864⟩, ⟨0xFB06, 1, 1, -1⟩, ⟨0xFF41, 26, 1, -32⟩, ⟨0x10428, 40, 1, -40⟩,
   ⟨0x104D8, 36, 1, -40⟩, ⟨0x10597, 19, 2, -39⟩, ⟨0x10598, 5, 2, -39⟩, ⟨0x105A4, 7, 2, -39⟩,
   ⟨0x105B4, 3, 2, -39⟩, ⟨0x105BC, 1, 1, -39⟩, ⟨0x10CC0, 51, 1, -64⟩, ⟨0x10D70, 22, 1, -32⟩,
   ⟨0x118C0, 32, 1, -32⟩, ⟨0x16E60, 32, 1, -32⟩, ⟨0x1E922, 34, 1, -34⟩]

/-- The smallest code point that folds together with the given one. -/
def orbitRepresentative (codePoint : Nat) : Nat := mapByRuns orbitRuns codePoint

/-- The pairs of a code point and its representative that a run stands for. -/
def MappingRun.pairs (run : MappingRun) : List (Nat × Nat) :=
  (List.range run.count).map fun position =>
    let codePoint := run.start + position * run.step
    (codePoint, ((codePoint : Int) + run.offset).toNat)

/-- Every code point that is not its own representative, with its representative. -/
def orbitPairs : List (Nat × Nat) := orbitRuns.flatMap MappingRun.pairs

/-- All code points that fold together with a member of the set. -/
def foldClosure (set : IntervalSet) : IntervalSet :=
  let representatives := orbitPairs.filterMap fun pair =>
    if set.contains pair.1 then some ⟨pair.2, pair.2⟩ else none
  let withRepresentatives := IntervalSet.normalize (set.intervals ++ representatives)
  let others := orbitPairs.filterMap fun pair =>
    if withRepresentatives.contains pair.2 then some ⟨pair.1, pair.1⟩ else none
  IntervalSet.normalize (withRepresentatives.intervals ++ others)

end ReleaseRules.Unicode
