import ReleaseRules.Unicode.IntervalSet

/-!
Contract: the general categories of all code points.

Owns:
- the partition of the code points into general categories, as of version 16.0 of the Unicode
  standard;
- the names of the categories and of their groups, in loose spelling. Surrogates have none,
  because no character is one.

Does not own: other properties.
-/

namespace ReleaseRules.Unicode

/-- Lengths of the runs of equal general category, from code point zero on. -/
def categoryTable : String :=
  "20Cc 1Zs 3Po 1Sc 3Po 1Ps 1Pe 1Po 1Sm 1Po 1Pd 2Po aNd 2Po 3Sm 2Po 1aLu 1Ps 1Po 1Pe 1Sk " ++
  "1Pc 1Sk 1aLl 1Ps 1Sm 1Pe 1Sm 21Cc 1Zs 1Po 4Sc 1So 1Po 1Sk 1So 1Lo 1Pi 1Sm 1Cf 1So 1Sk " ++
  "1So 1Sm 2No 1Sk 1Ll 2Po 1Sk 1No 1Lo 1Pf 3No 1Po 17Lu 1Sm 7Lu 18Ll 1Sm 8Ll 1Lu 1Ll 1Lu " ++
  "1Ll 1Lu 1Ll 1Lu 1Ll 1Lu 1Ll 1Lu 1Ll 1Lu 1Ll 1Lu 1Ll 1Lu 1Ll 1Lu 1Ll 1Lu 1Ll 1Lu 1Ll 1Lu " ++
  "1Ll 1Lu 1Ll 1Lu 1Ll 1Lu 1Ll 1Lu 1Ll 1Lu 1Ll 1Lu 1Ll 1Lu 1Ll 1Lu 1Ll 1Lu 1Ll 1Lu 1Ll 1Lu " ++
  "1Ll 1Lu 1Ll 1Lu 1Ll 1Lu 1Ll 1Lu 2Ll 1Lu 1Ll 1Lu 1Ll 1Lu 1Ll 1Lu 1Ll 1Lu 1Ll 1Lu 1Ll 1Lu " ++
  "1Ll 1Lu 2Ll 1Lu 1Ll 1Lu 1Ll 1Lu 1Ll 1Lu 1Ll 1Lu 1Ll 1Lu 1Ll 1Lu 1Ll 1Lu 1Ll 1Lu 1Ll 1Lu " ++
  "1Ll 1Lu 1Ll 1Lu 1Ll 1Lu 1Ll 1Lu 1Ll 1Lu 1Ll 1Lu 1Ll 1Lu 1Ll 1Lu 1Ll 1Lu 1Ll 1Lu 1Ll 1Lu " ++
  "1Ll 1Lu 1Ll 1Lu 1Ll 2Lu 1Ll 1Lu 1Ll 1Lu 3Ll 2Lu 1Ll 1Lu 1Ll 2Lu 1Ll 3Lu 2Ll 4Lu 1Ll 2Lu " ++
  "1Ll 3Lu 3Ll 2Lu 1Ll 2Lu 1Ll 1Lu 1Ll 1Lu 1Ll 2Lu 1Ll 1Lu 2Ll 1Lu 1Ll 2Lu 1Ll 3Lu 1Ll 1Lu " ++
  "1Ll 2Lu 2Ll 1Lo 1Lu 3Ll 4Lo 1Lu 1Lt 1Ll 1Lu 1Lt 1Ll 1Lu 1Lt 1Ll 1Lu 1Ll 1Lu 1Ll 1Lu 1Ll " ++
  "1Lu 1Ll 1Lu 1Ll 1Lu 1Ll 1Lu 1Ll 1Lu 2Ll 1Lu 1Ll 1Lu 1Ll 1Lu 1Ll 1Lu 1Ll 1Lu 1Ll 1Lu 1Ll " ++
  "1Lu 1Ll 1Lu 1Ll 1Lu 2Ll 1Lu 1Lt 1Ll 1Lu 1Ll 3Lu 1Ll 1Lu 1Ll 1Lu 1Ll 1Lu 1Ll 1Lu 1Ll 1Lu " ++
  "1Ll 1Lu 1Ll 1Lu 1Ll 1Lu 1Ll 1Lu 1Ll 1Lu 1Ll 1Lu 1Ll 1Lu 1Ll 1Lu 1Ll 1Lu 1Ll 1Lu 1Ll 1Lu " ++
  "1Ll 1Lu 1Ll 1Lu 1Ll 1Lu 1Ll 1Lu 1Ll 1Lu 1Ll 1Lu 1Ll 1Lu 1Ll 1Lu 1Ll 1Lu 1Ll 1Lu 1Ll 1Lu " ++
  "1Ll 1Lu 1Ll 1Lu 7Ll 2Lu 1Ll 2Lu 2Ll 1Lu 1Ll 4Lu 1Ll 1Lu 1Ll 1Lu 1Ll 1Lu 1Ll 1Lu 45Ll 1Lo " ++
  "1bLl 12Lm 4Sk cLm eSk 5Lm 7Sk 1Lm 1Sk 1Lm 11Sk 70Mn 1Lu 1Ll 1Lu 1Ll 1Lm 1Sk 1Lu 1Ll 2Cn " ++
  "1Lm 3Ll 1Po 1Lu 4Cn 2Sk 1Lu 1Po 3Lu 1Cn 1Lu 1Cn 2Lu 1Ll 11Lu 1Cn 9Lu 23Ll 1Lu 2Ll 3Lu " ++
  "3Ll 1Lu 1Ll 1Lu 1Ll 1Lu 1Ll 1Lu 1Ll 1Lu 1Ll 1Lu 1Ll 1Lu 1Ll 1Lu 1Ll 1Lu 1Ll 1Lu 1Ll 1Lu " ++
  "1Ll 1Lu 5Ll 1Lu 1Ll 1Sm 1Lu 1Ll 2Lu 2Ll 33Lu 30Ll 1Lu 1Ll 1Lu 1Ll 1Lu 1Ll 1Lu 1Ll 1Lu " ++
  "1Ll 1Lu 1Ll 1Lu 1Ll 1Lu 1Ll 1Lu 1Ll 1Lu 1Ll 1Lu 1Ll 1Lu 1Ll 1Lu 1Ll 1Lu 1Ll 1Lu 1Ll 1Lu " ++
  "1Ll 1Lu 1Ll 1So 5Mn 2Me 1Lu 1Ll 1Lu 1Ll 1Lu 1Ll 1Lu 1Ll 1Lu 1Ll 1Lu 1Ll 1Lu 1Ll 1Lu 1Ll " ++
  "1Lu 1Ll 1Lu 1Ll 1Lu 1Ll 1Lu 1Ll 1Lu 1Ll 1Lu 1Ll 1Lu 1Ll 1Lu 1Ll 1Lu 1Ll 1Lu 1Ll 1Lu 1Ll " ++
  "1Lu 1Ll 1Lu 1Ll 1Lu 1Ll 1Lu 1Ll 1Lu 1Ll 1Lu 1Ll 1Lu 1Ll 1Lu 1Ll 2Lu 1Ll 1Lu 1Ll 1Lu 1Ll " ++
  "1Lu 1Ll 1Lu 1Ll 1Lu 1Ll 1Lu 2Ll 1Lu 1Ll 1Lu 1Ll 1Lu 1Ll 1Lu 1Ll 1Lu 1Ll 1Lu 1Ll 1Lu 1Ll " ++
  "1Lu 1Ll 1Lu 1Ll 1Lu 1Ll 1Lu 1Ll 1Lu 1Ll 1Lu 1Ll 1Lu 1Ll 1Lu 1Ll 1Lu 1Ll 1Lu 1Ll 1Lu 1Ll " ++
  "1Lu 1Ll 1Lu 1Ll 1Lu 1Ll 1Lu 1Ll 1Lu 1Ll 1Lu 1Ll 1Lu 1Ll 1Lu 1Ll 1Lu 1Ll 1Lu 1Ll 1Lu 1Ll " ++
  "1Lu 1Ll 1Lu 1Ll 1Lu 1Ll 1Lu 1Ll 1Lu 1Ll 1Lu 1Ll 1Lu 1Ll 1Lu 1Ll 1Lu 1Ll 1Lu 1Ll 1Lu 1Ll " ++
  "1Lu 1Ll 1Lu 1Ll 1Lu 1Ll 1Lu 1Ll 1Lu 1Ll 1Lu 1Ll 1Lu 1Ll 1Lu 1Ll 1Cn 26Lu 2Cn 1Lm 6Po " ++
  "29Ll 1Po 1Pd 2Cn 2So 1Sc 1Cn 2dMn 1Pd 1Mn 1Po 2Mn 1Po 2Mn 1Po 1Mn 8Cn 1bLo 4Cn 4Lo 2Po " ++
  "bCn 6Cf 3Sm 2Po 1Sc 2Po 2So bMn 1Po 1Cf 3Po 20Lo 1Lm aLo 15Mn aNd 4Po 2Lo 1Mn 63Lo 1Po " ++
  "1Lo 7Mn 1Cf 1So 6Mn 2Lm 2Mn 1So 4Mn 2Lo aNd 3Lo 2So 1Lo ePo 1Cn 1Cf 1Lo 1Mn 1eLo 1bMn " ++
  "2Cn 59Lo bMn 1Lo eCn aNd 21Lo 9Mn 2Lm 1So 3Po 1Lm 2Cn 1Mn 2Sc 16Lo 4Mn 1Lm 9Mn 1Lm 3Mn " ++
  "1Lm 5Mn 2Cn fPo 1Cn 19Lo 3Mn 2Cn 1Po 1Cn bLo 5Cn 18Lo 1Sk 6Lo 1Cn 2Cf 5Cn 9Mn 29Lo 1Lm " ++
  "18Mn 1Cf 20Mn 1Mc 36Lo 1Mn 1Mc 1Mn 1Lo 3Mc 8Mn 4Mc 1Mn 2Mc 1Lo 7Mn aLo 2Mn 2Po aNd 1Po " ++
  "1Lm fLo 1Mn 2Mc 1Cn 8Lo 2Cn 2Lo 2Cn 16Lo 1Cn 7Lo 1Cn 1Lo 3Cn 4Lo 2Cn 1Mn 1Lo 3Mc 4Mn 2Cn " ++
  "2Mc 2Cn 2Mc 1Mn 1Lo 8Cn 1Mc 4Cn 2Lo 1Cn 3Lo 2Mn 2Cn aNd 2Lo 2Sc 6No 1So 1Sc 1Lo 1Po 1Mn " ++
  "2Cn 2Mn 1Mc 1Cn 6Lo 4Cn 2Lo 2Cn 16Lo 1Cn 7Lo 1Cn 2Lo 1Cn 2Lo 1Cn 2Lo 2Cn 1Mn 1Cn 3Mc 2Mn " ++
  "4Cn 2Mn 2Cn 3Mn 3Cn 1Mn 7Cn 4Lo 1Cn 1Lo 7Cn aNd 2Mn 3Lo 1Mn 1Po aCn 2Mn 1Mc 1Cn 9Lo 1Cn " ++
  "3Lo 1Cn 16Lo 1Cn 7Lo 1Cn 2Lo 1Cn 5Lo 2Cn 1Mn 1Lo 3Mc 5Mn 1Cn 2Mn 1Mc 1Cn 2Mc 1Mn 2Cn 1Lo " ++
  "fCn 2Lo 2Mn 2Cn aNd 1Po 1Sc 7Cn 1Lo 6Mn 1Cn 1Mn 2Mc 1Cn 8Lo 2Cn 2Lo 2Cn 16Lo 1Cn 7Lo 1Cn " ++
  "2Lo 1Cn 5Lo 2Cn 1Mn 1Lo 1Mc 1Mn 1Mc 4Mn 2Cn 2Mc 2Cn 2Mc 1Mn 7Cn 2Mn 1Mc 4Cn 2Lo 1Cn 3Lo " ++
  "2Mn 2Cn aNd 1So 1Lo 6No aCn 1Mn 1Lo 1Cn 6Lo 3Cn 3Lo 1Cn 4Lo 3Cn 2Lo 1Cn 1Lo 1Cn 2Lo 3Cn " ++
  "2Lo 3Cn 3Lo 3Cn cLo 4Cn 2Mc 1Mn 2Mc 3Cn 3Mc 1Cn 3Mc 1Mn 2Cn 1Lo 6Cn 1Mc eCn aNd 3No 6So " ++
  "1Sc 1So 5Cn 1Mn 3Mc 1Mn 8Lo 1Cn 3Lo 1Cn 17Lo 1Cn 10Lo 2Cn 1Mn 1Lo 3Mn 4Mc 1Cn 3Mn 1Cn " ++
  "4Mn 7Cn 2Mn 1Cn 3Lo 2Cn 1Lo 2Cn 2Lo 2Mn 2Cn aNd 7Cn 1Po 7No 1So 1Lo 1Mn 2Mc 1Po 8Lo 1Cn " ++
  "3Lo 1Cn 17Lo 1Cn aLo 1Cn 5Lo 2Cn 1Mn 1Lo 1Mc 1Mn 5Mc 1Cn 1Mn 2Mc 1Cn 2Mc 2Mn 7Cn 2Mc 6Cn " ++
  "2Lo 1Cn 2Lo 2Mn 2Cn aNd 1Cn 2Lo 1Mc cCn 2Mn 2Mc 9Lo 1Cn 3Lo 1Cn 29Lo 2Mn 1Lo 3Mc 4Mn 1Cn " ++
  "3Mc 1Cn 3Mc 1Mn 1Lo 1So 4Cn 3Lo 1Mc 7No 3Lo 2Mn 2Cn aNd 9No 1So 6Lo 1Cn 1Mn 2Mc 1Cn 12Lo " ++
  "3Cn 18Lo 1Cn 9Lo 1Cn 1Lo 2Cn 7Lo 3Cn 1Mn 4Cn 3Mc 3Mn 1Cn 1Mn 1Cn 8Mc 6Cn aNd 2Cn 2Mc 1Po " ++
  "cCn 30Lo 1Mn 2Lo 7Mn 4Cn 1Sc 6Lo 1Lm 8Mn 1Po aNd 2Po 25Cn 2Lo 1Cn 1Lo 1Cn 5Lo 1Cn 18Lo " ++
  "1Cn 1Lo 1Cn aLo 1Mn 2Lo 9Mn 1Lo 2Cn 5Lo 1Cn 1Lm 1Cn 7Mn 1Cn aNd 2Cn 4Lo 20Cn 1Lo 3So fPo " ++
  "1So 1Po 3So 2Mn 6So aNd aNo 1So 1Mn 1So 1Mn 1So 1Mn 1Ps 1Pe 1Ps 1Pe 2Mc 8Lo 1Cn 24Lo 4Cn " ++
  "eMn 1Mc 5Mn 1Po 2Mn 5Lo bMn 1Cn 24Mn 1Cn 8So 1Mn 6So 1Cn 2So 5Po 4So 2Po 25Cn 2bLo 2Mc " ++
  "4Mn 1Mc 6Mn 1Mc 2Mn 2Mc 2Mn 1Lo aNd 6Po 6Lo 2Mc 2Mn 4Lo 3Mn 1Lo 3Mc 2Lo 7Mc 3Lo 4Mn dLo " ++
  "1Mn 2Mc 2Mn 6Mc 1Mn 1Lo 1Mc aNd 3Mc 1Mn 2So 26Lu 1Cn 1Lu 5Cn 1Lu 2Cn 2bLl 1Po 1Lm 3Ll " ++
  "149Lo 1Cn 4Lo 2Cn 7Lo 1Cn 1Lo 1Cn 4Lo 2Cn 29Lo 1Cn 4Lo 2Cn 21Lo 1Cn 4Lo 2Cn 7Lo 1Cn 1Lo " ++
  "1Cn 4Lo 2Cn fLo 1Cn 39Lo 1Cn 4Lo 2Cn 43Lo 2Cn 3Mn 9Po 14No 3Cn 10Lo aSo 6Cn 56Lu 2Cn 6Ll " ++
  "2Cn 1Pd 26cLo 1So 1Po 11Lo 1Zs 1aLo 1Ps 1Pe 3Cn 4bLo 3Po 3Nl 8Lo 7Cn 12Lo 3Mn 1Mc 9Cn " ++
  "13Lo 2Mn 1Mc 2Po 9Cn 12Lo 2Mn cCn dLo 1Cn 3Lo 1Cn 2Mn cCn 34Lo 2Mn 1Mc 7Mn 8Mc 1Mn 2Mc " ++
  "bMn 3Po 1Lm 3Po 1Sc 1Lo 1Mn 2Cn aNd 6Cn aNo 6Cn 6Po 1Pd 4Po 3Mn 1Cf 1Mn aNd 6Cn 23Lo 1Lm " ++
  "35Lo 7Cn 5Lo 2Mn 22Lo 1Mn 1Lo 5Cn 46Lo aCn 1fLo 1Cn 3Mn 4Mc 2Mn 3Mc 4Cn 2Mc 1Mn 6Mc 3Mn " ++
  "4Cn 1So 3Cn 2Po aNd 1eLo 2Cn 5Lo bCn 2cLo 4Cn 1aLo 6Cn aNd 1No 3Cn 22So 17Lo 2Mn 2Mc 1Mn " ++
  "2Cn 2Po 35Lo 1Mc 1Mn 1Mc 7Mn 1Cn 1Mn 1Mc 1Mn 2Mc 8Mn 6Mc aMn 2Cn 1Mn aNd 6Cn aNd 6Cn 7Po " ++
  "1Lm 6Po 2Cn eMn 1Me 10Mn 31Cn 4Mn 1Mc 2fLo 1Mn 1Mc 5Mn 1Mc 1Mn 5Mc 1Mn 2Mc 8Lo 1Cn 2Po " ++
  "aNd 7Po aSo 9Mn 9So 3Po 2Mn 1Mc 1eLo 1Mc 4Mn 2Mc 2Mn 1Mc 3Mn 2Lo aNd 2cLo 1Mn 1Mc 2Mn " ++
  "3Mc 1Mn 1Mc 3Mn 2Mc 8Cn 4Po 24Lo 8Mc 8Mn 2Mc 2Mn 3Cn 5Po aNd 3Cn 3Lo aNd 1eLo 6Lm 2Po " ++
  "9Ll 1Lu 1Ll 5Cn 2bLu 2Cn 3Lu 8Po 8Cn 3Mn 1Po dMn 1Mc 7Mn 4Lo 1Mn 6Lo 1Mn 2Lo 1Mc 2Mn 1Lo " ++
  "5Cn 2cLl 3fLm dLl 1Lm 22Ll 25Lm 40Mn 1Lu 1Ll 1Lu 1Ll 1Lu 1Ll 1Lu 1Ll 1Lu 1Ll 1Lu 1Ll 1Lu " ++
  "1Ll 1Lu 1Ll 1Lu 1Ll 1Lu 1Ll 1Lu 1Ll 1Lu 1Ll 1Lu 1Ll 1Lu 1Ll 1Lu 1Ll 1Lu 1Ll 1Lu 1Ll 1Lu " ++
  "1Ll 1Lu 1Ll 1Lu 1Ll 1Lu 1Ll 1Lu 1Ll 1Lu 1Ll 1Lu 1Ll 1Lu 1Ll 1Lu 1Ll 1Lu 1Ll 1Lu 1Ll 1Lu " ++
  "1Ll 1Lu 1Ll 1Lu 1Ll 1Lu 1Ll 1Lu 1Ll 1Lu 1Ll 1Lu 1Ll 1Lu 1Ll 1Lu 1Ll 1Lu 1Ll 1Lu 1Ll 1Lu " ++
  "1Ll 1Lu 1Ll 1Lu 1Ll 1Lu 1Ll 1Lu 1Ll 1Lu 1Ll 1Lu 1Ll 1Lu 1Ll 1Lu 1Ll 1Lu 1Ll 1Lu 1Ll 1Lu " ++
  "1Ll 1Lu 1Ll 1Lu 1Ll 1Lu 1Ll 1Lu 1Ll 1Lu 1Ll 1Lu 1Ll 1Lu 1Ll 1Lu 1Ll 1Lu 1Ll 1Lu 1Ll 1Lu " ++
  "1Ll 1Lu 1Ll 1Lu 1Ll 1Lu 1Ll 1Lu 1Ll 1Lu 1Ll 1Lu 1Ll 1Lu 1Ll 1Lu 1Ll 1Lu 1Ll 1Lu 1Ll 1Lu " ++
  "1Ll 1Lu 1Ll 1Lu 9Ll 1Lu 1Ll 1Lu 1Ll 1Lu 1Ll 1Lu 1Ll 1Lu 1Ll 1Lu 1Ll 1Lu 1Ll 1Lu 1Ll 1Lu " ++
  "1Ll 1Lu 1Ll 1Lu 1Ll 1Lu 1Ll 1Lu 1Ll 1Lu 1Ll 1Lu 1Ll 1Lu 1Ll 1Lu 1Ll 1Lu 1Ll 1Lu 1Ll 1Lu " ++
  "1Ll 1Lu 1Ll 1Lu 1Ll 1Lu 1Ll 1Lu 1Ll 1Lu 1Ll 1Lu 1Ll 1Lu 1Ll 1Lu 1Ll 1Lu 1Ll 1Lu 1Ll 1Lu " ++
  "1Ll 1Lu 1Ll 1Lu 1Ll 1Lu 1Ll 1Lu 1Ll 1Lu 1Ll 1Lu 1Ll 1Lu 1Ll 1Lu 1Ll 1Lu 1Ll 1Lu 1Ll 1Lu " ++
  "1Ll 1Lu 1Ll 1Lu 1Ll 1Lu 1Ll 1Lu 1Ll 1Lu 1Ll 1Lu 1Ll 1Lu 9Ll 8Lu 6Ll 2Cn 6Lu 2Cn 8Ll 8Lu " ++
  "8Ll 8Lu 6Ll 2Cn 6Lu 2Cn 8Ll 1Cn 1Lu 1Cn 1Lu 1Cn 1Lu 1Cn 1Lu 8Ll 8Lu eLl 2Cn 8Ll 8Lt 8Ll " ++
  "8Lt 8Ll 8Lt 5Ll 1Cn 2Ll 4Lu 1Lt 1Sk 1Ll 3Sk 3Ll 1Cn 2Ll 4Lu 1Lt 3Sk 4Ll 2Cn 2Ll 4Lu 1Cn " ++
  "3Sk 8Ll 5Lu 3Sk 2Cn 3Ll 1Cn 2Ll 4Lu 1Lt 2Sk 1Cn bZs 5Cf 6Pd 2Po 1Pi 1Pf 1Ps 2Pi 1Pf 1Ps " ++
  "1Pi 8Po 1Zl 1Zp 5Cf 1Zs 9Po 1Pi 1Pf 4Po 2Pc 3Po 1Sm 1Ps 1Pe bPo 1Sm 1Po 1Pc aPo 1Zs 5Cf " ++
  "1Cn aCf 1No 1Lm 2Cn 6No 3Sm 1Ps 1Pe 1Lm aNo 3Sm 1Ps 1Pe 1Cn dLm 3Cn 21Sc fCn dMn 4Me 1Mn " ++
  "3Me cMn fCn 2So 1Lu 4So 1Lu 2So 1Ll 3Lu 2Ll 3Lu 1Ll 1So 1Lu 2So 1Sm 5Lu 6So 1Lu 1So 1Lu " ++
  "1So 1Lu 1So 4Lu 1So 1Ll 4Lu 1Ll 4Lo 1Ll 2So 2Ll 2Lu 5Sm 1Lu 4Ll 1So 1Sm 2So 1Ll 1So 10No " ++
  "23Nl 1Lu 1Ll 4Nl 1No 2So 4Cn 5Sm 5So 2Sm 4So 1Sm 2So 1Sm 2So 1Sm 7So 1Sm 1fSo 2Sm 2So " ++
  "1Sm 1So 1Sm 1fSo 10cSm 8So 1Ps 1Pe 1Ps 1Pe 14So 2Sm 7So 1Ps 1Pe 51So 1Sm 1eSo 19Sm 28So " ++
  "6Sm 48So 16Cn bSo 15Cn 3cNo 4eSo 16No b7So 1Sm 9So 1Sm 36So 8Sm 6fSo 1Sm f8So 1Ps 1Pe " ++
  "1Ps 1Pe 1Ps 1Pe 1Ps 1Pe 1Ps 1Pe 1Ps 1Pe 1Ps 1Pe 1eNo 2cSo 5Sm 1Ps 1Pe 1fSm 1Ps 1Pe 1Ps " ++
  "1Pe 1Ps 1Pe 1Ps 1Pe 1Ps 1Pe 10Sm 100So 83Sm 1Ps 1Pe 1Ps 1Pe 1Ps 1Pe 1Ps 1Pe 1Ps 1Pe 1Ps " ++
  "1Pe 1Ps 1Pe 1Ps 1Pe 1Ps 1Pe 1Ps 1Pe 1Ps 1Pe 3fSm 1Ps 1Pe 1Ps 1Pe 20Sm 1Ps 1Pe 102Sm 30So " ++
  "15Sm 2So 6Sm 27So 2Cn 20So 1Cn 69So 30Lu 30Ll 1Lu 1Ll 3Lu 2Ll 1Lu 1Ll 1Lu 1Ll 1Lu 1Ll " ++
  "4Lu 1Ll 1Lu 2Ll 1Lu 6Ll 2Lm 3Lu 1Ll 1Lu 1Ll 1Lu 1Ll 1Lu 1Ll 1Lu 1Ll 1Lu 1Ll 1Lu 1Ll 1Lu " ++
  "1Ll 1Lu 1Ll 1Lu 1Ll 1Lu 1Ll 1Lu 1Ll 1Lu 1Ll 1Lu 1Ll 1Lu 1Ll 1Lu 1Ll 1Lu 1Ll 1Lu 1Ll 1Lu " ++
  "1Ll 1Lu 1Ll 1Lu 1Ll 1Lu 1Ll 1Lu 1Ll 1Lu 1Ll 1Lu 1Ll 1Lu 1Ll 1Lu 1Ll 1Lu 1Ll 1Lu 1Ll 1Lu " ++
  "1Ll 1Lu 1Ll 1Lu 1Ll 1Lu 1Ll 1Lu 1Ll 1Lu 1Ll 1Lu 1Ll 1Lu 1Ll 1Lu 1Ll 1Lu 1Ll 1Lu 1Ll 1Lu " ++
  "1Ll 1Lu 1Ll 1Lu 1Ll 1Lu 1Ll 1Lu 1Ll 1Lu 1Ll 1Lu 1Ll 1Lu 1Ll 1Lu 1Ll 1Lu 2Ll 6So 1Lu 1Ll " ++
  "1Lu 1Ll 3Mn 1Lu 1Ll 5Cn 4Po 1No 2Po 26Ll 1Cn 1Ll 5Cn 1Ll 2Cn 38Lo 7Cn 1Lm 1Po eCn 1Mn " ++
  "17Lo 9Cn 7Lo 1Cn 7Lo 1Cn 7Lo 1Cn 7Lo 1Cn 7Lo 1Cn 7Lo 1Cn 7Lo 1Cn 7Lo 1Cn 20Mn 2Po 1Pi " ++
  "1Pf 1Pi 1Pf 3Po 1Pi 1Pf 1Po 1Pi 1Pf 9Po 1Pd 2Po 1Pd 1Po 1Pi 1Pf 2Po 1Pi 1Pf 1Ps 1Pe 1Ps " ++
  "1Pe 1Ps 1Pe 1Ps 1Pe 5Po 1Lm aPo 2Pd 4Po 1Pd 1Po 1Ps dPo 2So 3Po 1Ps 1Pe 1Ps 1Pe 1Ps 1Pe " ++
  "1Ps 1Pe 1Pd 22Cn 1aSo 1Cn 59So cCn d6So 1aCn 10So 1Zs 3Po 1So 1Lm 1Lo 1Nl 1Ps 1Pe 1Ps " ++
  "1Pe 1Ps 1Pe 1Ps 1Pe 1Ps 1Pe 2So 1Ps 1Pe 1Ps 1Pe 1Ps 1Pe 1Ps 1Pe 1Pd 1Ps 2Pe 1So 9Nl 4Mn " ++
  "2Mc 1Pd 5Lm 2So 3Nl 1Lm 1Lo 1Po 2So 1Cn 56Lo 2Cn 2Mn 2Sk 2Lm 1Lo 1Pd 5aLo 1Po 3Lm 1Lo " ++
  "5Cn 2bLo 1Cn 5eLo 1Cn 2So 4No aSo 20Lo 26So 9Cn 1So 10Lo 1fSo 1Cn aNo 1eSo 8No 1So fNo " ++
  "20So aNo 27So fNo 140So 19c0Lo 40So 5215Lo 1Lm 477Lo 3Cn 37So 9Cn 28Lo 6Lm 2Po 10cLo 1Lm " ++
  "3Po 10Lo aNd 2Lo 14Cn 1Lu 1Ll 1Lu 1Ll 1Lu 1Ll 1Lu 1Ll 1Lu 1Ll 1Lu 1Ll 1Lu 1Ll 1Lu 1Ll " ++
  "1Lu 1Ll 1Lu 1Ll 1Lu 1Ll 1Lu 1Ll 1Lu 1Ll 1Lu 1Ll 1Lu 1Ll 1Lu 1Ll 1Lu 1Ll 1Lu 1Ll 1Lu 1Ll " ++
  "1Lu 1Ll 1Lu 1Ll 1Lu 1Ll 1Lu 1Ll 1Lo 1Mn 3Me 1Po aMn 1Po 1Lm 1Lu 1Ll 1Lu 1Ll 1Lu 1Ll 1Lu " ++
  "1Ll 1Lu 1Ll 1Lu 1Ll 1Lu 1Ll 1Lu 1Ll 1Lu 1Ll 1Lu 1Ll 1Lu 1Ll 1Lu 1Ll 1Lu 1Ll 1Lu 1Ll 2Lm " ++
  "2Mn 46Lo aNl 2Mn 6Po 8Cn 17Sk 9Lm 2Sk 1Lu 1Ll 1Lu 1Ll 1Lu 1Ll 1Lu 1Ll 1Lu 1Ll 1Lu 1Ll " ++
  "1Lu 3Ll 1Lu 1Ll 1Lu 1Ll 1Lu 1Ll 1Lu 1Ll 1Lu 1Ll 1Lu 1Ll 1Lu 1Ll 1Lu 1Ll 1Lu 1Ll 1Lu 1Ll " ++
  "1Lu 1Ll 1Lu 1Ll 1Lu 1Ll 1Lu 1Ll 1Lu 1Ll 1Lu 1Ll 1Lu 1Ll 1Lu 1Ll 1Lu 1Ll 1Lu 1Ll 1Lu 1Ll " ++
  "1Lu 1Ll 1Lu 1Ll 1Lu 1Ll 1Lu 1Ll 1Lu 1Ll 1Lu 1Ll 1Lu 1Ll 1Lu 1Ll 1Lu 1Ll 1Lu 1Ll 1Lm 8Ll " ++
  "1Lu 1Ll 1Lu 1Ll 2Lu 1Ll 1Lu 1Ll 1Lu 1Ll 1Lu 1Ll 1Lu 1Ll 1Lm 2Sk 1Lu 1Ll 1Lu 1Ll 1Lo 1Lu " ++
  "1Ll 1Lu 3Ll 1Lu 1Ll 1Lu 1Ll 1Lu 1Ll 1Lu 1Ll 1Lu 1Ll 1Lu 1Ll 1Lu 1Ll 1Lu 1Ll 1Lu 1Ll 1Lu " ++
  "1Ll 5Lu 1Ll 5Lu 1Ll 1Lu 1Ll 1Lu 1Ll 1Lu 1Ll 1Lu 1Ll 1Lu 1Ll 1Lu 1Ll 1Lu 1Ll 4Lu 1Ll 1Lu " ++
  "1Ll 2Lu 1Ll 2Cn 1Lu 1Ll 1Cn 1Ll 1Cn 1Ll 1Lu 1Ll 1Lu 1Ll 1Lu 1Ll 1Lu 15Cn 3Lm 1Lu 1Ll 1Lo " ++
  "2Lm 1Ll 7Lo 1Mn 3Lo 1Mn 4Lo 1Mn 17Lo 2Mc 2Mn 1Mc 4So 1Mn 3Cn 6No 2So 1Sc 1So 6Cn 34Lo " ++
  "4Po 8Cn 2Mc 32Lo 10Mc 2Mn 8Cn 2Po aNd 6Cn 12Mn 6Lo 3Po 1Lo 1Po 2Lo 1Mn aNd 1cLo 8Mn 2Po " ++
  "17Lo bMn 2Mc bCn 1Po 1dLo 3Cn 3Mn 1Mc 2fLo 1Mn 2Mc 4Mn 2Mc 2Mn 3Mc dPo 1Cn 1Lm aNd 4Cn " ++
  "2Po 5Lo 1Mn 1Lm 9Lo aNd 5Lo 1Cn 29Lo 6Mn 2Mc 2Mn 2Mc 2Mn 9Cn 3Lo 1Mn 8Lo 1Mn 1Mc 2Cn aNd " ++
  "2Cn 4Po 10Lo 1Lm 6Lo 3So 1Lo 1Mc 1Mn 1Mc 32Lo 1Mn 1Lo 3Mn 2Lo 2Mn 5Lo 2Mn 1Lo 1Mn 1Lo " ++
  "18Cn 2Lo 1Lm 2Po bLo 1Mc 2Mn 2Mc 2Po 1Lo 2Lm 1Mc 1Mn aCn 6Lo 2Cn 6Lo 2Cn 6Lo 9Cn 7Lo 1Cn " ++
  "7Lo 1Cn 2bLl 1Sk 4Lm 9Ll 1Lm 2Sk 4Cn 50Ll 23Lo 2Mc 1Mn 2Mc 1Mn 2Mc 1Po 1Mc 1Mn 2Cn aNd " ++
  "6Cn 2ba4Lo cCn 17Lo 4Cn 31Lo 4Cn 800Cs 1900Co 16eLo 2Cn 6aLo 26Cn 7Ll cCn 5Ll 5Cn 1Lo " ++
  "1Mn aLo 1Sm dLo 1Cn 5Lo 1Cn 1Lo 1Cn 2Lo 1Cn 2Lo 1Cn 6cLo 11Sk 10Cn 16bLo 1Pe 1Ps 10So " ++
  "40Lo 2Cn 36Lo 7Cn 1So 20Cn cLo 1Sc 3So 10Mn 7Po 1Ps 1Pe 1Po 6Cn 10Mn 1Po 2Pd 2Pc 1Ps 1Pe " ++
  "1Ps 1Pe 1Ps 1Pe 1Ps 1Pe 1Ps 1Pe 1Ps 1Pe 1Ps 1Pe 1Ps 1Pe 2Po 1Ps 1Pe 4Po 3Pc 3Po 1Cn 4Po " ++
  "1Pd 1Ps 1Pe 1Ps 1Pe 1Ps 1Pe 3Po 1Sm 1Pd 3Sm 1Cn 1Po 1Sc 2Po 4Cn 5Lo 1Cn 87Lo 2Cn 1Cf 1Cn " ++
  "3Po 1Sc 3Po 1Ps 1Pe 1Po 1Sm 1Po 1Pd 2Po aNd 2Po 3Sm 2Po 1aLu 1Ps 1Po 1Pe 1Sk 1Pc 1Sk " ++
  "1aLl 1Ps 1Sm 1Pe 1Sm 1Ps 1Pe 1Po 1Ps 1Pe 2Po aLo 1Lm 2dLo 2Lm 1fLo 3Cn 6Lo 2Cn 6Lo 2Cn " ++
  "6Lo 2Cn 3Lo 3Cn 2Sc 1Sm 1Sk 1So 2Sc 1Cn 1So 4Sm 2So aCn 3Cf 2So 2Cn cLo 1Cn 1aLo 1Cn " ++
  "13Lo 1Cn 2Lo 1Cn fLo 2Cn eLo 22Cn 7bLo 5Cn 3Po 4Cn 2dNo 3Cn 9So 35Nl 4No 11So 2No 3So " ++
  "1Cn dSo 3Cn 1So 2fCn 2dSo 1Mn 82Cn 1dLo 3Cn 31Lo fCn 1Mn 1bNo 4Cn 20Lo 4No 9Cn 14Lo 1Nl " ++
  "8Lo 1Nl 5Cn 26Lo 5Mn 5Cn 1eLo 1Cn 1Po 24Lo 4Cn 8Lo 1Po 5Nl 2aCn 28Lu 28Ll 4eLo 2Cn aNd " ++
  "6Cn 24Lu 4Cn 24Ll 4Cn 28Lo 8Cn 34Lo bCn 1Po bLu 1Cn fLu 1Cn 7Lu 1Cn 2Lu 1Cn bLl 1Cn fLl " ++
  "1Cn 7Ll 1Cn 2Ll 3Cn 34Lo cCn 137Lo 9Cn 16Lo aCn 8Lo 18Cn 6Lm 1Cn 2aLm 1Cn 9Lm 45Cn 6Lo " ++
  "2Cn 1Lo 1Cn 2cLo 1Cn 2Lo 3Cn 1Lo 2Cn 17Lo 1Cn 1Po 8No 17Lo 2So 7No 1fLo 8Cn 9No 30Cn " ++
  "13Lo 1Cn 2Lo 5Cn 5No 16Lo 6No 3Cn 1Po 1aLo 5Cn 1Po 40Cn 38Lo 4Cn 2No 2Lo 10No 2Cn 2eNo " ++
  "1Lo 3Mn 1Cn 2Mn 5Cn 4Mn 4Lo 1Cn 3Lo 1Cn 1dLo 2Cn 3Mn 4Cn 1Mn 9No 7Cn 9Po 7Cn 1dLo 2No " ++
  "1Po 1dLo 3No 20Cn 8Lo 1So 1cLo 2Mn 4Cn 5No 7Po 9Cn 36Lo 3Cn 7Po 16Lo 2Cn 8No 13Lo 5Cn " ++
  "8No 12Lo 7Cn 4Po cCn 7No 50Cn 49Lo 37Cn 33Lu dCn 33Ll 7Cn 6No 24Lo 4Mn 8Cn aNd 6Cn aNd " ++
  "4Lo 1Lm 1Lo 16Lu 3Cn 5Mn 1Pd 1Lm 16Ll 8Cn 2Sm d0Cn 1fNo 1Cn 2aLo 1Cn 2Mn 1Pd 2Cn 2Lo " ++
  "10Cn 3Lo 37Cn 4Mn 1dLo aNo 1Lo 8Cn 16Lo bMn 4No 5Po 16Cn 12Lo 4Mn 4Po 26Cn 15Lo 7No 14Cn " ++
  "17Lo 9Cn 1Mc 1Mn 1Mc 35Lo fMn 7Po 4Cn 14No aNd 1Mn 2Lo 2Mn 1Lo 9Cn 3Mn 1Mc 2dLo 3Mc 4Mn " ++
  "2Mc 2Mn 2Po 1Cf 4Po 1Mn aCn 1Cf 2Cn 19Lo 7Cn aNd 6Cn 3Mn 24Lo 5Mn 1Mc 8Mn 1Cn aNd 4Po " ++
  "1Lo 2Mc 1Lo 8Cn 23Lo 1Mn 2Po 1Lo 9Cn 2Mn 1Mc 30Lo 3Mc 9Mn 2Mc 4Lo 4Po 4Mn 1Po 1Mc 1Mn " ++
  "aNd 1Lo 1Po 1Lo 3Po 1Cn 14No bCn 12Lo 1Cn 19Lo 3Mc 3Mn 2Mc 1Mn 1Mc 2Mn 6Po 1Mn 2Lo 1Mn " ++
  "3eCn 7Lo 1Cn 1Lo 1Cn 4Lo 1Cn fLo 1Cn aLo 1Po 6Cn 2fLo 1Mn 3Mc 8Mn 5Cn aNd 6Cn 2Mn 2Mc " ++
  "1Cn 8Lo 2Cn 2Lo 2Cn 16Lo 1Cn 7Lo 1Cn 2Lo 1Cn 5Lo 1Cn 2Mn 1Lo 2Mc 1Mn 4Mc 2Cn 2Mc 2Cn 3Mc " ++
  "2Cn 1Lo 6Cn 1Mc 5Cn 5Lo 2Mc 2Cn 7Mn 3Cn 5Mn bCn aLo 1Cn 1Lo 2Cn 1Lo 1Cn 26Lo 1Cn 1Lo 3Mc " ++
  "6Mn 1Cn 1Mc 2Cn 1Mc 1Cn 4Mc 1Cn 2Mc 1Mn 1Mc 1Mn 1Lo 1Mn 1Lo 2Po 1Cn 2Po 8Cn 2Mn 1dCn " ++
  "35Lo 3Mc 8Mn 2Mc 3Mn 1Mc 1Mn 4Lo 5Po aNd 2Po 1Cn 1Po 1Mn 3Lo 1eCn 30Lo 3Mc 6Mn 1Mc 1Mn " ++
  "4Mc 2Mn 1Mc 2Mn 2Lo 1Po 1Lo 8Cn aNd a6Cn 2fLo 3Mc 4Mn 2Cn 4Mc 2Mn 1Mc 2Mn 17Po 4Lo 2Mn " ++
  "22Cn 30Lo 3Mc 8Mn 2Mc 1Mn 1Mc 2Mn 3Po 1Lo bCn aNd 6Cn dPo 13Cn 2bLo 1Mn 1Mc 1Mn 2Mc 6Mn " ++
  "1Mc 1Mn 1Lo 1Po 6Cn aNd 6Cn 14Nd 1cCn 1bLo 2Cn 1Mn 1Mc 1Mn 2Mc 4Mn 1Mc 5Mn 4Cn aNd 2No " ++
  "3Po 1So 7Lo b9Cn 2cLo 3Mc 9Mn 1Mc 2Mn 1Po 64Cn 20Lu 20Ll aNd 9No cCn 8Lo 2Cn 1Lo 2Cn 8Lo " ++
  "1Cn 2Lo 1Cn 18Lo 6Mc 1Cn 2Mc 2Cn 2Mn 1Mc 1Mn 1Lo 1Mc 1Lo 1Mc 1Mn 3Po 9Cn aNd 46Cn 8Lo " ++
  "2Cn 27Lo 3Mc 4Mn 2Cn 2Mn 4Mc 1Mn 1Lo 1Po 1Lo 1Mc 1bCn 1Lo aMn 28Lo 6Mn 1Mc 1Lo 4Mn 8Po " ++
  "1Mn 8Cn 1Lo 6Mn 2Mc 3Mn 2eLo dMn 1Mc 2Mn 3Po 1Lo 5Po dCn 49Lo 7Cn aPo b6Cn 21Lo 1Po eCn " ++
  "aNd 6Cn 9Lo 1Cn 25Lo 1Mc 7Mn 1Cn 6Mn 1Mc 1Mn 1Lo 5Po aCn aNd 13No 3Cn 2Po 1eLo 2Cn 16Mn " ++
  "1Cn 1Mc 7Mn 1Mc 2Mn 1Mc 2Mn 49Cn 7Lo 1Cn 2Lo 1Cn 26Lo 6Mn 3Cn 1Mn 1Cn 2Mn 1Cn 7Mn 1Lo " ++
  "1Mn 8Cn aNd 6Cn 6Lo 1Cn 2Lo 1Cn 20Lo 5Mc 1Cn 2Mn 1Cn 2Mc 1Mn 1Mc 1Mn 1Lo 7Cn aNd 136Cn " ++
  "13Lo 2Mn 2Mc 2Po 7Cn 2Mn 1Lo 1Mc dLo 1Cn 22Lo 2Mc 5Mn 3Cn 2Mc 1Mn 1Mc 1Mn dPo aNd 1Mn " ++
  "55Cn 1Lo fCn 15No 8So 4Sc 11So dCn 1Po 39aLo 66Cn 6fNl 1Cn 5Po bCn c4Lo a4cCn 61Lo 2Po " ++
  "dCn 430Lo 10Cf 1Mn 6Lo fMn aCn f9bLo 5Cn 247Lo 1ab9Cn 1eLo cMn 3Mc 3Mn aNd 6c6Cn 239Lo " ++
  "7Cn 1fLo 1Cn aNd 4Cn 2Po 4fLo 1Cn aNd 6Cn 1eLo 2Cn 5Mn 1Po aCn 30Lo 7Mn 5Po 4So 4Lm 1Po " ++
  "1So aCn aNd 1Cn 7No 1Cn 15Lo 5Cn 13Lo 1b0Cn 3Lm 28Lo 2Lm 3Po aNd c6Cn 20Lu 20Ll 17No 4Po " ++
  "65Cn 4bLo 4Cn 1Mn 1Lo 37Mc 7Cn 4Mn dLm 40Cn 2Lm 1Po 1Lm 1Mn bCn 2Mc eCn 17f8Lo 8Cn 4d6Lo " ++
  "29Cn aLo 22e7Cn 4Lm 1Cn 7Lm 1Cn 2Lm 1Cn 123Lo fCn 1Lo 1dCn 3Lo 2Cn 1Lo eCn 4Lo 8Cn 18cLo " ++
  "904Cn 6bLo 5Cn dLo 3Cn 9Lo 7Cn aLo 2Cn 1So 2Mn 1Po 4Cf f5cCn f0So aNd 6Cn 1b4So 4cCn " ++
  "2eMn 2Cn 17Mn 9Cn 74So 3cCn f6So aCn 27So 2Cn 3cSo 2Mc 3Mn 3So 6Mc 8Cf 8Mn 2So 7Mn 1eSo " ++
  "4Mn 3dSo 15Cn 42So 3Mn 1So 7aCn 14No cCn 14No cCn 57So 9Cn 19No 87Cn 1aLu 1aLl 1aLu 7Ll " ++
  "1Cn 12Ll 1aLu 1aLl 1Lu 1Cn 2Lu 2Cn 1Lu 2Cn 2Lu 2Cn 4Lu 1Cn 8Lu 4Ll 1Cn 1Ll 1Cn 7Ll 1Cn " ++
  "bLl 1aLu 1aLl 2Lu 1Cn 4Lu 2Cn 8Lu 1Cn 7Lu 1Cn 1aLl 2Lu 1Cn 4Lu 1Cn 5Lu 1Cn 1Lu 3Cn 7Lu " ++
  "1Cn 1aLl 1aLu 1aLl 1aLu 1aLl 1aLu 1aLl 1aLu 1aLl 1aLu 1aLl 1aLu 1cLl 2Cn 19Lu 1Sm 19Ll " ++
  "1Sm 6Ll 19Lu 1Sm 19Ll 1Sm 6Ll 19Lu 1Sm 19Ll 1Sm 6Ll 19Lu 1Sm 19Ll 1Sm 6Ll 19Lu 1Sm 19Ll " ++
  "1Sm 6Ll 1Lu 1Ll 2Cn 32Nd 200So 37Mn 4So 32Mn 8So 1Mn eSo 1Mn 2So 5Po fCn 5Mn 1Cn fMn " ++
  "450Cn aLl 1Lo 14Ll 6Cn 6Ll d5Cn 7Mn 1Cn 11Mn 2Cn 7Mn 1Cn 2Mn 1Cn 5Mn 5Cn 3eLm 21Cn 1Mn " ++
  "70Cn 2dLo 3Cn 7Mn 7Lm 2Cn aNd 4Cn 1Lo 1So 140Cn 1eLo 1Mn 11Cn 2cLo 4Mn aNd 5Cn 1Sc 1d0Cn " ++
  "1bLo 1Lm 4Mn aNd d6Cn 1eLo 2Mn 1Lo aNd 4Cn 1Po 1e0Cn 7Lo 1Cn 4Lo 1Cn 2Lo 1Cn fLo 1Cn " ++
  "c5Lo 2Cn 9No 7Mn 29Cn 22Lu 22Ll 7Mn 1Lm 4Cn aNd 4Cn 2Po 311Cn 3bNo 1So 3No 1Sc 4No 4cCn " ++
  "2dNo 1So fNo c2Cn 4Lo 1Cn 1bLo 1Cn 2Lo 1Cn 1Lo 2Cn 1Lo 1Cn aLo 1Cn 4Lo 1Cn 1Lo 1Cn 1Lo " ++
  "6Cn 1Lo 4Cn 1Lo 1Cn 1Lo 1Cn 1Lo 1Cn 3Lo 1Cn 2Lo 1Cn 1Lo 2Cn 1Lo 1Cn 1Lo 1Cn 1Lo 1Cn 1Lo " ++
  "1Cn 1Lo 1Cn 2Lo 1Cn 1Lo 2Cn 4Lo 1Cn 7Lo 1Cn 4Lo 1Cn 4Lo 1Cn 1Lo 1Cn aLo 1Cn 11Lo 5Cn 3Lo " ++
  "1Cn 5Lo 1Cn 11Lo 34Cn 2Sm 10eCn 2cSo 4Cn 64So cCn fSo 2Cn fSo 1Cn fSo 1Cn 25So aCn dNo " ++
  "a1So 38Cn 1dSo dCn 2cSo 4Cn 9So 7Cn 2So eCn 6So 9aCn fbSo 5Sk 2d8So 4Cn 11So 3Cn dSo 3Cn " ++
  "77So 4Cn 5fSo 6Cn cSo 4Cn 1So fCn cSo 4Cn 38So 8Cn aSo 6Cn 28So 8Cn 1eSo 2Cn cSo 4Cn 2So " ++
  "3eCn 154So cCn eSo 2Cn dSo 3Cn aSo 5Cn 38So 7Cn fSo 2Cn bSo 6Cn 9So 7Cn 93So 1Cn 5cSo " ++
  "aNd 406Cn a6e0Lo 20Cn 103aLo 6Cn deLo 2Cn 1682Lo eCn 1d31Lo fCn 26eLo 9a2Cn 21eLo 5e2Cn " ++
  "134bLo 5Cn 1060Lo adc51Cn 1Cf 1eCn 60Cf 80Cn f0Mn fe10Cn fffeCo 2Cn fffeCo 2Cn"

/-- The runs of equal general category. -/
def categoryRuns : List (Interval × String) :=
  IntervalSet.labelledRuns 0 (categoryTable.splitOn " ")

/-- Code points of any of the given general categories. -/
def ofCategories (categories : List String) : IntervalSet :=
  IntervalSet.ofLabels categoryRuns categories

/-- Loose names of the categories and their groups, each with the categories it stands for. -/
def categoryNames : List (String × List String) :=
  [("c", ["Cc", "Cf", "Cn", "Co", "Cs"]),
   ("other", ["Cc", "Cf", "Cn", "Co", "Cs"]),
   ("cc", ["Cc"]),
   ("control", ["Cc"]),
   ("cntrl", ["Cc"]),
   ("cf", ["Cf"]),
   ("format", ["Cf"]),
   ("cn", ["Cn"]),
   ("unassigned", ["Cn"]),
   ("co", ["Co"]),
   ("privateuse", ["Co"]),
   ("l", ["Ll", "Lm", "Lo", "Lt", "Lu"]),
   ("letter", ["Ll", "Lm", "Lo", "Lt", "Lu"]),
   ("lc", ["Lu", "Ll", "Lt"]),
   ("casedletter", ["Lu", "Ll", "Lt"]),
   ("ll", ["Ll"]),
   ("lowercaseletter", ["Ll"]),
   ("lm", ["Lm"]),
   ("modifierletter", ["Lm"]),
   ("lo", ["Lo"]),
   ("otherletter", ["Lo"]),
   ("lt", ["Lt"]),
   ("titlecaseletter", ["Lt"]),
   ("lu", ["Lu"]),
   ("uppercaseletter", ["Lu"]),
   ("m", ["Mc", "Me", "Mn"]),
   ("mark", ["Mc", "Me", "Mn"]),
   ("combiningmark", ["Mc", "Me", "Mn"]),
   ("mc", ["Mc"]),
   ("spacingmark", ["Mc"]),
   ("me", ["Me"]),
   ("enclosingmark", ["Me"]),
   ("mn", ["Mn"]),
   ("nonspacingmark", ["Mn"]),
   ("n", ["Nd", "Nl", "No"]),
   ("number", ["Nd", "Nl", "No"]),
   ("nd", ["Nd"]),
   ("decimalnumber", ["Nd"]),
   ("digit", ["Nd"]),
   ("nl", ["Nl"]),
   ("letternumber", ["Nl"]),
   ("no", ["No"]),
   ("othernumber", ["No"]),
   ("p", ["Pc", "Pd", "Pe", "Pf", "Pi", "Po", "Ps"]),
   ("punctuation", ["Pc", "Pd", "Pe", "Pf", "Pi", "Po", "Ps"]),
   ("punct", ["Pc", "Pd", "Pe", "Pf", "Pi", "Po", "Ps"]),
   ("pc", ["Pc"]),
   ("connectorpunctuation", ["Pc"]),
   ("pd", ["Pd"]),
   ("dashpunctuation", ["Pd"]),
   ("pe", ["Pe"]),
   ("closepunctuation", ["Pe"]),
   ("pf", ["Pf"]),
   ("finalpunctuation", ["Pf"]),
   ("pi", ["Pi"]),
   ("initialpunctuation", ["Pi"]),
   ("po", ["Po"]),
   ("otherpunctuation", ["Po"]),
   ("ps", ["Ps"]),
   ("openpunctuation", ["Ps"]),
   ("s", ["Sc", "Sk", "Sm", "So"]),
   ("symbol", ["Sc", "Sk", "Sm", "So"]),
   ("sc", ["Sc"]),
   ("currencysymbol", ["Sc"]),
   ("sk", ["Sk"]),
   ("modifiersymbol", ["Sk"]),
   ("sm", ["Sm"]),
   ("mathsymbol", ["Sm"]),
   ("so", ["So"]),
   ("othersymbol", ["So"]),
   ("z", ["Zl", "Zp", "Zs"]),
   ("separator", ["Zl", "Zp", "Zs"]),
   ("zl", ["Zl"]),
   ("lineseparator", ["Zl"]),
   ("zp", ["Zp"]),
   ("paragraphseparator", ["Zp"]),
   ("zs", ["Zs"]),
   ("spaceseparator", ["Zs"])]

/-- The categories that a loose name stands for. -/
def categoriesNamed (looseName : String) : Option (List String) :=
  categoryNames.lookup looseName

end ReleaseRules.Unicode
