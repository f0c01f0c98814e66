import ReleaseRules.Unicode.IntervalSet

/-!
Contract: the ages of all code points.

Owns:
- the versions of the Unicode standard up to 16.0, in order;
- the version in which each code point was assigned.

Does not own: what is assigned to a code point.
-/

namespace ReleaseRules.Unicode

/-- Lengths of the runs of code points that were assigned in the same version, from code point
zero on. What no version assigns has the label `N`. -/
def ageTable : String :=
  "1f6V1.1 4V3.0 1eV1.1 8V3.0 1V3.2 1V4.0 12V3.0 3V4.0 bV4.1 eV5.0 59V1.1 5V3.0 2V4.0 " ++
  "2fV1.1 1V3.0 aV1.1 5V3.0 11V4.0 46V1.1 9V3.0 1V3.2 8V4.0 5V4.1 3V4.0 2V1.1 1V3.0 dV3.2 " ++
  "4V5.1 2V1.1 2V5.1 2N 1V1.1 3V5.0 1V1.1 1V7.0 4N 7V1.1 1N 1V1.1 1N 14V1.1 1N 2cV1.1 1V5.1 " ++
  "7V1.1 1V3.0 2V3.2 1V1.1 1V3.0 1V1.1 1V3.0 1V1.1 1V3.0 1V1.1 1V3.0 12V1.1 2V3.1 1V3.2 " ++
  "5V4.0 4V4.1 1V3.0 cV1.1 1V3.0 42V1.1 1V3.0 cV1.1 1V3.0 29V1.1 1V5.1 2V3.0 2V3.2 4V3.0 " ++
  "35V1.1 2V3.2 2V1.1 2V3.2 2V1.1 2V3.2 1V5.0 1cV1.1 2V3.0 8V1.1 2V4.1 2V1.1 6V5.0 10V3.2 " ++
  "4V5.0 10V5.1 2V5.2 2V6.0 8V7.0 1N 26V1.1 2N 7V1.1 1V11.0 27V1.1 1V11.0 1V1.1 1V3.0 2N " ++
  "2V7.0 1V6.1 1N 11V2.0 1V4.1 dV2.0 aV1.1 1V5.0 9V1.1 1V2.0 3V4.1 8N 1bV1.1 4N 1V11.0 " ++
  "5V1.1 bN 4V4.0 1V6.1 1V7.0 5V5.1 1V4.1 1V1.1 9V4.0 5V5.1 1V1.1 1V6.3 1V14.0 1V4.1 1V1.1 " ++
  "1V6.0 1aV1.1 5V5.1 13V1.1 3V3.0 3V4.0 6V4.1 1V6.0 eV1.1 2V3.2 48V1.1 2V3.0 5V1.1 1V3.0 " ++
  "fV1.1 1V3.0 1eV1.1 2V4.0 aV1.1 5V3.0 1V4.0 eV3.0 1N 1eV3.0 3V4.0 1bV3.0 2N 3V4.0 1eV4.1 " ++
  "12V5.1 31V3.0 1V3.2 eN 3bV5.0 2N 3V11.0 2eV5.2 2N fV5.2 1N 1cV6.0 2N 1V6.0 1N bV10.0 5N " ++
  "1fV14.0 1N 2V14.0 5N 1V16.0 8V14.0 1V6.1 1V7.0 bV6.1 6V7.0 2V8.0 1V14.0 8V9.0 aV13.0 " ++
  "bV14.0 1V11.0 fV9.0 1V8.0 1bV6.1 1V7.0 1V5.2 3V1.1 1V4.0 35V1.1 2V6.0 12V1.1 1V5.2 1V6.0 " ++
  "5V1.1 1V5.2 2V6.0 19V1.1 2V5.1 5V6.0 1V7.0 2V5.2 2V5.0 1V4.1 2V5.0 1V7.0 3V1.1 1N 8V1.1 " ++
  "2N 2V1.1 2N 16V1.1 1N 7V1.1 1N 1V1.1 3N 4V1.1 2N 1V1.1 1V4.0 7V1.1 2N 2V1.1 2N 3V1.1 " ++
  "1V4.1 8N 1V1.1 4N 2V1.1 1N 5V1.1 2N 15V1.1 1V5.2 2V10.0 1V11.0 2N 1V4.0 1V1.1 1V4.0 1N " ++
  "6V1.1 4N 2V1.1 2N 16V1.1 1N 7V1.1 1N 2V1.1 1N 2V1.1 1N 2V1.1 2N 1V1.1 1N 5V1.1 4N 2V1.1 " ++
  "2N 3V1.1 3N 1V5.1 7N 4V1.1 1N 1V1.1 7N fV1.1 1V5.1 1V11.0 aN 3V1.1 1N 7V1.1 1V4.0 1V1.1 " ++
  "1N 3V1.1 1N 16V1.1 1N 7V1.1 1N 2V1.1 1N 5V1.1 2N aV1.1 1N 3V1.1 1N 3V1.1 2N 1V1.1 fN " ++
  "1V1.1 3V4.0 2N aV1.1 1V6.1 1V4.0 7N 1V8.0 6V10.0 1N 3V1.1 1N 8V1.1 2N 2V1.1 2N 16V1.1 1N " ++
  "7V1.1 1N 2V1.1 1N 1V4.0 4V1.1 2N 8V1.1 1V5.1 2N 2V1.1 2N 3V1.1 7N 1V13.0 2V1.1 4N 2V1.1 " ++
  "1N 3V1.1 2V5.1 2N bV1.1 1V4.0 6V6.0 aN 2V1.1 1N 6V1.1 3N 3V1.1 1N 4V1.1 3N 2V1.1 1N " ++
  "1V1.1 1N 2V1.1 3N 2V1.1 3N 3V1.1 3N 8V1.1 1V4.1 3V1.1 4N 5V1.1 3N 3V1.1 1N 4V1.1 2N " ++
  "1V5.1 6N 1V1.1 eN 1V4.1 cV1.1 8V4.0 5N 1V7.0 3V1.1 1V11.0 8V1.1 1N 3V1.1 1N 17V1.1 1N " ++
  "aV1.1 1V7.0 5V1.1 2N 1V14.0 1V5.1 7V1.1 1N 3V1.1 1N 4V1.1 7N 2V1.1 1N 2V5.1 1V8.0 2N " ++
  "1V14.0 2N 2V1.1 2V5.1 2N aV1.1 7N 1V12.0 8V5.1 1V9.0 1V7.0 2V1.1 1V11.0 8V1.1 1N 3V1.1 " ++
  "1N 17V1.1 1N aV1.1 1N 5V1.1 2N 2V4.0 7V1.1 1N 3V1.1 1N 4V1.1 7N 2V1.1 6N 1V14.0 1V1.1 1N " ++
  "2V1.1 2V5.0 2N aV1.1 1N 2V5.0 1V15.0 cN 1V10.0 1V7.0 2V1.1 1V13.0 8V1.1 1N 3V1.1 1N " ++
  "17V1.1 1V6.0 10V1.1 1V6.0 2V10.0 1V5.1 6V1.1 1V5.1 1N 3V1.1 1N 4V1.1 1V6.0 1V9.0 4N " ++
  "3V9.0 1V1.1 7V9.0 1V8.0 2V1.1 2V5.1 2N aV1.1 6V5.1 3V9.0 7V5.1 1N 1V13.0 2V3.0 1N 12V3.0 " ++
  "3N 18V3.0 1N 9V3.0 1N 1V3.0 2N 7V3.0 3N 1V3.0 4N 6V3.0 1N 1V3.0 1N 8V3.0 6N aV7.0 2N " ++
  "3V3.0 cN 3aV1.1 4N 1dV1.1 25N 2V1.1 1N 1V1.1 1N 1V12.0 2V1.1 1V12.0 1V1.1 1N 1V12.0 " ++
  "1V1.1 6V12.0 4V1.1 1V12.0 7V1.1 1V12.0 3V1.1 1N 1V1.1 1N 1V1.1 2V12.0 2V1.1 1V12.0 dV1.1 " ++
  "1V12.0 3V1.1 2N 5V1.1 1N 1V1.1 1N 6V1.1 1V15.0 1N aV1.1 2N 2V1.1 2V6.1 20N 48V2.0 1N " ++
  "21V2.0 1V3.0 2V5.1 4N 1bV2.0 4V6.0 6V2.0 1V3.0 1V2.0 1N 15V2.0 3V3.0 7V2.0 1V3.0 1V2.0 " ++
  "3V3.0 1N fV3.0 1N 1V5.1 1V3.0 2V4.1 3V5.1 4V5.2 2V6.0 25N 22V3.0 1V5.1 5V3.0 1V5.1 2V3.0 " ++
  "1V5.1 7V3.0 3V5.1 4V3.0 6V5.1 1aV3.0 40V5.1 4V5.2 2V5.1 26V1.1 1N 1V6.1 5N 1V6.1 2N " ++
  "27V1.1 2V3.2 2V4.1 1V1.1 1V4.1 3V6.1 5aV1.1 5V5.2 44V1.1 5V5.2 52V1.1 6V5.2 7V3.0 1V4.1 " ++
  "3fV3.0 1V4.1 1V3.0 1N 4V3.0 2N 7V3.0 1N 1V3.0 1N 4V3.0 2N 27V3.0 1V4.1 1V3.0 1N 4V3.0 2N " ++
  "1fV3.0 1V4.1 1V3.0 1N 4V3.0 2N 7V3.0 1N 1V3.0 1N 4V3.0 2N 7V3.0 1V4.1 7V3.0 1N 17V3.0 " ++
  "1V4.1 1fV3.0 1V4.1 1V3.0 1N 4V3.0 2N 7V3.0 1V4.1 27V3.0 1V4.1 13V3.0 2N 2V6.0 2V4.1 " ++
  "1cV3.0 3N 1aV4.1 6N 55V3.0 1V8.0 2N 6V8.0 2N 1V5.2 276V3.0 9V5.2 1dV3.0 3N 51V3.0 8V7.0 " ++
  "7N dV3.2 1V14.0 7V3.2 1V14.0 9N 1V14.0 17V3.2 9N 14V3.2 cN dV3.2 1N 3V3.2 1N 2V3.2 cN " ++
  "5dV3.0 1V4.0 2N aV3.0 6N aV4.0 6N fV3.0 1V14.0 aV3.0 6N 58V3.0 1V11.0 7N 2aV3.0 1V5.1 5N " ++
  "46V5.2 aN 1dV4.0 2V7.0 1N cV4.0 4N cV4.0 4N 1V4.0 3N 2aV4.0 2N 5V4.0 bN 2aV4.1 2V5.2 4N " ++
  "1aV4.1 6N aV4.1 1V5.2 3N 2V4.1 20V4.0 1cV4.1 2N 2V4.1 3fV5.2 1N 1dV5.2 2N bV5.2 6N aV5.2 " ++
  "6N eV5.2 2N fV7.0 2V13.0 eV14.0 31N 4cV5.0 1V14.0 1N 2V16.0 2dV5.0 2V14.0 1V16.0 2bV5.1 " ++
  "3V6.1 cV5.1 6V6.1 34V6.0 8N 4V6.0 38V5.1 3N fV5.1 3N 33V5.1 9V9.0 2V16.0 5N 2bV11.0 2N " ++
  "3V11.0 8V6.1 8N 23V5.2 4V6.1 1V10.0 2V7.0 1V12.0 5N 6cV4.0 58V4.1 7V5.0 1cV5.1 fV7.0 " ++
  "4V10.0 1V14.0 1V9.0 1V6.0 1V5.2 2V5.0 9bV1.1 1V2.0 4V5.1 5aV1.1 6V5.1 16V1.1 2N 6V1.1 2N " ++
  "26V1.1 2N 6V1.1 2N 8V1.1 1N 1V1.1 1N 1V1.1 1N 1V1.1 1N 1fV1.1 2N 35V1.1 1N fV1.1 1N " ++
  "eV1.1 2N 6V1.1 1N 13V1.1 2N 3V1.1 1N 9V1.1 1N 2fV1.1 1V3.0 17V1.1 1V3.2 6V3.0 5V3.2 " ++
  "2V4.0 2V4.1 1V3.2 7V4.1 5V3.2 1V5.1 1N 4V6.3 7V1.1 1V3.2 2N 1bV1.1 1N 5V4.1 8V6.0 3N " ++
  "bV1.1 1V2.0 1V2.1 3V3.0 2V3.2 4V4.1 3V5.2 1V6.0 1V6.2 3V7.0 1V8.0 1V10.0 1V14.0 fN " ++
  "12V1.1 2V3.0 7V3.2 1V4.1 4V5.0 1V5.1 fN 39V1.1 2V3.0 1V4.0 1V4.1 fV3.2 1V4.1 2V5.0 1V5.1 " ++
  "3V5.2 30V1.1 1V3.0 1V5.0 4V5.1 1V5.2 2V8.0 4N 5bV1.1 9V3.0 cV3.2 f2V1.1 eV3.2 1V1.1 " ++
  "1V3.0 79V1.1 1V3.0 1V3.2 1eV3.0 34V3.2 2V4.0 bV4.1 cV5.0 1V5.2 bV6.0 7V7.0 4V9.0 1V10.0 " ++
  "25V1.1 2V3.0 3V16.0 16N bV1.1 15N 8bV1.1 14V3.2 1V4.0 96V1.1 aV3.2 50V1.1 8V3.0 8V3.2 " ++
  "14V1.1 2V4.0 2V3.2 1V4.1 1V3.0 56V1.1 2V3.0 cV3.2 2V4.1 aV3.2 8V4.0 bV4.1 1V5.1 2V5.2 " ++
  "2V4.0 10V4.1 1V5.0 aV5.1 3V5.2 4V5.1 aV5.2 1V6.0 13V5.2 1V6.0 1V5.2 4V6.0 18V5.2 1V7.0 " ++
  "4V1.1 1V6.0 4V1.1 2V6.0 1cV1.1 1V6.0 23V1.1 1V6.0 1V1.1 1V6.0 4V1.1 3V6.0 1V1.1 1V5.2 " ++
  "7V1.1 2V6.0 7V1.1 eV3.2 1fV1.1 3V6.0 18V1.1 1V6.0 eV1.1 1V6.0 7V4.1 4V5.0 1V6.1 1V5.1 " ++
  "1V6.1 2V6.0 1cV3.2 4V5.1 10V3.2 100V3.0 200V3.2 eV4.0 6V4.1 7V5.0 5V5.1 4V5.0 29V5.1 " ++
  "3V7.0 5V5.1 5V5.2 1aV7.0 2N 20V7.0 1N 1V13.0 22V7.0 3V11.0 cV7.0 1V12.0 8V7.0 1V10.0 " ++
  "19V11.0 4V8.0 fV11.0 1V12.0 2fV4.1 1V14.0 2fV4.1 1V14.0 dV5.0 3V5.1 1V5.2 3V5.1 4V5.0 " ++
  "6V5.1 2V5.2 6bV4.1 7V5.2 2V6.1 5N 2dV4.1 1N 1V6.1 5N 1V6.1 2N 36V4.1 2V6.1 7N 1V4.1 " ++
  "1V6.0 eN 1V6.0 17V4.1 9N 7V4.1 1N 7V4.1 1N 7V4.1 1N 7V4.1 1N 7V4.1 1N 7V4.1 1N 7V4.1 1N " ++
  "7V4.1 1N 20V5.1 18V4.1 4V5.1 2V4.1 13V5.1 1V5.2 aV6.1 7V7.0 2V9.0 5V10.0 5V11.0 1V12.0 " ++
  "3V13.0 bV14.0 22N 1aV3.0 1N 59V3.0 cN d6V3.0 1aN cV3.0 4V15.1 38V1.1 3V3.0 3V3.2 1V3.0 " ++
  "1V1.1 1N 54V1.1 2V3.2 2N 6V1.1 2V3.2 5eV1.1 1V3.2 5N 28V1.1 1V5.1 1V10.0 1V11.0 1N " ++
  "5eV1.1 1N 10V1.1 18V3.0 3V6.0 5V13.0 10V4.1 14V5.1 2V16.0 9N 1V15.1 10V3.2 1dV1.1 2V4.0 " ++
  "1N 24V1.1 cV5.2 1V4.0 fV3.2 1cV1.1 2V4.0 1V4.1 32V1.1 fV3.2 cV1.1 4V4.0 2fV1.1 1V12.1 " ++
  "77V1.1 4V4.0 63V1.1 2V4.0 1fV1.1 1V4.0 19b6V3.0 aV13.0 40V4.0 51a6V1.1 16V4.1 8V5.1 " ++
  "8V5.2 1V6.1 9V8.0 15V10.0 5V11.0 dV13.0 3V14.0 48dV3.0 3N 12V3.0 2V3.2 10V3.0 1V3.2 " ++
  "cV3.0 1V3.2 3V3.0 1V3.2 1V3.0 9N 30V5.2 12cV5.1 14N 20V5.1 2V6.0 12V5.1 8V6.1 1cV5.1 " ++
  "6V7.0 1V8.0 1V6.1 58V5.2 8N 17V4.1 4V5.0 5V5.1 2V5.0 6bV5.1 2V6.0 1V8.0 2V6.0 2V6.1 " ++
  "cV7.0 aV6.0 1V6.1 3V7.0 1V9.0 1V11.0 2V7.0 6V8.0 2V11.0 6V12.0 2V14.0 5V12.0 4V13.0 " ++
  "3V16.0 2N 2V14.0 1N 1V14.0 1N 5V14.0 3V16.0 15N 3V14.0 2V13.0 1V7.0 2V6.1 1V6.0 5V5.1 " ++
  "2cV4.1 1V13.0 3N aV5.2 6N 38V5.0 8N 45V5.1 1V9.0 8N cV5.1 6N 1cV5.2 2V8.0 2V11.0 54V5.1 " ++
  "bN 1V5.1 1dV5.2 3N 4eV5.2 1N bV5.2 4N 2V5.2 1fV7.0 1N 37V5.1 9N eV5.1 2N aV5.1 2N 4V5.1 " ++
  "1cV5.2 4V7.0 43V5.2 18N 5V5.2 17V6.1 aN 6V6.0 2N 6V6.0 2N 6V6.0 9N 7V6.0 1N 7V6.0 1N " ++
  "30V7.0 4V8.0 2V7.0 2V12.0 4V13.0 4N 50V8.0 2eV5.2 2N aV5.2 6N 2ba4V2.0 cN 17V5.2 4N " ++
  "31V5.2 4N 800V2.0 1a2eV1.1 2V6.1 3bV3.2 3V5.2 2N 6aV4.1 26N 7V1.1 cN 5V1.1 5N 1V3.0 " ++
  "19V1.1 1N 5V1.1 1N 1V1.1 1N 2V1.1 1N 2V1.1 1N 6cV1.1 10V6.0 1V14.0 10N 16dV1.1 10V14.0 " ++
  "40V1.1 2N 36V1.1 7N 1V14.0 20V3.1 cV1.1 1V3.2 1V4.0 2V14.0 10V3.2 aV4.1 6N 4V1.1 3V5.1 " ++
  "7V7.0 2V8.0 15V1.1 2V3.2 2V4.0 aV1.1 1N 13V1.1 1N 4V1.1 4N 3V1.1 1V3.2 1V1.1 1N 87V1.1 " ++
  "2N 1V1.1 1N 5eV1.1 2V3.2 5eV1.1 3N 6V1.1 2N 6V1.1 2N 6V1.1 2N 3V1.1 3N 7V1.1 1N 7V1.1 aN " ++
  "3V3.0 1V2.1 3V1.1 cV4.0 1N 1aV4.0 1N 13V4.0 1N 2V4.0 1N fV4.0 2N eV4.0 22N 7bV4.0 5N " ++
  "3V4.0 4N 2dV4.0 3N 9V4.0 4bV4.1 2V7.0 2V9.0 1N cV5.1 1V13.0 3N 1V7.0 2fN 2eV5.1 82N " ++
  "1dV5.1 3N 31V5.1 fN 1cV7.0 4N 1fV3.1 1V7.0 4V3.1 9N 3V10.0 1bV3.1 5N 2bV7.0 5N 1eV4.0 1N " ++
  "1V4.0 24V4.1 4N eV4.1 2aN 26V3.1 2V4.0 26V3.1 50V4.0 2N aV4.0 6N 24V9.0 4N 24V9.0 4N " ++
  "28V7.0 8N 34V7.0 bN 1V7.0 bV14.0 1N fV14.0 1N 7V14.0 1N 2V14.0 1N bV14.0 1N fV14.0 1N " ++
  "7V14.0 1N 2V14.0 3N 34V16.0 cN 137V7.0 9N 16V7.0 aN 8V7.0 18N 6V14.0 1N 2aV14.0 1N " ++
  "9V14.0 45N 6V4.0 2N 1V4.0 1N 2cV4.0 1N 2V4.0 3N 1V4.0 2N 1V4.0 16V5.2 1N 9V5.2 3fV7.0 8N " ++
  "9V7.0 30N 13V8.0 1N 2V8.0 5N 5V8.0 1aV5.0 2V5.2 3N 1V5.0 1aV5.1 5N 1V5.1 40N 38V6.1 4N " ++
  "2V8.0 2V6.1 10V8.0 2N 2eV8.0 4V4.1 1N 2V4.1 5N 8V4.1 1N 3V4.1 1N 1bV4.1 2V11.0 2N 3V4.1 " ++
  "4N 9V4.1 1V11.0 7N 9V4.1 7N 20V5.2 20V7.0 20N 27V7.0 4N cV7.0 9N 36V5.2 3N 1dV5.2 2N " ++
  "1bV5.2 5N 8V5.2 12V7.0 7N 4V7.0 cN 7V7.0 50N 49V5.2 37N 33V8.0 dN 33V8.0 7N 6V8.0 " ++
  "28V11.0 8N aV11.0 6N 26V16.0 3N 1dV16.0 8N 2V16.0 d0N 1fV5.2 1N 2aV13.0 1N 3V13.0 2N " ++
  "2V13.0 10N 3V16.0 37N 1V16.0 3V15.0 28V11.0 8N 2aV11.0 16N 1aV14.0 26N 1cV13.0 14N " ++
  "17V12.0 9N 4eV6.0 4N 1eV6.0 6V14.0 9N 1V7.0 42V5.2 1V14.0 aN 1V11.0 2N 19V6.1 7N aV6.1 " ++
  "6N 35V6.1 1N eV6.1 3V11.0 1V13.0 8N 27V7.0 9N 49V6.1 4V8.0 1V7.0 2V13.0 aV6.1 1V7.0 " ++
  "5V8.0 1N 14V7.0 bN 12V7.0 1N 2bV7.0 1V9.0 3V15.0 3eN 7V8.0 1N 1V8.0 1N 4V8.0 1N fV8.0 1N " ++
  "bV8.0 6N 3bV7.0 5N aV7.0 6N 1V8.0 3V7.0 1N 8V7.0 2N 2V7.0 2N 16V7.0 1N 7V7.0 1N 2V7.0 1N " ++
  "5V7.0 1N 1V11.0 9V7.0 2N 2V7.0 2N 3V7.0 2N 1V8.0 6N 1V7.0 5N 7V7.0 2N 7V7.0 3N 5V7.0 bN " ++
  "aV16.0 1N 1V16.0 2N 1V16.0 1N 26V16.0 1N aV16.0 1N 1V16.0 2N 1V16.0 1N 4V16.0 1N aV16.0 " ++
  "1N 2V16.0 8N 2V16.0 1dN 5aV9.0 1V13.0 1V9.0 1N 1V9.0 1V11.0 1V12.0 2V13.0 1eN 48V7.0 8N " ++
  "aV7.0 a6N 36V7.0 2N 12V7.0 14V8.0 22N 45V7.0 bN aV7.0 6N dV9.0 13N 38V6.1 1V12.0 1V14.0 " ++
  "6N aV6.1 6N 14V16.0 1cN 1aV8.0 1V11.0 2N fV8.0 4N 10V8.0 7V14.0 b9N 3cV11.0 64N 53V7.0 " ++
  "cN 1V7.0 7V13.0 2N 1V13.0 2N 8V13.0 1N 2V13.0 1N 1eV13.0 1N 2V13.0 2N cV13.0 9N aV13.0 " ++
  "46N 8V12.0 2N 2eV12.0 2N bV12.0 1bN 48V10.0 8N 34V10.0 2V12.0 17V10.0 1V11.0 5V10.0 dN " ++
  "10V14.0 39V7.0 7N aV15.0 b6N 22V16.0 eN aV16.0 6N 9V9.0 1N 2dV9.0 1N eV9.0 aN 1dV9.0 3N " ++
  "20V9.0 2N 16V9.0 1N eV9.0 49N 7V10.0 1N 2V10.0 1N 2cV10.0 3N 1V10.0 1N 2V10.0 1N 9V10.0 " ++
  "8N aV10.0 6N 6V11.0 1N 2V11.0 1N 25V11.0 1N 2V11.0 1N 6V11.0 7N aV11.0 136N 19V11.0 7N " ++
  "11V15.0 1N 29V15.0 3N 1cV15.0 1V16.0 55N 1V13.0 fN 32V12.0 dN 1V12.0 36fV5.0 2aV7.0 " ++
  "1V8.0 66N 63V5.0 cV7.0 1N 4V5.0 1V7.0 bN c4V8.0 a4cN 63V14.0 dN 42fV5.2 1V15.0 9V12.0 " ++
  "1dV15.0 aN f9bV16.0 5N 247V8.0 1ab9N 3aV16.0 6c6N 239V6.0 7N 1fV7.0 1N aV7.0 4N 2V7.0 " ++
  "4fV14.0 1N aV14.0 6N 1eV7.0 2N 6V7.0 aN 46V7.0 aN aV7.0 1N 7V7.0 1N 15V7.0 5N 13V7.0 " ++
  "1b0N 3aV16.0 c6N 5bV11.0 65N 45V6.1 6V12.0 4N 1V12.0 2fV6.1 9V12.0 7N 11V6.1 40N 1V9.0 " ++
  "1V10.0 2V12.0 1V13.0 bN 2V13.0 eN 17edV9.0 5V11.0 6V12.0 8N 2f3V9.0 1e3V13.0 29N 1V16.0 " ++
  "9V13.0 22e7N 4V14.0 1N 7V14.0 1N 2V14.0 1N 2V6.0 11dV10.0 4V14.0 fN 1V15.0 1dN 3V12.0 2N " ++
  "1V15.0 eN 4V12.0 8N 18cV10.0 904N 6bV7.0 5N dV7.0 3N 9V7.0 7N aV7.0 2N 8V7.0 f5cN " ++
  "faV16.0 6N 1b4V16.0 4cN 2eV14.0 2N 17V14.0 9N 74V14.0 3cN f6V3.1 aN 27V3.1 2N 1V5.1 " ++
  "b4V3.1 bV8.0 2V14.0 15N 46V4.1 7aN 14V15.0 cN 14V11.0 cN 57V4.0 9N 12V5.0 7V11.0 87N " ++
  "55V3.1 1N 47V3.1 1N 2V3.1 2N 1V3.1 2N 2V3.1 2N 4V3.1 1N cV3.1 1N 1V3.1 1N 4V3.1 1V4.0 " ++
  "2V3.1 1N 41V3.1 1N 4V3.1 2N 8V3.1 1N 7V3.1 1N 1cV3.1 1N 4V3.1 1N 5V3.1 1N 1V3.1 3N 7V3.1 " ++
  "1N 152V3.1 2V4.1 2N 122V3.1 2V5.0 2N 32V3.1 28cV8.0 fN 5V8.0 1N fV8.0 450N 1fV14.0 6N " ++
  "6V15.0 d5N 7V9.0 1N 11V9.0 2N 7V9.0 1N 2V9.0 1N 5V9.0 5N 3eV15.0 21N 1V15.0 70N 2dV12.0 " ++
  "3N eV12.0 2N aV12.0 4N 2V12.0 140N 1fV14.0 11N 3aV12.0 5N 1V12.0 1d0N 2aV15.0 d6N " ++
  "2bV16.0 4N 1V16.0 1e0N 7V14.0 1N 4V14.0 1N 2V14.0 1N fV14.0 1N c5V7.0 2N 10V7.0 29N " ++
  "4bV9.0 1V12.0 4N aV9.0 4N 2V9.0 311N 44V11.0 4cN 3dV12.0 c2N 4V6.1 1N 1bV6.1 1N 2V6.1 1N " ++
  "1V6.1 2N 1V6.1 1N aV6.1 1N 4V6.1 1N 1V6.1 1N 1V6.1 6N 1V6.1 4N 1V6.1 1N 1V6.1 1N 1V6.1 " ++
  "1N 3V6.1 1N 2V6.1 1N 1V6.1 2N 1V6.1 1N 1V6.1 1N 1V6.1 1N 1V6.1 1N 1V6.1 1N 2V6.1 1N " ++
  "1V6.1 2N 4V6.1 1N 7V6.1 1N 4V6.1 1N 4V6.1 1N 1V6.1 1N aV6.1 1N 11V6.1 5N 3V6.1 1N 5V6.1 " ++
  "1N 11V6.1 34N 2V6.1 10eN 2cV5.1 4N 64V5.1 cN fV6.0 2N eV6.0 1V7.0 1N fV6.0 1N fV6.0 " ++
  "16V7.0 aN bV5.2 2V7.0 3V13.0 1fV5.2 1V11.0 1V6.0 1V5.2 bV6.0 1V5.2 1V6.0 1V5.2 2V6.0 " ++
  "1V5.2 3V6.0 1V5.2 3V6.0 5V5.2 8V6.0 1V5.2 7V6.0 1V5.2 aV6.0 2V6.1 1V12.0 3V13.0 9V6.0 " ++
  "1V5.2 1V6.0 2V5.2 2V6.0 1V5.2 aV6.0 4V5.2 2V6.0 1V5.2 aV6.0 12V9.0 1V13.0 38N 1aV6.0 " ++
  "1V5.2 2V6.0 dN 22V5.2 9V6.0 1V9.0 4N 9V5.2 7N 2V6.0 eN 6V10.0 9aN 21V6.0 cV7.0 3V8.0 " ++
  "6V6.0 1V7.0 46V6.0 1V7.0 2V8.0 14V6.0 cV7.0 25V6.0 1V7.0 5V6.0 4V7.0 5V8.0 cV7.0 11V6.0 " ++
  "7V7.0 8V8.0 3fV6.0 1V7.0 1V6.0 1V7.0 b6V6.0 1V7.0 4V6.0 2V7.0 1V8.0 3eV6.0 2V7.0 4V6.1 " ++
  "7V7.0 5V8.0 18V6.0 12V7.0 1V9.0 29V7.0 1V9.0 56V7.0 5V6.0 1V6.1 10V6.0 1V6.1 3V6.0 1V6.1 " ++
  "1V6.0 1V6.1 1V6.0 1V6.1 1V6.0 1V6.1 3V6.0 1V6.1 6V6.0 2V6.1 4V6.0 1V6.1 1V6.0 2V6.1 " ++
  "4V6.0 1V6.1 cV6.0 2V7.0 2V8.0 bV6.0 30V7.0 46V6.0 aV7.0 1V8.0 2V9.0 2V10.0 1V12.0 2V13.0 " ++
  "4N 1V15.0 3V14.0 dV7.0 3N 4V7.0 3V9.0 2V10.0 1V11.0 1V12.0 2V13.0 3N 74V6.0 3V15.0 4N " ++
  "5V15.0 55V7.0 4V11.0 1V15.0 6N cV12.0 4N 1V14.0 fN cV7.0 4N 38V7.0 8N aV7.0 6N 28V7.0 8N " ++
  "1eV7.0 2N 2V13.0 aV16.0 4N 2V16.0 3eN cV10.0 1V13.0 3V12.0 9V8.0 6V9.0 1V10.0 8V9.0 " ++
  "8V10.0 1V9.0 2V10.0 cV9.0 1V12.0 cV9.0 1V10.0 3V11.0 fV9.0 dV10.0 5V11.0 1V12.0 1V13.0 " ++
  "4V11.0 2V13.0 1V14.0 1V11.0 1V12.0 4V11.0 5V8.0 dV9.0 6V10.0 bV11.0 2V13.0 6V12.0 3V13.0 " ++
  "2V12.0 aV11.0 6V12.0 1V8.0 2V11.0 8V12.0 1V13.0 1V14.0 3V12.0 17V10.0 19V11.0 54V12.0 cN " ++
  "eV11.0 2N 4V12.0 1V13.0 3V15.0 3V12.0 2V14.0 3N 3V12.0 4V13.0 2V15.0 1V16.0 5N 1V16.0 " ++
  "6V12.0 13V13.0 4V14.0 3V15.0 7V13.0 4V14.0 3V15.0 1V16.0 1V15.0 3V13.0 3V14.0 1V16.0 7N " ++
  "2V15.0 7V13.0 3V14.0 2V15.0 1V16.0 2N 1V16.0 8V14.0 1V15.0 1V16.0 6N 7V14.0 2V15.0 7N " ++
  "93V13.0 1N 37V13.0 25V16.0 aV13.0 404N 2V2.0 a6d7V3.1 7V13.0 2V14.0 20N 1035V5.2 4V14.0 " ++
  "1V15.0 6N deV6.0 2N 1682V8.0 eN 1d31V10.0 fN 26eV15.1 9a2N 21eV3.1 5e0N 2V2.0 134bV13.0 " ++
  "5N 1060V15.0 dc4eN 2V2.0 fffeN 2V2.0 fffeN 2V2.0 fffeN 2V2.0 fffeN 2V2.0 fffeN 2V2.0 " ++
  "fffeN 2V2.0 fffeN 2V2.0 fffeN 2V2.0 fffeN 2V2.0 fffeN 2V2.0 1N 1V3.1 1eN 60V3.1 80N " ++
  "f0V4.0 fe0eN 20002V2.0"

/-- The runs of equal age. -/
def ageRuns : List (Interval × String) :=
  IntervalSet.labelledRuns 0 (ageTable.splitOn " ")

/-- All versions, from the first to the last. -/
def versionsInOrder : List String :=
  ["1.1", "2.0", "2.1", "3.0", "3.1", "3.2", "4.0", "4.1", "5.0", "5.1", "5.2", "6.0",
   "6.1", "6.2", "6.3", "7.0", "8.0", "9.0", "10.0", "11.0", "12.0", "12.1", "13.0", "14.0",
   "15.0", "15.1", "16.0"]

/-- The two loose names of a version: its number, and its letter with the digits alone. -/
def versionNames (version : String) : List String :=
  [version, "v" ++ String.ofList (version.toList.filter (· ≠ '.'))]

/-- All versions up to the first one that a loose name stands for. -/
def versionsUpTo (looseName : String) : List String → Option (List String)
  | [] => none
  | version :: later =>
      if (versionNames version).contains looseName then some [version]
      else (versionsUpTo looseName later).map (version :: ·)

/-- The code points that the version of the given loose name knows: those assigned in it or in
an earlier one. -/
def assignedBy (looseName : String) : Option IntervalSet :=
  (versionsUpTo looseName versionsInOrder).map fun versions =>
    IntervalSet.ofLabels ageRuns (versions.map ("V" ++ ·))

end ReleaseRules.Unicode
