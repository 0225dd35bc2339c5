import Chaining.Unicode.GeneralCategory

set_option autoImplicit false

namespace Chaining.Unicode

/-- The code points of properties that are not derived, and the exceptions of those that are, as of
Unicode 16.0. -/
def propertyTables : List (String × List String) :=
  [("ahex",
    ["48 9 7 5 26 5"]),
   ("bidic",
    ["1564 0 6641 1 26 4 55 3"]),
   ("bidim",
    ["40 1 18 0 1 0 28 0 1 0 29 0 1 0 45 0 15 0 3710 3 1885 1 2460 1 10 1 54 1 14 1 177 0 192 3",
     "3 5 3 0 3 1 3 3 1 3 1 0 1 0 4 8 5 0 1 17 5 3 9 1 1 0 1 7 1 31 2 3 5 0 9 1 2 18 5 1 9 4 2 1",
     "4 23 2 15 8 3 20 1 7 1 1085 13 74 0 2 3 1 1 1 2 5 3 5 2 3 13 403 21 2 5 1 13 8 0 7 5 3 0 4 4",
     "1 1 2 4 4 0 1 2 2 1 10 5 2 1 12 18 1 3 2 0 1 0 2 0 1 3 5 1 6 2 24 1 11 1 4 3 1 1 2 1 4 42",
     "2 7 1 39 5 0 1 0 3 4 5 2 4 0 3 4 1 0 256 0 515 3 3 1 1 1 14 1 2 9 43 7 427 9 2 7 52797 5 5 1",
     "162 1 18 0 1 0 28 0 1 0 29 0 1 0 1 1 1 1 55159 0 57 0 57 0 57 0 57 0"]),
   ("cwcf",
    ["65 25 90 0 10 22 1 7 32 0 1 0 1 0 1 0 1 0 1 0 1 0 1 0 1 0 1 0 1 0 1 0 1 0 1 0 1 0 1 0 1 0",
     "1 0 1 0 1 0 1 0 1 0 1 0 1 0 1 0 1 0 1 0 1 0 2 0 1 0 1 0 1 0 1 0 1 0 1 0 1 0 1 1 1 0 1 0 1 0",
     "1 0 1 0 1 0 1 0 1 0 1 0 1 0 1 0 1 0 1 0 1 0 1 0 1 0 1 0 1 0 1 0 1 0 1 0 1 0 1 1 1 0 1 0 1 0",
     "1 1 1 0 1 1 1 2 2 3 1 1 1 2 3 1 1 1 1 0 1 0 1 1 1 0 2 0 1 1 1 2 1 0 1 1 3 0 7 1 1 1 1 1 1 0",
     "1 0 1 0 1 0 1 0 1 0 1 0 1 0 2 0 1 0 1 0 1 0 1 0 1 0 1 0 1 0 1 0 2 1 1 0 1 2 1 0 1 0 1 0 1 0",
     "1 0 1 0 1 0 1 0 1 0 1 0 1 0 1 0 1 0 1 0 1 0 1 0 1 0 1 0 1 0 1 0 1 0 1 0 1 0 1 0 1 0 1 0 1 0",
     "1 0 1 0 7 1 1 1 2 0 1 3 1 0 1 0 1 0 1 0 246 0 42 0 1 0 3 0 8 0 6 0 1 2 1 0 1 1 1 16 1 8 22 0",
     "12 2 3 1 1 0 1 0 1 0 1 0 1 0 1 0 1 0 1 0 1 0 1 0 1 0 1 0 1 1 2 1 1 0 1 1 2 50 48 0 1 0 1 0",
     "1 0 1 0 1 0 1 0 1 0 1 0 1 0 1 0 1 0 1 0 1 0 1 0 1 0 1 0 9 0 1 0 1 0 1 0 1 0 1 0 1 0 1 0 1 0",
     "1 0 1 0 1 0 1 0 1 0 1 0 1 0 1 0 1 0 1 0 1 0 1 0 1 0 1 0 1 0 1 0 1 0 1 0 1 1 1 0 1 0 1 0 1 0",
     "1 0 1 0 2 0 1 0 1 0 1 0 1 0 1 0 1 0 1 0 1 0 1 0 1 0 1 0 1 0 1 0 1 0 1 0 1 0 1 0 1 0 1 0 1 0",
     "1 0 1 0 1 0 1 0 1 0 1 0 1 0 1 0 1 0 1 0 1 0 1 0 1 0 1 0 1 0 1 0 1 0 1 0 1 0 1 0 1 0 1 0 1 0",
     "1 0 1 0 1 0 1 0 2 37 48 0 2840 37 1 0 5 0 810 5 2178 9 6 42 2 2 320 0 1 0 1 0 1 0 1 0 1 0",
     "1 0 1 0 1 0 1 0 1 0 1 0 1 0 1 0 1 0 1 0 1 0 1 0 1 0 1 0 1 0 1 0 1 0 1 0 1 0 1 0 1 0 1 0 1 0",
     "1 0 1 0 1 0 1 0 1 0 1 0 1 0 1 0 1 0 1 0 1 0 1 0 1 0 1 0 1 0 1 0 1 0 1 0 1 0 1 0 1 0 1 0 1 0",
     "1 0 1 0 1 0 1 0 1 0 1 0 1 0 1 0 1 0 1 0 1 0 1 0 1 0 1 0 1 0 1 0 1 0 1 0 1 0 1 0 1 0 1 0 1 0",
     "5 1 2 0 1 0 1 0 1 0 1 0 1 0 1 0 1 0 1 0 1 0 1 0 1 0 1 0 1 0 1 0 1 0 1 0 1 0 1 0 1 0 1 0 1 0",
     "1 0 1 0 1 0 1 0 1 0 1 0 1 0 1 0 1 0 1 0 1 0 1 0 1 0 1 0 1 0 1 0 1 0 1 0 1 0 1 0 1 0 1 0 1 0",
     "1 0 1 0 1 0 1 0 9 7 8 5 10 7 8 7 8 5 11 0 1 0 1 0 1 0 8 7 16 47 2 2 2 5 5 2 2 5 11 3 12 4",
     "5 2 2 5 297 0 3 1 6 0 45 15 19 0 818 25 1840 47 48 0 1 2 2 0 1 0 1 0 1 3 1 0 2 0 8 2 1 0 1 0",
     "1 0 1 0 1 0 1 0 1 0 1 0 1 0 1 0 1 0 1 0 1 0 1 0 1 0 1 0 1 0 1 0 1 0 1 0 1 0 1 0 1 0 1 0 1 0",
     "1 0 1 0 1 0 1 0 1 0 1 0 1 0 1 0 1 0 1 0 1 0 1 0 1 0 1 0 1 0 1 0 1 0 1 0 1 0 1 0 1 0 1 0 1 0",
     "1 0 8 0 1 0 4 0 31053 0 1 0 1 0 1 0 1 0 1 0 1 0 1 0 1 0 1 0 1 0 1 0 1 0 1 0 1 0 1 0 1 0 1 0",
     "1 0 1 0 1 0 1 0 1 0 19 0 1 0 1 0 1 0 1 0 1 0 1 0 1 0 1 0 1 0 1 0 1 0 1 0 1 0 135 0 1 0 1 0",
     "1 0 1 0 1 0 1 0 3 0 1 0 1 0 1 0 1 0 1 0 1 0 1 0 1 0 1 0 1 0 1 0 1 0 1 0 1 0 1 0 1 0 1 0 1 0",
     "1 0 1 0 1 0 1 0 1 0 1 0 1 0 1 0 1 0 1 0 1 0 1 0 10 0 1 0 1 1 1 0 1 0 1 0 1 0 4 0 1 0 2 0 1 0",
     "3 0 1 0 1 0 1 0 1 0 1 0 1 0 1 0 1 0 1 0 1 4 1 4 1 0 1 0 1 0 1 0 1 0 1 0 1 0 1 3 1 0 1 1 3 0",
     "5 0 1 0 1 0 1 0 24 0 890 79 20288 6 12 4 1033 25 1221 39 136 35 156 10 1 14 1 6 1 1 1770 50",
     "157 21 2874 31 21888 31 31392 33"]),
   ("cwl",
    ["65 25 101 22 1 6 33 0 1 0 1 0 1 0 1 0 1 0 1 0 1 0 1 0 1 0 1 0 1 0 1 0 1 0 1 0 1 0 1 0 1 0",
     "1 0 1 0 1 0 1 0 1 0 1 0 1 0 1 0 1 0 1 0 2 0 1 0 1 0 1 0 1 0 1 0 1 0 1 0 2 0 1 0 1 0 1 0 1 0",
     "1 0 1 0 1 0 1 0 1 0 1 0 1 0 1 0 1 0 1 0 1 0 1 0 1 0 1 0 1 0 1 0 1 0 1 0 1 1 1 0 1 0 3 1 1 0",
     "1 1 1 2 2 3 1 1 1 2 3 1 1 1 1 0 1 0 1 1 1 0 2 0 1 1 1 2 1 0 1 1 3 0 7 1 1 1 1 1 1 0 1 0 1 0",
     "1 0 1 0 1 0 1 0 1 0 2 0 1 0 1 0 1 0 1 0 1 0 1 0 1 0 1 0 2 1 1 0 1 2 1 0 1 0 1 0 1 0 1 0 1 0",
     "1 0 1 0 1 0 1 0 1 0 1 0 1 0 1 0 1 0 1 0 1 0 1 0 1 0 1 0 1 0 1 0 1 0 1 0 1 0 1 0 1 0 1 0 1 0",
     "7 1 1 1 2 0 1 3 1 0 1 0 1 0 1 0 289 0 1 0 3 0 8 0 6 0 1 2 1 0 1 1 1 16 1 8 35 0 8 0 1 0 1 0",
     "1 0 1 0 1 0 1 0 1 0 1 0 1 0 1 0 1 0 5 0 2 0 1 1 2 50 48 0 1 0 1 0 1 0 1 0 1 0 1 0 1 0 1 0",
     "1 0 1 0 1 0 1 0 1 0 1 0 1 0 1 0 9 0 1 0 1 0 1 0 1 0 1 0 1 0 1 0 1 0 1 0 1 0 1 0 1 0 1 0 1 0",
     "1 0 1 0 1 0 1 0 1 0 1 0 1 0 1 0 1 0 1 0 1 0 1 0 1 1 1 0 1 0 1 0 1 0 1 0 1 0 2 0 1 0 1 0 1 0",
     "1 0 1 0 1 0 1 0 1 0 1 0 1 0 1 0 1 0 1 0 1 0 1 0 1 0 1 0 1 0 1 0 1 0 1 0 1 0 1 0 1 0 1 0 1 0",
     "1 0 1 0 1 0 1 0 1 0 1 0 1 0 1 0 1 0 1 0 1 0 1 0 1 0 1 0 1 0 1 0 1 0 1 0 1 0 1 0 1 0 2 37",
     "2889 37 1 0 5 0 722 85 2195 0 6 42 2 2 320 0 1 0 1 0 1 0 1 0 1 0 1 0 1 0 1 0 1 0 1 0 1 0 1 0",
     "1 0 1 0 1 0 1 0 1 0 1 0 1 0 1 0 1 0 1 0 1 0 1 0 1 0 1 0 1 0 1 0 1 0 1 0 1 0 1 0 1 0 1 0 1 0",
     "1 0 1 0 1 0 1 0 1 0 1 0 1 0 1 0 1 0 1 0 1 0 1 0 1 0 1 0 1 0 1 0 1 0 1 0 1 0 1 0 1 0 1 0 1 0",
     "1 0 1 0 1 0 1 0 1 0 1 0 1 0 1 0 1 0 1 0 1 0 1 0 1 0 1 0 1 0 1 0 9 0 1 0 1 0 1 0 1 0 1 0 1 0",
     "1 0 1 0 1 0 1 0 1 0 1 0 1 0 1 0 1 0 1 0 1 0 1 0 1 0 1 0 1 0 1 0 1 0 1 0 1 0 1 0 1 0 1 0 1 0",
     "1 0 1 0 1 0 1 0 1 0 1 0 1 0 1 0 1 0 1 0 1 0 1 0 1 0 1 0 1 0 1 0 1 0 1 0 1 0 9 7 8 5 10 7 8 7",
     "8 5 11 0 1 0 1 0 1 0 8 7 24 7 8 7 8 7 8 4 11 4 11 3 12 4 11 4 297 0 3 1 6 0 45 15 19 0",
     "818 25 1840 47 48 0 1 2 2 0 1 0 1 0 1 3 1 0 2 0 8 2 1 0 1 0 1 0 1 0 1 0 1 0 1 0 1 0 1 0 1 0",
     "1 0 1 0 1 0 1 0 1 0 1 0 1 0 1 0 1 0 1 0 1 0 1 0 1 0 1 0 1 0 1 0 1 0 1 0 1 0 1 0 1 0 1 0 1 0",
     "1 0 1 0 1 0 1 0 1 0 1 0 1 0 1 0 1 0 1 0 1 0 1 0 1 0 1 0 1 0 1 0 8 0 1 0 4 0 31053 0 1 0 1 0",
     "1 0 1 0 1 0 1 0 1 0 1 0 1 0 1 0 1 0 1 0 1 0 1 0 1 0 1 0 1 0 1 0 1 0 1 0 1 0 1 0 19 0 1 0 1 0",
     "1 0 1 0 1 0 1 0 1 0 1 0 1 0 1 0 1 0 1 0 1 0 135 0 1 0 1 0 1 0 1 0 1 0 1 0 3 0 1 0 1 0 1 0",
     "1 0 1 0 1 0 1 0 1 0 1 0 1 0 1 0 1 0 1 0 1 0 1 0 1 0 1 0 1 0 1 0 1 0 1 0 1 0 1 0 1 0 1 0 1 0",
     "1 0 1 0 1 0 1 0 10 0 1 0 1 1 1 0 1 0 1 0 1 0 4 0 1 0 2 0 1 0 3 0 1 0 1 0 1 0 1 0 1 0 1 0 1 0",
     "1 0 1 0 1 4 1 4 1 0 1 0 1 0 1 0 1 0 1 0 1 0 1 3 1 0 1 1 3 0 5 0 1 0 1 0 1 0 24 0 22315 25",
     "1221 39 136 35 156 10 1 14 1 6 1 1 1770 50 157 21 2874 31 21888 31 31392 33"]),
   ("cwt",
    ["97 25 58 0 41 23 1 7 1 0 1 0 1 0 1 0 1 0 1 0 1 0 1 0 1 0 1 0 1 0 1 0 1 0 1 0 1 0 1 0 1 0",
     "1 0 1 0 1 0 1 0 1 0 1 0 1 0 1 0 1 0 1 0 1 0 2 0 1 0 1 0 1 0 1 0 1 0 1 0 1 1 1 0 1 0 1 0 1",
     "0 1 0 1 0 1 0 1 0 1 0 1 0 1 0 1 0 1 0 1 0 1 0 1 0 1 0 1 0 1 0 1 0 1 0 1 0 1 0 2 0 1 0 1 2",
     "2 0 1 0 2 0 3 0 5 0 2 0 3 2 2 0 2 0 1 0 1 0 2 0 4 0 2 0 3 0 1 0 2 0 3 0 1 0 4 0 1 1 1 1 1",
     "0 1 0 1 0 1 0 1 0 1 0 1 0 1 0 1 1 1 0 1 0 1 0 1 0 1 0 1 0 1 0 1 0 1 2 1 0 1 0 3 0 1 0 1 0",
     "1 0 1 0 1 0 1 0 1 0 1 0 1 0 1 0 1 0 1 0 1 0 1 0 1 0 1 0 1 0 1 0 1 0 3 0 1 0 1 0 1 0 1 0 1",
     "0 1 0 1 0 1 0 8 0 2 1 1 0 4 0 1 0 1 0 1 0 1 5 1 1 1 0 1 1 3 1 1 3 1 4 2 0 1 1 2 0 7 0 2 0",
     "1 1 3 5 5 0 10 1 166 0 43 0 1 0 3 0 3 2 18 0 27 34 1 1 3 2 1 0 1 0 1 0 1 0 1 0 1 0 1 0 1",
     "0 1 0 1 0 1 0 1 4 1 0 2 0 2 0 52 47 1 0 1 0 1 0 1 0 1 0 1 0 1 0 1 0 1 0 1 0 1 0 1 0 1 0 1",
     "0 1 0 1 0 1 0 9 0 1 0 1 0 1 0 1 0 1 0 1 0 1 0 1 0 1 0 1 0 1 0 1 0 1 0 1 0 1 0 1 0 1 0 1 0",
     "1 0 1 0 1 0 1 0 1 0 1 0 1 0 1 0 2 0 1 0 1 0 1 0 1 0 1 0 1 1 1 0 1 0 1 0 1 0 1 0 1 0 1 0 1",
     "0 1 0 1 0 1 0 1 0 1 0 1 0 1 0 1 0 1 0 1 0 1 0 1 0 1 0 1 0 1 0 1 0 1 0 1 0 1 0 1 0 1 0 1 0",
     "1 0 1 0 1 0 1 0 1 0 1 0 1 0 1 0 1 0 1 0 1 0 1 0 1 0 1 0 1 0 1 0 1 0 1 0 49 38 3696 5 2178",
     "8 1 0 238 0 3 0 16 0 114 0 1 0 1 0 1 0 1 0 1 0 1 0 1 0 1 0 1 0 1 0 1 0 1 0 1 0 1 0 1 0 1",
     "0 1 0 1 0 1 0 1 0 1 0 1 0 1 0 1 0 1 0 1 0 1 0 1 0 1 0 1 0 1 0 1 0 1 0 1 0 1 0 1 0 1 0 1 0",
     "1 0 1 0 1 0 1 0 1 0 1 0 1 0 1 0 1 0 1 0 1 0 1 0 1 0 1 0 1 0 1 0 1 0 1 0 1 0 1 0 1 0 1 0 1",
     "0 1 0 1 0 1 0 1 0 1 0 1 0 1 0 1 0 1 0 1 0 1 0 1 0 1 6 5 0 1 0 1 0 1 0 1 0 1 0 1 0 1 0 1 0",
     "1 0 1 0 1 0 1 0 1 0 1 0 1 0 1 0 1 0 1 0 1 0 1 0 1 0 1 0 1 0 1 0 1 0 1 0 1 0 1 0 1 0 1 0 1",
     "0 1 0 1 0 1 0 1 0 1 0 1 0 1 0 1 0 1 0 1 0 1 0 1 0 1 0 1 0 1 0 1 8 8 5 10 7 8 7 8 5 10 7 8",
     "7 8 13 2 7 8 7 8 7 8 4 1 1 6 0 3 2 1 1 8 3 2 1 8 7 10 2 1 1 342 0 33 15 4 0 843 25 1862",
     "47 1 0 3 1 1 0 1 0 1 0 6 0 2 0 10 0 1 0 1 0 1 0 1 0 1 0 1 0 1 0 1 0 1 0 1 0 1 0 1 0 1 0 1",
     "0 1 0 1 0 1 0 1 0 1 0 1 0 1 0 1 0 1 0 1 0 1 0 1 0 1 0 1 0 1 0 1 0 1 0 1 0 1 0 1 0 1 0 1 0",
     "1 0 1 0 1 0 1 0 1 0 1 0 1 0 1 0 1 0 1 0 1 0 1 0 1 0 8 0 1 0 4 0 12 37 1 0 5 0 30995 0 1 0",
     "1 0 1 0 1 0 1 0 1 0 1 0 1 0 1 0 1 0 1 0 1 0 1 0 1 0 1 0 1 0 1 0 1 0 1 0 1 0 1 0 1 0 19 0",
     "1 0 1 0 1 0 1 0 1 0 1 0 1 0 1 0 1 0 1 0 1 0 1 0 1 0 135 0 1 0 1 0 1 0 1 0 1 0 1 0 3 0 1 0",
     "1 0 1 0 1 0 1 0 1 0 1 0 1 0 1 0 1 0 1 0 1 0 1 0 1 0 1 0 1 0 1 0 1 0 1 0 1 0 1 0 1 0 1 0 1",
     "0 1 0 1 0 1 0 1 0 1 0 1 0 10 0 1 0 2 0 1 0 1 0 1 0 1 0 4 0 4 0 1 1 2 0 1 0 1 0 1 0 1 0 1",
     "0 1 0 1 0 1 0 1 0 11 0 1 0 1 0 1 0 1 0 1 0 1 0 1 0 4 0 1 0 2 0 3 0 5 0 1 0 1 0 26 0 860 0",
     "28 79 20288 6 12 4 1065 25 1229 39 136 35 155 10 1 14 1 6 1 1 1795 50 125 21 2874 31",
     "21888 31 31394 33"]),
   ("cwu",
    ["97 25 58 0 41 23 1 7 1 0 1 0 1 0 1 0 1 0 1 0 1 0 1 0 1 0 1 0 1 0 1 0 1 0 1 0 1 0 1 0 1 0",
     "1 0 1 0 1 0 1 0 1 0 1 0 1 0 1 0 1 0 1 0 1 0 2 0 1 0 1 0 1 0 1 0 1 0 1 0 1 1 1 0 1 0 1 0 1",
     "0 1 0 1 0 1 0 1 0 1 0 1 0 1 0 1 0 1 0 1 0 1 0 1 0 1 0 1 0 1 0 1 0 1 0 1 0 1 0 2 0 1 0 1 2",
     "2 0 1 0 2 0 3 0 5 0 2 0 3 2 2 0 2 0 1 0 1 0 2 0 4 0 2 0 3 0 1 0 2 0 3 0 1 0 5 1 1 1 1 1 1",
     "0 1 0 1 0 1 0 1 0 1 0 1 0 1 1 1 0 1 0 1 0 1 0 1 0 1 0 1 0 1 0 1 1 1 1 1 0 3 0 1 0 1 0 1 0",
     "1 0 1 0 1 0 1 0 1 0 1 0 1 0 1 0 1 0 1 0 1 0 1 0 1 0 1 0 1 0 1 0 3 0 1 0 1 0 1 0 1 0 1 0 1",
     "0 1 0 1 0 8 0 2 1 1 0 4 0 1 0 1 0 1 0 1 5 1 1 1 0 1 1 3 1 1 3 1 4 2 0 1 1 2 0 7 0 2 0 1 1",
     "3 5 5 0 10 1 166 0 43 0 1 0 3 0 3 2 18 0 27 34 1 1 3 2 1 0 1 0 1 0 1 0 1 0 1 0 1 0 1 0 1",
     "0 1 0 1 0 1 4 1 0 2 0 2 0 52 47 1 0 1 0 1 0 1 0 1 0 1 0 1 0 1 0 1 0 1 0 1 0 1 0 1 0 1 0 1",
     "0 1 0 1 0 9 0 1 0 1 0 1 0 1 0 1 0 1 0 1 0 1 0 1 0 1 0 1 0 1 0 1 0 1 0 1 0 1 0 1 0 1 0 1 0",
     "1 0 1 0 1 0 1 0 1 0 1 0 1 0 2 0 1 0 1 0 1 0 1 0 1 0 1 1 1 0 1 0 1 0 1 0 1 0 1 0 1 0 1 0 1",
     "0 1 0 1 0 1 0 1 0 1 0 1 0 1 0 1 0 1 0 1 0 1 0 1 0 1 0 1 0 1 0 1 0 1 0 1 0 1 0 1 0 1 0 1 0",
     "1 0 1 0 1 0 1 0 1 0 1 0 1 0 1 0 1 0 1 0 1 0 1 0 1 0 1 0 1 0 1 0 1 0 49 38 2888 42 2 2 760",
     "5 2178 8 1 0 238 0 3 0 16 0 114 0 1 0 1 0 1 0 1 0 1 0 1 0 1 0 1 0 1 0 1 0 1 0 1 0 1 0 1 0",
     "1 0 1 0 1 0 1 0 1 0 1 0 1 0 1 0 1 0 1 0 1 0 1 0 1 0 1 0 1 0 1 0 1 0 1 0 1 0 1 0 1 0 1 0 1",
     "0 1 0 1 0 1 0 1 0 1 0 1 0 1 0 1 0 1 0 1 0 1 0 1 0 1 0 1 0 1 0 1 0 1 0 1 0 1 0 1 0 1 0 1 0",
     "1 0 1 0 1 0 1 0 1 0 1 0 1 0 1 0 1 0 1 0 1 0 1 0 1 0 1 0 1 6 5 0 1 0 1 0 1 0 1 0 1 0 1 0 1",
     "0 1 0 1 0 1 0 1 0 1 0 1 0 1 0 1 0 1 0 1 0 1 0 1 0 1 0 1 0 1 0 1 0 1 0 1 0 1 0 1 0 1 0 1 0",
     "1 0 1 0 1 0 1 0 1 0 1 0 1 0 1 0 1 0 1 0 1 0 1 0 1 0 1 0 1 0 1 0 1 0 1 8 8 5 10 7 8 7 8 5",
     "10 7 8 7 8 13 2 52 1 1 4 0 1 0 3 2 1 1 4 0 3 3 2 1 8 7 10 2 1 1 4 0 337 0 33 15 4 0 843",
     "25 1862 47 1 0 3 1 1 0 1 0 1 0 6 0 2 0 10 0 1 0 1 0 1 0 1 0 1 0 1 0 1 0 1 0 1 0 1 0 1 0 1",
     "0 1 0 1 0 1 0 1 0 1 0 1 0 1 0 1 0 1 0 1 0 1 0 1 0 1 0 1 0 1 0 1 0 1 0 1 0 1 0 1 0 1 0 1 0",
     "1 0 1 0 1 0 1 0 1 0 1 0 1 0 1 0 1 0 1 0 1 0 1 0 1 0 1 0 1 0 8 0 1 0 4 0 12 37 1 0 5 0",
     "30995 0 1 0 1 0 1 0 1 0 1 0 1 0 1 0 1 0 1 0 1 0 1 0 1 0 1 0 1 0 1 0 1 0 1 0 1 0 1 0 1 0 1",
     "0 1 0 19 0 1 0 1 0 1 0 1 0 1 0 1 0 1 0 1 0 1 0 1 0 1 0 1 0 1 0 135 0 1 0 1 0 1 0 1 0 1 0",
     "1 0 3 0 1 0 1 0 1 0 1 0 1 0 1 0 1 0 1 0 1 0 1 0 1 0 1 0 1 0 1 0 1 0 1 0 1 0 1 0 1 0 1 0 1",
     "0 1 0 1 0 1 0 1 0 1 0 1 0 1 0 1 0 1 0 10 0 1 0 2 0 1 0 1 0 1 0 1 0 4 0 4 0 1 1 2 0 1 0 1",
     "0 1 0 1 0 1 0 1 0 1 0 1 0 1 0 11 0 1 0 1 0 1 0 1 0 1 0 1 0 1 0 4 0 1 0 2 0 3 0 5 0 1 0 1",
     "0 26 0 860 0 28 79 20288 6 12 4 1065 25 1229 39 136 35 155 10 1 14 1 6 1 1 1795 50 125 21",
     "2874 31 21888 31 31394 33"]),
   ("dash",
    ["45 0 1372 0 51 0 3649 0 1029 0 2057 5 61 0 39 0 15 0 390 0 3076 0 2 0 31 1 4 0 28 0 446 0",
     "19 0 111 0 52624 1 37 0 10 0 169 0 3680 0 318 0"]),
   ("dep",
    ["329 0 1321 0 2307 0 1 0 2089 1 2245 5 697 1 908502 0"]),
   ("di",
    ["173 0 673 0 716 0 2882 1 1619 1 85 4 2043 4 26 4 49 15 4340 0 52379 15 239 0 160 0 79 8",
     "48295 3 5327 7 798341 4095"]),
   ("dia",
    ["94 0 1 0 71 0 6 0 4 0 2 1 503 158 1 7 5 5 17 1 4 0 9 1 253 4 209 0 55 16 1 26 1 0 1 1 1 0",
     "134 7 4 1 134 1 4 1 3 2 67 26 91 10 58 10 34 1 126 7 41 9 16 27 61 0 16 0 3 3 28 0 74 0",
     "16 0 110 0 16 0 110 0 16 0 47 2 60 0 16 0 7 0 119 0 110 0 16 0 110 0 16 0 109 1 16 0 124",
     "0 111 0 12 5 1 0 107 0 13 4 75 1 27 0 1 0 1 0 4 1 66 2 1 1 62 0 112 0 1 1 40 1 4 4 25 6 1",
     "0 10 1 705 2 948 1 30 0 148 10 9 0 347 2 292 0 20 7 2 0 48 14 2 10 104 0 15 0 38 8 54 1",
     "58 0 11 1 66 1 64 5 82 24 4 0 6 0 2 2 50 62 89 11 37 10 445 0 1 2 11 2 13 2 13 2 13 1",
     "3312 2 317 0 506 5 105 3 95 0 30066 0 12 1 1 0 28 1 82 1 14 33 102 2 109 1 12 0 37 0 151",
     "0 27 17 57 3 36 0 95 0 12 0 36 0 149 2 65 3 51 0 100 4 9 2 128 1 20272 0 769 15 270 0 1 0",
     "47 0 45 1 67 0 764 0 1183 5 1 41 1 8 637 2 4 0 165 1 571 5 38 0 26 4 399 2 70 10 49 3 192",
     "0 41 0 72 1 120 1 62 0 76 0 9 2 104 1 178 1 80 1 16 0 24 6 3 4 89 2 1 1 13 1 95 0 3 0 123",
     "1 251 1 126 0 118 1 115 0 269 1 258 1 4 0 156 0 83 0 18 0 81 0 421 0 258 0 1 1 81 0 425 1",
     "23 0 5356 14 11481 0 2496 4 59 6 564 1 546 16 80 1 16382 3 1 6 1 1 7937 45 2 22 544 2 3 5",
     "8 7 2 6 30 3 3714 61 194 6 375 0 61 3 766 1 736 6 109 2 1 2"]),
   ("ebase",
    ["9757 0 219 0 16 3 117879 0 60 2 2 0 2 2 117 1 2 10 21 18 3 0 4 2 1 2 7 0 1 0 24 0 201 1 4 0",
     "21 0 4 1 174 2 3 4 83 0 16 2 9 0 11 0 575 0 2 0 8 7 6 0 9 9 2 2 56 0 61 1 1 1 1 0 17 2 1 12",
     "229 2 42 8"]),
   ("ecomp",
    ["35 0 6 0 5 9 8147 0 213 0 56619 0 62422 25 507 4 1456 3 788076 95"]),
   ("emod",
    ["127995 4"]),
   ("emoji",
    ["35 0 6 0 5 9 111 0 4 0 8077 0 12 0 216 0 22 0 90 5 15 1 367 1 12 0 166 0 25 10 4 2 199 0",
     "231 1 10 0 9 0 58 3 1 4 9 0 2 0 2 1 2 0 4 0 2 0 1 1 2 0 3 0 3 1 8 2 5 0 1 0 5 11 11 1 2 0",
     "1 1 1 0 18 0 2 1 18 5 1 0 1 1 3 1 5 0 2 1 4 1 11 1 5 1 2 0 5 1 1 0 1 1 20 1 5 5 1 3 2 0 4 0",
     "2 0 2 5 1 0 2 0 1 0 1 0 6 0 3 0 6 0 10 1 15 0 2 0 4 0 1 0 4 2 1 0 11 1 48 2 9 0 14 0 14 0",
     "372 1 463 2 19 1 51 0 4 0 1242 0 12 0 601 0 1 0 114026 0 202 0 160 1 12 1 14 0 2 9 75 25 1 1",
     "23 0 20 0 2 8 21 1 174 33 2 111 2 1 1 2 2 82 2 2 1 262 1 62 11 5 1 23 7 1 2 7 12 0 2 3 2 0",
     "4 1 13 1 2 0 8 1 9 0 5 2 12 2 8 2 2 0 1 0 4 0 6 0 3 0 6 85 48 69 5 7 2 2 4 9 3 0 1 1 3 0 2 9",
     "227 11 4 0 283 46 1 9 1 184 112 12 3 9 5 55 7 14 2 10 6 8"]),
   ("epres",
    ["8986 1 205 3 3 0 2 0 521 1 21 1 50 11 43 0 19 0 13 0 8 1 17 1 5 1 8 0 5 0 21 0 7 1 1 0 4 0",
     "2 0 7 0 4 1 28 0 35 0 1 0 4 2 1 0 61 2 24 0 14 0 859 1 51 0 4 0 115886 0 202 0 190 0 2 9",
     "75 25 1 0 24 0 20 0 2 4 1 2 21 1 174 32 12 8 1 69 1 21 12 42 4 4 12 16 3 0 3 70 1 0 1 186",
     "2 62 13 3 1 23 18 0 26 1 13 0 86 84 48 69 6 0 3 2 2 2 4 3 11 1 7 8 227 11 4 0 283 46 1 9",
     "1 184 112 12 3 9 5 55 7 14 2 10 6 8"]),
   ("ext",
    ["183 0 536 1 878 0 441 0 630 0 137 0 89 0 752 0 127 0 2371 0 56 0 611 0 398 0 68 0 5001 0",
     "43 4 103 1 93 2 28438 0 1526 0 962 0 22 0 137 0 108 0 21 1 21627 0 2064 1 1483 0 27 0 4 0",
     "1223 0 293 0 116 1 498 2 1231 0 20649 1 1180 1 1 0 29016 1 1201 0 852 2"]),
   ("extpict",
    ["169 0 4 0 8077 0 12 0 216 0 22 0 90 5 15 1 367 1 12 0 95 0 70 0 25 10 4 2 199 0 231 1 10",
     "0 9 0 58 3 1 5 1 11 1 113 10 117 2 10 1 0 1 0 6 0 3 0 6 0 10 1 15 0 2 0 4 0 1 0 4 2 1 0",
     "11 4 45 2 9 0 14 0 14 0 372 1 463 2 19 1 51 0 4 0 1242 0 12 0 601 0 1 0 114022 255 13 2",
     "31 0 60 5 12 1 14 0 2 9 18 56 27 14 10 0 20 0 2 8 1 3 9 433 5 317 8 265 48 127 116 11 85",
     "42 12 3 56 7 10 5 40 7 30 81 12 46 1 9 1 440 256 1021"]),
   ("grlink",
    ["2381 0 127 0 127 0 127 0 127 0 127 0 127 0 127 0 109 1 16 0 124 0 111 0 127 0 201 0 180 1",
     "1753 1 30 0 157 0 653 0 227 0 101 1 70 1 4491 0 31366 0 37 0 151 0 142 0 108 0 309 0 246 0",
     "24145 0 1542 0 41 0 14 0 57 0 121 1 139 0 116 0 180 0 98 0 128 2 113 0 127 0 252 0 127 0",
     "118 0 116 0 269 0 259 1 161 0 83 0 18 0 81 0 421 0 260 1 81 0 425 1 16876 0"]),
   ("hex",
    ["48 9 7 5 26 5 65193 9 7 5 26 5"]),
   ("hyphen",
    ["45 0 127 0 1244 0 4731 0 2057 1 3589 0 739 0 52583 0 169 0 87 0"]),
   ("idcompatmathcontinue",
    ["178 1 5 0 8118 0 3 10 1 14 371 0 4 0 22 0 111778 0 25 0 31 0 25 0 31 0 25 0 31 0 25 0 31 0",
     "25 0"]),
   ("idcompatmathstart",
    ["8706 0 4 0 22 0 111778 0 25 0 31 0 25 0 31 0 25 0 31 0 25 0 31 0 25 0"]),
   ("ideo",
    ["12294 1 25 8 14 2 965 6591 64 20991 22784 365 2 105 29962 0 27 6135 8 1237 41 9 9319 395",
     "19716 42719 32 4153 6 221 2 5761 14 7472 15 621 2466 541 1506 4938 5 4191"]),
   ("idsb",
    ["12272 1 2 9 497 0"]),
   ("idst",
    ["12274 1"]),
   ("idsu",
    ["12286 1"]),
   ("joinc",
    ["8204 1"]),
   ("loe",
    ["3648 4 123 4 2800 2 2 0 37114 1 2 0 1 1"]),
   ("mcm",
    ["1620 1 2 0 131 0 6 0 3 1 481 1 1 2 3 0 31 0"]),
   ("midletter",
    ["39 0 6 0 11 0 124 0 719 0 471 0 148 0 6691 1 10 0 2 0 56811 0 62 0 2 0 177 0 6 0 11 0"]),
   ("nchar",
    ["64976 31 526 1 65534 1 65534 1 65534 1 65534 1 65534 1 65534 1 65534 1 65534 1 65534 1",
     "65534 1 65534 1 65534 1 65534 1 65534 1 65534 1 65534 1"]),
   ("notxidc",
    ["890 0 11552 1 52161 5 406 1 116 0 1 0 1 0 1 0 1 0 1 0 1 0 1 0"]),
   ("notxids",
    ["890 0 2744 0 127 0 8679 1 52161 5 406 1 116 0 1 0 1 0 1 0 1 0 1 0 1 0 1 0 287 1"]),
   ("oalpha",
    ["837 0 29 12 576 13 1 0 1 1 1 1 1 0 72 10 48 12 1 6 16 0 101 6 4 3 2 1 4 0 35 0 30 15 102",
     "10 101 1 3 8 1 2 1 3 106 0 60 11 3 6 6 19 54 1 2 14 1 1 5 2 10 1 29 2 58 6 2 1 2 1 10 0",
     "10 1 29 2 58 4 4 1 2 1 4 0 30 1 3 0 11 2 58 7 1 2 1 1 21 1 22 2 4 2 58 6 2 1 2 1 9 1 10 1",
     "30 0 59 4 3 2 1 2 10 0 40 4 57 6 1 2 1 2 8 1 11 1 29 2 58 6 1 2 1 2 8 1 11 1 15 0 12 3 58",
     "6 1 2 1 2 10 0 10 1 29 2 75 5 1 0 1 7 18 1 61 0 2 6 18 0 99 0 2 5 1 1 16 0 163 18 9 10 1",
     "35 110 11 1 0 2 3 23 3 4 2 1 2 2 6 3 3 13 11 1 0 10 3 1652 1 30 1 30 1 30 1 66 18 188 1",
     "34 0 118 11 4 8 222 4 57 9 2 19 74 1 11 2 49 4 48 14 60 2 30 8 2 1 57 10 50 18 412 33",
     "1729 51 2294 31 30836 7 34 1 354 0 8 0 23 4 88 1 50 15 1 0 57 0 38 4 28 11 45 3 48 11 37",
     "0 67 13 12 0 8 1 45 2 50 0 1 2 2 1 5 0 44 4 5 0 237 7 20275 0 2135 4 1670 2 1 1 5 3 788 3",
     "65 0 321 1 79 0 259 2 53 13 45 1 11 2 45 8 9 0 61 2 36 11 18 1 57 2 48 12 14 1 92 8 2 0 6",
     "0 2 0 157 9 23 3 58 6 2 1 2 1 10 0 10 1 84 8 1 0 2 0 1 3 1 1 103 12 1 2 106 17 237 6 2 6",
     "29 1 82 14 1 0 106 10 103 13 257 12 247 5 1 1 2 1 3 0 1 0 142 6 2 5 4 0 28 9 42 4 1 3 18",
     "10 46 13 407 7 1 6 83 21 1 13 122 5 3 0 1 1 1 2 1 0 3 0 66 4 1 1 1 3 348 3 9 1 1 0 48 6 3",
     "2 16861 16 3616 0 1 54 7 3 93 1 19628 0 9057 6 1 16 2 6 1 1 1 4 100 0 2231 0 2024 25 6 25",
     "6 25"]),
   ("odi",
    ["847 0 3599 1 1619 1 2223 0 4350 0 52795 0 79 8 851975 0 1 29 96 127 240 3599"]),
   ("ogrext",
    ["2494 0 24 0 358 0 24 0 102 0 24 0 232 0 1 0 4 1 1 1 9 1 103 0 24 0 119 0 15 0 2357 0 30 0",
     "1024 0 5 0 1 0 5 1 101 0 71 1 1048 0 4129 1 31011 0 108 0 21981 1 4640 0 116 0 264 0 14 0",
     "9 0 96 0 9 0 2 0 1 2 5 0 224 0 12 0 241 0 262 0 633 0 12 0 1539 0 20654 1 24947 1 6 5",
     "798381 95"]),
   ("oidc",
    ["183 0 719 0 4065 8 1640 0 1585 1 4333 0 52841 0"]),
   ("oids",
    ["6277 1 2193 0 21 0 3948 1"]),
   ("olower",
    ["170 0 15 0 501 8 7 1 30 4 96 0 52 0 3457 0 3119 62 13 0 34 36 689 0 13 0 16 12 211 15 848 25",
     "1938 1 31262 1 210 0 129 2 3 1 866 3 9 0 23574 0 2 2 1 41 1 8 55413 61"]),
   ("omath",
    ["94 0 881 2 2 0 26 1 2 1 7200 0 27 2 11 0 32 3 24 1 14 1 65 12 4 0 3 1 4 4 18 0 4 0 2 9 1 0",
     "3 4 6 0 3 1 2 1 1 2 1 5 3 3 5 4 75 4 2 3 1 1 1 1 1 0 1 4 2 1 4 1 4 17 2 1 1 0 1 6 1 0 6 1",
     "290 3 168 1 1 0 24 0 17 0 445 1 12 8 5 4 5 1 2 1 3 4 14 0 1 0 2 5 24 1 57 0 1 0 29 3 9 1",
     "342 1 31 9 403 21 63 3 32 1 54371 0 1 0 4 0 211 0 1 0 54465 84 1 70 1 1 2 0 2 1 2 3 1 11 1 0",
     "1 6 1 64 1 3 2 7 1 6 1 27 1 3 1 4 1 0 3 6 1 339 2 24 1 24 1 30 1 24 1 30 1 24 1 30 1 24 1 30",
     "1 24 1 7 2 49 5632 3 1 26 1 1 1 0 2 0 1 9 1 3 1 0 1 0 6 0 4 0 1 0 1 0 1 2 1 1 1 0 2 0 1 0",
     "1 0 1 0 1 0 1 1 1 0 2 3 1 6 1 3 1 3 1 0 1 9 1 16 5 2 1 4 1 16"]),
   ("oupper",
    ["8544 15 838 25 117856 25 6 25 6 25"]),
   ("patsyn",
    ["33 14 10 6 26 3 1 0 26 3 34 6 1 0 1 1 1 0 1 1 4 0 4 0 3 0 23 0 31 0 7960 23 8 14 2 18 1 9",
     "305 719 160 629 30 1131 512 127 385 2 4 24 15 0 52493 1 261 1"]),
   ("patws",
    ["9 4 18 0 100 0 8072 1 24 1"]),
   ("pcm",
    ["1536 5 215 0 49 0 384 1 80 0 67546 0 15 0"]),
   ("qmark",
    ["34 0 4 0 131 0 15 0 8028 7 25 1 3591 0 457 3 13 2 52769 3 189 0 4 0 90 1"]),
   ("radical",
    ["11904 25 1 88 12 213"]),
   ("ri",
    ["127462 25"]),
   ("sd",
    ["105 1 196 0 281 0 30 0 52 0 20 0 320 0 98 0 1 0 6409 0 51 0 13 0 3 0 132 0 157 0 421 0 214 1",
     "2866 0 108453 1 50 1 50 1 50 1 50 1 50 1 50 1 50 1 50 1 50 1 50 1 50 1 50 1 2182 0 305 1",
     "26 0"]),
   ("sterm",
    ["33 0 12 0 16 0 1353 0 147 2 180 0 43 2 246 0 61 0 1 0 3 1 293 1 1764 1 790 0 4 1 773 0 198 1",
     "157 1 45 0 5 0 314 1 354 3 162 1 10 1 2 1 29 2 187 1 65 1 932 0 23 1 9 2 3247 2 306 0 13 0",
     "22 1 429 0 29948 0 270 1 227 0 3 0 382 1 86 1 95 0 152 1 147 2 144 1 249 0 21030 0 2 1 59 0",
     "3 1 169 0 12 0 16 0 65 0 2804 1 1277 4 44 3 189 1 117 3 127 2 129 1 6 0 16 1 88 1 1 1 108 0",
     "298 1 117 1 373 1 5 14 105 1 249 2 517 0 1 0 251 1 87 1 420 1 692 1 74 1 19241 1 133 0 65 1",
     "11 0 553 1 296 0 19974 0 7656 0"]),
   ("term",
    ["33 0 10 0 1 0 11 1 3 0 830 0 8 0 513 0 57 0 72 0 14 0 1 2 180 0 43 10 1 0 235 1 54 5 1 7",
     "31 0 261 1 1268 1 172 0 4 5 311 1 789 7 773 0 124 2 71 1 157 2 3 0 39 3 2 1 314 1 354 3",
     "162 1 10 1 1 2 29 2 187 4 62 1 932 0 23 1 9 2 3247 2 306 0 13 0 4 0 10 0 1 1 3 1 428 1",
     "29947 1 269 2 227 4 382 1 86 1 95 0 151 2 147 2 127 0 16 1 249 0 21030 0 2 1 57 2 1 3 169 0",
     "10 0 1 0 11 1 3 0 65 0 2 0 1082 0 48 0 1158 0 199 0 310 1 152 5 68 5 89 3 952 4 44 3 189 6",
     "112 3 127 2 129 1 6 0 16 1 88 4 108 0 298 1 117 2 12 1 358 3 3 14 105 1 249 2 517 0 1 0",
     "251 1 87 1 4 1 414 2 45 0 645 1 74 1 1323 4 17913 1 133 0 65 2 10 0 553 1 295 1 19974 0",
     "7655 3"]),
   ("uideo",
    ["13312 6591 64 20991 23054 1 1 0 1 1 10 0 1 0 1 1 2 2 67030 42719 32 4153 6 221 2 5761",
     "14 7472 15 621 4514 4938 5 4191"]),
   ("vs",
    ["6155 2 1 0 58864 15 852720 239"]),
   ("wspace",
    ["9 4 18 0 100 0 26 0 5599 0 2431 10 29 1 5 0 47 0 4000 0"])]

def propertyAliases : List (String × String) :=
  [("alphabetic", "alpha"),
   ("asciihexdigit", "ahex"),
   ("bidicontrol", "bidic"),
   ("bidimirrored", "bidim"),
   ("caseignorable", "ci"),
   ("changeswhencasefolded", "cwcf"),
   ("changeswhencasemapped", "cwcm"),
   ("changeswhenlowercased", "cwl"),
   ("changeswhentitlecased", "cwt"),
   ("changeswhenuppercased", "cwu"),
   ("defaultignorablecodepoint", "di"),
   ("deprecated", "dep"),
   ("diacritic", "dia"),
   ("emojicomponent", "ecomp"),
   ("emojimodifier", "emod"),
   ("emojimodifierbase", "ebase"),
   ("emojipresentation", "epres"),
   ("extendedpictographic", "extpict"),
   ("extender", "ext"),
   ("graphemebase", "grbase"),
   ("graphemeextend", "grext"),
   ("graphemelink", "grlink"),
   ("hexdigit", "hex"),
   ("idcontinue", "idc"),
   ("ideographic", "ideo"),
   ("idsbinaryoperator", "idsb"),
   ("idstart", "ids"),
   ("idstrinaryoperator", "idst"),
   ("idsunaryoperator", "idsu"),
   ("joincontrol", "joinc"),
   ("logicalorderexception", "loe"),
   ("lowercase", "lower"),
   ("modifiercombiningmark", "mcm"),
   ("noncharactercodepoint", "nchar"),
   ("otheralphabetic", "oalpha"),
   ("otherdefaultignorablecodepoint", "odi"),
   ("othergraphemeextend", "ogrext"),
   ("otheridcontinue", "oidc"),
   ("otheridstart", "oids"),
   ("otherlowercase", "olower"),
   ("othermath", "omath"),
   ("otheruppercase", "oupper"),
   ("patternsyntax", "patsyn"),
   ("patternwhitespace", "patws"),
   ("prependedconcatenationmark", "pcm"),
   ("quotationmark", "qmark"),
   ("regionalindicator", "ri"),
   ("sentenceterminal", "sterm"),
   ("softdotted", "sd"),
   ("space", "wspace"),
   ("terminalpunctuation", "term"),
   ("unifiedideograph", "uideo"),
   ("uppercase", "upper"),
   ("variationselector", "vs"),
   ("whitespace", "wspace"),
   ("xidcontinue", "xidc"),
   ("xidstart", "xids")]

def table (name : String) : CodePoints :=
  ((propertyTables.lookup name).map CodePoints.decode).getD []

def lowercase : CodePoints := (categories ["ll"]).union (table "olower")

def uppercase : CodePoints := (categories ["lu"]).union (table "oupper")

def alphabetic : CodePoints :=
  CodePoints.unions [lowercase, uppercase, categories ["lt", "lm", "lo", "nl"], table "oalpha"]

def graphemeExtend : CodePoints := (categories ["me", "mn"]).union (table "ogrext")

def identifierStart : CodePoints :=
  ((categories ["lu", "ll", "lt", "lm", "lo", "nl"]).union (table "oids")).difference
    ((table "patsyn").union (table "patws"))

def identifierContinue : CodePoints :=
  CodePoints.unions [identifierStart, categories ["mn", "mc", "nd", "pc"], table "oidc"]

/-- The characters of words: letters, marks, digits, connectors and joiners. -/
def wordCharacters : CodePoints :=
  CodePoints.unions [alphabetic, categories ["mn", "mc", "me", "nd", "pc"], table "joinc"]

/-- The code points with a binary property, by any of its names. -/
def property? (name : String) : Option CodePoints :=
  match (propertyAliases.lookup name).getD name with
  | "midletter" | "notxids" | "notxidc" => none
  | "lower" => some lowercase
  | "upper" => some uppercase
  | "alpha" => some alphabetic
  | "cased" => some (CodePoints.unions [lowercase, uppercase, categories ["lt"]])
  | "ci" => some ((categories ["mn", "me", "cf", "lm", "sk"]).union (table "midletter"))
  | "cwcm" => some (CodePoints.unions [table "cwl", table "cwt", table "cwu"])
  | "math" => some ((categories ["sm"]).union (table "omath"))
  | "grext" => some graphemeExtend
  | "grbase" =>
    some ((categories ["cc", "cf", "co", "cn", "zl", "zp"]).union graphemeExtend).complement
  | "ids" => some identifierStart
  | "idc" => some identifierContinue
  | "xids" => some (identifierStart.difference (table "notxids"))
  | "xidc" => some (identifierContinue.difference (table "notxidc"))
  | short => (propertyTables.lookup short).map CodePoints.decode

/-- Code points that have a shape of their own: letters, marks, numbers, punctuation, symbols and
the plain space. -/
def visible : CodePoints :=
  ((categories ["cc", "cf", "co", "cn", "zl", "zp", "zs"]).complement).union [(32, 32)]

end Chaining.Unicode
