import Chaining.Unicode.Property
import Chaining.Unicode.Script

set_option autoImplicit false

namespace Chaining.Unicode

/-! ### Sentences -/

def scripts (names : List String) : CodePoints :=
  CodePoints.unions (names.map fun name => (script? name).getD [])

/-- Marks, and the joiner that makes one character of two. -/
def extenders : CodePoints :=
  CodePoints.unions [graphemeExtend, categories ["mc"], [(0x200D, 0x200D)]]

/-- Digits, with the signs of Arabic numbers. -/
def numerals : CodePoints :=
  (((categories ["nd"]).union (table "pcm")).difference [(0x070F, 0x070F)]).union
    [(0x066B, 0x066C), (0x19DA, 0x19DA)]

def formatControls : CodePoints := ((categories ["cf"]).difference extenders).difference numerals

/-- Lower case, without the Georgian letters that do not start sentences in upper case. -/
def sentenceLower : CodePoints :=
  (lowercase.difference extenders).difference [(0x10D0, 0x10FA), (0x10FD, 0x10FF)]

def sentenceUpper : CodePoints :=
  ((categories ["lt"]).union uppercase).difference [(0x1C90, 0x1CBA), (0x1CBD, 0x1CBF)]

def fullStops : CodePoints :=
  [(0x002E, 0x002E), (0x2024, 0x2024), (0xFE52, 0xFE52), (0xFF0E, 0xFF0E)]

/-- The code points with a value of the property that tells where sentences end. The value of all
others cannot be asked for. -/
def sentenceBreak? (name : String) : Option CodePoints :=
  match name with
  | "cr" => some [(13, 13)]
  | "lf" => some [(10, 10)]
  | "sep" | "se" => some [(0x0085, 0x0085), (0x2028, 0x2029)]
  | "extend" | "ex" => some extenders
  | "format" | "fo" => some formatControls
  | "sp" =>
    some ((table "wspace").difference
      [(10, 10), (13, 13), (0x0085, 0x0085), (0x2028, 0x2029)])
  | "lower" | "lo" => some sentenceLower
  | "upper" | "up" => some sentenceUpper
  | "oletter" | "le" =>
    some ((alphabetic.difference (CodePoints.unions [sentenceLower, sentenceUpper, extenders])).union
      [(0x05F3, 0x05F3)])
  | "numeric" | "nu" => some numerals
  | "aterm" | "at" => some fullStops
  | "sterm" | "st" => some ((table "sterm").difference fullStops)
  | "close" | "cl" =>
    some ((categories ["ps", "pe", "pi", "pf"]).union
      [(0x0022, 0x0022), (0x0027, 0x0027), (0x275B, 0x2760), (0x2E00, 0x2E01), (0x2E06, 0x2E08),
       (0x2E0B, 0x2E0B), (0x1F676, 0x1F678)])
  | "scontinue" | "sc" =>
    some [(0x002C, 0x002D), (0x003A, 0x003B), (0x037E, 0x037E), (0x055D, 0x055D),
      (0x060C, 0x060D), (0x07F8, 0x07F8), (0x1802, 0x1802), (0x1808, 0x1808), (0x2013, 0x2014),
      (0x3001, 0x3001), (0xFE10, 0xFE11), (0xFE13, 0xFE14), (0xFE31, 0xFE32), (0xFE50, 0xFE51),
      (0xFE54, 0xFE55), (0xFE58, 0xFE58), (0xFE63, 0xFE63), (0xFF0C, 0xFF0D), (0xFF1A, 0xFF1B),
      (0xFF64, 0xFF64)]
  | _ => none

/-! ### Words -/

def wordKatakana : CodePoints :=
  (scripts ["katakana"]).union
    [(0x3031, 0x3035), (0x309B, 0x309C), (0x30A0, 0x30A0), (0x30FC, 0x30FC), (0xFF70, 0xFF70)]

def wordExtenders : CodePoints :=
  (extenders.union (table "emod")).difference [(0x200D, 0x200D)]

/-- Scripts that are written without anything between words. -/
def unspacedScripts : List String :=
  ["thai", "lao", "myanmar", "khmer", "taile", "newtailue", "taitham", "taiviet", "ahom"]

/-- Letters of words that are told apart by what is between them. -/
def wordLetters : CodePoints :=
  (alphabetic.difference (CodePoints.unions [table "ideo", wordKatakana, wordExtenders,
    scripts ["hebrew", "hiragana"], scripts unspacedScripts])).union
      [(0x02C2, 0x02C5), (0x02D2, 0x02D7), (0x02DE, 0x02DF), (0x02E5, 0x02EB), (0x02ED, 0x02ED),
       (0x02EF, 0x02FF), (0x055A, 0x055C), (0x055E, 0x055E), (0x058A, 0x058A), (0x05F3, 0x05F3),
       (0x070F, 0x070F), (0xA708, 0xA716), (0xA720, 0xA721), (0xA789, 0xA78A), (0xAB5B, 0xAB5B)]

def wordBreak? (name : String) : Option CodePoints :=
  match name with
  | "cr" => some [(13, 13)]
  | "lf" => some [(10, 10)]
  | "newline" | "nl" => some [(11, 12), (0x0085, 0x0085), (0x2028, 0x2029)]
  | "extend" => some wordExtenders
  | "zwj" => some [(0x200D, 0x200D)]
  | "format" | "fo" =>
    some (formatControls.difference [(0x070F, 0x070F), (0x200B, 0x200B)])
  | "katakana" | "ka" => some wordKatakana
  | "hebrewletter" | "hl" => some ((scripts ["hebrew"]).intersection (categories ["lo"]))
  | "aletter" | "le" => some wordLetters
  | "singlequote" | "sq" => some [(0x0027, 0x0027)]
  | "doublequote" | "dq" => some [(0x0022, 0x0022)]
  | "midnumlet" | "mb" =>
    some [(0x002E, 0x002E), (0x2018, 0x2019), (0x2024, 0x2024), (0xFE52, 0xFE52),
      (0xFF07, 0xFF07), (0xFF0E, 0xFF0E)]
  | "midletter" | "ml" =>
    some [(0x003A, 0x003A), (0x00B7, 0x00B7), (0x0387, 0x0387), (0x055F, 0x055F),
      (0x05F4, 0x05F4), (0x2027, 0x2027), (0xFE13, 0xFE13), (0xFE55, 0xFE55), (0xFF1A, 0xFF1A)]
  | "midnum" | "mn" =>
    some [(0x002C, 0x002C), (0x003B, 0x003B), (0x037E, 0x037E), (0x0589, 0x0589),
      (0x060C, 0x060D), (0x066C, 0x066C), (0x07F8, 0x07F8), (0x2044, 0x2044), (0xFE50, 0xFE50),
      (0xFE54, 0xFE54), (0xFF0C, 0xFF0C), (0xFF1B, 0xFF1B)]
  | "numeric" | "nu" => some (numerals.difference [(0x066C, 0x066C)])
  | "extendnumlet" | "ex" => some ((categories ["pc"]).union [(0x202F, 0x202F)])
  | "regionalindicator" | "ri" => some (table "ri")
  | "wsegspace" =>
    some ((categories ["zs"]).difference [(0x00A0, 0x00A0), (0x2007, 0x2007), (0x202F, 0x202F)])
  | _ => none

/-! ### Characters -/

def graphemeExtenders : CodePoints := graphemeExtend.union (table "emod")

def graphemePrefixes : CodePoints :=
  (table "pcm").union
    [(0x0D4E, 0x0D4E), (0x111C2, 0x111C3), (0x113D1, 0x113D1), (0x1193F, 0x1193F),
     (0x11941, 0x11941), (0x11A3A, 0x11A3A), (0x11A84, 0x11A89), (0x11D46, 0x11D46),
     (0x11F02, 0x11F02)]

/-- Syllables of Hangul without a final consonant; the 27 behind each of them have one. -/
def openSyllables : CodePoints :=
  (List.range 399).map fun index => (0xAC00 + 28 * index, 0xAC00 + 28 * index)

def graphemeBreak? (name : String) : Option CodePoints :=
  match name with
  | "cr" => some [(13, 13)]
  | "lf" => some [(10, 10)]
  | "control" | "cn" =>
    some ((CodePoints.unions [categories ["cc", "cf", "zl", "zp"],
      (table "di").intersection (categories ["cn"])]).difference
        (CodePoints.unions [graphemeExtenders, graphemePrefixes,
          [(10, 10), (13, 13), (0x200D, 0x200D)]]))
  | "extend" | "ex" => some graphemeExtenders
  | "zwj" => some [(0x200D, 0x200D)]
  | "regionalindicator" | "ri" => some (table "ri")
  | "prepend" | "pp" => some graphemePrefixes
  | "spacingmark" | "sm" =>
    some (((categories ["mc"]).difference (graphemeExtenders.union
      [(0x102B, 0x102C), (0x1038, 0x1038), (0x1062, 0x1064), (0x1067, 0x106D), (0x1083, 0x1083),
       (0x1087, 0x108C), (0x108F, 0x108F), (0x109A, 0x109C), (0x1A61, 0x1A61), (0x1A63, 0x1A64),
       (0xAA7B, 0xAA7B), (0xAA7D, 0xAA7D), (0x11720, 0x11721)])).union
         [(0x0E33, 0x0E33), (0x0EB3, 0x0EB3)])
  | "l" => some [(0x1100, 0x115F), (0xA960, 0xA97C)]
  | "v" => some [(0x1160, 0x11A7), (0xD7B0, 0xD7C6), (0x16D63, 0x16D63), (0x16D67, 0x16D6A)]
  | "t" => some [(0x11A8, 0x11FF), (0xD7CB, 0xD7FB)]
  | "lv" => some openSyllables
  | "lvt" => some (CodePoints.difference [(0xAC00, 0xD7A3)] openSyllables)
  | _ => none

end Chaining.Unicode
