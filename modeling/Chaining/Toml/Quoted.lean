import Chaining.Text.Hexadecimal

set_option autoImplicit false

namespace Chaining.Toml

def isPlain (character : Char) : Bool :=
  character = '\t' || (32 ≤ character.toNat && character.toNat ≠ 127)

def isSpace (character : Char) : Bool := character = ' ' || character = '\t'

def dropSpaces (input : List Char) : List Char := input.dropWhile isSpace

def lineEnd? : List Char → Option (List Char)
  | '\n' :: rest => some rest
  | '\r' :: '\n' :: rest => some rest
  | _ => none

def dropBlanks (inComment : Bool) : List Char → List Char
  | [] => []
  | '\n' :: rest => dropBlanks false rest
  | '\r' :: '\n' :: rest => dropBlanks false rest
  | first :: rest =>
    if inComment && isPlain first then dropBlanks true rest
    else if !inComment && isSpace first then dropBlanks false rest
    else if !inComment && first = '#' then dropBlanks true rest
    else first :: rest

def dropBlankLines : List Char → List Char
  | [] => []
  | '\n' :: rest => dropBlankLines rest
  | '\r' :: '\n' :: rest => dropBlankLines rest
  | first :: rest => if isSpace first then dropBlankLines rest else first :: rest

def readCodePoint (count : Nat) (input : List Char) : Option (Char × List Char) :=
  let digits := input.take count
  if digits.length = count && digits.all Text.isHexDigit then
    (Text.character? (Text.hexNumber digits)).map fun character => (character, input.drop count)
  else none

def readEscape : List Char → Option (Char × List Char)
  | 'u' :: rest => readCodePoint 4 rest
  | 'U' :: rest => readCodePoint 8 rest
  | 'b' :: rest => some ('\x08', rest)
  | 't' :: rest => some ('\t', rest)
  | 'n' :: rest => some ('\n', rest)
  | 'f' :: rest => some ('\x0c', rest)
  | 'r' :: rest => some ('\r', rest)
  | '"' :: rest => some ('"', rest)
  | '\\' :: rest => some ('\\', rest)
  | _ => none

/-- Reads a text on one line up to its closing quote. Every step takes a character. -/
def readLineText (quote : Char) : Nat → List Char → Option (List Char × List Char)
  | 0, _ => none
  | _, [] => none
  | steps + 1, first :: rest =>
    if first = quote then some ([], rest)
    else if first = '\\' && quote = '"' then do
      let (character, left) ← readEscape rest
      let (content, left) ← readLineText quote steps left
      return (character :: content, left)
    else if isPlain first then do
      let (content, left) ← readLineText quote steps rest
      return (first :: content, left)
    else none

/-- Reads a text over several lines up to three closing quotes. Fewer quotes belong to the text, and
so do up to two more in front of the closing ones. A backslash at the end of a line takes away the
white space behind it. -/
def readLongText (quote : Char) : Nat → List Char → Option (List Char × List Char)
  | 0, _ => none
  | _, [] => none
  | steps + 1, first :: rest =>
    if first = quote then
      let count := 1 + (rest.takeWhile (· = quote)).length
      if 3 ≤ count then
        let kept := min (count - 3) 2
        some (List.replicate kept quote, rest.drop (kept + 2))
      else do
        let (content, left) ← readLongText quote steps (rest.drop (count - 1))
        return (List.replicate count quote ++ content, left)
    else if first = '\\' && quote = '"' then
      match lineEnd? (dropSpaces rest) with
      | some next => readLongText quote steps (dropBlankLines next)
      | none => do
        let (character, left) ← readEscape rest
        let (content, left) ← readLongText quote steps left
        return (character :: content, left)
    else
      match lineEnd? (first :: rest) with
      | some next => do
        let (content, left) ← readLongText quote steps next
        return ('\n' :: content, left)
      | none =>
        if isPlain first then do
          let (content, left) ← readLongText quote steps rest
          return (first :: content, left)
        else none

def readQuotedLine (quote : Char) (input : List Char) : Option (List Char × List Char) :=
  readLineText quote input.length input

/-- Reads a text of several lines. A line that ends right behind the opening quotes is not part of
it. -/
def readQuotedLines (quote : Char) (input : List Char) : Option (List Char × List Char) :=
  readLongText quote input.length ((lineEnd? input).getD input)

def readText : List Char → Option (List Char × List Char)
  | '"' :: '"' :: '"' :: rest => readQuotedLines '"' rest
  | '"' :: rest => readQuotedLine '"' rest
  | '\'' :: '\'' :: '\'' :: rest => readQuotedLines '\'' rest
  | '\'' :: rest => readQuotedLine '\'' rest
  | _ => none

end Chaining.Toml
