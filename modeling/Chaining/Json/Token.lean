import Chaining.Number.Numeral
import Chaining.Text.Hexadecimal

set_option autoImplicit false

namespace Chaining.Json

/-- How a text fails to be JSON: a character that cannot stand where it does, or an early end. -/
inductive Fault where
  | malformed
  | ended
deriving DecidableEq

inductive Token where
  | openArray
  | closeArray
  | openObject
  | closeObject
  | comma
  | colon
  | null
  | boolean (value : Bool)
  | number (numeral : Numeral)
  /-- No content means a surrogate without its partner. -/
  | text (content : Option String)
  /-- `fault` is met by a reader of the value, `skipped` by one that passes over it. -/
  | broken (startsText : Bool) (fault skipped : Fault)

namespace Token

def hexUnit? (first second third fourth : Char) : Option Nat := do
  let first ← Text.hexValue? first
  let second ← Text.hexValue? second
  let third ← Text.hexValue? third
  let fourth ← Text.hexValue? fourth
  return ((first * 16 + second) * 16 + third) * 16 + fourth

def escaped? (letter : Char) : Option Char :=
  match letter with
  | '"' => some '"'
  | '\\' => some '\\'
  | '/' => some '/'
  | 'b' => some '\x08'
  | 'f' => some '\x0c'
  | 'n' => some '\n'
  | 'r' => some '\r'
  | 't' => some '\t'
  | _ => none

def utf8Size (characters : List Char) : Nat :=
  characters.foldr (fun character size => character.utf8Size + size) 0

/-- The code units of a text behind its opening quote, and what is left. A fault stands for a text
that is not closed. -/
structure TextScan where
  units : List Nat
  fault : Option Fault
  rest : List Char

def TextScan.push (unit : Nat) (scan : TextScan) : TextScan :=
  { scan with units := unit :: scan.units }

/-- A unicode escape needs four bytes behind it; with fewer the text has ended. -/
def scanText : List Char → TextScan
  | [] => ⟨[], some .ended, []⟩
  | '"' :: rest => ⟨[], none, rest⟩
  | '\\' :: 'u' :: first :: second :: third :: fourth :: rest =>
    match hexUnit? first second third fourth with
    | some unit => (scanText rest).push unit
    | none => ⟨[], some .malformed, rest⟩
  | '\\' :: 'u' :: rest => ⟨[], some (if utf8Size rest < 4 then .ended else .malformed), []⟩
  | '\\' :: letter :: rest =>
    match escaped? letter with
    | some character => (scanText rest).push character.toNat
    | none => ⟨[], some .malformed, rest⟩
  | ['\\'] => ⟨[], some .ended, []⟩
  | character :: rest =>
    if character.toNat < 32 then ⟨[], some .malformed, rest⟩
    else (scanText rest).push character.toNat

def isHighSurrogate (unit : Nat) : Bool := 0xD800 ≤ unit && unit < 0xDC00

def isLowSurrogate (unit : Nat) : Bool := 0xDC00 ≤ unit && unit < 0xE000

/-- The characters that units stand for; nothing when a surrogate has no partner. -/
def pairUnits : List Nat → Option (List Char)
  | [] => some []
  | [unit] =>
    if isHighSurrogate unit || isLowSurrogate unit then none else some [Char.ofNat unit]
  | high :: low :: rest =>
    if isHighSurrogate high then
      if isLowSurrogate low then
        (pairUnits rest).map
          (Char.ofNat (0x10000 + (high - 0xD800) * 0x400 + (low - 0xDC00)) :: ·)
      else none
    else if isLowSurrogate high then none
    else (pairUnits (low :: rest)).map (Char.ofNat high :: ·)

/-- The fault of a text that the input ends in: a surrogate that has already lost its partner comes
first, one at the very end may still get it. -/
def unfinishedFault (units : List Nat) : Fault :=
  if (pairUnits units).isSome then .ended
  else if units.getLast?.any isHighSurrogate && (pairUnits units.dropLast).isSome then .ended
  else .malformed

def ofTextScan (scan : TextScan) : Token × List Char :=
  match scan.fault with
  | none => (.text ((pairUnits scan.units).map String.ofList), scan.rest)
  | some .malformed => (.broken true .malformed .malformed, [])
  | some .ended => (.broken true (unfinishedFault scan.units) .ended, [])

def invalid : Token × List Char := (.broken false .malformed .malformed, [])

/-- A numeral that the input ends in has ended for a reader and is malformed for one that passes
over it. -/
def unfinishedNumeral : Token × List Char := (.broken false .ended .malformed, [])

def digitRun (characters : List Char) : List Char × List Char :=
  (characters.takeWhile Char.isDigit, characters.dropWhile Char.isDigit)

def scanExponent (numeral : Numeral) (sign : ExponentSign) (rest : List Char) :
    Token × List Char :=
  match digitRun rest with
  | ([], []) => unfinishedNumeral
  | ([], _ :: _) => invalid
  | (digits, rest) => (.number { numeral with exponent := some (sign, digits) }, rest)

def scanExponentMark (numeral : Numeral) : List Char → Token × List Char
  | 'e' :: '+' :: rest => scanExponent numeral .plus rest
  | 'e' :: '-' :: rest => scanExponent numeral .minus rest
  | 'e' :: rest => scanExponent numeral .none rest
  | 'E' :: '+' :: rest => scanExponent numeral .plus rest
  | 'E' :: '-' :: rest => scanExponent numeral .minus rest
  | 'E' :: rest => scanExponent numeral .none rest
  | rest => (.number numeral, rest)

def scanFraction (numeral : Numeral) : List Char → Token × List Char
  | '.' :: rest =>
    match digitRun rest with
    | ([], []) => unfinishedNumeral
    | ([], _ :: _) => invalid
    | (digits, rest) => scanExponentMark { numeral with fraction := digits } rest
  | rest => scanExponentMark numeral rest

/-- Reads a numeral behind its sign. A leading zero stands alone. -/
def scanNumeral (negative : Bool) (characters : List Char) : Token × List Char :=
  match digitRun characters with
  | ([], []) => unfinishedNumeral
  | ([], _ :: _) => invalid
  | ('0' :: _ :: _, _) => invalid
  | (digits, rest) => scanFraction ⟨negative, digits, [], none⟩ rest

def scanWord (token : Token) : List Char → List Char → Token × List Char
  | [], rest => (token, rest)
  | _ :: _, [] => (.broken false .ended .ended, [])
  | letter :: letters, character :: rest =>
    if character = letter then scanWord token letters rest else invalid

def isBlank (character : Char) : Bool :=
  character = ' ' || character = '\n' || character = '\t' || character = '\r'

def scanToken (first : Char) (rest : List Char) : Token × List Char :=
  match first with
  | '[' => (.openArray, rest)
  | ']' => (.closeArray, rest)
  | '{' => (.openObject, rest)
  | '}' => (.closeObject, rest)
  | ',' => (.comma, rest)
  | ':' => (.colon, rest)
  | '"' => ofTextScan (scanText rest)
  | '-' => scanNumeral true rest
  | 'n' => scanWord .null ['u', 'l', 'l'] rest
  | 't' => scanWord (.boolean true) ['r', 'u', 'e'] rest
  | 'f' => scanWord (.boolean false) ['a', 'l', 's', 'e'] rest
  | first => if first.isDigit then scanNumeral false (first :: rest) else invalid

theorem scanText_rest_le (characters : List Char) :
    (scanText characters).rest.length ≤ characters.length := by
  fun_induction scanText characters <;> simp_all [TextScan.push] <;> omega

theorem digitRun_length (characters : List Char) :
    (digitRun characters).1.length + (digitRun characters).2.length = characters.length := by
  rw [digitRun, ← List.length_append, List.takeWhile_append_dropWhile]

theorem scanExponent_rest_le (numeral : Numeral) (sign : ExponentSign) (rest : List Char) :
    (scanExponent numeral sign rest).2.length ≤ rest.length := by
  have length := digitRun_length rest
  unfold scanExponent
  split <;> simp_all [unfinishedNumeral, invalid]
  omega

theorem scanExponentMark_rest_le (numeral : Numeral) (rest : List Char) :
    (scanExponentMark numeral rest).2.length ≤ rest.length := by
  unfold scanExponentMark
  split <;> first
    | exact Nat.le_refl _
    | (refine Nat.le_trans (scanExponent_rest_le _ _ _) ?_; simp only [List.length_cons]; omega)

theorem scanFraction_rest_le (numeral : Numeral) (rest : List Char) :
    (scanFraction numeral rest).2.length ≤ rest.length := by
  unfold scanFraction
  split
  · rename_i tail
    have length := digitRun_length tail
    split
    · simp [unfinishedNumeral]
    · simp [invalid]
    · rename_i digits left _ equal
      rw [equal] at length
      refine Nat.le_trans (scanExponentMark_rest_le _ _) ?_
      simp only [List.length_cons] at length ⊢
      omega
  · exact scanExponentMark_rest_le _ _

theorem scanNumeral_rest_lt (negative : Bool) (characters : List Char) (some : characters ≠ []) :
    (scanNumeral negative characters).2.length < characters.length := by
  have length := digitRun_length characters
  have positive := List.length_pos_iff.mpr some
  unfold scanNumeral
  split
  · simpa [unfinishedNumeral] using positive
  · simpa [invalid] using positive
  · simpa [invalid] using positive
  · rename_i digits left ended empty _ equal
    rw [equal] at length
    have bound := scanFraction_rest_le ⟨negative, digits, [], none⟩ left
    have digit : 0 < digits.length := by
      cases digits with
      | nil => cases left with
        | nil => exact (ended rfl rfl).elim
        | cons head tail => exact (empty head tail rfl rfl).elim
      | cons head tail => simp
    simp only at length
    omega

theorem scanNumeral_rest_le (negative : Bool) (characters : List Char) :
    (scanNumeral negative characters).2.length ≤ characters.length := by
  cases characters with
  | nil => simp [scanNumeral, digitRun, unfinishedNumeral]
  | cons head tail => exact Nat.le_of_lt (scanNumeral_rest_lt _ _ (by simp))

theorem scanWord_rest_le (token : Token) (letters rest : List Char) :
    (scanWord token letters rest).2.length ≤ rest.length := by
  fun_induction scanWord token letters rest <;> simp_all [invalid]
  omega

theorem ofTextScan_rest_le (scan : TextScan) : (ofTextScan scan).2.length ≤ scan.rest.length := by
  unfold ofTextScan
  split <;> simp

theorem scanToken_rest_le (first : Char) (rest : List Char) :
    (scanToken first rest).2.length ≤ rest.length := by
  unfold scanToken
  split
  case h_7 => exact Nat.le_trans (ofTextScan_rest_le _) (scanText_rest_le rest)
  case h_8 => exact scanNumeral_rest_le true rest
  case h_12 =>
    split
    · exact Nat.le_of_lt_succ (scanNumeral_rest_lt false (first :: rest) (by simp))
    · simp [invalid]
  all_goals first
    | exact Nat.le_refl _
    | exact scanWord_rest_le _ _ _

def scan : List Char → List Token
  | [] => []
  | first :: rest =>
    if isBlank first then scan rest
    else (scanToken first rest).1 :: scan (scanToken first rest).2
termination_by characters => characters.length
decreasing_by
  · simp
  · have := scanToken_rest_le first rest
    simp only [List.length_cons]
    omega

end Token

end Chaining.Json
