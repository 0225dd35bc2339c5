import Chaining.Json.Basic
import Chaining.Proofs.Json.Numeral

set_option autoImplicit false

namespace Chaining.Json

open Token

/-- Characters between the quotes of a text, and the code units that they stand for. -/
inductive Letters : List Char → List Nat → Prop
  | empty : Letters [] []
  | plain {character : Char} {letters : List Char} {units : List Nat}
      (quote : character ≠ '"') (backslash : character ≠ '\\')
      (printable : ¬ character.toNat < 32) (later : Letters letters units) :
      Letters (character :: letters) (character.toNat :: units)
  | escaped {letter character : Char} {letters : List Char} {units : List Nat}
      (meaning : escaped? letter = some character) (later : Letters letters units) :
      Letters ('\\' :: letter :: letters) (character.toNat :: units)
  | unit {first second third fourth : Char} {letters : List Char} {unit : Nat} {units : List Nat}
      (meaning : hexUnit? first second third fourth = some unit) (later : Letters letters units) :
      Letters ('\\' :: 'u' :: first :: second :: third :: fourth :: letters) (unit :: units)

structure Literal where
  letters : List Char
  units : List Nat
  spelled : Letters letters units

namespace Literal

def characters (literal : Literal) : List Char := '"' :: (literal.letters ++ ['"'])

/-- What a text says. A surrogate without its partner says nothing. -/
def content (literal : Literal) : Option String := (pairUnits literal.units).map String.ofList

end Literal

theorem Letters.scanText {letters : List Char} {units : List Nat} (spelled : Letters letters units)
    (rest : List Char) : Token.scanText (letters ++ '"' :: rest) = ⟨units, none, rest⟩ := by
  induction spelled with
  | empty => rfl
  | plain quote backslash printable later ih =>
    rw [List.cons_append, Token.scanText, if_neg printable, ih]
    · rfl
    all_goals simp [quote, backslash]
  | @escaped letter _ _ _ meaning later ih =>
    have known : letter ≠ 'u' := by
      rintro rfl
      cases meaning
    rw [List.cons_append, List.cons_append, Token.scanText, meaning]
    · exact congrArg (TextScan.push _) ih
    all_goals simp [known]
  | unit meaning later ih =>
    simp only [List.cons_append]
    rw [Token.scanText, meaning]
    exact congrArg (TextScan.push _) ih

theorem Literal.scan (literal : Literal) (rest : List Char) :
    Token.scan (literal.characters ++ rest) = .text literal.content :: Token.scan rest := by
  have scanned := literal.spelled.scanText rest
  rw [characters, List.cons_append, List.append_assoc, List.cons_append, List.nil_append,
    scan_cons rfl]
  change (ofTextScan (Token.scanText _)).1 :: Token.scan (ofTextScan (Token.scanText _)).2 = _
  rw [scanned]
  rfl

theorem hexUnit?_hexDigit : ∀ unit < 32,
    hexUnit? '0' '0' (hexDigit (unit / 16)) (hexDigit (unit % 16)) = some unit := by
  decide

theorem Letters.escape (character : Char) {letters : List Char} {units : List Nat}
    (later : Letters letters units) :
    Letters (Json.escape character ++ letters) (character.toNat :: units) := by
  unfold Json.escape
  split_ifs with quote backslash line carriage tab back feed control
  any_goals (subst character; exact .escaped rfl later)
  · exact .unit (hexUnit?_hexDigit character.toNat control) later
  · exact .plain quote backslash control later

theorem letters_content (content : List Char) :
    Letters (content.flatMap escape) (content.map Char.toNat) := by
  induction content with
  | nil => exact .empty
  | cons character content ih => exact ih.escape character

theorem not_surrogate (character : Char) :
    isHighSurrogate character.toNat = false ∧ isLowSurrogate character.toNat = false := by
  have valid : character.toNat < 0xD800 ∨ 0xDFFF < character.toNat ∧ character.toNat < 0x110000 :=
    character.valid
  simp only [isHighSurrogate, isLowSurrogate, Bool.and_eq_false_iff, decide_eq_false_iff_not]
  omega

theorem pairUnits_content (content : List Char) :
    pairUnits (content.map Char.toNat) = some content := by
  induction content with
  | nil => rfl
  | cons character content ih =>
    obtain ⟨high, low⟩ := not_surrogate character
    cases content with
    | nil => simp [pairUnits, high, low]
    | cons next content =>
      rw [List.map_cons, List.map_cons, pairUnits, high, low, ← List.map_cons, ih]
      simp

def Literal.ofText (text : String) : Literal := ⟨_, _, letters_content text.toList⟩

theorem Literal.characters_ofText (text : String) : (ofText text).characters = quoted text := rfl

theorem Literal.content_ofText (text : String) : (ofText text).content = some text := by
  simp [content, ofText, pairUnits_content]

end Chaining.Json
