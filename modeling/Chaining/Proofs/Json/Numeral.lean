import Chaining.Json.Token
import Chaining.Number.Layout
import Mathlib.Data.List.TakeWhile

set_option autoImplicit false

namespace Chaining

namespace Numeral

/-- Whole part, fraction and exponent are made of digits. -/
structure IsDigital (numeral : Numeral) : Prop where
  whole : ∀ digit ∈ numeral.whole, digit.isDigit = true
  fraction : ∀ digit ∈ numeral.fraction, digit.isDigit = true
  exponent : ∀ sign digits, numeral.exponent = some (sign, digits) →
    ∀ digit ∈ digits, digit.isDigit = true

/-- A numeral as JSON has it: no part that must not be empty is, and a leading zero stands alone. -/
structure IsWritten (numeral : Numeral) : Prop extends IsDigital numeral where
  begun : numeral.whole ≠ []
  leading : ∀ rest, numeral.whole = '0' :: rest → rest = []
  power : ∀ sign, numeral.exponent ≠ some (sign, [])

def fractionText (fraction : List Char) : List Char :=
  if fraction.isEmpty then [] else '.' :: fraction

def exponentText : Option (ExponentSign × List Char) → List Char
  | none => []
  | some (sign, digits) => 'e' :: (signText sign ++ digits)

def unsigned (numeral : Numeral) : List Char :=
  numeral.whole ++ (fractionText numeral.fraction ++ exponentText numeral.exponent)

theorem text_eq (numeral : Numeral) :
    numeral.text = (if numeral.negative then ['-'] else []) ++ numeral.unsigned := by
  change (if numeral.negative then ['-'] else []) ++ numeral.whole ++
    fractionText numeral.fraction ++ exponentText numeral.exponent = _
  rw [unsigned, List.append_assoc, List.append_assoc]

end Numeral

namespace Json.Token

open Numeral

/-- What follows a numeral does not continue it. -/
def Apart (rest : List Char) : Prop :=
  ∀ next ∈ rest.head?, next.isDigit = false ∧ next ≠ '.' ∧ next ≠ 'e' ∧ next ≠ 'E'

theorem digitRun_append {digits rest : List Char} (all : ∀ digit ∈ digits, digit.isDigit = true)
    (stop : ∀ next ∈ rest.head?, next.isDigit = false) :
    digitRun (digits ++ rest) = (digits, rest) := by
  have taken : rest.takeWhile Char.isDigit = [] := by
    cases rest with
    | nil => rfl
    | cons next rest => simp [stop next rfl]
  have dropped : rest.dropWhile Char.isDigit = rest := by
    cases rest with
    | nil => rfl
    | cons next rest => simp [stop next rfl]
  rw [digitRun, List.takeWhile_append_of_pos all, List.dropWhile_append_of_pos all, taken, dropped,
    List.append_nil]

theorem exponentText_stop (exponent : Option (ExponentSign × List Char)) {rest : List Char}
    (apart : Apart rest) : ∀ next ∈ (exponentText exponent ++ rest).head?,
      next.isDigit = false ∧ next ≠ '.' := by
  intro next first
  cases exponent with
  | none => exact ⟨(apart next first).1, (apart next first).2.1⟩
  | some pair =>
    obtain rfl : 'e' = next := Option.some.inj first
    decide

theorem fractionText_stop (fraction : List Char) {rest : List Char}
    (stop : ∀ next ∈ rest.head?, next.isDigit = false) :
    ∀ next ∈ (fractionText fraction ++ rest).head?, next.isDigit = false := by
  intro next first
  unfold fractionText at first
  split at first
  · exact stop next first
  · obtain rfl : '.' = next := Option.some.inj first
    decide

theorem scanExponent_digits (numeral : Numeral) (sign : ExponentSign) {digits rest : List Char}
    (all : ∀ digit ∈ digits, digit.isDigit = true) (nonempty : digits ≠ []) (apart : Apart rest) :
    scanExponent numeral sign (digits ++ rest) =
      (.number { numeral with exponent := some (sign, digits) }, rest) := by
  rw [scanExponent, digitRun_append all fun next first => (apart next first).1]
  cases digits with
  | nil => exact absurd rfl nonempty
  | cons digit digits => rfl

theorem scanExponentMark_digit (numeral : Numeral) {digit : Char} (isDigit : digit.isDigit = true)
    (rest : List Char) :
    scanExponentMark numeral ('e' :: digit :: rest) =
      scanExponent numeral .none (digit :: rest) := by
  unfold scanExponentMark
  split <;> simp_all

theorem scanExponentMark_text (negative : Bool) (whole fraction : List Char)
    {exponent : Option (ExponentSign × List Char)}
    (all : ∀ sign digits, exponent = some (sign, digits) → ∀ digit ∈ digits, digit.isDigit = true)
    (power : ∀ sign, exponent ≠ some (sign, [])) {rest : List Char} (apart : Apart rest) :
    scanExponentMark ⟨negative, whole, fraction, none⟩ (exponentText exponent ++ rest) =
      (.number ⟨negative, whole, fraction, exponent⟩, rest) := by
  cases exponent with
  | none =>
    unfold scanExponentMark exponentText
    cases rest with
    | nil => rfl
    | cons next rest =>
      obtain ⟨-, -, lower, upper⟩ := apart next rfl
      split <;> simp_all
  | some pair =>
    obtain ⟨sign, digits⟩ := pair
    have nonempty : digits ≠ [] := fun none => power sign (none ▸ rfl)
    have scanned := fun sign => scanExponent_digits ⟨negative, whole, fraction, none⟩ sign
      (all _ _ rfl) nonempty apart
    cases sign with
    | plus => exact scanned .plus
    | minus => exact scanned .minus
    | none =>
      obtain ⟨digit, more, rfl⟩ := List.exists_cons_of_ne_nil nonempty
      exact (scanExponentMark_digit _ (all _ _ rfl digit List.mem_cons_self) _).trans
        (scanned .none)

theorem scanFraction_text (negative : Bool) (whole : List Char) {fraction : List Char}
    (all : ∀ digit ∈ fraction, digit.isDigit = true) {rest : List Char}
    (stop : ∀ next ∈ rest.head?, next.isDigit = false ∧ next ≠ '.') :
    scanFraction ⟨negative, whole, [], none⟩ (fractionText fraction ++ rest) =
      scanExponentMark ⟨negative, whole, fraction, none⟩ rest := by
  cases fraction with
  | nil =>
    unfold scanFraction fractionText
    cases rest with
    | nil => rfl
    | cons next rest =>
      have other := (stop next rfl).2
      split <;> simp_all
  | cons digit digits =>
    change scanFraction _ ('.' :: (digit :: digits ++ rest)) = _
    rw [scanFraction, digitRun_append all fun next first => (stop next first).1]

theorem scanNumeral_whole (negative : Bool) {whole rest : List Char}
    (all : ∀ digit ∈ whole, digit.isDigit = true) (begun : whole ≠ [])
    (leading : ∀ more, whole = '0' :: more → more = [])
    (stop : ∀ next ∈ rest.head?, next.isDigit = false) :
    scanNumeral negative (whole ++ rest) = scanFraction ⟨negative, whole, [], none⟩ rest := by
  rw [scanNumeral, digitRun_append all stop]
  split
  · simp_all
  · simp_all
  · rename_i equal
    cases leading _ (Prod.mk.inj equal).1
  · rename_i equal
    obtain ⟨rfl, rfl⟩ := Prod.mk.inj equal
    rfl

theorem scanNumeral_unsigned {numeral : Numeral} (written : numeral.IsWritten) {rest : List Char}
    (apart : Apart rest) :
    scanNumeral numeral.negative (numeral.unsigned ++ rest) = (.number numeral, rest) := by
  have stop := exponentText_stop numeral.exponent apart
  rw [unsigned, List.append_assoc, List.append_assoc,
    scanNumeral_whole _ written.whole written.begun written.leading
      (fractionText_stop _ fun next first => (stop next first).1),
    scanFraction_text _ _ written.fraction stop,
    scanExponentMark_text _ _ _ written.exponent written.power apart]

theorem scanToken_digit {digit : Char} (isDigit : digit.isDigit = true) (rest : List Char) :
    scanToken digit rest = scanNumeral false (digit :: rest) := by
  unfold scanToken
  split
  case h_12 => exact if_pos isDigit
  all_goals cases isDigit

theorem scan_cons {first : Char} (solid : isBlank first = false) (rest : List Char) :
    scan (first :: rest) = (scanToken first rest).1 :: scan (scanToken first rest).2 := by
  rw [scan, solid]
  rfl

theorem isBlank_digit {digit : Char} (isDigit : digit.isDigit = true) : isBlank digit = false := by
  refine Bool.eq_false_iff.mpr fun blank => ?_
  simp only [isBlank, Bool.or_eq_true, decide_eq_true_eq] at blank
  rcases blank with ((rfl | rfl) | rfl) | rfl <;> cases isDigit

/-- What starts with the whole part of a numeral is scanned as a numeral. -/
theorem scan_whole {numeral : Numeral} (written : numeral.IsWritten) (rest : List Char) :
    scan ((if numeral.negative then ['-'] else []) ++ (numeral.whole ++ rest)) =
      (scanNumeral numeral.negative (numeral.whole ++ rest)).1 ::
        scan (scanNumeral numeral.negative (numeral.whole ++ rest)).2 := by
  obtain ⟨digit, more, whole⟩ := List.exists_cons_of_ne_nil written.begun
  have isDigit := written.whole digit (whole ▸ List.mem_cons_self)
  rw [whole, List.cons_append]
  cases numeral.negative with
  | true => exact scan_cons rfl _
  | false => exact (scan_cons (isBlank_digit isDigit) _).trans (by rw [scanToken_digit isDigit])

theorem scan_numeral {numeral : Numeral} (written : numeral.IsWritten) {rest : List Char}
    (apart : Apart rest) : scan (numeral.text ++ rest) = .number numeral :: scan rest := by
  have scanned := scanNumeral_unsigned written apart
  rw [unsigned, List.append_assoc] at scanned
  rw [text_eq, unsigned, List.append_assoc, List.append_assoc, scan_whole written, scanned]

theorem scanExponentMark_capital (numeral : Numeral) (rest : List Char) :
    scanExponentMark numeral ('E' :: rest) = scanExponentMark numeral ('e' :: rest) := by
  unfold scanExponentMark
  split <;> simp_all

theorem scan_capital {numeral : Numeral} (written : numeral.IsWritten) {sign : ExponentSign}
    {digits : List Char} (exponent : numeral.exponent = some (sign, digits)) {rest : List Char}
    (apart : Apart rest) :
    scan ({ numeral with exponent := none }.text ++ 'E' :: (signText sign ++ digits) ++ rest) =
      .number numeral :: scan rest := by
  have marked : ∀ next ∈ ('E' :: (signText sign ++ digits ++ rest)).head?,
      next.isDigit = false ∧ next ≠ '.' := by
    intro next first
    obtain rfl : 'E' = next := Option.some.inj first
    decide
  have scanned : scanNumeral numeral.negative (numeral.whole ++
      (fractionText numeral.fraction ++ 'E' :: (signText sign ++ digits ++ rest))) =
        (.number numeral, rest) := by
    have read := scanExponentMark_text numeral.negative numeral.whole numeral.fraction
      written.exponent written.power apart
    rw [exponent] at read
    rw [scanNumeral_whole _ written.whole written.begun written.leading
        (fractionText_stop _ fun next first => (marked next first).1),
      scanFraction_text _ _ written.fraction marked, scanExponentMark_capital]
    refine read.trans ?_
    rw [← exponent]
  have spelled : { numeral with exponent := none }.text ++ 'E' :: (signText sign ++ digits) ++
      rest = (if numeral.negative then ['-'] else []) ++ (numeral.whole ++
        (fractionText numeral.fraction ++ 'E' :: (signText sign ++ digits ++ rest))) := by
    simp [text_eq, unsigned, exponentText]
  rw [spelled, scan_whole written, scanned]

theorem unsigned_head {numeral : Numeral} (digital : numeral.IsDigital) :
    ∀ first ∈ numeral.unsigned.head?, first.isDigit = true ∨ first = '.' ∨ first = 'e' := by
  intro first head
  unfold unsigned at head
  cases whole : numeral.whole with
  | cons digit more =>
    rw [whole] at head
    obtain rfl : digit = first := Option.some.inj head
    exact .inl (digital.whole digit (whole ▸ List.mem_cons_self))
  | nil =>
    cases fraction : numeral.fraction with
    | cons digit more =>
      rw [whole, fraction] at head
      exact .inr (.inl (Option.some.inj head).symm)
    | nil =>
      rw [whole, fraction] at head
      cases exponent : numeral.exponent with
      | none =>
        rw [exponent] at head
        cases head
      | some pair =>
        rw [exponent] at head
        exact .inr (.inr (Option.some.inj head).symm)

/-- What starts like a numeral is scanned as one, be it only to find that it is none. -/
theorem scanToken_unsigned {first : Char}
    (starts : first.isDigit = true ∨ first = '.' ∨ first = 'e') (rest : List Char) :
    isBlank first = false ∧ scanToken first rest = scanNumeral false (first :: rest) := by
  rcases starts with isDigit | rfl | rfl
  · exact ⟨isBlank_digit isDigit, scanToken_digit isDigit rest⟩
  · exact ⟨rfl, rfl⟩
  · exact ⟨rfl, rfl⟩

/-- The text of a numeral is scanned as a number is, whether or not it has the digits of one. -/
theorem scan_text {numeral : Numeral} (digital : numeral.IsDigital) {token : Token}
    {rest : List Token} (scanned : scan numeral.text = token :: rest) :
    token = (scanNumeral numeral.negative numeral.unsigned).1 ∧
      rest = scan (scanNumeral numeral.negative numeral.unsigned).2 := by
  rw [text_eq] at scanned
  cases negative : numeral.negative with
  | true =>
    rw [negative] at scanned
    change scan ('-' :: numeral.unsigned) = _ at scanned
    rw [scan_cons rfl] at scanned
    obtain ⟨first, others⟩ := List.cons.inj scanned
    exact ⟨first.symm, others.symm⟩
  | false =>
    simp only [negative, Bool.false_eq_true, ↓reduceIte, List.nil_append] at scanned
    cases begins : numeral.unsigned with
    | nil =>
      rw [begins, scan] at scanned
      cases scanned
    | cons first more =>
      have starts := unsigned_head digital first (begins ▸ rfl)
      obtain ⟨solid, alike⟩ := scanToken_unsigned starts more
      rw [begins, scan_cons solid, alike] at scanned
      obtain ⟨head, others⟩ := List.cons.inj scanned
      exact ⟨head.symm, others.symm⟩

/-- A number, or what is left of one that cannot be read. -/
def IsNumeric : Token → Prop
  | number _ => True
  | broken _ _ _ => True
  | _ => False

theorem scanExponent_isNumeric (numeral : Numeral) (sign : ExponentSign) (rest : List Char) :
    (scanExponent numeral sign rest).1.IsNumeric := by
  unfold scanExponent
  split <;> trivial

theorem scanExponentMark_isNumeric (numeral : Numeral) (rest : List Char) :
    (scanExponentMark numeral rest).1.IsNumeric := by
  unfold scanExponentMark
  split <;> first | exact scanExponent_isNumeric _ _ _ | trivial

theorem scanFraction_isNumeric (numeral : Numeral) (rest : List Char) :
    (scanFraction numeral rest).1.IsNumeric := by
  unfold scanFraction
  split
  · split <;> first | exact scanExponentMark_isNumeric _ _ | trivial
  · exact scanExponentMark_isNumeric _ _

theorem scanNumeral_isNumeric (negative : Bool) (characters : List Char) :
    (scanNumeral negative characters).1.IsNumeric := by
  unfold scanNumeral
  split <;> first | exact scanFraction_isNumeric _ _ | trivial

/-- Digits that are scanned as some number are those of a numeral as JSON has it. -/
theorem isWritten_of_scan {numeral : Numeral} (digital : numeral.IsDigital) {token : Numeral}
    (scanned : scan numeral.text = [.number token]) : numeral.IsWritten := by
  have nothing : Apart [] := by simp [Apart]
  have stop : ∀ next ∈ (exponentText numeral.exponent).head?,
      next.isDigit = false ∧ next ≠ '.' := by
    simpa using exponentText_stop numeral.exponent nothing
  have stops := fractionText_stop numeral.fraction fun next first => (stop next first).1
  have number := (scan_text digital scanned).1.symm
  have begun : numeral.whole ≠ [] := by
    intro whole
    have run : digitRun (fractionText numeral.fraction ++ exponentText numeral.exponent) =
        ([], fractionText numeral.fraction ++ exponentText numeral.exponent) :=
      @digitRun_append [] _ (by simp) stops
    rw [unsigned, whole, List.nil_append, scanNumeral, run] at number
    cases begins : fractionText numeral.fraction ++ exponentText numeral.exponent with
    | nil =>
      rw [begins] at number
      cases number
    | cons first rest =>
      rw [begins] at number
      cases number
  have leading : ∀ rest, numeral.whole = '0' :: rest → rest = [] := by
    intro rest whole
    cases rest with
    | nil => rfl
    | cons digit rest =>
      rw [unsigned, scanNumeral, digitRun_append digital.whole stops, whole] at number
      cases number
  refine ⟨digital, begun, leading, fun sign exponent => ?_⟩
  rw [unsigned, scanNumeral_whole _ digital.whole begun leading stops,
    scanFraction_text _ _ digital.fraction stop, exponent] at number
  cases sign <;> cases number

/-- Text made of digits that reads as some numeral reads as the one that it was made from. -/
theorem eq_of_scan {numeral : Numeral} (digital : numeral.IsDigital) {token : Numeral}
    (scanned : scan numeral.text = [.number token]) : token = numeral := by
  have nothing : Apart [] := by simp [Apart]
  have itself := scan_numeral (isWritten_of_scan digital scanned) nothing
  rw [List.append_nil, scanned, List.cons.injEq] at itself
  exact Token.number.inj itself.1

end Json.Token

theorem Numeral.toDigits_leading (count : Nat) :
    ∀ rest, Nat.toDigits 10 count = '0' :: rest → rest = [] := by
  induction count using Nat.strongRecOn with
  | ind count ih =>
    intro rest digits
    by_cases small : count < 10
    · rw [Nat.toDigits_of_lt_base small] at digits
      exact (List.cons.inj digits).2.symm
    · have large : 10 ≤ count := Nat.not_lt.mp small
      rw [Nat.toDigits_of_base_le (by decide) large] at digits
      cases front : Nat.toDigits 10 (count / 10) with
      | nil => exact absurd front Nat.toDigits_ne_nil
      | cons digit more =>
        rw [front] at digits
        obtain rfl : digit = '0' := (List.cons.inj digits).1
        rw [ih (count / 10) (by omega) more front] at front
        have value : Nat.ofDigitChars 10 ['0'] 0 = count / 10 := by
          rw [← front, Nat.ofDigitChars_ten_toDigits]
        have zero : count / 10 = 0 := value.symm
        omega

theorem Numeral.ofInt_isWritten (integer : Int) : (Numeral.ofInt integer).IsWritten where
  whole := fun _ member => Nat.isDigit_of_mem_toDigits (by decide) (by decide) member
  fraction := by simp [ofInt]
  exponent := by simp [ofInt]
  begun := Nat.toDigits_ne_nil
  leading := toDigits_leading _
  power := by simp [ofInt]

namespace Number

theorem ofScaled_digits (count : Nat) (power : Int) :
    ∀ digit ∈ (Decimal.ofScaled count power).digits, digit.isDigit = true := by
  intro digit member
  have kept := (List.dropWhile_sublist _).subset (List.mem_reverse.mp member)
  exact Nat.isDigit_of_mem_toDigits (by decide) (by decide) (List.mem_reverse.mp kept)

theorem shortest_digits (tie : Tie) (number : Number) :
    ∀ digit ∈ (number.shortest tie).digits, digit.isDigit = true := by
  unfold shortest
  dsimp only
  cases found : (List.range 17).findSome? fun (count : Nat) =>
      (number.gridDecimal? tie (number.decimalPoint - (count : Int) - 1)).map
        fun digits => Decimal.ofScaled digits (number.decimalPoint - (count : Int) - 1) with
  | none => simp
  | some decimal =>
    obtain ⟨count, _, grid⟩ := List.exists_of_findSome?_eq_some found
    obtain ⟨digits, _, rfl⟩ := Option.map_eq_some_iff.mp grid
    exact ofScaled_digits digits _

theorem pointText_digits (layout : Layout) :
    ∀ digit ∈ layout.pointText, digit.isDigit = true := by
  unfold Layout.pointText
  split <;> simp

theorem zeros_digits (count : Nat) : ∀ digit ∈ List.replicate count '0', digit.isDigit = true := by
  intro digit member
  rw [List.eq_of_mem_replicate member]
  rfl

theorem positionalNumeral_isDigital (layout : Layout) (negative : Bool) {decimal : Decimal}
    (digits : ∀ digit ∈ decimal.digits, digit.isDigit = true) :
    (layout.positionalNumeral negative decimal).IsDigital := by
  unfold Layout.positionalNumeral
  dsimp only
  split
  · exact ⟨by simp, List.forall_mem_append.mpr ⟨zeros_digits _, digits⟩, by simp⟩
  · split
    · exact ⟨fun digit member => digits digit (List.mem_of_mem_take member),
        fun digit member => digits digit (List.mem_of_mem_drop member), by simp⟩
    · exact ⟨List.forall_mem_append.mpr ⟨digits, zeros_digits _⟩, pointText_digits layout, by simp⟩

theorem scientificNumeral_isDigital (layout : Layout) (negative : Bool) {decimal : Decimal}
    (digits : ∀ digit ∈ decimal.digits, digit.isDigit = true) :
    (layout.scientificNumeral negative decimal).IsDigital where
  whole := fun digit member => digits digit (List.mem_of_mem_take member)
  fraction := fun digit member => digits digit (List.mem_of_mem_drop member)
  exponent := by
    intro sign digits equal digit member
    obtain ⟨-, rfl⟩ := Prod.mk.inj (Option.some.inj equal)
    exact Nat.isDigit_of_mem_toDigits (by decide) (by decide) member

theorem numeral_isDigital (layout : Layout) (number : Number) :
    (number.numeral layout).IsDigital := by
  have digits := shortest_digits layout.tie number
  unfold numeral
  dsimp only
  split
  · exact ⟨by simp, pointText_digits layout, by simp⟩
  · split
    · exact positionalNumeral_isDigital layout number.negative digits
    · exact scientificNumeral_isDigital layout number.negative digits

end Number

end Chaining
