import NetLagLab.NetworkProfile

/-! The standard library's conversions between `double` and decimal text. They are a parameter of the
model: the program relies only on their documented behaviour, which the laws of the class state. -/

namespace NetLagLab

open ByteLines

inductive CharsFormat where
  | fixed
  | general
  deriving DecidableEq

/-- What `std::from_chars` reports: the value and the characters it did not consume, or its error. -/
inductive FromChars where
  | parsed (value : Double) (rest : Bytes)
  | invalidArgument
  | resultOutOfRange
  deriving DecidableEq

/-- The byte of `.`. -/
def decimalPoint : UInt8 := 46

/-- A character of the numerals `std::to_chars` writes in the general format. -/
def isNumeralByte (byte : UInt8) : Bool :=
  isDigit byte || decide (byte ∈ ascii ".e+-")

/-- The decimal numeral of an integer part and a fraction, without a point when it has no
fraction. -/
def decimalNumeral (integerPart fraction : Bytes) : Bytes :=
  if fraction = [] then integerPart else integerPart ++ decimalPoint :: fraction

class DecimalText where
  /-- `std::to_chars` with `std::chars_format::general` and `max_digits10`. -/
  toChars : Double → Bytes
  fromChars : CharsFormat → Bytes → FromChars
  /-- `std::ostream << double` with the default precision. -/
  streamText : Double → Bytes
  toChars_ne_nil : ∀ value, toChars value ≠ []
  isNumeralByte_of_mem_toChars : ∀ value, value.IsPercentage →
    ∀ byte ∈ toChars value, isNumeralByte byte = true
  length_toChars : ∀ value, value.IsPercentage → (toChars value).length ≤ 64
  /-- `max_digits10` digits determine the value. -/
  fromChars_toChars : ∀ value, value.IsPercentage →
    fromChars .general (toChars value) = .parsed value []
  /-- Text without a sign denotes no negative value. -/
  signBit_of_fromChars : ∀ format text value rest, text.head? ≠ some 45 →
    fromChars format text = .parsed value rest → value.signBit = false
  /-- The nearest value to a number of at most 100 is at most 100. -/
  exceedsHundred_of_fromChars : ∀ integerPart fraction value rest,
    integerPart.all isDigit = true → fraction.all isDigit = true →
    decimalValue (integerPart ++ fraction) ≤ 100 * 10 ^ fraction.length →
    fromChars .fixed (decimalNumeral integerPart fraction) = .parsed value rest →
    value.exceedsHundred = false

/-- Conversions that meet the laws: a value is written as its bit pattern, so zero is written `0`, and
no numeral with a fraction is read. -/
@[reducible] def bitPatternText : DecimalText where
  toChars value := decimalText value.bits.toNat
  fromChars format text :=
    let value : Double := ⟨BitVec.ofNat 64 (decimalValue text)⟩
    if format = .general ∧ value.IsPercentage then .parsed value [] else .invalidArgument
  streamText value := decimalText value.bits.toNat
  toChars_ne_nil value := decimalText_ne_nil _
  isNumeralByte_of_mem_toChars value _ byte hbyte := by
    rw [isNumeralByte, isDigit_of_mem_decimalText hbyte]
    rfl
  length_toChars value _ :=
    (length_decimalText (by decide) (value.bits.isLt.trans (by decide : 2 ^ 64 < 10 ^ 20))).trans
      (by decide)
  fromChars_toChars value hvalue := by
    simp [decimalValue_decimalText, hvalue]
  signBit_of_fromChars format text value rest _ hparse := by
    dsimp only at hparse
    split at hparse
    · rename_i hgeneral
      cases hparse
      exact hgeneral.2.2.1
    · cases hparse
  exceedsHundred_of_fromChars integerPart fraction value rest _ _ _ hparse := by
    rw [if_neg fun hfixed => by cases hfixed.1] at hparse
    cases hparse

end NetLagLab
