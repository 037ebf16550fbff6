import NetLagLab.Binary64
import NetLagLab.ByteSearch
import NetLagLab.ControllerCommands

/-! The value of a loss numeral: the check against 100 on the text decides the mathematical comparison, and what is in
range is read as the nearest double. -/

namespace NetLagLab

open ByteLines

/-- A decimal numeral: digits, then optionally a point and more digits. -/
structure Numeral (number integerPart fraction : Bytes) : Prop where
  text : number = decimalNumeral integerPart fraction
  nonempty : integerPart ≠ []
  integerDigits : integerPart.all isDigit = true
  fractionDigits : fraction.all isDigit = true

/-- The double nearest to the value of a numeral. -/
def nearestDouble (integerPart fraction : Bytes) : Double :=
  ⟨BitVec.ofNat 64 (Binary64.roundRatio (decimalValue (integerPart ++ fraction)) (10 ^ fraction.length))⟩

example : nearestDouble (ascii "0025") (ascii "5") = ⟨0x4039800000000000⟩ := by decide +kernel

/-- A numeral is at most 100. -/
def AtMostHundred (integerPart fraction : Bytes) : Prop :=
  decimalValue (integerPart ++ fraction) ≤ 100 * 10 ^ fraction.length

/-- A numeral that is not zero is nearest to zero. -/
def Vanishes (integerPart fraction : Bytes) : Prop :=
  decimalValue (integerPart ++ fraction) ≠ 0 ∧ (nearestDouble integerPart fraction).isZero = true

instance atMostHundredDecidable (integerPart fraction : Bytes) : Decidable (AtMostHundred integerPart fraction) :=
  inferInstanceAs (Decidable (_ ≤ _))

instance vanishesDecidable (integerPart fraction : Bytes) : Decidable (Vanishes integerPart fraction) :=
  inferInstanceAs (Decidable (_ ∧ _))

/-- `std::from_chars` rounds correctly. It may report a numeral that vanishes as out of range, because no double but
zero is near it. -/
structure RoundsCorrectly [DecimalText] : Prop where
  represented : ∀ number integerPart fraction, Numeral number integerPart fraction →
    AtMostHundred integerPart fraction → ¬Vanishes integerPart fraction →
    DecimalText.fromChars .fixed number = .parsed (nearestDouble integerPart fraction) []
  vanishing : ∀ number integerPart fraction, Numeral number integerPart fraction →
    AtMostHundred integerPart fraction → Vanishes integerPart fraction →
    DecimalText.fromChars .fixed number = .parsed (nearestDouble integerPart fraction) [] ∨
      DecimalText.fromChars .fixed number = .resultOutOfRange

/-! ### The text of a numeral -/

section Text

variable {number integerPart fraction : Bytes}

theorem takeWhile_decimalNumeral (hdigits : integerPart.all isDigit = true) (fraction : Bytes) :
    (decimalNumeral integerPart fraction).takeWhile (fun byte => decide (byte ≠ decimalPoint)) = integerPart := by
  have hpoint : ∀ byte ∈ integerPart, decide (byte ≠ decimalPoint) = true := by
    intro byte hbyte
    rw [decide_eq_true_eq]
    rintro rfl
    exact absurd (List.all_eq_true.mp hdigits _ hbyte) (by decide)
  rw [decimalNumeral]
  split
  · exact List.takeWhile_eq_self_iff.mpr hpoint
  · rw [List.takeWhile_append_of_pos hpoint, List.takeWhile_cons_of_neg (by decide), List.append_nil]

theorem drop_decimalNumeral (integerPart : Bytes) {fraction : Bytes} (hne : fraction ≠ []) :
    (decimalNumeral integerPart fraction).drop integerPart.length = decimalPoint :: fraction := by
  rw [decimalNumeral, if_neg hne, List.drop_left]

/-- What is left behind the point. -/
theorem drop_point_decimalNumeral (integerPart fraction : Bytes) :
    (decimalNumeral integerPart fraction).drop (integerPart.length + 1) = fraction := by
  rw [← List.drop_drop]
  by_cases hnil : fraction = []
  · rw [hnil, decimalNumeral, if_pos rfl, List.drop_length]
    rfl
  · rw [drop_decimalNumeral integerPart hnil, List.drop_one, List.tail_cons]

theorem Numeral.takeWhile (h : Numeral number integerPart fraction) :
    number.takeWhile (fun byte => decide (byte ≠ decimalPoint)) = integerPart := by
  rw [h.text]
  exact takeWhile_decimalNumeral h.integerDigits fraction

theorem isLossDecimal_of_numeral (h : Numeral number integerPart fraction) : isLossDecimal number = true := by
  rw [isLossDecimal]
  simp only [h.takeWhile]
  by_cases hnil : fraction = []
  · have hnumber : number = integerPart := by rw [h.text, decimalNumeral, if_pos hnil]
    rw [hnumber, List.drop_length]
    simp [h.nonempty, h.integerDigits]
  · rw [h.text, drop_decimalNumeral integerPart hnil]
    simp [h.nonempty, h.integerDigits, hnil, h.fractionDigits]

theorem isLossDecimal_iff : isLossDecimal number = true ↔ ∃ integerPart fraction, Numeral number integerPart fraction := by
  constructor
  · intro h
    obtain ⟨integerPart, fraction, htext, hne, hinteger, hfraction, -⟩ := isLossDecimal_spec h
    exact ⟨integerPart, fraction, htext, hne, hinteger, hfraction⟩
  · rintro ⟨integerPart, fraction, h⟩
    exact isLossDecimal_of_numeral h

theorem isDecimalInteger_iff : isDecimalInteger number = true ↔ Numeral number number [] := by
  rw [isDecimalInteger, Bool.and_eq_true, decide_eq_true_eq]
  exact ⟨fun h => ⟨rfl, h.1, h.2, rfl⟩, fun h => ⟨h.nonempty, h.integerDigits⟩⟩

theorem decimalIsZero_append (digits more : Bytes) :
    decimalIsZero (digits ++ more) = (decimalIsZero digits && decimalIsZero more) := List.all_append

/-- The point is no digit, so the text of a numeral is zero where its digits are. -/
theorem decimalIsZero_decimalNumeral (integerPart fraction : Bytes) :
    decimalIsZero (decimalNumeral integerPart fraction) = decimalIsZero (integerPart ++ fraction) := by
  rw [decimalNumeral]
  split
  · rename_i hnil
    rw [hnil, List.append_nil]
  · rw [decimalIsZero_append, decimalIsZero_append]
    rfl

theorem decimalIsZero_iff {digits : Bytes} (hdigits : digits.all isDigit = true) :
    decimalIsZero digits = true ↔ decimalValue digits = 0 := by
  refine ⟨decimalValue_eq_zero_of_isZero hdigits, fun hzero => ?_⟩
  by_contra hpositive
  rw [Bool.not_eq_true] at hpositive
  exact (decimalValue_pos_of_not_isZero hdigits hpositive).ne' hzero

theorem Numeral.decimalIsZero_iff (h : Numeral number integerPart fraction) :
    decimalIsZero number = true ↔ decimalValue (integerPart ++ fraction) = 0 := by
  rw [h.text, decimalIsZero_decimalNumeral]
  exact NetLagLab.decimalIsZero_iff (by rw [List.all_append, h.integerDigits, h.fractionDigits]; rfl)

/-- More than three digits without a leading zero. -/
theorem decimalValue_significant_ge {significant : Bytes} (hhead : ∀ byte ∈ significant.head?, byte ≠ 48)
    (hdigits : significant.all isDigit = true) (hlength : 3 < significant.length) : 1000 ≤ decimalValue significant := by
  cases significant with
  | nil => exact absurd hlength (by decide)
  | cons digit digits =>
      rw [List.all_cons, Bool.and_eq_true] at hdigits
      have hrange := hdigits.1
      have hnonzero := hhead digit rfl
      rw [ne_eq, ← UInt8.toNat_inj] at hnonzero
      simp only [isDigit, decide_eq_true_eq, UInt8.le_iff_toNat_le] at hrange
      have h48 : (48 : UInt8).toNat = 48 := rfl
      rw [List.length_cons] at hlength
      rw [decimalValue_cons]
      calc 1000 = 1 * 10 ^ 3 := rfl
        _ ≤ (digit.toNat - 48) * 10 ^ digits.length :=
            Nat.mul_le_mul (by omega) (Nat.pow_le_pow_right (by decide) (by omega))
        _ ≤ (digit.toNat - 48) * 10 ^ digits.length + decimalValue digits := Nat.le_add_right _ _

/-- The check of the text decides the comparison with 100, whatever the number of digits. -/
theorem Numeral.lossIsOutOfRange_iff (h : Numeral number integerPart fraction) :
    lossIsOutOfRange number = true ↔ ¬AtMostHundred integerPart fraction := by
  constructor
  · intro hrange hle
    have hsplit : decimalValue (integerPart ++ fraction) =
        decimalValue integerPart * 10 ^ fraction.length + decimalValue fraction := decimalValue_append _ _
    have hinteger : decimalValue integerPart ≤ 100 := by
      have hpower : 0 < 10 ^ fraction.length := Nat.pow_pos (by decide)
      refine Nat.le_of_mul_le_mul_right ?_ hpower
      unfold AtMostHundred at hle
      omega
    rw [lossIsOutOfRange] at hrange
    simp only [h.takeWhile] at hrange
    by_cases hnil : (integerPart.dropWhile fun byte => decide (byte = 48)) = []
    · rw [if_pos hnil, if_neg (by decide), if_pos (.inl (by decide))] at hrange
      exact absurd hrange (by decide)
    have hvalue := decimalValue_dropWhile_zero integerPart
    have hdigits : (integerPart.dropWhile fun byte => decide (byte = 48)).all isDigit = true :=
      List.all_eq_true.mpr fun byte hbyte =>
        List.all_eq_true.mp h.integerDigits byte (List.dropWhile_subset _ hbyte)
    have hhead : ∀ byte ∈ (integerPart.dropWhile fun byte => decide (byte = 48)).head?, byte ≠ 48 := by
      intro byte hbyte
      have hkept := List.head?_dropWhile_not (fun byte => decide (byte = 48)) integerPart
      rw [Option.mem_def.mp hbyte] at hkept
      simpa using hkept
    rw [if_neg hnil] at hrange
    revert hrange hvalue hdigits hhead
    generalize (integerPart.dropWhile fun byte => decide (byte = 48)) = significant
    intro hrange hvalue hdigits hhead
    split at hrange
    · rename_i hlarge
      rcases hlarge with hlength | ⟨-, hlarge⟩
      · have hthousand := decimalValue_significant_ge hhead hdigits hlength
        omega
      · omega
    · split at hrange
      · cases hrange
      · -- exactly 100 before the point, and a digit behind it
        rename_i hpoint
        rw [not_or, not_not] at hpoint
        obtain ⟨hhundred, hmore⟩ := hpoint
        have hequal : decimalValue integerPart = 100 := by
          rw [← hvalue, hhundred]
          decide
        by_cases hempty : fraction = []
        · rw [h.text, hempty, decimalNumeral, if_pos rfl, List.drop_length] at hmore
          exact hmore rfl
        · rw [h.text, ← List.drop_drop, drop_decimalNumeral integerPart hempty, List.drop_one, List.tail_cons,
            Bool.not_eq_true'] at hrange
          have hfraction := decimalValue_pos_of_not_isZero h.fractionDigits hrange
          unfold AtMostHundred at hle
          rw [hsplit, hequal] at hle
          omega
  · intro hlarge
    by_contra hrange
    rw [Bool.not_eq_true] at hrange
    apply hlarge
    refine decimalValue_le_of_lossIsOutOfRange h.integerDigits h.fractionDigits
      (takeWhile_decimalNumeral h.integerDigits fraction) ?_
    rw [← h.text]
    exact hrange

end Text

/-! ### Values -/

section Values

variable {number integerPart fraction : Bytes}

theorem parseScaledUnsigned_eq {scale maximum : Nat} (hnumber : Numeral number number []) (hscale : 0 < scale)
    (hmaximum : maximum < 2 ^ 64) : parseScaledUnsigned number scale maximum =
      if maximum < decimalValue number * scale then .error .valueOverflow else .ok (decimalValue number * scale) := by
  have hdigits : ¬(number = [] ∨ number.all isDigit = false) := by
    rw [not_or, Bool.not_eq_false]
    exact ⟨hnumber.nonempty, hnumber.integerDigits⟩
  have hquotient : maximum / scale < decimalValue number ↔ maximum < decimalValue number * scale :=
    Nat.div_lt_iff_lt_mul hscale
  rw [parseScaledUnsigned, if_neg hdigits]
  by_cases hwide : 2 ^ 64 ≤ decimalValue number
  · -- a number that no unsigned integer holds is above every maximum
    have hgrown := Nat.le_mul_of_pos_right (decimalValue number) hscale
    rw [if_pos hwide, if_pos (by omega)]
  · rw [if_neg hwide]
    simp only [hquotient]

theorem nearestDouble_le_hundred (h : AtMostHundred integerPart fraction) :
    (nearestDouble integerPart fraction).bits.toNat ≤ 0x4059000000000000 := by
  rw [nearestDouble, BitVec.toNat_ofNat]
  refine (Nat.mod_le _ _).trans (Binary64.roundRatio_le (Nat.pow_pos (by decide)) ?_)
  have hhundred : Binary64.significand 0x4059000000000000 * 2 ^ Binary64.scale 0x4059000000000000 =
      100 * Binary64.unitsInOne := by
    decide +kernel
  rw [hhundred]
  calc decimalValue (integerPart ++ fraction) * Binary64.unitsInOne
      ≤ 100 * 10 ^ fraction.length * Binary64.unitsInOne := Nat.mul_le_mul_right _ h
    _ = 100 * Binary64.unitsInOne * 10 ^ fraction.length := Nat.mul_right_comm _ _ _

/-- What is nearest to a percentage is one. -/
theorem isPercentage_nearestDouble (h : AtMostHundred integerPart fraction) :
    (nearestDouble integerPart fraction).IsPercentage :=
  Double.isPercentage_of_toNat_le (nearestDouble_le_hundred h)

section

variable [DecimalText]

/-- What is above 100 is out of range, what vanishes underflows, and everything else is rounded. -/
theorem parseLoss_eq (hrounds : RoundsCorrectly) (hnumber : Numeral number integerPart fraction) :
    parseLoss number =
      if ¬AtMostHundred integerPart fraction then .error .valueOutOfRange
      else if Vanishes integerPart fraction then .error .valueUnderflow
      else .ok (nearestDouble integerPart fraction) := by
  rw [parseLoss]
  by_cases hrange : AtMostHundred integerPart fraction
  · have hwithin : ¬lossIsOutOfRange number = true := fun h => hnumber.lossIsOutOfRange_iff.mp h hrange
    rw [if_neg hwithin, if_neg (not_not.mpr hrange)]
    by_cases hvanishes : Vanishes integerPart fraction
    · have hnonzero : decimalIsZero number = false := by
        rw [← Bool.not_eq_true]
        exact fun hzero => hvanishes.1 (hnumber.decimalIsZero_iff.mp hzero)
      rw [if_pos hvanishes]
      rcases hrounds.vanishing number integerPart fraction hnumber hrange hvanishes with hparsed | hreported
      · rw [hparsed]
        simp [hvanishes.2, hnonzero]
      · rw [hreported]
    · have hkept : ((nearestDouble integerPart fraction).isZero && !decimalIsZero number) = false := by
        rw [Bool.and_eq_false_iff, Bool.not_eq_false', hnumber.decimalIsZero_iff, ← Bool.not_eq_true]
        rw [Vanishes, not_and_or, not_not] at hvanishes
        exact hvanishes.symm
      rw [if_neg hvanishes, hrounds.represented number integerPart fraction hnumber hrange hvanishes]
      simp [hkept, (isPercentage_nearestDouble hrange).1]
  · rw [if_pos (hnumber.lossIsOutOfRange_iff.mpr hrange), if_pos hrange]

end

end Values

/-! ### A reading that rounds correctly -/

theorem signBit_nearestDouble (integerPart fraction : Bytes) : (nearestDouble integerPart fraction).signBit = false := by
  have hpattern : (nearestDouble integerPart fraction).bits.toNat ≤ Binary64.infinity := by
    rw [nearestDouble, BitVec.toNat_ofNat]
    exact (Nat.mod_le _ _).trans (Nat.min_le_left _ _)
  have hinfinity : Binary64.infinity < 2 ^ 63 := by decide
  rw [Double.signBit, BitVec.msb_eq_false_iff_two_mul_lt]
  omega

/-- The nearest double to a numeral, where it is finite and does not vanish. -/
def roundedFromChars (format : CharsFormat) (text : Bytes) : FromChars :=
  let integerPart := text.takeWhile fun byte => decide (byte ≠ decimalPoint)
  let fraction := text.drop (integerPart.length + 1)
  if format = .general then bitPatternText.fromChars format text
  else if isLossDecimal text = false then .invalidArgument
  else if Vanishes integerPart fraction ∨ (nearestDouble integerPart fraction).isFinite = false then .resultOutOfRange
  else .parsed (nearestDouble integerPart fraction) []

/-- Conversions that read every decimal numeral as the nearest double. -/
@[reducible] def roundedText : DecimalText :=
  { bitPatternText with
    fromChars := roundedFromChars
    fromChars_toChars := fun value hvalue => by
      rw [roundedFromChars, if_pos rfl]
      exact bitPatternText.fromChars_toChars value hvalue
    signBit_of_fromChars := fun format text value rest hhead hparse => by
      unfold roundedFromChars at hparse
      dsimp only at hparse
      split at hparse
      · exact bitPatternText.signBit_of_fromChars format text value rest hhead hparse
      · split at hparse
        · exact nomatch hparse
        · split at hparse
          · exact nomatch hparse
          · injection hparse with hvalue
            rw [← hvalue]
            exact signBit_nearestDouble _ _
    exceedsHundred_of_fromChars := fun integerPart fraction value rest hinteger hfraction hle hparse => by
      unfold roundedFromChars at hparse
      dsimp only at hparse
      rw [if_neg (by decide), takeWhile_decimalNumeral hinteger, drop_point_decimalNumeral] at hparse
      split at hparse
      · exact nomatch hparse
      · split at hparse
        · exact nomatch hparse
        · injection hparse with hvalue
          rw [← hvalue]
          exact (isPercentage_nearestDouble hle).2.2 }

theorem roundedFromChars_fixed {number integerPart fraction : Bytes} (h : Numeral number integerPart fraction)
    (hrange : AtMostHundred integerPart fraction) : roundedFromChars .fixed number =
      if Vanishes integerPart fraction then .resultOutOfRange else .parsed (nearestDouble integerPart fraction) [] := by
  have hdecimal : ¬isLossDecimal number = false := by
    rw [isLossDecimal_of_numeral h]
    decide
  have hfinite := (isPercentage_nearestDouble hrange).1
  unfold roundedFromChars
  dsimp only
  rw [if_neg (by decide), if_neg hdecimal, h.takeWhile, h.text, drop_point_decimalNumeral]
  simp [hfinite]

theorem roundsCorrectly_roundedText : @RoundsCorrectly roundedText :=
  @RoundsCorrectly.mk roundedText
    (fun _ _ _ hnumber hrange hkept =>
      (roundedFromChars_fixed hnumber hrange).trans (if_neg hkept))
    (fun _ _ _ hnumber hrange hvanishes =>
      .inr ((roundedFromChars_fixed hnumber hrange).trans (if_pos hvanishes)))

end NetLagLab
