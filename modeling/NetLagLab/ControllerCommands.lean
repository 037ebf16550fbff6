import NetLagLab.HelperCommands

/-! The command language of a Controller: one line of text, read as a command, as a line to ignore
or as an error. -/

namespace NetLagLab

open ByteLines

inductive ControllerCommand where
  | help
  | status
  | profileChange (change : ProfileChange)
  | stop
  | detach
  deriving DecidableEq

inductive ControllerParseError where
  | commandTooLong
  | invalidCharacter
  | unknownCommand
  | wrongArgumentCount
  | invalidDirection
  | invalidSetting
  | invalidNumber
  | invalidUnit
  | valueOutOfRange
  | valueOverflow
  | valueUnderflow
  deriving DecidableEq

inductive ControllerParseResult where
  | command (command : ControllerCommand)
  | ignored
  | error (error : ControllerParseError)
  deriving DecidableEq

def maximumControllerCommandSize : Nat := 1024

def isTokenSeparator (byte : UInt8) : Bool := decide (byte = space) || decide (byte = 9)

/-- The maximal runs of bytes that are not separators. -/
def tokenize : Bytes → List Bytes
  | [] => []
  | byte :: rest =>
      if isTokenSeparator byte then tokenize rest
      else
        match rest with
        | [] => [[byte]]
        | next :: _ =>
            if isTokenSeparator next then [byte] :: tokenize rest
            else
              match tokenize rest with
              | [] => [[byte]]
              | token :: tokens => (byte :: token) :: tokens

namespace Controller

def parseDirection (token : Bytes) : Option TrafficDirection :=
  if token = ascii "outbound" then some .outbound
  else if token = ascii "inbound" then some .inbound
  else none

def parseSetting (token : Bytes) : Option NetworkSetting :=
  if token = ascii "delay" then some .delay
  else if token = ascii "jitter" then some .jitter
  else if token = ascii "loss" then some .packetLoss
  else if token = ascii "bandwidth" then some .bandwidth
  else none

end Controller

def isDecimalInteger (value : Bytes) : Bool := decide (value ≠ []) && value.all isDigit

def isLossDecimal (value : Bytes) : Bool :=
  let integerPart := value.takeWhile (fun byte => decide (byte ≠ decimalPoint))
  match value.drop integerPart.length with
  | [] => decide (value ≠ []) && value.all isDigit
  | _ :: digits => decide (integerPart ≠ []) && integerPart.all isDigit
      && decide (digits ≠ []) && digits.all isDigit

structure NumberAndUnit where
  number : Bytes
  unit : Bytes
  deriving DecidableEq

/-- A byte at which the unit of a value begins: a letter or `%`. -/
def isUnitStart (byte : UInt8) : Bool :=
  decide (65 ≤ byte ∧ byte ≤ 90) || decide (97 ≤ byte ∧ byte ≤ 122) || decide (byte = 37)

def splitAttachedUnit (token : Bytes) : NumberAndUnit :=
  ⟨token.takeWhile fun byte => !isUnitStart byte, token.dropWhile fun byte => !isUnitStart byte⟩

/-- The value of a setting, with its unit in the same token or in the next. -/
def numberAndUnit (valueToken : Bytes) : List Bytes → NumberAndUnit
  | [] => splitAttachedUnit valueToken
  | unitToken :: _ => ⟨valueToken, unitToken⟩

def decimalIsZero (value : Bytes) : Bool := value.all fun byte => !decide (49 ≤ byte ∧ byte ≤ 57)

/-- The number is a string of digits; `std::from_chars` reports values from `2 ^ 64` on as out of
range. -/
def parseScaledUnsigned (number : Bytes) (scale maximum : Nat) : Except ControllerParseError Nat :=
  if number = [] ∨ number.all isDigit = false then .error .invalidNumber
  else if 2 ^ 64 ≤ decimalValue number then .error .valueOverflow
  else if maximum / scale < decimalValue number then .error .valueOverflow
  else .ok (decimalValue number * scale)

/-- Whether a decimal numeral is above 100, decided on its text. -/
def lossIsOutOfRange (number : Bytes) : Bool :=
  let integerText := number.takeWhile fun byte => decide (byte ≠ decimalPoint)
  let significant := integerText.dropWhile fun byte => decide (byte = 48)
  let integerPart := if significant = [] then [48] else significant
  if 3 < integerPart.length ∨ (integerPart.length = 3 ∧ 100 < decimalValue integerPart) then true
  else if integerPart ≠ ascii "100" ∨ number.drop integerText.length = [] then false
  else !decimalIsZero (number.drop (integerText.length + 1))

section

variable [DecimalText]

def parseLoss (number : Bytes) : Except ControllerParseError Double :=
  if lossIsOutOfRange number then .error .valueOutOfRange
  else
    match DecimalText.fromChars .fixed number with
    | .resultOutOfRange => .error .valueUnderflow
    | .invalidArgument =>
        if !decimalIsZero number then .error .valueUnderflow else .error .invalidNumber
    | .parsed value rest =>
        if value.isZero && !decimalIsZero number then .error .valueUnderflow
        else if decide (rest ≠ []) || !value.isFinite then .error .invalidNumber
        else .ok value

/-- The value of a setting, in the unit its numeral is given in. -/
def parseSettingValue (direction : TrafficDirection) (setting : NetworkSetting)
    (value : NumberAndUnit) : ControllerParseResult :=
  match setting with
  | .delay | .jitter =>
      if value.unit ≠ [] ∧ value.unit ≠ ascii "ms" ∧ value.unit ≠ ascii "s" then .error .invalidUnit
      else
        match parseScaledUnsigned value.number (if value.unit = ascii "s" then 1000 else 1)
            maximumMilliseconds with
        | .error error => .error error
        | .ok milliseconds =>
            if setting = .delay then
              .command (.profileChange (.setDelay direction (Int64.ofNat milliseconds)))
            else .command (.profileChange (.setJitter direction (Int64.ofNat milliseconds)))
  | .bandwidth =>
      if value.unit ≠ [] ∧ value.unit ≠ ascii "kbps" ∧ value.unit ≠ ascii "mbps" then
        .error .invalidUnit
      else if decimalIsZero value.number then .error .valueOutOfRange
      else
        match parseScaledUnsigned value.number (if value.unit = ascii "mbps" then 1000 else 1)
            maximumUnsigned with
        | .error error => .error error
        | .ok kbps => .command (.profileChange (.setBandwidth direction (UInt64.ofNat kbps)))
  | .packetLoss =>
      if value.unit ≠ [] ∧ value.unit ≠ ascii "%" then .error .invalidUnit
      else
        match parseLoss value.number with
        | .error error => .error error
        | .ok percent => .command (.profileChange (.setPacketLoss direction percent))

def parseSetCommand (tokens : List Bytes) : ControllerParseResult :=
  match tokens with
  | _ :: directionToken :: settingToken :: valueToken :: more =>
      if 1 < more.length then .error .wrongArgumentCount
      else
        match Controller.parseDirection directionToken with
        | none => .error .invalidDirection
        | some direction =>
            match Controller.parseSetting settingToken with
            | none => .error .invalidSetting
            | some setting =>
                let value := numberAndUnit valueToken more
                let isLoss := decide (setting = .packetLoss)
                if isLoss && !isLossDecimal value.number || !isLoss && !isDecimalInteger value.number then
                  .error .invalidNumber
                else parseSettingValue direction setting value
  | _ => .error .wrongArgumentCount

def parseResetCommand (tokens : List Bytes) : ControllerParseResult :=
  match tokens with
  | [_, directionToken, settingToken] =>
      match Controller.parseDirection directionToken with
      | none => .error .invalidDirection
      | some direction =>
          match Controller.parseSetting settingToken with
          | none => .error .invalidSetting
          | some setting => .command (.profileChange (.resetSetting direction setting))
  | _ => .error .wrongArgumentCount

def parseControllerCommand (line : Bytes) : ControllerParseResult :=
  if maximumControllerCommandSize < line.length then .error .commandTooLong
  else if line.any (fun byte => decide (byte ≠ 9) && (decide (byte < 32) || decide (126 < byte))) then
    .error .invalidCharacter
  else
    match tokenize line with
    | [] => .ignored
    | command :: arguments =>
        if command = ascii "set" then parseSetCommand (command :: arguments)
        else if command = ascii "reset" then parseResetCommand (command :: arguments)
        else if command = ascii "help" then
          if arguments = [] then .command .help else .error .wrongArgumentCount
        else if command = ascii "status" then
          if arguments = [] then .command .status else .error .wrongArgumentCount
        else if command = ascii "stop" then
          if arguments = [] then .command .stop else .error .wrongArgumentCount
        else if command = ascii "detach" then
          if arguments = [] then .command .detach else .error .wrongArgumentCount
        else .error .unknownCommand

end

/-! ### Only canonical changes are parsed

The changes a Controller can ask for have a wire spelling, so the Supervisor can send them on. -/

theorem decimalValue_eq_zero_of_isZero {digits : Bytes} (hdigits : digits.all isDigit = true)
    (h : decimalIsZero digits = true) : decimalValue digits = 0 := by
  induction digits with
  | nil => rfl
  | cons digit digits ih =>
      rw [decimalIsZero, List.all_cons, Bool.and_eq_true] at h
      rw [List.all_cons, Bool.and_eq_true] at hdigits
      have hdigit : digit.toNat = 48 := by
        have hrange := hdigits.1
        have hnonzero := h.1
        simp only [isDigit, decide_eq_true_eq, UInt8.le_iff_toNat_le, Bool.not_eq_true',
          decide_eq_false_iff_not] at hrange hnonzero
        have h48 : (48 : UInt8).toNat = 48 := rfl
        have h49 : (49 : UInt8).toNat = 49 := rfl
        have h57 : (57 : UInt8).toNat = 57 := rfl
        omega
      rw [decimalValue_cons, hdigit, ih hdigits.2 h.2]
      omega

theorem decimalValue_pos_of_not_isZero {digits : Bytes} (hdigits : digits.all isDigit = true)
    (h : decimalIsZero digits = false) : 0 < decimalValue digits := by
  induction digits with
  | nil => cases h
  | cons digit digits ih =>
      rw [List.all_cons, Bool.and_eq_true] at hdigits
      rw [decimalIsZero, List.all_cons, Bool.and_eq_false_iff] at h
      rw [decimalValue_cons]
      rcases h with hdigit | hrest
      · simp only [Bool.not_eq_false', decide_eq_true_eq, UInt8.le_iff_toNat_le] at hdigit
        have h49 : (49 : UInt8).toNat = 49 := rfl
        have hfactor : 0 < digit.toNat - 48 := by omega
        have hpower : 0 < 10 ^ digits.length := Nat.pow_pos (by decide)
        have hproduct := Nat.mul_pos hfactor hpower
        omega
      · have hpositive := ih hdigits.2 hrest
        omega

theorem decimalValue_dropWhile_zero (digits : Bytes) :
    decimalValue (digits.dropWhile fun byte => decide (byte = 48)) = decimalValue digits := by
  induction digits with
  | nil => rfl
  | cons digit digits ih =>
      rw [List.dropWhile_cons]
      split
      · rename_i hzero
        rw [decide_eq_true_eq] at hzero
        rw [ih, decimalValue_cons, hzero]
        simp
      · rfl

theorem parseScaledUnsigned_ok {number : Bytes} {scale maximum value : Nat} (hscale : 0 < scale)
    (h : parseScaledUnsigned number scale maximum = .ok value) :
    number.all isDigit = true ∧ value = decimalValue number * scale ∧ value ≤ maximum := by
  rw [parseScaledUnsigned] at h
  split at h
  · cases h
  · rename_i hdigits
    split at h
    · cases h
    · split at h
      · cases h
      · rename_i hmaximum
        rw [not_or, Bool.not_eq_false] at hdigits
        injection h with hvalue
        refine ⟨hdigits.2, hvalue.symm, ?_⟩
        rw [← hvalue]
        exact (Nat.le_div_iff_mul_le hscale).mp (Nat.le_of_not_lt hmaximum)

/-- The two digit strings of a loss numeral. -/
theorem isLossDecimal_spec {number : Bytes} (h : isLossDecimal number = true) :
    ∃ integerPart fraction, number = decimalNumeral integerPart fraction ∧ integerPart ≠ [] ∧
      integerPart.all isDigit = true ∧ fraction.all isDigit = true ∧
      number.takeWhile (fun byte => decide (byte ≠ decimalPoint)) = integerPart := by
  have hpoint : ∀ text : Bytes, text.all isDigit = true →
      ∀ byte ∈ text, decide (byte ≠ decimalPoint) = true := by
    intro text hdigits byte hbyte
    rw [decide_eq_true_eq]
    rintro rfl
    exact absurd (List.all_eq_true.mp hdigits _ hbyte) (by decide)
  rw [isLossDecimal] at h
  have happend := List.takeWhile_append_dropWhile (p := fun byte => decide (byte ≠ decimalPoint))
    (l := number)
  have hdrop : number.drop (number.takeWhile fun byte => decide (byte ≠ decimalPoint)).length =
      number.dropWhile fun byte => decide (byte ≠ decimalPoint) := by
    conv_lhs =>
      arg 2
      rw [← happend]
    exact List.drop_left
  rw [hdrop] at h
  cases hrest : number.dropWhile fun byte => decide (byte ≠ decimalPoint) with
  | nil =>
      rw [hrest, Bool.and_eq_true, decide_eq_true_eq] at h
      refine ⟨number, [], rfl, h.1, h.2, rfl, ?_⟩
      rw [hrest, List.append_nil] at happend
      exact happend
  | cons byte digits =>
      rw [hrest] at h
      simp only [Bool.and_eq_true, decide_eq_true_eq] at h
      have hbyte : byte = decimalPoint := by
        have hhead := List.head?_dropWhile_not (fun byte => decide (byte ≠ decimalPoint)) number
        rw [hrest] at hhead
        simpa using hhead
      refine ⟨number.takeWhile fun byte => decide (byte ≠ decimalPoint), digits, ?_, h.1.1.1, h.1.1.2,
        h.2, rfl⟩
      subst hbyte
      rw [decimalNumeral, if_neg h.1.2, ← hrest]
      exact happend.symm

/-- The only three digits of value 100. -/
theorem eq_hundred_of_decimalValue {digits : Bytes} (hdigits : digits.all isDigit = true)
    (hlength : digits.length ≤ 3) (h : decimalValue digits = 100) : digits = ascii "100" := by
  have hlt := decimalValue_lt hdigits
  match digits with
  | [] => cases h
  | [_] => simp only [List.length_singleton] at hlt; omega
  | [_, _] => simp only [List.length_cons, List.length_nil] at hlt; omega
  | [first, second, third] =>
      simp only [List.all_cons, List.all_nil, Bool.and_true, Bool.and_eq_true] at hdigits
      have hsecond := digit_sub_le hdigits.2.1
      have hthird := digit_sub_le hdigits.2.2
      simp only [isDigit, decide_eq_true_eq, UInt8.le_iff_toNat_le] at hdigits
      have h48 : (48 : UInt8).toNat = 48 := rfl
      simp only [decimalValue_cons, List.length_cons, List.length_nil] at h
      have hnil : decimalValue [] = 0 := rfl
      have hfirst : first = 49 := UInt8.toNat_inj.mp (by rw [show (49 : UInt8).toNat = 49 from rfl]; omega)
      have hsecond' : second = 48 := UInt8.toNat_inj.mp (by omega)
      have hthird' : third = 48 := UInt8.toNat_inj.mp (by omega)
      rw [hfirst, hsecond', hthird']
      decide
  | _ :: _ :: _ :: _ :: _ => simp only [List.length_cons] at hlength; omega

/-- The textual check rejects every numeral above 100. -/
theorem decimalValue_le_of_lossIsOutOfRange {integerPart fraction : Bytes}
    (hinteger : integerPart.all isDigit = true) (hfraction : fraction.all isDigit = true)
    (htake : (decimalNumeral integerPart fraction).takeWhile
      (fun byte => decide (byte ≠ decimalPoint)) = integerPart)
    (h : lossIsOutOfRange (decimalNumeral integerPart fraction) = false) :
    decimalValue (integerPart ++ fraction) ≤ 100 * 10 ^ fraction.length := by
  rw [lossIsOutOfRange] at h
  simp only [htake] at h
  rw [decimalValue_append]
  have hfractionLt := decimalValue_lt hfraction
  have hsignificant : decimalValue (if (integerPart.dropWhile fun byte => decide (byte = 48)) = [] then
      [48] else integerPart.dropWhile fun byte => decide (byte = 48)) = decimalValue integerPart := by
    split
    · rename_i hnil
      rw [← decimalValue_dropWhile_zero integerPart, hnil]
      decide
    · exact decimalValue_dropWhile_zero integerPart
  have hsignificantDigits : (if (integerPart.dropWhile fun byte => decide (byte = 48)) = [] then
      [48] else integerPart.dropWhile fun byte => decide (byte = 48)).all isDigit = true := by
    split
    · decide
    · exact List.all_eq_true.mpr fun byte hbyte =>
        List.all_eq_true.mp hinteger byte (List.dropWhile_subset _ hbyte)
  revert h hsignificant hsignificantDigits
  generalize (if (integerPart.dropWhile fun byte => decide (byte = 48)) = [] then
    [48] else integerPart.dropWhile fun byte => decide (byte = 48)) = significant
  intro h hsignificant hsignificantDigits
  have hlt := decimalValue_lt hsignificantDigits
  split at h
  · cases h
  · rename_i hbound
    rw [not_or, not_and_or] at hbound
    have hle : decimalValue integerPart ≤ 100 := by
      rw [← hsignificant]
      rcases hbound.2 with hlength | hle
      · have hpower : 10 ^ significant.length ≤ 10 ^ 2 :=
          Nat.pow_le_pow_right (by decide) (by omega)
        omega
      · omega
    rcases Nat.lt_or_eq_of_le hle with hless | hequal
    · have hproduct := Nat.mul_le_mul_right (10 ^ fraction.length) (Nat.le_of_lt_succ hless)
      have hsucc : 99 * 10 ^ fraction.length + 10 ^ fraction.length = 100 * 10 ^ fraction.length := by
        ring
      omega
    · have hhundred := eq_hundred_of_decimalValue hsignificantDigits (by omega)
        (hsignificant.trans hequal)
      by_cases hnil : fraction = []
      · rw [hnil, hequal]
        decide
      · have hdrop : (decimalNumeral integerPart fraction).drop integerPart.length =
            decimalPoint :: fraction := by
          rw [decimalNumeral, if_neg hnil, List.drop_left]
        rw [if_neg (by simp [hhundred, hdrop]), ← List.drop_drop, hdrop, List.drop_one,
          List.tail_cons, Bool.not_eq_false'] at h
        rw [hequal, decimalValue_eq_zero_of_isZero hfraction h]
        omega

section

variable [DecimalText]

theorem isPercentage_of_parseLoss {number : Bytes} {value : Double}
    (hnumber : isLossDecimal number = true) (h : parseLoss number = .ok value) :
    value.IsPercentage := by
  obtain ⟨integerPart, fraction, rfl, hne, hinteger, hfraction, htake⟩ := isLossDecimal_spec hnumber
  rw [parseLoss] at h
  split at h
  · cases h
  · rename_i hrange
    rw [Bool.not_eq_true] at hrange
    split at h
    · cases h
    · split at h <;> cases h
    · rename_i parsed rest hparse
      split at h
      · cases h
      · split at h
        · cases h
        · rename_i hfinite
          injection h with hvalue
          subst hvalue
          rw [Bool.or_eq_true, not_or, Bool.not_eq_true', Bool.not_eq_false] at hfinite
          have hhead : (decimalNumeral integerPart fraction).head? ≠ some 45 := by
            cases integerPart with
            | nil => exact absurd rfl hne
            | cons byte integerPart =>
                rw [List.all_cons, Bool.and_eq_true] at hinteger
                have hbyte : byte ≠ 45 := by
                  rintro rfl
                  exact absurd hinteger.1 (by decide)
                unfold decimalNumeral
                split <;> simpa using hbyte
          exact ⟨hfinite.2, DecimalText.signBit_of_fromChars _ _ _ _ hhead hparse,
            DecimalText.exceedsHundred_of_fromChars _ _ _ _ hinteger hfraction
              (decimalValue_le_of_lossIsOutOfRange hinteger hfraction htake hrange) hparse⟩

theorem canonical_of_parseSettingValue {direction : TrafficDirection} {setting : NetworkSetting}
    {value : NumberAndUnit} {change : ProfileChange}
    (hnumber : setting = .packetLoss → isLossDecimal value.number = true)
    (h : parseSettingValue direction setting value = .command (.profileChange change)) :
    change.Canonical := by
  have hnonneg : ∀ number scale result, 0 < scale →
      parseScaledUnsigned number scale maximumMilliseconds = .ok result →
      (0 : Int64) ≤ Int64.ofNat result := by
    intro number scale result hscale hparse
    have hmaximum := (parseScaledUnsigned_ok hscale hparse).2.2
    unfold maximumMilliseconds at hmaximum
    rw [Int64.le_iff_toInt_le, Int64.toInt_ofNat_of_lt (by omega)]
    exact Int.natCast_nonneg _
  have hunit : ∀ test : Prop, [Decidable test] → 0 < (if test then 1000 else 1 : Nat) := by
    intro test htest
    split <;> decide
  unfold parseSettingValue at h
  cases setting with
  | delay =>
      dsimp only at h
      split at h
      · cases h
      · split at h
        · cases h
        · rename_i hparse
          cases h
          exact hnonneg _ _ _ (hunit _) hparse
  | jitter =>
      dsimp only at h
      split at h
      · cases h
      · split at h
        · cases h
        · rename_i hparse
          cases h
          exact hnonneg _ _ _ (hunit _) hparse
  | bandwidth =>
      dsimp only at h
      split at h
      · cases h
      · split at h
        · cases h
        · rename_i hzero
          split at h
          · cases h
          · rename_i kbps hparse
            cases h
            obtain ⟨hdigits, hvalue, hmaximum⟩ := parseScaledUnsigned_ok (hunit _) hparse
            rw [Bool.not_eq_true] at hzero
            have hpositive : 0 < kbps := by
              rw [hvalue]
              exact Nat.mul_pos (decimalValue_pos_of_not_isZero hdigits hzero) (hunit _)
            unfold maximumUnsigned at hmaximum
            intro hkbps
            have hnat := congrArg UInt64.toNat hkbps
            rw [UInt64.toNat_ofNat_of_lt' (show kbps < UInt64.size by unfold UInt64.size; omega)] at hnat
            exact absurd hnat hpositive.ne'
  | packetLoss =>
      dsimp only at h
      split at h
      · cases h
      · split at h
        · cases h
        · rename_i hparse
          cases h
          exact isPercentage_of_parseLoss (hnumber rfl) hparse

theorem canonical_of_parseSetCommand {tokens : List Bytes} {change : ProfileChange}
    (h : parseSetCommand tokens = .command (.profileChange change)) : change.Canonical := by
  unfold parseSetCommand at h
  split at h
  · split at h
    · cases h
    · split at h
      · cases h
      · split at h
        · cases h
        · rename_i setting hsetting
          dsimp only at h
          split at h
          · cases h
          · rename_i hnumber
            refine canonical_of_parseSettingValue (fun hloss => ?_) h
            simp only [hloss, decide_true, Bool.true_and, Bool.not_true, Bool.false_and, Bool.or_false,
              Bool.not_eq_true', Bool.not_eq_false] at hnumber
            exact hnumber
  · cases h

omit [DecimalText] in
theorem canonical_of_parseResetCommand {tokens : List Bytes} {change : ProfileChange}
    (h : parseResetCommand tokens = .command (.profileChange change)) : change.Canonical := by
  unfold parseResetCommand at h
  split at h
  · split at h
    · cases h
    · split at h
      · cases h
      · cases h
        trivial
  · cases h

/-- Every change a Controller's line asks for can be put on the wire. -/
theorem canonical_of_parseControllerCommand {line : Bytes} {change : ProfileChange}
    (h : parseControllerCommand line = .command (.profileChange change)) : change.Canonical := by
  unfold parseControllerCommand at h
  split at h
  · cases h
  · split at h
    · cases h
    · split at h
      · cases h
      · split at h
        · exact canonical_of_parseSetCommand h
        · split at h
          · exact canonical_of_parseResetCommand h
          · -- the other commands are no changes
            repeat' split at h
            all_goals cases h

end

end NetLagLab
