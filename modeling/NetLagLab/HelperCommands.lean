import NetLagLab.DecimalText

/-! The commands the Supervisor sends to the helper while the Workload runs, as lines of the
protocol: their canonical spelling, and the parser that accepts nothing else. -/

namespace NetLagLab

open ByteLines

inductive HelperRuntimeCommand where
  | stopTerminate
  | stopKill
  | compatibilityShutdown
  | profileChange (change : ProfileChange)
  deriving DecidableEq

/-- A command that is not a Profile Change. -/
def HelperRuntimeCommand.isStop : HelperRuntimeCommand → Bool
  | .profileChange _ => false
  | _ => true

def maximumHelperMessageSize : Nat := 1024

def helperErrorPrefix : Bytes := ascii "ERROR "

/-- `invalid_runtime_command_message`, without its newline. -/
def invalidRuntimeCommandLine : Bytes := ascii "ERROR INVALID_RUNTIME_COMMAND"

/-- `std::from_chars` into an `int` that has to consume the whole text, and the bounds. -/
def parseBoundedInteger (text : Bytes) (minimum maximum : Int) : Option Int :=
  let negative := decide (text.head? = some 45)
  let digits := if negative then text.tail else text
  if digits = [] ∨ digits.all isDigit = false then none
  else
    let value : Int := if negative then -(decimalValue digits) else decimalValue digits
    if value < -2 ^ 31 ∨ 2 ^ 31 ≤ value then none
    else if value < minimum ∨ maximum < value then none
    else some value

theorem parseBoundedInteger_range {text : Bytes} {minimum maximum value : Int}
    (h : parseBoundedInteger text minimum maximum = some value) : minimum ≤ value ∧ value ≤ maximum := by
  unfold parseBoundedInteger at h
  dsimp only at h
  rw [Option.ite_none_left_eq_some, Option.ite_none_left_eq_some, Option.ite_none_left_eq_some] at h
  obtain ⟨-, -, hrange, hvalue⟩ := h
  rw [Option.some.inj hvalue] at hrange
  exact ⟨Int.not_lt.mp fun hless => hrange (Or.inl hless), Int.not_lt.mp fun hmore => hrange (Or.inr hmore)⟩

def parseValueAfter (line start : Bytes) (minimum maximum : Int) : Option Int :=
  if start.isPrefixOf line then parseBoundedInteger (line.drop start.length) minimum maximum
  else none

def splitWireTokens (line : Bytes) : Option (List Bytes) :=
  if line = [] ∨ line.head? = some space ∨ line.getLast? = some space then none
  else
    let pieces := splitAtMark space line
    let tokens := pieces.1 ++ [pieces.2]
    if [] ∈ tokens then none else some tokens

def parseDirection (token : Bytes) : Option TrafficDirection :=
  if token = ascii "OUTBOUND" then some .outbound
  else if token = ascii "INBOUND" then some .inbound
  else none

def parseSetting (token : Bytes) : Option NetworkSetting :=
  if token = ascii "DELAY" then some .delay
  else if token = ascii "JITTER" then some .jitter
  else if token = ascii "LOSS" then some .packetLoss
  else if token = ascii "BANDWIDTH" then some .bandwidth
  else none

def hasCanonicalUnsignedSpelling (token : Bytes) : Bool :=
  if token = [] ∨ (1 < token.length ∧ token.head? = some 48) then false
  else token.all isDigit

def parseCanonicalUnsigned (token : Bytes) (maximum : Nat) : Option Nat :=
  if hasCanonicalUnsignedSpelling token = false then none
  else if 2 ^ 64 ≤ decimalValue token ∨ maximum < decimalValue token then none
  else some (decimalValue token)

def directionToken : TrafficDirection → Bytes
  | .outbound => ascii "OUTBOUND"
  | .inbound => ascii "INBOUND"

def settingToken : NetworkSetting → Bytes
  | .delay => ascii "DELAY"
  | .jitter => ascii "JITTER"
  | .packetLoss => ascii "LOSS"
  | .bandwidth => ascii "BANDWIDTH"

/-- `std::numeric_limits<std::chrono::milliseconds::rep>::max()` -/
def maximumMilliseconds : Nat := 2 ^ 63 - 1

def maximumUnsigned : Nat := 2 ^ 64 - 1

section

variable [DecimalText]

def serializeLoss (value : Double) : Option Bytes :=
  if !value.isFinite || value.isNegative || value.exceedsHundred then none
  else
    let normalized := if value.isZero then Double.zero else value
    let text := DecimalText.toChars normalized
    if 64 < text.length then none else some text

def parseCanonicalLoss (token : Bytes) : Option Double :=
  match DecimalText.fromChars .general token with
  | .parsed value [] => if serializeLoss value = some token then some value else none
  | _ => none

def parseProfileChange : List Bytes → Option ProfileChange
  | [verb, directionText, valueText] =>
      match parseDirection directionText with
      | none => none
      | some direction =>
          if verb = ascii "PROFILE_SET_DELAY" ∨ verb = ascii "PROFILE_SET_JITTER" then
            match parseCanonicalUnsigned valueText maximumMilliseconds with
            | none => none
            | some value =>
                if verb = ascii "PROFILE_SET_DELAY" then some (.setDelay direction (Int64.ofNat value))
                else some (.setJitter direction (Int64.ofNat value))
          else if verb = ascii "PROFILE_SET_BANDWIDTH" then
            match parseCanonicalUnsigned valueText maximumUnsigned with
            | none => none
            | some value =>
                if value = 0 then none else some (.setBandwidth direction (UInt64.ofNat value))
          else if verb = ascii "PROFILE_SET_LOSS" then
            (parseCanonicalLoss valueText).map (.setPacketLoss direction ·)
          else if verb = ascii "PROFILE_RESET" then
            (parseSetting valueText).map (.resetSetting direction ·)
          else none
  | _ => none

/-- A wire line of three tokens. -/
def changeLine (verb : Bytes) (direction : TrafficDirection) (value : Bytes) : Bytes :=
  verb ++ space :: (directionToken direction ++ space :: value)

/-- The frame of a change; empty when the change is not one a default profile accepts. -/
def serializeProfileChange (change : ProfileChange) : Bytes :=
  match applyProfileChange {} change with
  | .error _ => []
  | .ok _ =>
      match change with
      | .setDelay direction value =>
          changeLine (ascii "PROFILE_SET_DELAY") direction (decimalTextInt value.toInt) ++ [newline]
      | .setJitter direction value =>
          changeLine (ascii "PROFILE_SET_JITTER") direction (decimalTextInt value.toInt) ++ [newline]
      | .setPacketLoss direction percent =>
          match serializeLoss percent with
          | none => []
          | some loss => changeLine (ascii "PROFILE_SET_LOSS") direction loss ++ [newline]
      | .setBandwidth direction kbps =>
          changeLine (ascii "PROFILE_SET_BANDWIDTH") direction (decimalText kbps.toNat) ++ [newline]
      | .resetSetting direction setting =>
          changeLine (ascii "PROFILE_RESET") direction (settingToken setting) ++ [newline]

def parseHelperRuntimeCommand (line : Bytes) : Option HelperRuntimeCommand :=
  if line = ascii "STOP TERM" then some .stopTerminate
  else if line = ascii "STOP KILL" then some .stopKill
  else if line = ascii "SHUTDOWN" then some .compatibilityShutdown
  else
    match splitWireTokens line with
    | none => none
    | some tokens => (parseProfileChange tokens).map .profileChange

def helperRuntimeCommandMessage : HelperRuntimeCommand → Bytes
  | .stopTerminate => ascii "STOP TERM\n"
  | .stopKill => ascii "STOP KILL\n"
  | .compatibilityShutdown => ascii "SHUTDOWN\n"
  | .profileChange change => serializeProfileChange change

end

/-- A legal change whose loss is not the negative zero, which has no spelling of its own. The changes
a Controller can ask for are of this kind. -/
def ProfileChange.Canonical : ProfileChange → Prop
  | .setPacketLoss _ percent => percent.IsPercentage
  | change => change.Legal

theorem ProfileChange.Canonical.legal {change : ProfileChange} (h : change.Canonical) : change.Legal := by
  cases change with
  | setPacketLoss direction percent =>
      obtain ⟨hfinite, hsign, hbound⟩ := h
      refine ⟨hfinite, ?_, hbound⟩
      simp [Double.isNegative, hsign]
  | _ => exact h

/-! ### Three tokens on a line -/

theorem splitWireTokens_changeLine {verb directionText value : Bytes}
    (hverb : space ∉ verb) (hdirection : space ∉ directionText) (hvalue : space ∉ value)
    (hverb' : verb ≠ []) (hdirection' : directionText ≠ []) (hvalue' : value ≠ []) :
    splitWireTokens (verb ++ space :: (directionText ++ space :: value)) =
      some [verb, directionText, value] := by
  have hhead : (verb ++ space :: (directionText ++ space :: value)).head? ≠ some space := by
    cases verb with
    | nil => exact absurd rfl hverb'
    | cons byte verb =>
        rw [List.cons_append, List.head?_cons, ne_eq, Option.some.injEq]
        exact fun h => hverb (h ▸ List.mem_cons_self)
  have hlast : (verb ++ space :: (directionText ++ space :: value)).getLast? ≠ some space := by
    rw [List.getLast?_append_cons, List.getLast?_cons, List.getLast?_append_cons, List.getLast?_cons,
      Option.getD_some, List.getLast?_eq_some_getLast hvalue', Option.getD_some, ne_eq,
      Option.some.injEq]
    exact fun h => hvalue (h ▸ List.getLast_mem hvalue')
  have hpieces : splitAtMark space (verb ++ space :: (directionText ++ space :: value)) =
      ([verb, directionText], value) := by
    rw [splitAtMark_piece hverb, splitAtMark_piece hdirection, splitAtMark_of_notMem hvalue]
  have hguard : ¬(verb ++ space :: (directionText ++ space :: value) = [] ∨
      (verb ++ space :: (directionText ++ space :: value)).head? = some space ∨
      (verb ++ space :: (directionText ++ space :: value)).getLast? = some space) := by
    rintro (hnil | hspace | hspace)
    · exact hverb' (List.append_eq_nil_iff.mp hnil).1
    · exact hhead hspace
    · exact hlast hspace
  rw [splitWireTokens, if_neg hguard, hpieces]
  simp [Ne.symm hverb', Ne.symm hdirection', Ne.symm hvalue']

theorem parseDirection_directionToken (direction : TrafficDirection) :
    parseDirection (directionToken direction) = some direction := by
  cases direction <;> decide

theorem parseSetting_settingToken (setting : NetworkSetting) :
    parseSetting (settingToken setting) = some setting := by
  cases setting <;> decide

theorem space_notMem_decimalText (value : Nat) : space ∉ decimalText value :=
  fun h => absurd (isDigit_of_mem_decimalText h) (by decide)

theorem newline_notMem_decimalText (value : Nat) : newline ∉ decimalText value :=
  fun h => absurd (isDigit_of_mem_decimalText h) (by decide)

theorem hasCanonicalUnsignedSpelling_decimalText (value : Nat) :
    hasCanonicalUnsignedSpelling (decimalText value) = true := by
  rw [hasCanonicalUnsignedSpelling, if_neg]
  · exact List.all_eq_true.mpr fun byte hbyte => isDigit_of_mem_decimalText hbyte
  · rintro (hnil | ⟨hlength, hhead⟩)
    · exact decimalText_ne_nil value hnil
    · exact head_decimalText hlength hhead

theorem parseCanonicalUnsigned_decimalText {value maximum : Nat} (hmaximum : value ≤ maximum)
    (hrange : value < 2 ^ 64) : parseCanonicalUnsigned (decimalText value) maximum = some value := by
  rw [parseCanonicalUnsigned, hasCanonicalUnsignedSpelling_decimalText, decimalValue_decimalText]
  simp only [Bool.true_eq_false, if_false, ite_eq_right_iff, reduceCtorEq, imp_false, not_or]
  omega

theorem length_decimalText_le {value : Nat} (h : value < 2 ^ 64) : (decimalText value).length ≤ 20 :=
  length_decimalText (by decide) (h.trans (by decide))

theorem decimalTextInt_of_nonneg {value : Int64} (h : 0 ≤ value) :
    decimalTextInt value.toInt = decimalText value.toInt.toNat := by
  have hnonneg : 0 ≤ value.toInt := by simpa [Int64.le_iff_toInt_le] using h
  rw [decimalTextInt, if_neg (by omega)]

/-- Milliseconds are read back as they were written. -/
theorem parseCanonicalUnsigned_milliseconds {value : Int64} (h : 0 ≤ value) :
    ∃ number, parseCanonicalUnsigned (decimalTextInt value.toInt) maximumMilliseconds = some number ∧
      Int64.ofNat number = value := by
  have hlt := Int64.toInt_lt value
  have hnonneg : 0 ≤ value.toInt := by simpa [Int64.le_iff_toInt_le] using h
  refine ⟨value.toInt.toNat, ?_, ?_⟩
  · rw [decimalTextInt_of_nonneg h]
    exact parseCanonicalUnsigned_decimalText (by unfold maximumMilliseconds; omega) (by omega)
  · rw [← Int64.toInt_inj, Int64.toInt_ofNat_of_lt (by omega), Int.toNat_of_nonneg hnonneg]

theorem directionToken_spec (direction : TrafficDirection) :
    directionToken direction ≠ [] ∧ space ∉ directionToken direction ∧
      newline ∉ directionToken direction ∧ (directionToken direction).length ≤ 8 := by
  cases direction <;> decide

/-- The first token of a change. -/
def ProfileChange.verb : ProfileChange → Bytes
  | .setDelay _ _ => ascii "PROFILE_SET_DELAY"
  | .setJitter _ _ => ascii "PROFILE_SET_JITTER"
  | .setPacketLoss _ _ => ascii "PROFILE_SET_LOSS"
  | .setBandwidth _ _ => ascii "PROFILE_SET_BANDWIDTH"
  | .resetSetting _ _ => ascii "PROFILE_RESET"

theorem verb_spec (change : ProfileChange) :
    change.verb ≠ [] ∧ space ∉ change.verb ∧ newline ∉ change.verb ∧ change.verb.length ≤ 21 := by
  cases change <;> simp only [ProfileChange.verb] <;> decide

section Codec

variable [DecimalText]

theorem serializeLoss_of_isPercentage {value : Double} (h : value.IsPercentage) :
    serializeLoss value = some (DecimalText.toChars value) := by
  obtain ⟨hfinite, hsign, hbound⟩ := h
  have hnegative : value.isNegative = false := by simp [Double.isNegative, hsign]
  have hnormalized : (if value.isZero = true then Double.zero else value) = value := by
    split
    · rename_i hzero
      rw [Double.isZero, decide_eq_true_eq, Double.magnitude] at hzero
      rw [Double.signBit, BitVec.msb_eq_false_iff_two_mul_lt] at hsign
      have hbits : value.bits.toNat = 0 := by omega
      cases value with
      | mk bits => exact congrArg Double.mk (BitVec.eq_of_toNat_eq hbits.symm)
    · rfl
  have hlength := DecimalText.length_toChars value ⟨hfinite, hsign, hbound⟩
  simp [serializeLoss, hfinite, hnegative, hbound, hnormalized, hlength]

theorem parseCanonicalLoss_toChars {value : Double} (h : value.IsPercentage) :
    parseCanonicalLoss (DecimalText.toChars value) = some value := by
  simp [parseCanonicalLoss, DecimalText.fromChars_toChars value h, serializeLoss_of_isPercentage h]

theorem notMem_toChars {value : Double} (h : value.IsPercentage) {byte : UInt8}
    (hbyte : isNumeralByte byte = false) : byte ∉ DecimalText.toChars value := by
  intro hmem
  rw [DecimalText.isNumeralByte_of_mem_toChars value h byte hmem] at hbyte
  cases hbyte

/-- The last token of a change. -/
def ProfileChange.valueText : ProfileChange → Bytes
  | .setDelay _ value => decimalTextInt value.toInt
  | .setJitter _ value => decimalTextInt value.toInt
  | .setPacketLoss _ percent => DecimalText.toChars percent
  | .setBandwidth _ kbps => decimalText kbps.toNat
  | .resetSetting _ setting => settingToken setting

/-- The line of a canonical change. -/
def ProfileChange.line (change : ProfileChange) : Bytes :=
  changeLine change.verb change.direction change.valueText

theorem serializeProfileChange_of_canonical {change : ProfileChange} (h : change.Canonical) :
    serializeProfileChange change = change.line ++ [newline] := by
  unfold serializeProfileChange
  rw [applyProfileChange_of_legal validate_default h.legal]
  cases change with
  | setPacketLoss direction percent =>
      simp only [serializeLoss_of_isPercentage h]
      rfl
  | _ => rfl

theorem serializeProfileChange_ne_nil {change : ProfileChange} (h : change.Canonical) :
    serializeProfileChange change ≠ [] := by
  simp [serializeProfileChange_of_canonical h]

/-- The value of a canonical change has no spaces and no newlines. -/
theorem valueText_spec {change : ProfileChange} (h : change.Canonical) :
    change.valueText ≠ [] ∧ space ∉ change.valueText ∧ newline ∉ change.valueText ∧
      change.valueText.length ≤ 64 := by
  have hnumeral : ∀ value, value < 2 ^ 64 → decimalText value ≠ [] ∧ space ∉ decimalText value ∧
      newline ∉ decimalText value ∧ (decimalText value).length ≤ 64 := fun value hvalue =>
    ⟨decimalText_ne_nil _, space_notMem_decimalText _, newline_notMem_decimalText _,
      (length_decimalText_le hvalue).trans (by decide)⟩
  cases change with
  | setDelay direction value =>
      rw [ProfileChange.valueText, decimalTextInt_of_nonneg h]
      exact hnumeral _ (by have := Int64.toInt_lt value; omega)
  | setJitter direction value =>
      rw [ProfileChange.valueText, decimalTextInt_of_nonneg h]
      exact hnumeral _ (by have := Int64.toInt_lt value; omega)
  | setPacketLoss direction percent =>
      exact ⟨DecimalText.toChars_ne_nil _, notMem_toChars h (by decide), notMem_toChars h (by decide),
        DecimalText.length_toChars _ h⟩
  | setBandwidth direction kbps => exact hnumeral _ kbps.toNat_lt
  | resetSetting direction setting =>
      rw [ProfileChange.valueText]
      cases setting <;> decide

theorem newline_notMem_line {change : ProfileChange} (h : change.Canonical) :
    newline ∉ change.line := by
  have hspace : newline ≠ space := by decide
  simp [ProfileChange.line, changeLine, hspace, (verb_spec change).2.2.1, (valueText_spec h).2.2.1,
    (directionToken_spec change.direction).2.2.1]

theorem length_line_le {change : ProfileChange} (h : change.Canonical) :
    change.line.length ≤ maximumHelperMessageSize := by
  have hverb := (verb_spec change).2.2.2
  have hdirection := (directionToken_spec change.direction).2.2.2
  have hvalue := (valueText_spec h).2.2.2
  simp only [ProfileChange.line, changeLine, List.length_append, List.length_cons,
    maximumHelperMessageSize]
  omega

theorem parseProfileChange_tokens {change : ProfileChange} (h : change.Canonical) :
    parseProfileChange [change.verb, directionToken change.direction, change.valueText] =
      some change := by
  simp only [parseProfileChange, parseDirection_directionToken]
  cases change with
  | setDelay direction value =>
      obtain ⟨number, hparse, hvalue⟩ := parseCanonicalUnsigned_milliseconds h
      simp [ProfileChange.verb, ProfileChange.valueText, ProfileChange.direction, hparse, hvalue]
  | setJitter direction value =>
      obtain ⟨number, hparse, hvalue⟩ := parseCanonicalUnsigned_milliseconds h
      have hverb : ascii "PROFILE_SET_JITTER" ≠ ascii "PROFILE_SET_DELAY" := by decide
      simp [ProfileChange.verb, ProfileChange.valueText, ProfileChange.direction, hparse, hvalue, hverb]
  | setPacketLoss direction percent =>
      have hdelay : ascii "PROFILE_SET_LOSS" ≠ ascii "PROFILE_SET_DELAY" := by decide
      have hjitter : ascii "PROFILE_SET_LOSS" ≠ ascii "PROFILE_SET_JITTER" := by decide
      have hbandwidth : ascii "PROFILE_SET_LOSS" ≠ ascii "PROFILE_SET_BANDWIDTH" := by decide
      simp [ProfileChange.verb, ProfileChange.valueText, ProfileChange.direction,
        parseCanonicalLoss_toChars h, hdelay, hjitter, hbandwidth]
  | setBandwidth direction kbps =>
      have hdelay : ascii "PROFILE_SET_BANDWIDTH" ≠ ascii "PROFILE_SET_DELAY" := by decide
      have hjitter : ascii "PROFILE_SET_BANDWIDTH" ≠ ascii "PROFILE_SET_JITTER" := by decide
      have hlt := kbps.toNat_lt
      have hparse := parseCanonicalUnsigned_decimalText
        (show kbps.toNat ≤ maximumUnsigned by unfold maximumUnsigned; omega) hlt
      have hzero : kbps.toNat ≠ 0 := fun hzero => h (UInt64.toNat_inj.mp hzero)
      simp [ProfileChange.verb, ProfileChange.valueText, ProfileChange.direction, hparse, hdelay,
        hjitter, hzero]
  | resetSetting direction setting =>
      have hdelay : ascii "PROFILE_RESET" ≠ ascii "PROFILE_SET_DELAY" := by decide
      have hjitter : ascii "PROFILE_RESET" ≠ ascii "PROFILE_SET_JITTER" := by decide
      have hbandwidth : ascii "PROFILE_RESET" ≠ ascii "PROFILE_SET_BANDWIDTH" := by decide
      have hloss : ascii "PROFILE_RESET" ≠ ascii "PROFILE_SET_LOSS" := by decide
      simp [ProfileChange.verb, ProfileChange.valueText, ProfileChange.direction,
        parseSetting_settingToken, hdelay, hjitter, hbandwidth, hloss]

/-- The helper reads a canonical change back as the same change. -/
theorem parseHelperRuntimeCommand_line {change : ProfileChange} (h : change.Canonical) :
    parseHelperRuntimeCommand change.line = some (.profileChange change) := by
  obtain ⟨hverb, hverb', -, -⟩ := verb_spec change
  obtain ⟨hdirection, hdirection', -, -⟩ := directionToken_spec change.direction
  obtain ⟨hvalue, hvalue', -, -⟩ := valueText_spec h
  have htokens : splitWireTokens change.line =
      some [change.verb, directionToken change.direction, change.valueText] :=
    splitWireTokens_changeLine hverb' hdirection' hvalue' hverb hdirection hvalue
  -- a stop has fewer tokens than a change
  have hother : ∀ other, (splitWireTokens other).map List.length ≠ some 3 → change.line ≠ other := by
    rintro other hne rfl
    rw [htokens] at hne
    exact hne rfl
  have hterminate : change.line ≠ ascii "STOP TERM" := hother _ (by decide)
  have hkill : change.line ≠ ascii "STOP KILL" := hother _ (by decide)
  have hshutdown : change.line ≠ ascii "SHUTDOWN" := hother _ (by decide)
  simp [parseHelperRuntimeCommand, hterminate, hkill, hshutdown, htokens, parseProfileChange_tokens h]

/-- The line of a command, without its newline. -/
def HelperRuntimeCommand.line : HelperRuntimeCommand → Bytes
  | .stopTerminate => ascii "STOP TERM"
  | .stopKill => ascii "STOP KILL"
  | .compatibilityShutdown => ascii "SHUTDOWN"
  | .profileChange change => change.line

/-- A stop, or a canonical change. -/
def HelperRuntimeCommand.Canonical : HelperRuntimeCommand → Prop
  | .profileChange change => change.Canonical
  | _ => True

/-- Every command the Supervisor sends is one short line that the helper reads back. -/
theorem helperRuntimeCommandMessage_spec {command : HelperRuntimeCommand} (h : command.Canonical) :
    helperRuntimeCommandMessage command = command.line ++ [newline] ∧ newline ∉ command.line ∧
      command.line.length ≤ maximumHelperMessageSize ∧
      parseHelperRuntimeCommand command.line = some command := by
  cases command with
  | profileChange change =>
      exact ⟨serializeProfileChange_of_canonical h, newline_notMem_line h, length_line_le h,
        parseHelperRuntimeCommand_line h⟩
  | stopTerminate =>
      exact ⟨rfl, (by decide : newline ∉ ascii "STOP TERM"),
        (by decide : (ascii "STOP TERM").length ≤ 1024), rfl⟩
  | stopKill =>
      exact ⟨rfl, (by decide : newline ∉ ascii "STOP KILL"),
        (by decide : (ascii "STOP KILL").length ≤ 1024), rfl⟩
  | compatibilityShutdown =>
      exact ⟨rfl, (by decide : newline ∉ ascii "SHUTDOWN"),
        (by decide : (ascii "SHUTDOWN").length ≤ 1024), rfl⟩

end Codec

end NetLagLab
