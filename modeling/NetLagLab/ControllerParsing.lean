import NetLagLab.ControllerGrammar

/-! The parser of a Controller's commands against their grammar. -/

namespace NetLagLab

open ByteLines

/-! ### Tokens -/

theorem tokenize_separator {mark : UInt8} (hmark : isTokenSeparator mark = true) (rest : Bytes) :
    tokenize (mark :: rest) = tokenize rest := by
  rw [tokenize.eq_def]
  exact if_pos hmark

theorem tokenize_gap {gap : Bytes} (hgap : ∀ byte ∈ gap, isTokenSeparator byte = true) (rest : Bytes) :
    tokenize (gap ++ rest) = tokenize rest := by
  induction gap with
  | nil => rfl
  | cons byte gap ih =>
      obtain ⟨hbyte, hgap⟩ := List.forall_mem_cons.mp hgap
      rw [List.cons_append, tokenize_separator hbyte]
      exact ih hgap

theorem tokenize_inner_cons {byte next : UInt8} {rest token : Bytes} {tokens : List Bytes}
    (hbyte : isTokenSeparator byte = false) (hnext : isTokenSeparator next = false)
    (h : tokenize (next :: rest) = token :: tokens) : tokenize (byte :: next :: rest) = (byte :: token) :: tokens := by
  rw [tokenize, if_neg (Bool.not_eq_true _ ▸ hbyte), if_neg (Bool.not_eq_true _ ▸ hnext), h]

theorem tokenize_token {token : Bytes} (h : Unbroken isTokenSeparator token) : tokenize token = [token] := by
  obtain ⟨hne, hinner⟩ := h
  induction token with
  | nil => exact absurd rfl hne
  | cons byte token ih =>
      obtain ⟨hbyte, htoken⟩ := List.forall_mem_cons.mp hinner
      cases token with
      | nil =>
          rw [tokenize, if_neg (Bool.not_eq_true _ ▸ hbyte)]
      | cons next token =>
          exact tokenize_inner_cons hbyte (htoken next List.mem_cons_self) (ih (List.cons_ne_nil _ _) htoken)

theorem tokenize_token_append {token : Bytes} (h : Unbroken isTokenSeparator token) {mark : UInt8}
    (hmark : isTokenSeparator mark = true) (rest : Bytes) :
    tokenize (token ++ mark :: rest) = token :: tokenize rest := by
  obtain ⟨hne, hinner⟩ := h
  induction token with
  | nil => exact absurd rfl hne
  | cons byte token ih =>
      obtain ⟨hbyte, htoken⟩ := List.forall_mem_cons.mp hinner
      cases token with
      | nil =>
          rw [List.singleton_append, tokenize, if_neg (Bool.not_eq_true _ ▸ hbyte), if_pos hmark,
            tokenize_separator hmark]
      | cons next token =>
          exact tokenize_inner_cons hbyte (htoken next List.mem_cons_self) (ih (List.cons_ne_nil _ _) htoken)

/-- The tokens are those that the line spells. -/
theorem tokenize_of_spells {line : Bytes} {tokens : List Bytes} (h : Spells isTokenSeparator line tokens) :
    tokenize line = tokens := by
  induction h with
  | @blank gap hgap =>
      have hempty := tokenize_gap hgap []
      rwa [List.append_nil] at hempty
  | last hgap htoken => rw [tokenize_gap hgap, tokenize_token htoken]
  | more hgap htoken hmark _ ih => rw [tokenize_gap hgap, tokenize_token_append htoken hmark, ih]

theorem spells_tokenize (line : Bytes) : Spells isTokenSeparator line (tokenize line) := by
  obtain ⟨tokens, h⟩ := Spells.total isTokenSeparator line
  rw [tokenize_of_spells h]
  exact h

/-! ### Names -/

namespace ControllerGrammar

theorem parseDirection_iff {name : Bytes} {direction : TrafficDirection} :
    Controller.parseDirection name = some direction ↔ (name, direction) ∈ directionNames := by
  simp only [directionNames, List.mem_cons, Prod.mk.injEq, List.not_mem_nil, or_false]
  unfold Controller.parseDirection
  constructor
  · intro h
    split at h
    · cases h
      exact .inl ⟨‹_›, rfl⟩
    · split at h
      · cases h
        exact .inr ⟨‹_›, rfl⟩
      · cases h
  · rintro (⟨rfl, rfl⟩ | ⟨rfl, rfl⟩) <;> decide

theorem parseSetting_iff {name : Bytes} {setting : NetworkSetting} :
    Controller.parseSetting name = some setting ↔ (name, setting) ∈ settingNames := by
  simp only [settingNames, List.mem_cons, Prod.mk.injEq, List.not_mem_nil, or_false]
  unfold Controller.parseSetting
  constructor
  · intro h
    split at h
    · cases h
      exact .inl ⟨‹_›, rfl⟩
    · split at h
      · cases h
        exact .inr (.inl ⟨‹_›, rfl⟩)
      · split at h
        · cases h
          exact .inr (.inr (.inl ⟨‹_›, rfl⟩))
        · split at h
          · cases h
            exact .inr (.inr (.inr ⟨‹_›, rfl⟩))
          · cases h
  · rintro (⟨rfl, rfl⟩ | ⟨rfl, rfl⟩ | ⟨rfl, rfl⟩ | ⟨rfl, rfl⟩) <;> decide

theorem parseDirection_none {name : Bytes} :
    Controller.parseDirection name = none ↔ ∀ direction, (name, direction) ∉ directionNames := by
  rw [Option.eq_none_iff_forall_ne_some]
  exact forall_congr' fun direction => not_congr parseDirection_iff

theorem parseSetting_none {name : Bytes} :
    Controller.parseSetting name = none ↔ ∀ setting, (name, setting) ∉ settingNames := by
  rw [Option.eq_none_iff_forall_ne_some]
  exact forall_congr' fun setting => not_congr parseSetting_iff

/-- The number and the unit that the parser takes are those of the grammar. -/
theorem value_iff {token : Bytes} {more : List Bytes} {value : NumberAndUnit} :
    Value (token :: more) value ↔ more.length ≤ 1 ∧ numberAndUnit token more = value := by
  constructor
  · intro h
    generalize htokens : token :: more = tokens at h
    cases h with
    | separated number unit =>
        cases htokens
        exact ⟨le_rfl, rfl⟩
    | @attached number unit hnumber hunit =>
        cases htokens
        refine ⟨Nat.zero_le _, ?_⟩
        have htest : ∀ byte ∈ number, (!isUnitStart byte) = true := fun byte hbyte => by simp [hnumber byte hbyte]
        rw [numberAndUnit, splitAttachedUnit, List.takeWhile_append_of_pos htest, List.dropWhile_append_of_pos htest]
        cases unit with
        | nil => simp
        | cons byte unit => simp [hunit byte rfl]
  · rintro ⟨hlength, rfl⟩
    match more with
    | [] =>
        have hjoin := List.takeWhile_append_dropWhile (p := fun byte => !isUnitStart byte) (l := token)
        have hattached : Value [token.takeWhile (fun byte => !isUnitStart byte) ++
            token.dropWhile (fun byte => !isUnitStart byte)] (splitAttachedUnit token) := by
          refine .attached (fun byte hbyte => ?_) (fun byte hbyte => ?_)
          · simpa using List.mem_takeWhile_imp hbyte
          · have hkept := List.head?_dropWhile_not (fun byte => !isUnitStart byte) token
            rw [Option.mem_def.mp hbyte] at hkept
            simpa using hkept
        rwa [hjoin] at hattached
    | [unit] => exact .separated token unit
    | _ :: _ :: _ => exact absurd hlength (by simp)

/-! ### Numerals and units -/

section

variable {setting : NetworkSetting}

theorem settingNumeral_iff {number : Bytes} :
    (∃ integerPart fraction, SettingNumeral setting number integerPart fraction) ↔
      if setting = .packetLoss then isLossDecimal number = true else isDecimalInteger number = true := by
  have hinteger : (∃ integerPart fraction, Numeral number integerPart fraction ∧ fraction = []) ↔
      isDecimalInteger number = true := by
    rw [isDecimalInteger_iff]
    constructor
    · rintro ⟨integerPart, fraction, hnumeral, rfl⟩
      have htext : number = integerPart := hnumeral.text
      rw [htext]
      exact htext ▸ hnumeral
    · exact fun h => ⟨number, [], h, rfl⟩
  cases setting with
  | packetLoss => exact isLossDecimal_iff.symm
  | delay => exact hinteger
  | jitter => exact hinteger
  | bandwidth => exact hinteger

/-- The numerals of the settings other than loss are their own integer parts. -/
theorem SettingNumeral.whole {number digits fraction : Bytes} (hloss : setting ≠ .packetLoss)
    (h : SettingNumeral setting number digits fraction) : Numeral number number [] ∧ digits = number ∧ fraction = [] := by
  have hwhole : Numeral number digits fraction ∧ fraction = [] := by
    cases setting with
    | packetLoss => exact absurd rfl hloss
    | delay => exact h
    | jitter => exact h
    | bandwidth => exact h
  obtain ⟨hnumeral, rfl⟩ := hwhole
  have htext : number = digits := hnumeral.text
  subst htext
  exact ⟨hnumeral, rfl, rfl⟩

theorem unitScales_pos {unit : Bytes} {scale : Nat} (h : (unit, scale) ∈ unitScales setting) : 0 < scale := by
  have hall : ∀ setting, ∀ entry ∈ unitScales setting, 0 < entry.2 := by
    intro setting
    cases setting <;> simp [unitScales]
  exact hall setting _ h

/-- The scale that the parser takes is that of the unit. -/
theorem scale_of_delayUnit {unit : Bytes} {scale : Nat} (h : (unit, scale) ∈ unitScales .delay) :
    ¬(unit ≠ [] ∧ unit ≠ ascii "ms" ∧ unit ≠ ascii "s") ∧ (if unit = ascii "s" then 1000 else 1) = scale := by
  simp only [unitScales, List.mem_cons, Prod.mk.injEq, List.not_mem_nil, or_false] at h
  rcases h with ⟨rfl, rfl⟩ | ⟨rfl, rfl⟩ | ⟨rfl, rfl⟩ <;> decide

theorem scale_of_bandwidthUnit {unit : Bytes} {scale : Nat} (h : (unit, scale) ∈ unitScales .bandwidth) :
    ¬(unit ≠ [] ∧ unit ≠ ascii "kbps" ∧ unit ≠ ascii "mbps") ∧ (if unit = ascii "mbps" then 1000 else 1) = scale := by
  simp only [unitScales, List.mem_cons, Prod.mk.injEq, List.not_mem_nil, or_false] at h
  rcases h with ⟨rfl, rfl⟩ | ⟨rfl, rfl⟩ | ⟨rfl, rfl⟩ <;> decide

theorem lossUnit {unit : Bytes} {scale : Nat} (h : (unit, scale) ∈ unitScales .packetLoss) :
    ¬(unit ≠ [] ∧ unit ≠ ascii "%") ∧ 1 = scale := by
  simp only [unitScales, List.mem_cons, Prod.mk.injEq, List.not_mem_nil, or_false] at h
  rcases h with ⟨rfl, rfl⟩ | ⟨rfl, rfl⟩ <;> decide

/-- A unit has one scale. -/
theorem unitScales_unique {unit : Bytes} {scale other : Nat} (h : (unit, scale) ∈ unitScales setting)
    (hother : (unit, other) ∈ unitScales setting) : scale = other := by
  cases setting with
  | delay => exact (scale_of_delayUnit h).2.symm.trans (scale_of_delayUnit hother).2
  | jitter => exact (scale_of_delayUnit h).2.symm.trans (scale_of_delayUnit hother).2
  | packetLoss => exact (lossUnit h).2.symm.trans (lossUnit hother).2
  | bandwidth => exact (scale_of_bandwidthUnit h).2.symm.trans (scale_of_bandwidthUnit hother).2

end

/-! ### Values of a setting -/

section

variable [DecimalText] {direction : TrafficDirection} {setting : NetworkSetting} {value : NumberAndUnit}

/-- The check of the numeral and then the reading of the value. -/
def parseValue (direction : TrafficDirection) (setting : NetworkSetting) (value : NumberAndUnit) :
    ControllerParseResult :=
  let isLoss := decide (setting = .packetLoss)
  if isLoss && !isLossDecimal value.number || !isLoss && !isDecimalInteger value.number then .error .invalidNumber
  else parseSettingValue direction setting value

theorem parseValue_malformed (h : ∀ integerPart fraction, ¬SettingNumeral setting value.number integerPart fraction) :
    parseValue direction setting value = .error .invalidNumber := by
  have hnone : ¬∃ integerPart fraction, SettingNumeral setting value.number integerPart fraction :=
    fun ⟨integerPart, fraction, hnumeral⟩ => h integerPart fraction hnumeral
  rw [settingNumeral_iff] at hnone
  refine if_pos ?_
  by_cases hloss : setting = .packetLoss
  · rw [if_pos hloss] at hnone
    simp [hloss, hnone]
  · rw [if_neg hloss] at hnone
    simp [hloss, hnone]

theorem parseValue_wellFormed {integerPart fraction : Bytes}
    (h : SettingNumeral setting value.number integerPart fraction) :
    parseValue direction setting value = parseSettingValue direction setting value := by
  have hsome := settingNumeral_iff.mp ⟨integerPart, fraction, h⟩
  refine if_neg ?_
  by_cases hloss : setting = .packetLoss
  · rw [if_pos hloss] at hsome
    simp [hloss, hsome]
  · rw [if_neg hloss] at hsome
    simp [hloss, hsome]

theorem parseSettingValue_unknownUnit (h : ∀ scale, (value.unit, scale) ∉ unitScales setting) :
    parseSettingValue direction setting value = .error .invalidUnit := by
  cases setting with
  | delay | jitter =>
      simp only [unitScales, List.mem_cons, Prod.mk.injEq, List.not_mem_nil, or_false, not_or, not_and] at h
      exact if_pos ⟨fun hunit => (h 1).1 hunit rfl, fun hunit => (h 1).2.1 hunit rfl, fun hunit => (h 1000).2.2 hunit rfl⟩
  | packetLoss =>
      simp only [unitScales, List.mem_cons, Prod.mk.injEq, List.not_mem_nil, or_false, not_or, not_and] at h
      exact if_pos ⟨fun hunit => (h 1).1 hunit rfl, fun hunit => (h 1).2 hunit rfl⟩
  | bandwidth =>
      simp only [unitScales, List.mem_cons, Prod.mk.injEq, List.not_mem_nil, or_false, not_or, not_and] at h
      exact if_pos ⟨fun hunit => (h 1).1 hunit rfl, fun hunit => (h 1).2.1 hunit rfl, fun hunit => (h 1000).2.2 hunit rfl⟩

/-- A duration in range is set in milliseconds. -/
theorem parseSettingValue_duration {scale : Nat} (hduration : setting = .delay ∨ setting = .jitter)
    (hnumber : Numeral value.number value.number []) (hunit : (value.unit, scale) ∈ unitScales setting) :
    parseSettingValue direction setting value =
      if maximumMilliseconds < decimalValue value.number * scale then .error .valueOverflow
      else .command (.profileChange
        (if setting = .delay then .setDelay direction (Int64.ofNat (decimalValue value.number * scale))
          else .setJitter direction (Int64.ofNat (decimalValue value.number * scale)))) := by
  have hpositive := unitScales_pos hunit
  have hscales : unitScales setting = unitScales .delay := by
    rcases hduration with rfl | rfl <;> rfl
  rw [hscales] at hunit
  obtain ⟨hknown, hscale⟩ := scale_of_delayUnit hunit
  have hscaled := parseScaledUnsigned_eq hnumber hpositive (show maximumMilliseconds < 2 ^ 64 by decide)
  by_cases hlarge : maximumMilliseconds < decimalValue value.number * scale
  · rw [if_pos hlarge] at hscaled ⊢
    rcases hduration with rfl | rfl <;> rw [parseSettingValue, if_neg hknown, hscale, hscaled]
  · rw [if_neg hlarge] at hscaled ⊢
    rcases hduration with rfl | rfl <;> rw [parseSettingValue, if_neg hknown, hscale, hscaled] <;> rfl

theorem parseSettingValue_bandwidth {scale : Nat} (hnumber : Numeral value.number value.number [])
    (hunit : (value.unit, scale) ∈ unitScales .bandwidth) : parseSettingValue direction .bandwidth value =
      if decimalValue value.number = 0 then .error .valueOutOfRange
      else if maximumUnsigned < decimalValue value.number * scale then .error .valueOverflow
      else .command (.profileChange (.setBandwidth direction (UInt64.ofNat (decimalValue value.number * scale)))) := by
  obtain ⟨hknown, hscale⟩ := scale_of_bandwidthUnit hunit
  have hscaled := parseScaledUnsigned_eq hnumber (unitScales_pos hunit) (show maximumUnsigned < 2 ^ 64 by decide)
  have hzero := hnumber.decimalIsZero_iff
  rw [List.append_nil] at hzero
  rw [parseSettingValue, if_neg hknown, hscale, hscaled]
  simp only [hzero]
  by_cases hlarge : maximumUnsigned < decimalValue value.number * scale
  · rw [if_pos hlarge, if_pos hlarge]
  · rw [if_neg hlarge, if_neg hlarge]

theorem parseSettingValue_loss (hrounds : RoundsCorrectly) {integerPart fraction : Bytes} {scale : Nat}
    (hnumber : Numeral value.number integerPart fraction) (hunit : (value.unit, scale) ∈ unitScales .packetLoss) :
    parseSettingValue direction .packetLoss value =
      if ¬AtMostHundred integerPart fraction then .error .valueOutOfRange
      else if Vanishes integerPart fraction then .error .valueUnderflow
      else .command (.profileChange (.setPacketLoss direction (nearestDouble integerPart fraction))) := by
  rw [parseSettingValue, if_neg (lossUnit hunit).1, parseLoss_eq hrounds hnumber]
  by_cases hrange : AtMostHundred integerPart fraction
  · rw [if_neg (not_not.mpr hrange), if_neg (not_not.mpr hrange)]
    by_cases hvanishes : Vanishes integerPart fraction
    · rw [if_pos hvanishes, if_pos hvanishes]
    · rw [if_neg hvanishes, if_neg hvanishes]
  · rw [if_pos hrange, if_pos hrange]

omit [DecimalText] in
/-- A value is malformed, or in no known unit, or a numeral with a unit. -/
theorem value_cases (setting : NetworkSetting) (value : NumberAndUnit) :
    (∀ integerPart fraction, ¬SettingNumeral setting value.number integerPart fraction) ∨
    ∃ integerPart fraction, SettingNumeral setting value.number integerPart fraction ∧
      ((∀ scale, (value.unit, scale) ∉ unitScales setting) ∨ ∃ scale, (value.unit, scale) ∈ unitScales setting) := by
  by_cases hnumber : ∃ integerPart fraction, SettingNumeral setting value.number integerPart fraction
  · obtain ⟨integerPart, fraction, hnumeral⟩ := hnumber
    refine .inr ⟨integerPart, fraction, hnumeral, ?_⟩
    by_cases hunit : ∃ scale, (value.unit, scale) ∈ unitScales setting
    · exact .inr hunit
    · exact .inl (not_exists.mp hunit)
  · exact .inl fun integerPart fraction hnumeral => hnumber ⟨integerPart, fraction, hnumeral⟩

omit [DecimalText] in
/-- A number of milliseconds that 64 bits hold. -/
theorem milliseconds_exact {number : Nat} {milliseconds : Int64} :
    milliseconds.toInt = number ↔ number ≤ maximumMilliseconds ∧ Int64.ofNat number = milliseconds := by
  have hbound : maximumMilliseconds = 2 ^ 63 - 1 := rfl
  constructor
  · intro h
    have hlt := milliseconds.toInt_lt
    refine ⟨by omega, Int64.toInt_inj.mp ?_⟩
    rw [Int64.toInt_ofNat_of_lt (by omega), h]
  · rintro ⟨hle, rfl⟩
    exact Int64.toInt_ofNat_of_lt (by omega)

omit [DecimalText] in
theorem kbps_exact {number : Nat} {kbps : UInt64} :
    kbps.toNat = number ↔ number ≤ maximumUnsigned ∧ UInt64.ofNat number = kbps := by
  have hbound : maximumUnsigned = 2 ^ 64 - 1 := rfl
  constructor
  · rintro rfl
    have hlt := kbps.toNat_lt
    exact ⟨by omega, UInt64.ofNat_toNat⟩
  · rintro ⟨hle, rfl⟩
    exact UInt64.toNat_ofNat_of_lt' (show number < UInt64.size by unfold UInt64.size; omega)

/-- The parser yields what a value denotes, or a rule that it breaks. -/
theorem parseValue_outcome (hrounds : RoundsCorrectly) (direction : TrafficDirection) (setting : NetworkSetting)
    (value : NumberAndUnit) :
    (∃ change, parseValue direction setting value = .command (.profileChange change) ∧
      Denotes direction value setting change) ∨
    ∃ error, parseValue direction setting value = .error error ∧ BreaksValue value setting error := by
  rcases value_cases setting value with hmalformed | ⟨integerPart, fraction, hnumeral, hunit⟩
  · exact .inr ⟨_, parseValue_malformed hmalformed, .invalidNumber hmalformed⟩
  rw [parseValue_wellFormed hnumeral]
  rcases hunit with hunknown | ⟨scale, hunit⟩
  · exact .inr ⟨_, parseSettingValue_unknownUnit hunknown, .invalidUnit hunknown⟩
  cases setting with
  | delay =>
      obtain ⟨hwhole, rfl, rfl⟩ := hnumeral.whole (by decide)
      rw [parseSettingValue_duration (.inl rfl) hwhole hunit]
      by_cases hlarge : maximumMilliseconds < decimalValue value.number * scale
      · exact .inr ⟨_, if_pos hlarge, .overflow hnumeral hunit rfl hlarge⟩
      · refine .inl ⟨_, if_neg hlarge, .delay hnumeral hunit ?_⟩
        exact_mod_cast milliseconds_exact.mpr ⟨Nat.le_of_not_lt hlarge, rfl⟩
  | jitter =>
      obtain ⟨hwhole, rfl, rfl⟩ := hnumeral.whole (by decide)
      rw [parseSettingValue_duration (.inr rfl) hwhole hunit]
      by_cases hlarge : maximumMilliseconds < decimalValue value.number * scale
      · exact .inr ⟨_, if_pos hlarge, .overflow hnumeral hunit rfl hlarge⟩
      · refine .inl ⟨_, if_neg hlarge, .jitter hnumeral hunit ?_⟩
        exact_mod_cast milliseconds_exact.mpr ⟨Nat.le_of_not_lt hlarge, rfl⟩
  | packetLoss =>
      rw [parseSettingValue_loss hrounds hnumeral hunit]
      by_cases hrange : AtMostHundred integerPart fraction
      · rw [if_neg (not_not.mpr hrange)]
        by_cases hvanishes : Vanishes integerPart fraction
        · exact .inr ⟨_, if_pos hvanishes, .underflow hnumeral hvanishes⟩
        · exact .inl ⟨_, if_neg hvanishes, .packetLoss hnumeral hunit hrange hvanishes⟩
      · exact .inr ⟨_, if_pos hrange, .lossOutOfRange hnumeral hrange⟩
  | bandwidth =>
      obtain ⟨hwhole, rfl, rfl⟩ := hnumeral.whole (by decide)
      rw [parseSettingValue_bandwidth hwhole hunit]
      by_cases hzero : decimalValue value.number = 0
      · exact .inr ⟨_, if_pos hzero, .bandwidthZero hnumeral hzero⟩
      · rw [if_neg hzero]
        by_cases hlarge : maximumUnsigned < decimalValue value.number * scale
        · exact .inr ⟨_, if_pos hlarge, .overflow hnumeral hunit rfl hlarge⟩
        · have hexact := kbps_exact.mpr ⟨Nat.le_of_not_lt hlarge, rfl⟩
          refine .inl ⟨_, if_neg hlarge, .bandwidth hnumeral hunit (fun hnone => ?_) hexact⟩
          rw [hnone] at hexact
          exact (Nat.mul_pos (Nat.pos_of_ne_zero hzero) (unitScales_pos hunit)).ne hexact

/-- What a value denotes is what the parser yields. -/
theorem parseValue_of_denotes (hrounds : RoundsCorrectly) {change : ProfileChange}
    (h : Denotes direction value setting change) :
    parseValue direction setting value = .command (.profileChange change) := by
  cases h with
  | delay hnumber hunit hexact =>
      rw [parseValue_wellFormed hnumber]
      obtain ⟨hwhole, rfl, -⟩ := hnumber.whole (by decide)
      obtain ⟨hle, rfl⟩ := milliseconds_exact.mp (by exact_mod_cast hexact)
      rw [parseSettingValue_duration (.inl rfl) hwhole hunit, if_neg (Nat.not_lt.mpr hle), if_pos rfl]
  | jitter hnumber hunit hexact =>
      rw [parseValue_wellFormed hnumber]
      obtain ⟨hwhole, rfl, -⟩ := hnumber.whole (by decide)
      obtain ⟨hle, rfl⟩ := milliseconds_exact.mp (by exact_mod_cast hexact)
      rw [parseSettingValue_duration (.inr rfl) hwhole hunit, if_neg (Nat.not_lt.mpr hle), if_neg (by decide)]
  | packetLoss hnumber hunit hrange hnonzero =>
      rw [parseValue_wellFormed hnumber, parseSettingValue_loss hrounds hnumber hunit, if_neg (not_not.mpr hrange),
        if_neg hnonzero]
  | bandwidth hnumber hunit hnonzero hexact =>
      rw [parseValue_wellFormed hnumber]
      obtain ⟨hwhole, rfl, -⟩ := hnumber.whole (by decide)
      obtain ⟨hle, rfl⟩ := kbps_exact.mp hexact
      have hpositive : decimalValue value.number ≠ 0 := by
        intro hzero
        rw [hzero, Nat.zero_mul] at hnonzero
        exact hnonzero rfl
      rw [parseSettingValue_bandwidth hwhole hunit, if_neg hpositive, if_neg (Nat.not_lt.mpr hle)]

/-- A result is a cause, and one that the documentation does not put behind another. -/
def ReportsWithin (result : ControllerParseResult) (cause : Cause) : Prop :=
  ∃ top : Cause, result = top.result ∧ top.precedence ≤ cause.precedence

/-- No rule that a value breaks is reported in place of one that comes before it. -/
theorem parseValue_highest (hrounds : RoundsCorrectly) {error : ControllerParseError}
    (h : BreaksValue value setting error) (direction : TrafficDirection) :
    ReportsWithin (parseValue direction setting value) (.error error) := by
  rcases value_cases setting value with hmalformed | ⟨integerPart, fraction, hnumeral, hunit⟩
  · refine ⟨.error .invalidNumber, parseValue_malformed hmalformed, ?_⟩
    cases h <;> decide
  rw [parseValue_wellFormed hnumeral]
  rcases hunit with hunknown | ⟨scale, hunit⟩
  · refine ⟨.error .invalidUnit, parseSettingValue_unknownUnit hunknown, ?_⟩
    cases h with
    | invalidNumber hmalformed => exact absurd hnumeral (hmalformed integerPart fraction)
    | _ => decide
  cases h with
  | invalidNumber hmalformed => exact absurd hnumeral (hmalformed integerPart fraction)
  | invalidUnit hunknown => exact absurd hunit (hunknown scale)
  | lossOutOfRange hnumber hrange =>
      rw [parseSettingValue_loss hrounds hnumber hunit, if_pos hrange]
      exact ⟨.error .valueOutOfRange, rfl, le_rfl⟩
  | bandwidthZero hnumber hzero =>
      obtain ⟨hwhole, rfl, -⟩ := hnumber.whole (by decide)
      rw [parseSettingValue_bandwidth hwhole hunit, if_pos hzero]
      exact ⟨.error .valueOutOfRange, rfl, le_rfl⟩
  | overflow hnumber hother hmaximum hlarge =>
      obtain rfl := unitScales_unique hunit hother
      cases setting with
      | delay =>
          obtain ⟨hwhole, rfl, -⟩ := hnumber.whole (by decide)
          cases hmaximum
          rw [parseSettingValue_duration (.inl rfl) hwhole hunit, if_pos hlarge]
          exact ⟨.error .valueOverflow, rfl, le_rfl⟩
      | jitter =>
          obtain ⟨hwhole, rfl, -⟩ := hnumber.whole (by decide)
          cases hmaximum
          rw [parseSettingValue_duration (.inr rfl) hwhole hunit, if_pos hlarge]
          exact ⟨.error .valueOverflow, rfl, le_rfl⟩
      | packetLoss => cases hmaximum
      | bandwidth =>
          obtain ⟨hwhole, rfl, -⟩ := hnumber.whole (by decide)
          cases hmaximum
          rw [parseSettingValue_bandwidth hwhole hunit, if_pos hlarge]
          split
          · exact ⟨.error .valueOutOfRange, rfl, by decide⟩
          · exact ⟨.error .valueOverflow, rfl, le_rfl⟩
  | underflow hnumber hvanishes =>
      rw [parseSettingValue_loss hrounds hnumber hunit, if_pos hvanishes]
      split
      · exact ⟨.error .valueOutOfRange, rfl, by decide⟩
      · exact ⟨.error .valueUnderflow, rfl, le_rfl⟩

end

end ControllerGrammar

end NetLagLab
