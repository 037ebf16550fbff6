import NetLagLab.ControllerCommands

/-! The three grammars of a Profile Change agree. What the helper reads is the canonical spelling of what it makes of
it, every change that a default profile takes has such a spelling, and so has every change of a Controller. -/

namespace NetLagLab

open ByteLines

/-! ### Canonical spellings are the only ones -/

theorem ofNat_digit {byte : UInt8} (h : isDigit byte = true) : UInt8.ofNat (48 + (byte.toNat - 48)) = byte := by
  have hbound : 48 ≤ byte.toNat := UInt8.le_iff_toNat_le.mp (of_decide_eq_true h).1
  rw [Nat.add_sub_cancel' hbound, UInt8.ofNat_toNat]

theorem digit_ne_zero {byte : UInt8} (h : isDigit byte = true) (hzero : byte ≠ 48) : byte.toNat - 48 ≠ 0 := by
  have hbyte := ofNat_digit h
  intro hnone
  rw [hnone] at hbyte
  exact hzero hbyte.symm

/-- A digit string without a leading zero is the numeral of its value. -/
theorem decimalText_decimalValue {token : Bytes} (h : hasCanonicalUnsignedSpelling token = true) :
    decimalText (decimalValue token) = token := by
  unfold hasCanonicalUnsignedSpelling at h
  split at h
  · exact nomatch h
  rename_i hspelling
  rw [not_or, not_and] at hspelling
  obtain ⟨hsome, hlead⟩ := hspelling
  have hdigits := List.all_eq_true.mp h
  -- the digits of the value, the last one first
  let digits := (token.map fun byte => byte.toNat - 48).reverse
  have htoken : digits.reverse.map (fun digit => UInt8.ofNat (48 + digit)) = token := by
    rw [List.reverse_reverse, List.map_map]
    exact (List.map_congr_left fun byte hbyte => ofNat_digit (hdigits byte hbyte)).trans (List.map_id token)
  have hbounds : ∀ digit ∈ digits, digit < 10 := by
    intro digit hdigit
    obtain ⟨byte, hbyte, rfl⟩ := List.mem_map.mp (List.mem_reverse.mp hdigit)
    exact Nat.lt_succ_of_le (digit_sub_le (hdigits byte hbyte))
  have hvalue : decimalValue token = Nat.ofDigits 10 digits := by
    conv_lhs => rw [← htoken]
    exact foldl_digits digits hbounds
  rcases token with _ | ⟨first, rest⟩
  · exact absurd rfl hsome
  by_cases hfirst : first = 48
  · rcases rest with _ | ⟨second, rest⟩
    · rw [hfirst]
      rfl
    · refine absurd (by rw [hfirst]; rfl) (hlead ?_)
      simp
  · have hlast : ∀ hne : digits ≠ [], digits.getLast hne ≠ 0 := by
      intro hne
      rw [List.getLast_reverse]
      exact digit_ne_zero (hdigits first List.mem_cons_self) hfirst
    have hall := Nat.digits_ofDigits 10 (by decide) digits hbounds hlast
    have hpositive : Nat.ofDigits 10 digits ≠ 0 := by
      intro hzero
      rw [hzero, Nat.digits_zero] at hall
      simp [digits] at hall
    rw [hvalue, decimalText, if_neg hpositive, hall, htoken]

/-- Tokens of a line stand in it with one space between them. -/
theorem line_of_splitWireTokens {line first second third : Bytes}
    (h : splitWireTokens line = some [first, second, third]) :
    line = first ++ space :: (second ++ space :: third) := by
  unfold splitWireTokens at h
  dsimp only at h
  rw [Option.ite_none_left_eq_some, Option.ite_none_left_eq_some] at h
  obtain ⟨-, -, htokens⟩ := h
  have hpieces := Option.some.inj htokens
  rw [show [first, second, third] = [first, second] ++ [third] from rfl] at hpieces
  obtain ⟨hfront, hlast⟩ := List.append_inj' hpieces rfl
  have hjoin := splitAtMark_join space line
  rw [hfront, List.singleton_inj.mp hlast] at hjoin
  rw [← hjoin, encodeMarked_cons, encodeMarked_cons, encodeMarked_nil, List.append_assoc, List.cons_append,
    List.append_assoc, List.singleton_append]

theorem directionToken_of_parseDirection {token : Bytes} {direction : TrafficDirection}
    (h : parseDirection token = some direction) : token = directionToken direction := by
  unfold parseDirection at h
  split at h
  · cases h
    assumption
  · split at h
    · cases h
      assumption
    · exact nomatch h

theorem settingToken_of_parseSetting {token : Bytes} {setting : NetworkSetting}
    (h : parseSetting token = some setting) : token = settingToken setting := by
  unfold parseSetting at h
  split at h
  · cases h
    assumption
  · split at h
    · cases h
      assumption
    · split at h
      · cases h
        assumption
      · split at h
        · cases h
          assumption
        · exact nomatch h

theorem parseCanonicalUnsigned_eq_some {token : Bytes} {maximum value : Nat}
    (h : parseCanonicalUnsigned token maximum = some value) : token = decimalText value ∧ value ≤ maximum := by
  unfold parseCanonicalUnsigned at h
  rw [Option.ite_none_left_eq_some, Option.ite_none_left_eq_some] at h
  obtain ⟨hspelling, hrange, hvalue⟩ := h
  obtain rfl := Option.some.inj hvalue
  rw [decimalText_decimalValue (Bool.eq_true_of_not_eq_false hspelling)]
  exact ⟨rfl, Nat.not_lt.mp fun hover => hrange (Or.inr hover)⟩

/-- A number that is neither negative nor a zero. -/
theorem Double.isPercentage_of_not_isZero {value : Double} (hfinite : value.isFinite = true)
    (hsign : value.isNegative = false) (hbound : value.exceedsHundred = false) (hzero : value.isZero = false) :
    value.IsPercentage := by
  refine ⟨hfinite, ?_, hbound⟩
  unfold Double.isNegative at hsign
  rwa [Double.isNaN_eq_false_of_isFinite hfinite, hzero, Bool.not_false, Bool.and_true, Bool.and_true] at hsign

theorem Double.isPercentage_zero : Double.zero.IsPercentage := by decide

theorem noLoss_legal (direction : TrafficDirection) : (ProfileChange.setPacketLoss direction Double.zero).Legal :=
  ProfileChange.Canonical.legal (show (ProfileChange.setPacketLoss direction _).Canonical from Double.isPercentage_zero)

/-- Zero has one spelling only, and so has every other percentage. -/
theorem Double.eq_of_same {left right : Double} (hleft : left.IsPercentage) (hright : right.IsPercentage)
    (h : left.same right = true) : left = right := by
  have hzero : ∀ value : Double, value.IsPercentage → value.isZero = true → value.bits.toNat = 0 := by
    intro value hvalue hzero
    have hsign := hvalue.2.1
    rw [Double.signBit, BitVec.msb_eq_false_iff_two_mul_lt] at hsign
    rw [Double.isZero, decide_eq_true_eq, Double.magnitude] at hzero
    omega
  simp only [Double.same, Bool.and_eq_true, Bool.or_eq_true, decide_eq_true_eq] at h
  rcases h.2 with rfl | ⟨hzeroLeft, hzeroRight⟩
  · rfl
  · have hbits := (hzero left hleft hzeroLeft).trans (hzero right hright hzeroRight).symm
    rcases left with ⟨left⟩
    rcases right with ⟨right⟩
    exact congrArg Double.mk (BitVec.eq_of_toNat_eq hbits)

/-- The change with the spelling of its loss: without the sign of a zero. -/
def ProfileChange.normalized : ProfileChange → ProfileChange
  | .setPacketLoss direction percent =>
      .setPacketLoss direction (if percent.isZero = true then Double.zero else percent)
  | change => change

theorem ProfileChange.canonical_normalized {change : ProfileChange} (h : change.Legal) :
    change.normalized.Canonical := by
  cases change with
  | setPacketLoss direction percent =>
      obtain ⟨hfinite, hsign, hbound⟩ := h
      change (if percent.isZero = true then Double.zero else percent).IsPercentage
      by_cases hzero : percent.isZero = true
      · rw [if_pos hzero]
        exact Double.isPercentage_zero
      · rw [if_neg hzero]
        exact Double.isPercentage_of_not_isZero hfinite hsign hbound (Bool.eq_false_of_not_eq_true hzero)
  | _ => exact h

/-- To the program a change and its normalized form are equal. -/
theorem ProfileChange.same_normalized {change : ProfileChange} (h : change.Legal) :
    change.same change.normalized = true := by
  cases change with
  | setPacketLoss direction percent =>
      rw [ProfileChange.normalized, ProfileChange.same, decide_eq_true rfl, Bool.true_and]
      by_cases hzero : percent.isZero = true
      · have hself : Double.zero.isNaN = false ∧ Double.zero.isZero = true := by decide
        rw [if_pos hzero, Double.same, Double.isNaN_eq_false_of_isFinite h.1, hzero, hself.1, hself.2, Bool.true_and,
          Bool.or_true]
        rfl
      · rw [if_neg hzero]
        exact Double.same_self h.1
  | _ => exact ProfileChange.same_self h

/-- Canonical changes that are equal to the program are the same. -/
theorem ProfileChange.eq_of_same {left right : ProfileChange} (hleft : left.Canonical) (hright : right.Canonical)
    (h : left.same right = true) : left = right := by
  cases left with
  | setPacketLoss direction percent =>
      cases right with
      | setPacketLoss direction' percent' =>
          rw [ProfileChange.same, Bool.and_eq_true, decide_eq_true_eq] at h
          rw [h.1, Double.eq_of_same hleft hright h.2]
      | _ => cases h
  | _ => exact of_decide_eq_true h

section Codec

variable [DecimalText] {value : Double} {token line : Bytes} {change : ProfileChange} {command : HelperRuntimeCommand}

theorem serializeLoss_eq_some (h : serializeLoss value = some token) :
    (value.isFinite = true ∧ value.isNegative = false ∧ value.exceedsHundred = false) ∧
      token = DecimalText.toChars (if value.isZero = true then Double.zero else value) := by
  unfold serializeLoss at h
  rw [Option.ite_none_left_eq_some] at h
  dsimp only at h
  rw [Option.ite_none_left_eq_some] at h
  obtain ⟨hlegal, -, htoken⟩ := h
  refine ⟨?_, (Option.some.inj htoken).symm⟩
  simpa [and_assoc] using hlegal

/-- A loss that is read has the spelling that it is read from. -/
theorem parseCanonicalLoss_eq_some (h : parseCanonicalLoss token = some value) :
    value.IsPercentage ∧ token = DecimalText.toChars value := by
  unfold parseCanonicalLoss at h
  split at h
  · rename_i found hfound
    rw [Option.ite_none_right_eq_some] at h
    obtain ⟨hspelling, hvalue⟩ := h
    obtain rfl := Option.some.inj hvalue
    obtain ⟨⟨hfinite, hsign, hbound⟩, rfl⟩ := serializeLoss_eq_some hspelling
    by_cases hzero : found.isZero = true
    · -- the spelling is that of the zero, and is read as it
      rw [if_pos hzero, DecimalText.fromChars_toChars _ Double.isPercentage_zero] at hfound
      injection hfound with hfound
      rw [if_pos hzero, ← hfound]
      exact ⟨Double.isPercentage_zero, rfl⟩
    · rw [if_neg hzero]
      exact ⟨Double.isPercentage_of_not_isZero hfinite hsign hbound (Bool.eq_false_of_not_eq_true hzero), rfl⟩
  · exact nomatch h

omit [DecimalText] in
theorem milliseconds_of_parse {value : Nat} (h : parseCanonicalUnsigned token maximumMilliseconds = some value) :
    0 ≤ Int64.ofNat value ∧ token = decimalTextInt (Int64.ofNat value).toInt := by
  obtain ⟨rfl, hbound⟩ := parseCanonicalUnsigned_eq_some h
  have hlt : value < 2 ^ 63 := by
    unfold maximumMilliseconds at hbound
    omega
  have hvalue := Int64.toInt_ofNat_of_lt hlt
  refine ⟨?_, ?_⟩
  · rw [Int64.le_iff_toInt_le, hvalue]
    exact Int.natCast_nonneg value
  · rw [hvalue, decimalTextInt, if_neg (by omega), Int.toNat_natCast]

omit [DecimalText] in
theorem bandwidth_of_parse {value : Nat} (h : parseCanonicalUnsigned token maximumUnsigned = some value)
    (hsome : value ≠ 0) : UInt64.ofNat value ≠ 0 ∧ token = decimalText (UInt64.ofNat value).toNat := by
  obtain ⟨rfl, hbound⟩ := parseCanonicalUnsigned_eq_some h
  have hlt : value < 2 ^ 64 := by
    unfold maximumUnsigned at hbound
    omega
  have hvalue := UInt64.toNat_ofNat_of_lt' hlt
  refine ⟨fun hzero => ?_, by rw [hvalue]⟩
  rw [hzero] at hvalue
  exact hsome hvalue.symm

/-- The tokens of a change are those of its line. -/
theorem parseProfileChange_eq_some {verb directionText valueText : Bytes}
    (h : parseProfileChange [verb, directionText, valueText] = some change) :
    change.Canonical ∧ verb = change.verb ∧ directionText = directionToken change.direction ∧
      valueText = change.valueText := by
  unfold parseProfileChange at h
  dsimp only at h
  split at h
  · exact nomatch h
  rename_i direction hdirection
  have hdirection := directionToken_of_parseDirection hdirection
  split at h
  · rename_i hverb
    split at h
    · exact nomatch h
    · rename_i value hvalue
      obtain ⟨hnonneg, htext⟩ := milliseconds_of_parse hvalue
      split at h
      · rename_i hdelay
        cases h
        exact ⟨hnonneg, hdelay, hdirection, htext⟩
      · rename_i hjitter
        cases h
        exact ⟨hnonneg, hverb.resolve_left hjitter, hdirection, htext⟩
  · split at h
    · rename_i hverb
      split at h
      · exact nomatch h
      · rename_i value hvalue
        rw [Option.ite_none_left_eq_some] at h
        obtain ⟨hsome, htext⟩ := bandwidth_of_parse hvalue h.1
        cases h.2
        exact ⟨hsome, hverb, hdirection, htext⟩
    · split at h
      · rename_i hverb
        obtain ⟨value, hvalue, rfl⟩ := Option.map_eq_some_iff.mp h
        obtain ⟨hpercentage, htext⟩ := parseCanonicalLoss_eq_some hvalue
        exact ⟨hpercentage, hverb, hdirection, htext⟩
      · split at h
        · rename_i hverb
          obtain ⟨setting, hsetting, rfl⟩ := Option.map_eq_some_iff.mp h
          exact ⟨trivial, hverb, hdirection, settingToken_of_parseSetting hsetting⟩
        · exact nomatch h

/-- The helper reads canonical commands, each from its own line. -/
theorem parseHelperRuntimeCommand_eq_some_iff :
    parseHelperRuntimeCommand line = some command ↔ command.Canonical ∧ line = command.line := by
  constructor
  · intro h
    unfold parseHelperRuntimeCommand at h
    split at h
    · cases h
      exact ⟨trivial, ‹_›⟩
    · split at h
      · cases h
        exact ⟨trivial, ‹_›⟩
      · split at h
        · cases h
          exact ⟨trivial, ‹_›⟩
        · split at h
          · exact nomatch h
          · rename_i tokens htokens
            obtain ⟨change, hchange, rfl⟩ := Option.map_eq_some_iff.mp h
            obtain ⟨verb, directionText, valueText, rfl⟩ : ∃ verb directionText valueText,
                tokens = [verb, directionText, valueText] := by
              unfold parseProfileChange at hchange
              split at hchange
              · exact ⟨_, _, _, rfl⟩
              · exact nomatch hchange
            obtain ⟨hcanonical, rfl, rfl, rfl⟩ := parseProfileChange_eq_some hchange
            exact ⟨hcanonical, line_of_splitWireTokens htokens⟩
  · rintro ⟨hcanonical, rfl⟩
    exact (helperRuntimeCommandMessage_spec hcanonical).2.2.2

/-- The comparison of two commands by the program. -/
def HelperRuntimeCommand.same : HelperRuntimeCommand → HelperRuntimeCommand → Bool
  | .profileChange left, .profileChange right => left.same right
  | left, right => decide (left = right)

omit [DecimalText] in
theorem HelperRuntimeCommand.eq_of_same {left right : HelperRuntimeCommand} (hleft : left.Canonical)
    (hright : right.Canonical) (h : left.same right = true) : left = right := by
  cases left with
  | profileChange change =>
      cases right with
      | profileChange change' => exact congrArg _ (ProfileChange.eq_of_same hleft hright h)
      | _ => exact nomatch h
  | _ => exact of_decide_eq_true h

/-- A command is one line, which is read as an equal command. -/
def HelperRuntimeCommand.Coded (command : HelperRuntimeCommand) : Prop :=
  ∃ line decoded, helperRuntimeCommandMessage command = line ++ [newline] ∧ newline ∉ line ∧
    parseHelperRuntimeCommand line = some decoded ∧ command.same decoded = true

/-- A zero is written without its sign. -/
theorem serializeLoss_normalized (hfinite : value.isFinite = true) (hsign : value.isNegative = false)
    (hbound : value.exceedsHundred = false) :
    serializeLoss value = serializeLoss (if value.isZero = true then Double.zero else value) := by
  by_cases hzero : value.isZero = true
  · rw [if_pos hzero, serializeLoss_of_isPercentage Double.isPercentage_zero]
    simp [serializeLoss, hfinite, hsign, hbound, hzero, DecimalText.length_toChars _ Double.isPercentage_zero]
  · rw [if_neg hzero]

theorem serializeProfileChange_normalized (h : change.Legal) :
    serializeProfileChange change = serializeProfileChange change.normalized := by
  cases change with
  | setPacketLoss direction percent =>
      have hnormalized := (ProfileChange.canonical_normalized h).legal
      unfold serializeProfileChange
      rw [applyProfileChange_of_legal validate_default h, applyProfileChange_of_legal validate_default hnormalized]
      dsimp only [ProfileChange.normalized]
      rw [serializeLoss_normalized h.1 h.2.1 h.2.2]
  | _ => rfl

theorem coded_of_legal (h : change.Legal) : (HelperRuntimeCommand.profileChange change).Coded := by
  have hcanonical : (HelperRuntimeCommand.profileChange change.normalized).Canonical :=
    ProfileChange.canonical_normalized h
  obtain ⟨hmessage, hnewline, -, hparse⟩ := helperRuntimeCommandMessage_spec hcanonical
  exact ⟨_, _, (serializeProfileChange_normalized h).trans hmessage, hnewline, hparse, ProfileChange.same_normalized h⟩

/-- Every change that a default profile takes and every stop is one line that is read as an equal command. What is
read is written as the line it was read from, so no command has two. And so are the changes of a Controller. -/
theorem runtimeCommand_codec :
    (∀ change profile, applyProfileChange {} change = .ok profile → (HelperRuntimeCommand.profileChange change).Coded) ∧
      (∀ command : HelperRuntimeCommand, command.isStop = true → command.Coded) ∧
      (∀ line command, parseHelperRuntimeCommand line = some command →
        helperRuntimeCommandMessage command = line ++ [newline]) ∧
      (∀ line other command again, parseHelperRuntimeCommand line = some command →
        parseHelperRuntimeCommand other = some again → command.same again = true → line = other) ∧
      ∀ line change, parseControllerCommand line = .command (.profileChange change) →
        (HelperRuntimeCommand.profileChange change).Coded := by
  refine ⟨fun change profile h => ?_, fun command hstop => ?_, fun line command h => ?_,
    fun line other command again h hagain hsame => ?_, fun line change h => ?_⟩
  · exact coded_of_legal (legal_of_applyProfileChange validate_default h).1
  · have hcanonical : command.Canonical := by
      cases command with
      | profileChange change => exact nomatch hstop
      | _ => exact trivial
    obtain ⟨hmessage, hnewline, -, hparse⟩ := helperRuntimeCommandMessage_spec hcanonical
    refine ⟨_, _, hmessage, hnewline, hparse, ?_⟩
    cases command with
    | profileChange change => exact nomatch hstop
    | _ => rfl
  · obtain ⟨hcanonical, rfl⟩ := parseHelperRuntimeCommand_eq_some_iff.mp h
    exact (helperRuntimeCommandMessage_spec hcanonical).1
  · obtain ⟨hcanonical, rfl⟩ := parseHelperRuntimeCommand_eq_some_iff.mp h
    obtain ⟨hcanonicalAgain, rfl⟩ := parseHelperRuntimeCommand_eq_some_iff.mp hagain
    rw [HelperRuntimeCommand.eq_of_same hcanonical hcanonicalAgain hsame]
  · exact coded_of_legal (canonical_of_parseControllerCommand h).legal

end Codec

theorem runtimeCommand_codec_noLoss :
    @HelperRuntimeCommand.Coded bitPatternText (.profileChange (.setPacketLoss .outbound Double.zero)) :=
  (@runtimeCommand_codec bitPatternText).1 _ _
    (applyProfileChange_of_legal validate_default (noLoss_legal _))

end NetLagLab
