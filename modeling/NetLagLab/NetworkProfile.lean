import NetLagLab.ByteLines

/-! The Network Profile: the settings of the two traffic directions, their validation, and the
changes a Controller can ask for. -/

namespace NetLagLab

open ByteLines

/-- A `double`, as its IEEE 754 binary64 pattern. -/
structure Double where
  bits : BitVec 64
  deriving DecidableEq, Repr

namespace Double

def zero : Double := ⟨0⟩

/-- The bits without the sign: they order the values of one sign. -/
def magnitude (value : Double) : Nat := value.bits.toNat % 2 ^ 63

def signBit (value : Double) : Bool := value.bits.msb

/-- `std::isfinite`: the exponent field is not all ones. -/
def isFinite (value : Double) : Bool := decide (value.magnitude < 0x7FF0000000000000)

def isNaN (value : Double) : Bool := decide (0x7FF0000000000000 < value.magnitude)

/-- The comparison `value == 0.0`, true of both zeros. -/
def isZero (value : Double) : Bool := decide (value.magnitude = 0)

/-- The comparison `value < 0.0`. -/
def isNegative (value : Double) : Bool := value.signBit && !value.isNaN && !value.isZero

/-- The comparison `value > 100.0`; the pattern is that of `100.0`. -/
def exceedsHundred (value : Double) : Bool :=
  !value.signBit && !value.isNaN && decide (0x4059000000000000 < value.magnitude)

/-- The comparison `left == right`. -/
def same (left right : Double) : Bool :=
  !left.isNaN && !right.isNaN && (decide (left = right) || (left.isZero && right.isZero))

/-- The finite values from 0 to 100 that are not the negative zero. -/
def IsPercentage (value : Double) : Prop :=
  value.isFinite = true ∧ value.signBit = false ∧ value.exceedsHundred = false

instance isPercentageDecidable (value : Double) : Decidable value.IsPercentage :=
  inferInstanceAs (Decidable (_ ∧ _ ∧ _))

theorem isNaN_eq_false_of_isFinite {value : Double} (h : value.isFinite = true) :
    value.isNaN = false := by
  simp only [isFinite, decide_eq_true_eq] at h
  simp only [isNaN, decide_eq_false_iff_not]
  omega

/-- The patterns up to that of `100.0` are those of the percentages. -/
theorem isPercentage_of_toNat_le {value : Double} (h : value.bits.toNat ≤ 0x4059000000000000) :
    value.IsPercentage := by
  have hmagnitude : value.magnitude = value.bits.toNat := Nat.mod_eq_of_lt (by omega)
  refine ⟨?_, ?_, ?_⟩
  · rw [isFinite, hmagnitude, decide_eq_true_eq]
    omega
  · rw [signBit, BitVec.msb_eq_false_iff_two_mul_lt]
    omega
  · rw [exceedsHundred, hmagnitude, decide_eq_false (Nat.not_lt.mpr h), Bool.and_false]

theorem same_self {value : Double} (h : value.isFinite = true) : value.same value = true := by
  simp [same, isNaN_eq_false_of_isFinite h]

end Double

inductive TrafficDirection where
  | outbound
  | inbound
  deriving DecidableEq, Repr

inductive NetworkSetting where
  | delay
  | jitter
  | packetLoss
  | bandwidth
  deriving DecidableEq, Repr

/-- The settings of one direction; delay and jitter count milliseconds. -/
structure DirectionSettings where
  delay : Int64 := 0
  jitter : Int64 := 0
  packetLossPercent : Double := Double.zero
  bandwidthKbps : Option UInt64 := none
  deriving DecidableEq

/-- The comparison `left == right`. -/
def DirectionSettings.same (left right : DirectionSettings) : Bool :=
  decide (left.delay = right.delay) && decide (left.jitter = right.jitter)
    && left.packetLossPercent.same right.packetLossPercent
    && decide (left.bandwidthKbps = right.bandwidthKbps)

structure NetworkProfile where
  outbound : DirectionSettings := {}
  inbound : DirectionSettings := {}
  deriving DecidableEq

structure ValidationError where
  direction : TrafficDirection
  setting : NetworkSetting
  message : String
  deriving DecidableEq

inductive ProfileChange where
  | setDelay (direction : TrafficDirection) (value : Int64)
  | setJitter (direction : TrafficDirection) (value : Int64)
  | setPacketLoss (direction : TrafficDirection) (percent : Double)
  | setBandwidth (direction : TrafficDirection) (kbps : UInt64)
  | resetSetting (direction : TrafficDirection) (setting : NetworkSetting)
  deriving DecidableEq

namespace ProfileChange

/-- The comparison `left == right` of two changes. -/
def same : ProfileChange → ProfileChange → Bool
  | .setPacketLoss direction percent, .setPacketLoss direction' percent' =>
      decide (direction = direction') && percent.same percent'
  | left, right => decide (left = right)

def direction : ProfileChange → TrafficDirection
  | .setDelay direction _ => direction
  | .setJitter direction _ => direction
  | .setPacketLoss direction _ => direction
  | .setBandwidth direction _ => direction
  | .resetSetting direction _ => direction

end ProfileChange

def validateDirection (settings : DirectionSettings) (direction : TrafficDirection) :
    List ValidationError :=
  (if settings.delay < 0 then [⟨direction, .delay, "Delay cannot be negative"⟩] else [])
  ++ (if settings.jitter < 0 then [⟨direction, .jitter, "Jitter cannot be negative"⟩] else [])
  ++ (if !settings.packetLossPercent.isFinite then
        [⟨direction, .packetLoss, "Packet loss must be a finite number"⟩]
      else if settings.packetLossPercent.isNegative || settings.packetLossPercent.exceedsHundred then
        [⟨direction, .packetLoss, "Packet loss must be between 0 and 100"⟩]
      else [])
  ++ (if settings.bandwidthKbps = some 0 then
        [⟨direction, .bandwidth, "Bandwidth limit must be greater than zero"⟩]
      else [])

def validate (profile : NetworkProfile) : List ValidationError :=
  validateDirection profile.outbound .outbound ++ validateDirection profile.inbound .inbound

/-- The settings of a direction with the operation of a change carried out on them. -/
def ProfileChange.applyTo (settings : DirectionSettings) : ProfileChange → DirectionSettings
  | .setDelay _ value => { settings with delay := value }
  | .setJitter _ value => { settings with jitter := value }
  | .setPacketLoss _ percent => { settings with packetLossPercent := percent }
  | .setBandwidth _ kbps => { settings with bandwidthKbps := some kbps }
  | .resetSetting _ .delay => { settings with delay := 0 }
  | .resetSetting _ .jitter => { settings with jitter := 0 }
  | .resetSetting _ .packetLoss => { settings with packetLossPercent := Double.zero }
  | .resetSetting _ .bandwidth => { settings with bandwidthKbps := none }

/-- The profile a change makes before it is validated. -/
def NetworkProfile.changed (profile : NetworkProfile) (change : ProfileChange) : NetworkProfile :=
  match change.direction with
  | .outbound => { profile with outbound := change.applyTo profile.outbound }
  | .inbound => { profile with inbound := change.applyTo profile.inbound }

def applyProfileChange (profile : NetworkProfile) (change : ProfileChange) :
    Except (List ValidationError) NetworkProfile :=
  let errors := validate (profile.changed change)
  if errors ≠ [] then .error errors else .ok (profile.changed change)

/-- The value of a change is one its setting can take. This is what `applyProfileChange` checks of
the change itself, whatever profile it is applied to. -/
def ProfileChange.Legal : ProfileChange → Prop
  | .setDelay _ value => 0 ≤ value
  | .setJitter _ value => 0 ≤ value
  | .setPacketLoss _ percent =>
      percent.isFinite = true ∧ percent.isNegative = false ∧ percent.exceedsHundred = false
  | .setBandwidth _ kbps => kbps ≠ 0
  | .resetSetting _ _ => True

instance ProfileChange.legalDecidable : (change : ProfileChange) → Decidable change.Legal
  | .setDelay _ value => inferInstanceAs (Decidable (0 ≤ value))
  | .setJitter _ value => inferInstanceAs (Decidable (0 ≤ value))
  | .setPacketLoss _ percent => inferInstanceAs (Decidable
      (percent.isFinite = true ∧ percent.isNegative = false ∧ percent.exceedsHundred = false))
  | .setBandwidth _ kbps => inferInstanceAs (Decidable (kbps ≠ 0))
  | .resetSetting _ _ => inferInstanceAs (Decidable True)

theorem validateDirection_eq_nil_iff (settings : DirectionSettings) (direction : TrafficDirection) :
    validateDirection settings direction = [] ↔
      0 ≤ settings.delay ∧ 0 ≤ settings.jitter ∧
      (settings.packetLossPercent.isFinite = true ∧ settings.packetLossPercent.isNegative = false ∧
        settings.packetLossPercent.exceedsHundred = false) ∧ settings.bandwidthKbps ≠ some 0 := by
  simp only [validateDirection, List.append_eq_nil_iff, ite_eq_right_iff, List.cons_ne_nil,
    imp_false, Int64.not_lt]
  rw [and_assoc, and_assoc]
  refine and_congr Iff.rfl (and_congr Iff.rfl (and_congr ?_ Iff.rfl))
  cases settings.packetLossPercent.isFinite <;> simp

theorem validate_eq_nil_iff (profile : NetworkProfile) :
    validate profile = [] ↔
      validateDirection profile.outbound .outbound = [] ∧
      validateDirection profile.inbound .inbound = [] := by
  simp [validate]

/-- A change of a valid direction is valid exactly when its own value is legal. -/
theorem validateDirection_applyTo_iff {settings : DirectionSettings} {direction : TrafficDirection}
    (h : validateDirection settings direction = []) (change : ProfileChange) :
    validateDirection (change.applyTo settings) direction = [] ↔ change.Legal := by
  rw [validateDirection_eq_nil_iff] at h ⊢
  cases change with
  | resetSetting target setting =>
      have hzero : Double.zero.isFinite = true ∧ Double.zero.isNegative = false ∧
          Double.zero.exceedsHundred = false := by decide
      cases setting <;> simp [ProfileChange.applyTo, ProfileChange.Legal, h, hzero]
  | _ => simp [ProfileChange.applyTo, ProfileChange.Legal, h]

theorem validate_changed_iff {profile : NetworkProfile} (h : validate profile = [])
    (change : ProfileChange) : validate (profile.changed change) = [] ↔ change.Legal := by
  rw [validate_eq_nil_iff] at h ⊢
  unfold NetworkProfile.changed
  cases hdirection : change.direction with
  | outbound => simp [validateDirection_applyTo_iff h.1, h.2]
  | inbound => simp [validateDirection_applyTo_iff h.2, h.1]

/-- On a valid profile a change succeeds exactly when it is legal. -/
theorem applyProfileChange_of_legal {profile : NetworkProfile} (h : validate profile = [])
    {change : ProfileChange} (hlegal : change.Legal) :
    applyProfileChange profile change = .ok (profile.changed change) := by
  simp [applyProfileChange, (validate_changed_iff h change).mpr hlegal]

theorem legal_of_applyProfileChange {profile result : NetworkProfile} (h : validate profile = [])
    {change : ProfileChange} (happly : applyProfileChange profile change = .ok result) :
    change.Legal ∧ result = profile.changed change := by
  rw [applyProfileChange] at happly
  split at happly
  · cases happly
  · rename_i hvalid
    rw [ne_eq, not_not] at hvalid
    injection happly with hresult
    exact ⟨(validate_changed_iff h change).mp hvalid, hresult.symm⟩

theorem validate_default : validate {} = [] := by decide

/-- A successful change leaves a valid profile. -/
theorem validate_of_applyProfileChange {profile result : NetworkProfile} {change : ProfileChange}
    (happly : applyProfileChange profile change = .ok result) : validate result = [] := by
  rw [applyProfileChange] at happly
  split at happly
  · cases happly
  · rename_i hvalid
    injection happly with hresult
    rwa [ne_eq, not_not, hresult] at hvalid

/-- A legal change is equal to itself: its loss value is a number. -/
theorem ProfileChange.same_self {change : ProfileChange} (h : change.Legal) :
    change.same change = true := by
  cases change with
  | setPacketLoss direction percent =>
      simp only [ProfileChange.same, decide_true, Bool.true_and]
      exact Double.same_self h.1
  | _ => simp [ProfileChange.same]

end NetLagLab
