import Mathlib.Logic.Function.Basic
import NetLagLab.NetworkProfile

/-! The algebra of Profile Changes. A profile is seen as a value for each slot, a direction with a setting; a change that
succeeds updates one slot, so the laws of changes are those of updated functions. The enumerations of a change are taken
as the integers they are here, so that a change may name a direction or a setting that does not exist. -/

namespace NetLagLab

/-! ### Slots -/

abbrev Slot := TrafficDirection × NetworkSetting

inductive SlotValue where
  | milliseconds (value : Int64)
  | percent (value : Double)
  | kbps (value : Option UInt64)
  deriving DecidableEq

/-- A value that its setting can take. -/
def SlotValue.Legal : SlotValue → Prop
  | .milliseconds value => 0 ≤ value
  | .percent value => value.isFinite = true ∧ value.isNegative = false ∧ value.exceedsHundred = false
  | .kbps value => value ≠ some 0

/-- The unrestricted value of a setting. -/
def unrestricted : NetworkSetting → SlotValue
  | .delay => .milliseconds 0
  | .jitter => .milliseconds 0
  | .packetLoss => .percent Double.zero
  | .bandwidth => .kbps none

def DirectionSettings.view (settings : DirectionSettings) : NetworkSetting → SlotValue
  | .delay => .milliseconds settings.delay
  | .jitter => .milliseconds settings.jitter
  | .packetLoss => .percent settings.packetLossPercent
  | .bandwidth => .kbps settings.bandwidthKbps

def NetworkProfile.directionSettings (profile : NetworkProfile) : TrafficDirection → DirectionSettings
  | .outbound => profile.outbound
  | .inbound => profile.inbound

def NetworkProfile.withSettings (profile : NetworkProfile) (settings : DirectionSettings) : TrafficDirection → NetworkProfile
  | .outbound => { profile with outbound := settings }
  | .inbound => { profile with inbound := settings }

/-- The value of every slot. -/
def NetworkProfile.view (profile : NetworkProfile) (slot : Slot) : SlotValue := (profile.directionSettings slot.1).view slot.2

section View

end View

/-! ### Changes -/

namespace Unchecked

def directionOf (direction : Int32) : Option TrafficDirection :=
  if direction = 0 then some .outbound else if direction = 1 then some .inbound else none

def settingOf (setting : Int32) : Option NetworkSetting :=
  if setting = 0 then some .delay
  else if setting = 1 then some .jitter
  else if setting = 2 then some .packetLoss
  else if setting = 3 then some .bandwidth
  else none

def directionCode : TrafficDirection → Int32
  | .outbound => 0
  | .inbound => 1

def settingCode : NetworkSetting → Int32
  | .delay => 0
  | .jitter => 1
  | .packetLoss => 2
  | .bandwidth => 3

inductive ProfileChange where
  | setDelay (direction : Int32) (value : Int64)
  | setJitter (direction : Int32) (value : Int64)
  | setPacketLoss (direction : Int32) (percent : Double)
  | setBandwidth (direction : Int32) (kbps : UInt64)
  | resetSetting (direction setting : Int32)
  deriving DecidableEq

structure ValidationError where
  direction : Int32
  setting : Int32
  message : String
  deriving DecidableEq

namespace ProfileChange

def direction : ProfileChange → Int32
  | .setDelay direction _ => direction
  | .setJitter direction _ => direction
  | .setPacketLoss direction _ => direction
  | .setBandwidth direction _ => direction
  | .resetSetting direction _ => direction

def setting : ProfileChange → Int32
  | .setDelay _ _ => settingCode .delay
  | .setJitter _ _ => settingCode .jitter
  | .setPacketLoss _ _ => settingCode .packetLoss
  | .setBandwidth _ _ => settingCode .bandwidth
  | .resetSetting _ setting => setting

/-- The operation on the settings of a direction; nothing where it is to reset a setting that does not exist. -/
def operate (settings : DirectionSettings) : ProfileChange → Option DirectionSettings
  | .setDelay _ value => some { settings with delay := value }
  | .setJitter _ value => some { settings with jitter := value }
  | .setPacketLoss _ percent => some { settings with packetLossPercent := percent }
  | .setBandwidth _ kbps => some { settings with bandwidthKbps := some kbps }
  | .resetSetting _ setting =>
      match settingOf setting with
      | some .delay => some { settings with delay := 0 }
      | some .jitter => some { settings with jitter := 0 }
      | some .packetLoss => some { settings with packetLossPercent := Double.zero }
      | some .bandwidth => some { settings with bandwidthKbps := none }
      | none => none

/-- The slot that a change names, if there is one. -/
def slot (change : ProfileChange) : Option Slot :=
  (directionOf change.direction).bind fun direction => (settingOf change.setting).map fun setting => (direction, setting)

/-- The value that a change puts into a setting. -/
def value (setting : NetworkSetting) : ProfileChange → SlotValue
  | .setDelay _ value => .milliseconds value
  | .setJitter _ value => .milliseconds value
  | .setPacketLoss _ percent => .percent percent
  | .setBandwidth _ kbps => .kbps (some kbps)
  | .resetSetting _ _ => unrestricted setting

/-- The change names a slot, and its value is legal there. -/
def Legal (change : ProfileChange) : Prop := ∃ slot, change.slot = some slot ∧ (change.value slot.2).Legal

/-- A change whose enumerations are enumerators. -/
def ofChecked : NetLagLab.ProfileChange → ProfileChange
  | .setDelay direction value => .setDelay (directionCode direction) value
  | .setJitter direction value => .setJitter (directionCode direction) value
  | .setPacketLoss direction percent => .setPacketLoss (directionCode direction) percent
  | .setBandwidth direction kbps => .setBandwidth (directionCode direction) kbps
  | .resetSetting direction setting => .resetSetting (directionCode direction) (settingCode setting)

end ProfileChange

def uncheckedError (error : NetLagLab.ValidationError) : ValidationError :=
  ⟨directionCode error.direction, settingCode error.setting, error.message⟩

def applyProfileChange (profile : NetworkProfile) (change : ProfileChange) :
    Except (List ValidationError) NetworkProfile :=
  match directionOf change.direction with
  | none => .error [⟨change.direction, change.setting, "Traffic direction is invalid"⟩]
  | some direction =>
      match change.operate (profile.directionSettings direction) with
      | none => .error [⟨change.direction, change.setting, "Network setting is invalid"⟩]
      | some settings =>
          let changed := profile.withSettings settings direction
          let errors := (validate changed).map uncheckedError
          if errors ≠ [] then .error errors else .ok changed

section Changes

variable {profile result : NetworkProfile} {change : ProfileChange} {slot : Slot}

/-- Changes of the slots that exist are applied as the rest of the program applies them. -/
theorem applyProfileChange_ofChecked (profile : NetworkProfile) (change : NetLagLab.ProfileChange) :
    applyProfileChange profile (.ofChecked change) =
      (NetLagLab.applyProfileChange profile change).mapError fun errors => errors.map uncheckedError := by
  have hchanged : ∀ changed : NetworkProfile,
      (if (validate changed).map uncheckedError ≠ [] then .error ((validate changed).map uncheckedError)
        else .ok changed : Except (List ValidationError) NetworkProfile) =
      (if validate changed ≠ [] then .error (validate changed)
        else .ok changed : Except (List NetLagLab.ValidationError) NetworkProfile).mapError
          fun errors => errors.map uncheckedError := by
    intro changed
    by_cases h : validate changed = []
    · rw [h]
      rfl
    · rw [if_pos (by simpa using h), if_pos h]
      rfl
  cases change with
  | resetSetting direction setting =>
      cases direction <;> cases setting <;> exact hchanged _
  | _ direction value => cases direction <;> exact hchanged _

end Changes

end Unchecked

end NetLagLab
