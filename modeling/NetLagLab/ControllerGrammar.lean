import NetLagLab.LossRounding
import NetLagLab.TokenSpelling

/-! The documented grammar of a Controller's commands, apart from the parser: which lines are commands and what they
mean, which rules a line breaks, and which of the broken rules is reported. -/

namespace NetLagLab

open ByteLines

namespace ControllerGrammar

/-- A byte that a line may hold: a tab or printable ASCII. -/
def Printable (byte : UInt8) : Prop := byte = 9 ∨ 32 ≤ byte ∧ byte ≤ 126

instance printableDecidable (byte : UInt8) : Decidable (Printable byte) := inferInstanceAs (Decidable (_ ∨ _))

/-- The commands, each with the numbers of arguments that it takes. -/
def commandForms : List (Bytes × List Nat) :=
  [(ascii "help", [0]), (ascii "status", [0]), (ascii "set", [3, 4]), (ascii "reset", [2]), (ascii "stop", [0]),
    (ascii "detach", [0])]

/-- The commands without arguments. -/
def plainCommands : List (Bytes × ControllerCommand) :=
  [(ascii "help", .help), (ascii "status", .status), (ascii "stop", .stop), (ascii "detach", .detach)]

def directionNames : List (Bytes × TrafficDirection) := [(ascii "outbound", .outbound), (ascii "inbound", .inbound)]

def settingNames : List (Bytes × NetworkSetting) :=
  [(ascii "delay", .delay), (ascii "jitter", .jitter), (ascii "loss", .packetLoss), (ascii "bandwidth", .bandwidth)]

/-- The units of a setting, each as so many of the normalized unit; the empty one is the default. -/
def unitScales : NetworkSetting → List (Bytes × Nat)
  | .delay | .jitter => [([], 1), (ascii "ms", 1), (ascii "s", 1000)]
  | .packetLoss => [([], 1), (ascii "%", 1)]
  | .bandwidth => [([], 1), (ascii "kbps", 1), (ascii "mbps", 1000)]

/-- The number and the unit of a value: two tokens, or one that is cut where its first letter or `%` stands. -/
inductive Value : List Bytes → NumberAndUnit → Prop
  | separated (number unit : Bytes) : Value [number, unit] ⟨number, unit⟩
  | attached {number unit : Bytes} (hnumber : ∀ byte ∈ number, isUnitStart byte = false)
      (hunit : ∀ byte ∈ unit.head?, isUnitStart byte = true) : Value [number ++ unit] ⟨number, unit⟩

/-- The numerals of a setting; only loss has fractions. -/
def SettingNumeral : NetworkSetting → Bytes → Bytes → Bytes → Prop
  | .packetLoss, number, integerPart, fraction => Numeral number integerPart fraction
  | _, number, integerPart, fraction => Numeral number integerPart fraction ∧ fraction = []

/-- The change that a number of a unit asks for. The changes hold integers of 64 bits, so that a value they can hold is
in range. -/
inductive Denotes (direction : TrafficDirection) (value : NumberAndUnit) : NetworkSetting → ProfileChange → Prop
  | delay {digits : Bytes} {scale : Nat} {milliseconds : Int64} (hnumber : SettingNumeral .delay value.number digits [])
      (hunit : (value.unit, scale) ∈ unitScales .delay)
      (hexact : milliseconds.toInt = decimalValue digits * scale) :
      Denotes direction value .delay (.setDelay direction milliseconds)
  | jitter {digits : Bytes} {scale : Nat} {milliseconds : Int64}
      (hnumber : SettingNumeral .jitter value.number digits []) (hunit : (value.unit, scale) ∈ unitScales .jitter)
      (hexact : milliseconds.toInt = decimalValue digits * scale) :
      Denotes direction value .jitter (.setJitter direction milliseconds)
  | packetLoss {integerPart fraction : Bytes} {scale : Nat}
      (hnumber : SettingNumeral .packetLoss value.number integerPart fraction)
      (hunit : (value.unit, scale) ∈ unitScales .packetLoss) (hrange : AtMostHundred integerPart fraction)
      (hnonzero : ¬Vanishes integerPart fraction) :
      Denotes direction value .packetLoss (.setPacketLoss direction (nearestDouble integerPart fraction))
  | bandwidth {digits : Bytes} {scale : Nat} {kbps : UInt64}
      (hnumber : SettingNumeral .bandwidth value.number digits [])
      (hunit : (value.unit, scale) ∈ unitScales .bandwidth) (hnonzero : kbps ≠ 0)
      (hexact : kbps.toNat = decimalValue digits * scale) :
      Denotes direction value .bandwidth (.setBandwidth direction kbps)

/-- The commands as lists of tokens. -/
inductive Command : List Bytes → ControllerCommand → Prop
  | plain {name : Bytes} {command : ControllerCommand} (h : (name, command) ∈ plainCommands) : Command [name] command
  | reset {directionName settingName : Bytes} {direction : TrafficDirection} {setting : NetworkSetting}
      (hdirection : (directionName, direction) ∈ directionNames) (hsetting : (settingName, setting) ∈ settingNames) :
      Command [ascii "reset", directionName, settingName] (.profileChange (.resetSetting direction setting))
  | set {directionName settingName : Bytes} {direction : TrafficDirection} {setting : NetworkSetting}
      {tokens : List Bytes} {value : NumberAndUnit} {change : ProfileChange}
      (hdirection : (directionName, direction) ∈ directionNames) (hsetting : (settingName, setting) ∈ settingNames)
      (hvalue : Value tokens value) (hchange : Denotes direction value setting change) :
      Command (ascii "set" :: directionName :: settingName :: tokens) (.profileChange change)

/-- The lines of the grammar. -/
structure Line (line : Bytes) (command : ControllerCommand) : Prop where
  short : line.length ≤ maximumControllerCommandSize
  printable : ∀ byte ∈ line, Printable byte
  spelled : ∃ tokens, Spells isTokenSeparator line tokens ∧ Command tokens command

/-! ### Broken rules -/

/-- What keeps a line from being a command: that it is empty, or an error. -/
inductive Cause where
  | empty
  | error (error : ControllerParseError)
  deriving DecidableEq

def Cause.result : Cause → ControllerParseResult
  | .empty => .ignored
  | .error reported => .error reported

/-- The documented order, the highest first. -/
def documentedOrder : List Cause :=
  [.error .commandTooLong, .error .invalidCharacter, .empty, .error .unknownCommand, .error .wrongArgumentCount,
    .error .invalidDirection, .error .invalidSetting, .error .invalidNumber, .error .invalidUnit,
    .error .valueOutOfRange, .error .valueOverflow, .error .valueUnderflow]

def Cause.precedence (cause : Cause) : Nat := documentedOrder.idxOf cause

/-- The largest normalized value of a setting that counts units. -/
def largestValue : NetworkSetting → Option Nat
  | .delay | .jitter => some maximumMilliseconds
  | .packetLoss => none
  | .bandwidth => some maximumUnsigned

/-- The rules that the value of a `set` command breaks. Each is about what it needs of the value and leaves the others
open. -/
inductive BreaksValue (value : NumberAndUnit) : NetworkSetting → ControllerParseError → Prop
  | invalidNumber {setting : NetworkSetting}
      (h : ∀ integerPart fraction, ¬SettingNumeral setting value.number integerPart fraction) :
      BreaksValue value setting .invalidNumber
  | invalidUnit {setting : NetworkSetting} (h : ∀ scale, (value.unit, scale) ∉ unitScales setting) :
      BreaksValue value setting .invalidUnit
  | lossOutOfRange {integerPart fraction : Bytes} (hnumber : SettingNumeral .packetLoss value.number integerPart fraction)
      (h : ¬AtMostHundred integerPart fraction) : BreaksValue value .packetLoss .valueOutOfRange
  | bandwidthZero {digits : Bytes} (hnumber : SettingNumeral .bandwidth value.number digits [])
      (h : decimalValue digits = 0) : BreaksValue value .bandwidth .valueOutOfRange
  | overflow {setting : NetworkSetting} {digits : Bytes} {scale maximum : Nat}
      (hnumber : SettingNumeral setting value.number digits []) (hunit : (value.unit, scale) ∈ unitScales setting)
      (hmaximum : largestValue setting = some maximum) (h : maximum < decimalValue digits * scale) :
      BreaksValue value setting .valueOverflow
  | underflow {integerPart fraction : Bytes} (hnumber : SettingNumeral .packetLoss value.number integerPart fraction)
      (h : Vanishes integerPart fraction) : BreaksValue value .packetLoss .valueUnderflow

/-- The rules that a list of tokens breaks. -/
inductive Breaks : List Bytes → Cause → Prop
  | empty : Breaks [] .empty
  | unknownCommand {name : Bytes} {arguments : List Bytes} (h : ∀ counts, (name, counts) ∉ commandForms) :
      Breaks (name :: arguments) (.error .unknownCommand)
  | wrongArgumentCount {name : Bytes} {arguments : List Bytes} {counts : List Nat}
      (hname : (name, counts) ∈ commandForms) (h : arguments.length ∉ counts) :
      Breaks (name :: arguments) (.error .wrongArgumentCount)
  | invalidDirection {name directionName : Bytes} {more : List Bytes} (hname : name = ascii "set" ∨ name = ascii "reset")
      (h : ∀ direction, (directionName, direction) ∉ directionNames) :
      Breaks (name :: directionName :: more) (.error .invalidDirection)
  | invalidSetting {name directionName settingName : Bytes} {more : List Bytes}
      (hname : name = ascii "set" ∨ name = ascii "reset")
      (h : ∀ setting, (settingName, setting) ∉ settingNames) :
      Breaks (name :: directionName :: settingName :: more) (.error .invalidSetting)
  | invalidValue {directionName settingName : Bytes} {setting : NetworkSetting} {tokens : List Bytes}
      {value : NumberAndUnit} {error : ControllerParseError} (hsetting : (settingName, setting) ∈ settingNames)
      (hvalue : Value tokens value) (h : BreaksValue value setting error) :
      Breaks (ascii "set" :: directionName :: settingName :: tokens) (.error error)

/-- The rules that a line breaks. -/
inductive Applies (line : Bytes) : Cause → Prop
  | commandTooLong (h : maximumControllerCommandSize < line.length) : Applies line (.error .commandTooLong)
  | invalidCharacter {byte : UInt8} (hmem : byte ∈ line) (h : ¬Printable byte) :
      Applies line (.error .invalidCharacter)
  | tokens {tokens : List Bytes} {cause : Cause} (hspelled : Spells isTokenSeparator line tokens)
      (h : Breaks tokens cause) : Applies line cause

/-- The one of the causes that apply which the documentation puts first. -/
structure Decides (line : Bytes) (cause : Cause) : Prop where
  applies : Applies line cause
  highest : ∀ other, Applies line other → cause.precedence ≤ other.precedence

end ControllerGrammar

end NetLagLab
