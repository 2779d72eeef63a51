import Mathlib.Data.Rat.Defs
import Mathlib.Data.List.Basic

/-!
# Data types of the enable manager

The enumerations of the controller, the CiA402 status-word decoder shared with the hardware
plugins, and the two feedback predicates. A `Value` is a double read from a state interface:
`none` stands for a value that is not finite.
-/

namespace RobotDriver.EnableManager

abbrev Value := Option ℚ

inductive Phase
  | inactive | startupSanitizing | idle | enabling | interBatchDelay | jtcActivating | enabled
  | jtcDeactivating | disabling | rollback | resetLow | resetHigh | resetDisabling
  | emergencyQuickStop | emergencyDisable | failed
  deriving DecidableEq, Repr

inductive Owner
  | none | enable | disable | reset | mode | internal
  deriving DecidableEq, Repr

inductive SwitchResult
  | success | failed | ambiguous
  deriving DecidableEq, Repr

inductive ControlMode
  | disabled | fjtReady | rollingReady | restartRequired | velocityReady
  deriving DecidableEq, Repr

inductive ModeSwitchState
  | targetActive | sourcePreserved | allInactive | ambiguous
  deriving DecidableEq, Repr

inductive ModeResult
  | ok | notEnabled | notReady | wrongMode | sourceStale | sourceMoving | feedbackStale
  | takeoverMismatch | switchRejected | restartRequired | driveModeTimeout
  deriving DecidableEq, Repr

inductive Stage
  | success | alreadyEnabled | alreadyDisabled | alreadyClear | operationInProgress
  | controllerInactive | preemptedByDisable | enableBatchTimeout | enableInvalidState
  | modeMismatch | modeNotConfirmed | stateSourcesNotReady | motionFault | faultDetected
  | unexpectedDriveState | disableTimeout | faultRequiresReset | faultResetTimeout
  | jtcActivateFailed | jtcDeactivateFailed | controllerUpdateTimeout | restartRequired
  | deviceOffline
  deriving DecidableEq, Repr

inductive DriveState
  | notReadyToSwitchOn | switchOnDisabled | readyToSwitchOn | switchedOn | operationEnabled
  | quickStopActive | faultReactionActive | fault | unknown
  deriving DecidableEq, Repr

def decodeState (statusWord : ℕ) : DriveState :=
  if statusWord &&& 0x004F = 0x0000 then .notReadyToSwitchOn
  else if statusWord &&& 0x004F = 0x0040 then .switchOnDisabled
  else if statusWord &&& 0x006F = 0x0021 then .readyToSwitchOn
  else if statusWord &&& 0x006F = 0x0023 then .switchedOn
  else if statusWord &&& 0x006F = 0x0027 then .operationEnabled
  else if statusWord &&& 0x006F = 0x0007 then .quickStopActive
  else if statusWord &&& 0x004F = 0x000F then .faultReactionActive
  else if statusWord &&& 0x004F = 0x0008 then .fault
  else .unknown

def isFaultState (state : DriveState) : Bool :=
  state = .fault || state = .faultReactionActive

/-- The status word of an axis; an unreadable interface value gives `none`. -/
def getStatusWord (value : Value) : Option ℕ :=
  value.bind fun v => if 0 ≤ v ∧ v ≤ 65535 ∧ v.den = 1 then some v.num.toNat else none

def feedbackFresh (ageMs : Value) (limitMs : ℚ) : Bool :=
  ageMs.any fun age => 0 ≤ age && age ≤ limitMs

def alStateOp : ℚ := 8

def cspMode : ℤ := 8

/-- The mode reported for a sample that is no int8 value. -/
def unavailableMode : ℤ := 256

def decodeMode (value : Value) : ℤ :=
  match value with
  | some v => if -128 ≤ v ∧ v ≤ 127 ∧ v.den = 1 then v.num else unavailableMode
  | none => unavailableMode

structure Result where
  ok : Bool
  stage : Stage
  failedBatch : Option ℕ
  failedJoint : Option ℕ
  statusWord : ℕ
  deriving DecidableEq, Repr

/-- A service result; `published` counts the calls of `publishResult` on the slot. -/
structure ResultSlot where
  ready : Bool
  result : Result
  published : ℕ
  deriving DecidableEq, Repr

def Result.immediate (ok : Bool) (stage : Stage) : Result := ⟨ok, stage, none, none, 0⟩

def ResultSlot.initial : ResultSlot := ⟨false, .immediate false .operationInProgress, 0⟩

def ResultSlot.clear (slot : ResultSlot) : ResultSlot := { slot with ready := false }

def ResultSlot.publish (slot : ResultSlot) (result : Result) : ResultSlot :=
  ⟨true, result, slot.published + 1⟩

structure FailureRecord where
  stage : Stage
  batch : Option ℕ
  joint : Option ℕ
  statusWord : ℕ
  mode : ℤ
  expectedMode : ℤ
  deriving DecidableEq, Repr

def FailureRecord.cleared : FailureRecord := ⟨.success, none, none, 0, unavailableMode, 0⟩

end RobotDriver.EnableManager
