import Mathlib.Algebra.Group.Nat.Defs
import RobotDriver.EnableManager.Types

/-!
# Handshake devices

A device whose plugin runs its own enable sequence. The controller requests enable, disable or a
fault reset through two command interfaces and reads the plugin's phase back. `read` and `write`
run in the real-time update; `baseline` runs once on activation.
-/

namespace RobotDriver.EnableManager

inductive HandshakePhase
  | disabled | enabling | enabled | disabling | resetDisabling | resetting | faultLatched
  deriving DecidableEq, Repr

def decodeHandshakePhase (value : Value) : Option HandshakePhase :=
  value.bind fun v =>
    if v = 0 then some .disabled
    else if v = 1 then some .enabling
    else if v = 2 then some .enabled
    else if v = 3 then some .disabling
    else if v = 4 then some .resetDisabling
    else if v = 5 then some .resetting
    else if v = 6 then some .faultLatched
    else none

def exactFlag (value : Value) : Option Bool :=
  value.bind fun v => if v = 0 then some false else if v = 1 then some true else none

def maximumExactInteger : ℚ := 9007199254740991

def exactGeneration (value : Value) : Option ℕ :=
  value.bind fun v =>
    if 0 ≤ v ∧ v ≤ maximumExactInteger ∧ v.den = 1 then some v.num.toNat else none

/-- The four state interfaces of a device. -/
structure DeviceSample where
  phase : Value
  faultLatched : Value
  handledResetGeneration : Value
  motionAllowed : Value
  deriving DecidableEq, Repr

structure HandshakeDevice where
  enableRequested : Bool := false
  resetGeneration : ℕ := 0
  resetTarget : ℕ := 0
  resetPending : Bool := false
  valid : Bool := false
  phase : HandshakePhase := .disabled
  faultLatched : Bool := false
  motionAllowed : Bool := false
  handledGeneration : ℕ := 0
  enableCommand : Bool := false
  resetCommand : ℕ := 0
  deriving DecidableEq, Repr

namespace HandshakeDevice

def read (d : HandshakeDevice) (sample : DeviceSample) : HandshakeDevice :=
  match decodeHandshakePhase sample.phase, exactFlag sample.faultLatched,
      exactFlag sample.motionAllowed, exactGeneration sample.handledResetGeneration with
  | some phase, some fault, some motion, some generation =>
    { d with
      valid := true
      phase := phase
      faultLatched := fault
      motionAllowed := motion
      handledGeneration := generation }
  | _, _, _, _ => { d with valid := false }

def write (d : HandshakeDevice) : HandshakeDevice :=
  { d with enableCommand := d.enableRequested, resetCommand := d.resetGeneration }

def requestEnable (d : HandshakeDevice) (enable : Bool) : HandshakeDevice :=
  { d with enableRequested := enable }

/-- The reset counter is a 64-bit word. -/
def startReset (d : HandshakeDevice) : HandshakeDevice :=
  let generation := (d.resetGeneration + 1) % 2 ^ 64
  { d with
    enableRequested := false
    resetGeneration := generation
    resetTarget := generation
    resetPending := true }

/-- The activation baseline: `none` when the sample is unreadable. -/
def baseline (d : HandshakeDevice) (sample : DeviceSample) : Option HandshakeDevice :=
  let d := d.read sample
  if d.valid then
    some ({ d with
      enableRequested := false
      resetGeneration := d.handledGeneration
      resetPending := false } : HandshakeDevice).write
  else none

def faulted (d : HandshakeDevice) : Bool :=
  !d.valid || d.faultLatched || d.phase = .faultLatched

def enabled (d : HandshakeDevice) : Bool :=
  !d.faulted && d.phase = .enabled && d.motionAllowed

def disabled (d : HandshakeDevice) : Bool :=
  !d.faulted && d.phase = .disabled && !d.motionAllowed

def resetComplete (d : HandshakeDevice) : Bool :=
  d.disabled && (!d.resetPending || d.resetTarget ≤ d.handledGeneration)

section Requests

variable (d : HandshakeDevice)

theorem disabled_of_resetComplete {d : HandshakeDevice} (h : d.resetComplete) : d.disabled := by
  simp only [resetComplete, Bool.and_eq_true] at h
  exact h.1

end Requests

end HandshakeDevice

end RobotDriver.EnableManager
