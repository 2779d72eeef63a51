import RobotDriver.EnableManager.Config
import RobotDriver.EnableManager.HandshakeDevice

/-!
# The controller's state

`Protocol` holds the phase, the owner, the request flags and the result slots through which the
real-time update and the service threads coordinate, together with the two members of the update
that decide whose request is answered. `Data` holds the samples, outputs, timers and failure
records. A callback-active flag is not part of the state: it is set exactly while the thread of
its service runs.
-/

namespace RobotDriver.EnableManager

inductive Service
  | enable | disable | reset
  deriving DecidableEq, Repr

structure Protocol where
  active : Bool := false
  phase : Phase := .inactive
  owner : Owner := .internal
  enableRequest : Bool := false
  disableRequest : Bool := false
  resetRequest : Bool := false
  enableHardwareReady : Bool := false
  jtcActivateFailedRequest : Bool := false
  jtcActivatedRequest : Bool := false
  emergencyJtcDeactivateRequest : Bool := false
  jtcDeactivationRequired : Bool := false
  restartRequired : Bool := false
  switchInProgress : Bool := false
  modeAbortRequested : Bool := false
  currentControlMode : ControlMode := .disabled
  motionFaultRequest : Bool := false
  motionFaultPending : Bool := false
  jtcDeactivateFailed : Bool := false
  driveCspRequested : Bool := false
  enablePreemptRequested : Bool := false
  interruptedOwner : Owner := .none
  enableResult : ResultSlot := .initial
  disableResult : ResultSlot := .initial
  resetResult : ResultSlot := .initial
  deriving DecidableEq, Repr

def Protocol.slot (p : Protocol) : Service → ResultSlot
  | .enable => p.enableResult
  | .disable => p.disableResult
  | .reset => p.resetResult

def Protocol.publishResult (p : Protocol) (service : Service) (result : Result) : Protocol :=
  { p with
    enableResult := if service = .enable then p.enableResult.publish result else p.enableResult
    disableResult := if service = .disable then p.disableResult.publish result else p.disableResult
    resetResult := if service = .reset then p.resetResult.publish result else p.resetResult }

section PublishResult

variable (p : Protocol) (service : Service) (result : Result)

@[simp] theorem Protocol.publishResult_phase :
    (p.publishResult service result).phase = p.phase := rfl

end PublishResult

/-- The values of the claimed state interfaces in one update. -/
structure Sample where
  statusWord : ℕ → Value
  mode : ℕ → Value
  offlineSource : ℕ → Value
  readyState : ℕ → Value
  device : ℕ → DeviceSample

structure PrimaryFailure where
  stage : Stage := .success
  failedBatch : Option ℕ := none
  failedJoint : Option ℕ := none
  statusWord : ℕ := 0
  deriving DecidableEq, Repr

def PrimaryFailure.result (f : PrimaryFailure) : Result :=
  ⟨false, f.stage, f.failedBatch, f.failedJoint, f.statusWord⟩

structure Data where
  readyStates : ℕ → Value := fun _ => none
  statusWords : ℕ → ℕ := fun _ => 0
  actualModes : ℕ → ℤ := fun _ => unavailableMode
  modeConfirmed : ℕ → Bool := fun _ => false
  resetTargets : ℕ → Bool := fun _ => false
  devices : ℕ → HandshakeDevice := fun _ => {}
  controlWords : ℕ → ℕ := fun _ => 0
  driveModeCommands : ℕ → ℤ := fun _ => 0
  driveModeDisplay : ℕ → ℤ := fun _ => unavailableMode
  currentBatch : ℕ := 0
  downwardStage : ℕ := 0
  stageDeadlineNs : ℤ := 0
  deviceStage : Bool := false
  readySinceNs : ℤ := -1
  stateSourcesQualified : Bool := false
  primaryFailure : PrimaryFailure := {}
  lastFailure : FailureRecord := .cleared
  offlineNow : Option ℕ := none
  offlineFeedback : Option ℕ := none

namespace Data

variable (cfg : Config) (d : Data)

def state (axis : ℕ) : DriveState := decodeState (d.statusWords axis)

def statusOf (joint : Option ℕ) : ℕ := joint.elim 0 d.statusWords

def recordFailure (stage : Stage) (batch joint : Option ℕ) (statusWord : ℕ) : Data :=
  let modes := match joint with
    | some axis =>
      if axis < cfg.expectedModes.length then (d.actualModes axis, cfg.expectedMode axis)
      else (unavailableMode, 0)
    | none => (unavailableMode, 0)
  { d with lastFailure := ⟨stage, batch, joint, statusWord, modes.1, modes.2⟩ }

def clearFailure : Data := { d with lastFailure := .cleared }

/-- One loop over the axes that sets the control word of each. -/
def setControlWords (word : ℕ → ℕ) : Data :=
  { d with controlWords := fun axis =>
      if axis < cfg.axisCount then word axis else d.controlWords axis }

def setAllControlWords (word : ℕ) : Data := d.setControlWords cfg fun _ => word

def requestDevicesEnable (enable : Bool) : Data :=
  { d with devices := fun device => (d.devices device).requestEnable enable }

def startDeviceResets : Data :=
  { d with devices := fun device =>
      if (d.devices device).faulted then (d.devices device).startReset else d.devices device }

def writeDevices : Data := { d with devices := fun device => (d.devices device).write }

def anyDeviceFaulted : Bool := cfg.devices.any fun device => (d.devices device).faulted

def allDevicesEnabled : Bool := cfg.devices.all fun device => (d.devices device).enabled

def allDevicesDisabledOrFaulted : Bool :=
  cfg.devices.all fun device => (d.devices device).disabled || (d.devices device).faulted

def allDeviceResetsComplete : Bool :=
  cfg.devices.all fun device => (d.devices device).resetComplete

def modeIsConfirmed (axis : ℕ) : Bool :=
  cfg.expectedModes = [] || d.actualModes axis = cfg.expectedMode axis

def modePending (axis : ℕ) : Bool := cfg.expectedModes ≠ [] && d.actualModes axis = 0

def runningModeConfirmed (axis : ℕ) : Bool :=
  d.modeIsConfirmed cfg axis || (axis ∈ cfg.modeSwitchAxes && d.actualModes axis = cspMode)

def stateSourcesReady : Bool :=
  (List.range cfg.readyStateCount).all fun source => d.readyStates source = some 1

def anyOperationEnabled : Bool := cfg.axes.any fun axis => d.state axis = .operationEnabled

def anySwitchedOn : Bool := cfg.axes.any fun axis => d.state axis = .switchedOn

def firstFault : Option ℕ := cfg.axes.find? fun axis => isFaultState (d.state axis)

def anyFault : Bool := d.anyDeviceFaulted cfg || (d.firstFault cfg).isSome

def terminal (axis : ℕ) : Bool := cfg.isConfirmedDisableTerminal axis (d.state axis)

def firstNonterminal : Option ℕ :=
  cfg.axes.find? fun axis => !d.terminal cfg axis && !isFaultState (d.state axis)

def allNonfaultTerminal : Bool :=
  d.allDevicesDisabledOrFaulted cfg &&
    cfg.axes.all fun axis => isFaultState (d.state axis) || d.terminal cfg axis

end Data

structure Controller where
  protocol : Protocol := {}
  data : Data := {}

namespace Controller

variable (c : Controller)

def onProtocol (f : Protocol → Protocol) : Controller := ⟨f c.protocol, c.data⟩

def onData (f : Data → Data) : Controller := ⟨c.protocol, f c.data⟩

@[simp] theorem onProtocol_protocol (f : Protocol → Protocol) :
    (c.onProtocol f).protocol = f c.protocol := rfl

@[simp] theorem onData_protocol (f : Data → Data) : (c.onData f).protocol = c.protocol := rfl

@[simp] theorem onData_data (f : Data → Data) : (c.onData f).data = f c.data := rfl

def setPhase (phase : Phase) : Controller := c.onProtocol ({ · with phase := phase })

def setOwner (owner : Owner) : Controller := c.onProtocol ({ · with owner := owner })

def setMode (mode : ControlMode) : Controller :=
  c.onProtocol ({ · with currentControlMode := mode })

def publishResult (service : Service) (result : Result) : Controller :=
  c.onProtocol (·.publishResult service result)

end Controller

end RobotDriver.EnableManager
