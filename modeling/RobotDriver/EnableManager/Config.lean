import RobotDriver.EnableManager.Types

/-!
# The configured controller

The parameters read by `on_configure`. Times are whole nanoseconds. The fields that state a
property are what the composer and `on_configure` check before the controller starts: positive
stage timeouts, non-empty batches that cover every managed axis, one fixed mode per axis or none,
and the constraints on the controller names and on the drives whose mode follows the controller
set.
-/

namespace RobotDriver.EnableManager

structure Config where
  axisCount : ℕ
  enableBatches : List (List ℕ)
  readyToSwitchOnDisableTerminal : List Bool
  expectedModes : List ℤ
  deviceCount : ℕ
  readyStateCount : ℕ
  ageSourceCount : ℕ
  offlineSourceCount : ℕ
  feedbackAgeLimitMs : ℚ
  batchTimeoutNs : ℤ
  disableStageTimeoutNs : ℤ
  interBatchDelayNs : ℤ
  faultResetTimeoutNs : ℤ
  readyHoldNs : ℤ
  defaultMotionController : String
  rollingMotionController : String
  trajectoryMotionController : String
  companionControllers : List String
  modeSwitchAxes : List ℕ
  batch_nonempty : ∀ batch ∈ enableBatches, batch ≠ []
  batch_axes : ∀ axis, (∃ batch ∈ enableBatches, axis ∈ batch) ↔ axis < axisCount
  expectedModes_length : expectedModes = [] ∨ expectedModes.length = axisCount
  expectedModes_fixed : ∀ mode ∈ expectedModes, -128 ≤ mode ∧ mode ≤ 127 ∧ mode ≠ 0
  expectedModes_rolling : expectedModes = [] ∨ rollingMotionController = ""
  batchTimeout_pos : 0 < batchTimeoutNs
  disableStageTimeout_pos : 0 < disableStageTimeoutNs
  interBatchDelay_nonneg : 0 ≤ interBatchDelayNs
  faultResetTimeout_pos : 0 < faultResetTimeoutNs
  readyHold_nonneg : 0 ≤ readyHoldNs
  motion_or_enableOnly : defaultMotionController ≠ "" ∨
    (rollingMotionController = "" ∧ trajectoryMotionController = "" ∧ companionControllers = [])
  one_alternate : rollingMotionController = "" ∨ trajectoryMotionController = ""
  companions_named : ∀ name ∈ companionControllers, name ≠ ""
  controllers_nodup : ((([defaultMotionController, rollingMotionController,
    trajectoryMotionController].filter (· ≠ "")) ++ companionControllers)).Nodup
  modeSwitch_configured : modeSwitchAxes ≠ [] →
    trajectoryMotionController ≠ "" ∧ expectedModes ≠ []
  modeSwitch_axes : ∀ axis ∈ modeSwitchAxes,
    axis < axisCount ∧ expectedModes.getD axis 0 ≠ cspMode

namespace Config

variable (cfg : Config)

def axes : List ℕ := List.range cfg.axisCount

def devices : List ℕ := List.range cfg.deviceCount

def managedControllers : List String :=
  [cfg.defaultMotionController, cfg.rollingMotionController,
    cfg.trajectoryMotionController].filter (· ≠ "") ++ cfg.companionControllers

def enableOnly : Bool := cfg.managedControllers = []

def motionModeSwitching : Bool :=
  cfg.rollingMotionController ≠ "" || cfg.trajectoryMotionController ≠ ""

def motionControllerMode : ControlMode :=
  if cfg.trajectoryMotionController = "" then .fjtReady else .velocityReady

def expectedMode (axis : ℕ) : ℤ := cfg.expectedModes.getD axis 0

def switchedDrivesUseCsp (mode : ControlMode) : Bool :=
  mode = .fjtReady && cfg.motionControllerMode = .velocityReady

def isConfirmedDisableTerminal (axis : ℕ) (state : DriveState) : Bool :=
  state = .switchOnDisabled ||
    (cfg.readyToSwitchOnDisableTerminal.getD axis false && state = .readyToSwitchOn)

theorem managedControllers_nodup : cfg.managedControllers.Nodup := cfg.controllers_nodup

@[simp] theorem mem_axes {axis : ℕ} : axis ∈ cfg.axes ↔ axis < cfg.axisCount := List.mem_range

@[simp] theorem mem_devices {device : ℕ} : device ∈ cfg.devices ↔ device < cfg.deviceCount :=
  List.mem_range

theorem motionControllerMode_ne_disabled : cfg.motionControllerMode ≠ .disabled := by
  unfold motionControllerMode
  split <;> decide

/-! Bounds that several configured groups share. -/

theorem stageTimeout_pos : (0 : ℤ) < 4000000000 := by decide

theorem batchDelay_nonneg : (0 : ℤ) ≤ 200000000 := by decide

theorem holdTime_nonneg : (0 : ℤ) ≤ 50000000 := by decide

theorem no_alternate : "" = "" ∨ "" = "" := .inl rfl

theorem no_companions : ∀ name ∈ ([] : List String), name ≠ "" := by simp

end Config

/-- A velocity-mode group with one managed drive, which the mode switch moves to CSP. -/
def chassis : Config where
  axisCount := 1
  enableBatches := [[0]]
  readyToSwitchOnDisableTerminal := []
  expectedModes := [9]
  deviceCount := 0
  readyStateCount := 0
  ageSourceCount := 0
  offlineSourceCount := 1
  feedbackAgeLimitMs := 100
  batchTimeoutNs := 4000000000
  disableStageTimeoutNs := 4000000000
  interBatchDelayNs := 200000000
  faultResetTimeoutNs := 4000000000
  readyHoldNs := 50000000
  defaultMotionController := "swerve_controller"
  rollingMotionController := ""
  trajectoryMotionController := "wheel_trajectory_controller"
  companionControllers := []
  modeSwitchAxes := [0]
  batch_nonempty := by decide
  batch_axes axis := by simp
  expectedModes_length := .inr rfl
  expectedModes_fixed := by decide
  expectedModes_rolling := .inr rfl
  batchTimeout_pos := Config.stageTimeout_pos
  disableStageTimeout_pos := Config.stageTimeout_pos
  interBatchDelay_nonneg := Config.batchDelay_nonneg
  faultResetTimeout_pos := Config.stageTimeout_pos
  readyHold_nonneg := Config.holdTime_nonneg
  motion_or_enableOnly := .inl (by decide)
  one_alternate := .inl rfl
  companions_named := Config.no_companions
  controllers_nodup := by decide
  modeSwitch_configured _ := ⟨by decide, by decide⟩
  modeSwitch_axes := by decide

end RobotDriver.EnableManager

/-!
# Controller sets and switch requests

The managed controllers as `ListControllers` reports them, the STRICT switch request built for a
target mode, and the classification of what was observed. `SwitchRequest.apply` is the effect of
an accepted request on the controller manager.
-/

namespace RobotDriver.EnableManager

structure ControllerState where
  name : String
  state : String
  deriving DecidableEq, Repr

structure SwitchRequest where
  activateControllers : List String
  deactivateControllers : List String
  deriving DecidableEq, Repr

def findController (states : List ControllerState) (name : String) : Option ControllerState :=
  states.find? (·.name = name)

/-- A STRICT request is applied as a whole. -/
def SwitchRequest.apply (request : SwitchRequest) (states : List ControllerState) :
    List ControllerState :=
  states.map fun controller =>
    if controller.name ∈ request.activateControllers then { controller with state := "active" }
    else if controller.name ∈ request.deactivateControllers then
      { controller with state := "inactive" }
    else controller

namespace Config

variable (cfg : Config)

def controllerRunsInMode (name : String) (target : ControlMode) : Bool :=
  if target = .disabled then false
  else if name = cfg.defaultMotionController then target = cfg.motionControllerMode
  else if name = cfg.rollingMotionController then target = .rollingReady
  else if name = cfg.trajectoryMotionController then target = .fjtReady
  else true

/-- One entry of the switch plan: the controller is missing or not configured (`none`), needs a
change, or stays as it is. -/
def planController (states : List ControllerState) (target : ControlMode) (name : String)
    (request : SwitchRequest) : Option SwitchRequest :=
  match findController states name with
  | none => none
  | some controller =>
    if cfg.controllerRunsInMode name target then
      if controller.state = "active" then some request
      else if controller.state ≠ "inactive" then none
      else some { request with activateControllers := request.activateControllers ++ [name] }
    else if controller.state = "active" then
      some { request with deactivateControllers := request.deactivateControllers ++ [name] }
    else some request

/-- `none` is the source's `kFailed`. -/
def buildControllerSwitchRequest (states : List ControllerState) (target : ControlMode) :
    Option SwitchRequest :=
  cfg.managedControllers.foldlM (fun request name => cfg.planController states target name request)
    ⟨[], []⟩

def controllerStateMatches (states : List ControllerState) (target : ControlMode) : Bool :=
  cfg.managedControllers.all fun name =>
    match findController states name with
    | none => false
    | some controller =>
      controller.state = if cfg.controllerRunsInMode name target then "active" else "inactive"

def alternateMode : ControlMode :=
  if cfg.rollingMotionController ≠ "" then .rollingReady
  else if cfg.trajectoryMotionController ≠ "" then .fjtReady
  else .disabled

def detectControlMode (states : List ControllerState) : ControlMode :=
  if cfg.controllerStateMatches states .disabled then .disabled
  else if cfg.controllerStateMatches states cfg.motionControllerMode then cfg.motionControllerMode
  else if cfg.alternateMode ≠ .disabled ∧ cfg.controllerStateMatches states cfg.alternateMode then
    cfg.alternateMode
  else .restartRequired

def classifyModeSwitchState (states : List ControllerState) (source target : ControlMode) :
    ModeSwitchState :=
  let observed := cfg.detectControlMode states
  if observed = target then .targetActive
  else if observed = source then .sourcePreserved
  else if observed = .disabled then .allInactive
  else .ambiguous

end Config

end RobotDriver.EnableManager
