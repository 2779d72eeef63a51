import RobotDriver.Swerve.ControlCore
import RobotDriver.Swerve.SetpointGenerator

/-!
# Smoothing of the chassis velocity

`BodyVelocityShaper` over the trajectory generator of its library. Infinite limits are `none` and
switch the smoothing off.
-/

noncomputable section

namespace RobotDriver.Swerve

structure TrajectoryState where
  position : Fin 3 → ℝ := 0
  velocity : Fin 3 → ℝ := 0
  acceleration : Fin 3 → ℝ := 0

structure RuckigInput where
  deltaTime : ℝ
  current : TrajectoryState
  targetVelocity : Fin 3 → ℝ
  maxAcceleration : ℝ
  maxJerk : ℝ

/-- The trajectory generator: an update fails or yields the next state. -/
structure Ruckig (G : Type*) where
  initial : G
  reset : G → G
  update : G → RuckigInput → G × Option TrajectoryState

structure BodyShaperLimits where
  acceleration : Option ℝ
  jerk : Option ℝ
  rotationRadius : ℝ

def BodyShaperLimits.enabled (limits : BodyShaperLimits) : Bool := limits.acceleration.isSome

structure BodyVelocityShaper (G : Type*) where
  generator : G
  current : TrajectoryState := {}
  valid : Bool := true

namespace BodyVelocityShaper

variable {G : Type*} (ruckig : Ruckig G) (limits : BodyShaperLimits) (shaper : BodyVelocityShaper G)

def reset : BodyVelocityShaper G where
  generator := ruckig.reset shaper.generator

def targetVelocity (target : ChassisSpeeds) : Fin 3 → ℝ :=
  ![target.vx, target.vy, target.omega * limits.rotationRadius]

def step (target : ChassisSpeeds) (dt : ℝ) : BodyVelocityShaper G × ChassisSpeeds :=
  if dt ≤ 0 then ({ shaper with valid := false }, {})
  else if !shaper.valid then (shaper, {})
  else if !limits.enabled then
    ({ shaper with current := { shaper.current with
        velocity := targetVelocity limits target
        acceleration := 0 } }, target)
  else
    match ruckig.update shaper.generator {
        deltaTime := dt
        current := shaper.current
        targetVelocity := targetVelocity limits target
        maxAcceleration := limits.acceleration.getD 0 / √3
        maxJerk := limits.jerk.getD 0 / √3 } with
    | (generator, none) => ({ shaper with generator := generator, valid := false }, {})
    | (generator, some next) =>
      ({ shaper with generator := generator, current := next },
        ⟨next.velocity 0, next.velocity 1, next.velocity 2 / limits.rotationRadius⟩)

end BodyVelocityShaper

end RobotDriver.Swerve

end

/-!
# The control core with its targets

`ControlCore` beyond the observation of a cycle: activation, the hold and its latch, the stops and
the four targets of a tick. A value that is not finite is `none`; an operation that throws leaves
the core behind and returns `false`.
-/

noncomputable section

open scoped Classical

namespace RobotDriver.Swerve

inductive ControlStatus
  | inactive
  | running
  | alignmentGated
  | commandTimeout
  | feedbackFault
  | invalidCommand
  | steeringLimit
  | steeringHoldFault
  deriving DecidableEq, Repr

/-- The statuses of a motion fault. -/
def ControlStatus.isFault : ControlStatus → Bool
  | .feedbackFault | .steeringHoldFault | .steeringLimit => true
  | _ => false

structure MotionConfig where
  maxLinearSpeed : ℝ
  maxAngularSpeed : ℝ
  maxWheelSpeed : ℝ
  maxWheelAcceleration : ℝ
  velocityDeadband : ℝ
  maxUpdatePeriod : ℝ
  encoderFaultWindow : ℝ
  maxBodyAcceleration : Option ℝ
  maxBodyJerk : Option ℝ
  setpoint : SwerveSetpointParameters
  maxLinearSpeed_pos : 0 < maxLinearSpeed
  maxAngularSpeed_pos : 0 < maxAngularSpeed
  maxWheelSpeed_pos : 0 < maxWheelSpeed
  maxWheelAcceleration_pos : 0 < maxWheelAcceleration
  velocityDeadband_pos : 0 < velocityDeadband
  maxUpdatePeriod_pos : 0 < maxUpdatePeriod
  encoderFaultWindow_pos : 0 < encoderFaultWindow
  halfTurn_lt : maxAngularSpeed * maxUpdatePeriod < Real.pi
  bodyLimits_both : maxBodyAcceleration.isSome = maxBodyJerk.isSome
  setpoint_valid : setpoint.Valid

/-- The feedback of a module with the external encoder beside the motor-derived angle. -/
structure MotionFeedback extends ModuleFeedback where
  steeringAngle : Option ℝ
  encoderValid : Bool

structure CommandSpeeds where
  vx : Option ℝ := some 0
  vy : Option ℝ := some 0
  omega : Option ℝ := some 0

def CommandSpeeds.toFinite (command : CommandSpeeds) : Option ChassisSpeeds := do
  let vx ← command.vx
  let vy ← command.vy
  let omega ← command.omega
  return ⟨vx, vy, omega⟩

structure DriveOutput where
  steeringPosition : Module → Option ℝ
  driveVelocity : Module → ℝ := fun _ => 0
  status : ControlStatus := .inactive

structure MotionCore (G : Type*) extends ControlCore where
  motion : MotionConfig
  setpoints : SwerveSetpointGenerator := {}
  bodyShaper : BodyVelocityShaper G
  bodyAlignmentWaiting : Bool := true
  previousSpeeds : Module → ℝ := fun _ => 0
  encoderBadTime : Module → ℝ := fun _ => 0
  holdFaultLatched : Bool := false
  drive : DriveOutput

namespace MotionCore

variable {G : Type*}

def create (ruckig : Ruckig G) (config : CoreConfig) (motion : MotionConfig) : MotionCore G where
  config := config
  odometry := none
  previousPositions _ := ⟨0, 0, true, false⟩
  lastSteeringTargets _ := none
  holdingModules _ := false
  output := {}
  yaw := 0
  lastImuYaw := 0
  active := false
  imuFallback := true
  motion := motion
  bodyShaper := { generator := ruckig.initial }
  drive := { steeringPosition := fun _ => none }

variable (ruckig : Ruckig G) (core : MotionCore G) (feedback : Module → MotionFeedback)

section Checks

def observedFeedback (index : Module) : ModuleFeedback := (feedback index).toModuleFeedback

def limits (index : Module) : SteeringAngleLimits := core.config.steeringLimits index

def rotationRadius : ℝ :=
  let radius := (List.finRange moduleCount).foldl (fun radius index =>
    max radius (hypot (core.config.locations index).x (core.config.locations index).y)) 0
  if 0 < radius then radius else 1

def bodyLimits : BodyShaperLimits :=
  ⟨core.motion.maxBodyAcceleration, core.motion.maxBodyJerk, core.rotationRadius⟩

/-- The measured angle of a module has left its target. -/
def deviates (index : Module) : Prop :=
  match core.lastSteeringTargets index, (feedback index).steeringPosition with
  | some target, some angle => core.config.maxEncoderDifference < |angle - target|
  | _, _ => False

def holdDeviation (holding : Module → Bool) : Bool :=
  decide (∃ index, holding index = true ∧ (feedback index).enabled = true ∧
    ControlCore.measurementValid (feedback index).toModuleFeedback = true ∧
    core.deviates feedback index)

def feedbackReady : Bool :=
  decide (∀ index, core.moduleReady (feedback index).toModuleFeedback index = true)

def encoderConsistent (f : MotionFeedback) (index : Module) : Bool :=
  match f.steeringAngle, f.steeringPosition with
  | some angle, some position =>
    f.encoderValid && decide (|position - angle| ≤ core.config.maxEncoderDifference ∧
      steeringMeasurementWithinTolerance angle (core.limits index))
  | _, _ => false

def encoderBadTimes (dt : Option ℝ) (index : Module) : ℝ :=
  if core.encoderConsistent (feedback index) index then 0
  else core.encoderBadTime index + dt.elim 0 (max 0)

def encoderMonitorTripped (dt : Option ℝ) : Bool :=
  decide (∃ index, core.encoderConsistent (feedback index) index = false ∧
    core.motion.encoderFaultWindow < core.encoderBadTimes feedback dt index)

/-- A positive period within the longest one. -/
def usablePeriod (dt : Option ℝ) : Option ℝ :=
  dt.filter fun period => 0 < period ∧ period ≤ core.motion.maxUpdatePeriod

def angles (index : Module) : ℝ := (feedback index).steeringPosition.getD 0

end Checks

section Stops

def stop (status : ControlStatus) : MotionCore G :=
  let latched := core.holdFaultLatched ||
    (core.active && core.holdDeviation feedback fun _ => true)
  { core with
    holdingModules := fun _ => true
    holdFaultLatched := latched
    drive := {
      steeringPosition := core.lastSteeringTargets
      status := if core.active && latched then .steeringHoldFault else status }
    previousSpeeds := fun _ => 0
    bodyShaper := core.bodyShaper.reset ruckig
    bodyAlignmentWaiting := true
    setpoints := .reset core.lastSteeringTargets }

def latchHold : MotionCore G := { core with holdFaultLatched := true }

/-- The next velocity command starts at rest. -/
def restBody : MotionCore G :=
  { core with bodyShaper := core.bodyShaper.reset ruckig, bodyAlignmentWaiting := true }

def generate (desired : Module → SwerveModuleState) (period : ℝ) (holding : Module → Bool) :
    SwerveSetpointGenerator × Option AlignmentResult :=
  core.setpoints.generate core.motion.setpoint core.limits desired (angles feedback) period holding

def withinLimits (targets : AlignmentResult) : Prop :=
  ∀ index, steeringAngleWithinLimits (targets.modules index).targetAngle (core.limits index)

/-- All four targets at once, with the wheel speeds that go with them. -/
def commit (targets : AlignmentResult) (holding : Module → Bool) (speeds : Module → ℝ)
    (status : ControlStatus) : MotionCore G :=
  let next index := some (targets.modules index).targetAngle
  { core with
    lastSteeringTargets := next
    holdingModules := holding
    previousSpeeds := speeds
    drive := {
      steeringPosition := next
      driveVelocity := fun index => speeds index / core.config.wheelRadius index
      status := status } }

def slowedSpeed (period : ℝ) (index : Module) : ℝ :=
  copysign (max 0 (|core.previousSpeeds index| - core.motion.maxWheelAcceleration * period))
    (core.previousSpeeds index)

/-- An active core has four targets. -/
def heldState (index : Module) : SwerveModuleState :=
  { angle := (core.lastSteeringTargets index).getD 0 }

/-- An ordinary stop: the steering and the wheels ramp down, and the targets reached are held. -/
def rampStop (status : ControlStatus) (dt : Option ℝ) : MotionCore G × Bool :=
  match core.usablePeriod dt with
  | none => (core.stop ruckig feedback status, true)
  | some period =>
    match core.generate feedback core.heldState period fun _ => true with
    | (setpoints, none) => ({ core with setpoints := setpoints }, false)
    | (setpoints, some targets) =>
      let core := { core with setpoints := setpoints }
      if core.withinLimits targets then
        (core.commit targets (fun _ => true) (core.slowedSpeed period) status, true)
      else (core.stop ruckig feedback .steeringLimit, true)

end Stops

section Following

def limitSpeeds (command : ChassisSpeeds) : ChassisSpeeds :=
  let linear := hypot command.vx command.vy
  let scale := if core.motion.maxLinearSpeed < linear then core.motion.maxLinearSpeed / linear else 1
  { vx := command.vx * scale
    vy := command.vy * scale
    omega := clampTo command.omega (-core.motion.maxAngularSpeed) core.motion.maxAngularSpeed }

def allBelow (states : Module → SwerveModuleState) (deadband : ℝ) : Bool :=
  decide (∀ index, |(states index).speed| < deadband)

def smoothing : Bool := core.bodyLimits.enabled

def followedSpeed (targets : AlignmentResult) (waiting : Bool) (period : ℝ) (index : Module) : ℝ :=
  let maxStep := core.motion.maxWheelAcceleration * period
  clampTo (if targets.gated || waiting then 0 else (targets.modules index).speed)
    (core.previousSpeeds index - maxStep) (core.previousSpeeds index + maxStep)

/-- While the modules align, or the body waits for them, smoothing starts again from rest. -/
def settle (targets : AlignmentResult) (waiting : Bool) : MotionCore G :=
  if core.smoothing && (targets.gated || waiting) then
    { core with
      bodyShaper := core.bodyShaper.reset ruckig
      bodyAlignmentWaiting :=
        targets.gated || decide (∃ index, core.previousSpeeds index ≠ 0) }
  else core

def follow (targets : AlignmentResult) (holding : Module → Bool) (waiting : Bool)
    (period : ℝ) : MotionCore G :=
  let core := (core.commit targets holding (core.followedSpeed targets waiting period)
    .running).settle ruckig targets waiting
  { core with drive := { core.drive with
    status :=
      if targets.gated || (waiting && core.bodyAlignmentWaiting) then .alignmentGated
      else .running } }

def steerTo (desired : Module → SwerveModuleState) (holding : Module → Bool) (waiting : Bool)
    (period : ℝ) : MotionCore G × Bool :=
  if core.holdDeviation feedback holding then
    (core.latchHold.stop ruckig feedback .steeringHoldFault, true)
  else
    match core.generate feedback (desaturateWheelSpeeds desired core.motion.maxWheelSpeed) period
        holding with
    | (setpoints, none) => ({ core with setpoints := setpoints }, false)
    | (setpoints, some targets) =>
      let core := { core with setpoints := setpoints }
      if core.withinLimits targets then
        (core.follow ruckig targets holding waiting period, true)
      else (core.stop ruckig feedback .steeringLimit, true)

def held (states : Module → SwerveModuleState) (holding : Module → Bool) (index : Module) :
    SwerveModuleState :=
  if holding index then core.heldState index else states index

/-- Below it a module holds its target; the smooth ramp itself is not cut off. -/
def rampDeadband (waiting : Bool) : ℝ :=
  if core.smoothing && !waiting then 1 / 10 ^ 12 else core.motion.velocityDeadband

def track (shaped : ChassisSpeeds) (waiting zeroRequest : Bool) (period : ℝ) :
    MotionCore G × Bool :=
  let deadband := core.rampDeadband waiting
  let desired := inverseKinematics (discretize shaped period) core.config.locations
    (angles feedback) deadband
  if allBelow desired deadband then
    (if zeroRequest then core.restBody ruckig else core).rampStop ruckig feedback .running
      (some period)
  else
    let holding index := decide (|(desired index).speed| < deadband)
    core.steerTo ruckig feedback (core.held desired holding) holding waiting period

def zeroRequest (command : ChassisSpeeds) : Bool :=
  allBelow (inverseKinematics command core.config.locations (angles feedback)
    core.motion.velocityDeadband) core.motion.velocityDeadband

/-- In an alignment wait the steering is planned from the raw command. -/
def shapeBody (command : ChassisSpeeds) (waiting : Bool) (period : ℝ) :
    BodyVelocityShaper G × ChassisSpeeds :=
  let requested := if core.smoothing && core.zeroRequest feedback command then {} else command
  if waiting then (core.bodyShaper, requested)
  else core.bodyShaper.step ruckig core.bodyLimits requested period

def obey (command : ChassisSpeeds) (period : ℝ) : MotionCore G × Bool :=
  let command := core.limitSpeeds command
  let zeroRequest := core.zeroRequest feedback command
  let waiting := core.smoothing && core.bodyAlignmentWaiting
  if waiting && zeroRequest then core.rampStop ruckig feedback .running (some period)
  else
    let (shaper, shaped) := core.shapeBody ruckig feedback command waiting period
    let core := { core with bodyShaper := shaper }
    if !shaper.valid then (core.stop ruckig feedback .invalidCommand, true)
    else core.track ruckig feedback shaped waiting zeroRequest period

end Following

section Operations

variable (command : CommandSpeeds) (commandFresh : Bool) (dt : Option ℝ) (imu : Option YawSample)

def observed : MotionCore G :=
  { core with toControlCore := core.toControlCore.observe (observedFeedback feedback) imu }

def monitored : MotionCore G :=
  { core with encoderBadTime := core.encoderBadTimes feedback dt }

def updateObserved : MotionCore G × Bool :=
  if !core.feedbackReady feedback then (core.stop ruckig feedback .feedbackFault, true)
  else if core.encoderMonitorTripped feedback dt then
    ((core.monitored feedback dt).stop ruckig feedback .feedbackFault, true)
  else
    let core := core.monitored feedback dt
    if core.holdDeviation feedback core.holdingModules then
      (core.latchHold.stop ruckig feedback .steeringHoldFault, true)
    else if !commandFresh then
      (core.restBody ruckig).rampStop ruckig feedback .commandTimeout dt
    else
      match core.usablePeriod dt, command.toFinite with
      | some period, some speeds => core.obey ruckig feedback speeds period
      | _, _ => (core.stop ruckig feedback .invalidCommand, true)

def update : MotionCore G × Bool :=
  if !core.active then (core.stop ruckig feedback .inactive, true)
  else if core.holdFaultLatched then (core.stop ruckig feedback .steeringHoldFault, true)
  else (core.observed feedback imu).updateObserved ruckig feedback command commandFresh dt

/-- The feedback of an activation becomes the hold and the baseline of the odometry. -/
def takeUp : MotionCore G :=
  let core := { core with
    active := false
    encoderBadTime := fun _ => 0
    lastSteeringTargets := fun index => (feedback index).steeringPosition
    holdingModules := fun _ => true
    holdFaultLatched := false }
  let positions := core.toControlCore.positions (observedFeedback feedback)
  { core with
    previousPositions := positions
    odometry := some (.reset core.config.locations core.output.pose core.yaw positions)
    setpoints := .reset core.lastSteeringTargets
    previousSpeeds := fun _ => 0
    bodyShaper := core.bodyShaper.reset ruckig
    imuFallback := true }

def activate : MotionCore G × Bool :=
  if core.feedbackReady feedback ∧
      ∀ index, core.encoderConsistent (feedback index) index = true then
    ({ (core.takeUp ruckig feedback).stop ruckig feedback .commandTimeout with active := true },
      true)
  else ({ core with active := false }, false)

def deactivate : MotionCore G :=
  { core with
    active := false
    previousSpeeds := fun _ => 0
    bodyShaper := core.bodyShaper.reset ruckig
    setpoints := {} }

end Operations

end MotionCore

end RobotDriver.Swerve

end
