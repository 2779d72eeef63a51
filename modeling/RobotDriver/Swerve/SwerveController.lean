import RobotDriver.Swerve.UpdateReturns

/-!
# The swerve controller

`SwerveController` over its core: the lifecycle with the steering parameters it reads, a tick cut
where it reads the command buffer, and a call of `accept_command` cut at its check, its clock and
its store. The steering command interfaces and the diagnostics are left out.
-/

noncomputable section

open scoped Classical

namespace RobotDriver.Swerve

structure Command where
  speeds : CommandSpeeds := {}
  received : ℤ := 0
  generation : ℕ := 0
  valid : Bool := false

structure Twist where
  linearX : Option ℝ
  linearY : Option ℝ
  linearZ : Option ℝ
  angularX : Option ℝ
  angularY : Option ℝ
  angularZ : Option ℝ

def Twist.speeds (message : Twist) : CommandSpeeds :=
  ⟨message.linearX, message.linearY, message.angularZ⟩

def Twist.valid (message : Twist) : Bool :=
  decide (message.linearX.isSome ∧ message.linearY.isSome ∧ message.angularZ.isSome ∧
    message.linearZ = some 0 ∧ message.angularX = some 0 ∧ message.angularY = some 0)

/-- The parameters that an activation reads. -/
structure SteeringParameters where
  maxSteeringSlew : Double ℝ
  maxSteeringAcceleration : Double ℝ
  maxSteeringJerk : Double ℝ
  alignment : Double ℝ
  alignFirstRelease : Double ℝ
  maxSteeringSlewLimit : Double ℝ
  maxSteeringAccelerationLimit : Double ℝ
  maxSteeringJerkLimit : Double ℝ

/-- What the controller is configured with. -/
structure SwerveConfig where
  alignFirst : Bool
  faultStopSpeed : ℝ
  faultStopHold : ℝ
  faultStopTimeout : ℝ

inductive Tick
  | idle
  | began (now : ℤ) (feedback : Module → MotionFeedback) (dt : Option ℝ)
  | read (now : ℤ) (feedback : Module → MotionFeedback) (dt : Option ℝ) (command : Command)

inductive AcceptCall
  | idle
  | admitted (message : Twist)
  | stamped (command : Command)

structure SwerveController (G : Type*) where
  config : SwerveConfig
  core : MotionCore G
  active : Bool := false
  ready : Bool := false
  faultLatched : Bool := false
  faultStopReady : Bool := false
  faultSince : ℤ := 0
  wheelsStoppedSince : ℤ := 0
  generation : ℕ := 0
  blockBefore : ℤ := 0
  stored : Command := {}
  visible : Command := {}
  driveCommands : Module → ℝ := fun _ => 0
  clock : ℤ
  tick : Tick := .idle
  call : AcceptCall := .idle

/-- A limit of a parameter, where infinity is none. -/
def limitOf : Double ℝ → Option (Option ℝ)
  | .finite value => some (some value)
  | .posInf => some none
  | _ => none

def ofLimit : Option ℝ → Double ℝ
  | some value => .finite value
  | none => .posInf

def ofRelease : Option ℝ → Double ℝ
  | some value => .finite value
  | none => .nan

def positiveUpTo (value limit : Double ℝ) : Prop :=
  ¬Double.Le value (.finite 0) ∧ Double.Le value limit

namespace SteeringParameters

variable (parameters : SteeringParameters) (alignFirst : Bool)

def release : Double ℝ := if alignFirst then parameters.alignFirstRelease else .nan

def unchanged (setpoint : SwerveSetpointParameters) : Prop :=
  parameters.maxSteeringSlew = .finite setpoint.maximumSteeringSlew ∧
    parameters.maxSteeringAcceleration = ofLimit setpoint.maximumSteeringAcceleration ∧
    parameters.maxSteeringJerk = ofLimit setpoint.maximumSteeringJerk ∧
    parameters.alignment = .finite setpoint.alignmentThreshold ∧
    parameters.release alignFirst = ofRelease setpoint.alignmentRelease

def permitted : Prop :=
  positiveUpTo parameters.alignment (.finite (Real.pi / 2)) ∧
    (alignFirst → positiveUpTo (parameters.release alignFirst) parameters.alignment) ∧
    positiveUpTo parameters.maxSteeringJerk parameters.maxSteeringJerkLimit ∧
    positiveUpTo parameters.maxSteeringSlew parameters.maxSteeringSlewLimit ∧
    positiveUpTo parameters.maxSteeringAcceleration parameters.maxSteeringAccelerationLimit

/-- The setpoint parameters with the new values; an infinite slew is refused on construction. -/
def candidate (setpoint : SwerveSetpointParameters) : Option SwerveSetpointParameters := do
  let slew ← parameters.maxSteeringSlew.toFinite
  let acceleration ← limitOf parameters.maxSteeringAcceleration
  let jerk ← limitOf parameters.maxSteeringJerk
  let alignment ← parameters.alignment.toFinite
  return { setpoint with
    maximumSteeringSlew := slew
    maximumSteeringAcceleration := acceleration
    maximumSteeringJerk := jerk
    alignmentThreshold := alignment
    alignmentRelease := (parameters.release alignFirst).toFinite }

end SteeringParameters

def fresh (received now : ℤ) (limit : ℝ) : Bool :=
  decide (0 < received ∧ received ≤ now ∧ ((now - received : ℤ) : ℝ) / 10 ^ 9 ≤ limit)

namespace SwerveController

variable {G : Type*} (ruckig : Ruckig G) (s : SwerveController G)

section Lifecycle

/-- Changed parameters replace the core, unless they are refused. -/
def applySteeringMotionParameters (parameters : SteeringParameters) : Option (MotionCore G) :=
  if parameters.unchanged s.config.alignFirst s.core.motion.setpoint then some s.core
  else if ¬parameters.permitted s.config.alignFirst then none
  else
    match parameters.candidate s.config.alignFirst s.core.motion.setpoint with
    | none => none
    | some setpoint =>
      if h : setpoint.Valid then
        some (.create ruckig s.core.config
          { s.core.motion with setpoint := setpoint, setpoint_valid := h })
      else none

def outputSafe (core : MotionCore G) : Bool :=
  decide (∀ index, ∃ target, core.drive.steeringPosition index = some target ∧
    steeringAngleWithinLimits target (core.limits index))

def stopOutputs : SwerveController G := { s with driveCommands := fun _ => 0 }

def onActivate (bound : Bool) (delay : ℕ) (parameters : SteeringParameters)
    (feedback : Module → MotionFeedback) : SwerveController G × Bool :=
  if s.active || !bound then (s, false)
  else
    match s.applySteeringMotionParameters ruckig parameters with
    | none => (s, false)
    | some core =>
      let (activated, ok) := core.activate ruckig feedback
      if !ok then ({ s with core := activated }.stopOutputs, false)
      else
        let (core, returned) :=
          activated.update ruckig feedback {} false (some (4 / 1000)) none
        let s := { s with
          clock := s.clock + delay
          generation := s.generation + 1
          blockBefore := s.clock + delay
          stored := {}
          core := core }
        if returned && outputSafe core then
          ({ s with
            driveCommands := core.drive.driveVelocity
            faultLatched := false
            faultStopReady := false
            ready := true
            active := true }, true)
        else ({ s with core := core.deactivate ruckig }.stopOutputs, false)

def onDeactivate : SwerveController G :=
  { s with
    active := false
    ready := false
    core := s.core.deactivate ruckig }.stopOutputs

end Lifecycle

section Faults

variable (status : ControlStatus) (feedback : Module → MotionFeedback) (now : ℤ)

def wheelSpeed (index : Module) : Option ℝ :=
  (feedback index).wheelVelocity.map (· * s.core.config.wheelRadius index)

def wheelsStopped : Bool :=
  decide (∀ index, ∃ speed ∈ s.wheelSpeed feedback index, |speed| ≤ s.config.faultStopSpeed)

def latchFault : SwerveController G :=
  if status.isFault && !s.faultLatched then
    { s with faultLatched := true, faultSince := now, wheelsStoppedSince := 0 }
  else s

/-- The disable waits for stopped wheels, unless waiting cannot make the stop safer. -/
def awaitStop : SwerveController G :=
  if !s.faultLatched || s.faultStopReady then s
  else
    let stopped := s.wheelsStopped feedback
    let measurable := decide (∀ index, (s.wheelSpeed feedback index).isSome = true)
    let since :=
      if !stopped then 0 else if s.wheelsStoppedSince = 0 then now else s.wheelsStoppedSince
    let held : ℝ := if stopped then ((now - since : ℤ) : ℝ) / 10 ^ 9 else 0
    let elapsed : ℝ := ((now - s.faultSince : ℤ) : ℝ) / 10 ^ 9
    { s with
      wheelsStoppedSince := since
      faultStopReady := decide ((stopped = true ∧ s.config.faultStopHold ≤ held) ∨
        measurable = false ∨ s.config.faultStopTimeout ≤ elapsed) }

def trackFault : SwerveController G := (s.latchFault status now).awaitStop feedback now

end Faults

section Ticks

/-- Motion is refused from now on, until a later command. -/
def block (now : ℤ) : SwerveController G := { s with blockBefore := now }

def beginTick (delay : ℕ) (feedback : Module → MotionFeedback) (dt : Option ℝ) :
    SwerveController G :=
  match s.tick with
  | .idle =>
    if !s.active then s
    else
      let now := s.clock + delay
      let ready := !s.core.holdFaultLatched && s.core.feedbackReady feedback &&
        (s.core.usablePeriod dt).isSome
      { s with
        clock := now
        ready := ready
        blockBefore := if ready then s.blockBefore else now
        tick := .began now feedback dt }
  | _ => s

/-- A buffer that is being written to is read as it was. -/
def readCommand (busy : Bool) : SwerveController G :=
  match s.tick with
  | .began now feedback dt =>
    let command := if busy then s.visible else s.stored
    { s with visible := command, tick := .read now feedback dt command }
  | _ => s

def commandFresh (command : Command) (now : ℤ) : Bool :=
  command.valid && command.generation = s.generation && s.blockBefore < command.received &&
    fresh command.received now (1 / 2)

def fail (status : ControlStatus) (feedback : Module → MotionFeedback) (now : ℤ) :
    SwerveController G :=
  ({ s with ready := false }.block now).stopOutputs.trackFault status feedback now

/-- A latched fault never resumes motion, even if the feedback recovers. -/
def refuse (now : ℤ) : SwerveController G :=
  if s.faultLatched then { s with ready := false }.block now else s

def publish (feedback : Module → MotionFeedback) (now : ℤ) : SwerveController G :=
  let status := s.core.drive.status
  let s := if status = .steeringHoldFault then { s with ready := false }.block now else s
  let s := if status = .steeringLimit ∨ status = .invalidCommand then s.block now else s
  if outputSafe s.core then
    ({ s with driveCommands := s.core.drive.driveVelocity }.trackFault status feedback
      now).refuse now
  else s.fail .steeringLimit feedback now

def finishTick (imu : Option YawSample) : SwerveController G :=
  match s.tick with
  | .read now feedback dt command =>
    let (core, returned) := s.core.update ruckig feedback command.speeds
      (s.commandFresh command now) dt imu
    let s := { s with core := core, tick := .idle }
    if returned then s.publish feedback now else s.fail .feedbackFault feedback now
  | _ => s

end Ticks

section Accept

/-- The check under the lifecycle lock, which keeps activations out until the store. -/
def acceptCheck (message : Twist) (generation : ℕ) : SwerveController G :=
  match s.call with
  | .idle =>
    if s.active && s.ready && generation = s.generation then
      { s with call := .admitted message }
    else s
  | _ => s

def acceptStamp (delay : ℕ) : SwerveController G :=
  match s.call with
  | .admitted message =>
    { s with
      clock := s.clock + delay
      call := .stamped ⟨message.speeds, s.clock + delay, s.generation, message.valid⟩ }
  | _ => s

def acceptStore : SwerveController G :=
  match s.call with
  | .stamped command => { s with stored := command, call := .idle }
  | _ => s

end Accept

/-- A step of one of the threads; the lifecycle waits for the lock and for the tick. -/
inductive ControllerStep
  | activate (bound : Bool) (delay : ℕ) (parameters : SteeringParameters)
      (feedback : Module → MotionFeedback)
  | deactivate
  | beginTick (delay : ℕ) (feedback : Module → MotionFeedback) (dt : Option ℝ)
  | readCommand (busy : Bool)
  | finishTick (imu : Option YawSample)
  | acceptCheck (message : Twist) (generation : ℕ)
  | acceptStamp (delay : ℕ)
  | acceptStore

/-- The controller after `on_configure`, at a time since boot. -/
def configured (config : SwerveConfig) (core : CoreConfig) (motion : MotionConfig) (boot : ℕ) :
    SwerveController G where
  config := config
  core := .create ruckig core motion
  clock := boot

def Unlocked : Prop := s.call = .idle ∧ s.tick = .idle

def step : ControllerStep → SwerveController G
  | .activate bound delay parameters feedback =>
    if s.Unlocked then (s.onActivate ruckig bound delay parameters feedback).1 else s
  | .deactivate => if s.Unlocked then s.onDeactivate ruckig else s
  | .beginTick delay feedback dt => s.beginTick delay feedback dt
  | .readCommand busy => s.readCommand busy
  | .finishTick imu => s.finishTick ruckig imu
  | .acceptCheck message generation => s.acceptCheck message generation
  | .acceptStamp delay => s.acceptStamp delay
  | .acceptStore => s.acceptStore

end SwerveController

end RobotDriver.Swerve

end
