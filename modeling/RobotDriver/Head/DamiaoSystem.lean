import RobotDriver.Head.HeadStateMachine
import RobotDriver.Lib.Numerals
import RobotDriver.Lib.Rounding

/-!
# The head system

The hardware component around the state machine: its lifecycle, its two request interfaces and one
position interface per motor, and the frames a `write` puts on the bus. The environment chooses
what the motors report and which of the attempts to send the socket takes; it throws at the others.
-/

namespace RobotDriver.Head

open EnableManager (Value DeviceSample HandshakePhase exactFlag)

structure MotorFeedback where
  position : ℚ
  status : ℕ
  receivedAt : ℤ
  deriving DecidableEq

structure MotorLimits where
  velocityLimit : ℚ
  commandMin : ℚ
  commandMax : ℚ
  velocityLimit_pos : 0 < velocityLimit
  command_lt : commandMin < commandMax
  deriving DecidableEq

structure Configuration where
  feedbackTimeout : ℤ
  transitionTimeout : ℤ
  commandPeriod : ℤ
  disabledPollInterval : ℤ
  limits : Motor → MotorLimits
  feedbackTimeout_pos : 0 < feedbackTimeout
  transitionTimeout_pos : 0 < transitionTimeout
  commandPeriod_pos : 0 < commandPeriod
  disabledPollInterval_pos : 0 < disabledPollInterval

namespace Resets

theorem unitVelocity_pos : (0 : ℚ) < 1 := by decide

def configuration : Configuration where
  feedbackTimeout := 20
  transitionTimeout := 100
  commandPeriod := 4
  disabledPollInterval := 10
  limits _ :=
    { velocityLimit := 1
      commandMin := -1
      commandMax := 1
      velocityLimit_pos := unitVelocity_pos
      command_lt := by decide }
  feedbackTimeout_pos := by decide
  transitionTimeout_pos := by decide
  commandPeriod_pos := by decide
  disabledPollInterval_pos := by decide

end Resets

structure CommandRateLimiter where
  period : ℤ
  lastEmittedAt : Option ℤ := none
  period_pos : 0 < period

namespace CommandRateLimiter

def isDue (r : CommandRateLimiter) (now : ℤ) : Bool :=
  match r.lastEmittedAt with
  | none => true
  | some last => decide (now < last ∨ r.period ≤ now - last)

def due (r : CommandRateLimiter) (now : ℤ) : CommandRateLimiter × Bool :=
  if r.isDue now then ({ r with lastEmittedAt := some now }, true) else (r, false)

def reset (r : CommandRateLimiter) : CommandRateLimiter := { r with lastEmittedAt := none }

end CommandRateLimiter

structure MotorState where
  command : Value := none
  position : Value := none
  status : ℕ := 0
  receivedAt : ℤ := 0
  deriving DecidableEq

/-- A position frame carries the single-precision values that are handed to the encoder. -/
inductive Frame
  | disable (motor : Motor)
  | clearFault (motor : Motor)
  | enable (motor : Motor)
  | positionVelocity (motor : Motor) (position velocity : Double ℚ)
  deriving DecidableEq

/-- What a motor meets while it is configured: whether its registers are acceptable, whether the
socket takes its disable, and the feedback observed on both motors until its own has arrived. -/
structure ConfigureReply where
  registersValid : Bool
  disableTaken : Bool := true
  feedback : Motor → Option MotorFeedback

structure DamiaoSystem where
  configuration : Configuration
  socketOpen : Bool := false
  motors : Motor → MotorState := fun _ => {}
  hardwareActive : Bool := false
  commandInterfacesActive : Bool := false
  enableRequest : Value := some 0
  resetGeneration : Value := some 0
  stateMachine : HeadStateMachine
  commandRateLimiter : CommandRateLimiter
  specialRateLimiter : CommandRateLimiter
  lastDisabledPollAt : ℤ := 0
  controlStates : DeviceSample

/-- Which of the attempts to send in a call the socket takes, in the order of the attempts. -/
abbrev Socket := ℕ → Bool

inductive Label
  | configure (replies : Motor → ConfigureReply) (now : ℤ) (takes : Socket)
  | activate
  | deactivate (takes : Socket)
  | close (takes : Socket)
  | switchInterfaces (starts stops : Bool)
  | setEnableRequest (value : Value)
  | setResetGeneration (value : Value)
  | setCommand (motor : Motor) (value : Value)
  | read (observed : Motor → Option MotorFeedback) (fails : Bool) (takes : Socket)
  | write (now : ℤ) (takes : Socket)

/-- The double nearest to a 64-bit generation, ties to even. -/
def roundToDouble (n : ℕ) : ℕ :=
  if n ≤ 2 ^ 53 then n
  else
    let shift := Nat.log2 n - 52
    let quotient := n / 2 ^ shift
    let remainder := n % 2 ^ shift
    let half := 2 ^ (shift - 1)
    let rounded :=
      if half < remainder ∨ (remainder = half ∧ quotient % 2 = 1) then quotient + 1
      else quotient
    rounded * 2 ^ shift

def phaseCode : HandshakePhase → ℚ
  | .disabled => 0
  | .enabling => 1
  | .enabled => 2
  | .disabling => 3
  | .resetDisabling => 4
  | .resetting => 5
  | .faultLatched => 6

def HeadStateMachine.controlStates (m : HeadStateMachine) : DeviceSample where
  phase := some (phaseCode m.phase)
  faultLatched := some (if m.faultLatched then 1 else 0)
  handledResetGeneration := some (roundToDouble m.handledResetGeneration)
  motionAllowed := some (if m.phase = .enabled then 1 else 0)

/-- A generation the component accepts: finite, whole and not negative. From `2 ^ 64` on the
conversion to an integer is undefined. -/
def wholeGeneration (value : Value) : Option ℕ :=
  value.bind fun v => if 0 ≤ v ∧ v.den = 1 then some v.num.toNat else none

def Configuration.machine (c : Configuration) : HeadStateMachine where
  feedbackTimeout := c.feedbackTimeout
  transitionTimeout := c.transitionTimeout
  feedbackTimeout_pos := c.feedbackTimeout_pos
  transitionTimeout_pos := c.transitionTimeout_pos

def MotorState.observe (motor : MotorState) : Option MotorFeedback → MotorState
  | none => motor
  | some feedback =>
    { motor with
      position := some feedback.position
      status := feedback.status
      receivedAt := feedback.receivedAt }

def MotorLimits.contains (limits : MotorLimits) (value : Value) : Bool :=
  match value with
  | none => false
  | some v => decide (limits.commandMin ≤ v ∧ v ≤ limits.commandMax)

def everyMotor (frame : Motor → Frame) : List Frame := [frame 0, frame 1]

/-- `static_cast<float>` of an interface value. -/
def toFloat (value : Value) : Double ℚ := value.elim .nan Double.binary32

/-- The encoder throws at a value that is not finite and at a velocity that is not positive. -/
def Frame.encodable : Frame → Bool
  | .positionVelocity _ position velocity =>
    position.isFinite && velocity.toFinite.any fun limit => 0 < limit
  | _ => true

/-- The frames that reach the bus from the `n`-th attempt on, the number of attempts behind them,
and whether neither the encoder nor the socket throws. -/
def transmit (takes : Socket) : List Frame → ℕ → List Frame × ℕ × Bool
  | [], n => ([], n, true)
  | frame :: frames, n =>
    if !frame.encodable then ([], n, false)
    else if !takes n then ([], n + 1, false)
    else
      let (sent, attempts) := transmit takes frames (n + 1)
      (frame :: sent, attempts)

namespace DamiaoSystem

def onInit (c : Configuration) : DamiaoSystem where
  configuration := c
  stateMachine := c.machine
  commandRateLimiter := { period := c.commandPeriod, period_pos := c.commandPeriod_pos }
  specialRateLimiter := { period := c.disabledPollInterval, period_pos := c.disabledPollInterval_pos }
  controlStates := c.machine.controlStates

variable (s : DamiaoSystem)

def updateControlStates : DamiaoSystem := { s with controlStates := s.stateMachine.controlStates }

/-- Each motor is tried, whatever the socket does with the other. -/
def sendDisable (takes : Socket) (n : ℕ) : List Frame :=
  if s.socketOpen then
    ((List.finRange 2).filter fun motor => takes (n + motor.val)).map Frame.disable
  else []

def configureMotor (motor : Motor) (reply : ConfigureReply) : DamiaoSystem × List Frame × Bool :=
  if !reply.registersValid || !reply.disableTaken then (s, [], false)
  else
    let s := { s with motors := fun other => (s.motors other).observe (reply.feedback other) }
    let position := (s.motors motor).position
    if (reply.feedback motor).isNone || (s.motors motor).status = 1 ||
        !(s.configuration.limits motor).contains position then (s, [.disable motor], false)
    else
      ({ s with
        motors := Function.update s.motors motor { s.motors motor with command := position } },
        [.disable motor], true)

def configureMotors (replies : Motor → ConfigureReply) : DamiaoSystem × List Frame × Bool :=
  match s.configureMotor 0 (replies 0) with
  | (s, sent, false) => (s, sent, false)
  | (s, sent, true) =>
    let (s, sent', configured) := s.configureMotor 1 (replies 1)
    (s, sent ++ sent', configured)

/-- The statuses the machine starts from, as of the end of the configuration. -/
def configuredStatuses (now : ℤ) (motor : Motor) : MotorStatus where
  valid := true
  status := (s.motors motor).status
  receivedAt := now

def onConfigure (replies : Motor → ConfigureReply) (now : ℤ) (takes : Socket) :
    DamiaoSystem × List Frame :=
  match { s with socketOpen := true }.configureMotors replies with
  | (s, sent, false) => ({ s with socketOpen := false }, sent ++ s.sendDisable takes 0)
  | (s, sent, true) =>
    let machine := s.configuration.machine.step now false 0 (s.configuredStatuses now)
    let s := { s with
      hardwareActive := false
      commandInterfacesActive := false
      stateMachine := machine.1 }
    (s.updateControlStates, sent)

/-- Cleanup, shutdown and error handling have the same body. -/
def onCleanup (takes : Socket) : DamiaoSystem × List Frame :=
  ({ s with socketOpen := false, hardwareActive := false, commandInterfacesActive := false },
    s.sendDisable takes 0)

def onActivate : DamiaoSystem :=
  if !s.socketOpen then s
  else { s with hardwareActive := true, commandInterfacesActive := false, lastDisabledPollAt := 0 }

def onDeactivate (takes : Socket) : DamiaoSystem × List Frame :=
  ({ s with enableRequest := some 0, hardwareActive := false, commandInterfacesActive := false },
    s.sendDisable takes 0)

def performCommandModeSwitch (starts stops : Bool) : DamiaoSystem :=
  let s :=
    if stops then
      { s with
        commandInterfacesActive := false
        motors := fun motor =>
          if (s.motors motor).position.isSome then
            { s.motors motor with command := (s.motors motor).position }
          else s.motors motor }
    else s
  if starts && (s.hardwareActive && s.socketOpen) then
    -- The loop stops at the first motor whose position is not bounded.
    if !(s.configuration.limits 0).contains (s.motors 0).position then s
    else
      let s := { s with
        motors := Function.update s.motors 0
          { s.motors 0 with command := (s.motors 0).position } }
      if !(s.configuration.limits 1).contains (s.motors 1).position then s
      else
        { s with
          commandInterfacesActive := true
          motors := Function.update s.motors 1
            { s.motors 1 with command := (s.motors 1).position } }
  else s

def read (observed : Motor → Option MotorFeedback) (fails : Bool) (takes : Socket) :
    DamiaoSystem × List Frame :=
  let s := { s with motors := fun motor => (s.motors motor).observe (observed motor) }
  if fails then ({ s with commandInterfacesActive := false }, s.sendDisable takes 0) else (s, [])

def statuses (motor : Motor) : MotorStatus where
  valid := (s.motors motor).receivedAt ≠ 0
  status := (s.motors motor).status
  receivedAt := (s.motors motor).receivedAt

def commandsValid : Bool :=
  decide (∀ motor, (s.configuration.limits motor).contains (s.motors motor).command)

/-- The machine step of a `write`, with what its actions do to the motors and the limiters. -/
def advance (now : ℤ) (enable : Bool) (generation : ℕ) : DamiaoSystem × HeadActions :=
  let previousPhase := s.stateMachine.phase
  let (machine, actions) := s.stateMachine.step now enable generation s.statuses
  let s := { s with stateMachine := machine }
  let s :=
    if machine.phase ≠ previousPhase then
      { s with
        specialRateLimiter := s.specialRateLimiter.reset
        commandRateLimiter :=
          if machine.phase = .enabling ∨ machine.phase = .enabled then s.commandRateLimiter.reset
          else s.commandRateLimiter }
    else s
  let s :=
    if actions.seedHold then
      { s with
        motors := fun motor => { s.motors motor with command := (s.motors motor).position } }
    else s
  if actions.allowMotion && !s.commandsValid then
    let (machine, actions) := s.stateMachine.forceFault
    ({ s with stateMachine := machine, specialRateLimiter := s.specialRateLimiter.reset }, actions)
  else (s, actions)

/-- Each test of the chain may take the limiter's turn, as only one action is ever set. -/
def specialFrames (now : ℤ) (actions : HeadActions) : DamiaoSystem × List Frame :=
  let (limiter, due) := s.specialRateLimiter.due now
  if actions.sendDisable && due then
    ({ s with specialRateLimiter := limiter }, everyMotor .disable)
  else if actions.sendClearFault && due then
    ({ s with specialRateLimiter := limiter }, everyMotor .clearFault)
  else if actions.sendEnable && due then
    ({ s with specialRateLimiter := limiter }, everyMotor .enable)
  else (s, [])

def commandFrames (now : ℤ) (actions : HeadActions) : DamiaoSystem × List Frame :=
  let (limiter, due) := s.commandRateLimiter.due now
  if (actions.sendHold || actions.allowMotion) && due then
    ({ s with commandRateLimiter := limiter }, everyMotor fun motor =>
      .positionVelocity motor (toFloat (s.motors motor).command)
        (toFloat (some (s.configuration.limits motor).velocityLimit)))
  else if s.stateMachine.phase = .disabled &&
      s.configuration.disabledPollInterval ≤ now - s.lastDisabledPollAt then
    ({ s with lastDisabledPollAt := now }, everyMotor .disable)
  else (s, [])

def transmitFails (takes : Socket) (n : ℕ) (sent : List Frame) : DamiaoSystem × List Frame :=
  ({ s with commandInterfacesActive := false }, sent ++ s.sendDisable takes n)

def emit (now : ℤ) (actions : HeadActions) (takes : Socket) : DamiaoSystem × List Frame :=
  let (s, special) := s.specialFrames now actions
  match transmit takes special 0 with
  | (sent, n, false) => s.transmitFails takes n sent
  | (sent, n, true) =>
    let (s', command) := s.commandFrames now actions
    match transmit takes command n with
    | (sent', n, false) =>
      -- The poll time is stored after the send that threw.
      { s' with lastDisabledPollAt := s.lastDisabledPollAt }.transmitFails takes n (sent ++ sent')
    | (sent', _, true) => (s', sent ++ sent')

def requestedGeneration : Option ℕ := wholeGeneration s.resetGeneration

def write (now : ℤ) (takes : Socket) : DamiaoSystem × List Frame :=
  if !s.hardwareActive || !s.socketOpen then (s, [])
  else
    match exactFlag s.enableRequest, s.requestedGeneration with
    | some enable, some generation =>
      let (s, actions) := s.advance now enable generation
      s.updateControlStates.emit now actions takes
    | _, _ =>
      let s := { s with stateMachine := s.stateMachine.forceFault.1 }
      (s.updateControlStates, s.sendDisable takes 0)

def step : Label → DamiaoSystem × List Frame
  | .configure replies now takes => s.onConfigure replies now takes
  | .activate => (s.onActivate, [])
  | .deactivate takes => s.onDeactivate takes
  | .close takes => s.onCleanup takes
  | .switchInterfaces starts stops => (s.performCommandModeSwitch starts stops, [])
  | .setEnableRequest value => ({ s with enableRequest := value }, [])
  | .setResetGeneration value => ({ s with resetGeneration := value }, [])
  | .setCommand motor value =>
    ({ s with motors := Function.update s.motors motor { s.motors motor with command := value } },
      [])
  | .read observed fails takes => s.read observed fails takes
  | .write now takes => s.write now takes

end DamiaoSystem

end RobotDriver.Head
