import RobotDriver.EnableManager.Types
import RobotDriver.Lib.Double

/-!
# The profile-position gripper

A motion is one handshake: the target and the force limit are sent with the trigger bit low, the
trigger is raised until the drive acknowledges it and released until the acknowledgement is gone.
-/

namespace RobotDriver.Ethercat

open EnableManager (decodeState)

inductive PpState
  | fault | unavailable | idle | preparing | waitingAck | releasingAck | moving | reached | halting
  | halted
  deriving DecidableEq, Repr

def rawPositionValid {K : Type*} [Field K] [LinearOrder K] (value : K) : Prop :=
  -2 ^ 31 ≤ value ∧ value ≤ 2 ^ 31 - 1

theorem tenthSecond_pos : (0 : ℚ) < 1 / 10 := by norm_num

structure PpConfig (K : Type*) [Field K] [LinearOrder K] where
  countsPerMetre : K
  zeroCounts : K
  minPosition : K
  maxPosition : K
  maxForce : K
  permillePerNewton : K
  maxTorquePermille : ℕ
  positionTolerance : K
  stoppedVelocity : K
  ackTimeout : K
  haltTimeout : K
  stoppedCycles : ℕ
  countsPerMetre_ne : countsPerMetre ≠ 0
  minPosition_nonneg : 0 ≤ minPosition
  minPosition_lt : minPosition < maxPosition
  maxForce_pos : 0 < maxForce
  permillePerNewton_pos : 0 < permillePerNewton
  maxTorquePermille_pos : 0 < maxTorquePermille
  maxTorquePermille_lt : maxTorquePermille < 2 ^ 16
  force_le : maxForce * permillePerNewton ≤ maxTorquePermille
  positionTolerance_pos : 0 < positionTolerance
  stoppedVelocity_pos : 0 < stoppedVelocity
  ackTimeout_pos : 0 < ackTimeout
  haltTimeout_pos : 0 < haltTimeout
  stoppedCycles_pos : 0 < stoppedCycles
  low_valid : rawPositionValid (zeroCounts + minPosition * countsPerMetre)
  high_valid : rawPositionValid (zeroCounts + maxPosition * countsPerMetre)

structure PpRequest (K : Type*) where
  sequence : ℕ
  position : Double K
  maxEffort : Double K
  halt : Bool

structure PpFeedback (K : Type*) where
  operational : Bool
  controlWord : BitVec 16
  statusWord : BitVec 16
  mode : ℤ
  actualPosition : ℤ
  velocity : Double K

structure PpOutput where
  controlWord : BitVec 16 := 0
  target : ℤ := 0
  maxTorque : ℕ := 0
  sequence : ℕ := 0
  state : PpState := .unavailable
  deriving DecidableEq, Repr

structure PpGripper (K : Type*) [Field K] [LinearOrder K] where
  config : PpConfig K
  output : PpOutput := {}
  entered : Double K := .finite 0
  lastTime : Double K := .finite 0
  targetPosition : K := 0
  stoppedCount : ℕ := 0
  wasSent : Bool := false

def requestsEnable (word : BitVec 16) : Bool := word &&& 0x008f#16 = 0x000f#16

def operationEnabled (statusWord : BitVec 16) : Bool :=
  decodeState statusWord.toNat = .operationEnabled

def newSetpoint (word : BitVec 16) : Bool := word.getLsbD 4

def acknowledged (statusWord : BitVec 16) : Bool := statusWord &&& 0x1000#16 ≠ 0#16

def targetReached (statusWord : BitVec 16) : Bool := statusWord &&& 0x0400#16 ≠ 0#16

def statusFault (statusWord : BitVec 16) : Bool := statusWord &&& 0x0008#16 ≠ 0#16

namespace PpGripper

variable {K : Type*} [Field K] [LinearOrder K] (g : PpGripper K)

def position (raw : ℤ) : K := (raw - g.config.zeroCounts) / g.config.countsPerMetre

def sent : PpGripper K := { g with wasSent := true }

def inState (state : PpState) : PpGripper K := { g with output := { g.output with state } }

def enter (state : PpState) (now : Double K) : PpGripper K :=
  { g.inState state with entered := now }

def composed (state : PpState) (base : BitVec 16) : BitVec 16 :=
  let run := state = .waitingAck ∨ state = .releasingAck ∨ state = .moving ∨ state = .reached
  let word := base &&& ~~~0x0170#16
  let word := if run then word else word ||| 0x0100#16
  if state = .waitingAck then word ||| 0x0010#16 else word

def compose (base : BitVec 16) : PpGripper K :=
  { g with output := { g.output with controlWord := composed g.output.state base } }

/-- The finite position and force of a request within the configured limits. -/
def validRequest (request : PpRequest K) : Option (K × K) :=
  match request.position, request.maxEffort with
  | .finite position, .finite maxEffort =>
    if 0 < request.sequence ∧ g.config.minPosition ≤ position ∧ position ≤ g.config.maxPosition ∧
        0 < maxEffort ∧ maxEffort ≤ g.config.maxForce ∧
        1 ≤ maxEffort * g.config.permillePerNewton then
      some (position, maxEffort)
    else none
  | _, _ => none

def expired (now : Double K) (timeout : K) : Bool :=
  decide (Double.Le (.finite timeout) (now.sub g.entered))

def healthy (feedback : PpFeedback K) (now : Double K) : Bool :=
  operationEnabled feedback.statusWord && feedback.mode = 1 && feedback.velocity.isFinite &&
    now.isFinite && Double.Le g.lastTime now && feedback.controlWord &&& 0x0170#16 = 0#16

/-- The state after the health check: a fault stays, and a fresh drive is idle. -/
def checked (feedback : PpFeedback K) (now : Double K) : PpGripper K :=
  let state :=
    if !g.healthy feedback now then .fault
    else if g.output.state = .unavailable then .idle
    else g.output.state
  { g.inState state with lastTime := now }

def isIdle : Bool :=
  g.output.state = .idle || g.output.state = .reached || g.output.state = .halted

def stopped (velocity : Double K) : Bool :=
  match velocity with
  | .finite v => |v| ≤ g.config.stoppedVelocity
  | _ => false

/-- The handshake with the drive. -/
def handshake (sent : Bool) (feedback : PpFeedback K) (now : Double K) : PpGripper K :=
  let ack := acknowledged feedback.statusWord
  let timedOut := g.expired now g.config.ackTimeout
  match g.output.state with
  | .idle => { g with output := { g.output with target := feedback.actualPosition } }
  | .preparing =>
    if sent && !ack then g.enter .waitingAck now
    else if timedOut then g.inState .fault
    else g
  | .waitingAck =>
    if sent && ack then g.enter .releasingAck now
    else if timedOut then g.inState .fault
    else g
  | .releasingAck =>
    if sent && !ack then g.enter .moving now
    else if timedOut then g.inState .fault
    else g
  | .moving =>
    if targetReached feedback.statusWord &&
        |g.position feedback.actualPosition - g.targetPosition| ≤ g.config.positionTolerance then
      g.inState .reached
    else g
  | .halting =>
    let count := if sent && !ack && g.stopped feedback.velocity then g.stoppedCount + 1 else 0
    let g := { g with stoppedCount := count }
    if g.config.stoppedCycles ≤ count then g.inState .halted
    else if g.expired now g.config.haltTimeout then g.inState .fault
    else g
  | .fault | .unavailable | .reached | .halted => g

def unavailable (request : PpRequest K) (feedback : PpFeedback K) : PpGripper K :=
  { g with output := { g.output with
    sequence := request.sequence
    target := feedback.actualPosition
    state := .unavailable } }

variable [FloorRing K]

def accept (request : PpRequest K) (position maxEffort : K) (now : Double K) : PpGripper K :=
  let g := { g with
    output := { g.output with
      sequence := request.sequence
      target := Double.llround (g.config.zeroCounts + position * g.config.countsPerMetre)
      maxTorque := ⌊maxEffort * g.config.permillePerNewton⌋.toNat }
    targetPosition := position
    stoppedCount := 0 }
  g.enter (if request.halt then .halting else .preparing) now

/-- An enabled and available drive: a new request, a halt, or the next step of the handshake. -/
def advance (sent : Bool) (request : PpRequest K) (feedback : PpFeedback K) (now : Double K) :
    PpGripper K :=
  let state := g.output.state
  if request.sequence ≠ g.output.sequence ∧ state ≠ .fault then
    match g.isIdle, g.validRequest request with
    | true, some (position, maxEffort) => g.accept request position maxEffort now
    -- The halt and the handshake that follow leave a fault as it is.
    | _, _ => g.inState .fault
  else if request.halt && g.output.sequence ≠ 0 && state ≠ .fault && state ≠ .idle &&
      state ≠ .halting && state ≠ .halted then
    { g with stoppedCount := 0 }.enter .halting now
  else g.handshake sent feedback now

/-- The output returned is the one stored. -/
def update (request : PpRequest K) (feedback : PpFeedback K) (now : Double K) : PpGripper K :=
  let sent := g.wasSent
  let base := feedback.controlWord
  let g := { g with wasSent := false, output := { g.output with controlWord := base } }
  if !feedback.operational || !requestsEnable base then
    let g := { g.unavailable request feedback with stoppedCount := 0, lastTime := now }
    if requestsEnable base then g.compose base else g
  else if !statusFault feedback.statusWord && !operationEnabled feedback.statusWord &&
      g.output.state ≠ .fault then
    (g.unavailable request feedback).compose base
  else ((g.checked feedback now).advance sent request feedback now).compose base

end PpGripper

end RobotDriver.Ethercat
