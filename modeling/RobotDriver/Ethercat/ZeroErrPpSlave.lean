import RobotDriver.Ethercat.KincoCyclicModeSlave

/-!
# The slave of the profile-position gripper

The slave hands the commands and the process image to the gripper, and puts the word of the gripper
out only while the base word asks for an enable. Until a cycle was sent at the measured position
the gripper does not see that it is asked to enable.
-/

namespace RobotDriver.Ethercat

structure ZeroErrCommands (K : Type*) where
  position : Double K
  maxEffort : Double K
  ppSequence : Double K
  ppHalt : Double K
  controlWord : Double K

structure ZeroErrStates (K : Type*) where
  position : Double K := .nan
  velocity : Double K := .nan
  effort : Double K := .nan
  statusWord : Double K := .nan
  ppSequence : ℕ := 0
  ppState : PpState := .unavailable

structure ZeroErrInputs where
  statusWord : BitVec 16
  mode : ℤ
  actualPosition : ℤ
  actualVelocity : ℤ
  actualTorque : ℤ
  deriving DecidableEq, Repr

/-- The three outputs of the process image. -/
structure ZeroErrImage where
  controlWord : BitVec 16 := 0
  maxTorque : ℕ := 0
  target : ℤ := 0
  deriving DecidableEq, Repr

structure ZeroErrPpSlave (K : Type*) [Field K] [LinearOrder K] where
  gripper : PpGripper K
  velocityFactor : K
  effortFactor : K
  commands : ZeroErrCommands K
  states : ZeroErrStates K := {}
  feedback : PpFeedback K := ⟨false, 0, 0, 0, 0, .finite 0⟩
  output : PpOutput := {}
  image : ZeroErrImage := {}
  havePosition : Bool := false
  preloaded : Bool := false
  complete : Bool := false
  written : Bool := false
  isOperational : Bool := false

structure ZeroErrCycle (K : Type*) where
  complete : Bool
  inputs : ZeroErrInputs
  reads : Bool
  commands : ZeroErrCommands K
  startAt : K

inductive ZeroErrLabel (K : Type*)
  | cycle (c : ZeroErrCycle K)
  | operational (value : Bool)

namespace ZeroErrPpSlave

variable {K : Type*} [Field K] [LinearOrder K] [FloorRing K] (s : ZeroErrPpSlave K)

def baseControlWord : BitVec 16 :=
  match exactInteger s.commands.controlWord 65535 with
  | some word => BitVec.ofNat 16 word
  | none => 0

/-- One pass over the channels; it writes all three outputs. -/
def processData (inputs : ZeroErrInputs) : ZeroErrPpSlave K :=
  let base := s.baseControlWord
  let velocity := inputs.actualVelocity * s.velocityFactor
  { s with
    image := {
      controlWord := if requestsEnable base then s.output.controlWord else base
      maxTorque := s.output.maxTorque
      target := s.output.target }
    written := true
    feedback := { s.feedback with
      statusWord := inputs.statusWord
      mode := inputs.mode
      actualPosition := inputs.actualPosition
      velocity := .finite velocity }
    havePosition := true
    states := { s.states with
      position := .finite (s.gripper.position inputs.actualPosition)
      velocity := .finite velocity
      effort := .finite (inputs.actualTorque * s.effortFactor)
      statusWord := .finite (inputs.statusWord.toNat : K) } }

def onPdoCycleRead (complete : Bool) : ZeroErrPpSlave K :=
  if complete then s
  else { s with preloaded := false, states := { s.states with ppState := .unavailable } }

def request : PpRequest K where
  sequence := (exactInteger s.commands.ppSequence 9007199254740991).getD 0
  position := s.commands.position
  maxEffort := s.commands.maxEffort
  halt := s.commands.ppHalt ≠ .finite 0

/-- The feedback of a start hook; an enable is hidden from the gripper before the preload. -/
def tickFeedback (complete : Bool) : PpFeedback K :=
  let base := s.baseControlWord
  { s.feedback with
    operational := complete && s.isOperational && s.havePosition
    controlWord := if !(s.preloaded && complete) && requestsEnable base then 0 else base }

def onPdoCycleStart (complete : Bool) (now : K) : ZeroErrPpSlave K :=
  let feedback := s.tickFeedback complete
  let gripper := s.gripper.update s.request feedback (.finite now)
  { s with
    complete
    preloaded := s.preloaded && complete
    written := false
    feedback
    gripper
    output := gripper.output
    states := { s.states with
      ppSequence := gripper.output.sequence
      ppState := gripper.output.state } }

/-- The written outputs of a complete cycle are the ones that were sent. -/
def isSent : Bool := s.written && s.complete && s.isOperational && s.havePosition

def onPdoCycleSent : ZeroErrPpSlave K :=
  if s.isSent then
    { s with
      gripper := s.gripper.sent
      preloaded := s.preloaded ||
        (s.output.target = s.feedback.actualPosition && s.feedback.mode = 1) }
  else s

def setStateIsOperational (operational : Bool) : ZeroErrPpSlave K :=
  if operational then { s with isOperational := true }
  else
    { s with
      isOperational := false
      preloaded := false
      states := { s.states with ppState := .unavailable } }

/-- The set-up slave. -/
def start (config : PpConfig K) (velocityFactor effortFactor : K) (commands : ZeroErrCommands K) :
    ZeroErrPpSlave K where
  gripper := { config }
  velocityFactor := velocityFactor
  effortFactor := effortFactor
  commands := commands

/-- The slave as the start hook finds it. -/
def atStart (c : ZeroErrCycle K) : ZeroErrPpSlave K :=
  let s := if c.reads then (s.onPdoCycleRead c.complete).processData c.inputs else s
  { s with commands := c.commands }

def started (c : ZeroErrCycle K) : ZeroErrPpSlave K :=
  (s.atStart c).onPdoCycleStart c.complete c.startAt

def cycle (c : ZeroErrCycle K) : ZeroErrPpSlave K :=
  ((s.started c).processData c.inputs).onPdoCycleSent

def step : ZeroErrLabel K → ZeroErrPpSlave K
  | .cycle c => s.cycle c
  | .operational value => s.setStateIsOperational value

end ZeroErrPpSlave

end RobotDriver.Ethercat
