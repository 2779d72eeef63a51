import RobotDriver.Ethercat.PpGripper

/-!
# The cyclic-mode axis

An axis that runs in cyclic synchronous position or velocity mode and may be switched between the
two. `onPdoCycleStart` computes the four outputs of a cycle through one exit after another;
`onPdoCycleSent` records what was sent and advances the handoffs.
-/

namespace RobotDriver.Ethercat

def kCsp : ℤ := 8

def kCsv : ℤ := 9

def maxRideThroughCycles : ℕ := 5

structure KincoConfig (K : Type*) [Field K] [LinearOrder K] where
  positionCountsPerUnit : K
  velocityCountsPerUnit : K
  positionOffsetCounts : K
  minPosition : K
  maxPosition : K
  maxAbsVelocity : K
  stationaryVelocity : K
  feedbackTimeout : K
  modeAckTimeout : K
  takeoverTolerance : K
  startupMode : ℤ
  modeSwitching : Bool
  positionCountsPerUnit_ne : positionCountsPerUnit ≠ 0
  velocityCountsPerUnit_ne : velocityCountsPerUnit ≠ 0
  minPosition_lt : minPosition < maxPosition
  maxAbsVelocity_pos : 0 < maxAbsVelocity
  stationaryVelocity_pos : 0 < stationaryVelocity
  stationaryVelocity_le : stationaryVelocity ≤ maxAbsVelocity
  feedbackTimeout_pos : 0 < feedbackTimeout
  modeAckTimeout_pos : 0 < modeAckTimeout
  takeoverTolerance_pos : 0 < takeoverTolerance
  startupMode_cyclic : startupMode = kCsp ∨ startupMode = kCsv
  low_valid : rawPositionValid (minPosition * positionCountsPerUnit + positionOffsetCounts)
  high_valid : rawPositionValid (maxPosition * positionCountsPerUnit + positionOffsetCounts)
  velocity_valid : rawPositionValid (maxAbsVelocity * |velocityCountsPerUnit|)

structure KincoCommands (K : Type*) where
  position : Double K
  velocity : Double K
  mode : Double K
  controlWord : Double K
  writeSequence : Double K
  writeMask : Double K

structure KincoStates (K : Type*) where
  actualPosition : Double K := .nan
  actualVelocity : Double K := .nan
  modeDisplay : Double K := .nan
  statusWord : Double K := .nan
  feedbackAge : Double K := .posInf
  modeSwitchReady : Bool := false
  modeRequestAck : Bool := false
  commandFresh : Bool := false
  modeRequestError : Bool := false
  feedbackSequence : ℕ := 0
  sentSequence : ℕ := 0
  feedbackSequenceAtSend : ℕ := 0
  sentVelocity : Double K := .nan
  errorWord1 : Double K := .nan
  errorWord2 : Double K := .nan

/-- The four objects written to the drive. -/
structure KincoOutput where
  controlWord : BitVec 16 := 0
  position : ℤ := 0
  velocity : ℤ := 0
  mode : ℤ := 0
  deriving DecidableEq, Repr

/-- The component of a coordinator's write. -/
structure Pending where
  valid : Bool := false
  sequence : ℕ := 0
  mask : ℕ := 0
  position : ℤ := 0
  velocity : ℤ := 0
  mode : ℤ := 0
  deriving DecidableEq, Repr

structure KincoCyclicModeSlave (K : Type*) [Field K] [LinearOrder K] where
  config : KincoConfig K
  commands : KincoCommands K
  states : KincoStates K := {}
  isOperational : Bool := false
  actualPositionRaw : ℤ := 0
  actualVelocityRaw : ℤ := 0
  statusWord : BitVec 16 := 0
  modeDisplay : ℤ := 0
  output : KincoOutput := {}
  cspSeedRaw : ℤ := 0
  csvHoldRaw : ℤ := 0
  lastCompleteFeedback : ℤ := 0
  modeRequestStarted : ℤ := 0
  startupModeWaitStarted : ℤ := 0
  startupModeWaiting : Bool := false
  holdPositionRaw : ℤ := 0
  holdKnown : Bool := false
  incompleteCycles : ℕ := 0
  lastSentVelocityRaw : ℤ := 0
  lastSentMode : ℤ := 0
  positionOwned : Bool := false
  readHookSeen : Bool := false
  cycleComplete : Bool := false
  havePosition : Bool := false
  haveVelocity : Bool := false
  haveStatus : Bool := false
  haveMode : Bool := false
  startupSeedPending : Bool := false
  startupSeedSent : Bool := false
  cspPreseedPending : Bool := false
  cspPreseedSent : Bool := false
  modeRequestInFlight : Bool := false
  csvZeroPending : Bool := false
  csvRequiresFreshCommand : Bool := true
  csvPostAckQuarantine : Bool := false
  errorLatched : Bool := false
  modeRequestTarget : ℤ := 0
  feedbackSequence : ℕ := 0
  sentSequence : ℕ := 0
  pending : Pending := {}

/-- An input object of the process image. -/
inductive Input
  | statusWord (word : BitVec 16)
  | actualPosition (raw : ℤ)
  | actualVelocity (raw : ℤ)
  | modeDisplay (mode : ℤ)
  | errorWord1 (word : BitVec 16)
  | errorWord2 (word : BitVec 16)
  deriving DecidableEq, Repr

section Values

variable {K : Type*} [Field K] [LinearOrder K] [FloorRing K]

def exactInteger (value : Double K) (maximum : K) : Option ℕ :=
  match value with
  | .finite x => if 0 ≤ x ∧ x ≤ maximum ∧ (⌊x⌋ : K) = x then some ⌊x⌋.toNat else none
  | _ => none

end Values

namespace KincoCyclicModeSlave

variable {K : Type*} [Field K] [LinearOrder K] (s : KincoCyclicModeSlave K)

/-! ### Predicates on the state and the commands -/

def haveInputs : Bool := s.havePosition && s.haveVelocity && s.haveStatus && s.haveMode

def seconds (since now : ℤ) : K := ((now - since : ℤ) : K) / 10 ^ 9

def feedbackFresh (now : ℤ) : Bool :=
  s.lastCompleteFeedback ≠ 0 && seconds s.lastCompleteFeedback now ≤ s.config.feedbackTimeout

def isOperationEnabled : Bool := operationEnabled s.statusWord

def stationary : Bool :=
  |(s.actualVelocityRaw : K) / s.config.velocityCountsPerUnit| ≤ s.config.stationaryVelocity

def toleranceCounts : K := s.config.takeoverTolerance * |s.config.positionCountsPerUnit|

section Commands

variable [FloorRing K]

def validPositionCommand : Option ℤ :=
  match s.commands.position with
  | .finite value =>
    let converted := value * s.config.positionCountsPerUnit + s.config.positionOffsetCounts
    if s.config.minPosition ≤ value ∧ value ≤ s.config.maxPosition ∧
        (-2 ^ 31 ≤ converted ∧ converted ≤ 2 ^ 31 - 1) then
      some (Double.llround converted)
    else none
  | _ => none

def validVelocityCommand : Option ℤ :=
  match s.commands.velocity with
  | .finite value =>
    let converted := value * s.config.velocityCountsPerUnit
    if |value| ≤ s.config.maxAbsVelocity ∧ (-2 ^ 31 ≤ converted ∧ converted ≤ 2 ^ 31 - 1) then
      some (Double.llround converted)
    else none
  | _ => none

def requestedMode : ℤ :=
  match exactInteger s.commands.mode 127 with
  | some 8 => kCsp
  | some 9 => kCsv
  | _ => 0

def requestedControlWord : BitVec 16 :=
  match exactInteger s.commands.controlWord 65535 with
  | some word => BitVec.ofNat 16 word
  | none => 0

def enableRequested : Bool := requestsEnable s.requestedControlWord

/-- Without a producer of the mode the startup mode is kept. -/
def desiredMode : ℤ :=
  if s.config.modeSwitching && !Double.isNan s.commands.mode then s.requestedMode
  else s.config.startupMode

def pendingWrite : Pending :=
  match exactInteger s.commands.writeSequence 9007199254740991,
      exactInteger s.commands.writeMask 7 with
  | some sequence, some mask =>
    if 0 < sequence ∧ 0 < mask then
      { valid :=
          (mask &&& 1 = 0 || s.validVelocityCommand.isSome) &&
            (mask &&& 2 = 0 || s.validPositionCommand.isSome) &&
            (mask &&& 4 = 0 || s.requestedMode ≠ 0)
        sequence := sequence
        mask := mask
        -- A component that is not selected keeps its last value.
        velocity := if mask &&& 1 = 0 then s.pending.velocity
          else s.validVelocityCommand.getD s.pending.velocity
        position := if mask &&& 2 = 0 then s.pending.position
          else s.validPositionCommand.getD s.pending.position
        mode := s.requestedMode }
    else
      { s.pending with valid := false, sequence := 0, mask := 0, mode := s.requestedMode }
  | _, _ => { s.pending with valid := false, sequence := 0, mask := 0, mode := s.requestedMode }

end Commands

/-! ### Updates shared by the hooks -/

def invalidateVelocityCommand : KincoCyclicModeSlave K :=
  { s with commands := { s.commands with velocity := .nan } }

def inhibitOperation : KincoCyclicModeSlave K :=
  { s with output := { s.output with
    controlWord := if requestsEnable s.output.controlWord then 0x0007#16 else s.output.controlWord
    velocity := 0 } }

def clearHandoff (error : Bool) : KincoCyclicModeSlave K :=
  { s with
    errorLatched := s.errorLatched || error
    cspPreseedPending := false
    cspPreseedSent := false
    modeRequestInFlight := false
    csvZeroPending := false
    csvPostAckQuarantine := false
    modeRequestTarget := 0
    states := { s.states with
      modeSwitchReady := false
      modeRequestAck := false
      commandFresh := false
      modeRequestError := error } }

/-! ### Inputs -/

def store (input : Input) : KincoCyclicModeSlave K :=
  match input with
  | .statusWord word =>
    { s with
      statusWord := word
      haveStatus := true
      states := { s.states with statusWord := .finite (word.toNat : K) } }
  | .actualPosition raw =>
    { s with
      actualPositionRaw := raw
      havePosition := true
      states := { s.states with
        actualPosition :=
          .finite (((raw : K) - s.config.positionOffsetCounts) / s.config.positionCountsPerUnit) } }
  | .actualVelocity raw =>
    { s with
      actualVelocityRaw := raw
      haveVelocity := true
      states := { s.states with
        actualVelocity := .finite ((raw : K) / s.config.velocityCountsPerUnit) } }
  | .modeDisplay mode =>
    { s with
      modeDisplay := mode
      haveMode := true
      states := { s.states with modeDisplay := .finite (mode : K) } }
  | .errorWord1 word =>
    { s with states := { s.states with errorWord1 := .finite (word.toNat : K) } }
  | .errorWord2 word =>
    { s with states := { s.states with errorWord2 := .finite (word.toNat : K) } }

def countFeedback : KincoCyclicModeSlave K :=
  if s.haveInputs then
    if 9007199254740991 ≤ s.feedbackSequence then s.clearHandoff true
    else
      { s with
        feedbackSequence := s.feedbackSequence + 1
        states := { s.states with feedbackSequence := s.feedbackSequence + 1 } }
  else s

def processInput (input : Input) : KincoCyclicModeSlave K :=
  if !s.cycleComplete then s else (s.store input).countFeedback

def processInputs (inputs : List Input) : KincoCyclicModeSlave K :=
  inputs.foldl processInput s

/-! ### The read hook -/

def onPdoCycleRead (complete : Bool) (now : ℤ) : KincoCyclicModeSlave K :=
  let s := { s with
    havePosition := false
    haveVelocity := false
    haveStatus := false
    haveMode := false
    readHookSeen := true
    cycleComplete := complete }
  if complete then
    { s with
      lastCompleteFeedback := now
      states := { s.states with feedbackAge := .finite 0 }
      incompleteCycles := 0 }
  else
    let s := { s with
      incompleteCycles :=
        if s.incompleteCycles < 255 then s.incompleteCycles + 1 else s.incompleteCycles }
    let s :=
      if !s.startupSeedSent || maxRideThroughCycles < s.incompleteCycles then
        { s with startupSeedSent := false }.clearHandoff true
      else s
    { s with states := { s.states with feedbackAge := .posInf } }

/-! ### The start hook -/

section Start

variable [FloorRing K]

def rideThrough (complete : Bool) : Bool :=
  !complete && s.isOperational && s.startupSeedSent && s.incompleteCycles ≤ maxRideThroughCycles

/-- The outputs before any exit: the requested word, the hold and no velocity. -/
def prepare (complete : Bool) (now : ℤ) : KincoCyclicModeSlave K :=
  let word :=
    if (complete || s.rideThrough complete) && s.isOperational then s.requestedControlWord else 0
  { s with
    cycleComplete := complete
    lastCompleteFeedback :=
      if complete && !s.readHookSeen then now else s.lastCompleteFeedback
    pending := s.pendingWrite
    output := {
      controlWord := if !s.startupSeedSent && requestsEnable word then 0x0007#16 else word
      position :=
        if s.holdKnown then s.holdPositionRaw
        else if s.havePosition then s.actualPositionRaw
        else 0
      velocity := 0
      mode :=
        if s.haveMode && (s.modeDisplay = kCsp || s.modeDisplay = kCsv) then s.modeDisplay
        else s.config.startupMode }
    states := { s.states with
      modeSwitchReady := false
      modeRequestAck := false
      commandFresh := false } }

/-- The last outputs once more; the position is already the hold. -/
def repeatLast : KincoCyclicModeSlave K :=
  { s with output := { s.output with
    velocity := s.lastSentVelocityRaw
    mode := s.lastSentMode } }

def loseSeed (error : Bool) : KincoCyclicModeSlave K :=
  { s with startupSeedSent := false }.clearHandoff error

def seed : KincoCyclicModeSlave K :=
  { s with
    output := { s.output with
      position := s.actualPositionRaw
      velocity := 0
      mode := if s.modeDisplay = 0 then s.config.startupMode else s.modeDisplay }
    holdPositionRaw := s.actualPositionRaw
    holdKnown := true
    positionOwned := false
    startupSeedPending := true }.invalidateVelocityCommand

/-- While disabled the hold tracks the drive, and a latched error ends without an enable. -/
def trackDisabled : KincoCyclicModeSlave K :=
  { s with
    holdPositionRaw := s.actualPositionRaw
    holdKnown := true
    output := { s.output with position := s.actualPositionRaw }
    errorLatched := s.errorLatched && s.enableRequested }

def inhibitLatched : KincoCyclicModeSlave K :=
  { s with states := { s.states with modeRequestError := true } }.inhibitOperation

def disabledCycle : KincoCyclicModeSlave K :=
  { s with
    holdPositionRaw := s.actualPositionRaw
    output := { s.output with mode := s.config.startupMode }
    positionOwned := false
    commands := { s.commands with position := .nan }
    startupModeWaiting := false }.clearHandoff false

def putPosition (raw : ℤ) : KincoCyclicModeSlave K :=
  { s with output := { s.output with position := raw } }

def waitForStartupMode (now : ℤ) : KincoCyclicModeSlave K :=
  if !s.startupModeWaiting then
    { s with startupModeWaiting := true, startupModeWaitStarted := now }
  else s

/-- Enabled, but the drive does not display a mode yet. -/
def confirmStartupMode (now : ℤ) : KincoCyclicModeSlave K :=
  let s := s.waitForStartupMode now
  if s.desiredMode ≠ s.config.startupMode ∨
      s.config.modeAckTimeout < seconds s.startupModeWaitStarted now then
    s.clearHandoff true
  else
    { s with output := { s.output with
      mode := s.config.startupMode
      position := s.holdPositionRaw } }.invalidateVelocityCommand

def requestWithdrawn (now : ℤ) : Bool :=
  s.desiredMode ≠ s.modeRequestTarget || s.config.modeAckTimeout < seconds s.modeRequestStarted now

/-- The drive displays the requested position mode, which is owned from the seed on. -/
def awaitCsp : KincoCyclicModeSlave K :=
  let output := { s.output with mode := kCsp, position := s.cspSeedRaw }
  if s.modeDisplay = kCsp then
    { s with
      output
      positionOwned := true
      holdPositionRaw := s.cspSeedRaw
      modeRequestInFlight := false
      cspPreseedSent := false
      states := { s.states with modeSwitchReady := s.cspPreseedSent, modeRequestAck := true } }
  else { s with output, states := { s.states with modeSwitchReady := s.cspPreseedSent } }

def awaitCsv : KincoCyclicModeSlave K :=
  { s with
    output := { s.output with
      mode := s.modeRequestTarget
      position := s.csvHoldRaw
      velocity := 0 }
    csvZeroPending := s.csvZeroPending || s.modeDisplay = kCsv }.invalidateVelocityCommand

def awaitMode (now : ℤ) : KincoCyclicModeSlave K :=
  if s.requestWithdrawn now then s.clearHandoff true
  else if s.modeRequestTarget = kCsp then s.awaitCsp
  else s.awaitCsv

def sendRequest (target : ℤ) (now : ℤ) : KincoCyclicModeSlave K :=
  { s with
    output := { s.output with mode := target }
    modeRequestTarget := target
    modeRequestInFlight := true
    modeRequestStarted := now }

/-- The commanded position is the measured one, at standstill. -/
def seedsCsp : Bool := s.validPositionCommand = some s.actualPositionRaw && s.stationary

def putCspSeed : KincoCyclicModeSlave K :=
  { s.putPosition s.actualPositionRaw with cspSeedRaw := s.actualPositionRaw }

def requestCsp (now : ℤ) : KincoCyclicModeSlave K :=
  if !s.seedsCsp then s
  else if !s.cspPreseedSent then { s.putCspSeed with cspPreseedPending := true }
  else
    { s.putCspSeed with states := { s.states with modeSwitchReady := true } }.sendRequest kCsp now

def requestCsv (now : ℤ) : KincoCyclicModeSlave K :=
  match s.validPositionCommand with
  | none => s.clearHandoff true
  | some hold =>
    ({ s with
      csvHoldRaw := hold
      output := { s.output with
        position := hold
        velocity := 0 } }.invalidateVelocityCommand).sendRequest kCsv now

def requestMode (now : ℤ) : KincoCyclicModeSlave K :=
  if s.modeDisplay = kCsv ∧ s.desiredMode = kCsp then s.requestCsp now
  else if s.modeDisplay = kCsp ∧ s.desiredMode = kCsv then s.requestCsv now
  else s.clearHandoff true

def farFrom (raw : ℤ) : Bool := s.toleranceCounts < |(raw : K) - s.actualPositionRaw|

def refuseTakeover : KincoCyclicModeSlave K := (s.clearHandoff true).inhibitOperation

def ownPosition (target : ℤ) : KincoCyclicModeSlave K :=
  { s.putPosition target with
    positionOwned := true
    holdPositionRaw := target
    states := { s.states with commandFresh := true } }

/-- Until a controller owns the axis, the drive stays near the hold and the first command near the
drive; without a command the hold is kept. -/
def takePosition : KincoCyclicModeSlave K :=
  if !s.positionOwned && s.farFrom s.holdPositionRaw then s.refuseTakeover
  else if s.commands.position.isNan && !s.positionOwned then s
  else
    match s.validPositionCommand with
    | none => s.refuseTakeover
    | some target =>
      if !s.positionOwned && s.farFrom target then s.refuseTakeover else s.ownPosition target

def followPosition : KincoCyclicModeSlave K := (s.putPosition s.holdPositionRaw).takePosition

def coordinatesPosition : Bool := s.pending.valid && s.pending.mask &&& 2 ≠ 0

/-- The coordinator's position is kept until it has observed the acknowledgement. -/
def coordinated : KincoCyclicModeSlave K :=
  if s.coordinatesPosition then s.putPosition s.pending.position else s

def takeVelocity : KincoCyclicModeSlave K :=
  if s.csvPostAckQuarantine then { s with csvPostAckQuarantine := false }.invalidateVelocityCommand
  else
    match s.validVelocityCommand with
    | some velocity =>
      { s with
        csvRequiresFreshCommand := false
        output := { s.output with velocity }
        states := { s.states with commandFresh := true } }
    | none =>
      { s with states := { s.states with
        modeRequestError := s.states.modeRequestError || !s.csvRequiresFreshCommand } }

def followVelocity : KincoCyclicModeSlave K := s.coordinated.takeVelocity

def enterEnabled : KincoCyclicModeSlave K :=
  { s with
    startupModeWaiting := false
    positionOwned := s.positionOwned && s.modeDisplay = kCsp }

def modeReached : KincoCyclicModeSlave K :=
  { s with states := { s.states with modeSwitchReady := true, modeRequestAck := true } }

def operate (now : ℤ) : KincoCyclicModeSlave K :=
  if s.modeRequestInFlight then s.awaitMode now
  else if s.desiredMode ≠ s.modeDisplay then s.requestMode now
  else if s.desiredMode = kCsp then s.modeReached.followPosition
  else s.modeReached.followVelocity

def enabledCycle (now : ℤ) : KincoCyclicModeSlave K := s.enterEnabled.operate now

def tracked : KincoCyclicModeSlave K := if !s.isOperationEnabled then s.trackDisabled else s

def unlatchedCycle (now : ℤ) : KincoCyclicModeSlave K :=
  if s.errorLatched then s.inhibitLatched
  else if s.desiredMode ≠ kCsp ∧ s.desiredMode ≠ kCsv then s.clearHandoff true
  else if !s.isOperationEnabled then s.disabledCycle
  else if s.modeDisplay = 0 then s.confirmStartupMode now
  else s.enabledCycle now

def seededCycle (now : ℤ) : KincoCyclicModeSlave K := s.tracked.unlatchedCycle now

def displaysMode : Bool := s.modeDisplay = 0 || s.modeDisplay = kCsp || s.modeDisplay = kCsv

def ageFeedback (now : ℤ) : KincoCyclicModeSlave K :=
  { s with states := { s.states with
    feedbackAge := .finite (((now - s.lastCompleteFeedback : ℤ) : K) / 10 ^ 6) } }

/-- The exits in the order of the source. -/
def onPdoCycleStart (complete : Bool) (now : ℤ) : KincoCyclicModeSlave K :=
  let ride := s.rideThrough complete
  let s := s.prepare complete now
  if !complete then
    if ride then s.repeatLast else s.loseSeed true
  else if !s.isOperational || !s.haveInputs then s.loseSeed false
  else if !s.feedbackFresh now || !s.displaysMode then s.loseSeed true
  else if !s.startupSeedSent then (s.ageFeedback now).seed
  else (s.ageFeedback now).seededCycle now

/-- The feedback that the start hook takes up. -/
structure Valid (now : ℤ) : Prop where
  operational : s.isOperational = true
  inputs : s.haveInputs = true
  fresh : (s.prepare true now).feedbackFresh now = true
  displays : s.displaysMode = true

/-- The exit that a start hook takes. -/
inductive StartExit : Bool → ℤ → KincoCyclicModeSlave K → Prop
  | rides {now : ℤ} (ride : s.rideThrough false = true) :
      StartExit false now (s.prepare false now).repeatLast
  | lost {now : ℤ} (strict : s.rideThrough false = false) :
      StartExit false now ((s.prepare false now).loseSeed true)
  | incomplete {now : ℤ} (down : s.isOperational = false ∨ s.haveInputs = false) :
      StartExit true now ((s.prepare true now).loseSeed false)
  | stale {now : ℤ} (operational : s.isOperational = true) (inputs : s.haveInputs = true)
      (stale : (s.prepare true now).feedbackFresh now = false ∨ s.displaysMode = false) :
      StartExit true now ((s.prepare true now).loseSeed true)
  | seeds {now : ℤ} (valid : s.Valid now) (unseeded : s.startupSeedSent = false) :
      StartExit true now ((s.prepare true now).ageFeedback now).seed
  | seeded {now : ℤ} (valid : s.Valid now) (seeded : s.startupSeedSent = true) :
      StartExit true now (((s.prepare true now).ageFeedback now).seededCycle now)

theorem startExit (complete : Bool) (now : ℤ) :
    s.StartExit complete now (s.onPdoCycleStart complete now) := by
  unfold onPdoCycleStart
  dsimp only
  cases complete with
  | false =>
    simp only [Bool.not_false, if_true]
    split_ifs with hride
    · exact .rides hride
    · exact .lost (Bool.eq_false_iff.2 hride)
  | true =>
    simp only [Bool.not_true, Bool.false_eq_true, if_false]
    split_ifs with hdown hstale hseed
    · simp only [Bool.or_eq_true, Bool.not_eq_true'] at hdown
      exact .incomplete hdown
    · simp only [Bool.or_eq_true, Bool.not_eq_true', not_or, Bool.not_eq_false] at hdown hstale
      exact .stale hdown.1 hdown.2 hstale
    all_goals
      simp only [Bool.or_eq_true, Bool.not_eq_true', not_or, Bool.not_eq_false] at hdown hstale hseed
    · exact .seeds ⟨hdown.1, hdown.2, hstale.1, hstale.2⟩ hseed
    · exact .seeded ⟨hdown.1, hdown.2, hstale.1, hstale.2⟩ hseed

end Start

/-! ### The send hook -/

def acknowledge : KincoCyclicModeSlave K :=
  let p := s.pending
  if p.valid && !s.errorLatched && s.isOperationEnabled && s.sentSequence < p.sequence &&
      s.feedbackSequence ≠ 0 && (p.mask &&& 1 = 0 || p.velocity = s.output.velocity) &&
      (p.mask &&& 2 = 0 || p.position = s.output.position) &&
      (p.mask &&& 4 = 0 || p.mode = s.output.mode) then
    { s with
      sentSequence := p.sequence
      states := { s.states with
        sentSequence := p.sequence
        feedbackSequenceAtSend := s.feedbackSequence } }
  else s

def confirmSeed : KincoCyclicModeSlave K :=
  if s.startupSeedPending && s.havePosition && s.haveVelocity && s.haveMode then
    let s := { s with startupSeedPending := false, startupSeedSent := true }
    if s.modeDisplay = kCsv || (s.modeDisplay = 0 && s.config.startupMode = kCsv) then
      { s with csvRequiresFreshCommand := true }.invalidateVelocityCommand
    else s
  else s

def confirmPreseed : KincoCyclicModeSlave K :=
  if s.cspPreseedPending && s.output.position = s.actualPositionRaw && s.output.velocity = 0 &&
      s.output.mode = kCsv then
    { s with
      cspPreseedPending := false
      cspPreseedSent := true
      states := { s.states with modeSwitchReady := true } }
  else s

def confirmCsv : KincoCyclicModeSlave K :=
  if s.csvZeroPending && s.output.velocity = 0 && s.output.mode = kCsv then
    { s with
      csvZeroPending := false
      modeRequestInFlight := false
      csvRequiresFreshCommand := true
      csvPostAckQuarantine := true
      states := { s.states with modeRequestAck := true } }.invalidateVelocityCommand
  else s

/-- All four outputs were written; a cycle that is not complete records nothing. -/
def onPdoCycleSent : KincoCyclicModeSlave K :=
  if !s.cycleComplete || !s.isOperational then s
  else
    let s := { s with
      states := { s.states with
        sentVelocity := .finite (s.output.velocity / s.config.velocityCountsPerUnit) }
      lastSentVelocityRaw := s.output.velocity
      lastSentMode := s.output.mode }
    s.acknowledge.confirmSeed.confirmPreseed.confirmCsv

/-- What every record of a sent cycle keeps is kept by all of them. -/
theorem onPdoCycleSent_kept {p : KincoCyclicModeSlave K → Prop}
    (hrecord : ∀ s states sequence velocity mode, p s → p { s with
      states := states
      sentSequence := sequence
      lastSentVelocityRaw := velocity
      lastSentMode := mode })
    (hseed : ∀ s, p s → p { s with startupSeedPending := false, startupSeedSent := true })
    (hpreseed : ∀ s, p s → p { s with cspPreseedPending := false, cspPreseedSent := true })
    (hcsv : ∀ s, p s → p { s with
      csvZeroPending := false
      modeRequestInFlight := false
      csvPostAckQuarantine := true })
    (hfresh : ∀ s, p s → p { s with csvRequiresFreshCommand := true }.invalidateVelocityCommand)
    (h : p s) : p s.onPdoCycleSent := by
  have hrecords (s : KincoCyclicModeSlave K) (h : p s) :
      p s.acknowledge.confirmSeed.confirmPreseed.confirmCsv := by
    have hacknowledge : p s.acknowledge := by
      unfold acknowledge
      dsimp only
      split_ifs
      · exact hrecord s _ _ _ _ h
      · exact h
    have hseeds : p s.acknowledge.confirmSeed := by
      unfold confirmSeed
      dsimp only
      split_ifs
      · exact hfresh _ (hseed _ hacknowledge)
      · exact hseed _ hacknowledge
      · exact hacknowledge
    have hpreseeds : p s.acknowledge.confirmSeed.confirmPreseed := by
      unfold confirmPreseed
      split_ifs
      · exact hrecord _ _ _ _ _ (hpreseed _ hseeds)
      · exact hseeds
    unfold confirmCsv
    split_ifs
    · exact hfresh _ (hrecord _ _ _ _ _ (hcsv _ hpreseeds))
    · exact hpreseeds
  unfold onPdoCycleSent
  split_ifs
  · exact h
  · exact hrecords _ (hrecord s _ _ _ _ h)

def setStateIsOperational (operational : Bool) : KincoCyclicModeSlave K :=
  let s := { s with isOperational := operational }
  if operational then s
  else
    let s := ({ s with
      states := { s.states with
        sentSequence := 0
        feedbackSequenceAtSend := 0
        sentVelocity := .nan }
      cycleComplete := false
      startupSeedPending := false
      startupSeedSent := false
      errorLatched := false
      startupModeWaiting := false
      positionOwned := false
      holdKnown := false
      incompleteCycles := 0 }.clearHandoff false).invalidateVelocityCommand
    { s with states := { s.states with feedbackAge := .posInf } }

end KincoCyclicModeSlave

end RobotDriver.Ethercat
