import RobotDriver.Bms.PackState

/-!
# The dual battery discharge controller

The primary pack supplies the robot from the start. The secondary pack is joined by a D9 command
and the closing of the relay; a fault of either pack is latched and isolated by a D9 command, and a
secondary fault also opens the relay.
-/

namespace RobotDriver.Bms

inductive DischargePhase
  | waitingForRelayOpen
  | waitingForPrimary
  | waitingForSecondary
  | waitingForJoinConditions
  | waitingForAck
  | waitingForMos
  | waitingForRelayClosed
  | observingSecondary
  | running
  | stoppingLoads
  | stoppingSecondary
  | openingRelay
  | stoppingPrimary
  | faultLatched
  | awaitingIsolationPolicy
  deriving DecidableEq, Repr

inductive DischargeAction
  | none
  | stopLoads
  | enableSecondary
  | disableSecondary
  | disablePrimary
  | closeRelay
  | openRelay
  deriving DecidableEq, Repr

namespace DischargePhase

def waitingBeforeCommand : DischargePhase → Bool
  | waitingForSecondary | waitingForJoinConditions => true
  | _ => false

def waitingForD9 : DischargePhase → Bool
  | waitingForAck | waitingForMos => true
  | _ => false

def expectsPrimarySupply (phase : DischargePhase) : Bool :=
  phase.waitingBeforeCommand || phase.waitingForD9 || phase = waitingForRelayClosed ||
    phase = observingSecondary || phase = running

def joining : DischargePhase → Bool
  | waitingForAck | waitingForMos | waitingForRelayClosed | observingSecondary => true
  | _ => false

def connected : DischargePhase → Bool
  | observingSecondary | running => true
  | _ => false

/-- The phases a latched fault is handled in. -/
def isolating : DischargePhase → Bool
  | stoppingLoads | stoppingSecondary | openingRelay | stoppingPrimary | faultLatched
  | awaitingIsolationPolicy => true
  | _ => false

end DischargePhase

structure DischargeSettings (K : Type*) where
  statusTimeoutS : Double K
  commandTimeoutS : Double K
  observationS : Double K
  stableS : Double K
  maxVoltageDeltaV : Double K
  tripVoltageDeltaV : Double K
  maxAbsCurrentA : Double K
  minCellVoltageV : Double K
  maxCellVoltageV : Double K
  minCellTemperatureC : Double K
  maxCellTemperatureC : Double K
  mosOnRaw : UInt8
  mosOffRaw : UInt8
  deriving DecidableEq

structure DischargeInputs (K : Type*) where
  primary : PackState K
  secondary : PackState K
  nowS : Double K
  loadsStopped : Bool
  loadsStoppedS : Option (Double K)
  relayClosed : Option Bool
  relayFeedbackS : Option (Double K)
  controlAuthorized : Bool

variable {K : Type*} [Field K] [LinearOrder K]

def positive (value : Double K) : Bool := value.isFinite && !decide (value.Le (.finite 0))

def nonnegative (value : Double K) : Bool := value.isFinite && !decide (value.Lt (.finite 0))

/-- Later than a stamp that may be missing on either side. -/
def stampedAfter (stamp command : Option (Double K)) : Bool :=
  match stamp, command with
  | some stamp, some command => decide (command.Lt stamp)
  | _, _ => false

def voltageDelta (inputs : DischargeInputs K) : Double K :=
  ((inputs.primary.sample.voltageV.getD .nan).sub
    (inputs.secondary.sample.voltageV.getD .nan)).abs

def absCurrent (pack : PackState K) : Double K := (pack.sample.currentA.getD .nan).abs

namespace DischargeSettings

variable (settings : DischargeSettings K)

def accepted : Bool :=
  positive settings.statusTimeoutS && positive settings.commandTimeoutS &&
    positive settings.observationS && positive settings.stableS &&
    nonnegative settings.maxVoltageDeltaV && settings.tripVoltageDeltaV.isFinite &&
    !decide (settings.tripVoltageDeltaV.Lt settings.maxVoltageDeltaV) &&
    nonnegative settings.maxAbsCurrentA && positive settings.minCellVoltageV &&
    settings.maxCellVoltageV.isFinite &&
    !decide (settings.maxCellVoltageV.Le settings.minCellVoltageV) &&
    settings.minCellTemperatureC.isFinite && settings.maxCellTemperatureC.isFinite &&
    !decide (settings.maxCellTemperatureC.Le settings.minCellTemperatureC) &&
    decide (settings.mosOnRaw ≠ settings.mosOffRaw)

def feedbackFresh (stamp : Option (Double K)) (now : Double K) : Bool :=
  match stamp with
  | none => false
  | some stamp =>
    now.isFinite && stamp.isFinite && decide (stamp.Le now) &&
      decide ((now.sub stamp).Le settings.statusTimeoutS)

def cellInRange (voltage : Double K) : Bool :=
  !decide (voltage.Lt settings.minCellVoltageV) && !decide (settings.maxCellVoltageV.Lt voltage)

def temperatureInRange (pack : PackState K) : Bool :=
  match pack.minCellTemperatureC, pack.maxCellTemperatureC with
  | some low, some high =>
    !decide (low.Lt settings.minCellTemperatureC) && !decide (settings.maxCellTemperatureC.Lt high)
  | _, _ => false

def extremesInRange (pack : PackState K) : Bool :=
  match pack.minCellVoltageV, pack.maxCellVoltageV with
  | some low, some high =>
    !decide (low.Lt settings.minCellVoltageV) && !decide (settings.maxCellVoltageV.Lt high)
  | _, _ => false

def cellsInRange (pack : PackState K) : Bool :=
  decide (∀ index : Fin 48, index.val < (pack.cellCount.getD 0).toNat →
    (pack.cellVoltageV index).all settings.cellInRange = true)

def healthy (pack : PackState K) (now : Double K) (requireMosFresh : Bool) : Bool :=
  pack.sample.isFresh now settings.statusTimeoutS &&
    settings.feedbackFresh pack.faultFrameS now &&
    (!requireMosFresh || settings.feedbackFresh pack.mosFrameS now) &&
    pack.cellsFresh now settings.statusTimeoutS &&
    settings.feedbackFresh pack.temperatureFrameS now && settings.temperatureInRange pack &&
    settings.feedbackFresh pack.cellExtremesS now && settings.extremesInRange pack &&
    settings.cellsInRange pack && !pack.hasFault &&
    pack.sample.voltageV.any Double.isFinite && pack.sample.currentA.any Double.isFinite &&
    (pack.operatingStateRaw = some 0 || pack.operatingStateRaw = some 2) &&
    pack.chargerConnectedRaw = some 0 && settings.feedbackFresh pack.packInfoS now

def joinInterlocks (inputs : DischargeInputs K) : Bool :=
  inputs.primary.dischargeMosRaw = some settings.mosOnRaw &&
    settings.feedbackFresh inputs.primary.mosFrameS inputs.nowS &&
    inputs.relayClosed = some false &&
    settings.feedbackFresh inputs.relayFeedbackS inputs.nowS

def lowCurrent (pack : PackState K) : Bool :=
  decide ((absCurrent pack).Le settings.maxAbsCurrentA)

def loadsSafeToSwitch (inputs : DischargeInputs K) : Bool :=
  inputs.loadsStopped && settings.feedbackFresh inputs.loadsStoppedS inputs.nowS &&
    inputs.primary.sample.isFresh inputs.nowS settings.statusTimeoutS &&
    inputs.secondary.sample.isFresh inputs.nowS settings.statusTimeoutS &&
    inputs.primary.sample.currentA.any Double.isFinite &&
    inputs.secondary.sample.currentA.any Double.isFinite &&
    settings.lowCurrent inputs.primary && settings.lowCurrent inputs.secondary

def joinConditions (inputs : DischargeInputs K) : Bool :=
  inputs.controlAuthorized && inputs.loadsStopped &&
    settings.feedbackFresh inputs.loadsStoppedS inputs.nowS && settings.joinInterlocks inputs &&
    settings.healthy inputs.primary inputs.nowS true &&
    settings.healthy inputs.secondary inputs.nowS true &&
    (inputs.secondary.dischargeMosRaw = some settings.mosOffRaw ||
      inputs.secondary.dischargeMosRaw = some settings.mosOnRaw) &&
    decide ((voltageDelta inputs).Le settings.maxVoltageDeltaV) &&
    settings.lowCurrent inputs.primary && settings.lowCurrent inputs.secondary

/-- A fresh relay feedback that reports `closed`. -/
def relayReports (closed : Bool) (inputs : DischargeInputs K) : Bool :=
  inputs.relayClosed = some closed && settings.feedbackFresh inputs.relayFeedbackS inputs.nowS

end DischargeSettings

structure DualBatteryController (K : Type*) [Field K] [LinearOrder K] where
  settings : DischargeSettings K
  settings_accepted : settings.accepted = true
  phase : DischargePhase := .waitingForRelayOpen
  commandS : Option (Double K) := none
  observationS : Option (Double K) := none
  stableSinceS : Option (Double K) := none
  primaryHealthySeen : Bool := false
  secondaryHealthySeen : Bool := false
  primaryFault : Bool := false
  secondaryFault : Bool := false
  primaryIsolationAttempted : Bool := false
  secondaryIsolationAttempted : Bool := false
  deriving DecidableEq

namespace DualBatteryController

def start (settings : { settings : DischargeSettings K // settings.accepted = true }) :
    DualBatteryController K :=
  { settings := settings.val, settings_accepted := settings.property }

variable (c : DualBatteryController K) (inputs : DischargeInputs K)

def latchFault (primary secondary : Bool) : DualBatteryController K :=
  { c with
    primaryFault := c.primaryFault || primary
    secondaryFault := c.secondaryFault || secondary
    phase := if c.phase.isolating then c.phase else .stoppingLoads }

/-- More than the command timeout has passed since the last command. -/
def commandExpired : Bool :=
  c.commandS.any fun command =>
    decide (c.settings.commandTimeoutS.Lt (inputs.nowS.sub command))

/-- The last command is still within its timeout. -/
def commandPending : Bool :=
  c.commandS.any fun command =>
    decide ((inputs.nowS.sub command).Le c.settings.commandTimeoutS)

def primarySupplyLost : Bool :=
  c.phase.expectsPrimarySupply &&
    c.settings.feedbackFresh inputs.primary.mosFrameS inputs.nowS &&
    !decide (inputs.primary.dischargeMosRaw = some c.settings.mosOnRaw)

def noteHealthy : DualBatteryController K :=
  { c with
    stableSinceS :=
      if c.phase.waitingBeforeCommand && !c.settings.joinInterlocks inputs then none
      else c.stableSinceS
    primaryHealthySeen :=
      c.primaryHealthySeen || c.settings.healthy inputs.primary inputs.nowS true
    secondaryHealthySeen :=
      c.secondaryHealthySeen || c.settings.healthy inputs.secondary inputs.nowS true }

def detectsPrimaryFault : Bool :=
  inputs.primary.hasFault ||
    (c.primaryHealthySeen &&
      !c.settings.healthy inputs.primary inputs.nowS !c.phase.waitingBeforeCommand)

def joinBroken : Bool :=
  c.phase.joining && c.settings.healthy inputs.primary inputs.nowS true &&
    c.settings.healthy inputs.secondary inputs.nowS true &&
    (decide (c.settings.maxVoltageDeltaV.Lt (voltageDelta inputs)) ||
      decide (c.settings.maxAbsCurrentA.Lt (absCurrent inputs.primary)) ||
      decide (c.settings.maxAbsCurrentA.Lt (absCurrent inputs.secondary)) ||
      !inputs.loadsStopped || !c.settings.feedbackFresh inputs.loadsStoppedS inputs.nowS)

def connectionLost : Bool :=
  c.phase.connected &&
    (!c.settings.relayReports true inputs ||
      !decide (inputs.secondary.dischargeMosRaw = some c.settings.mosOnRaw))

def connectionTripped : Bool :=
  c.phase.connected && c.settings.healthy inputs.primary inputs.nowS true &&
    c.settings.healthy inputs.secondary inputs.nowS true &&
    decide (c.settings.tripVoltageDeltaV.Lt (voltageDelta inputs))

def detectsSecondaryFault : Bool :=
  inputs.secondary.hasFault ||
    (c.secondaryHealthySeen && !c.settings.healthy inputs.secondary inputs.nowS true) ||
    (c.phase.waitingForD9 && !c.settings.joinInterlocks inputs) ||
    (c.phase.waitingBeforeCommand && c.settings.relayReports true inputs) ||
    c.joinBroken inputs ||
    ((c.phase.joining || c.phase.connected) && !inputs.controlAuthorized) ||
    c.connectionLost inputs || c.connectionTripped inputs

def detectFaults : DualBatteryController K :=
  if c.detectsPrimaryFault inputs || c.detectsSecondaryFault inputs then
    c.latchFault (c.detectsPrimaryFault inputs) (c.detectsSecondaryFault inputs)
  else c

def assess : DualBatteryController K := (c.noteHealthy inputs).detectFaults inputs

def stopSecondary : DualBatteryController K × DischargeAction :=
  ({ c with
      phase := .stoppingSecondary
      secondaryIsolationAttempted := true
      commandS := some inputs.nowS }, .disableSecondary)

def stopPrimary : DualBatteryController K × DischargeAction :=
  ({ c with
      phase := .stoppingPrimary
      primaryIsolationAttempted := true
      commandS := some inputs.nowS }, .disablePrimary)

def secondaryIsolationDue : Bool := c.secondaryFault && !c.secondaryIsolationAttempted

def primaryIsolationDue : Bool := c.primaryFault && !c.primaryIsolationAttempted

def finishRelayOpening : DualBatteryController K × DischargeAction :=
  if c.primaryIsolationDue then c.stopPrimary inputs else ({ c with phase := .faultLatched }, .none)

def waitForJoinConditions : DualBatteryController K × DischargeAction :=
  if !c.settings.joinConditions inputs then ({ c with stableSinceS := none }, .none)
  else
    match c.stableSinceS with
    | none => ({ c with stableSinceS := some inputs.nowS }, .none)
    | some since =>
      if (inputs.nowS.sub since).Lt c.settings.stableS then (c, .none)
      else if inputs.secondary.dischargeMosRaw = some c.settings.mosOffRaw then
        ({ c with commandS := some inputs.nowS, phase := .waitingForAck }, .enableSecondary)
      else ({ c with commandS := some inputs.nowS, phase := .waitingForRelayClosed }, .closeRelay)

def waitForAck : DualBatteryController K × DischargeAction :=
  if stampedAfter inputs.secondary.dischargeAckS c.commandS &&
      inputs.secondary.dischargeAckValue = some 1 then
    ({ c with phase := .waitingForMos }, .none)
  else if c.commandExpired inputs then (c.latchFault false true, .stopLoads)
  else (c, .none)

def waitForMos : DualBatteryController K × DischargeAction :=
  if stampedAfter inputs.secondary.mosFrameS c.commandS &&
      inputs.secondary.dischargeMosRaw = some c.settings.mosOnRaw then
    ({ c with commandS := some inputs.nowS, phase := .waitingForRelayClosed }, .closeRelay)
  else if c.commandExpired inputs then (c.latchFault false true, .stopLoads)
  else (c, .none)

def waitForRelayClosed : DualBatteryController K × DischargeAction :=
  if c.settings.relayReports true inputs && stampedAfter inputs.relayFeedbackS c.commandS then
    ({ c with observationS := some inputs.nowS, phase := .observingSecondary }, .none)
  else if c.commandExpired inputs then (c.latchFault false true, .stopLoads)
  else (c, .none)

def stopLoads : DualBatteryController K × DischargeAction :=
  if !c.settings.loadsSafeToSwitch inputs then (c, .stopLoads)
  else if c.secondaryIsolationDue then c.stopSecondary inputs
  else if c.primaryIsolationDue then c.stopPrimary inputs
  else ({ c with phase := .faultLatched }, .none)

def mosOffConfirmed (pack : PackState K) : Bool :=
  match pack.mosFrameS, c.commandS with
  | some stamp, some command =>
    !decide (stamp.Le command) && pack.dischargeMosRaw = some c.settings.mosOffRaw
  | _, _ => false

def awaitSecondaryOff : DualBatteryController K × DischargeAction :=
  if !c.settings.loadsSafeToSwitch inputs then (c, .stopLoads)
  else if !c.mosOffConfirmed inputs.secondary && c.commandPending inputs then
    (c, .disableSecondary)
  else ({ c with phase := .openingRelay, commandS := some inputs.nowS }, .openRelay)

def awaitRelayOpen : DualBatteryController K × DischargeAction :=
  if c.settings.relayReports false inputs then c.finishRelayOpening inputs
  else if c.commandExpired inputs then c.finishRelayOpening inputs
  else (c, .openRelay)

def awaitPrimaryOff : DualBatteryController K × DischargeAction :=
  if !c.mosOffConfirmed inputs.primary && c.commandPending inputs then
    if !c.settings.loadsSafeToSwitch inputs then (c, .stopLoads) else (c, .disablePrimary)
  else ({ c with phase := .faultLatched }, .none)

def holdFault : DualBatteryController K × DischargeAction :=
  if c.primaryIsolationDue || c.secondaryIsolationDue then
    ({ c with phase := .stoppingLoads }, .stopLoads)
  else (c, if c.secondaryFault then .openRelay else .none)

def advance : DualBatteryController K × DischargeAction :=
  match c.phase with
  | .waitingForRelayOpen =>
    if c.settings.relayReports false inputs then ({ c with phase := .waitingForPrimary }, .none)
    else if c.settings.relayReports true inputs then (c.latchFault false true, .stopLoads)
    else (c, .stopLoads)
  | .waitingForPrimary =>
    if c.settings.healthy inputs.primary inputs.nowS true &&
        inputs.primary.dischargeMosRaw = some c.settings.mosOnRaw then
      ({ c with phase := .waitingForSecondary }, .none)
    else (c, .none)
  | .waitingForSecondary =>
    if c.settings.healthy inputs.secondary inputs.nowS true &&
        c.settings.joinInterlocks inputs then
      ({ c with phase := .waitingForJoinConditions }, .none)
    else (c, .none)
  | .waitingForJoinConditions => c.waitForJoinConditions inputs
  | .waitingForAck => c.waitForAck inputs
  | .waitingForMos => c.waitForMos inputs
  | .waitingForRelayClosed => c.waitForRelayClosed inputs
  | .observingSecondary =>
    if c.observationS.any fun since =>
        decide (c.settings.observationS.Le (inputs.nowS.sub since)) then
      ({ c with phase := .running }, .none)
    else (c, .none)
  | .running => (c, .none)
  | .stoppingLoads => c.stopLoads inputs
  | .stoppingSecondary => c.awaitSecondaryOff inputs
  | .openingRelay => c.awaitRelayOpen inputs
  | .stoppingPrimary => c.awaitPrimaryOff inputs
  | .faultLatched => c.holdFault
  | .awaitingIsolationPolicy => (c, .stopLoads)

def update : DualBatteryController K × DischargeAction :=
  if !inputs.nowS.isFinite then (c.latchFault true true, .stopLoads)
  else if c.phase = .awaitingIsolationPolicy then (c, .stopLoads)
  else if c.primarySupplyLost inputs then
    ({ c with
        stableSinceS :=
          if c.phase.waitingBeforeCommand && !c.settings.joinInterlocks inputs then none
          else c.stableSinceS
        primaryFault := true
        phase := .awaitingIsolationPolicy }, .stopLoads)
  else (c.assess inputs).advance inputs

def step : DualBatteryController K := (c.update inputs).1

def action : DischargeAction := (c.update inputs).2

end DualBatteryController

/-! A bench with two healthy packs, joined step by step. -/
namespace Bench

def settings : { settings : DischargeSettings ℚ // settings.accepted = true } :=
  ⟨{ statusTimeoutS := .finite 10
     commandTimeoutS := .finite (1 / 2)
     observationS := .finite (2 / 5)
     stableS := .finite (3 / 5)
     maxVoltageDeltaV := .finite (1 / 2)
     tripVoltageDeltaV := .finite 1
     maxAbsCurrentA := .finite 5
     minCellVoltageV := .finite 3
     maxCellVoltageV := .finite (37 / 10)
     minCellTemperatureC := .finite 0
     maxCellTemperatureC := .finite 45
     mosOnRaw := 1
     mosOffRaw := 0 }, by decide +kernel⟩

def healthyPack (now : ℚ) (mos : UInt8) : PackState ℚ where
  sample :=
    { voltageV := some (.finite 50)
      lastFrameS := some (.finite now)
      currentA := some (.finite 0) }
  faultFrameS := some (.finite now)
  mosFrameS := some (.finite now)
  operatingStateRaw := some 0
  dischargeMosRaw := some mos
  packInfoS := some (.finite now)
  chargerConnectedRaw := some 0
  cellCount := some 3
  cellVoltageV _ := some (.finite (33 / 10))
  cellFrameS _ := some (.finite now)
  cellExtremesS := some (.finite now)
  minCellVoltageV := some (.finite (33 / 10))
  maxCellVoltageV := some (.finite (33 / 10))
  temperatureFrameS := some (.finite now)
  minCellTemperatureC := some (.finite 20)
  maxCellTemperatureC := some (.finite 25)

def faulted (pack : PackState ℚ) : PackState ℚ := { pack with faultBytes := fun _ => 1 }

def acknowledged (pack : PackState ℚ) (now : ℚ) : PackState ℚ :=
  { pack with dischargeAckS := some (.finite now), dischargeAckValue := some 1 }

def inputsFor (primary secondary : PackState ℚ) (relayClosed : Bool) (now : ℚ) :
    DischargeInputs ℚ where
  primary := primary
  secondary := secondary
  nowS := .finite now
  loadsStopped := true
  loadsStoppedS := some (.finite now)
  relayClosed := some relayClosed
  relayFeedbackS := some (.finite now)
  controlAuthorized := true

/-- The run that joins the secondary pack and reaches `running`. -/
def joinRun : List (DischargeInputs ℚ) :=
  List.replicate 4 (inputsFor (healthyPack 1 1) (healthyPack 1 0) false 1) ++
    [inputsFor (healthyPack 1 1) (healthyPack 1 0) false (17 / 10),
      inputsFor (healthyPack 1 1) (acknowledged (healthyPack 1 0) (18 / 10)) false (18 / 10),
      inputsFor (healthyPack 1 1) (healthyPack (19 / 10) 1) false (19 / 10),
      inputsFor (healthyPack 2 1) (healthyPack 2 1) true 2,
      inputsFor (healthyPack 2 1) (healthyPack 2 1) true (5 / 2)]

end Bench

end RobotDriver.Bms
