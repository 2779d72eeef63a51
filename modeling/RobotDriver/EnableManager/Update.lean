import RobotDriver.EnableManager.Controller

/-!
# The real-time update

`update` and the functions it calls, in the order of the source. A loop over the axes whose body
depends on its own axis only is written as one predicate or one command per axis.
-/

namespace RobotDriver.EnableManager

namespace Controller

variable (cfg : Config) (c : Controller)

section Downward

def startDownward (phase : Phase) (now : ℤ) : Controller :=
  (c.onData ({ · with
    downwardStage := 0
    stageDeadlineNs := now + cfg.disableStageTimeoutNs })).setPhase phase

def finishStartup : Controller :=
  let c := c.setMode .disabled
  let fault := c.data.firstFault cfg
  let c :=
    if c.data.primaryFailure.stage ≠ .success then c.setPhase .failed
    else if c.data.anyFault cfg then
      (c.onData (·.recordFailure cfg .faultRequiresReset none fault
        (c.data.statusOf fault))).setPhase .failed
    else c.setPhase .idle
  c.setOwner .none

def finishDisabling : Controller :=
  let c := c.setMode .disabled
  let fault := c.data.firstFault cfg
  let faultStatus := c.data.statusOf fault
  let c :=
    if c.data.anyFault cfg then
      let c := c.publishResult .disable ⟨false, .faultRequiresReset, none, fault, faultStatus⟩
      (c.onData (·.recordFailure cfg .faultRequiresReset none fault faultStatus)).setPhase .failed
    else if c.protocol.jtcDeactivateFailed then
      (c.publishResult .disable (.immediate false .jtcDeactivateFailed)).setPhase .failed
    else if c.data.primaryFailure.stage ≠ .success then
      (c.publishResult .disable c.data.primaryFailure.result).setPhase .failed
    else
      ((c.onData (·.clearFailure)).publishResult .disable (.immediate true .success)).setPhase .idle
  c.setOwner .none

def finishRollback : Controller :=
  let c := c.setMode .disabled
  let c := c.publishResult .enable c.data.primaryFailure.result
  let c := c.setPhase
    (if c.data.anyFault cfg || c.protocol.restartRequired then .failed else .idle)
  c.setOwner .none

def finishReset : Controller :=
  let c := c.setMode .disabled
  let c :=
    if c.data.anyFault cfg || !c.data.allNonfaultTerminal cfg then
      let joint := (c.data.firstFault cfg).or (c.data.firstNonterminal cfg)
      let status := c.data.statusOf joint
      let c := c.publishResult .reset ⟨false, .faultResetTimeout, none, joint, status⟩
      (c.onData (·.recordFailure cfg .faultResetTimeout none joint status)).setPhase .failed
    else
      ((c.onData (·.clearFailure)).publishResult .reset (.immediate true .success)).setPhase .idle
  c.setOwner .none

def finishEmergency : Controller :=
  let c := c.setMode (if c.protocol.restartRequired then .restartRequired else .disabled)
  let c :=
    match c.protocol.interruptedOwner with
    | .enable => c.publishResult .enable c.data.primaryFailure.result
    | .disable => c.publishResult .disable c.data.primaryFailure.result
    | _ => c
  let c := c.setPhase
    (if c.data.anyFault cfg || !c.data.allNonfaultTerminal cfg || c.protocol.restartRequired
      then .failed else .idle)
  c.setOwner .none

def finishDownward : Controller :=
  match c.protocol.phase with
  | .startupSanitizing => c.finishStartup cfg
  | .disabling => c.finishDisabling cfg
  | .rollback => c.finishRollback cfg
  | .resetDisabling => c.finishReset cfg
  | .emergencyDisable => c.finishEmergency cfg
  | _ => c

def downwardCommand : DriveState → ℕ
  | .operationEnabled => 0x0007
  | .switchedOn => 0x0006
  | _ => 0x0000

def failReset (joint : Option ℕ) : Controller :=
  let status := c.data.statusOf joint
  let c := c.onData (·.recordFailure cfg .faultResetTimeout none joint status)
  let c := c.publishResult .reset ⟨false, .faultResetTimeout, none, joint, status⟩
  ((c.onData (·.setAllControlWords cfg 0x0000)).setPhase .failed).setOwner .none

/-- The first failure of a sequence stays its primary failure. -/
def recordStopFailure (joint : Option ℕ) : Controller :=
  if c.data.primaryFailure.stage = .success then
    let stage := if c.data.anyFault cfg then Stage.faultRequiresReset else .disableTimeout
    let status := c.data.statusOf joint
    c.onData fun d =>
      { d with primaryFailure := ⟨stage, d.primaryFailure.failedBatch, joint, status⟩ }.recordFailure
        cfg stage none joint status
  else c

def escalate (now : ℤ) : Controller :=
  (c.onData ({ · with stageDeadlineNs := now + cfg.disableStageTimeoutNs })).onProtocol fun p =>
    { p with
      interruptedOwner := p.owner
      emergencyJtcDeactivateRequest := true
      phase := .emergencyQuickStop }

/-- The expired deadline of a stage: a reset fails, an emergency finishes, any other sequence
escalates to an emergency. -/
def expireDownward (now : ℤ) : Controller :=
  let joint := (c.data.firstNonterminal cfg).or (c.data.firstFault cfg)
  if c.protocol.phase = .resetDisabling then c.failReset cfg joint
  else
    let c := c.recordStopFailure cfg joint
    if c.protocol.phase ≠ .emergencyDisable then c.escalate cfg now else c.finishDownward cfg

def stageReached : Bool :=
  match c.data.downwardStage with
  | 0 => !c.data.anyOperationEnabled cfg
  | 1 => !c.data.anyOperationEnabled cfg && !c.data.anySwitchedOn cfg
  | _ => false

def advanceStage (now : ℤ) : Controller :=
  let c := c.onData fun d =>
    { d with
      downwardStage := d.downwardStage + 1
      stageDeadlineNs := now + cfg.disableStageTimeoutNs }
  if 2 < c.data.downwardStage && c.data.allNonfaultTerminal cfg then c.finishDownward cfg else c

def commandDownward : Controller :=
  c.onData fun d => (d.requestDevicesEnable false).setControlWords cfg fun axis =>
    downwardCommand (d.state axis)

def updateDownward (now : ℤ) : Controller :=
  let c := c.commandDownward cfg
  if 2 ≤ c.data.downwardStage ∧ c.data.allNonfaultTerminal cfg then c.finishDownward cfg
  else if c.stageReached cfg then c.advanceStage cfg now
  else if c.data.stageDeadlineNs ≤ now then c.expireDownward cfg now
  else c

end Downward

section Emergency

def startEmergency (stage : Stage) (joint : Option ℕ) (statusWord : ℕ) (now : ℤ) : Controller :=
  let batch := if c.protocol.owner = .enable then some c.data.currentBatch else none
  (c.onData fun d =>
    { d.recordFailure cfg stage batch joint statusWord with
      primaryFailure := ⟨stage, batch, joint, statusWord⟩
      stageDeadlineNs := now + cfg.disableStageTimeoutNs }).onProtocol fun p =>
    { p with
      interruptedOwner := p.owner
      owner := .internal
      emergencyJtcDeactivateRequest := true
      phase := .emergencyQuickStop }

def quickStopCommand : DriveState → ℕ
  | .operationEnabled => 0x0002
  | .quickStopActive => 0x0002
  | .switchedOn => 0x0006
  | _ => 0x0000

def commandQuickStop : Controller :=
  c.onData fun d => (d.requestDevicesEnable false).setControlWords cfg fun axis =>
    quickStopCommand (d.state axis)

def updateEmergencyQuickStop (now : ℤ) : Controller :=
  let c := c.commandQuickStop cfg
  if !c.data.anyOperationEnabled cfg || c.data.stageDeadlineNs ≤ now then
    c.startDownward cfg .emergencyDisable now
  else c

end Emergency

end Controller

section Running

variable (cfg : Config) (d : Data)

/-- What an enabled axis may not show, in the order of the checks. -/
def Data.axisViolation (axis : ℕ) : Option (Stage × Option ℕ × ℕ) :=
  if isFaultState (d.state axis) then some (.faultDetected, some axis, d.statusWords axis)
  else if d.state axis ≠ .operationEnabled then
    some (.unexpectedDriveState, some axis, d.statusWords axis)
  else if !d.runningModeConfirmed cfg axis then
    some (.modeMismatch, some axis, d.statusWords axis)
  else none

def Data.runningViolation : Option (Stage × Option ℕ × ℕ) :=
  if d.offlineNow.isSome then some (.deviceOffline, none, 0)
  else
    match cfg.axes.findSome? (d.axisViolation cfg) with
    | some violation => some violation
    | none =>
      if !d.allDevicesEnabled cfg then
        some (if d.anyDeviceFaulted cfg then .faultDetected else .unexpectedDriveState, none, 0)
      else none

def runningPhase (phase : Phase) : Bool :=
  phase = .enabled || phase = .jtcActivating || phase = .jtcDeactivating

end Running

namespace Controller

variable (cfg : Config) (c : Controller)

section Enable

def noteOffline : Controller :=
  if c.data.offlineNow.isSome then
    (c.onData fun d => { d with offlineFeedback := d.offlineNow }).onProtocol
      ({ · with restartRequired := true })
  else c

def checkRunning (now : ℤ) : Controller :=
  if runningPhase c.protocol.phase then
    match c.data.runningViolation cfg with
    | some (stage, joint, statusWord) => c.noteOffline.startEmergency cfg stage joint statusWord now
    | none => c
  else c

/-- Failure outputs begin in the cycle of the failure. -/
def failEnable (stage : Stage) (axis : Option ℕ) (now : ℤ) : Controller :=
  let failure : PrimaryFailure :=
    ⟨stage, some c.data.currentBatch, axis, c.data.statusOf axis⟩
  let c := c.onData fun d =>
    { d with primaryFailure := failure }.recordFailure cfg stage failure.failedBatch axis
      failure.statusWord
  let c :=
    if c.protocol.enablePreemptRequested then
      ((c.publishResult .enable failure.result).onProtocol
        ({ · with owner := .disable, disableRequest := false })).startDownward cfg .disabling now
    else c.startDownward cfg .rollback now
  c.updateDownward cfg now

def preemptEnable (now : ℤ) : Controller :=
  let c := c.onProtocol ({ · with disableRequest := false })
  let c := (c.publishResult .enable (.immediate false .preemptedByDisable)).setOwner .disable
  (c.onData fun d => { d with primaryFailure.stage := .success }).startDownward cfg .disabling now

/-- Phase is published before the service thread is told that the hardware is ready. -/
def enterJtcActivating : Controller :=
  c.onProtocol ({ · with phase := .jtcActivating, enableHardwareReady := true })

def updateDeviceEnable (now : ℤ) : Controller :=
  match cfg.axes.find? fun axis => c.data.state axis ≠ .operationEnabled with
  | some axis => c.failEnable cfg .unexpectedDriveState (some axis) now
  | none =>
    let c := c.onData (·.setAllControlWords cfg 0x000F)
    if c.protocol.enablePreemptRequested then c.preemptEnable cfg now
    else
      let c := c.onData (·.requestDevicesEnable true)
      if c.data.allDevicesEnabled cfg then
        (c.onData ({ · with deviceStage := false })).enterJtcActivating
      else if c.data.stageDeadlineNs ≤ now then c.failEnable cfg .enableBatchTimeout none now
      else c

end Enable

end Controller

section Batch

variable (cfg : Config) (d : Data)

def Data.currentBatchAxes : List ℕ := cfg.enableBatches.getD d.currentBatch []

def Data.isCurrent (axis : ℕ) : Bool := axis ∈ d.currentBatchAxes cfg

def Data.isPrevious (axis : ℕ) : Bool :=
  !d.isCurrent cfg axis &&
    (cfg.enableBatches.take d.currentBatch).any fun batch => axis ∈ batch

structure EnableStep where
  command : ℕ
  complete : Bool := true
  invalid : Bool := false
  confirmed : Bool := false
  mismatch : Bool := false

/-- The body of the batch loop for one axis. -/
def Data.enableStep (axis : ℕ) : EnableStep :=
  if d.isPrevious cfg axis then
    { command := 0x000F, invalid := d.state axis ≠ .operationEnabled }
  else if d.isCurrent cfg axis then
    if cfg.expectedModes ≠ [] ∧ !d.modeIsConfirmed cfg axis ∧ !d.modePending cfg axis then
      { command := 0x0000, mismatch := true }
    else
      match d.state axis with
      | .switchOnDisabled => { command := 0x0006, complete := false }
      | .readyToSwitchOn => { command := 0x0007, complete := false }
      | .switchedOn => { command := 0x000F, complete := false }
      | .operationEnabled =>
        if !d.modeIsConfirmed cfg axis then
          { command := 0x000F, complete := false, mismatch := !d.modePending cfg axis }
        else { command := 0x000F, confirmed := cfg.expectedModes ≠ [] }
      | _ => { command := 0x0000, complete := false, invalid := true }
  else { command := 0x0000 }

/-- The marks made by the batch loop for the axes before `bound`. -/
def Data.markConfirmed (bound : ℕ) : Data :=
  { d with modeConfirmed := fun axis =>
      d.modeConfirmed axis || (axis < bound && (d.enableStep cfg axis).confirmed) }

def Data.firstMismatch : Option ℕ := cfg.axes.find? fun axis => (d.enableStep cfg axis).mismatch

def Data.firstInvalid : Option ℕ := cfg.axes.find? fun axis => (d.enableStep cfg axis).invalid

def Data.batchComplete : Bool := cfg.axes.all fun axis => (d.enableStep cfg axis).complete

/-- The first axis confirmed earlier that lost its state or its mode. -/
def Data.confirmedViolation : Option (Stage × ℕ) :=
  (List.range cfg.expectedModes.length).findSome? fun axis =>
    if !d.modeConfirmed axis then none
    else if d.state axis ≠ .operationEnabled then some (.unexpectedDriveState, axis)
    else if !d.modeIsConfirmed cfg axis then some (.modeMismatch, axis)
    else none

def Data.enableFault : Option (Option ℕ × ℕ) :=
  match d.firstFault cfg with
  | some axis => some (some axis, d.statusWords axis)
  | none => if d.anyDeviceFaulted cfg then some (none, 0) else none

def Data.qualifySources (now : ℤ) : Data :=
  if !d.stateSourcesReady cfg then { d with readySinceNs := -1 }
  else if d.stateSourcesQualified then d
  else
    let since := if d.readySinceNs < 0 then now else d.readySinceNs
    if cfg.readyHoldNs ≤ now - since then
      { d with
        readySinceNs := since
        stateSourcesQualified := true
        stageDeadlineNs := now + cfg.batchTimeoutNs }
    else { d with readySinceNs := since }

end Batch

namespace Controller

variable (cfg : Config) (c : Controller)

section Enable

def completeBatch (now : ℤ) : Controller :=
  if c.protocol.enablePreemptRequested then c.preemptEnable cfg now
  else if c.data.currentBatch + 1 = cfg.enableBatches.length ∧ cfg.deviceCount ≠ 0 then
    c.onData ({ · with deviceStage := true, stageDeadlineNs := now + cfg.batchTimeoutNs })
  else if c.data.currentBatch + 1 = cfg.enableBatches.length then c.enterJtcActivating
  else
    (c.onData ({ · with stageDeadlineNs := now + cfg.interBatchDelayNs })).setPhase
      .interBatchDelay

def expireBatch (now : ℤ) : Controller :=
  let unfinished := (c.data.currentBatchAxes cfg).find? fun axis =>
    c.data.state axis ≠ .operationEnabled || !c.data.modeIsConfirmed cfg axis
  let failedAxis := unfinished.getD ((c.data.currentBatchAxes cfg).headD 0)
  let stage :=
    if c.data.state failedAxis = .operationEnabled ∧ c.data.modePending cfg failedAxis then
      Stage.modeNotConfirmed
    else .enableBatchTimeout
  c.failEnable cfg stage (some failedAxis) now

def updateBatch (now : ℤ) : Controller :=
  let d := c.data
  match d.firstMismatch cfg with
  | some axis =>
    (c.onData (·.markConfirmed cfg axis)).failEnable cfg .modeMismatch (some axis) now
  | none =>
    let c := c.onData fun d => (d.markConfirmed cfg cfg.axisCount).setControlWords cfg fun axis =>
      (d.enableStep cfg axis).command
    match d.firstInvalid cfg with
    | some axis => c.failEnable cfg .enableInvalidState (some axis) now
    | none =>
      if d.batchComplete cfg then c.completeBatch cfg now
      else if c.data.stageDeadlineNs ≤ now then c.expireBatch cfg now
      else c

def updateInterBatchDelay (now : ℤ) : Controller :=
  let c := c.onData fun d => d.setControlWords cfg fun axis =>
    if d.state axis = .operationEnabled then 0x000F else 0x0000
  if c.protocol.enablePreemptRequested then c.preemptEnable cfg now
  else if c.data.stageDeadlineNs ≤ now then
    (c.onData fun d =>
      { d with
        currentBatch := d.currentBatch + 1
        stageDeadlineNs := now + cfg.batchTimeoutNs }).setPhase .enabling
  else c

def updateEnableStage (now : ℤ) : Controller :=
  if c.protocol.phase = .interBatchDelay then c.updateInterBatchDelay cfg now
  else if c.data.deviceStage then c.updateDeviceEnable cfg now
  else c.updateBatch cfg now

def updateReadySources (now : ℤ) : Controller :=
  if cfg.readyStateCount = 0 then c.updateEnableStage cfg now
  else if !c.data.stateSourcesReady cfg && c.data.stateSourcesQualified then
    c.failEnable cfg .stateSourcesNotReady none now
  else
    let c := c.onData (·.qualifySources cfg now)
    if c.data.stateSourcesQualified then c.updateEnableStage cfg now
    else
      let c := c.onData (·.setAllControlWords cfg 0x0000)
      if c.protocol.enablePreemptRequested || c.data.stageDeadlineNs ≤ now then
        c.failEnable cfg .stateSourcesNotReady none now
      else c

def notePreemption : Controller :=
  if c.protocol.disableRequest then c.onProtocol ({ · with enablePreemptRequested := true }) else c

def updateEnable (now : ℤ) : Controller :=
  let c := c.notePreemption
  match c.data.enableFault cfg with
  | some (joint, statusWord) =>
    let c := c.onProtocol ({ · with disableRequest := false })
    (c.startEmergency cfg .faultDetected joint statusWord now).updateEmergencyQuickStop cfg now
  | none =>
    match c.data.confirmedViolation cfg with
    | some (stage, axis) => c.failEnable cfg stage (some axis) now
    | none => c.updateReadySources cfg now

end Enable

section Reset

def preemptReset (now : ℤ) : Controller :=
  let c := c.onProtocol ({ · with disableRequest := false })
  let c := c.onData (·.setAllControlWords cfg 0x0000)
  let c := (c.publishResult .reset (.immediate false .preemptedByDisable)).setOwner .disable
  (c.onData fun d => { d with primaryFailure.stage := .success }).startDownward cfg .disabling now

def commandReset : Controller :=
  c.onData fun d =>
    let words (axis : ℕ) := if d.resetTargets axis && d.state axis = DriveState.fault then 0x0080
      else 0x0000
    { d.setControlWords cfg words with
      resetTargets := fun axis =>
        d.resetTargets axis && (cfg.axisCount ≤ axis || isFaultState (d.state axis)) }

def updateResetHigh (now : ℤ) : Controller :=
  let c := c.commandReset cfg
  if c.data.allDeviceResetsComplete cfg && (c.data.firstFault cfg).isNone then
    c.startDownward cfg .resetDisabling now
  else if c.data.stageDeadlineNs ≤ now then c.failReset cfg (c.data.firstFault cfg)
  else c

def updateReset (now : ℤ) : Controller :=
  if c.protocol.disableRequest then c.preemptReset cfg now
  else if c.protocol.phase = .resetLow then
    (c.onData fun d =>
      { d.setAllControlWords cfg 0x0000 with
        stageDeadlineNs := now + cfg.faultResetTimeoutNs }).setPhase .resetHigh
  else c.updateResetHigh cfg now

/-- Rejects a request while a device is offline, without changing phase or recorded failure. -/
def rejectIfOffline (service : Service) (accepted : Controller) : Controller :=
  let noteStale (c : Controller) := c.onData fun d => { d with offlineFeedback := d.offlineNow }
  if c.data.offlineNow.isSome then
    ((noteStale c).publishResult service (.immediate false .deviceOffline)).setOwner .none
  else noteStale accepted

def markResetTargets : Controller :=
  c.onData fun d =>
    { d with resetTargets := fun axis =>
        axis < cfg.axisCount && isFaultState (d.state axis) }

end Reset

section Update

def startEnable (now : ℤ) : Controller :=
  (c.onData ({ · with
    currentBatch := 0
    deviceStage := cfg.enableBatches = []
    readySinceNs := -1
    stateSourcesQualified := cfg.readyStateCount = 0
    primaryFailure := {}
    modeConfirmed := fun _ => false
    stageDeadlineNs := now + cfg.batchTimeoutNs })).onProtocol ({ · with
      enablePreemptRequested := false
      enableHardwareReady := false
      jtcActivatedRequest := false
      jtcActivateFailedRequest := false
      phase := .enabling })

def takeEnableRequest : Controller := c.onProtocol ({ · with enableRequest := false })

def takeResetRequest : Controller := c.onProtocol ({ · with resetRequest := false })

def takeDisableRequest : Controller := c.onProtocol ({ · with disableRequest := false })

def answerClear : Controller :=
  (c.onData (·.clearFailure)).publishResult .reset (.immediate true .alreadyClear)

def resetFromIdle : Controller :=
  let c := c.markResetTargets cfg
  if !c.data.anyFault cfg then c.answerClear.setOwner .none
  else (c.onData fun d => d.startDeviceResets.setAllControlWords cfg 0x0000).setPhase .resetLow

def resetFromFailed : Controller :=
  let c := c.markResetTargets cfg
  if !c.data.anyFault cfg then (c.answerClear.setPhase .idle).setOwner .none
  else (c.onData (·.startDeviceResets)).setPhase .resetLow

def commandDisabled : Controller :=
  c.onData fun d => (d.setAllControlWords cfg 0x0000).requestDevicesEnable false

def updateIdle (now : ℤ) : Controller :=
  let c := c.commandDisabled cfg
  if c.protocol.enableRequest then
    let c := c.takeEnableRequest
    c.rejectIfOffline .enable (c.startEnable cfg now)
  else if c.protocol.resetRequest then
    let c := c.takeResetRequest
    c.rejectIfOffline .reset (c.resetFromIdle cfg)
  else if c.protocol.disableRequest then
    let c := c.takeDisableRequest.onData (·.clearFailure)
    (c.publishResult .disable (.immediate true .alreadyDisabled)).setOwner .none
  else c

def updateFailed (now : ℤ) : Controller :=
  let c := c.commandDisabled cfg
  if c.protocol.disableRequest then c.takeDisableRequest.startDownward cfg .disabling now
  else if c.protocol.resetRequest then
    let c := c.takeResetRequest
    c.rejectIfOffline .reset (c.resetFromFailed cfg)
  else c

def updateJtcActivating (now : ℤ) : Controller :=
  if c.protocol.jtcActivateFailedRequest then
    let c := c.onProtocol ({ · with jtcActivateFailedRequest := false })
    (c.onData fun d =>
      { d with primaryFailure := { stage := .jtcActivateFailed } }.recordFailure cfg
        .jtcActivateFailed none none 0).startDownward cfg .rollback now
  else
    let c := c.onData (·.setAllControlWords cfg 0x000F)
    if c.protocol.jtcActivatedRequest then
      let c := (c.onProtocol ({ · with jtcActivatedRequest := false })).onData (·.clearFailure)
      let c := if cfg.motionModeSwitching then c.setMode cfg.motionControllerMode else c
      ((c.setPhase .enabled).publishResult .enable (.immediate true .success)).setOwner .none
    else c

def noteMotionFault : Controller :=
  if c.protocol.motionFaultPending then
    (c.onProtocol ({ · with motionFaultPending := false })).onData fun d =>
      { d with primaryFailure := { stage := .motionFault } }.recordFailure cfg
        .motionFault none none 0
  else c

def updateEnabled (now : ℤ) : Controller :=
  let c := c.onData (·.setAllControlWords cfg 0x000F)
  if c.protocol.disableRequest then
    (c.takeDisableRequest.noteMotionFault cfg).startDownward cfg .disabling now
  else c

def continueDownward (now : ℤ) : Controller :=
  (if c.data.stageDeadlineNs = 0 then c.startDownward cfg c.protocol.phase now
    else c).updateDownward cfg now

def updatePhase (now : ℤ) : Controller :=
  match c.protocol.phase with
  | .startupSanitizing => c.continueDownward cfg now
  | .idle => c.updateIdle cfg now
  | .enabling => c.updateEnable cfg now
  | .interBatchDelay => c.updateEnable cfg now
  | .jtcActivating => c.updateJtcActivating cfg now
  | .jtcDeactivating => c.updateEnabled cfg now
  | .enabled => c.updateEnabled cfg now
  | .disabling => c.continueDownward cfg now
  | .rollback => c.continueDownward cfg now
  | .resetDisabling => c.continueDownward cfg now
  | .emergencyDisable => c.continueDownward cfg now
  | .resetLow => c.updateReset cfg now
  | .resetHigh => c.updateReset cfg now
  | .emergencyQuickStop => c.updateEmergencyQuickStop cfg now
  | .failed => c.updateFailed cfg now
  | .inactive => c

def clearDriveCsp : Controller :=
  if c.protocol.phase ≠ .enabled then c.onProtocol ({ · with driveCspRequested := false }) else c

def writeDriveModes : Controller :=
  if cfg.modeSwitchAxes = [] then c
  else
    let csp := c.clearDriveCsp.protocol.driveCspRequested
    c.clearDriveCsp.onData fun d =>
      { d with
        driveModeCommands := fun axis =>
          if axis ∈ cfg.modeSwitchAxes then if csp then cspMode else cfg.expectedMode axis
          else d.driveModeCommands axis
        driveModeDisplay := fun axis =>
          if axis ∈ cfg.modeSwitchAxes then d.actualModes axis else d.driveModeDisplay axis }

def sourceOnline (sample : Sample) (source : ℕ) : Bool :=
  if source < cfg.ageSourceCount then
    feedbackFresh (sample.offlineSource source) cfg.feedbackAgeLimitMs
  else sample.offlineSource source = some alStateOp

def offlineSource (sample : Sample) : Option ℕ :=
  (List.range cfg.offlineSourceCount).find? fun source => !sourceOnline cfg sample source

/-- The samples of one update: status words, modes, devices, ready states and offline source. -/
def refresh (sample : Sample) : Controller :=
  c.onData fun d =>
    { d with
      statusWords := fun axis =>
        if axis < cfg.axisCount then (getStatusWord (sample.statusWord axis)).getD 0xFFFF
        else d.statusWords axis
      actualModes := fun axis =>
        if axis < cfg.expectedModes.length then decodeMode (sample.mode axis)
        else d.actualModes axis
      devices := fun device => (d.devices device).read (sample.device device)
      readyStates := sample.readyState
      offlineNow := offlineSource cfg sample }

def update (sample : Sample) (now : ℤ) : Controller :=
  if c.protocol.active then
    ((((c.refresh cfg sample).checkRunning cfg now).updatePhase cfg now).onData
      (·.writeDevices)).writeDriveModes cfg
  else c

end Update

end Controller

end RobotDriver.EnableManager
