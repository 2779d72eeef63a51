import RobotDriver.EnableManager.Update

/-!
# What one update can do to the protocol

`TickStep` lists the effects of one real-time update on the shared protocol, one constructor per
exit of the state machine with the guards under which it is taken. `update_protocol` shows that
the update refines it, so results about interleavings argue by cases on `TickStep` alone.

`running` says that the sample of the update shows no violation of an enabled group, `stopped`
that no axis or device is faulted and that every one of them is in its disabled terminal state.
-/

namespace RobotDriver.EnableManager

/-- The result of an emergency goes to the request that it interrupted. -/
def Protocol.publishInterrupted (p : Protocol) (result : Result) : Protocol :=
  { p with
    enableResult :=
      if p.interruptedOwner = .enable then p.enableResult.publish result else p.enableResult
    disableResult :=
      if p.interruptedOwner = .disable then p.disableResult.publish result else p.disableResult }

def Protocol.writeDriveModes (cfg : Config) (p : Protocol) : Protocol :=
  { p with driveCspRequested :=
      p.driveCspRequested && (cfg.modeSwitchAxes = [] || p.phase = .enabled) }

theorem Protocol.writeDriveModes_of_enabled {cfg : Config} {p : Protocol} (h : p.phase = .enabled) :
    p.writeDriveModes cfg = p := by
  have hcsp : (p.driveCspRequested &&
      (decide (cfg.modeSwitchAxes = []) || decide (p.phase = .enabled))) = p.driveCspRequested := by
    simp [h]
  unfold writeDriveModes
  rw [hcsp]

/-- The preemption mark after `updateEnable` has looked at the disable request. -/
def Protocol.preempted (p : Protocol) : Bool := p.disableRequest || p.enablePreemptRequested

inductive TickStep (cfg : Config) (running stopped : Prop) (p : Protocol) : Protocol → Prop
  | rest (hrunning : runningPhase p.phase → running) : TickStep cfg running stopped p p
  | emergency (offline : Bool) (next : Phase) (hphase : runningPhase p.phase)
      (hviolation : ¬running) (hnext : next = .emergencyQuickStop ∨ next = .emergencyDisable) :
      TickStep cfg running stopped p
        { p with
          restartRequired := p.restartRequired || offline
          interruptedOwner := p.owner
          owner := .internal
          emergencyJtcDeactivateRequest := true
          phase := next }
  | enableEmergency (next : Phase) (hphase : p.phase = .enabling ∨ p.phase = .interBatchDelay)
      (hnext : next = .emergencyQuickStop ∨ next = .emergencyDisable) :
      TickStep cfg running stopped p
        { p with
          enablePreemptRequested := p.preempted
          disableRequest := false
          interruptedOwner := p.owner
          owner := .internal
          emergencyJtcDeactivateRequest := true
          phase := next }
  | quickStopped (hphase : p.phase = .emergencyQuickStop) :
      TickStep cfg running stopped p { p with phase := .emergencyDisable }
  | escalate (hphase : p.phase = .startupSanitizing ∨ p.phase = .disabling ∨ p.phase = .rollback) :
      TickStep cfg running stopped p
        { p with
          interruptedOwner := p.owner
          emergencyJtcDeactivateRequest := true
          phase := .emergencyQuickStop }
  | finishStartup (next : Phase) (hphase : p.phase = .startupSanitizing)
      (hnext : next = .failed ∨ next = .idle) :
      TickStep cfg running stopped p
        { p with currentControlMode := .disabled, phase := next, owner := .none }
  | finishDisabling (result : Result) (next : Phase) (hphase : p.phase = .disabling)
      (hnext : next = .failed ∨ next = .idle) (hok : result.ok → stopped)
      (hidle : next = .idle → result.ok ∧ p.jtcDeactivateFailed = false) :
      TickStep cfg running stopped p
        { p.publishResult .disable result with
          currentControlMode := .disabled
          phase := next
          owner := .none }
  | finishRollback (result : Result) (next : Phase) (hphase : p.phase = .rollback)
      (hnext : next = .failed ∨ next = .idle) (hok : result.ok = false)
      (hrestart : p.restartRequired → next = .failed) :
      TickStep cfg running stopped p
        { p.publishResult .enable result with
          currentControlMode := .disabled
          phase := next
          owner := .none }
  | finishReset (result : Result) (next : Phase) (hphase : p.phase = .resetDisabling)
      (hnext : next = .failed ∨ next = .idle) (hok : result.ok → stopped) :
      TickStep cfg running stopped p
        { p.publishResult .reset result with
          currentControlMode := .disabled
          phase := next
          owner := .none }
  | expireReset (result : Result)
      (hphase : p.phase = .resetHigh ∧ p.disableRequest = false ∨ p.phase = .resetDisabling)
      (hok : result.ok = false) :
      TickStep cfg running stopped p
        { p.publishResult .reset result with phase := .failed, owner := .none }
  | finishEmergency (result : Result) (next : Phase) (hphase : p.phase = .emergencyDisable)
      (hnext : next = .failed ∨ next = .idle) (hok : result.ok = false)
      (hrestart : p.restartRequired → next = .failed) :
      TickStep cfg running stopped p
        { p.publishInterrupted result with
          currentControlMode := if p.restartRequired then .restartRequired else .disabled
          phase := next
          owner := .none }
  | rejectEnable (result : Result) (hphase : p.phase = .idle) (hrequest : p.enableRequest)
      (hok : result.ok = false) :
      TickStep cfg running stopped p
        { p.publishResult .enable result with enableRequest := false, owner := .none }
  | startEnable (hphase : p.phase = .idle) (hrequest : p.enableRequest) :
      TickStep cfg running stopped p
        { p with
          enableRequest := false
          enablePreemptRequested := false
          enableHardwareReady := false
          jtcActivatedRequest := false
          jtcActivateFailedRequest := false
          phase := .enabling }
  | answerReset (result : Result) (next : Phase)
      (hphase : p.phase = .idle ∧ next = .idle ∧ p.enableRequest = false ∨
        p.phase = .failed ∧ (next = .failed ∨ next = .idle) ∧ p.disableRequest = false)
      (hrequest : p.resetRequest) (hstage : result.stage ≠ .success) :
      TickStep cfg running stopped p
        { p.publishResult .reset result with resetRequest := false, phase := next, owner := .none }
  | startReset
      (hphase : p.phase = .idle ∧ p.enableRequest = false ∨
        p.phase = .failed ∧ p.disableRequest = false)
      (hrequest : p.resetRequest) :
      TickStep cfg running stopped p { p with resetRequest := false, phase := .resetLow }
  | answerDisable (result : Result) (hphase : p.phase = .idle) (henable : p.enableRequest = false)
      (hreset : p.resetRequest = false) (hrequest : p.disableRequest)
      (hstage : result.stage ≠ .success) :
      TickStep cfg running stopped p
        { p.publishResult .disable result with disableRequest := false, owner := .none }
  | disableFailed (hphase : p.phase = .failed) (hrequest : p.disableRequest) :
      TickStep cfg running stopped p { p with disableRequest := false, phase := .disabling }
  | enabling (next : Phase) (hphase : p.phase = .enabling ∨ p.phase = .interBatchDelay)
      (hnext : next = .enabling ∨ next = .interBatchDelay) :
      TickStep cfg running stopped p
        { p with enablePreemptRequested := p.preempted, phase := next }
  | hardwareReady (hphase : p.phase = .enabling) (hpreempted : p.preempted = false) :
      TickStep cfg running stopped p
        { p with
          enablePreemptRequested := false
          enableHardwareReady := true
          phase := .jtcActivating }
  | preemptEnable (result : Result) (hphase : p.phase = .enabling ∨ p.phase = .interBatchDelay)
      (hpreempted : p.preempted) (hok : result.ok = false) :
      TickStep cfg running stopped p
        { p.publishResult .enable result with
          enablePreemptRequested := true
          disableRequest := false
          owner := .disable
          phase := .disabling }
  | failEnable (hphase : p.phase = .enabling ∨ p.phase = .interBatchDelay)
      (hpreempted : p.preempted = false) :
      TickStep cfg running stopped p
        { p with enablePreemptRequested := false, phase := .rollback }
  | activateFailed (hphase : p.phase = .jtcActivating) (hrunning : running)
      (hrequest : p.jtcActivateFailedRequest) :
      TickStep cfg running stopped p
        { p with jtcActivateFailedRequest := false, phase := .rollback }
  | activated (hphase : p.phase = .jtcActivating) (hrunning : running)
      (hfailed : p.jtcActivateFailedRequest = false) (hrequest : p.jtcActivatedRequest) :
      TickStep cfg running stopped p
        { p.publishResult .enable (.immediate true .success) with
          jtcActivatedRequest := false
          currentControlMode :=
            if cfg.motionModeSwitching then cfg.motionControllerMode else p.currentControlMode
          phase := .enabled
          owner := .none }
  | startDisabling (hphase : p.phase = .enabled ∨ p.phase = .jtcDeactivating) (hrunning : running)
      (hrequest : p.disableRequest) :
      TickStep cfg running stopped p
        { p with disableRequest := false, motionFaultPending := false, phase := .disabling }
  | preemptReset (result : Result) (hphase : p.phase = .resetLow ∨ p.phase = .resetHigh)
      (hrequest : p.disableRequest) (hok : result.ok = false) :
      TickStep cfg running stopped p
        { p.publishResult .reset result with
          disableRequest := false
          owner := .disable
          phase := .disabling }
  | resetting (next : Phase)
      (hphase : p.phase = .resetLow ∧ next = .resetHigh ∨
        p.phase = .resetHigh ∧ next = .resetDisabling)
      (hrequest : p.disableRequest = false) :
      TickStep cfg running stopped p { p with phase := next }

theorem TickStep.active {cfg : Config} {running stopped : Prop} {p q : Protocol}
    (h : TickStep cfg running stopped p q) : q.active = p.active := by
  cases h <;> rfl

end RobotDriver.EnableManager
