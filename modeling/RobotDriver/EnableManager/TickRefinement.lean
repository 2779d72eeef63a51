import RobotDriver.EnableManager.TickStep

/-!
# The update refines `TickStep`

Each function of the update is related to the protocol it leaves behind, from the downward
sequence up to `update`, whose theorem is the one that later modules use.
-/

namespace RobotDriver.EnableManager

def Data.stopped (cfg : Config) (d : Data) : Bool := !d.anyFault cfg && d.allNonfaultTerminal cfg

def stopPhase (phase : Phase) : Bool :=
  phase = .startupSanitizing || phase = .disabling || phase = .rollback ||
    phase = .resetDisabling || phase = .emergencyDisable

def Phase.emergency : Phase → Bool
  | .emergencyQuickStop => true
  | .emergencyDisable => true
  | _ => false

def enablePhase (phase : Phase) : Bool := phase = .enabling || phase = .interBatchDelay

theorem not_running_of_stopPhase {phase : Phase} (h : stopPhase phase) :
    runningPhase phase = false := by
  cases phase <;> simp_all [stopPhase, runningPhase]

theorem TickStep.rest_of_not_running {cfg : Config} {running stopped : Prop} {p : Protocol}
    (h : runningPhase p.phase = false) : TickStep cfg running stopped p p :=
  .rest fun hrunning => absurd (hrunning.symm.trans h) (by decide)

namespace Controller

variable (cfg : Config) (c : Controller) (now : ℤ) {running : Prop}

@[simp] theorem setPhase_protocol (phase : Phase) :
    (c.setPhase phase).protocol = { c.protocol with phase := phase } := rfl

@[simp] theorem setOwner_protocol (owner : Owner) :
    (c.setOwner owner).protocol = { c.protocol with owner := owner } := rfl

@[simp] theorem setMode_protocol (mode : ControlMode) :
    (c.setMode mode).protocol = { c.protocol with currentControlMode := mode } := rfl

@[simp] theorem setMode_data (mode : ControlMode) : (c.setMode mode).data = c.data := rfl

@[simp] theorem publishResult_protocol (service : Service) (result : Result) :
    (c.publishResult service result).protocol = c.protocol.publishResult service result := rfl

@[simp] theorem publishResult_data (service : Service) (result : Result) :
    (c.publishResult service result).data = c.data := rfl

section Downward

@[simp] theorem startDownward_protocol (phase : Phase) :
    (c.startDownward cfg phase now).protocol = { c.protocol with phase := phase } := rfl

theorem tickStep_finishStartup (hphase : c.protocol.phase = .startupSanitizing) :
    TickStep cfg running (c.data.stopped cfg) c.protocol (c.finishStartup cfg).protocol := by
  unfold finishStartup
  dsimp only
  split
  · exact .finishStartup .failed hphase (.inl rfl)
  · split
    · exact .finishStartup .failed hphase (.inl rfl)
    · exact .finishStartup .idle hphase (.inr rfl)

theorem tickStep_finishDisabling (hphase : c.protocol.phase = .disabling)
    (hterminal : c.data.allNonfaultTerminal cfg) :
    TickStep cfg running (c.data.stopped cfg) c.protocol (c.finishDisabling cfg).protocol := by
  unfold finishDisabling
  dsimp only
  split
  · exact .finishDisabling _ .failed hphase (.inl rfl) nofun nofun
  · rename_i hfault
    split
    · exact .finishDisabling _ .failed hphase (.inl rfl) nofun nofun
    · rename_i hfailed
      split
      · exact .finishDisabling _ .failed hphase (.inl rfl) nofun
          nofun
      · have hnofault : c.data.anyFault cfg = false := eq_false_of_ne_true hfault
        have hstopped : c.data.stopped cfg := by
          simp only [Data.stopped, hnofault, hterminal, Bool.not_false, Bool.and_self]
        exact .finishDisabling _ .idle hphase (.inr rfl) (fun _ => hstopped)
          (fun _ => ⟨rfl, eq_false_of_ne_true hfailed⟩)

theorem tickStep_finishRollback (hphase : c.protocol.phase = .rollback) :
    TickStep cfg running (c.data.stopped cfg) c.protocol (c.finishRollback cfg).protocol := by
  have hnext : ∀ b : Bool, (if b then Phase.failed else .idle) = .failed ∨
      (if b then Phase.failed else .idle) = .idle := by decide
  refine .finishRollback c.data.primaryFailure.result _ hphase (hnext _) rfl ?_
  intro hrestart
  exact if_pos (Bool.or_eq_true_iff.2 (.inr hrestart))

theorem tickStep_finishReset (hphase : c.protocol.phase = .resetDisabling) :
    TickStep cfg running (c.data.stopped cfg) c.protocol (c.finishReset cfg).protocol := by
  unfold finishReset
  dsimp only
  split
  · exact .finishReset _ .failed hphase (.inl rfl) nofun
  · rename_i hstopped
    refine .finishReset _ .idle hphase (.inr rfl) (fun _ => ?_)
    simpa [Data.stopped] using hstopped

theorem tickStep_finishEmergency (hphase : c.protocol.phase = .emergencyDisable) :
    TickStep cfg running (c.data.stopped cfg) c.protocol (c.finishEmergency cfg).protocol := by
  have hnext : ∀ b : Bool, (if b then Phase.failed else .idle) = .failed ∨
      (if b then Phase.failed else .idle) = .idle := by decide
  have hprotocol : (c.finishEmergency cfg).protocol =
      { c.protocol.publishInterrupted c.data.primaryFailure.result with
        currentControlMode := if c.protocol.restartRequired then .restartRequired else .disabled
        phase := if c.data.anyFault cfg || !c.data.allNonfaultTerminal cfg ||
          c.protocol.restartRequired then .failed else .idle
        owner := .none } := by
    unfold finishEmergency Protocol.publishInterrupted
    cases h : c.protocol.interruptedOwner <;> simp [h, Protocol.publishResult]
  rw [hprotocol]
  refine .finishEmergency _ _ hphase (hnext _) rfl ?_
  intro hrestart
  exact if_pos (Bool.or_eq_true_iff.2 (.inr hrestart))

theorem tickStep_finishDownward (hphase : stopPhase c.protocol.phase)
    (hterminal : c.data.allNonfaultTerminal cfg ∨ c.protocol.phase = .emergencyDisable) :
    TickStep cfg running (c.data.stopped cfg) c.protocol (c.finishDownward cfg).protocol := by
  unfold finishDownward
  cases h : c.protocol.phase <;> simp only [h, stopPhase] at hphase
  case startupSanitizing => exact tickStep_finishStartup cfg c h
  case disabling =>
    exact tickStep_finishDisabling cfg c h (hterminal.resolve_right (by simp [h]))
  case rollback => exact tickStep_finishRollback cfg c h
  case resetDisabling => exact tickStep_finishReset cfg c h
  case emergencyDisable => exact tickStep_finishEmergency cfg c h
  all_goals simp at hphase

@[simp] theorem recordStopFailure_protocol (joint : Option ℕ) :
    (c.recordStopFailure cfg joint).protocol = c.protocol := by
  unfold recordStopFailure
  split <;> rfl

@[simp] theorem stopped_recordStopFailure (joint : Option ℕ) :
    (c.recordStopFailure cfg joint).data.stopped cfg = c.data.stopped cfg := by
  unfold recordStopFailure
  split <;> rfl

theorem tickStep_expireDownward (hphase : stopPhase c.protocol.phase) :
    TickStep cfg running (c.data.stopped cfg) c.protocol (c.expireDownward cfg now).protocol := by
  unfold expireDownward
  by_cases hreset : c.protocol.phase = .resetDisabling
  · rw [if_pos hreset]
    exact .expireReset _ (.inr hreset) rfl
  rw [if_neg hreset]
  dsimp only
  rw [recordStopFailure_protocol]
  by_cases hemergency : c.protocol.phase = .emergencyDisable
  · rw [if_neg (not_not_intro hemergency)]
    have hfinish : TickStep cfg running _ _ _ := tickStep_finishDownward cfg
      (c.recordStopFailure cfg ((c.data.firstNonterminal cfg).or (c.data.firstFault cfg)))
      (by simpa using hphase) (.inr (by simpa using hemergency))
    simpa using hfinish
  · rw [if_pos hemergency, escalate, onProtocol_protocol, onData_protocol,
      recordStopFailure_protocol]
    refine .escalate ?_
    revert hphase hreset hemergency
    cases c.protocol.phase <;> decide

theorem advanceStage_protocol (hstage : c.data.downwardStage < 2) :
    (c.advanceStage cfg now).protocol = c.protocol := by
  unfold advanceStage
  dsimp only
  split
  · rename_i h
    have hlate : 2 < c.data.downwardStage + 1 := of_decide_eq_true (Bool.and_eq_true_iff.1 h).1
    omega
  · rfl

theorem stage_lt_of_stageReached (h : c.stageReached cfg) : c.data.downwardStage < 2 := by
  unfold stageReached at h
  split at h <;> simp_all

theorem tickStep_updateDownward (hphase : stopPhase c.protocol.phase) :
    TickStep cfg running (c.data.stopped cfg) c.protocol (c.updateDownward cfg now).protocol := by
  unfold updateDownward
  dsimp only
  have hrest : TickStep cfg running (c.data.stopped cfg) c.protocol c.protocol :=
    .rest_of_not_running (not_running_of_stopPhase hphase)
  split
  · rename_i hfinish
    exact tickStep_finishDownward cfg (c.commandDownward cfg) hphase (.inl hfinish.2)
  · split
    · rename_i hreached
      rw [advanceStage_protocol cfg _ now (stage_lt_of_stageReached cfg _ hreached)]
      exact hrest
    · split
      · exact tickStep_expireDownward cfg (c.commandDownward cfg) now hphase
      · exact hrest

theorem tickStep_continueDownward (hphase : stopPhase c.protocol.phase) :
    TickStep cfg running (c.data.stopped cfg) c.protocol (c.continueDownward cfg now).protocol := by
  unfold continueDownward
  split
  · exact tickStep_updateDownward cfg (c.startDownward cfg c.protocol.phase now) now hphase
  · exact tickStep_updateDownward cfg c now hphase

theorem updateDownward_protocol_of_fresh (hstage : c.data.downwardStage = 0)
    (hdeadline : now < c.data.stageDeadlineNs) :
    (c.updateDownward cfg now).protocol = c.protocol := by
  have hstage' : (c.commandDownward cfg).data.downwardStage = 0 := hstage
  have hdeadline' : ¬(c.commandDownward cfg).data.stageDeadlineNs ≤ now := Int.not_le.2 hdeadline
  unfold updateDownward
  dsimp only
  rw [hstage', if_neg (by omega), if_neg hdeadline']
  split
  · exact advanceStage_protocol cfg _ now (by omega)
  · rfl

end Downward

section Emergency

theorem updateEmergencyQuickStop_protocol :
    ∃ next, (next = .emergencyDisable ∨ next = c.protocol.phase) ∧
      (c.updateEmergencyQuickStop cfg now).protocol = { c.protocol with phase := next } := by
  unfold updateEmergencyQuickStop
  dsimp only
  split
  · exact ⟨.emergencyDisable, .inl rfl, rfl⟩
  · exact ⟨c.protocol.phase, .inr rfl, rfl⟩

@[simp] theorem startEmergency_protocol (stage : Stage) (joint : Option ℕ) (word : ℕ) :
    (c.startEmergency cfg stage joint word now).protocol =
      { c.protocol with
        interruptedOwner := c.protocol.owner
        owner := .internal
        emergencyJtcDeactivateRequest := true
        phase := .emergencyQuickStop } := rfl

theorem noteOffline_protocol :
    c.noteOffline.protocol =
      { c.protocol with
        restartRequired := c.protocol.restartRequired || c.data.offlineNow.isSome } := by
  unfold noteOffline
  cases c.data.offlineNow <;> simp

end Emergency

section Enable

theorem notePreemption_protocol :
    c.notePreemption.protocol =
      { c.protocol with enablePreemptRequested := c.protocol.preempted } := by
  unfold notePreemption
  by_cases h : c.protocol.disableRequest
  · simp [h, Protocol.preempted]
  · have hsame : c.protocol.preempted = c.protocol.enablePreemptRequested := by
      simp [h, Protocol.preempted]
    rw [if_neg h, hsame]

@[simp] theorem notePreemption_data : c.notePreemption.data = c.data := by
  unfold notePreemption
  split <;> rfl

/-- The exits of `updateEnable` that neither enter an emergency nor leave the enable phases. -/
def FailsEnable (q : Protocol) : Prop :=
  ∃ result : Result, result.ok = false ∧
    q = if c.protocol.enablePreemptRequested then
        { c.protocol.publishResult .enable result with
          owner := .disable
          disableRequest := false
          phase := .disabling }
      else { c.protocol with phase := .rollback }

theorem failEnable_fails (stage : Stage) (axis : Option ℕ) :
    c.FailsEnable (c.failEnable cfg stage axis now).protocol := by
  have hdeadline : now < now + cfg.disableStageTimeoutNs := by
    have := cfg.disableStageTimeout_pos
    omega
  refine ⟨⟨false, stage, some c.data.currentBatch, axis, c.data.statusOf axis⟩, rfl, ?_⟩
  unfold failEnable
  dsimp only
  by_cases hpreempted : c.protocol.enablePreemptRequested
  · rw [onData_protocol, if_pos hpreempted, if_pos hpreempted]
    exact updateDownward_protocol_of_fresh cfg _ now rfl hdeadline
  · rw [onData_protocol, if_neg hpreempted, if_neg hpreempted]
    exact updateDownward_protocol_of_fresh cfg _ now rfl hdeadline

/-- `c` runs the checks of `updateEnable` in a tick that started in `p`. -/
structure Enabling (p : Protocol) (c : Controller) : Prop where
  protocol : c.protocol = { p with enablePreemptRequested := p.preempted }
  phase : p.phase = .enabling ∨ p.phase = .interBatchDelay

variable {p : Protocol} {c} {stopped : Prop}

theorem Enabling.onData (h : Enabling p c) (f : Data → Data) : Enabling p (c.onData f) :=
  ⟨h.protocol, h.phase⟩

theorem Enabling.preempted (h : Enabling p c) :
    c.protocol.enablePreemptRequested = p.preempted := by rw [h.protocol]

theorem Enabling.not_preempted (h : Enabling p c) (hp : ¬c.protocol.enablePreemptRequested) :
    p.preempted = false := by
  rw [← h.preempted]
  exact eq_false_of_ne_true hp

theorem Enabling.tickStep_failEnable (h : Enabling p c) (stage : Stage) (axis : Option ℕ) :
    TickStep cfg running stopped p (c.failEnable cfg stage axis now).protocol := by
  obtain ⟨result, hok, hq⟩ := c.failEnable_fails cfg now stage axis
  rw [hq]
  split
  · rename_i hpreempted
    have hp : p.preempted = true := h.preempted.symm.trans hpreempted
    rw [h.protocol, hp]
    exact .preemptEnable result h.phase hp hok
  · rename_i hpreempted
    have hp := h.not_preempted hpreempted
    rw [h.protocol, hp]
    exact .failEnable h.phase hp

theorem Enabling.tickStep_preemptEnable (h : Enabling p c)
    (hpreempted : c.protocol.enablePreemptRequested) :
    TickStep cfg running stopped p (c.preemptEnable cfg now).protocol := by
  have hp : p.preempted = true := h.preempted.symm.trans hpreempted
  have hq : (c.preemptEnable cfg now).protocol =
      { c.protocol.publishResult .enable (.immediate false .preemptedByDisable) with
        disableRequest := false
        owner := .disable
        phase := .disabling } := rfl
  rw [hq, h.protocol, hp]
  exact .preemptEnable _ h.phase hp rfl

theorem Enabling.tickStep_enterJtcActivating (h : Enabling p c) (hphase : p.phase = .enabling)
    (hpreempted : ¬c.protocol.enablePreemptRequested) :
    TickStep cfg running stopped p c.enterJtcActivating.protocol := by
  have hp := h.not_preempted hpreempted
  have hq : c.enterJtcActivating.protocol =
      { c.protocol with phase := .jtcActivating, enableHardwareReady := true } := rfl
  rw [hq, h.protocol, hp]
  exact .hardwareReady hphase hp

theorem Enabling.tickStep_stay (h : Enabling p c) :
    TickStep cfg running stopped p c.protocol := by
  rw [h.protocol]
  exact .enabling p.phase h.phase h.phase

theorem Enabling.tickStep_setPhase (h : Enabling p c) {next : Phase}
    (hnext : next = .enabling ∨ next = .interBatchDelay) :
    TickStep cfg running stopped p (c.setPhase next).protocol := by
  rw [setPhase_protocol, h.protocol]
  exact .enabling next h.phase hnext

theorem Enabling.tickStep_updateDeviceEnable (h : Enabling p c) (hphase : p.phase = .enabling) :
    TickStep cfg running stopped p (c.updateDeviceEnable cfg now).protocol := by
  unfold updateDeviceEnable
  split
  · exact h.tickStep_failEnable cfg now _ _
  · dsimp only
    split
    · rename_i hpreempted
      exact (h.onData _).tickStep_preemptEnable cfg now hpreempted
    · rename_i hpreempted
      split
      · exact (((h.onData _).onData _).onData _).tickStep_enterJtcActivating cfg hphase hpreempted
      · split
        · exact ((h.onData _).onData _).tickStep_failEnable cfg now _ _
        · exact ((h.onData _).onData _).tickStep_stay cfg

theorem Enabling.tickStep_completeBatch (h : Enabling p c) (hphase : p.phase = .enabling) :
    TickStep cfg running stopped p (c.completeBatch cfg now).protocol := by
  unfold completeBatch
  split
  · rename_i hpreempted
    exact h.tickStep_preemptEnable cfg now hpreempted
  · rename_i hpreempted
    split
    · exact (h.onData _).tickStep_stay cfg
    · split
      · exact h.tickStep_enterJtcActivating cfg hphase hpreempted
      · exact (h.onData _).tickStep_setPhase cfg (.inr rfl)

theorem Enabling.tickStep_updateBatch (h : Enabling p c) (hphase : p.phase = .enabling) :
    TickStep cfg running stopped p (c.updateBatch cfg now).protocol := by
  unfold updateBatch
  dsimp only
  split
  · exact (h.onData _).tickStep_failEnable cfg now _ _
  · split
    · exact (h.onData _).tickStep_failEnable cfg now _ _
    · split
      · exact (h.onData _).tickStep_completeBatch cfg now hphase
      · split
        · exact (h.onData _).tickStep_failEnable cfg now _ _
        · exact (h.onData _).tickStep_stay cfg

theorem Enabling.tickStep_updateInterBatchDelay (h : Enabling p c) :
    TickStep cfg running stopped p (c.updateInterBatchDelay cfg now).protocol := by
  unfold updateInterBatchDelay
  dsimp only
  split
  · rename_i hpreempted
    exact (h.onData _).tickStep_preemptEnable cfg now hpreempted
  · split
    · exact ((h.onData _).onData _).tickStep_setPhase cfg (.inl rfl)
    · exact (h.onData _).tickStep_stay cfg

theorem Enabling.tickStep_updateEnableStage (h : Enabling p c) :
    TickStep cfg running stopped p (c.updateEnableStage cfg now).protocol := by
  unfold updateEnableStage
  have hphase : c.protocol.phase = p.phase := by rw [h.protocol]
  split
  · exact h.tickStep_updateInterBatchDelay cfg now
  · rename_i hdelay
    have henabling : p.phase = .enabling := h.phase.resolve_right (hphase ▸ hdelay)
    split
    · exact h.tickStep_updateDeviceEnable cfg now henabling
    · exact h.tickStep_updateBatch cfg now henabling

theorem Enabling.tickStep_updateReadySources (h : Enabling p c) :
    TickStep cfg running stopped p (c.updateReadySources cfg now).protocol := by
  unfold updateReadySources
  split
  · exact h.tickStep_updateEnableStage cfg now
  · split
    · exact h.tickStep_failEnable cfg now _ _
    · dsimp only
      split
      · exact (h.onData _).tickStep_updateEnableStage cfg now
      · split
        · exact ((h.onData _).onData _).tickStep_failEnable cfg now _ _
        · exact ((h.onData _).onData _).tickStep_stay cfg

theorem tickStep_updateEnable
    (hphase : c.protocol.phase = .enabling ∨ c.protocol.phase = .interBatchDelay) :
    TickStep cfg running stopped c.protocol (c.updateEnable cfg now).protocol := by
  have h : Enabling c.protocol c.notePreemption := ⟨c.notePreemption_protocol, hphase⟩
  unfold updateEnable
  dsimp only
  split
  · rename_i joint word _
    obtain ⟨next, hnext, hq⟩ := updateEmergencyQuickStop_protocol cfg
      ((c.notePreemption.onProtocol ({ · with disableRequest := false })).startEmergency cfg
        .faultDetected joint word now) now
    rw [hq, startEmergency_protocol, onProtocol_protocol, h.protocol]
    exact .enableEmergency next hphase (hnext.symm.imp_left fun hn => hn.trans rfl)
  · split
    · exact h.tickStep_failEnable cfg now _ _
    · exact h.tickStep_updateReadySources cfg now

end Enable

section Reset

variable {stopped : Prop}

theorem tickStep_updateReset
    (hphase : c.protocol.phase = .resetLow ∨ c.protocol.phase = .resetHigh) :
    TickStep cfg running stopped c.protocol (c.updateReset cfg now).protocol := by
  unfold updateReset
  split
  · rename_i hrequest
    exact .preemptReset _ hphase hrequest rfl
  · rename_i hrequest
    have hnone : c.protocol.disableRequest = false := eq_false_of_ne_true hrequest
    split
    · rename_i hlow
      exact .resetting .resetHigh (.inl ⟨hlow, rfl⟩) hnone
    · rename_i hlow
      have hhigh := hphase.resolve_left hlow
      unfold updateResetHigh
      dsimp only
      split
      · exact .resetting .resetDisabling (.inr ⟨hhigh, rfl⟩) hnone
      · split
        · exact .expireReset _ (.inl ⟨hhigh, hnone⟩) rfl
        · exact .rest_of_not_running (by simp [hhigh, runningPhase])

end Reset

section Phases

variable {stopped : Prop}

theorem tickStep_updateIdle (hphase : c.protocol.phase = .idle) :
    TickStep cfg running stopped c.protocol (c.updateIdle cfg now).protocol := by
  unfold updateIdle
  dsimp only
  split
  · rename_i henable
    unfold rejectIfOffline
    split
    · exact .rejectEnable _ hphase henable rfl
    · exact .startEnable hphase henable
  · rename_i henable
    have henable' : c.protocol.enableRequest = false := eq_false_of_ne_true henable
    split
    · rename_i hreset
      unfold rejectIfOffline
      have hanswer : ∀ result : Result, result.stage ≠ .success →
          TickStep cfg running stopped c.protocol
            { c.protocol.publishResult .reset result with resetRequest := false, owner := .none } := by
        intro result hstage
        have hstep : TickStep cfg running stopped c.protocol _ :=
          .answerReset result .idle (.inl ⟨hphase, rfl, henable'⟩) hreset hstage
        rw [← hphase] at hstep
        exact hstep
      split
      · exact hanswer (.immediate false .deviceOffline) (by decide)
      · dsimp only
        rw [onData_protocol]
        unfold resetFromIdle
        dsimp only
        split
        · exact hanswer (.immediate true .alreadyClear) (by decide)
        · exact .startReset (.inl ⟨hphase, henable'⟩) hreset
    · rename_i hreset
      split
      · rename_i hdisable
        exact .answerDisable _ hphase henable' (eq_false_of_ne_true hreset) hdisable (by decide)
      · exact .rest_of_not_running (by simp [hphase, runningPhase])

theorem tickStep_updateFailed (hphase : c.protocol.phase = .failed) :
    TickStep cfg running stopped c.protocol (c.updateFailed cfg now).protocol := by
  unfold updateFailed
  dsimp only
  split
  · rename_i hdisable
    exact .disableFailed hphase hdisable
  · rename_i hdisable
    have hdisable' : c.protocol.disableRequest = false := eq_false_of_ne_true hdisable
    split
    · rename_i hreset
      unfold rejectIfOffline
      split
      · have hstep : TickStep cfg running stopped c.protocol _ :=
          .answerReset (.immediate false .deviceOffline) .failed
            (.inr ⟨hphase, .inl rfl, hdisable'⟩) hreset (by decide)
        rw [← hphase] at hstep
        exact hstep
      · dsimp only
        rw [onData_protocol]
        unfold resetFromFailed
        dsimp only
        split
        · exact .answerReset (.immediate true .alreadyClear) .idle
            (.inr ⟨hphase, .inr rfl, hdisable'⟩) hreset (by decide)
        · exact .startReset (.inr ⟨hphase, hdisable'⟩) hreset
    · exact .rest_of_not_running (by simp [hphase, runningPhase])

theorem tickStep_updateJtcActivating (hphase : c.protocol.phase = .jtcActivating)
    (hrunning : running) :
    TickStep cfg running stopped c.protocol (c.updateJtcActivating cfg now).protocol := by
  unfold updateJtcActivating
  dsimp only
  split
  · rename_i hfailed
    exact .activateFailed hphase hrunning hfailed
  · rename_i hfailed
    split
    · rename_i hactivated
      have hstep : TickStep cfg running stopped c.protocol _ :=
        .activated hphase hrunning (eq_false_of_ne_true hfailed) hactivated
      split
      · rename_i hswitching
        rw [if_pos hswitching] at hstep
        exact hstep
      · rename_i hswitching
        rw [if_neg hswitching] at hstep
        exact hstep
    · exact .rest fun _ => hrunning

theorem noteMotionFault_protocol :
    (c.noteMotionFault cfg).protocol = { c.protocol with motionFaultPending := false } := by
  unfold noteMotionFault
  split
  · rfl
  · rename_i hpending
    rw [← eq_false_of_ne_true hpending]

theorem tickStep_updateEnabled
    (hphase : c.protocol.phase = .enabled ∨ c.protocol.phase = .jtcDeactivating)
    (hrunning : running) :
    TickStep cfg running stopped c.protocol (c.updateEnabled cfg now).protocol := by
  unfold updateEnabled
  dsimp only
  split
  · rename_i hdisable
    rw [startDownward_protocol, noteMotionFault_protocol]
    exact .startDisabling hphase hrunning hdisable
  · exact .rest fun _ => hrunning

theorem tickStep_updatePhase (hrunning : runningPhase c.protocol.phase → running) :
    TickStep cfg running (c.data.stopped cfg) c.protocol (c.updatePhase cfg now).protocol := by
  unfold updatePhase
  cases h : c.protocol.phase <;> dsimp only
  case inactive => exact .rest hrunning
  case startupSanitizing => exact tickStep_continueDownward cfg c now (by rw [h]; rfl)
  case idle => exact tickStep_updateIdle cfg c now h
  case enabling => exact tickStep_updateEnable cfg now (.inl h)
  case interBatchDelay => exact tickStep_updateEnable cfg now (.inr h)
  case jtcActivating => exact tickStep_updateJtcActivating cfg c now h (hrunning (by rw [h]; rfl))
  case enabled => exact tickStep_updateEnabled cfg c now (.inl h) (hrunning (by rw [h]; rfl))
  case jtcDeactivating =>
    exact tickStep_updateEnabled cfg c now (.inr h) (hrunning (by rw [h]; rfl))
  case disabling => exact tickStep_continueDownward cfg c now (by rw [h]; rfl)
  case rollback => exact tickStep_continueDownward cfg c now (by rw [h]; rfl)
  case resetLow => exact tickStep_updateReset cfg c now (.inl h)
  case resetHigh => exact tickStep_updateReset cfg c now (.inr h)
  case resetDisabling => exact tickStep_continueDownward cfg c now (by rw [h]; rfl)
  case emergencyQuickStop =>
    obtain ⟨next, rfl | rfl, hq⟩ := updateEmergencyQuickStop_protocol cfg c now
    · rw [hq]
      exact .quickStopped h
    · rw [hq]
      exact .rest hrunning
  case emergencyDisable => exact tickStep_continueDownward cfg c now (by rw [h]; rfl)
  case failed => exact tickStep_updateFailed cfg c now h

@[simp] theorem writeDriveModes_protocol :
    (c.writeDriveModes cfg).protocol = c.protocol.writeDriveModes cfg := by
  unfold writeDriveModes Protocol.writeDriveModes clearDriveCsp
  by_cases haxes : cfg.modeSwitchAxes = []
  · simp [haxes]
  · by_cases hphase : c.protocol.phase = .enabled
    · rw [if_neg haxes, onData_protocol, if_neg (not_not_intro hphase), decide_eq_true hphase,
        Bool.or_true, Bool.and_true]
    · simp [haxes, hphase]

/-- One update of an active controller takes one protocol step and then writes the drive modes;
the sample it judges is the refreshed one. -/
theorem update_protocol (sample : Sample) (hactive : c.protocol.active) :
    ∃ q, TickStep cfg ((c.refresh cfg sample).data.runningViolation cfg = none)
        ((c.refresh cfg sample).data.stopped cfg) c.protocol q ∧
      (c.update cfg sample now).protocol = q.writeDriveModes cfg := by
  unfold update
  rw [if_pos hactive, writeDriveModes_protocol, onData_protocol]
  refine ⟨_, ?_, rfl⟩
  set r := c.refresh cfg sample with hr
  have hprotocol : r.protocol = c.protocol := rfl
  unfold checkRunning
  split
  · rename_i hphase
    split
    · rename_i stage joint word hviolation
      have hquick : (r.noteOffline.startEmergency cfg stage joint word now).protocol.phase =
        .emergencyQuickStop := rfl
      unfold updatePhase
      rw [hquick]
      obtain ⟨next, hnext, hq⟩ := updateEmergencyQuickStop_protocol cfg
        (r.noteOffline.startEmergency cfg stage joint word now) now
      dsimp only
      rw [hq, startEmergency_protocol, noteOffline_protocol, hprotocol]
      exact .emergency r.data.offlineNow.isSome next (hprotocol ▸ hphase) (by simp [hviolation])
        (hnext.symm.imp_left fun hn => hn.trans rfl)
    · rename_i hviolation
      exact tickStep_updatePhase cfg r now (fun _ => hviolation)
  · rename_i hphase
    exact tickStep_updatePhase cfg r now (fun h => absurd h hphase)

theorem update_of_inactive (sample : Sample) (hactive : c.protocol.active = false) :
    c.update cfg sample now = c := by
  unfold update
  simp [hactive]

end Phases

end Controller

end RobotDriver.EnableManager
