import RobotDriver.EnableManager.SuccessSoundness

/-!
# Edges of the fault reset

The reset bit is raised only by `updateReset` in `kResetHigh`, every other branch of an update
commands words without it. An episode enters `kResetHigh` by a tick that commands zero to every
axis, so each stretch of reset words on an axis starts from a zero of the same episode.
-/

namespace RobotDriver.EnableManager

open LabelledRun

variable {cfg : Config}

section Words

/-- No control word has the value of the fault reset. -/
def Data.NoReset (cfg : Config) (d : Data) : Prop :=
  ∀ axis < cfg.axisCount, d.controlWords axis ≠ 0x0080

def Data.AllZero (cfg : Config) (d : Data) : Prop :=
  ∀ axis < cfg.axisCount, d.controlWords axis = 0x0000

theorem Data.AllZero.noReset {d : Data} (h : d.AllZero cfg) : d.NoReset cfg := by
  intro axis haxis
  rw [h axis haxis]
  decide

theorem Data.noReset_setControlWords (d : Data) {word : ℕ → ℕ} (h : ∀ axis, word axis ≠ 0x0080) :
    (d.setControlWords cfg word).NoReset cfg := by
  intro axis haxis
  rw [show (d.setControlWords cfg word).controlWords axis = word axis from if_pos haxis]
  exact h axis

namespace Controller

variable {c : Controller} {now : ℤ}

theorem finishDownward_controlWords :
    (c.finishDownward cfg).data.controlWords = c.data.controlWords := by
  unfold finishDownward
  split
  · unfold finishStartup
    dsimp only
    repeat' split
    all_goals rfl
  · unfold finishDisabling
    dsimp only
    repeat' split
    all_goals rfl
  · rfl
  · unfold finishReset
    dsimp only
    split <;> rfl
  · unfold finishEmergency
    dsimp only
    split <;> rfl
  · rfl

theorem recordStopFailure_controlWords (joint : Option ℕ) :
    (c.recordStopFailure cfg joint).data.controlWords = c.data.controlWords := by
  unfold recordStopFailure
  split <;> rfl

theorem noReset_expireDownward (h : c.data.NoReset cfg) :
    (c.expireDownward cfg now).data.NoReset cfg := by
  unfold expireDownward
  dsimp only
  split_ifs
  · exact Data.noReset_setControlWords _ fun _ => by decide
  · intro axis haxis
    change (c.recordStopFailure cfg _).data.controlWords axis ≠ 0x0080
    rw [recordStopFailure_controlWords]
    exact h axis haxis
  · intro axis haxis
    rw [finishDownward_controlWords, recordStopFailure_controlWords]
    exact h axis haxis

theorem downwardCommand_ne (state : DriveState) : downwardCommand state ≠ 0x0080 := by
  cases state <;> decide

theorem noReset_updateDownward : (c.updateDownward cfg now).data.NoReset cfg := by
  have hcommand : (c.commandDownward cfg).data.NoReset cfg :=
    Data.noReset_setControlWords _ fun axis => downwardCommand_ne (c.data.state axis)
  unfold updateDownward
  dsimp only
  split_ifs
  · intro axis haxis
    rw [finishDownward_controlWords]
    exact hcommand axis haxis
  · unfold advanceStage
    dsimp only
    split_ifs
    · intro axis haxis
      rw [finishDownward_controlWords]
      exact hcommand axis haxis
    · exact hcommand
  · exact noReset_expireDownward hcommand
  · exact hcommand

theorem quickStopCommand_ne_reset (state : DriveState) : quickStopCommand state ≠ 0x0080 := by
  cases state <;> decide

theorem noReset_updateEmergencyQuickStop :
    (c.updateEmergencyQuickStop cfg now).data.NoReset cfg := by
  have hcommand : (c.commandQuickStop cfg).data.NoReset cfg :=
    Data.noReset_setControlWords _ fun axis => quickStopCommand_ne_reset (c.data.state axis)
  unfold updateEmergencyQuickStop
  dsimp only
  split_ifs
  · exact hcommand
  · exact hcommand

theorem noReset_failEnable (stage : Stage) (axis : Option ℕ) :
    (c.failEnable cfg stage axis now).data.NoReset cfg :=
  noReset_updateDownward

theorem noReset_updateDeviceEnable : (c.updateDeviceEnable cfg now).data.NoReset cfg := by
  have hcommand : (c.data.setAllControlWords cfg 0x000F).NoReset cfg :=
    Data.noReset_setControlWords _ fun _ => by decide
  unfold updateDeviceEnable
  split
  · exact noReset_failEnable _ _
  · dsimp only
    split_ifs
    · exact hcommand
    · exact hcommand
    · exact noReset_failEnable _ _
    · exact hcommand

theorem enableStep_command_ne (d : Data) (axis : ℕ) :
    (d.enableStep cfg axis).command ≠ 0x0080 := by
  unfold Data.enableStep
  repeat' split
  all_goals simp

theorem noReset_completeBatch (h : c.data.NoReset cfg) :
    (c.completeBatch cfg now).data.NoReset cfg := by
  unfold completeBatch
  split_ifs <;> exact h

theorem noReset_updateBatch : (c.updateBatch cfg now).data.NoReset cfg := by
  unfold updateBatch
  dsimp only
  split
  · exact noReset_failEnable _ _
  · have hcommand : ∀ d : Data, (d.setControlWords cfg fun axis =>
        (c.data.enableStep cfg axis).command).NoReset cfg := fun d =>
      d.noReset_setControlWords fun axis => enableStep_command_ne c.data axis
    split
    · exact noReset_failEnable _ _
    · split_ifs
      · exact noReset_completeBatch (hcommand _)
      · exact noReset_failEnable _ _
      · exact hcommand _

theorem noReset_updateInterBatchDelay :
    (c.updateInterBatchDelay cfg now).data.NoReset cfg := by
  have hcommand : (c.data.setControlWords cfg fun axis =>
      if c.data.state axis = .operationEnabled then 0x000F else 0x0000).NoReset cfg :=
    c.data.noReset_setControlWords fun axis => by split <;> decide
  unfold updateInterBatchDelay
  dsimp only
  split_ifs <;> exact hcommand

theorem noReset_updateEnableStage : (c.updateEnableStage cfg now).data.NoReset cfg := by
  unfold updateEnableStage
  split_ifs
  · exact noReset_updateInterBatchDelay
  · exact noReset_updateDeviceEnable
  · exact noReset_updateBatch

theorem noReset_updateEnable : (c.updateEnable cfg now).data.NoReset cfg := by
  unfold updateEnable
  dsimp only
  split
  · exact noReset_updateEmergencyQuickStop
  · split
    · exact noReset_failEnable _ _
    · unfold updateReadySources
      dsimp only
      split_ifs
      · exact noReset_updateEnableStage
      · exact noReset_failEnable _ _
      · exact noReset_updateEnableStage
      · exact noReset_failEnable _ _
      · exact Data.noReset_setControlWords _ fun _ => by decide

theorem noReset_rejectIfOffline {service : Service} {accepted : Controller}
    (h : c.data.NoReset cfg) (haccepted : accepted.data.NoReset cfg) :
    (c.rejectIfOffline service accepted).data.NoReset cfg := by
  unfold rejectIfOffline
  dsimp only
  split_ifs
  · exact h
  · exact haccepted

theorem noReset_updateIdle : (c.updateIdle cfg now).data.NoReset cfg := by
  have hcommand : (c.commandDisabled cfg).data.NoReset cfg :=
    Data.noReset_setControlWords _ fun _ => by decide
  unfold updateIdle
  dsimp only
  split_ifs
  · exact noReset_rejectIfOffline hcommand hcommand
  · refine noReset_rejectIfOffline hcommand ?_
    unfold resetFromIdle
    dsimp only
    split_ifs
    · exact hcommand
    · exact Data.noReset_setControlWords _ fun _ => by decide
  · exact hcommand
  · exact hcommand

theorem noReset_updateFailed : (c.updateFailed cfg now).data.NoReset cfg := by
  have hcommand : (c.commandDisabled cfg).data.NoReset cfg :=
    Data.noReset_setControlWords _ fun _ => by decide
  unfold updateFailed
  dsimp only
  split_ifs
  · exact hcommand
  · refine noReset_rejectIfOffline hcommand ?_
    unfold resetFromFailed
    dsimp only
    split_ifs <;> exact hcommand
  · exact hcommand

theorem noReset_updateJtcActivating (h : c.data.NoReset cfg) :
    (c.updateJtcActivating cfg now).data.NoReset cfg := by
  have hcommand : (c.data.setAllControlWords cfg 0x000F).NoReset cfg :=
    Data.noReset_setControlWords _ fun _ => by decide
  unfold updateJtcActivating
  dsimp only
  split_ifs
  · exact h
  · exact hcommand
  · exact hcommand
  · exact hcommand

theorem noReset_updateEnabled : (c.updateEnabled cfg now).data.NoReset cfg := by
  have hcommand : (c.data.setAllControlWords cfg 0x000F).NoReset cfg :=
    Data.noReset_setControlWords _ fun _ => by decide
  unfold updateEnabled
  dsimp only
  split_ifs
  · unfold noteMotionFault
    split_ifs <;> exact hcommand
  · exact hcommand

theorem noReset_continueDownward : (c.continueDownward cfg now).data.NoReset cfg :=
  noReset_updateDownward

/-- The outcome of the tick of a reset that is not preempted in `kResetHigh`. -/
structure ResetPulse (cfg : Config) (c c' : Controller) : Prop where
  words : ∀ axis < cfg.axisCount, c'.data.controlWords axis =
    if c.data.resetTargets axis && c.data.state axis = DriveState.fault then 0x0080 else 0x0000
  phase : c'.protocol.phase = .resetHigh

/-- What an update makes of `kResetHigh`. -/
inductive ResetHighOutcome (cfg : Config) (c c' : Controller) : Prop
  | pulse (h : ResetPulse cfg c c')
  | handled (hphase : c'.protocol.phase = .resetDisabling) (hresets : c.data.resetsHandled cfg)
      (hzero : c'.data.AllZero cfg)
  | preempted (hphase : c'.protocol.phase = .disabling) (hrequest : c.protocol.disableRequest)
      (hzero : c'.data.AllZero cfg)
      (hresult : c.protocol.publishes c'.protocol .reset (.immediate false .preemptedByDisable))
  | timedOut (hphase : c'.protocol.phase = .failed) (hzero : c'.data.AllZero cfg)
      (hresult : ∃ result, result.ok = false ∧ c.protocol.publishes c'.protocol .reset result)

variable (cfg) in
theorem allZero_setAllControlWords (d : Data) : (d.setAllControlWords cfg 0x0000).AllZero cfg :=
  fun _ haxis => if_pos haxis

theorem updateReset_outcome (hphase : c.protocol.phase = .resetHigh) :
    ResetHighOutcome cfg c (c.updateReset cfg now) := by
  unfold updateReset
  split_ifs with hdisable hlow
  · exact .preempted rfl hdisable (allZero_setAllControlWords _ _)
      ⟨Nat.succ_ne_self _, rfl⟩
  · exact absurd (hphase.symm.trans hlow) (by decide)
  · have hwords : ∀ axis < cfg.axisCount, (c.commandReset cfg).data.controlWords axis =
        if c.data.resetTargets axis && c.data.state axis = DriveState.fault then 0x0080
        else 0x0000 := fun axis haxis => if_pos haxis
    unfold updateResetHigh
    dsimp only
    split_ifs with hhandled hexpired
    · obtain ⟨hdevices, haxes⟩ := Bool.and_eq_true_iff.1 hhandled
      have hnofault : ∀ axis < cfg.axisCount, isFaultState (c.data.state axis) = false :=
        fun axis haxis => Data.not_fault_of_firstFault (Option.isNone_iff_eq_none.1 haxes) haxis
      refine .handled rfl ⟨hnofault, fun device hdevice =>
        List.all_eq_true.1 hdevices device (cfg.mem_devices.2 hdevice)⟩ fun axis haxis => ?_
      refine (hwords axis haxis).trans (if_neg fun h => ?_)
      have hfault := of_decide_eq_true (Bool.and_eq_true_iff.1 h).2
      have := hnofault axis haxis
      rw [hfault] at this
      cases this
    · exact .timedOut rfl (allZero_setAllControlWords _ _) ⟨_, rfl, Nat.succ_ne_self _, rfl⟩
    · exact .pulse ⟨hwords, hphase⟩

variable (cfg c now) in
theorem updateReset_low (hphase : c.protocol.phase = .resetLow) :
    (c.updateReset cfg now).data.AllZero cfg ∧
      ((c.updateReset cfg now).protocol.phase = .resetHigh ∨
        (c.updateReset cfg now).protocol.phase = .disabling ∧ c.protocol.disableRequest ∧
          c.protocol.publishes (c.updateReset cfg now).protocol .reset
            (.immediate false .preemptedByDisable)) := by
  unfold updateReset
  split_ifs with hdisable
  · exact ⟨allZero_setAllControlWords _ _, .inr ⟨rfl, hdisable, Nat.succ_ne_self _, rfl⟩⟩
  · exact ⟨allZero_setAllControlWords _ _, .inl rfl⟩

section Writes

variable {b : Controller}

/-- The commands and results of an update, as the writes at its end leave them. -/
abbrev written (cfg : Config) (b : Controller) : Controller :=
  (b.onData (·.writeDevices)).writeDriveModes cfg

theorem written_controlWords : (b.written cfg).data.controlWords = b.data.controlWords := by
  unfold written writeDriveModes clearDriveCsp
  dsimp only
  split_ifs <;> rfl

theorem written_phase : (b.written cfg).protocol.phase = b.protocol.phase := by
  rw [written, writeDriveModes_protocol, Protocol.phase_writeDriveModes, onData_protocol]

theorem written_slot (service : Service) :
    (b.written cfg).protocol.slot service = b.protocol.slot service := by
  rw [written, writeDriveModes_protocol, onData_protocol]
  cases service <;> rfl

theorem publishes_written {p : Protocol} {service : Service} {result : Result}
    (h : p.publishes b.protocol service result) :
    p.publishes (b.written cfg).protocol service result := by
  unfold Protocol.publishes
  rw [written_slot]
  exact h

theorem allZero_written (h : b.data.AllZero cfg) : (b.written cfg).data.AllZero cfg := by
  unfold Data.AllZero
  rw [written_controlWords]
  exact h

theorem noReset_written (h : b.data.NoReset cfg) : (b.written cfg).data.NoReset cfg := by
  unfold Data.NoReset
  rw [written_controlWords]
  exact h

theorem ResetHighOutcome.written (h : ResetHighOutcome cfg c b) :
    ResetHighOutcome cfg c (b.written cfg) := by
  cases h with
  | pulse h =>
    refine .pulse ⟨fun axis haxis => ?_, written_phase.trans h.phase⟩
    rw [written_controlWords]
    exact h.words axis haxis
  | handled hphase hresets hzero =>
    exact .handled (written_phase.trans hphase) hresets (allZero_written hzero)
  | preempted hphase hrequest hzero hresult =>
    exact .preempted (written_phase.trans hphase) hrequest (allZero_written hzero)
      (publishes_written hresult)
  | timedOut hphase hzero hresult =>
    obtain ⟨result, hok, hpublish⟩ := hresult
    exact .timedOut (written_phase.trans hphase) (allZero_written hzero)
      ⟨result, hok, publishes_written hpublish⟩

end Writes

variable (cfg c now) in
theorem update_resetHigh (sample : Sample) (hactive : c.protocol.active)
    (hphase : c.protocol.phase = .resetHigh) :
    ResetHighOutcome cfg (c.refresh cfg sample) (c.update cfg sample now) := by
  have hrphase : (c.refresh cfg sample).protocol.phase = .resetHigh := hphase
  have hupdate : (c.refresh cfg sample).updatePhase cfg now =
      (c.refresh cfg sample).updateReset cfg now := by
    unfold updatePhase
    rw [hrphase]
  rw [update_of_phase sample hactive (by rw [hphase]; rfl), hupdate]
  exact (updateReset_outcome hrphase).written

variable (cfg c now) in
theorem update_resetLow (sample : Sample) (hactive : c.protocol.active)
    (hphase : c.protocol.phase = .resetLow) :
    (c.update cfg sample now).data.AllZero cfg ∧
      ((c.update cfg sample now).protocol.phase = .resetHigh ∨
        (c.update cfg sample now).protocol.phase = .disabling ∧ c.protocol.disableRequest ∧
          c.protocol.publishes (c.update cfg sample now).protocol .reset
            (.immediate false .preemptedByDisable)) := by
  have hrphase : (c.refresh cfg sample).protocol.phase = .resetLow := hphase
  have hupdate : (c.refresh cfg sample).updatePhase cfg now =
      (c.refresh cfg sample).updateReset cfg now := by
    unfold updatePhase
    rw [hrphase]
  rw [update_of_phase sample hactive (by rw [hphase]; rfl), hupdate]
  obtain ⟨hzero, hnext⟩ := updateReset_low cfg _ now hrphase
  refine ⟨allZero_written hzero, hnext.imp written_phase.trans fun h => ?_⟩
  exact ⟨written_phase.trans h.1, h.2.1, publishes_written h.2.2⟩

variable (cfg c now) in
theorem checkRunning_cases :
    (c.checkRunning cfg now).data.controlWords = c.data.controlWords ∧
      ((c.checkRunning cfg now).protocol.phase = c.protocol.phase ∨
        (c.checkRunning cfg now).protocol.phase = .emergencyQuickStop) := by
  unfold checkRunning
  split_ifs
  · split
    · unfold noteOffline
      split_ifs <;> exact ⟨rfl, .inr rfl⟩
    · exact ⟨rfl, .inl rfl⟩
  · exact ⟨rfl, .inl rfl⟩

theorem noReset_updatePhase (hphase : c.protocol.phase ≠ .resetHigh)
    (h : c.protocol.phase = .jtcActivating ∨ c.protocol.phase = .inactive → c.data.NoReset cfg) :
    (c.updatePhase cfg now).data.NoReset cfg := by
  unfold updatePhase
  split <;> rename_i hcase
  · exact noReset_continueDownward
  · exact noReset_updateIdle
  · exact noReset_updateEnable
  · exact noReset_updateEnable
  · exact noReset_updateJtcActivating (h (.inl hcase))
  · exact noReset_updateEnabled
  · exact noReset_updateEnabled
  · exact noReset_continueDownward
  · exact noReset_continueDownward
  · exact noReset_continueDownward
  · exact noReset_continueDownward
  · exact (updateReset_low _ _ _ hcase).1.noReset
  · exact absurd hcase hphase
  · exact noReset_updateEmergencyQuickStop
  · exact noReset_updateFailed
  · exact h (.inr hcase)

theorem noReset_update (sample : Sample) (hactive : c.protocol.active)
    (hphase : c.protocol.phase ≠ .resetHigh)
    (h : c.protocol.phase ≠ .jtcDeactivating → c.data.NoReset cfg) :
    (c.update cfg sample now).data.NoReset cfg := by
  obtain ⟨hwords, hnext⟩ := checkRunning_cases cfg (c.refresh cfg sample) now
  have hrphase : (c.refresh cfg sample).protocol.phase = c.protocol.phase := rfl
  unfold update
  rw [if_pos hactive]
  refine noReset_written (noReset_updatePhase ?_ fun hcase => ?_)
  · rcases hnext with hnext | hnext
    · rw [hnext]
      exact hphase
    · rw [hnext]
      decide
  · unfold Data.NoReset
    rw [hwords]
    refine h fun hjtc => ?_
    rcases hnext with hnext | hnext
    · rw [hnext, hrphase, hjtc] at hcase
      revert hcase
      decide
    · rw [hnext] at hcase
      revert hcase
      decide

end Controller

end Words

section Kept

/-- Between two steps the reset bit stands only in `kResetHigh`, or in the phase that a late disable
call stores over it. -/
structure ResetWordsKept (cfg : Config) (c : Controller) : Prop where
  clear : c.protocol.phase ≠ .resetHigh → c.protocol.phase ≠ .jtcDeactivating → c.data.NoReset cfg
  inactive : c.protocol.active = false →
    (c.protocol.phase = .inactive ∨ c.protocol.phase = .jtcDeactivating) ∧ c.data.AllZero cfg

variable {c : Controller} {now : ℤ}

theorem ResetWordsKept.active_of_resetHigh (h : ResetWordsKept cfg c)
    (hphase : c.protocol.phase = .resetHigh) : c.protocol.active := by
  by_contra hinactive
  rcases (h.inactive (eq_false_of_ne_true hinactive)).1 with h' | h' <;>
    exact absurd (hphase.symm.trans h') (by decide)

theorem TickStep.enters_resetHigh {running stopped : Prop} {p q : Protocol}
    (h : TickStep cfg running stopped p q) (hq : q.phase = .resetHigh) :
    p.phase = .resetHigh ∨ p.phase = .resetLow := by
  cases h <;> simp_all

theorem resetWordsKept_update (sample : Sample) (hactive : c.protocol.active)
    (h : ResetWordsKept cfg c) : ResetWordsKept cfg (c.update cfg sample now) := by
  obtain ⟨q, hstep, hq⟩ := Controller.update_protocol cfg c now sample hactive
  refine ⟨fun hhigh _ => ?_, fun hinactive => ?_⟩
  · by_cases hphase : c.protocol.phase = .resetHigh
    · cases Controller.update_resetHigh cfg _ now sample hactive hphase with
      | pulse hpulse => exact absurd hpulse.phase hhigh
      | handled _ _ hzero => exact hzero.noReset
      | preempted _ _ hzero => exact hzero.noReset
      | timedOut _ hzero => exact hzero.noReset
    · exact Controller.noReset_update sample hactive hphase (h.clear hphase)
  · rw [hq] at hinactive
    exact absurd ((hstep.active.trans hactive).symm.trans hinactive) (by decide)

theorem resetWordsKept_access {w : World} (h : ResetWordsKept cfg w.controller) {a : Access}
    (ha : System.threadOwns a) : ResetWordsKept cfg (w.access cfg a).controller := by
  cases a with
  | storePhase phase =>
    obtain rfl := System.storePhase_of_threadOwns ha
    exact ⟨fun _ hjtc => absurd rfl hjtc, fun hinactive => ⟨.inr rfl, (h.inactive hinactive).2⟩⟩
  | _ => exact ⟨h.clear, h.inactive⟩

namespace System

theorem resetWordsKept_step (s : System) (l : Label) (h : ResetWordsKept cfg s.world.controller) :
    ResetWordsKept cfg (s.step cfg l).world.controller := by
  refine world_step (P := fun w => ResetWordsKept cfg w.controller) cfg s l h
    (fun sample now _ hactive => resetWordsKept_update sample hactive h)
    (fun a _ ha => resetWordsKept_access h ha)
    (fun sample _ => ?_) ?_
  · dsimp only
    unfold Controller.onActivate
    split
    · exact h
    · exact ⟨fun _ _ => Data.noReset_setControlWords s.data fun _ => by decide, nofun⟩
  · have hzero := Controller.allZero_setAllControlWords cfg s.data
    exact ⟨fun _ _ => hzero.noReset, fun _ => ⟨.inl rfl, hzero⟩⟩

theorem resetWordsKept_run (controllers : List ControllerState) (labels : List Label) :
    ResetWordsKept cfg (runFrom cfg (initial controllers) labels).world.controller := by
  have hzero : (initial controllers).world.controller.data.AllZero cfg := fun _ _ => rfl
  exact invariant_all (P := fun s : System => ResetWordsKept cfg s.world.controller)
    resetWordsKept_step ⟨fun _ _ => hzero.noReset, fun _ => ⟨.inl rfl, hzero⟩⟩ labels

end System

end Kept

namespace System

section Edges

/-- The latest zero on the axis was commanded in the running episode, and every tick since then has
commanded the reset. -/
def RisesInEpisode (cfg : Config) (s : System) (labels : List Label) (axis : ℕ) : Prop :=
  ∃ before sample now between, labels = before ++ .tick sample now :: between ∧
    ((runFrom cfg s before).protocol.phase = .resetLow ∨
      (runFrom cfg s before).protocol.phase = .resetHigh) ∧
    (runFrom cfg s (before ++ [.tick sample now])).data.controlWords axis = 0x0000 ∧
    (∀ since rest, between = since ++ rest →
      (runFrom cfg s (before ++ .tick sample now :: since)).protocol.phase = .resetHigh) ∧
    ∀ since sample' now' rest, between = since ++ .tick sample' now' :: rest →
      (runFrom cfg s
        (before ++ .tick sample now :: (since ++ [.tick sample' now']))).data.controlWords axis =
          0x0080

variable {s : System} {labels : List Label} {axis : ℕ}

theorem RisesInEpisode.of_zero {sample : Sample} {now : ℤ}
    (hphase : (runFrom cfg s labels).protocol.phase = .resetLow ∨
      (runFrom cfg s labels).protocol.phase = .resetHigh)
    (hnext : (runFrom cfg s (labels ++ [.tick sample now])).protocol.phase = .resetHigh)
    (hzero : (runFrom cfg s (labels ++ [.tick sample now])).data.controlWords axis = 0x0000) :
    RisesInEpisode cfg s (labels ++ [.tick sample now]) axis := by
  refine ⟨labels, sample, now, [], rfl, hphase, hzero, fun since rest heq => ?_,
    fun since sample' now' rest heq => ?_⟩
  · rw [(List.append_eq_nil_iff.1 heq.symm).1]
    exact hnext
  · simp at heq

theorem RisesInEpisode.extend (h : RisesInEpisode cfg s labels axis) {l : Label}
    (hnext : (runFrom cfg s (labels ++ [l])).protocol.phase = .resetHigh)
    (hreset : ∀ sample now, l = .tick sample now →
      (runFrom cfg s (labels ++ [l])).data.controlWords axis = 0x0080) :
    RisesInEpisode cfg s (labels ++ [l]) axis := by
  obtain ⟨before, sample, now, between, rfl, hphase, hzero, hsince, hticks⟩ := h
  have hassoc : before ++ .tick sample now :: between ++ [l] =
      before ++ .tick sample now :: (between ++ [l]) := by simp
  rw [hassoc] at hnext hreset ⊢
  refine ⟨before, sample, now, between ++ [l], rfl, hphase, hzero, fun since rest heq => ?_,
    fun since sample' now' rest heq => ?_⟩
  · rcases rest.eq_nil_or_concat with rfl | ⟨rest, last, rfl⟩
    · rw [List.append_nil] at heq
      rw [← heq]
      exact hnext
    · rw [List.concat_eq_append, ← List.append_assoc] at heq
      exact hsince since rest (List.append_inj' heq rfl).1
  · rcases rest.eq_nil_or_concat with rfl | ⟨rest, last, rfl⟩
    · obtain ⟨hbetween, hlast⟩ := List.append_inj' heq rfl
      rw [← hbetween, ← hlast]
      exact hreset sample' now' (List.singleton_inj.1 hlast)
    · rw [List.concat_eq_append, ← List.cons_append, ← List.append_assoc] at heq
      exact hticks since sample' now' rest (List.append_inj' heq rfl).1

theorem risesInEpisode_of_resetHigh (controllers : List ControllerState) (labels : List Label)
    (haxis : axis < cfg.axisCount)
    (h : (runFrom cfg (initial controllers) labels).protocol.phase = .resetHigh) :
    RisesInEpisode cfg (initial controllers) labels axis := by
  induction labels using List.reverseRecOn with
  | nil => cases h
  | append_singleton labels l ih =>
    set s := runFrom cfg (initial controllers) labels with hs
    have hnext : (s.step cfg l).protocol.phase = .resetHigh := by
      rw [← h, hs, runFrom, runFrom, run_snoc]
    have hkept : ResetWordsKept cfg s.world.controller := resetWordsKept_run controllers labels
    have hdata :
        (runFrom cfg (initial controllers) (labels ++ [l])).data = (s.step cfg l).data := by
      rw [hs, runFrom, runFrom, run_snoc]
    by_cases hbefore : s.protocol.phase = .resetHigh
    · cases l with
      | tick sample now =>
        have hactive := hkept.active_of_resetHigh hbefore
        cases Controller.update_resetHigh cfg _ now sample hactive hbefore with
        | pulse hpulse =>
          have hword := hpulse.words axis haxis
          split at hword
          · refine (ih hbefore).extend h fun sample' now' _ => ?_
            rw [hdata]
            exact hword
          · refine .of_zero (.inr hbefore) h ?_
            rw [hdata]
            exact hword
        | handled hphase | preempted hphase | timedOut hphase =>
          exact absurd (hphase.symm.trans hnext) (by decide)
      | _ => exact (ih hbefore).extend h nofun
    · obtain ⟨sample, now, rfl, hactive, hupdate⟩ :=
        exists_tick_of_entry (P := (· = .resetHigh)) cfg ⟨by decide, by decide, by decide⟩ hbefore
          hnext
      obtain ⟨q, hstep, hq⟩ :=
        Controller.update_protocol cfg s.world.controller now sample hactive
      have hlow : s.protocol.phase = .resetLow := by
        rw [hq, Protocol.phase_writeDriveModes] at hupdate
        exact (hstep.enters_resetHigh hupdate).resolve_left hbefore
      refine .of_zero (.inl hlow) h ?_
      rw [hdata]
      exact (Controller.update_resetLow _ _ _ sample hactive hlow).1 axis haxis

/-- The edges of the fault reset after a run: what the next tick commands, and how a step leaves the
episode. -/
structure ResetEdges (cfg : Config) (s : System) (labels : List Label) : Prop where
  commanded : ∀ sample now axis, axis < cfg.axisCount →
    let c := (runFrom cfg s labels).world.controller
    let next := c.update cfg sample now
    next.data.controlWords axis = 0x0080 → c.protocol.phase = .resetHigh ∧
      next.protocol.phase = .resetHigh ∧ c.data.resetTargets axis ∧
      (c.refresh cfg sample).data.state axis = .fault ∧ RisesInEpisode cfg s labels axis
  handled : ∀ l, ((runFrom cfg s labels).step cfg l).protocol.phase = .resetDisabling →
    (runFrom cfg s labels).protocol.phase ≠ .resetDisabling → ∃ sample now, l = .tick sample now ∧
      (runFrom cfg s labels).protocol.phase = .resetHigh ∧
      ((runFrom cfg s labels).world.controller.refresh cfg sample).data.resetsHandled cfg
  left : ∀ sample now,
    let c := (runFrom cfg s labels).world.controller
    let next := c.update cfg sample now
    c.protocol.phase = .resetLow ∨ c.protocol.phase = .resetHigh →
      next.protocol.phase = .resetHigh ∨ next.data.AllZero cfg ∧
        (next.protocol.phase = .resetDisabling ∨
          next.protocol.phase = .failed ∧
            (∃ result, result.ok = false ∧ c.protocol.publishes next.protocol .reset result) ∨
          next.protocol.phase = .disabling ∧ c.protocol.disableRequest ∧
            c.protocol.publishes next.protocol .reset (.immediate false .preemptedByDisable))

/-- In every run the reset bit is commanded only in `kResetHigh`, to reset targets that are sampled
in Fault, each stretch of it after a zero of the same episode; the episode ends in its disabling
sequence after a tick with every reset handled, or fails with zero commanded to every axis. -/
theorem reset_edges (cfg : Config) (controllers : List ControllerState) (labels : List Label) :
    ResetEdges cfg (initial controllers) labels := by
  have hkept : ResetWordsKept cfg (runFrom cfg (initial controllers) labels).world.controller :=
    resetWordsKept_run controllers labels
  constructor
  case commanded =>
    intro sample now axis haxis c next hword
    by_cases hactive : c.protocol.active
    · by_cases hphase : c.protocol.phase = .resetHigh
      · have hrises := risesInEpisode_of_resetHigh controllers labels haxis hphase
        have hzero : ∀ h : next.data.AllZero cfg, False := fun h =>
          absurd ((h axis haxis).symm.trans hword) (by decide)
        cases Controller.update_resetHigh cfg _ now sample hactive hphase with
        | pulse hpulse =>
          have htarget := (hpulse.words axis haxis).symm.trans hword
          split at htarget
          · rename_i hcommand
            obtain ⟨htargets, hfault⟩ := Bool.and_eq_true_iff.1 hcommand
            exact ⟨hphase, hpulse.phase, htargets, of_decide_eq_true hfault, hrises⟩
          · cases htarget
        | handled _ _ h => exact (hzero h).elim
        | preempted _ _ h => exact (hzero h).elim
        | timedOut _ h => exact (hzero h).elim
      · exact absurd hword
          (Controller.noReset_update sample hactive hphase (hkept.clear hphase) axis haxis)
    · have hnext : next = c :=
        Controller.update_of_inactive cfg c now sample (eq_false_of_ne_true hactive)
      rw [hnext] at hword
      exact absurd (((hkept.inactive (eq_false_of_ne_true hactive)).2 axis haxis).symm.trans hword)
        (by decide)
  case handled =>
    intro l hentry hbefore
    obtain ⟨sample, now, rfl, hactive, hupdate⟩ :=
      exists_tick_of_entry (P := (· = .resetDisabling)) cfg ⟨by decide, by decide, by decide⟩
        hbefore hentry
    obtain ⟨q, hstep, hq⟩ := Controller.update_protocol cfg _ now sample hactive
    refine ⟨sample, now, rfl, ?_, update_resetsHandled sample hactive hupdate hbefore⟩
    rw [hq, Protocol.phase_writeDriveModes] at hupdate
    exact (hstep.enters_resetDisabling hupdate).resolve_left hbefore
  case left =>
    rintro sample now c next (hlow | hhigh)
    · by_cases hactive : c.protocol.active
      · obtain ⟨hzero, hnext | hnext⟩ :=
          Controller.update_resetLow cfg _ now sample hactive hlow
        · exact .inl hnext
        · exact .inr ⟨hzero, .inr (.inr hnext)⟩
      · rcases (hkept.inactive (eq_false_of_ne_true hactive)).1 with h | h <;>
          exact absurd (hlow.symm.trans h) (by decide)
    · have hactive := hkept.active_of_resetHigh hhigh
      cases Controller.update_resetHigh cfg _ now sample hactive hhigh with
      | pulse hpulse => exact .inl hpulse.phase
      | handled hphase _ hzero => exact .inr ⟨hzero, .inl hphase⟩
      | preempted hphase hrequest hzero hresult =>
        exact .inr ⟨hzero, .inr (.inr ⟨hphase, hrequest, hresult⟩)⟩
      | timedOut hphase hzero hresult => exact .inr ⟨hzero, .inr (.inl ⟨hphase, hresult⟩)⟩

/-- A reset of the faulted chassis drive up to the first tick that commands the reset. -/
def chassisReset : List Label :=
  startUp ++ [.tick .faulted 4] ++ List.replicate 6 (.reset {}) ++
    [.tick .faulted 5, .tick .faulted 6, .tick .faulted 7]

/-- The reset bit is held while the drive stays in Fault. -/
theorem reset_held : ¬∀ (cfg : Config) (controllers : List ControllerState) (labels : List Label)
    (sample : Sample) (now : ℤ) (axis : ℕ), axis < cfg.axisCount →
      let c := (runFrom cfg (initial controllers) labels).world.controller
      (c.update cfg sample now).data.controlWords axis = 0x0080 →
        c.data.controlWords axis = 0x0000 := by
  intro h
  exact absurd (h chassis chassisControllers chassisReset .faulted 8 0 (by decide)
    (by decide +kernel)) (by decide +kernel)

end Edges

end System

end RobotDriver.EnableManager
