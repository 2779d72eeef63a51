import RobotDriver.EnableManager.SuccessSoundness

/-!
# Batch isolation

The control words of the enable sequence. The batch loop and the device stage command an axis only
when its batch has been reached; the inter-batch delay looks at the state of an axis alone.
-/

namespace RobotDriver.EnableManager

open LabelledRun

section Commands

variable (cfg : Config)

/-- The axis belongs to a batch up to the current one. -/
def Data.reached (d : Data) (axis : ℕ) : Prop :=
  ∃ b ≤ d.currentBatch, axis ∈ cfg.enableBatches.getD b []

/-- The control words after an update that started in phase `before` with batch index `finished`. -/
structure BatchIsolated (before : Phase) (finished : ℕ) (d : Data) : Prop where
  later : ∀ axis < cfg.axisCount, ¬d.reached cfg axis →
    (before = .interBatchDelay → d.state axis ≠ .operationEnabled) → d.controlWords axis = 0x0000
  operation : before ≠ .interBatchDelay → ∀ axis < cfg.axisCount, d.controlWords axis = 0x000F →
    d.reached cfg axis ∧ (d.modeIsConfirmed cfg axis ∨ d.modePending cfg axis)
  delay : before = .interBatchDelay → ∀ axis < cfg.axisCount, d.controlWords axis = 0x000F →
    d.state axis = .operationEnabled ∧
      ∀ b ≤ finished, axis ∈ cfg.enableBatches.getD b [] → d.modeIsConfirmed cfg axis

/-- The device stage comes after the last batch. -/
def Data.DeviceLast (d : Data) : Prop :=
  d.deviceStage → ∀ b < cfg.enableBatches.length, b ≤ d.currentBatch

def DeviceLast (c : Controller) : Prop :=
  enablePhase c.protocol.phase → c.data.DeviceLast cfg

structure EnableCommands (before : Phase) (finished : ℕ) (c : Controller) : Prop where
  isolated : enablePhase c.protocol.phase → BatchIsolated cfg before finished c.data
  device : DeviceLast cfg c

variable {cfg} {before : Phase} {finished : ℕ} {c : Controller} {now : ℤ}

theorem EnableCommands.of_phase (h : enablePhase c.protocol.phase = false) :
    EnableCommands cfg before finished c :=
  ⟨fun henable => absurd henable (ne_true_of_eq_false h),
    fun henable => absurd henable (ne_true_of_eq_false h)⟩

theorem enableCommands_failEnable (stage : Stage) (axis : Option ℕ) :
    EnableCommands cfg before finished (c.failEnable cfg stage axis now) := by
  obtain ⟨result, -, hq⟩ := c.failEnable_fails cfg now stage axis
  refine .of_phase ?_
  rw [hq]
  split <;> rfl

theorem enableCommands_preemptEnable :
    EnableCommands cfg before finished (c.preemptEnable cfg now) :=
  .of_phase rfl

theorem BatchIsolated.of_zero {d : Data}
    (h : ∀ axis < cfg.axisCount, d.controlWords axis = 0x0000) :
    BatchIsolated cfg before finished d :=
  have hword : ∀ axis < cfg.axisCount, d.controlWords axis ≠ 0x000F := fun axis haxis heq =>
    absurd ((h axis haxis).symm.trans heq) (by decide)
  ⟨fun axis haxis _ _ => h axis haxis, fun _ axis haxis heq => absurd heq (hword axis haxis),
    fun _ axis haxis heq => absurd heq (hword axis haxis)⟩

theorem Data.reached_of_isPrevious {d : Data} {axis : ℕ} (h : d.isPrevious cfg axis) :
    ∃ b < d.currentBatch, axis ∈ cfg.enableBatches.getD b [] := by
  simp only [isPrevious, Bool.and_eq_true, List.any_eq_true, decide_eq_true_eq] at h
  obtain ⟨-, batch, hbatch, haxis⟩ := h
  obtain ⟨b, hb, rfl⟩ := List.mem_take_iff_getElem.1 hbatch
  refine ⟨b, by omega, ?_⟩
  rwa [List.getD_eq_getElem _ _ (by omega)]

theorem Data.enableStep_command_later {d : Data} {axis : ℕ} (h : ¬d.reached cfg axis) :
    (d.enableStep cfg axis).command = 0x0000 := by
  have hprevious : ¬d.isPrevious cfg axis := fun hprevious => by
    obtain ⟨b, hb, haxis⟩ := d.reached_of_isPrevious hprevious
    exact h ⟨b, hb.le, haxis⟩
  have hcurrent : ¬d.isCurrent cfg axis := fun hcurrent =>
    h ⟨d.currentBatch, le_rfl, of_decide_eq_true hcurrent⟩
  unfold enableStep
  rw [if_neg hprevious, if_neg hcurrent]

theorem Data.enableStep_command_operation {d : Data} {axis : ℕ}
    (h : (d.enableStep cfg axis).command = 0x000F) :
    d.isPrevious cfg axis ∨
      d.isCurrent cfg axis ∧ (d.modeIsConfirmed cfg axis ∨ d.modePending cfg axis) := by
  by_cases hprevious : d.isPrevious cfg axis
  · exact .inl hprevious
  · refine .inr ?_
    unfold enableStep at h
    rw [if_neg hprevious] at h
    by_cases hcurrent : d.isCurrent cfg axis
    · rw [if_pos hcurrent] at h
      refine ⟨hcurrent, ?_⟩
      by_contra hmode
      obtain ⟨hconfirmed, hpending⟩ := not_or.1 hmode
      have hmodes : cfg.expectedModes ≠ [] := by
        intro hnone
        exact hconfirmed (by simp [modeIsConfirmed, hnone])
      rw [if_pos ⟨hmodes, by simpa using hconfirmed, by simpa using hpending⟩] at h
      exact absurd h (by decide)
    · rw [if_neg hcurrent] at h
      exact absurd h (by decide)

theorem isolated_enableStep (hbefore : before ≠ .interBatchDelay) {d e : Data} {phase : Phase}
    (hmarks : Marks cfg phase d) (hconfirmed : d.confirmedViolation cfg = none)
    (hwords : ∀ axis < cfg.axisCount, e.controlWords axis = (d.enableStep cfg axis).command)
    (hbatch : e.currentBatch = d.currentBatch) (hmodes : e.actualModes = d.actualModes) :
    BatchIsolated cfg before finished e := by
  have hreached : ∀ axis, e.reached cfg axis ↔ d.reached cfg axis := by
    intro axis
    simp only [Data.reached, hbatch]
  refine ⟨fun axis haxis hlater _ => ?_, fun _ axis haxis hword => ?_,
    fun h => absurd h hbefore⟩
  · rw [hwords axis haxis]
    exact d.enableStep_command_later ((hreached axis).not.1 hlater)
  · rw [hwords axis haxis] at hword
    rw [hreached]
    simp only [Data.modeIsConfirmed, Data.modePending, hmodes]
    rcases d.enableStep_command_operation hword with hprevious | ⟨hcurrent, hmode⟩
    · obtain ⟨b, hb, hmem⟩ := d.reached_of_isPrevious hprevious
      refine ⟨⟨b, hb.le, hmem⟩, .inl ?_⟩
      exact (confirmed_of_marked hconfirmed haxis (hmarks.previous b hb axis hmem)).1
    · exact ⟨⟨d.currentBatch, le_rfl, of_decide_eq_true hcurrent⟩, hmode⟩

theorem enableCommands_updateDeviceEnable (hbefore : before ≠ .interBatchDelay)
    (hmarks : Marks cfg .enabling c.data) (hstage : c.data.deviceStage)
    (hlast : c.data.DeviceLast cfg) (hconfirmed : c.data.confirmedViolation cfg = none) :
    EnableCommands cfg before finished (c.updateDeviceEnable cfg now) := by
  unfold Controller.updateDeviceEnable
  split
  · exact enableCommands_failEnable _ _
  · dsimp only
    split
    · exact enableCommands_preemptEnable
    · split
      · exact .of_phase rfl
      · split
        · exact enableCommands_failEnable _ _
        · refine ⟨fun _ => ⟨fun axis haxis hlater _ => ?_, fun _ axis haxis _ => ⟨?_, .inl ?_⟩,
            fun h => absurd h hbefore⟩, fun _ => hlast⟩
          · obtain ⟨b, hb, hmem⟩ := exists_batch haxis
            exact absurd ⟨b, hlast hstage b hb, hmem⟩ hlater
          · obtain ⟨b, hb, hmem⟩ := exists_batch haxis
            exact ⟨b, hlast hstage b hb, hmem⟩
          · exact (confirmed_of_marked hconfirmed haxis (hmarks.device hstage axis haxis)).1

theorem enableCommands_updateBatch (hbefore : before ≠ .interBatchDelay)
    (hmarks : Marks cfg .enabling c.data) (hstage : c.data.deviceStage = false)
    (hconfirmed : c.data.confirmedViolation cfg = none) :
    EnableCommands cfg before finished (c.updateBatch cfg now) := by
  have hnot : ∀ P : Prop, c.data.deviceStage → P := fun P h =>
    absurd h (ne_true_of_eq_false hstage)
  unfold Controller.updateBatch
  dsimp only
  split
  · exact enableCommands_failEnable _ _
  · split
    · exact enableCommands_failEnable _ _
    · split
      · unfold Controller.completeBatch
        split
        · exact enableCommands_preemptEnable
        · split
          · rename_i hlast
            refine ⟨fun _ => ?_, fun _ _ b hb => ?_⟩
            · exact isolated_enableStep hbefore hmarks hconfirmed
                (fun axis haxis => if_pos haxis) rfl rfl
            · have hle : c.data.currentBatch + 1 = cfg.enableBatches.length := hlast.1
              change b ≤ c.data.currentBatch
              omega
          · split
            · exact .of_phase rfl
            · refine ⟨fun _ => ?_, fun _ => hnot _⟩
              exact isolated_enableStep hbefore hmarks hconfirmed
                (fun axis haxis => if_pos haxis) rfl rfl
      · split
        · exact enableCommands_failEnable _ _
        · refine ⟨fun _ => ?_, fun _ => hnot _⟩
          exact isolated_enableStep hbefore hmarks hconfirmed (fun axis haxis => if_pos haxis) rfl rfl

theorem enableCommands_updateInterBatchDelay
    (hmarks : Marks cfg .interBatchDelay c.data) (hlast : c.data.DeviceLast cfg)
    (hconfirmed : c.data.confirmedViolation cfg = none) :
    EnableCommands cfg .interBatchDelay c.data.currentBatch (c.updateInterBatchDelay cfg now) := by
  have hisolated : ∀ e : Data,
      (∀ axis < cfg.axisCount, e.controlWords axis =
        if c.data.state axis = .operationEnabled then 0x000F else 0x0000) →
      e.statusWords = c.data.statusWords → e.actualModes = c.data.actualModes →
      BatchIsolated cfg .interBatchDelay c.data.currentBatch e := by
    intro e hwords hstatus hmodes
    refine ⟨fun axis haxis _ hstate => ?_, fun h => absurd rfl h, fun _ axis haxis hword => ?_⟩
    · rw [hwords axis haxis]
      have hne := hstate rfl
      simp only [Data.state, hstatus] at hne
      exact if_neg hne
    · rw [hwords axis haxis] at hword
      have hstate : c.data.state axis = .operationEnabled := by
        by_contra hne
        rw [if_neg hne] at hword
        exact absurd hword (by decide)
      refine ⟨by simpa only [Data.state, hstatus] using hstate, fun b hb hmem => ?_⟩
      have hmarked : c.data.marked cfg axis := by
        rcases Nat.lt_or_eq_of_le hb with hlt | rfl
        · exact hmarks.previous b hlt axis hmem
        · exact hmarks.current rfl axis hmem
      have hmode := (confirmed_of_marked hconfirmed haxis hmarked).1
      simpa only [Data.modeIsConfirmed, hmodes] using hmode
  unfold Controller.updateInterBatchDelay
  dsimp only
  split
  · exact enableCommands_preemptEnable
  · split
    · refine ⟨fun _ => hisolated _ (fun axis haxis => if_pos haxis) rfl rfl, fun _ hstage b hb => ?_⟩
      exact (hlast hstage b hb).trans (Nat.le_succ _)
    · exact ⟨fun _ => hisolated _ (fun axis haxis => if_pos haxis) rfl rfl, fun _ => hlast⟩

theorem enableCommands_updateEnableStage (hphase : enablePhase c.protocol.phase)
    (hmarks : Marks cfg c.protocol.phase c.data) (hlast : c.data.DeviceLast cfg)
    (hconfirmed : c.data.confirmedViolation cfg = none) :
    EnableCommands cfg c.protocol.phase c.data.currentBatch (c.updateEnableStage cfg now) := by
  unfold Controller.updateEnableStage
  split
  · rename_i hdelay
    rw [hdelay] at hmarks ⊢
    exact enableCommands_updateInterBatchDelay hmarks hlast hconfirmed
  · rename_i hdelay
    have henabling : c.protocol.phase = .enabling := by
      simpa [enablePhase, hdelay] using hphase
    rw [henabling] at hmarks
    split
    · rename_i hstage
      exact enableCommands_updateDeviceEnable hdelay hmarks hstage hlast hconfirmed
    · rename_i hstage
      exact enableCommands_updateBatch hdelay hmarks (eq_false_of_ne_true hstage) hconfirmed

variable (cfg) in
theorem qualifySources_currentBatch (now : ℤ) (d : Data) :
    (d.qualifySources cfg now).currentBatch = d.currentBatch ∧
      (d.qualifySources cfg now).deviceStage = d.deviceStage := by
  unfold Data.qualifySources
  dsimp only
  repeat' split
  all_goals exact ⟨rfl, rfl⟩

theorem enableCommands_updateReadySources (hphase : enablePhase c.protocol.phase)
    (hmarks : Marks cfg c.protocol.phase c.data) (hlast : c.data.DeviceLast cfg)
    (hconfirmed : c.data.confirmedViolation cfg = none) :
    EnableCommands cfg c.protocol.phase c.data.currentBatch (c.updateReadySources cfg now) := by
  unfold Controller.updateReadySources
  split
  · exact enableCommands_updateEnableStage hphase hmarks hlast hconfirmed
  · split
    · exact enableCommands_failEnable _ _
    · obtain ⟨hmarks', hconfirmed', -⟩ := qualifySources_keeps now c.data hconfirmed hmarks
      obtain ⟨hbatch, hstage⟩ := qualifySources_currentBatch cfg now c.data
      have hlast' : (c.data.qualifySources cfg now).DeviceLast cfg := by
        unfold Data.DeviceLast
        rw [hbatch, hstage]
        exact hlast
      dsimp only
      split
      · have h : ∀ r : Controller, r = c.onData (·.qualifySources cfg now) →
            EnableCommands cfg r.protocol.phase r.data.currentBatch (r.updateEnableStage cfg now) := by
          rintro r rfl
          exact enableCommands_updateEnableStage hphase hmarks' hlast' hconfirmed'
        have hstage' := h _ rfl
        rwa [Controller.onData_data, hbatch] at hstage'
      · split
        · exact enableCommands_failEnable _ _
        · exact ⟨fun _ => .of_zero fun axis haxis => if_pos haxis, fun _ => hlast'⟩

theorem enableCommands_updateEnable (hphase : enablePhase c.protocol.phase)
    (hmarks : Marks cfg c.protocol.phase c.data) (hlast : c.data.DeviceLast cfg) :
    EnableCommands cfg c.protocol.phase c.data.currentBatch (c.updateEnable cfg now) := by
  have hphase' : c.notePreemption.protocol.phase = c.protocol.phase := by
    rw [Controller.notePreemption_protocol]
  have hdata' : c.notePreemption.data = c.data := Controller.notePreemption_data c
  unfold Controller.updateEnable
  dsimp only
  split
  · obtain ⟨next, hnext, hq⟩ := Controller.updateEmergencyQuickStop_protocol cfg
      ((c.notePreemption.onProtocol ({ · with disableRequest := false })).startEmergency cfg
        .faultDetected _ _ now) now
    rw [Controller.startEmergency_protocol] at hnext hq
    refine .of_phase ?_
    rw [hq]
    rcases hnext with rfl | rfl <;> rfl
  · split
    · exact enableCommands_failEnable _ _
    · rename_i hconfirmed
      have h : EnableCommands cfg c.notePreemption.protocol.phase c.notePreemption.data.currentBatch
          (c.notePreemption.updateReadySources cfg now) :=
        enableCommands_updateReadySources (by rw [hphase']; exact hphase)
          (by rw [hphase', hdata']; exact hmarks) (by rw [hdata']; exact hlast) hconfirmed
      rwa [hphase', hdata'] at h

theorem enableCommands_startEnable :
    EnableCommands cfg before finished ((c.commandDisabled cfg).startEnable cfg now) := by
  refine ⟨fun _ => .of_zero fun axis haxis => if_pos haxis, fun _ hstage b hb => ?_⟩
  have hnone : cfg.enableBatches = [] := of_decide_eq_true hstage
  rw [hnone] at hb
  exact absurd hb (Nat.not_lt_zero b)

theorem enableCommands_updateIdle (hphase : c.protocol.phase = .idle) :
    EnableCommands cfg before finished (c.updateIdle cfg now) := by
  have hidle : enablePhase c.protocol.phase = false := by
    rw [hphase]
    rfl
  unfold Controller.updateIdle
  dsimp only
  split
  · unfold Controller.rejectIfOffline
    dsimp only
    split
    · exact .of_phase hidle
    · have h : EnableCommands cfg before finished ((c.commandDisabled cfg).startEnable cfg now) :=
        enableCommands_startEnable
      refine ⟨fun henable => ?_, fun henable => h.device henable⟩
      obtain ⟨hlater, hoperation, hdelay⟩ := h.isolated henable
      exact ⟨hlater, hoperation, hdelay⟩
  · refine .of_phase ?_
    split
    · unfold Controller.rejectIfOffline Controller.resetFromIdle
      dsimp only
      repeat' split
      all_goals first | exact hidle | rfl
    · split <;> exact hidle

theorem enableCommands_writes (h : EnableCommands cfg before finished c) :
    EnableCommands cfg before finished ((c.onData (·.writeDevices)).writeDriveModes cfg) := by
  have hphase : ((c.onData (·.writeDevices)).writeDriveModes cfg).protocol.phase =
      c.protocol.phase := by
    rw [Controller.writeDriveModes_protocol, Protocol.phase_writeDriveModes]
    rfl
  refine ⟨fun henable => ?_, fun henable => ?_⟩
  · obtain ⟨hlater, hoperation, hdelay⟩ := h.isolated (hphase ▸ henable)
    unfold Controller.writeDriveModes Controller.clearDriveCsp
    split
    · exact ⟨hlater, hoperation, hdelay⟩
    · split <;> exact ⟨hlater, hoperation, hdelay⟩
  · have hlast := h.device (hphase ▸ henable)
    unfold Controller.writeDriveModes Controller.clearDriveCsp
    split
    · exact hlast
    · split <;> exact hlast

theorem update_enableCommands (sample : Sample) (hactive : c.protocol.active)
    (hmarks : EnableMarks cfg c) (hlast : DeviceLast cfg c) :
    EnableCommands cfg c.protocol.phase c.data.currentBatch (c.update cfg sample now) := by
  obtain ⟨q, hstep, hq⟩ := Controller.update_protocol cfg c now sample hactive
  have hphase : (c.update cfg sample now).protocol.phase = q.phase := by
    rw [hq, Protocol.phase_writeDriveModes]
  by_cases henable : enablePhase c.protocol.phase
  · rw [update_of_enablePhase sample hactive henable]
    have hkept := hmarks henable
    exact enableCommands_writes (enableCommands_updateEnable (c := c.refresh cfg sample) henable
      ⟨hkept.previous, hkept.current, hkept.device⟩ (hlast henable))
  · by_cases hidle : c.protocol.phase = .idle
    · rw [update_of_idle sample hactive hidle]
      exact enableCommands_writes (enableCommands_updateIdle hidle)
    · refine .of_phase ?_
      rw [hphase]
      exact (hstep.phase_of_ne_idle hidle (eq_false_of_ne_true henable)).1

end Commands

namespace System

variable {cfg : Config}

theorem deviceLast_access {w : World} (h : DeviceLast cfg w.controller) {a : Access}
    (ha : threadOwns a) : DeviceLast cfg (w.access cfg a).controller := by
  cases a with
  | storePhase phase =>
    intro henable
    rw [World.access, storePhase_of_threadOwns ha] at henable
    cases henable
  | recordDeactivateFailure => exact fun henable => h henable
  | _ => exact h

theorem deviceLast_step (s : System) (l : Label)
    (h : EnableMarks cfg s.world.controller ∧ DeviceLast cfg s.world.controller) :
    EnableMarks cfg (s.step cfg l).world.controller ∧
      DeviceLast cfg (s.step cfg l).world.controller := by
  refine ⟨enableMarks_step s l h.1, world_step (P := fun w => DeviceLast cfg w.controller) cfg s l h.2
    (fun sample now _ hactive => (update_enableCommands sample hactive h.1 h.2).device)
    (fun a _ ha => deviceLast_access h.2 ha) (fun sample hactivated henable => ?_)
    nofun⟩
  rw [hactivated] at henable
  cases henable

/-- An update of an active controller that ends in the enable sequence keeps the batches apart. -/
def KeepsBatches (cfg : Config) (s : System) : Label → Prop
  | .tick sample now =>
    s.protocol.active → enablePhase (s.step cfg (.tick sample now)).protocol.phase →
      BatchIsolated cfg s.protocol.phase s.data.currentBatch (s.step cfg (.tick sample now)).data
  | _ => True

/-- In every run, an update that ends in the enable sequence commands nothing to an axis of a later
batch, unless it is in the inter-batch delay and the axis reports OperationEnabled; outside the
delay it commands Enable Operation only up to the current batch and to a confirmed or still pending
mode, and in the delay only to enabled axes, those of the finished batches in their mode. -/
theorem batches_isolated (cfg : Config) (controllers : List ControllerState) (labels : List Label) :
    Along (step cfg) (KeepsBatches cfg) (initial controllers) labels := by
  rw [along_iff_split]
  intro before l after _
  have hinitial : DeviceLast cfg (initial controllers).world.controller := fun henable =>
    nomatch henable
  have h : EnableMarks cfg (runFrom cfg (initial controllers) before).world.controller ∧
      DeviceLast cfg (runFrom cfg (initial controllers) before).world.controller :=
    invariant_all (P := fun s : System =>
        EnableMarks cfg s.world.controller ∧ DeviceLast cfg s.world.controller)
      deviceLast_step ⟨enableMarks_of_phase rfl, hinitial⟩ before
  cases l with
  | tick sample now =>
    exact fun hactive henable => (update_enableCommands sample hactive h.1 h.2).isolated henable
  | _ => trivial

end System

section LaterBatch

/-- Two drives in two batches, both expected in one mode. -/
def cart : Config :=
  { chassis with
    axisCount := 2
    enableBatches := [[0], [1]]
    expectedModes := [9, 9]
    offlineSourceCount := 0
    defaultMotionController := "cart_controller"
    trajectoryMotionController := ""
    modeSwitchAxes := []
    batch_nonempty := by decide
    batch_axes axis := by
      simp only [List.mem_cons, List.not_mem_nil, or_false, exists_eq_or_imp, exists_eq_left]
      omega
    expectedModes_length := .inr rfl
    expectedModes_fixed := by decide
    expectedModes_rolling := .inr rfl
    motion_or_enableOnly := .inl (by decide)
    one_alternate := Config.no_alternate
    controllers_nodup := by decide
    modeSwitch_configured h := absurd rfl h
    modeSwitch_axes := by decide }

/-- The status words of the two drives, with the mode each reports. -/
def Sample.ofCart (first firstMode second secondMode : ℚ) : Sample where
  statusWord axis := some (if axis = 0 then first else second)
  mode axis := some (if axis = 0 then firstMode else secondMode)
  offlineSource _ := none
  readyState _ := none
  device _ := ⟨none, none, none, none⟩

/-- The cart up to the start of its enable, both drives disabled. -/
def enableCart : List Label :=
  [.activate (.ofCart 0x0040 9 0x0040 9), .tick (.ofCart 0x0040 9 0x0040 9) 1,
    .tick (.ofCart 0x0040 9 0x0040 9) 2, .tick (.ofCart 0x0040 9 0x0040 9) 3] ++
    List.replicate 8 (.enable {}) ++ [.tick (.ofCart 0x0040 9 0x0040 9) 4]

/-- In the inter-batch delay the drive of the later batch reports OperationEnabled and is commanded
Enable Operation; and a drive of the first batch is commanded it while its mode reads 0. -/
theorem System.later_batch_commanded :
    let delay := System.runFrom cart (.initial []) (enableCart ++
      [.tick (.ofCart 0x0027 9 0x0040 9) 5, .tick (.ofCart 0x0027 9 0x0027 9) 6])
    let pending := System.runFrom cart (.initial [])
      (enableCart ++ [.tick (.ofCart 0x0023 0 0x0040 9) 5])
    (delay.protocol.phase = .interBatchDelay ∧ delay.data.currentBatch = 0 ∧
      1 ∈ cart.enableBatches.getD 1 [] ∧ delay.data.controlWords 1 = 0x000F) ∧
    pending.protocol.phase = .enabling ∧ pending.data.controlWords 0 = 0x000F ∧
      pending.data.modeIsConfirmed cart 0 = false ∧ pending.data.modeConfirmed 0 = false := by
  decide +kernel

end LaterBatch

end RobotDriver.EnableManager
