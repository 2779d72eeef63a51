import Mathlib.Data.List.GetD
import RobotDriver.EnableManager.System

/-!
# Successful results

A success is published only on a sample that shows what it reports. For the activation this needs
an invariant over the enable sequence: while it runs, every axis of an earlier batch carries its
confirmation mark, and in the device stage every axis does; a marked axis that lost its state or
mode fails the enable in the same tick.
-/

namespace RobotDriver.EnableManager

open LabelledRun

variable (cfg : Config)

namespace Data

variable (d : Data)

/-- Every axis enabled in its expected mode. -/
def operational : Prop :=
  ∀ axis < cfg.axisCount, d.state axis = .operationEnabled ∧ d.modeIsConfirmed cfg axis

/-- No source offline, every axis enabled in a mode it may run in, every device enabled. -/
def energised : Prop :=
  d.offlineNow = none ∧
  (∀ axis < cfg.axisCount, d.state axis = .operationEnabled ∧ d.runningModeConfirmed cfg axis) ∧
  ∀ device < cfg.deviceCount, (d.devices device).enabled

/-- Every axis in its disabled terminal state, every device disabled, nothing faulted. -/
def deenergised : Prop :=
  (∀ axis < cfg.axisCount, d.terminal cfg axis ∧ isFaultState (d.state axis) = false) ∧
  ∀ device < cfg.deviceCount, (d.devices device).disabled ∧ (d.devices device).faulted = false

/-- Every device disabled after handling its reset, no axis faulted. -/
def resetsHandled : Prop :=
  (∀ axis < cfg.axisCount, isFaultState (d.state axis) = false) ∧
  ∀ device < cfg.deviceCount, (d.devices device).resetComplete

variable {cfg d}

theorem axisViolation_eq_none {axis : ℕ} (h : d.axisViolation cfg axis = none) :
    d.state axis = .operationEnabled ∧ d.runningModeConfirmed cfg axis := by
  unfold axisViolation at h
  split at h
  · cases h
  · split at h
    · cases h
    · rename_i hstate
      split at h
      · cases h
      · rename_i hmode
        exact ⟨not_not.1 hstate, by simpa using hmode⟩

theorem energised_of_no_violation (h : d.runningViolation cfg = none) : d.energised cfg := by
  unfold runningViolation at h
  split at h
  · cases h
  · rename_i hoffline
    split at h
    · cases h
    · rename_i haxes
      split at h
      · cases h
      · rename_i hdevices
        refine ⟨Option.not_isSome_iff_eq_none.1 hoffline, fun axis haxis => ?_,
          fun device hdevice => ?_⟩
        · exact axisViolation_eq_none (List.findSome?_eq_none_iff.1 haxes axis (cfg.mem_axes.2 haxis))
        · have hall : d.allDevicesEnabled cfg := by simpa using hdevices
          exact List.all_eq_true.1 hall device (cfg.mem_devices.2 hdevice)

theorem not_fault_of_firstFault (h : d.firstFault cfg = none) {axis : ℕ}
    (haxis : axis < cfg.axisCount) : isFaultState (d.state axis) = false :=
  eq_false_of_ne_true (List.find?_eq_none.1 h axis (cfg.mem_axes.2 haxis))

theorem deenergised_of_stopped (h : d.stopped cfg) : d.deenergised cfg := by
  simp only [stopped, anyFault, Bool.and_eq_true, Bool.not_eq_true', Bool.or_eq_false_iff,
    Option.isSome_eq_false_iff, Option.isNone_iff_eq_none, allNonfaultTerminal] at h
  obtain ⟨⟨hfaulted, hfault⟩, hdevices, haxes⟩ := h
  refine ⟨fun axis haxis => ?_, fun device hdevice => ?_⟩
  · have hnofault := not_fault_of_firstFault hfault haxis
    have hterminal := List.all_eq_true.1 haxes axis (cfg.mem_axes.2 haxis)
    rw [hnofault, Bool.false_or] at hterminal
    exact ⟨hterminal, hnofault⟩
  · have hnofault : (d.devices device).faulted = false :=
      eq_false_of_ne_true (List.any_eq_false.1 hfaulted device (cfg.mem_devices.2 hdevice))
    have hdisabled := List.all_eq_true.1 hdevices device (cfg.mem_devices.2 hdevice)
    rw [hnofault, Bool.or_false] at hdisabled
    exact ⟨hdisabled, hnofault⟩

end Data

section Marks

/-- The axis was confirmed earlier in this enable, or no mode is expected of any axis. -/
def Data.marked (d : Data) (axis : ℕ) : Prop := cfg.expectedModes = [] ∨ d.modeConfirmed axis

structure Marks (phase : Phase) (d : Data) : Prop where
  previous : ∀ b < d.currentBatch, ∀ axis ∈ cfg.enableBatches.getD b [], d.marked cfg axis
  current : phase = .interBatchDelay → ∀ axis ∈ d.currentBatchAxes cfg, d.marked cfg axis
  device : d.deviceStage → ∀ axis < cfg.axisCount, d.marked cfg axis

def EnableMarks (c : Controller) : Prop :=
  enablePhase c.protocol.phase → Marks cfg c.protocol.phase c.data

/-- What a tick of the enable sequence leaves behind when it works on the sample in `d`. -/
structure EnableSound (d : Data) (c : Controller) : Prop where
  marks : EnableMarks cfg c
  entry : c.protocol.phase = .jtcActivating → d.operational cfg

variable {cfg} {d : Data} {c : Controller} {now : ℤ}

theorem EnableSound.of_phase (h : enablePhase c.protocol.phase = false)
    (h' : c.protocol.phase ≠ .jtcActivating) : EnableSound cfg d c :=
  ⟨fun henable => absurd (henable.symm.trans h) (by decide), fun hentry => absurd hentry h'⟩

theorem EnableSound.of_marks (h : enablePhase c.protocol.phase)
    (hmarks : Marks cfg c.protocol.phase c.data) : EnableSound cfg d c :=
  ⟨fun _ => hmarks, fun hentry => by rw [hentry] at h; exact absurd h (by decide)⟩

theorem enableSound_failEnable (stage : Stage) (axis : Option ℕ) :
    EnableSound cfg d (c.failEnable cfg stage axis now) := by
  obtain ⟨result, -, hq⟩ := c.failEnable_fails cfg now stage axis
  refine .of_phase ?_ ?_ <;>
    (rw [hq]; split <;> simp [enablePhase])

theorem enableSound_preemptEnable : EnableSound cfg d (c.preemptEnable cfg now) :=
  .of_phase rfl (by nofun)

theorem confirmed_of_marked {d : Data} (h : d.confirmedViolation cfg = none) {axis : ℕ}
    (haxis : axis < cfg.axisCount) (hmarked : d.marked cfg axis) :
    d.modeIsConfirmed cfg axis ∧ (cfg.expectedModes ≠ [] → d.state axis = .operationEnabled) := by
  rcases hmarked with hnone | hmark
  · exact ⟨by simp [Data.modeIsConfirmed, hnone], fun h => absurd hnone h⟩
  · by_cases hmodes : cfg.expectedModes = []
    · exact ⟨by simp [Data.modeIsConfirmed, hmodes], fun h => absurd hmodes h⟩
    · have hlength := cfg.expectedModes_length.resolve_left hmodes
      have hok := List.findSome?_eq_none_iff.1 h axis (List.mem_range.2 (by omega))
      simp only [hmark, Bool.not_true, Bool.false_eq_true, if_false] at hok
      split at hok
      · cases hok
      · rename_i hstate
        split at hok
        · cases hok
        · rename_i hmode
          exact ⟨by simpa using hmode, fun _ => not_not.1 hstate⟩

theorem mem_getD_enableBatches {b axis : ℕ} (h : axis ∈ cfg.enableBatches.getD b []) :
    b < cfg.enableBatches.length := by
  by_contra hb
  rw [List.getD_eq_default _ _ (not_lt.1 hb)] at h
  cases h

theorem exists_batch {axis : ℕ} (h : axis < cfg.axisCount) :
    ∃ b < cfg.enableBatches.length, axis ∈ cfg.enableBatches.getD b [] := by
  obtain ⟨batch, hbatch, haxis⟩ := (cfg.batch_axes axis).2 h
  obtain ⟨b, hb, rfl⟩ := List.getElem_of_mem hbatch
  exact ⟨b, hb, by rwa [List.getD_eq_getElem _ _ hb]⟩

theorem isPrevious_of_lt {d : Data} {b axis : ℕ} (hb : b < d.currentBatch)
    (haxis : axis ∈ cfg.enableBatches.getD b []) (hcurrent : d.isCurrent cfg axis = false) :
    d.isPrevious cfg axis := by
  have hlength := mem_getD_enableBatches haxis
  simp only [Data.isPrevious, hcurrent, Bool.not_false, Bool.true_and, List.any_eq_true,
    decide_eq_true_eq]
  refine ⟨cfg.enableBatches.getD b [], ?_, haxis⟩
  rw [List.getD_eq_getElem _ _ hlength]
  exact List.mem_take_iff_getElem.2 ⟨b, by omega, rfl⟩

theorem enableStep_of_current {d : Data} {axis : ℕ} (hcurrent : d.isCurrent cfg axis)
    (hcomplete : (d.enableStep cfg axis).complete)
    (hmismatch : (d.enableStep cfg axis).mismatch = false) :
    d.state axis = .operationEnabled ∧ d.modeIsConfirmed cfg axis ∧
      ((d.enableStep cfg axis).confirmed ∨ cfg.expectedModes = []) := by
  have hprevious : d.isPrevious cfg axis = false := by simp [Data.isPrevious, hcurrent]
  unfold Data.enableStep at hcomplete hmismatch ⊢
  rw [hprevious, hcurrent] at hcomplete hmismatch ⊢
  simp only [Bool.false_eq_true, if_false, if_true] at hcomplete hmismatch ⊢
  split at hcomplete
  · rename_i hmode
    rw [if_pos hmode] at hmismatch
    cases hmismatch
  · rename_i hmode
    rw [if_neg hmode]
    cases hstate : d.state axis <;> simp only [hstate] at hcomplete ⊢
    case operationEnabled =>
      split at hcomplete
      · cases hcomplete
      · rename_i hconfirmed
        rw [if_neg hconfirmed]
        refine ⟨trivial, by simpa using hconfirmed, ?_⟩
        by_cases hmodes : cfg.expectedModes = [] <;> simp [hmodes]
    all_goals cases hcomplete

theorem batch_confirmed {d : Data} (hmismatch : d.firstMismatch cfg = none)
    (hcomplete : d.batchComplete cfg) {axis : ℕ}
    (haxis : axis < cfg.axisCount) (hcurrent : d.isCurrent cfg axis) :
    d.state axis = .operationEnabled ∧ d.modeIsConfirmed cfg axis ∧
      (d.markConfirmed cfg cfg.axisCount).marked cfg axis := by
  have hmem := cfg.mem_axes.2 haxis
  obtain ⟨hstate, hmode, hmark⟩ := enableStep_of_current hcurrent
    (List.all_eq_true.1 hcomplete axis hmem)
    (eq_false_of_ne_true (List.find?_eq_none.1 hmismatch axis hmem))
  refine ⟨hstate, hmode, hmark.symm.imp_right fun hmark => ?_⟩
  simp [Data.markConfirmed, haxis, hmark]

theorem marked_markConfirmed {d : Data} {bound axis : ℕ} (h : d.marked cfg axis) :
    (d.markConfirmed cfg bound).marked cfg axis := by
  refine h.imp_right fun hmark => ?_
  simp [Data.markConfirmed, hmark]

theorem operational_of_marked {d : Data} (hconfirmed : d.confirmedViolation cfg = none)
    (hmarked : ∀ axis < cfg.axisCount, d.marked cfg axis)
    (hstate : ∀ axis < cfg.axisCount, d.state axis = .operationEnabled) : d.operational cfg :=
  fun axis haxis =>
    ⟨hstate axis haxis, (confirmed_of_marked hconfirmed haxis (hmarked axis haxis)).1⟩

theorem enableSound_updateDeviceEnable (hphase : c.protocol.phase = .enabling)
    (hmarks : Marks cfg .enabling c.data) (hstage : c.data.deviceStage)
    (hconfirmed : c.data.confirmedViolation cfg = none) :
    EnableSound cfg c.data (c.updateDeviceEnable cfg now) := by
  unfold Controller.updateDeviceEnable
  split
  · exact enableSound_failEnable _ _
  · rename_i hstates
    dsimp only
    split
    · exact enableSound_preemptEnable
    · split
      · refine ⟨fun henable => absurd henable (by nofun), fun _ => ?_⟩
        have hstate : ∀ axis < cfg.axisCount, c.data.state axis = .operationEnabled := by
          intro axis haxis
          simpa using List.find?_eq_none.1 hstates axis (cfg.mem_axes.2 haxis)
        exact operational_of_marked hconfirmed (hmarks.device hstage) hstate
      · split
        · exact enableSound_failEnable _ _
        · refine .of_marks (by simp [hphase, enablePhase]) ?_
          simp only [Controller.onData_protocol, hphase]
          exact ⟨hmarks.previous, hmarks.current, hmarks.device⟩

theorem marked_of_complete {d : Data} {phase : Phase} (hmarks : Marks cfg phase d)
    (hmismatch : d.firstMismatch cfg = none) (hcomplete : d.batchComplete cfg) {b axis : ℕ}
    (hb : b ≤ d.currentBatch) (haxis : axis ∈ cfg.enableBatches.getD b []) :
    (d.markConfirmed cfg cfg.axisCount).marked cfg axis := by
  rcases Nat.lt_or_eq_of_le hb with hlt | rfl
  · exact marked_markConfirmed (hmarks.previous b hlt axis haxis)
  · have hlength := mem_getD_enableBatches haxis
    have hcount : axis < cfg.axisCount := by
      refine (cfg.batch_axes axis).1 ⟨_, List.getElem_mem hlength, ?_⟩
      rwa [List.getD_eq_getElem _ _ hlength] at haxis
    exact (batch_confirmed hmismatch hcomplete hcount (decide_eq_true haxis)).2.2

theorem operational_of_last_batch {d : Data} {phase : Phase} (hmarks : Marks cfg phase d)
    (hmismatch : d.firstMismatch cfg = none) (hinvalid : d.firstInvalid cfg = none)
    (hcomplete : d.batchComplete cfg) (hconfirmed : d.confirmedViolation cfg = none)
    (hlast : d.currentBatch + 1 = cfg.enableBatches.length) : d.operational cfg := by
  intro axis haxis
  by_cases hcurrent : d.isCurrent cfg axis
  · have h := batch_confirmed hmismatch hcomplete haxis hcurrent
    exact ⟨h.1, h.2.1⟩
  · obtain ⟨b, hb, hmem⟩ := exists_batch haxis
    have hne : b ≠ d.currentBatch := by
      rintro rfl
      exact hcurrent (decide_eq_true hmem)
    have hlt : b < d.currentBatch := by omega
    have hprevious := isPrevious_of_lt hlt hmem (eq_false_of_ne_true hcurrent)
    have hvalid := List.find?_eq_none.1 hinvalid axis (cfg.mem_axes.2 haxis)
    rw [Data.enableStep, if_pos hprevious] at hvalid
    exact ⟨by simpa using hvalid,
      (confirmed_of_marked hconfirmed haxis (hmarks.previous b hlt axis hmem)).1⟩

theorem enableSound_updateBatch (hphase : c.protocol.phase = .enabling)
    (hmarks : Marks cfg .enabling c.data) (hstage : c.data.deviceStage = false)
    (hconfirmed : c.data.confirmedViolation cfg = none) :
    EnableSound cfg c.data (c.updateBatch cfg now) := by
  unfold Controller.updateBatch
  dsimp only
  split
  · exact enableSound_failEnable _ _
  · rename_i hmismatch
    split
    · exact enableSound_failEnable _ _
    · rename_i hinvalid
      have hkept : Marks cfg .enabling (c.data.markConfirmed cfg cfg.axisCount) :=
        ⟨fun b hb axis haxis => marked_markConfirmed (hmarks.previous b hb axis haxis),
          nofun, fun h => absurd h (ne_true_of_eq_false hstage)⟩
      split
      · rename_i hcomplete
        have hmarked := fun b (axis : ℕ) (hb : b ≤ c.data.currentBatch)
            (haxis : axis ∈ cfg.enableBatches.getD b []) =>
          marked_of_complete hmarks hmismatch hcomplete hb haxis
        unfold Controller.completeBatch
        split
        · exact enableSound_preemptEnable
        · split
          · rename_i hlast
            refine .of_marks (by simp [hphase, enablePhase]) ?_
            simp only [Controller.onData_protocol, hphase]
            refine ⟨hkept.previous, nofun, fun _ axis haxis => ?_⟩
            obtain ⟨b, hb, hmem⟩ := exists_batch haxis
            have hle : c.data.currentBatch + 1 = cfg.enableBatches.length := hlast.1
            exact hmarked b axis (by omega) hmem
          · split
            · rename_i hlast
              refine ⟨fun henable => absurd henable (by nofun), fun _ => ?_⟩
              exact operational_of_last_batch hmarks hmismatch hinvalid hcomplete hconfirmed hlast
            · refine .of_marks rfl ⟨hkept.previous, fun _ axis haxis => ?_, hkept.device⟩
              exact hmarked c.data.currentBatch axis le_rfl haxis
      · split
        · exact enableSound_failEnable _ _
        · refine .of_marks (by simp [hphase, enablePhase]) ?_
          simp only [Controller.onData_protocol, hphase]
          exact ⟨hkept.previous, hkept.current, hkept.device⟩

theorem enableSound_updateInterBatchDelay (hphase : c.protocol.phase = .interBatchDelay)
    (hmarks : Marks cfg .interBatchDelay c.data) :
    EnableSound cfg c.data (c.updateInterBatchDelay cfg now) := by
  unfold Controller.updateInterBatchDelay
  dsimp only
  split
  · exact enableSound_preemptEnable
  · split
    · refine .of_marks rfl ⟨fun b hb axis haxis => ?_, nofun, hmarks.device⟩
      rcases Nat.lt_succ_iff_lt_or_eq.1 hb with hlt | rfl
      · exact hmarks.previous b hlt axis haxis
      · exact hmarks.current rfl axis haxis
    · refine .of_marks (by simp [hphase, enablePhase]) ?_
      simp only [Controller.onData_protocol, hphase]
      exact ⟨hmarks.previous, hmarks.current, hmarks.device⟩

theorem enableSound_updateEnableStage (hphase : enablePhase c.protocol.phase)
    (hmarks : Marks cfg c.protocol.phase c.data)
    (hconfirmed : c.data.confirmedViolation cfg = none) :
    EnableSound cfg c.data (c.updateEnableStage cfg now) := by
  unfold Controller.updateEnableStage
  split
  · rename_i hdelay
    exact enableSound_updateInterBatchDelay hdelay (hdelay ▸ hmarks)
  · rename_i hdelay
    have henabling : c.protocol.phase = .enabling := by
      simpa [enablePhase, hdelay] using hphase
    split
    · rename_i hstage
      exact enableSound_updateDeviceEnable henabling (henabling ▸ hmarks) hstage hconfirmed
    · rename_i hstage
      exact enableSound_updateBatch henabling (henabling ▸ hmarks) (eq_false_of_ne_true hstage)
        hconfirmed

theorem qualifySources_keeps (now : ℤ) (d : Data) (h : d.confirmedViolation cfg = none) {phase : Phase}
    (hmarks : Marks cfg phase d) :
    Marks cfg phase (d.qualifySources cfg now) ∧
      (d.qualifySources cfg now).confirmedViolation cfg = none ∧
      ((d.qualifySources cfg now).operational cfg → d.operational cfg) := by
  unfold Data.qualifySources
  dsimp only
  repeat' split
  all_goals exact ⟨⟨hmarks.previous, hmarks.current, hmarks.device⟩, h, id⟩

theorem enableSound_updateReadySources (hphase : enablePhase c.protocol.phase)
    (hmarks : Marks cfg c.protocol.phase c.data)
    (hconfirmed : c.data.confirmedViolation cfg = none) :
    EnableSound cfg c.data (c.updateReadySources cfg now) := by
  unfold Controller.updateReadySources
  split
  · exact enableSound_updateEnableStage hphase hmarks hconfirmed
  · split
    · exact enableSound_failEnable _ _
    · obtain ⟨hmarks', hconfirmed', hoperational⟩ :=
        qualifySources_keeps now c.data hconfirmed hmarks
      dsimp only
      split
      · have h : EnableSound cfg _ ((c.onData (·.qualifySources cfg now)).updateEnableStage cfg now) :=
          enableSound_updateEnableStage hphase hmarks' hconfirmed'
        exact ⟨h.marks, fun hentry => hoperational (h.entry hentry)⟩
      · split
        · exact enableSound_failEnable _ _
        · exact .of_marks hphase ⟨hmarks'.previous, hmarks'.current, hmarks'.device⟩

theorem enableSound_updateEnable (hphase : enablePhase c.protocol.phase)
    (hmarks : Marks cfg c.protocol.phase c.data) :
    EnableSound cfg c.data (c.updateEnable cfg now) := by
  have hphase' : c.notePreemption.protocol.phase = c.protocol.phase := by
    rw [Controller.notePreemption_protocol]
  unfold Controller.updateEnable
  dsimp only
  split
  · obtain ⟨next, hnext, hq⟩ := Controller.updateEmergencyQuickStop_protocol cfg
      ((c.notePreemption.onProtocol ({ · with disableRequest := false })).startEmergency cfg
        .faultDetected _ _ now) now
    rw [Controller.startEmergency_protocol] at hnext hq
    refine .of_phase ?_ ?_ <;> (rw [hq]; rcases hnext with rfl | rfl <;> simp [enablePhase])
  · split
    · exact enableSound_failEnable _ _
    · rename_i hconfirmed
      have h : EnableSound cfg _ (c.notePreemption.updateReadySources cfg now) :=
        enableSound_updateReadySources
        (by rw [hphase']; exact hphase) (by rw [hphase', Controller.notePreemption_data]; exact hmarks)
        hconfirmed
      rwa [Controller.notePreemption_data] at h

theorem enableMarks_startEnable : EnableMarks cfg (c.startEnable cfg now) := by
  intro _
  refine ⟨fun b hb => absurd hb (Nat.not_lt_zero b), nofun, fun h axis haxis => ?_⟩
  obtain ⟨b, hb, -⟩ := exists_batch haxis
  have hnone : cfg.enableBatches = [] := of_decide_eq_true h
  rw [hnone] at hb
  exact absurd hb (Nat.not_lt_zero b)

theorem enableMarks_of_phase (h : enablePhase c.protocol.phase = false) : EnableMarks cfg c :=
  fun henable => absurd henable (ne_true_of_eq_false h)

theorem enableMarks_updateIdle (hphase : c.protocol.phase = .idle) :
    EnableMarks cfg (c.updateIdle cfg now) := by
  unfold Controller.updateIdle
  dsimp only
  split
  · unfold Controller.rejectIfOffline
    dsimp only
    split
    · exact enableMarks_of_phase (by
        change enablePhase c.protocol.phase = false
        rw [hphase]
        rfl)
    · intro henable
      have h : Marks cfg _ (((c.commandDisabled cfg).takeEnableRequest).startEnable cfg now).data :=
        enableMarks_startEnable henable
      exact ⟨h.previous, h.current, h.device⟩
  · refine enableMarks_of_phase ?_
    have hidle : enablePhase c.protocol.phase = false := by
      rw [hphase]
      rfl
    split
    · unfold Controller.rejectIfOffline Controller.resetFromIdle
      dsimp only
      repeat' split
      all_goals first | exact hidle | rfl
    · split <;> exact hidle

theorem TickStep.phase_of_ne_idle {running stopped : Prop} {p q : Protocol}
    (h : TickStep cfg running stopped p q) (hidle : p.phase ≠ .idle)
    (henable : enablePhase p.phase = false) :
    enablePhase q.phase = false ∧ (q.phase = .jtcActivating → p.phase = .jtcActivating) := by
  cases h <;> simp_all [enablePhase] <;> grind

theorem TickStep.enters_jtcActivating {running stopped : Prop} {p q : Protocol}
    (h : TickStep cfg running stopped p q) (hq : q.phase = .jtcActivating) :
    p.phase = .jtcActivating ∨ p.phase = .enabling := by
  cases h <;> simp_all

theorem Protocol.phase_writeDriveModes (p : Protocol) :
    (p.writeDriveModes cfg).phase = p.phase := rfl

theorem enableMarks_writes (h : EnableMarks cfg c) :
    EnableMarks cfg ((c.onData (·.writeDevices)).writeDriveModes cfg) := by
  intro henable
  rw [Controller.writeDriveModes_protocol, Protocol.phase_writeDriveModes] at henable ⊢
  have hmarks := h henable
  unfold Controller.writeDriveModes Controller.clearDriveCsp
  split
  · exact ⟨hmarks.previous, hmarks.current, hmarks.device⟩
  · split <;> exact ⟨hmarks.previous, hmarks.current, hmarks.device⟩

theorem update_of_phase (sample : Sample) (hactive : c.protocol.active)
    (hrunning : runningPhase c.protocol.phase = false) :
    c.update cfg sample now =
      (((c.refresh cfg sample).updatePhase cfg now).onData (·.writeDevices)).writeDriveModes cfg := by
  have hcheck : (c.refresh cfg sample).checkRunning cfg now = c.refresh cfg sample :=
    if_neg (by
      change ¬runningPhase c.protocol.phase = true
      rw [hrunning]
      exact Bool.false_ne_true)
  unfold Controller.update
  rw [if_pos hactive, hcheck]

theorem update_of_enablePhase (sample : Sample) (hactive : c.protocol.active)
    (henable : enablePhase c.protocol.phase) :
    c.update cfg sample now =
      (((c.refresh cfg sample).updateEnable cfg now).onData (·.writeDevices)).writeDriveModes cfg := by
  have hrunning : runningPhase c.protocol.phase = false := by
    revert henable
    cases c.protocol.phase <;> simp [enablePhase, runningPhase]
  have hupdate : (c.refresh cfg sample).updatePhase cfg now =
      (c.refresh cfg sample).updateEnable cfg now := by
    unfold Controller.updatePhase
    rw [show (c.refresh cfg sample).protocol.phase = c.protocol.phase from rfl]
    revert henable
    cases c.protocol.phase <;> simp [enablePhase]
  rw [update_of_phase sample hactive hrunning, hupdate]

theorem update_of_idle (sample : Sample) (hactive : c.protocol.active)
    (hidle : c.protocol.phase = .idle) :
    c.update cfg sample now =
      (((c.refresh cfg sample).updateIdle cfg now).onData (·.writeDevices)).writeDriveModes cfg := by
  have hupdate : (c.refresh cfg sample).updatePhase cfg now =
      (c.refresh cfg sample).updateIdle cfg now := by
    unfold Controller.updatePhase
    rw [show (c.refresh cfg sample).protocol.phase = .idle from hidle]
  rw [update_of_phase sample hactive (by rw [hidle]; rfl), hupdate]

theorem update_enableMarks (sample : Sample) (hactive : c.protocol.active)
    (hmarks : EnableMarks cfg c) :
    EnableMarks cfg (c.update cfg sample now) ∧
      ((c.update cfg sample now).protocol.phase = .jtcActivating →
        c.protocol.phase ≠ .jtcActivating → (c.refresh cfg sample).data.operational cfg) := by
  obtain ⟨q, hstep, hq⟩ := Controller.update_protocol cfg c now sample hactive
  have hphase : (c.update cfg sample now).protocol.phase = q.phase := by
    rw [hq, Protocol.phase_writeDriveModes]
  by_cases henable : enablePhase c.protocol.phase
  · have hsound : EnableSound cfg (c.refresh cfg sample).data
        ((c.refresh cfg sample).updateEnable cfg now) := by
      have hkept := hmarks henable
      exact enableSound_updateEnable henable ⟨hkept.previous, hkept.current, hkept.device⟩
    rw [update_of_enablePhase sample hactive henable]
    refine ⟨enableMarks_writes hsound.marks, fun hentry _ => hsound.entry ?_⟩
    rwa [Controller.writeDriveModes_protocol, Protocol.phase_writeDriveModes] at hentry
  · have henable' := eq_false_of_ne_true henable
    refine ⟨?_, fun hentry hbefore => ?_⟩
    · by_cases hidle : c.protocol.phase = .idle
      · rw [update_of_idle sample hactive hidle]
        exact enableMarks_writes (enableMarks_updateIdle hidle)
      · exact enableMarks_of_phase (by rw [hphase]; exact (hstep.phase_of_ne_idle hidle henable').1)
    · rw [hphase] at hentry
      rcases hstep.enters_jtcActivating hentry with h | h
      · exact absurd h hbefore
      · rw [h] at henable'
        exact absurd henable' (by decide)

end Marks

section Reset

variable {cfg} {c : Controller} {now : ℤ}

theorem TickStep.enters_resetDisabling {running stopped : Prop} {p q : Protocol}
    (h : TickStep cfg running stopped p q) (hq : q.phase = .resetDisabling) :
    p.phase = .resetDisabling ∨ p.phase = .resetHigh := by
  cases h <;> simp_all

theorem update_resetsHandled (sample : Sample) (hactive : c.protocol.active)
    (hentry : (c.update cfg sample now).protocol.phase = .resetDisabling)
    (hbefore : c.protocol.phase ≠ .resetDisabling) :
    (c.refresh cfg sample).data.resetsHandled cfg := by
  obtain ⟨q, hstep, hq⟩ := Controller.update_protocol cfg c now sample hactive
  rw [hq, Protocol.phase_writeDriveModes] at hentry
  have hhigh := (hstep.enters_resetDisabling hentry).resolve_left hbefore
  set r := c.refresh cfg sample with hr
  have hrphase : r.protocol.phase = .resetHigh := hhigh
  have hupdate : r.updatePhase cfg now = r.updateReset cfg now := by
    unfold Controller.updatePhase
    rw [hrphase]
  rw [update_of_phase sample hactive (by rw [hhigh]; rfl), ← hr, hupdate,
    Controller.writeDriveModes_protocol, Controller.onData_protocol] at hq
  have hphase : (r.updateReset cfg now).protocol.phase = .resetDisabling := by
    have := congrArg Protocol.phase hq
    rw [Protocol.phase_writeDriveModes, Protocol.phase_writeDriveModes] at this
    exact this.trans hentry
  unfold Controller.updateReset at hphase
  split at hphase
  · exact absurd hphase (by nofun)
  · rw [if_neg (by rw [hrphase]; decide)] at hphase
    unfold Controller.updateResetHigh at hphase
    dsimp only at hphase
    split at hphase
    · rename_i hreset
      obtain ⟨hdevices, haxes⟩ := Bool.and_eq_true_iff.1 hreset
      refine ⟨fun axis haxis => ?_, fun device hdevice => ?_⟩
      · exact Data.not_fault_of_firstFault (Option.isNone_iff_eq_none.1 haxes) haxis
      · exact List.all_eq_true.1 hdevices device (cfg.mem_devices.2 hdevice)
    · split at hphase
      · exact absurd hphase (by nofun)
      · exact absurd (hphase.symm.trans hrphase) (by decide)

end Reset

section Run

variable {cfg}

/-- A result that the update from `p` to `q` publishes. -/
def Protocol.publishes (p q : Protocol) (service : Service) (result : Result) : Prop :=
  (q.slot service).published ≠ (p.slot service).published ∧ (q.slot service).result = result

/-- What the sample of the publishing update shows for a successful result. -/
def Data.reports (cfg : Config) (d : Data) : Service → Prop
  | .enable => d.energised cfg
  | .disable => d.deenergised cfg
  | .reset => d.deenergised cfg

theorem Protocol.slot_publishResult (p : Protocol) (service other : Service) (result : Result) :
    (p.publishResult service result).slot other =
      if service = other then (p.slot other).publish result else p.slot other := by
  cases service <;> cases other <;> rfl

theorem Protocol.slot_publishInterrupted (p : Protocol) (result : Result) (service : Service) :
    (p.publishInterrupted result).slot service = p.slot service ∨
      (p.publishInterrupted result).slot service = (p.slot service).publish result := by
  cases service
  · exact (ite_eq_or_eq _ _ _).symm
  · exact (ite_eq_or_eq _ _ _).symm
  · exact .inl rfl

/-- `q` has the result slots of `p`. -/
def Protocol.keepsSlots (p q : Protocol) : Prop := ∀ service, q.slot service = p.slot service

theorem Protocol.keepsSlots_of_eq {p q : Protocol} (henable : q.enableResult = p.enableResult)
    (hdisable : q.disableResult = p.disableResult) (hreset : q.resetResult = p.resetResult) :
    p.keepsSlots q := by
  rintro (_ | _ | _)
  exacts [henable, hdisable, hreset]

theorem Protocol.publishes.of_publishResult {p q : Protocol} {service : Service} {result : Result}
    (h : p.publishes q service result) (other : Service) (published : Result)
    (hslots : (p.publishResult other published).keepsSlots q) :
    service = other ∧ result = published := by
  obtain ⟨hcount, hresult⟩ := h
  rw [hslots, slot_publishResult] at hcount hresult
  split at hcount
  · rename_i heq
    rw [if_pos heq] at hresult
    exact ⟨heq.symm, hresult.symm⟩
  · exact absurd rfl hcount

theorem Protocol.publishes.of_publishInterrupted {p q : Protocol} {service : Service}
    {result : Result} (h : p.publishes q service result) (published : Result)
    (hslots : (p.publishInterrupted published).keepsSlots q) : result = published := by
  obtain ⟨hcount, hresult⟩ := h
  rw [hslots] at hcount hresult
  rcases p.slot_publishInterrupted published service with heq | heq
  · rw [heq] at hcount
    exact absurd rfl hcount
  · rw [heq] at hresult
    exact hresult.symm

theorem Protocol.not_publishes {p q : Protocol} {service : Service} {result : Result}
    (hslots : p.keepsSlots q) : ¬p.publishes q service result :=
  fun h => h.1 (by rw [hslots])

theorem TickStep.success {running stopped : Prop} {p q : Protocol}
    (h : TickStep cfg running stopped p q) {service : Service} {result : Result}
    (hpublish : p.publishes q service result) (hok : result.ok) (hstage : result.stage = .success) :
    service = .enable ∧ running ∨ service = .disable ∧ stopped ∨
      service = .reset ∧ stopped ∧ p.phase = .resetDisabling := by
  cases h with
  | finishDisabling other next hphase hnext hother =>
    obtain ⟨rfl, rfl⟩ := hpublish.of_publishResult .disable other
      (Protocol.keepsSlots_of_eq rfl rfl rfl)
    exact .inr (.inl ⟨rfl, hother hok⟩)
  | finishReset other next hphase hnext hother =>
    obtain ⟨rfl, rfl⟩ := hpublish.of_publishResult .reset other (Protocol.keepsSlots_of_eq rfl rfl rfl)
    exact .inr (.inr ⟨rfl, hother hok, hphase⟩)
  | activated hphase hrunning =>
    obtain ⟨rfl, -⟩ := hpublish.of_publishResult .enable _ (Protocol.keepsSlots_of_eq rfl rfl rfl)
    exact .inl ⟨rfl, hrunning⟩
  | finishEmergency other next hphase hnext hother =>
    obtain rfl := hpublish.of_publishInterrupted other (Protocol.keepsSlots_of_eq rfl rfl rfl)
    exact absurd hok (ne_true_of_eq_false hother)
  | answerReset other next hphase hrequest hother =>
    obtain ⟨-, rfl⟩ := hpublish.of_publishResult .reset other (Protocol.keepsSlots_of_eq rfl rfl rfl)
    exact absurd hstage hother
  | answerDisable other hphase henable hreset hrequest hother =>
    obtain ⟨-, rfl⟩ := hpublish.of_publishResult .disable other (Protocol.keepsSlots_of_eq rfl rfl rfl)
    exact absurd hstage hother
  | finishRollback other next hphase hnext hother | rejectEnable other hphase hrequest hother
  | preemptEnable other hphase hpreempted hother =>
    obtain ⟨-, rfl⟩ := hpublish.of_publishResult .enable other (Protocol.keepsSlots_of_eq rfl rfl rfl)
    exact absurd hok (ne_true_of_eq_false hother)
  | expireReset other hphase hother | preemptReset other hphase hrequest hother =>
    obtain ⟨-, rfl⟩ := hpublish.of_publishResult .reset other (Protocol.keepsSlots_of_eq rfl rfl rfl)
    exact absurd hok (ne_true_of_eq_false hother)
  | _ => exact absurd hpublish (Protocol.not_publishes (Protocol.keepsSlots_of_eq rfl rfl rfl))

theorem update_reports {c : Controller} {sample : Sample} {now : ℤ} {service : Service}
    {result : Result}
    (hpublish : c.protocol.publishes (c.update cfg sample now).protocol service result)
    (hok : result.ok) (hstage : result.stage = .success) :
    (c.refresh cfg sample).data.reports cfg service ∧
      (service = .reset → c.protocol.phase = .resetDisabling) := by
  by_cases hactive : c.protocol.active
  · obtain ⟨q, hstep, hq⟩ := Controller.update_protocol cfg c now sample hactive
    rw [hq] at hpublish
    have hpublish' : c.protocol.publishes q service result := by
      cases service <;> exact hpublish
    rcases hstep.success hpublish' hok hstage with
      ⟨rfl, hrunning⟩ | ⟨rfl, hstopped⟩ | ⟨rfl, hstopped, hphase⟩
    · exact ⟨Data.energised_of_no_violation hrunning, nofun⟩
    · exact ⟨Data.deenergised_of_stopped hstopped, nofun⟩
    · exact ⟨Data.deenergised_of_stopped hstopped, fun _ => hphase⟩
  · rw [Controller.update_of_inactive cfg c now sample (eq_false_of_ne_true hactive)] at hpublish
    exact absurd rfl hpublish.1

theorem enableMarks_access {w : World} (h : EnableMarks cfg w.controller) {a : Access}
    (ha : System.threadOwns a) : EnableMarks cfg (w.access cfg a).controller := by
  cases a with
  | storePhase phase => exact System.storePhase_of_threadOwns ha ▸ enableMarks_of_phase rfl
  | recordDeactivateFailure =>
    intro henable
    have hkept := h henable
    exact ⟨hkept.previous, hkept.current, hkept.device⟩
  | _ => exact h

theorem System.enableMarks_step (s : System) (l : Label) (h : EnableMarks cfg s.world.controller) :
    EnableMarks cfg (s.step cfg l).world.controller := by
  refine world_step (P := fun w => EnableMarks cfg w.controller) cfg s l h
    (fun sample now _ hactive => (update_enableMarks sample hactive h).1)
    (fun a _ ha => enableMarks_access h ha) (fun sample hactivated => enableMarks_of_phase ?_)
    (enableMarks_of_phase rfl)
  rw [hactivated]
  rfl

theorem System.enableMarks_run (controllers : List ControllerState) (labels : List Label) :
    EnableMarks cfg (System.runFrom cfg (.initial controllers) labels).world.controller :=
  invariant_all (P := fun s : System => EnableMarks cfg s.world.controller)
    enableMarks_step (enableMarks_of_phase rfl) labels

end Run

namespace System

variable (cfg : Config)

/-- The reset of a run that has reached `kResetDisabling`: every device reset generation was handled
in the sample of the update that entered the phase, and the phase has not changed since. -/
def ResetHandledOnEntry (s : System) (labels : List Label) : Prop :=
  ∃ before sample now after, labels = before ++ .tick sample now :: after ∧
    ((runFrom cfg s before).world.controller.refresh cfg sample).data.resetsHandled cfg ∧
    ∀ between rest, after = between ++ rest →
      (runFrom cfg s (before ++ .tick sample now :: between)).protocol.phase = .resetDisabling

theorem resetHandledOnEntry_of_phase (controllers : List ControllerState) (labels : List Label)
    (h : (runFrom cfg (initial controllers) labels).protocol.phase = .resetDisabling) :
    ResetHandledOnEntry cfg (initial controllers) labels := by
  obtain ⟨before, l, after, rfl, hbefore, hafter⟩ :=
    exists_entry (P := fun s : System => s.protocol.phase = .resetDisabling)
      (s := initial controllers) nofun h
  have hentry := hafter [] after rfl
  rw [run_snoc] at hentry
  obtain ⟨sample, now, rfl, hactive, hupdate⟩ :=
    exists_tick_of_entry (P := (· = .resetDisabling)) cfg ⟨by decide, by decide, by decide⟩ hbefore
      hentry
  exact ⟨before, sample, now, after, rfl, update_resetsHandled sample hactive hupdate hbefore, hafter⟩

/-- Every success published by an update is true of the sample of that update; a reset's device
generations were handled in the sample of the update that entered `kResetDisabling`. The
activation is entered only by an update in whose sample every axis is enabled in its expected
mode. -/
theorem success_sound (controllers : List ControllerState) (labels : List Label) :
    let s := runFrom cfg (initial controllers) labels
    let c := s.world.controller
    (∀ sample now service result,
      c.protocol.publishes (c.update cfg sample now).protocol service result → result.ok →
      result.stage = .success → (c.refresh cfg sample).data.reports cfg service ∧
        (service = .reset → ResetHandledOnEntry cfg (initial controllers) labels)) ∧
    ∀ l, (s.step cfg l).protocol.phase = .jtcActivating → s.protocol.phase ≠ .jtcActivating →
      ∃ sample now, l = .tick sample now ∧ (c.refresh cfg sample).data.operational cfg := by
  refine ⟨fun sample now service result hpublish hok hstage => ?_, fun l hentry hbefore => ?_⟩
  · obtain ⟨hreports, hphase⟩ := update_reports hpublish hok hstage
    exact ⟨hreports, fun hreset => resetHandledOnEntry_of_phase cfg controllers labels (hphase hreset)⟩
  · obtain ⟨sample, now, rfl, hactive, hupdate⟩ :=
      exists_tick_of_entry (P := (· = .jtcActivating)) cfg ⟨by decide, by decide, by decide⟩ hbefore
        hentry
    have hmarks : EnableMarks cfg _ := enableMarks_run controllers labels
    exact ⟨sample, now, rfl, (update_enableMarks sample hactive hmarks).2 hupdate hbefore⟩

end System

section HandledGeneration

/-- A group without drives and with one device, managed without motion controllers. -/
def gripper : Config :=
  { chassis with
    axisCount := 0
    enableBatches := []
    expectedModes := []
    deviceCount := 1
    offlineSourceCount := 0
    defaultMotionController := ""
    trajectoryMotionController := ""
    modeSwitchAxes := []
    batch_nonempty := by simp
    batch_axes axis := by simp
    expectedModes_length := .inl rfl
    expectedModes_fixed := by simp
    expectedModes_rolling := .inl rfl
    motion_or_enableOnly := .inr (by decide)
    one_alternate := Config.no_alternate
    controllers_nodup := by decide
    modeSwitch_configured h := absurd rfl h
    modeSwitch_axes := by simp }

def Sample.ofDevice (phase fault generation : ℚ) : Sample where
  statusWord _ := none
  mode _ := none
  offlineSource _ := none
  readyState _ := none
  device _ := ⟨some phase, some fault, some generation, some 0⟩

/-- A reset of a faulted device up to the second stage of its disabling sequence. -/
def gripperReset : List Label :=
  [.activate (.ofDevice 0 0 0), .tick (.ofDevice 0 0 0) 1, .tick (.ofDevice 0 0 0) 2,
    .tick (.ofDevice 0 0 0) 3] ++ List.replicate 6 (.reset {}) ++
    [.tick (.ofDevice 6 1 0) 4, .tick (.ofDevice 6 1 0) 5, .tick (.ofDevice 0 0 1) 6,
      .tick (.ofDevice 0 0 1) 7, .tick (.ofDevice 0 0 1) 8]

/-- A device that takes its handled generation back after `kResetDisabling` was entered still ends
in a successful reset. -/
theorem System.reset_generation_not_rechecked :
    ¬∀ (cfg : Config) (controllers : List ControllerState) (labels : List Label) (sample : Sample)
      (now : ℤ) (result : Result),
      let c := (runFrom cfg (initial controllers) labels).world.controller
      c.protocol.publishes (c.update cfg sample now).protocol .reset result → result.ok →
        result.stage = .success → (c.refresh cfg sample).data.resetsHandled cfg := by
  intro h
  have hhandled := h gripper [] gripperReset (.ofDevice 0 0 0) 9 (.immediate true .success)
    (by unfold Protocol.publishes; decide +kernel) rfl rfl
  exact absurd (hhandled.2 0 Nat.one_pos) (by decide +kernel)

end HandledGeneration

end RobotDriver.EnableManager
