import RobotDriver.EnableManager.System

/-!
# The emergency of an enabled group in the tick that sees its cause

The sources of a group are its offline sources, its axes and its devices, in the configured order.
The tick that finds one of them violated already commands the stop.
-/

namespace RobotDriver.EnableManager

inductive Source
  | offline (source : ℕ)
  | axis (axis : ℕ)
  | device (device : ℕ)
  deriving DecidableEq, Repr

def Config.sources (cfg : Config) : List Source :=
  (List.range cfg.offlineSourceCount).map .offline ++ cfg.axes.map .axis ++
    cfg.devices.map .device

namespace Data

variable (cfg : Config) (d : Data)

/-- What an enabled axis may not show. -/
def axisViolated (axis : ℕ) : Bool :=
  d.state axis ≠ .operationEnabled || !d.runningModeConfirmed cfg axis

def axisStage (axis : ℕ) : Stage :=
  if isFaultState (d.state axis) then .faultDetected
  else if d.state axis ≠ .operationEnabled then .unexpectedDriveState
  else .modeMismatch

def devicesStage : Stage := if d.anyDeviceFaulted cfg then .faultDetected else .unexpectedDriveState

/-- The stage, joint and status word that the violation of a source is recorded with. -/
def violation : Source → Stage × Option ℕ × ℕ
  | .offline _ => (.deviceOffline, none, 0)
  | .axis axis => (d.axisStage axis, some axis, d.statusWords axis)
  | .device _ => (d.devicesStage cfg, none, 0)

end Data

def violated (cfg : Config) (sample : Sample) (d : Data) : Source → Bool
  | .offline source => !Controller.sourceOnline cfg sample source
  | .axis axis => d.axisViolated cfg axis
  | .device device => !(d.devices device).enabled

namespace Data

variable (cfg : Config) (d : Data)

theorem axisViolation_eq (axis : ℕ) :
    d.axisViolation cfg axis = (Option.guard (d.axisViolated cfg) axis).map
      fun axis => d.violation cfg (.axis axis) := by
  have hfault : isFaultState .operationEnabled = false := rfl
  by_cases hstate : d.state axis = .operationEnabled
  · cases hmode : d.runningModeConfirmed cfg axis <;>
      simp [axisViolation, axisViolated, violation, axisStage, Option.guard, hstate, hmode, hfault]
  · by_cases hlost : isFaultState (d.state axis) = true <;>
      simp [axisViolation, axisViolated, violation, axisStage, Option.guard, hstate, hlost]

theorem findSome?_axisViolation (axes : List ℕ) :
    axes.findSome? (d.axisViolation cfg) = (axes.find? (d.axisViolated cfg)).map
      fun axis => d.violation cfg (.axis axis) := by
  rw [← List.findSome?_guard, List.map_findSome?]
  congr 1
  funext axis
  exact d.axisViolation_eq cfg axis

end Data

theorem TickStep.calm {cfg : Config} {running stopped : Prop} {p q : Protocol}
    (h : TickStep cfg running stopped p q) (hphase : runningPhase p.phase) (hrunning : running) :
    (q.phase ≠ .emergencyQuickStop ∧ q.phase ≠ .emergencyDisable) ∧
      q.emergencyJtcDeactivateRequest = p.emergencyJtcDeactivateRequest ∧
      q.interruptedOwner = p.interruptedOwner ∧ q.restartRequired = p.restartRequired := by
  have hkept : p.phase ≠ .emergencyQuickStop ∧ p.phase ≠ .emergencyDisable := by
    constructor <;> intro hstop <;> rw [hstop] at hphase <;> cases hphase
  cases h with
  | rest => exact ⟨hkept, rfl, rfl, rfl⟩
  | emergency _ _ _ hviolation => exact absurd hrunning hviolation
  | activateFailed | activated | startDisabling => exact ⟨⟨nofun, nofun⟩, rfl, rfl, rfl⟩
  | _ =>
    exfalso
    simp only [runningPhase, Bool.or_eq_true, decide_eq_true_eq] at hphase
    rcases hphase with (hp | hp) | hp <;> simp_all

namespace Controller

variable (cfg : Config) (c : Controller) (sample : Sample) (now : ℤ)

/-- The first violated source of a sample. -/
def firstViolated : Option Source :=
  cfg.sources.find? (violated cfg sample (c.refresh cfg sample).data)

theorem runningViolation_refresh :
    (c.refresh cfg sample).data.runningViolation cfg = (c.firstViolated cfg sample).map
      ((c.refresh cfg sample).data.violation cfg) := by
  set d := (c.refresh cfg sample).data with hd
  have hoffline : d.offlineNow = (List.range cfg.offlineSourceCount).find?
      (violated cfg sample d ∘ Source.offline) := rfl
  have hdevices : (cfg.devices.find? (violated cfg sample d ∘ Source.device)).isNone =
      d.allDevicesEnabled cfg := by
    rw [Bool.eq_iff_iff, Option.isNone_iff_eq_none, List.find?_eq_none, Data.allDevicesEnabled,
      List.all_eq_true]
    simp [violated]
  unfold Data.runningViolation firstViolated Config.sources
  rw [List.find?_append, List.find?_append, List.find?_map, List.find?_map, List.find?_map,
    ← hd, ← hoffline, d.findSome?_axisViolation, ← hdevices]
  cases d.offlineNow with
  | some source => simp [Data.violation]
  | none =>
    have haxes : (violated cfg sample d ∘ Source.axis) = d.axisViolated cfg := rfl
    rw [haxes]
    cases cfg.axes.find? (d.axisViolated cfg) with
    | some axis => simp
    | none =>
      cases cfg.devices.find? (violated cfg sample d ∘ Source.device) with
      | some device => simp [Data.violation, Data.devicesStage]
      | none => simp

theorem offlineNow_of_firstViolated {index : ℕ}
    (h : c.firstViolated cfg sample = some (.offline index)) :
    (c.refresh cfg sample).data.offlineNow = some index := by
  change (List.range cfg.offlineSourceCount).find?
    (violated cfg sample (c.refresh cfg sample).data ∘ Source.offline) = some index
  unfold firstViolated Config.sources at h
  rw [List.find?_append, List.find?_append, List.find?_map, List.find?_map, List.find?_map] at h
  cases hfound : (List.range cfg.offlineSourceCount).find?
      (violated cfg sample (c.refresh cfg sample).data ∘ Source.offline) with
  | some found =>
    rw [hfound, Option.map_some, Option.some_or, Option.some_or] at h
    cases h
    rfl
  | none =>
    rw [hfound, Option.map_none, Option.none_or] at h
    rcases Option.or_eq_some_iff.1 h with haxis | ⟨-, hdevice⟩
    · obtain ⟨axis, -, hsource⟩ := Option.map_eq_some_iff.1 haxis
      cases hsource
    · obtain ⟨device, -, hsource⟩ := Option.map_eq_some_iff.1 hdevice
      cases hsource

/-- The failure that a tick records for a violated source. -/
def failureOf (source : Source) : PrimaryFailure :=
  let violation := c.data.violation cfg source
  ⟨violation.1, if c.protocol.owner = .enable then some c.data.currentBatch else none,
    violation.2.1, violation.2.2⟩

/-- A tick that commands the stop of the group and records the source that caused it. -/
structure StopsFor (source : Source) (next : Controller) : Prop where
  phase : next.protocol.phase = .emergencyQuickStop ∨ next.protocol.phase = .emergencyDisable
  notEnabling : ∀ axis ∈ cfg.axes, next.data.controlWords axis ≠ 0x000F
  quickStop : ∀ axis ∈ cfg.axes, c.data.state axis = .operationEnabled →
    next.data.controlWords axis = 0x0002
  devices : ∀ device, (next.data.devices device).enableRequested = false ∧
    (next.data.devices device).enableCommand = false
  primary : next.data.primaryFailure = c.failureOf cfg source
  last : next.data.lastFailure = (c.data.recordFailure cfg (c.failureOf cfg source).stage
    (c.failureOf cfg source).failedBatch (c.failureOf cfg source).failedJoint
    (c.failureOf cfg source).statusWord).lastFailure
  offline : ∀ index, source = .offline index → next.data.offlineFeedback = some index

/-- A tick that leaves the records of an emergency alone. -/
structure NoEmergency (next : Controller) : Prop where
  phase : next.protocol.phase ≠ .emergencyQuickStop ∧ next.protocol.phase ≠ .emergencyDisable
  request : next.protocol.emergencyJtcDeactivateRequest = c.protocol.emergencyJtcDeactivateRequest
  interrupted : next.protocol.interruptedOwner = c.protocol.interruptedOwner
  restart : next.protocol.restartRequired = c.protocol.restartRequired

theorem update_of_violation (hactive : c.protocol.active) (hphase : runningPhase c.protocol.phase)
    {violation : Stage × Option ℕ × ℕ}
    (hviolation : (c.refresh cfg sample).data.runningViolation cfg = some violation) :
    c.update cfg sample now =
      ((((c.refresh cfg sample).noteOffline.startEmergency cfg violation.1 violation.2.1
        violation.2.2 now).updateEmergencyQuickStop cfg now).onData
          (·.writeDevices)).writeDriveModes cfg := by
  have hrunning : runningPhase (c.refresh cfg sample).protocol.phase := hphase
  unfold update checkRunning
  rw [if_pos hactive, if_pos hrunning, hviolation]
  rfl

/-- What the commands of a quick stop leave in the outputs and the records. -/
structure Stopped (next : Controller) : Prop where
  words : ∀ axis ∈ cfg.axes, next.data.controlWords axis = quickStopCommand (c.data.state axis)
  devices : ∀ device, next.data.devices device = ((c.data.devices device).requestEnable false).write
  primary : next.data.primaryFailure = c.data.primaryFailure
  last : next.data.lastFailure = c.data.lastFailure
  offline : next.data.offlineFeedback = c.data.offlineFeedback

theorem stopped_quickStop : c.Stopped cfg
    (((c.updateEmergencyQuickStop cfg now).onData (·.writeDevices)).writeDriveModes cfg) := by
  have hcommand : c.Stopped cfg (((c.commandQuickStop cfg).onData (·.writeDevices))) := by
    refine ⟨fun axis haxis => ?_, fun _ => rfl, rfl, rfl, rfl⟩
    exact if_pos (cfg.mem_axes.1 haxis)
  have hquick : c.Stopped cfg ((c.updateEmergencyQuickStop cfg now).onData (·.writeDevices)) := by
    unfold updateEmergencyQuickStop
    dsimp only
    split_ifs
    · exact ⟨hcommand.words, hcommand.devices, rfl, rfl, rfl⟩
    · exact hcommand
  unfold writeDriveModes clearDriveCsp
  dsimp only
  split_ifs <;> exact ⟨hquick.words, hquick.devices, hquick.primary, hquick.last, hquick.offline⟩

theorem startEmergency_noteOffline (violation : Stage × Option ℕ × ℕ) :
    let next := c.noteOffline.startEmergency cfg violation.1 violation.2.1 violation.2.2 now
    let batch := if c.protocol.owner = .enable then some c.data.currentBatch else none
    next.data.state = c.data.state ∧
      next.data.primaryFailure = ⟨violation.1, batch, violation.2.1, violation.2.2⟩ ∧
      next.data.lastFailure = (c.data.recordFailure cfg violation.1 batch violation.2.1
        violation.2.2).lastFailure ∧
      ∀ index, c.data.offlineNow = some index → next.data.offlineFeedback = some index := by
  dsimp only
  unfold noteOffline
  by_cases hoffline : c.data.offlineNow.isSome = true
  · rw [if_pos hoffline]
    exact ⟨rfl, rfl, rfl, fun _ => id⟩
  · rw [if_neg hoffline]
    exact ⟨rfl, rfl, rfl, fun index h => absurd (by rw [h]; rfl) hoffline⟩

theorem quickStopCommand_ne (state : DriveState) : quickStopCommand state ≠ 0x000F := by
  cases state <;> decide

theorem stopsFor_firstViolated (hactive : c.protocol.active)
    (hphase : runningPhase c.protocol.phase) {source : Source}
    (h : c.firstViolated cfg sample = some source) :
    (c.refresh cfg sample).StopsFor cfg source (c.update cfg sample now) := by
  have hviolation := c.runningViolation_refresh cfg sample
  rw [h, Option.map_some] at hviolation
  set r := c.refresh cfg sample with hr
  have hupdate := c.update_of_violation cfg sample now hactive hphase hviolation
  have hstopped := stopped_quickStop cfg (r.noteOffline.startEmergency cfg
    (r.data.violation cfg source).1 (r.data.violation cfg source).2.1
    (r.data.violation cfg source).2.2 now) now
  rw [← hr] at hupdate
  rw [← hupdate] at hstopped
  obtain ⟨hstate, hprimary, hlast, hoffline⟩ :=
    r.startEmergency_noteOffline cfg now (r.data.violation cfg source)
  constructor
  case phase =>
    rw [hupdate, writeDriveModes_protocol, onData_protocol]
    obtain ⟨next, hnext, hquick⟩ := updateEmergencyQuickStop_protocol cfg
      (r.noteOffline.startEmergency cfg (r.data.violation cfg source).1
        (r.data.violation cfg source).2.1 (r.data.violation cfg source).2.2 now) now
    rw [hquick]
    exact hnext.symm
  case notEnabling =>
    intro axis haxis
    rw [hstopped.words axis haxis]
    exact quickStopCommand_ne _
  case quickStop =>
    intro axis haxis henabled
    rw [hstopped.words axis haxis, hstate, henabled]
    rfl
  case devices =>
    intro device
    rw [hstopped.devices device]
    exact ⟨rfl, rfl⟩
  case primary => exact hstopped.primary.trans hprimary
  case last => exact hstopped.last.trans hlast
  case offline =>
    rintro index rfl
    exact hstopped.offline.trans (hoffline index (c.offlineNow_of_firstViolated cfg sample h))

theorem noEmergency_of_none (hactive : c.protocol.active) (hphase : runningPhase c.protocol.phase)
    (h : c.firstViolated cfg sample = none) : c.NoEmergency (c.update cfg sample now) := by
  have hrunning : (c.refresh cfg sample).data.runningViolation cfg = none := by
    rw [runningViolation_refresh, h, Option.map_none]
  obtain ⟨q, hstep, hupdate⟩ := c.update_protocol cfg now sample hactive
  obtain ⟨hcalm, hrequest, hinterrupted, hrestart⟩ := hstep.calm hphase hrunning
  constructor
  all_goals rw [hupdate]
  case phase => exact hcalm
  case request => exact hrequest
  case interrupted => exact hinterrupted
  case restart => exact hrestart

def enabledGroup : Controller := { protocol := { active := true, phase := .enabled } }

/-- Every tick of an enabled group stops it for the first violated source, or starts no
emergency. -/
theorem same_tick_emergency (hactive : c.protocol.active)
    (hphase : runningPhase c.protocol.phase) :
    (∀ source, c.firstViolated cfg sample = some source →
      (c.refresh cfg sample).StopsFor cfg source (c.update cfg sample now)) ∧
      (c.firstViolated cfg sample = none → c.NoEmergency (c.update cfg sample now)) :=
  ⟨fun _ => stopsFor_firstViolated cfg c sample now hactive hphase,
    noEmergency_of_none cfg c sample now hactive hphase⟩

theorem same_tick_emergency_fault :
    (enabledGroup.update chassis .faulted 7).data.primaryFailure =
        ⟨.faultDetected, none, some 0, 0x0008⟩ ∧
      (enabledGroup.update chassis .enabled 7).protocol.phase ≠ .emergencyQuickStop :=
  ⟨((same_tick_emergency chassis enabledGroup .faulted 7 rfl rfl).1 (.axis 0)
      (by decide +kernel)).primary.trans (by decide +kernel),
    ((same_tick_emergency chassis enabledGroup .enabled 7 rfl rfl).2 (by decide +kernel)).phase.1⟩

end Controller

section Devices

open Controller (enabledGroup)

def twoDevices : Config := { chassis with deviceCount := 2 }

/-- The enabled drive beside two devices, of which one is not enabled. -/
def Sample.ofLostDevice (lost : ℕ) : Sample :=
  { Sample.enabled with
    device := fun device => ⟨some (if device = lost then 0 else 2), some 0, some 0,
      some (if device = lost then 0 else 1)⟩ }

/-- The record of a violated device is the same for all of them. -/
theorem device_not_named : ¬∃ named : PrimaryFailure × FailureRecord × Option ℕ → Source,
    ∀ (c : Controller) (sample : Sample) (now : ℤ) (source : Source), c.protocol.active →
      runningPhase c.protocol.phase → c.firstViolated twoDevices sample = some source →
      named ((c.update twoDevices sample now).data.primaryFailure,
        (c.update twoDevices sample now).data.lastFailure,
        (c.update twoDevices sample now).data.offlineFeedback) = source := by
  rintro ⟨named, h⟩
  have hfirst := h enabledGroup (.ofLostDevice 0) 7 (.device 0) rfl rfl (by decide +kernel)
  have hsecond := h enabledGroup (.ofLostDevice 1) 7 (.device 1) rfl rfl (by decide +kernel)
  have hsame : ((enabledGroup.update twoDevices (.ofLostDevice 0) 7).data.primaryFailure,
        (enabledGroup.update twoDevices (.ofLostDevice 0) 7).data.lastFailure,
        (enabledGroup.update twoDevices (.ofLostDevice 0) 7).data.offlineFeedback) =
      ((enabledGroup.update twoDevices (.ofLostDevice 1) 7).data.primaryFailure,
        (enabledGroup.update twoDevices (.ofLostDevice 1) 7).data.lastFailure,
        (enabledGroup.update twoDevices (.ofLostDevice 1) 7).data.offlineFeedback) := by
    decide +kernel
  rw [hsame, hsecond] at hfirst
  cases hfirst

end Devices

end RobotDriver.EnableManager
