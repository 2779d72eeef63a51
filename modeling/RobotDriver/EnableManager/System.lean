import RobotDriver.Lib.LabelledRun
import RobotDriver.EnableManager.TickRefinement
import RobotDriver.EnableManager.Services
import RobotDriver.EnableManager.ModeSwitch

/-!
# The enable manager as a transition system

The controller, the controller manager's list and the position of every thread. A label is one
real-time update, one step of one thread, or a lifecycle transition; every interleaving is a list
of labels. Updates and lifecycle transitions are atomic.
-/

namespace RobotDriver.EnableManager

open LabelledRun

section Lifecycle

/-- The stores of `on_activate`. -/
def Protocol.activated (p : Protocol) : Protocol :=
  { p with
    driveCspRequested := false
    enableRequest := false
    disableRequest := false
    resetRequest := false
    enableHardwareReady := false
    jtcActivateFailedRequest := false
    jtcActivatedRequest := false
    emergencyJtcDeactivateRequest := false
    jtcDeactivationRequired := false
    restartRequired := false
    modeAbortRequested := false
    switchInProgress := false
    currentControlMode := .disabled
    enablePreemptRequested := false
    jtcDeactivateFailed := false
    owner := .internal
    phase := .startupSanitizing
    active := true }

/-- The stores of `on_deactivate`. -/
def Protocol.deactivated (p : Protocol) : Protocol :=
  { p with
    active := false
    modeAbortRequested := true
    phase := .inactive
    owner := .internal
    currentControlMode := .disabled }

namespace Controller

variable (cfg : Config) (c : Controller)

def baselineDevices (sample : Sample) : Option (ℕ → HandshakeDevice) :=
  if cfg.devices.all fun device =>
      ((c.data.devices device).baseline (sample.device device)).isSome then
    some fun device =>
      ((c.data.devices device).baseline (sample.device device)).getD (c.data.devices device)
  else none

/-- `on_activate`; a device without a readable sample leaves the controller inactive. -/
def onActivate (sample : Sample) : Controller :=
  match c.baselineDevices cfg sample with
  | none => c
  | some devices =>
    (c.onData fun d =>
      { d.setAllControlWords cfg 0x0000 with
        devices := devices
        driveModeDisplay := fun _ => unavailableMode
        offlineFeedback := none
        offlineNow := none
        deviceStage := false
        lastFailure := .cleared
        currentBatch := 0
        downwardStage := 0
        stageDeadlineNs := 0
        primaryFailure := {} }).onProtocol Protocol.activated

def onDeactivate : Controller :=
  (c.onData fun d =>
    ((d.setAllControlWords cfg 0x0000).requestDevicesEnable false).writeDevices).onProtocol
      Protocol.deactivated

theorem onActivate_protocol (sample : Sample) :
    c.onActivate cfg sample = c ∨ (c.onActivate cfg sample).protocol = c.protocol.activated := by
  unfold onActivate
  split
  · exact .inl rfl
  · exact .inr rfl

end Controller

end Lifecycle

structure System where
  world : World := {}
  enable : EnablePc := .idle none
  disable : DisablePc := .idle none
  reset : ResetPc := .idle none
  worker : WorkerPc := .idle
  mode : ModePc := .idle none
  fault : FaultPc := .idle

namespace System

def protocol (s : System) : Protocol := s.world.protocol

def data (s : System) : Data := s.world.controller.data

/-- A configured controller before its first activation. -/
def initial (controllers : List ControllerState) : System :=
  { world := { controllers := controllers } }

end System

inductive Label
  | tick (sample : Sample) (now : ℤ)
  | enable (env : Environment)
  | disable (env : Environment)
  | reset (env : Environment)
  | worker (env : Environment)
  | mode (env : Environment)
  | fault
  | activate (sample : Sample)
  | deactivate

/-- A step of a service thread, of the worker or of the fault subscription. -/
def Label.thread : Label → Bool
  | .tick _ _ => false
  | .activate _ => false
  | .deactivate => false
  | _ => true

namespace System

variable (cfg : Config)

/-- A lifecycle transition runs only from the state it leaves, and the mode service exists only
with a second motion controller. -/
def step (s : System) : Label → System
  | .tick sample now =>
    { s with world.controller := s.world.controller.update cfg sample now }
  | .enable env =>
    { s with
      world := s.world.access cfg (s.enable.access cfg env s.protocol)
      enable := s.enable.next cfg env s.world }
  | .disable env =>
    { s with
      world := s.world.access cfg (s.disable.access cfg env s.protocol)
      disable := s.disable.next cfg env s.world }
  | .reset env =>
    { s with
      world := s.world.access cfg s.reset.access
      reset := s.reset.next env s.world }
  | .worker env =>
    { s with
      world := s.world.access cfg (s.worker.access cfg env s.protocol)
      worker := s.worker.next cfg env s.world }
  | .mode env =>
    if cfg.motionModeSwitching then
      { s with
        world := s.world.access cfg (s.mode.access cfg env s.protocol)
        mode := s.mode.next cfg env s.world }
    else s
  | .fault =>
    { s with
      world := s.world.access cfg s.fault.access
      fault := s.fault.next s.world }
  | .activate sample =>
    if s.protocol.active then s
    else { s with world.controller := s.world.controller.onActivate cfg sample }
  | .deactivate =>
    if s.protocol.active then { s with world.controller := s.world.controller.onDeactivate cfg }
    else s

abbrev runFrom (s : System) (labels : List Label) : System := run (step cfg) s labels

theorem step_mode_of_switching (s : System) (env : Environment) (h : cfg.motionModeSwitching) :
    s.step cfg (.mode env) =
      { s with
        world := s.world.access cfg (s.mode.access cfg env s.protocol)
        mode := s.mode.next cfg env s.world } :=
  if_pos h

theorem step_mode_of_not_switching (s : System) (env : Environment) (h : ¬cfg.motionModeSwitching) :
    s.step cfg (.mode env) = s :=
  if_neg h

/-- The accesses that some service thread makes. -/
def threadOwns (a : Access) : Bool :=
  EnablePc.owns a || DisablePc.owns a || ResetPc.owns a || WorkerPc.owns a || ModePc.owns a ||
    FaultPc.owns a

/-- The access that a thread label makes. -/
def nextAccess (s : System) : Label → Option Access
  | .enable env => some (s.enable.access cfg env s.protocol)
  | .disable env => some (s.disable.access cfg env s.protocol)
  | .reset _ => some s.reset.access
  | .worker env => some (s.worker.access cfg env s.protocol)
  | .mode env => if cfg.motionModeSwitching then some (s.mode.access cfg env s.protocol) else none
  | .fault => some s.fault.access
  | .tick _ _ => none
  | .activate _ => none
  | .deactivate => none

theorem step_of_nextAccess {s : System} {l : Label} {a : Access} (h : s.nextAccess cfg l = some a) :
    (s.step cfg l).world = s.world.access cfg a ∧ threadOwns a := by
  cases l with
  | tick => cases h
  | activate => cases h
  | deactivate => cases h
  | enable env => cases h; exact ⟨rfl, by simp [threadOwns, s.enable.owns_access cfg env]⟩
  | disable env => cases h; exact ⟨rfl, by simp [threadOwns, s.disable.owns_access cfg env]⟩
  | reset env => cases h; exact ⟨rfl, by simp [threadOwns, s.reset.owns_access]⟩
  | worker env => cases h; exact ⟨rfl, by simp [threadOwns, s.worker.owns_access cfg env]⟩
  | fault => cases h; exact ⟨rfl, by simp [threadOwns, s.fault.owns_access]⟩
  | mode env =>
    by_cases hmode : cfg.motionModeSwitching
    · simp only [nextAccess, hmode, if_true, Option.some.injEq] at h
      subst h
      simp only [step, hmode, if_true]
      exact ⟨trivial, by simp [threadOwns, s.mode.owns_access cfg env]⟩
    · simp only [nextAccess, hmode] at h
      cases h

theorem step_of_nextAccess_none {s : System} {l : Label} (h : s.nextAccess cfg l = none)
    (hl : l.thread) : s.step cfg l = s := by
  cases l with
  | mode env =>
    by_cases hmode : cfg.motionModeSwitching
    · simp [nextAccess, hmode] at h
    · simp only [step, hmode]
      rfl
  | tick => cases hl
  | activate => cases hl
  | deactivate => cases hl
  | _ => cases h

theorem world_step {P : World → Prop} (s : System) (l : Label) (h : P s.world)
    (htick : ∀ sample now, l = .tick sample now → s.protocol.active → P { s.world with
      controller := s.world.controller.update cfg sample now })
    (haccess : ∀ a, s.nextAccess cfg l = some a → threadOwns a → P (s.world.access cfg a))
    (hactivate : ∀ sample, (s.world.controller.onActivate cfg sample).protocol =
      s.protocol.activated → P { s.world with
        controller := s.world.controller.onActivate cfg sample })
    (hdeactivate : P { s.world with controller := s.world.controller.onDeactivate cfg }) :
    P (s.step cfg l).world := by
  by_cases hl : l.thread
  · cases hnext : s.nextAccess cfg l with
    | none => rwa [step_of_nextAccess_none cfg hnext hl]
    | some a =>
      obtain ⟨hworld, howns⟩ := step_of_nextAccess cfg hnext
      rw [hworld]
      exact haccess a hnext howns
  · cases l with
    | tick sample now =>
      by_cases hactive : s.protocol.active
      · exact htick sample now rfl hactive
      · rwa [step, Controller.update_of_inactive cfg _ now sample (eq_false_of_ne_true hactive)]
    | activate sample =>
      simp only [step]
      split
      · exact h
      · rcases s.world.controller.onActivate_protocol cfg sample with hkept | hactivated
        · rwa [hkept]
        · exact hactivate sample hactivated
    | deactivate =>
      simp only [step]
      split
      · exact hdeactivate
      · exact h
    | _ => exact absurd rfl hl

theorem tick_step (s : System) (sample : Sample) (now : ℤ) :
    s.protocol.active = false ∧ s.step cfg (.tick sample now) = s ∨
      s.protocol.active ∧ ∃ running stopped q, TickStep cfg running stopped s.protocol q ∧
        (s.step cfg (.tick sample now)).protocol = q.writeDriveModes cfg := by
  by_cases hactive : s.world.controller.protocol.active
  · obtain ⟨q, hstep, hq⟩ := Controller.update_protocol cfg s.world.controller now sample hactive
    exact .inr ⟨hactive, _, _, q, hstep, hq⟩
  · have hinactive := eq_false_of_ne_true hactive
    refine .inl ⟨hinactive, ?_⟩
    simp only [step, Controller.update_of_inactive cfg _ now sample hinactive]

theorem activate_step (s : System) (sample : Sample) :
    ∃ w : World, s.step cfg (.activate sample) = { s with world := w } ∧
      (w.protocol = s.protocol ∨
        s.protocol.active = false ∧ w.protocol = s.protocol.activated) := by
  by_cases hactive : s.protocol.active
  · exact ⟨s.world, by rw [step, if_pos hactive], .inl rfl⟩
  · refine ⟨{ s.world with controller := s.world.controller.onActivate cfg sample }, ?_, ?_⟩
    · rw [step, if_neg hactive]
    · exact (s.world.controller.onActivate_protocol cfg sample).imp (congrArg Controller.protocol)
        fun hactivated => ⟨eq_false_of_ne_true hactive, hactivated⟩

theorem protocol_step {P : Protocol → Prop} (s : System) (l : Label) (h : P s.protocol)
    (htick : ∀ running stopped q, TickStep cfg running stopped s.protocol q →
      (∃ sample now, l = .tick sample now) → s.protocol.active →
      (s.step cfg l).protocol = q.writeDriveModes cfg → P (q.writeDriveModes cfg))
    (haccess : ∀ a, s.nextAccess cfg l = some a → threadOwns a → P (a.apply s.protocol))
    (hactivate : ∀ sample, l = .activate sample → s.protocol.active = false →
      P s.protocol.activated)
    (hdeactivate : l = .deactivate → s.protocol.active → P s.protocol.deactivated) :
    P (s.step cfg l).protocol := by
  by_cases hl : l.thread
  · cases hnext : s.nextAccess cfg l with
    | none => rwa [step_of_nextAccess_none cfg hnext hl]
    | some a =>
      obtain ⟨hworld, howns⟩ := step_of_nextAccess cfg hnext
      unfold protocol
      rw [hworld]
      exact haccess a hnext howns
  · cases l with
    | tick sample now =>
      rcases tick_step cfg s sample now with ⟨-, hsame⟩ | ⟨hactive, _, _, q, hstep, hq⟩
      · rwa [hsame]
      · rw [hq]
        exact htick _ _ q hstep ⟨sample, now, rfl⟩ hactive hq
    | activate sample =>
      obtain ⟨w, hstep, hw⟩ := activate_step cfg s sample
      rw [hstep]
      change P w.protocol
      rcases hw with hkept | ⟨hactive, hactivated⟩
      · rwa [hkept]
      · rw [hactivated]
        exact hactivate sample rfl hactive
    | deactivate =>
      by_cases hactive : s.protocol.active
      · rw [step, if_pos hactive]
        exact hdeactivate rfl hactive
      · rwa [step, if_neg hactive]
    | _ => exact absurd rfl hl

theorem storePhase_of_threadOwns {phase : Phase} (h : threadOwns (.storePhase phase)) :
    phase = .jtcDeactivating := by
  revert h
  cases phase <;> decide

theorem storeOwner_of_threadOwns {owner : Owner} (h : threadOwns (.storeOwner owner)) :
    owner = .disable := by
  revert h
  cases owner <;> decide

theorem exists_tick_of_entry {s : System} {l : Label} {P : Phase → Prop}
    (hP : ¬P .jtcDeactivating ∧ ¬P .startupSanitizing ∧ ¬P .inactive)
    (hbefore : ¬P s.protocol.phase) (hentry : P (s.step cfg l).protocol.phase) :
    ∃ sample now, l = .tick sample now ∧ s.protocol.active ∧
      P (s.world.controller.update cfg sample now).protocol.phase := by
  by_contra hnone
  refine world_step (P := fun w => ¬P w.protocol.phase) cfg s l hbefore
    (fun sample now hl hactive hupdate => hnone ⟨sample, now, hl, hactive, hupdate⟩)
    (fun a _ ha => ?_) (fun sample hactivated => ?_) hP.2.2 hentry
  · cases a with
    | storePhase stored => exact storePhase_of_threadOwns ha ▸ hP.1
    | _ => exact hbefore
  · rw [World.protocol, hactivated]
    exact hP.2.1

end System

section Scenario

/-- A sample in which every axis shows one status word and mode and every slave one AL state. -/
def Sample.uniform (statusWord mode alState : ℚ) : Sample where
  statusWord _ := some statusWord
  mode _ := some mode
  offlineSource _ := some alState
  readyState _ := none
  device _ := ⟨none, none, none, none⟩

/-- The chassis drive in CSV with its slave in OP: disabled, enabled, faulted. -/
def Sample.disabled : Sample := .uniform 0x0040 9 8

def Sample.enabled : Sample := .uniform 0x0027 9 8

def Sample.faulted : Sample := .uniform 0x0008 9 8

/-- The enabled drive in CSP. -/
def Sample.enabledCsp : Sample := .uniform 0x0027 8 8

def chassisControllers : List ControllerState :=
  [⟨"swerve_controller", "inactive"⟩, ⟨"wheel_trajectory_controller", "inactive"⟩]

/-- Activation and the sanitizing sequence of drives that are disabled. -/
def startUp : List Label :=
  [.activate .disabled, .tick .disabled 1, .tick .disabled 2, .tick .disabled 3]

/-- An enable call up to its last wait, and the updates that answer it. -/
def enableGroup : List Label :=
  List.replicate 8 (.enable {}) ++ [.tick .disabled 4, .tick .enabled 5] ++
    List.replicate 12 (.enable {}) ++ [.tick .enabled 6]

end Scenario

end RobotDriver.EnableManager
