import RobotDriver.EnableManager.ControllersAtRest
import RobotDriver.EnableManager.RestartLatch

/-!
# Controllers that still have to be switched off

`jtc_deactivation_required_` says that the motion controllers may be active. Outside the enabled
group somebody then still switches them off: the emergency request waits for the worker, a thread
is on its way, or a restart is required. While it is down they are at rest.
-/

namespace RobotDriver.EnableManager

open LabelledRun

variable {cfg : Config}

section Threads

/-- The call deactivates the controllers, and ends with that done or with a restart required. -/
def OrderedPc.deactivates : OrderedPc → Bool
  | .switching _ => true
  | .setRestart => true
  | _ => false

def WorkerPc.deactivates : WorkerPc → Bool
  | .loadRequired => true
  | .switching _ => true
  | .ordered pc => pc.deactivates
  | _ => false

/-- The call deactivates the controllers or is about to request it. -/
def DisablePc.deactivates : DisablePc → Bool
  | .forceEmergency => true
  | .ordered _ pc => pc.deactivates
  | _ => false

def ModePc.deactivates : ModePc → Bool
  | .switching _ _ (.converge true _ .owner) => true
  | .switching _ _ (.converge true _ .emergency) => true
  | _ => false

/-- The accesses that may leave the controllers active with nobody to switch them off. -/
def Access.uncovers : Access → Bool
  | .takeEmergencyDeactivation => true
  | .storeDeactivationRequired required => required
  | .storeRestartRequired required => !required
  | _ => false

/-- The controllers need no deactivation, or it is pending, or a restart is required. -/
def Protocol.Covered (p : Protocol) (deactivates : Bool) : Prop :=
  p.jtcDeactivationRequired → p.restartRequired ∨ p.emergencyJtcDeactivateRequest ∨ deactivates

variable {p q : Protocol} {b b' : Bool} {running stopped : Prop}

instance : Decidable (p.Covered b) := inferInstanceAs (Decidable (_ → _))

theorem Protocol.Covered.mono (h : p.Covered b) (hb : b → b') : p.Covered b' :=
  fun hrequired => (h hrequired).imp id (Or.imp id hb)

theorem Protocol.Covered.of_deactivates (h : b = true) : p.Covered b := fun _ => .inr (.inr h)

theorem Protocol.Covered.apply {a : Access} (h : p.Covered b) (ha : a.uncovers = false) :
    (a.apply p).Covered b := by
  cases a with
  | storeDeactivationRequired required =>
    cases ha
    exact nofun
  | storeRestartRequired required =>
    rw [Access.uncovers, Bool.not_eq_false'] at ha
    exact fun _ => .inl ha
  | requestEmergencyDeactivation => exact fun _ => .inr (.inl rfl)
  | takeEmergencyDeactivation => cases ha
  | _ => exact h

theorem Access.uncovers_of_isSwitch {a : Access} (h : a.isSwitch) : a.uncovers = false := by
  cases a <;> first | rfl | cases h

theorem EnablePc.uncovers_access (env : Environment) (pc : EnablePc) (h : pc ≠ .setRequired) :
    (pc.access cfg env p).uncovers = false := by
  cases pc with
  | setRequired => exact absurd rfl h
  | switching sub =>
    rcases sub.running_or_returned with hrunning | ⟨result, rfl⟩
    · rw [access_switching hrunning]
      exact Access.uncovers_of_isSwitch (sub.isSwitch_access cfg env p)
    · cases result <;> rfl
  | _ => rfl

theorem ResetPc.uncovers_access (pc : ResetPc) : pc.access.uncovers = false := by
  cases pc <;> rfl

theorem FaultPc.uncovers_access (pc : FaultPc) : pc.access.uncovers = false := by
  cases pc <;> rfl

theorem OrderedPc.covered_next (cfg : Config) (seen : Phase) (env : Environment) {w : World}
    (pc : OrderedPc)
    (h : w.protocol.Covered (pc.deactivates || b)) :
    ((pc.access cfg env w.protocol).apply w.protocol).Covered
      ((pc.next cfg seen env w).deactivates || b) := by
  cases pc with
  | setRestart => exact fun _ => .inl rfl
  | switching sub =>
    rcases sub.running_or_returned with hrunning | ⟨result, rfl⟩
    · rw [next_switching hrunning]
      exact .of_deactivates rfl
    · cases result with
      | success => exact nofun
      | _ => exact .of_deactivates rfl
  | storePhase => exact .of_deactivates rfl
  | clearFailed => exact h.mono (fun hb => by simp_all [deactivates])
  | _ => exact h

theorem WorkerPc.covered_next {env : Environment} {w : World} (pc : WorkerPc)
    (h : w.protocol.Covered (pc.deactivates || b)) :
    ((pc.access cfg env w.protocol).apply w.protocol).Covered
      ((pc.next cfg env w).deactivates || b) := by
  cases pc with
  | takeEmergency =>
    by_cases hemergency : w.protocol.emergencyJtcDeactivateRequest
    · refine .of_deactivates ?_
      simp [next, hemergency, deactivates]
    · intro hrequired
      rcases h hrequired with hrestart | hpending | hother
      · exact .inl hrestart
      · exact absurd hpending hemergency
      · exact .inr (.inr (by simp_all [deactivates]))
  | loadRequired =>
    intro hrequired
    refine .inr (.inr ?_)
    have hset : w.protocol.jtcDeactivationRequired = true := hrequired
    simp [next, hset, deactivates]
  | switching sub =>
    rcases sub.running_or_returned with hrunning | ⟨result, rfl⟩
    · rw [next_switching hrunning]
      exact .of_deactivates rfl
    · cases result with
      | success => exact fun hrequired => by cases hrequired
      | _ => exact fun _ => .inl rfl
  | ordered sub =>
    have hnext := sub.covered_next cfg .enabled env h
    cases sub <;> exact hnext
  | _ => exact (h.apply rfl).mono fun hb => by simpa [deactivates] using .inr hb

theorem DisablePc.covered_next (cfg : Config) (env : Environment) {w : World} (pc : DisablePc)
    (h : w.protocol.Covered (pc.deactivates || b)) :
    ((pc.access cfg env w.protocol).apply w.protocol).Covered
      ((pc.next cfg env w).deactivates || b) := by
  cases pc with
  | forceRequired => exact .of_deactivates rfl
  | forceEmergency => exact fun _ => .inr (.inl rfl)
  | ordered seen sub =>
    have hnext := sub.covered_next cfg seen env h
    cases sub <;> exact hnext
  | _ => exact (h.apply rfl).mono fun hb => by simpa [deactivates] using .inr hb

/-- A mode switch that converges without a restart is before its first store. -/
def ExecPc.latches : ExecPc → Bool
  | .converge restart _ pc => restart || pc = .restart
  | _ => true

def ModePc.latches : ModePc → Bool
  | .switching _ _ pc => pc.latches
  | _ => true

/-- The position is not in `convergeAfterUnsafeModeSwitch`. -/
def ExecPc.switches : ExecPc → Bool
  | .converge _ _ _ => false
  | _ => true

theorem ExecPc.latches_plan (target : ControlMode) (before : List ControllerState) :
    (plan cfg target before).latches := by
  unfold plan
  split <;> rfl

theorem ExecPc.latches_afterSwitch (target : ControlMode) (reply : Option Bool)
    (observed : ModeSwitchState) : (afterSwitch cfg target reply observed).latches := by
  unfold afterSwitch
  split
  · rfl
  · split_ifs <;> rfl

theorem ExecPc.latches_next (cfg : Config) (target source : ControlMode) (env : Environment)
    (w : World) {pc : ExecPc} (h : pc.switches) : (pc.next cfg target source env w).latches := by
  cases pc with
  | converge => cases h
  | checkService before =>
    simp only [next]
    split_ifs
    · rfl
    · rfl
    · exact latches_plan target before
  | leave before drive =>
    simp only [next]
    split
    · rfl
    · exact latches_plan target before
    · rfl
  | recheckPhase reply observed =>
    simp only [next]
    split_ifs
    · rfl
    · exact latches_afterSwitch target reply observed
  | enter drive =>
    simp only [next]
    split <;> rfl
  | release exit => cases exit <;> simp [next, latches]
  | await => rfl
  | returned => rfl
  | storeMode => rfl
  | preemptRestart => rfl
  | preemptMode => rfl
  | _ =>
    simp only [next]
    split_ifs <;> rfl

theorem ExecPc.uncovers_access (target : ControlMode) (env : Environment) {pc : ExecPc}
    (h : pc.switches) : (pc.access cfg target env p).uncovers = false := by
  have hdrive : ∀ drive : DrivePc, (drive.access cfg target).uncovers = false := by
    intro drive
    cases drive with
    | store =>
      simp only [DrivePc.access]
      split <;> rfl
    | _ => rfl
  cases pc with
  | converge => cases h
  | claimSwitch =>
    simp only [access]
    split <;> rfl
  | leave before drive => exact hdrive drive
  | enter drive => exact hdrive drive
  | await request => exact Access.uncovers_of_isSwitch (SwitchReply.isSwitch_access request _)
  | _ => rfl

theorem ModePc.latches_next (cfg : Config) (env : Environment) (w : World) {pc : ModePc}
    (h : pc.latches) (hguard : pc.convergesWithoutRestart = false) :
    (pc.next cfg env w).latches := by
  cases pc with
  | switching target source sub =>
    by_cases hswitches : sub.switches
    · have hnext := ExecPc.latches_next cfg target source env w hswitches
      cases sub <;> exact hnext
    · cases sub with
      | converge restart result store =>
        cases restart with
        | false =>
          obtain rfl : store = .restart := by simpa [latches, ExecPc.latches] using h
          cases hguard
        | true => cases store <;> rfl
      | _ => exact absurd rfl hswitches
  | releaseOwner result current => cases current <;> rfl
  | _ =>
    first
      | rfl
      | (simp only [next]; split_ifs <;> rfl)

theorem ModePc.covered_next (cfg : Config) (env : Environment) {w : World} {pc : ModePc}
    (hlatches : pc.latches) (hguard : pc.convergesWithoutRestart = false)
    (h : w.protocol.Covered (pc.deactivates || b)) :
    ((pc.access cfg env w.protocol).apply w.protocol).Covered
      ((pc.next cfg env w).deactivates || b) := by
  cases pc with
  | switching target source sub =>
    by_cases hswitches : sub.switches
    · have happly : ((sub.access cfg target env w.protocol).apply w.protocol).Covered b := by
        refine (h.apply (sub.uncovers_access target env hswitches)).mono fun hb => ?_
        cases sub <;> first | exact hb | cases hswitches
      cases sub <;> exact happly.mono fun hb => by simp [hb]
    · cases sub with
      | converge restart result store =>
        cases restart with
        | false =>
          obtain rfl : store = .restart := by simpa [latches, ExecPc.latches] using hlatches
          cases hguard
        | true =>
          cases store with
          | restart => exact fun _ => .inl rfl
          | required | owner => exact .of_deactivates rfl
          | emergency => exact fun _ => .inr (.inl rfl)
          | _ => exact h
      | _ => exact absurd rfl hswitches
  | _ => exact (h.apply rfl).mono fun hb => by simpa [deactivates] using .inr hb

/-- No access of another thread reports an outcome or stores a phase but `kJtcDeactivating`. -/
def Access.foreignToEnable : Access → Bool
  | .raiseOutcome _ => false
  | .storePhase phase => phase = .jtcDeactivating
  | _ => true

theorem Access.foreignToEnable_of_owns {a : Access}
    (h : DisablePc.owns a || (ResetPc.owns a || (WorkerPc.owns a || (ModePc.owns a ||
      FaultPc.owns a)))) : a.foreignToEnable := by
  cases a with
  | raiseOutcome => cases h
  | storePhase phase =>
    revert h
    cases phase <;> decide
  | _ => rfl

/-- The activation has failed and its outcome is not reported yet. -/
def EnablePc.failing : EnablePc → Bool
  | .setEmergency => true
  | .loadPhase activated => !activated
  | .raiseOutcome activated => !activated
  | _ => false

/-- The call has seen `kIdle` and has not started to switch controllers. -/
def EnablePc.starting : EnablePc → Bool
  | .claimOwner => true
  | .clearResult => true
  | .clearReady => true
  | .raise => true
  | .waitHardware => true
  | .checkResult => true
  | .checkHardware => true
  | .setRequired => true
  | _ => false

theorem EnablePc.failed_apply {env : Environment} {pc : EnablePc}
    (h : ((pc.access cfg env p).apply p).jtcActivateFailedRequest) :
    p.jtcActivateFailedRequest ∨ pc = .raiseOutcome false := by
  cases pc with
  | raiseOutcome activated =>
    cases activated with
    | false => exact .inr rfl
    | true => exact .inl (by simpa [access, Access.apply] using h)
  | switching sub =>
    refine .inl ?_
    rcases sub.running_or_returned with hrunning | ⟨result, rfl⟩
    · rw [access_switching hrunning] at h
      obtain ⟨switching, hswitch⟩ :=
        Access.apply_of_isSwitch (sub.isSwitch_access cfg env p) p
      rw [hswitch] at h
      exact h
    · cases result <;> exact h
  | _ => exact .inl h

theorem EnablePc.failing_next {env : Environment} {w : World} {pc : EnablePc}
    (h : (pc.next cfg env w).failing) :
    pc.failing ∨ ((pc.access cfg env w.protocol).apply w.protocol).Covered b := by
  cases pc with
  | setEmergency => exact .inl rfl
  | loadPhase activated =>
    cases activated with
    | false => exact .inl rfl
    | true =>
      simp only [next, reportOutcome] at h
      split at h <;> cases h
  | switching sub =>
    rcases sub.running_or_returned with hrunning | ⟨result, rfl⟩
    · rw [next_switching hrunning] at h
      cases h
    · cases result with
      | success =>
        simp only [next, reportOutcome] at h
        split at h <;> cases h
      | failed => exact .inr nofun
      | ambiguous => exact .inr fun _ => .inl rfl
  | clearResult => cases h
  | clearReady => cases h
  | raise => cases h
  | setRequired => cases h
  | raiseOutcome => cases h
  | _ =>
    simp only [next] at h
    split_ifs at h <;> cases h

theorem EnablePc.starting_next {env : Environment} {w : World} {pc : EnablePc}
    (h : (pc.next cfg env w).starting) : pc.starting ∨ w.protocol.phase = .idle := by
  cases pc with
  | checkIdle =>
    simp only [next] at h
    split at h
    · exact .inr ‹_›
    · cases h
  | switching sub =>
    rcases sub.running_or_returned with hrunning | ⟨result, rfl⟩
    · rw [next_switching hrunning] at h
      cases h
    · cases result with
      | success =>
        simp only [next, reportOutcome] at h
        split at h <;> cases h
      | _ => cases h
  | loadPhase activated =>
    simp only [next, reportOutcome] at h
    split at h <;> cases h
  | claimOwner => exact .inl rfl
  | clearResult => exact .inl rfl
  | clearReady => exact .inl rfl
  | raise => exact .inl rfl
  | waitHardware => exact .inl rfl
  | checkResult => exact .inl rfl
  | checkHardware => exact .inl rfl
  | setRequired => exact .inl rfl
  | setEmergency => cases h
  | raiseOutcome => cases h
  | _ =>
    simp only [next] at h
    split_ifs at h <;> cases h

/-- The phases from the start of an enable sequence to its activation. -/
def Phase.enables : Phase → Bool
  | .enabling => true
  | .interBatchDelay => true
  | .jtcActivating => true
  | _ => false

end Threads

section Updates

variable {p q : Protocol} {b : Bool} {running stopped : Prop}

theorem TickStep.covered (h : TickStep cfg running stopped p q) (hc : p.Covered b) :
    q.Covered b := by
  cases h with
  | emergency | enableEmergency | escalate => exact fun _ => .inr (.inl rfl)
  | _ => exact hc

theorem TickStep.failed (h : TickStep cfg running stopped p q)
    (hq : q.jtcActivateFailedRequest) :
    p.jtcActivateFailedRequest ∧ (q.phase.enables → p.phase.enables) := by
  cases h with
  | startEnable => cases hq
  | activateFailed => cases hq
  | rest => exact ⟨hq, id⟩
  | rejectEnable => exact ⟨hq, id⟩
  | answerDisable => exact ⟨hq, id⟩
  | hardwareReady hphase => exact ⟨hq, fun _ => by rw [hphase]; rfl⟩
  | enabling _ hphase => exact ⟨hq, fun _ => by rcases hphase with hp | hp <;> rw [hp] <;> rfl⟩
  | emergency _ next _ _ hnext | enableEmergency next _ hnext | finishStartup next _ hnext
  | finishDisabling _ next _ hnext | finishRollback _ next _ hnext | finishReset _ next _ hnext
  | finishEmergency _ next _ hnext =>
    exact ⟨hq, by rcases hnext with rfl | rfl <;> nofun⟩
  | answerReset _ next hphase =>
    exact ⟨hq, by rcases hphase with ⟨-, rfl, -⟩ | ⟨-, rfl | rfl, -⟩ <;> nofun⟩
  | resetting next hphase =>
    exact ⟨hq, by rcases hphase with ⟨-, rfl⟩ | ⟨-, rfl⟩ <;> nofun⟩
  | _ => exact ⟨hq, nofun⟩

theorem TickStep.covered_or_running (h : TickStep cfg running stopped p q)
    (hphase : runningPhase p.phase) (hfailed : p.jtcActivateFailedRequest = false)
    (hdisable : p.phase = .enabled ∨ p.phase = .jtcDeactivating → p.disableRequest = false) :
    q.Covered b ∨ runningPhase q.phase := by
  cases h with
  | rest => exact .inr hphase
  | emergency => exact .inl fun _ => .inr (.inl rfl)
  | activateFailed _ _ hrequest => exact absurd hrequest (ne_true_of_eq_false hfailed)
  | activated => exact .inr rfl
  | startDisabling hstarts _ hrequest =>
    exact absurd hrequest (ne_true_of_eq_false (hdisable hstarts))
  | _ =>
    exfalso
    simp only [runningPhase, Bool.or_eq_true, decide_eq_true_eq] at hphase
    rcases hphase with (hp | hp) | hp <;> simp_all

end Updates

namespace System

/-- A thread deactivates the controllers or is about to request it. -/
def deactivates (s : System) : Bool :=
  s.worker.deactivates || (s.disable.deactivates || s.mode.deactivates)

def Covered (s : System) : Prop := s.protocol.Covered s.deactivates

instance (s : System) : Decidable s.Covered := inferInstanceAs (Decidable (_ → _))

/-- The mode switch does not converge without a restart, the enable call claims the controllers
while the group waits for them, and a disable request of an enabled group comes after the
deactivation. -/
def deactivationGuard (cfg : Config) (s : System) : Label → Prop
  | .tick _ _ =>
    s.protocol.phase = .enabled ∨ s.protocol.phase = .jtcDeactivating →
      s.protocol.disableRequest → s.Covered
  | .enable _ => s.enable = .setRequired → s.protocol.phase = .jtcActivating
  | .mode env => ¬s.convergesWithoutRestart cfg (.mode env)
  | _ => True

instance (s : System) : ∀ l, Decidable (s.deactivationGuard cfg l)
  | .tick _ _ => inferInstanceAs (Decidable (_ → _ → _))
  | .enable _ => inferInstanceAs (Decidable (_ → _))
  | .mode _ => inferInstanceAs (Decidable ¬(_ ∧ _))
  | .disable _ => .isTrue trivial
  | .reset _ => .isTrue trivial
  | .worker _ => .isTrue trivial
  | .fault => .isTrue trivial
  | .activate _ => .isTrue trivial
  | .deactivate => .isTrue trivial

structure DeactivationInv (s : System) : Prop where
  inactive : s.protocol.active = false →
    s.protocol.phase = .inactive ∨ s.protocol.phase = .jtcDeactivating
  running : s.protocol.active → s.Covered ∨ runningPhase s.protocol.phase
  failed : s.protocol.jtcActivateFailedRequest → s.Covered
  failing : s.enable.failing → s.Covered
  fresh : s.enable.starting → s.protocol.jtcActivateFailedRequest →
    s.protocol.phase.enables = false
  latches : s.mode.latches

theorem covered_step {s : System} {l : Label} (hc : s.Covered) (hlatches : s.mode.latches)
    (hguard : s.deactivationGuard cfg l) (hl : ∀ env, l = .enable env → s.enable ≠ .setRequired) :
    (s.step cfg l).Covered := by
  cases l with
  | tick sample now =>
    rcases s.tick_step cfg sample now with ⟨-, hsame⟩ | ⟨-, _, _, q, hstep, hq⟩
    · rwa [hsame]
    · have hcovered : (q.writeDriveModes cfg).Covered s.deactivates := hstep.covered hc
      rw [← hq] at hcovered
      exact hcovered
  | enable env => exact hc.apply (s.enable.uncovers_access env (hl env rfl))
  | disable env =>
    have hother : s.protocol.Covered (s.disable.deactivates ||
        (s.worker.deactivates || s.mode.deactivates)) :=
      hc.mono fun hb => by rw [Bool.or_left_comm]; exact hb
    have hnext := s.disable.covered_next cfg env hother
    exact hnext.mono fun hb => by rw [Bool.or_left_comm] at hb; exact hb
  | reset env => exact hc.apply s.reset.uncovers_access
  | worker env => exact s.worker.covered_next hc
  | mode env =>
    by_cases hmode : cfg.motionModeSwitching
    · have hother : s.protocol.Covered (s.mode.deactivates ||
          (s.worker.deactivates || s.disable.deactivates)) :=
        hc.mono fun hb => by rw [Bool.or_comm, Bool.or_assoc]; exact hb
      have hkept : s.mode.convergesWithoutRestart = false :=
        eq_false_of_ne_true fun hconverges => hguard ⟨hmode, hconverges⟩
      have hnext := ModePc.covered_next cfg env hlatches hkept hother
      rw [step_mode_of_switching cfg s env hmode]
      exact hnext.mono fun hb => by rw [Bool.or_comm, Bool.or_assoc] at hb; exact hb
    · rwa [step_mode_of_not_switching cfg s env hmode]
  | fault => exact hc.apply s.fault.uncovers_access
  | activate sample =>
    obtain ⟨w, hstep, hw⟩ := s.activate_step cfg sample
    rw [hstep]
    change w.protocol.Covered s.deactivates
    rcases hw with hw | ⟨-, hw⟩
    · rw [hw]
      exact hc
    · rw [hw]
      exact nofun
  | deactivate =>
    by_cases hactive : s.protocol.active
    · rw [step, if_pos hactive]
      exact hc
    · rwa [step, if_neg hactive]

/-- What a step of another thread leaves of the enable call and of the phase. -/
structure OtherStep (s s' : System) : Prop where
  enable : s'.enable = s.enable
  active : s'.protocol.active = s.protocol.active
  failed : s'.protocol.jtcActivateFailedRequest = s.protocol.jtcActivateFailedRequest
  phase : s'.protocol.phase = s.protocol.phase ∨ s'.protocol.phase = .jtcDeactivating

theorem DeactivationInv.other {s s' : System} (h : s.DeactivationInv) (hstep : OtherStep s s')
    (hc : s.Covered → s'.Covered) (hlatches : s'.mode.latches) : s'.DeactivationInv where
  inactive hinactive := by
    rw [hstep.active] at hinactive
    rcases hstep.phase with hphase | hphase
    · rw [hphase]
      exact h.inactive hinactive
    · exact .inr hphase
  running hactive := by
    rw [hstep.active] at hactive
    refine (h.running hactive).imp hc fun hrunning => ?_
    rcases hstep.phase with hphase | hphase
    · rw [hphase]
      exact hrunning
    · rw [hphase]
      rfl
  failed hfailed := hc (h.failed (hstep.failed ▸ hfailed))
  failing hfailing := hc (h.failing (hstep.enable ▸ hfailing))
  fresh hstarting hfailed := by
    rw [hstep.enable] at hstarting
    rw [hstep.failed] at hfailed
    rcases hstep.phase with hphase | hphase
    · rw [hphase]
      exact h.fresh hstarting hfailed
    · rw [hphase]
      rfl
  latches := hlatches

theorem otherStep_of_access {s s' : System} {a : Access}
    (hworld : s'.protocol = a.apply s.protocol) (henable : s'.enable = s.enable)
    (ha : a.foreignToEnable) : OtherStep s s' := by
  refine ⟨henable, ?_, ?_, ?_⟩ <;> rw [hworld]
  · cases a <;> rfl
  · cases a with
    | raiseOutcome => cases ha
    | _ => rfl
  · cases a with
    | storePhase phase => exact .inr (of_decide_eq_true ha)
    | _ => exact .inl rfl

theorem deactivationInv_thread {s : System} {l : Label} (h : s.DeactivationInv)
    (hguard : s.deactivationGuard cfg l) (hl : l.thread) (henable : ∀ env, l ≠ .enable env) :
    (s.step cfg l).DeactivationInv := by
  have hc : s.Covered → (s.step cfg l).Covered := fun hc =>
    covered_step hc h.latches hguard fun env heq => absurd heq (henable env)
  cases l with
  | disable env =>
    refine h.other (otherStep_of_access (a := s.disable.access cfg env s.protocol) rfl rfl ?_) hc
      h.latches
    exact Access.foreignToEnable_of_owns (by simp [s.disable.owns_access cfg env s.protocol])
  | reset env =>
    refine h.other (otherStep_of_access (a := s.reset.access) rfl rfl ?_) hc h.latches
    exact Access.foreignToEnable_of_owns (by simp [s.reset.owns_access])
  | worker env =>
    refine h.other (otherStep_of_access (a := s.worker.access cfg env s.protocol) rfl rfl ?_) hc
      h.latches
    exact Access.foreignToEnable_of_owns (by simp [s.worker.owns_access cfg env s.protocol])
  | mode env =>
    by_cases hmode : cfg.motionModeSwitching
    · have hstep := step_mode_of_switching cfg s env hmode
      have hother : OtherStep s (s.step cfg (.mode env)) := by
        rw [hstep]
        refine otherStep_of_access (a := s.mode.access cfg env s.protocol) rfl rfl ?_
        exact Access.foreignToEnable_of_owns (by simp [s.mode.owns_access cfg env s.protocol])
      refine h.other hother hc ?_
      rw [hstep]
      exact ModePc.latches_next cfg env s.world h.latches
        (eq_false_of_ne_true fun hconverges => hguard ⟨hmode, hconverges⟩)
    · rwa [step_mode_of_not_switching cfg s env hmode]
  | fault =>
    refine h.other (otherStep_of_access (a := s.fault.access) rfl rfl ?_) hc h.latches
    exact Access.foreignToEnable_of_owns (by simp [s.fault.owns_access])
  | enable env => exact absurd rfl (henable env)
  | _ => cases hl

theorem deactivationInv_enable {s : System} {env : Environment} (h : s.DeactivationInv)
    (hguard : s.deactivationGuard cfg (.enable env)) : (s.step cfg (.enable env)).DeactivationInv := by
  have hkept : ∀ a : Access, EnablePc.owns a → (a.apply s.protocol).active = s.protocol.active ∧
      (a.apply s.protocol).phase = s.protocol.phase := by
    intro a ha
    cases a <;> first | exact ⟨rfl, rfl⟩ | cases ha
  obtain ⟨hactive, hphase⟩ := hkept _ (s.enable.owns_access cfg env s.protocol)
  have hsame : (s.step cfg (.enable env)).protocol.phase = s.protocol.phase := hphase
  by_cases hset : s.enable = .setRequired
  · have hactivating : s.protocol.phase = .jtcActivating := hguard hset
    have hfresh : s.protocol.jtcActivateFailedRequest = false := by
      refine eq_false_of_ne_true fun hfailed => ?_
      have hphase := h.fresh (by rw [hset]; rfl) hfailed
      rw [hactivating] at hphase
      cases hphase
    have hfailed : (s.step cfg (.enable env)).protocol.jtcActivateFailedRequest = false := by
      change ((s.enable.access cfg env s.protocol).apply s.protocol).jtcActivateFailedRequest = false
      rw [hset]
      exact hfresh
    have hnext : (s.step cfg (.enable env)).enable = .switching .claim := by
      change s.enable.next cfg env s.world = _
      rw [hset]
      rfl
    constructor
    case inactive =>
      rw [hsame]
      exact fun hinactive => h.inactive (hactive.symm.trans hinactive)
    case running =>
      rw [hsame, hactivating]
      exact fun _ => .inr rfl
    case failed => exact fun hset => absurd hset (ne_true_of_eq_false hfailed)
    case failing =>
      rw [hnext]
      exact nofun
    case fresh =>
      rw [hnext]
      exact nofun
    case latches => exact h.latches
  · have hc : s.Covered → (s.step cfg (.enable env)).Covered := fun hc =>
      covered_step hc h.latches hguard fun _ _ => hset
    constructor
    case inactive =>
      rw [hsame]
      exact fun hinactive => h.inactive (hactive.symm.trans hinactive)
    case running =>
      rw [hsame]
      exact fun hrunning => (h.running (hactive.symm.trans hrunning)).imp_left hc
    case failed =>
      intro hfailed
      rcases EnablePc.failed_apply hfailed with hbefore | hreports
      · exact hc (h.failed hbefore)
      · exact hc (h.failing (by rw [hreports]; rfl))
    case failing =>
      intro hfailing
      rcases EnablePc.failing_next hfailing with hbefore | hcovered
      · exact hc (h.failing hbefore)
      · exact hcovered
    case fresh =>
      rw [hsame]
      intro hstarting hfailed
      rcases EnablePc.starting_next hstarting with hbefore | hidle
      · rcases EnablePc.failed_apply hfailed with hraised | hreports
        · exact h.fresh hbefore hraised
        · rw [hreports] at hbefore
          cases hbefore
      · change s.protocol.phase = .idle at hidle
        rw [hidle]
        rfl
    case latches => exact h.latches

theorem deactivationInv_tick {s : System} {sample : Sample} {now : ℤ} (h : s.DeactivationInv)
    (hguard : s.deactivationGuard cfg (.tick sample now)) :
    (s.step cfg (.tick sample now)).DeactivationInv := by
  have hc : s.Covered → (s.step cfg (.tick sample now)).Covered := fun hc =>
    covered_step hc h.latches hguard nofun
  rcases s.tick_step cfg sample now with ⟨-, hsame⟩ | ⟨hactive, _, _, q, hstep, hq⟩
  · rwa [hsame]
  have hfailed : (s.step cfg (.tick sample now)).protocol.jtcActivateFailedRequest →
      s.protocol.jtcActivateFailedRequest ∧
        ((s.step cfg (.tick sample now)).protocol.phase.enables → s.protocol.phase.enables) := by
    rw [hq]
    exact hstep.failed
  constructor
  case inactive =>
    intro hinactive
    rw [hq] at hinactive
    exact absurd ((hstep.active.trans hactive).symm.trans hinactive) (by decide)
  case running =>
    intro _
    by_cases hcovered : s.Covered
    · exact .inl (hc hcovered)
    · have hphase := (h.running hactive).resolve_left hcovered
      have hnext : q.Covered s.deactivates ∨ runningPhase q.phase := by
        refine hstep.covered_or_running hphase (eq_false_of_ne_true fun hset => ?_)
          fun henabled => eq_false_of_ne_true fun hset => ?_
        · exact hcovered (h.failed hset)
        · exact hcovered (hguard henabled hset)
      have hwritten : (q.writeDriveModes cfg).Covered s.deactivates ∨
          runningPhase (q.writeDriveModes cfg).phase := hnext
      rw [← hq] at hwritten
      exact hwritten
  case failed => exact fun hset => hc (h.failed (hfailed hset).1)
  case failing => exact fun hfailing => hc (h.failing hfailing)
  case fresh =>
    intro hstarting hset
    obtain ⟨hbefore, hphase⟩ := hfailed hset
    refine eq_false_of_ne_true fun hnext => ?_
    exact absurd (hphase hnext) (ne_true_of_eq_false (h.fresh hstarting hbefore))
  case latches => exact h.latches

theorem deactivationInv_activate {s : System} {sample : Sample} (h : s.DeactivationInv) :
    (s.step cfg (.activate sample)).DeactivationInv := by
  obtain ⟨w, hstep, hw⟩ := s.activate_step cfg sample
  rw [hstep]
  rcases hw with hw | ⟨-, hw⟩
  · have hother : OtherStep s { s with world := w } :=
      ⟨rfl, congrArg Protocol.active hw, congrArg Protocol.jtcActivateFailedRequest hw,
        .inl (congrArg Protocol.phase hw)⟩
    refine h.other hother (fun hc => ?_) h.latches
    change w.protocol.Covered s.deactivates
    rw [hw]
    exact hc
  · have hcovered : ({ s with world := w } : System).Covered := by
      change w.protocol.Covered s.deactivates
      rw [hw]
      exact nofun
    constructor
    case inactive =>
      intro hinactive
      change w.protocol.active = false at hinactive
      rw [hw] at hinactive
      cases hinactive
    case running => exact fun _ => .inl hcovered
    case failed => exact fun _ => hcovered
    case failing => exact fun _ => hcovered
    case fresh =>
      intro _ hset
      change w.protocol.jtcActivateFailedRequest = true at hset
      rw [hw] at hset
      cases hset
    case latches => exact h.latches

theorem deactivationInv_deactivate {s : System} (h : s.DeactivationInv) :
    (s.step cfg .deactivate).DeactivationInv := by
  by_cases hactive : s.protocol.active
  · rw [step, if_pos hactive]
    exact ⟨fun _ => .inl rfl, by rintro ⟨⟩, h.failed, h.failing, fun _ _ => rfl, h.latches⟩
  · rwa [step, if_neg hactive]

theorem deactivationInv_step {s : System} {l : Label} (h : s.DeactivationInv)
    (hguard : s.deactivationGuard cfg l) : (s.step cfg l).DeactivationInv := by
  cases l with
  | tick sample now => exact deactivationInv_tick h hguard
  | enable env => exact deactivationInv_enable h hguard
  | activate sample => exact deactivationInv_activate h
  | deactivate => exact deactivationInv_deactivate h
  | _ => exact deactivationInv_thread h hguard rfl nofun

/-- The managed controllers of an idle and released group are at rest and need no deactivation, or
it is requested or a switch runs. -/
def DeactivationFlagged (cfg : Config) (s : System) : Prop :=
  s.protocol.phase = .idle → s.protocol.owner = .none → s.protocol.restartRequired = false →
    (s.protocol.jtcDeactivationRequired = false ∧ cfg.Rests s.world.controllers) ∨
      s.protocol.emergencyJtcDeactivateRequest ∨ s.protocol.switchInProgress

instance (s : System) : Decidable (s.DeactivationFlagged cfg) :=
  inferInstanceAs (Decidable (_ → _ → _ → _))

section Outlived

/-- The drives of the enabled chassis lose their power, and the emergency ends in `kIdle`. -/
def powerLoss : List Label :=
  startUp ++ enableGroup ++ [.tick .disabled 7, .tick .disabled 8, .tick .disabled 9,
    .tick .disabled 10]

/-- The updates of an ordered disable of the enabled chassis. -/
def disableTicks : List Label :=
  [.tick .enabled 7, .tick .disabled 8, .tick .disabled 9, .tick .disabled 10]

/-- The drive does not confirm CSP in time, and the mode switch disables the group. -/
def driveModeTimeout : List Label :=
  startUp ++ enableGroup ++ List.replicate 23 (.mode { target := .fjtReady }) ++
    List.replicate 12 (.mode { expired := true }) ++ disableTicks

/-- The enable call switches the controllers on after the worker has handled the emergency. -/
def lateActivation : List Label :=
  startUp ++ List.replicate 8 (.enable {}) ++ [.tick .disabled 4, .tick .enabled 5] ++
    List.replicate 3 (.enable {}) ++ [.tick .disabled 6] ++ List.replicate 4 (.worker {}) ++
    List.replicate 9 (.enable {}) ++ [.tick .disabled 7, .tick .disabled 8, .tick .disabled 9]

/-- A disable call that saw `kEnabling` raises its request in `kEnabled`. -/
def disableWhileEnabling : List Label :=
  startUp ++ List.replicate 8 (.enable {}) ++ [.tick .disabled 4] ++
    List.replicate 5 (.disable {}) ++ [.tick .enabled 5] ++ List.replicate 12 (.enable {}) ++
    [.tick .enabled 6, .disable {}] ++ disableTicks

/-- The worker switches the controllers off just before the enable call switches them on. -/
def overtakenActivation : List Label :=
  startUp ++ List.replicate 8 (.enable {}) ++ [.tick .disabled 4, .tick .enabled 5] ++
    List.replicate 4 (.enable {}) ++ [.tick .disabled 6] ++ List.replicate 9 (.worker {}) ++
    List.replicate 8 (.enable {}) ++ [.tick .disabled 7, .tick .disabled 8, .tick .disabled 9]

/-- The power is lost in the trajectory mode, and the next activation is refused before the worker
has switched the trajectory controller off. -/
def refusedActivation : List Label :=
  startUp ++ enableGroup ++ List.replicate 27 (.mode { target := .fjtReady }) ++
    [.tick .enabledCsp 7] ++ List.replicate 8 (.mode { target := .fjtReady }) ++
    [.tick .disabled 8, .tick .disabled 9, .tick .disabled 10, .tick .disabled 11] ++
    List.replicate 10 (.enable {}) ++ [.tick .disabled 12, .tick .enabled 13] ++
    List.replicate 12 (.enable { reply := .rejected }) ++
    [.tick .enabled 14, .tick .disabled 15, .tick .disabled 16, .tick .disabled 17] ++
    List.replicate 4 (.worker {})

/-- The enabled manager is deactivated and activated again. -/
def reactivation : List Label :=
  startUp ++ enableGroup ++
    [.deactivate, .activate .disabled, .tick .disabled 7, .tick .disabled 8, .tick .disabled 9]

end Outlived

end System

end RobotDriver.EnableManager
