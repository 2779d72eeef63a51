import RobotDriver.EnableManager.System

/-!
# Requests that outlive their operation

A request flag is raised by a service thread and taken back by the update that works on it. The
invariant says for each flag under which owner and in which phases the update still takes it. None
of these owners is `kNone`, so a released group has no request left.
-/

namespace RobotDriver.EnableManager

open LabelledRun

variable {cfg : Config}

section Requests

/-- The update takes a disable request raised now, before it releases the owner. -/
def Protocol.takesDisable (p : Protocol) : Prop :=
  p.owner = .disable ∧ (p.phase = .enabled ∨ p.phase = .jtcDeactivating ∨ p.phase = .failed ∨
    p.phase = .idle) ∨
  p.owner = .enable ∧ enablePhase p.phase ∨
  p.owner = .reset ∧ (p.phase = .resetLow ∨ p.phase = .resetHigh) ∨
  p.owner = .mode ∧ p.phase = .enabled

structure RequestsOwned (p : Protocol) : Prop where
  enable : p.enableRequest → p.owner = .enable ∧ p.phase = .idle
  reset : p.resetRequest → p.owner = .reset ∧ (p.phase = .idle ∨ p.phase = .failed)
  disable : p.disableRequest → p.takesDisable
  fault : p.motionFaultPending → p.owner = .disable ∧ (p.phase = .enabled ∨ p.phase = .jtcDeactivating)

structure Protocol.RequestsClear (p : Protocol) : Prop where
  enable : p.enableRequest = false
  disable : p.disableRequest = false
  reset : p.resetRequest = false
  fault : p.motionFaultPending = false

/-- An emergency that starts from a running phase leaves no request behind. -/
def Protocol.emergencyLosesNone (p : Protocol) : Prop :=
  runningPhase p.phase → p.disableRequest = false ∧ p.motionFaultPending = false

variable {running stopped : Prop} {p q : Protocol}

theorem RequestsOwned.of_clear (h : p.RequestsClear) : RequestsOwned p :=
  ⟨fun h' => absurd h' (ne_true_of_eq_false h.enable),
    fun h' => absurd h' (ne_true_of_eq_false h.reset),
    fun h' => absurd h' (ne_true_of_eq_false h.disable),
    fun h' => absurd h' (ne_true_of_eq_false h.fault)⟩

/-- The phases in which the update works on a request that it has already taken. -/
def Phase.taken : Phase → Bool
  | .startupSanitizing => true
  | .jtcActivating => true
  | .rollback => true
  | .disabling => true
  | .resetDisabling => true
  | .emergencyQuickStop => true
  | .emergencyDisable => true
  | _ => false

theorem RequestsOwned.clear (ho : RequestsOwned p) (h : p.phase.taken) : p.RequestsClear := by
  refine ⟨?_, ?_, ?_, ?_⟩ <;> refine eq_false_of_ne_true fun hflag => ?_
  · obtain ⟨-, hphase⟩ := ho.enable hflag
    rw [hphase] at h
    cases h
  · rcases ho.disable hflag with ⟨-, hphase | hphase | hphase | hphase⟩ | ⟨-, hphase⟩ |
      ⟨-, hphase | hphase⟩ | ⟨-, hphase⟩
    all_goals
      revert h hphase
      cases p.phase <;> decide
  · obtain ⟨-, hphase | hphase⟩ := ho.reset hflag <;>
      (rw [hphase] at h; cases h)
  · obtain ⟨-, hphase | hphase⟩ := ho.fault hflag <;>
      (rw [hphase] at h; cases h)

theorem RequestsOwned.of_taken (ho : RequestsOwned p) (h : p.phase.taken)
    (henable : q.enableRequest = p.enableRequest) (hdisable : q.disableRequest = p.disableRequest)
    (hreset : q.resetRequest = p.resetRequest)
    (hfault : q.motionFaultPending = p.motionFaultPending) : RequestsOwned q :=
  have hclear := ho.clear h
  .of_clear ⟨henable.trans hclear.enable, hdisable.trans hclear.disable,
    hreset.trans hclear.reset, hfault.trans hclear.fault⟩

theorem RequestsOwned.enable_alone (ho : RequestsOwned p) (h : p.enableRequest) :
    p.disableRequest = false ∧ p.resetRequest = false ∧ p.motionFaultPending = false := by
  obtain ⟨howner, hphase⟩ := ho.enable h
  refine ⟨?_, ?_, ?_⟩ <;> refine eq_false_of_ne_true fun hflag => ?_
  · have := ho.disable hflag
    simp [Protocol.takesDisable, howner, hphase, enablePhase] at this
  · exact absurd (howner.symm.trans (ho.reset hflag).1) (by decide)
  · exact absurd (howner.symm.trans (ho.fault hflag).1) (by decide)

theorem RequestsOwned.reset_alone (ho : RequestsOwned p) (h : p.resetRequest) :
    p.disableRequest = false ∧ p.enableRequest = false ∧ p.motionFaultPending = false := by
  obtain ⟨howner, hphase⟩ := ho.reset h
  refine ⟨?_, ?_, ?_⟩ <;> refine eq_false_of_ne_true fun hflag => ?_
  · have := ho.disable hflag
    rcases hphase with hphase | hphase <;>
      simp [Protocol.takesDisable, howner, hphase] at this
  · exact absurd (howner.symm.trans (ho.enable hflag).1) (by decide)
  · exact absurd (howner.symm.trans (ho.fault hflag).1) (by decide)

theorem RequestsOwned.others (ho : RequestsOwned p) (hphase : p.phase ≠ .idle ∧ p.phase ≠ .failed) :
    p.enableRequest = false ∧ p.resetRequest = false := by
  refine ⟨?_, ?_⟩ <;> refine eq_false_of_ne_true fun hflag => ?_
  · exact hphase.1 (ho.enable hflag).2
  · exact (ho.reset hflag).2.elim hphase.1 hphase.2

theorem RequestsOwned.fault_false (ho : RequestsOwned p)
    (hphase : p.phase ≠ .enabled ∧ p.phase ≠ .jtcDeactivating) : p.motionFaultPending = false :=
  eq_false_of_ne_true fun hflag => (ho.fault hflag).2.elim hphase.1 hphase.2

theorem Protocol.disableRequest_of_not_preempted (h : p.preempted = false) :
    p.disableRequest = false :=
  (Bool.or_eq_false_iff.1 h).1

theorem TickStep.requestsOwned (h : TickStep cfg running stopped p q) (ho : RequestsOwned p)
    (hemergency : q.phase.emergency → p.emergencyLosesNone) : RequestsOwned q := by
  cases h with
  | rest => exact ho
  | emergency offline next hphase hviolation hnext =>
    obtain ⟨hdisable, hfault⟩ := hemergency (by rcases hnext with rfl | rfl <;> rfl) hphase
    obtain ⟨henable, hreset⟩ := ho.others (by
      constructor <;> (intro hidle; rw [hidle] at hphase; cases hphase))
    exact .of_clear ⟨henable, hdisable, hreset, hfault⟩
  | enableEmergency next hphase | preemptEnable result hphase | preemptReset result hphase =>
    obtain ⟨henable, hreset⟩ := ho.others (by rcases hphase with h | h <;> simp [h])
    exact .of_clear ⟨henable, rfl, hreset, ho.fault_false (by rcases hphase with h | h <;> simp [h])⟩
  | quickStopped hphase | finishStartup next hphase | finishDisabling result next hphase
  | finishRollback result next hphase | finishReset result next hphase
  | finishEmergency result next hphase | activateFailed hphase | activated hphase =>
    exact ho.of_taken (by rw [hphase]; rfl) rfl rfl rfl rfl
  | escalate hphase =>
    exact ho.of_taken (by rcases hphase with h | h | h <;> (rw [h]; rfl)) rfl rfl rfl rfl
  | expireReset result hphase =>
    rcases hphase with ⟨hphase, hrequest⟩ | hphase
    · obtain ⟨henable, hreset⟩ := ho.others (by rw [hphase]; decide)
      exact .of_clear ⟨henable, hrequest, hreset, ho.fault_false (by rw [hphase]; decide)⟩
    · exact ho.of_taken (by rw [hphase]; rfl) rfl rfl rfl rfl
  | rejectEnable result hphase hrequest | startEnable hphase hrequest =>
    obtain ⟨hdisable, hreset, hfault⟩ := ho.enable_alone hrequest
    exact .of_clear ⟨rfl, hdisable, hreset, hfault⟩
  | answerReset result next hphase hrequest | startReset hphase hrequest =>
    obtain ⟨hdisable, henable, hfault⟩ := ho.reset_alone hrequest
    exact .of_clear ⟨henable, hdisable, rfl, hfault⟩
  | answerDisable result hphase henable hreset =>
    exact .of_clear ⟨henable, rfl, hreset, ho.fault_false (by rw [hphase]; decide)⟩
  | disableFailed hphase hrequest =>
    have henable : p.enableRequest = false := eq_false_of_ne_true fun h =>
      absurd (hphase.symm.trans (ho.enable h).2) (by decide)
    have hreset : p.resetRequest = false := eq_false_of_ne_true fun h =>
      absurd (hrequest.symm.trans (ho.reset_alone h).1) (by decide)
    exact .of_clear ⟨henable, rfl, hreset, ho.fault_false (by rw [hphase]; decide)⟩
  | enabling next hphase hnext =>
    obtain ⟨henable, hreset⟩ := ho.others (by rcases hphase with h | h <;> simp [h])
    have hfault := ho.fault_false (by rcases hphase with h | h <;> simp [h])
    refine ⟨fun h => absurd (henable.symm.trans h) (by decide),
      fun h => absurd (hreset.symm.trans h) (by decide), fun h => ?_,
      fun h => absurd (hfault.symm.trans h) (by decide)⟩
    have howner : p.owner = .enable := by
      have := ho.disable h
      rcases hphase with h | h <;> simpa [Protocol.takesDisable, h, enablePhase] using this
    exact .inr (.inl ⟨howner, by rcases hnext with rfl | rfl <;> rfl⟩)
  | hardwareReady hphase hpreempted =>
    obtain ⟨henable, hreset⟩ := ho.others (by rw [hphase]; decide)
    have hdisable := Protocol.disableRequest_of_not_preempted hpreempted
    exact .of_clear ⟨henable, hdisable, hreset, ho.fault_false (by rw [hphase]; decide)⟩
  | failEnable hphase hpreempted =>
    obtain ⟨henable, hreset⟩ := ho.others (by rcases hphase with h | h <;> simp [h])
    have hdisable := Protocol.disableRequest_of_not_preempted hpreempted
    exact .of_clear ⟨henable, hdisable, hreset,
      ho.fault_false (by rcases hphase with h | h <;> simp [h])⟩
  | startDisabling hphase =>
    obtain ⟨henable, hreset⟩ := ho.others (by rcases hphase with h | h <;> simp [h])
    exact .of_clear ⟨henable, rfl, hreset, rfl⟩
  | resetting next hphase hrequest =>
    obtain ⟨henable, hreset⟩ := ho.others (by rcases hphase with ⟨h, -⟩ | ⟨h, -⟩ <;> simp [h])
    exact .of_clear ⟨henable, hrequest, hreset,
      ho.fault_false (by rcases hphase with ⟨h, -⟩ | ⟨h, -⟩ <;> simp [h])⟩

instance (p : Protocol) : Decidable p.takesDisable := inferInstanceAs (Decidable (_ ∨ _ ∨ _ ∨ _))

instance (p : Protocol) : Decidable p.emergencyLosesNone := inferInstanceAs (Decidable (_ → _))

section Threads

/-- An access made in time: a request is raised under the owner and in the phase in which the
update takes it, phase and owner are stored over those of an enabled group, and the ownership of a
mode switch is not released under a disable request. -/
def Access.timely (p : Protocol) : Access → Prop
  | .raise .enable => p.owner = .enable ∧ p.phase = .idle
  | .raise .reset => p.owner = .reset ∧ (p.phase = .idle ∨ p.phase = .failed)
  | .raise .disable => p.takesDisable
  | .pendMotionFault => p.owner = .disable ∧ p.phase = .enabled
  | .storePhase _ => p.owner = .disable ∧ p.phase = .enabled
  | .storeOwner _ => p.owner = .mode ∧ p.phase = .enabled
  | .releaseModeOwnership => p.owner = .mode → p.disableRequest = false
  | _ => True

instance (p : Protocol) : ∀ a : Access, Decidable (a.timely p)
  | .raise .enable => inferInstanceAs (Decidable (_ ∧ _))
  | .raise .reset => inferInstanceAs (Decidable (_ ∧ _))
  | .raise .disable => inferInstanceAs (Decidable p.takesDisable)
  | .pendMotionFault => inferInstanceAs (Decidable (_ ∧ _))
  | .storePhase _ => inferInstanceAs (Decidable (_ ∧ _))
  | .storeOwner _ => inferInstanceAs (Decidable (_ ∧ _))
  | .releaseModeOwnership => inferInstanceAs (Decidable (_ → _))
  | .load | .claimOwner _ | .claimSwitch | .releaseSwitch | .clearResult _ | .clearHardwareReady
  | .raiseOutcome _ | .storeMode _ | .storeRestartRequired _ | .storeDeactivationRequired _
  | .storeDeactivateFailed _ | .storeDriveCsp _ | .storeModeAbort _ | .storeMotionFaultRequest _
  | .requestEmergencyDeactivation | .takeEmergencyDeactivation | .recordDeactivateFailure
  | .switchControllers _ => .isTrue trivial

theorem RequestsOwned.clear_of_none (ho : RequestsOwned p) (h : p.owner = .none) :
    p.RequestsClear := by
  refine ⟨?_, ?_, ?_, ?_⟩ <;> refine eq_false_of_ne_true fun hflag => ?_
  · exact absurd (h.symm.trans (ho.enable hflag).1) (by decide)
  · rcases ho.disable hflag with ⟨howner, -⟩ | ⟨howner, -⟩ | ⟨howner, -⟩ | ⟨howner, -⟩ <;>
      exact absurd (h.symm.trans howner) (by decide)
  · exact absurd (h.symm.trans (ho.reset hflag).1) (by decide)
  · exact absurd (h.symm.trans (ho.fault hflag).1) (by decide)

theorem RequestsOwned.apply {a : Access} (ho : RequestsOwned p) (howns : System.threadOwns a)
    (h : a.timely p) : RequestsOwned (a.apply p) := by
  obtain ⟨henable, hreset, hdisable, hfault⟩ := id ho
  cases a with
  | raise service =>
    cases service with
    | enable => exact ⟨fun _ => h, by simpa [Access.apply] using hreset,
        by simpa [Access.apply, Protocol.takesDisable] using hdisable, hfault⟩
    | disable => exact ⟨by simpa [Access.apply] using henable, by simpa [Access.apply] using hreset,
        fun _ => h, hfault⟩
    | reset => exact ⟨by simpa [Access.apply] using henable, fun _ => h,
        by simpa [Access.apply, Protocol.takesDisable] using hdisable, hfault⟩
  | pendMotionFault => exact ⟨henable, hreset, hdisable, fun _ => ⟨h.1, .inl h.2⟩⟩
  | claimOwner owner =>
    by_cases hnone : p.owner = .none
    · obtain ⟨h₁, h₂, h₃, h₄⟩ := ho.clear_of_none hnone
      exact .of_clear ⟨h₁, h₂, h₃, h₄⟩
    · have hsame : (Access.claimOwner owner).apply p = p := by
        simp [Access.apply, hnone]
      rw [hsame]
      exact ho
  | releaseModeOwnership =>
    by_cases hmode : p.owner = .mode
    · have hne : ∀ owner, p.owner = owner → owner ≠ .mode → False := fun owner howner hother =>
        hother (howner.symm.trans hmode)
      exact .of_clear ⟨eq_false_of_ne_true fun hflag => hne _ (henable hflag).1 (by decide), h hmode,
        eq_false_of_ne_true fun hflag => hne _ (hreset hflag).1 (by decide),
        eq_false_of_ne_true fun hflag => hne _ (hfault hflag).1 (by decide)⟩
    · have hsame : Access.releaseModeOwnership.apply p = p := by
        simp [Access.apply, hmode]
      rw [hsame]
      exact ho
  | storePhase phase =>
    obtain rfl := System.storePhase_of_threadOwns howns
    obtain ⟨howner, henabled⟩ := h
    obtain ⟨hnoenable, hnoreset⟩ := ho.others (by rw [henabled]; decide)
    exact ⟨fun hflag => absurd hflag (ne_true_of_eq_false hnoenable),
      fun hflag => absurd hflag (ne_true_of_eq_false hnoreset),
      fun _ => .inl ⟨howner, .inr (.inl rfl)⟩, fun _ => ⟨howner, .inr rfl⟩⟩
  | storeOwner owner =>
    obtain rfl := System.storeOwner_of_threadOwns howns
    obtain ⟨-, henabled⟩ := h
    obtain ⟨hnoenable, hnoreset⟩ := ho.others (by rw [henabled]; decide)
    exact ⟨fun hflag => absurd hflag (ne_true_of_eq_false hnoenable),
      fun hflag => absurd hflag (ne_true_of_eq_false hnoreset),
      fun _ => .inl ⟨rfl, .inl henabled⟩, fun _ => ⟨rfl, .inl henabled⟩⟩
  | _ => exact ⟨henable, hreset, hdisable, hfault⟩

end Threads

end Requests

namespace System

/-- A released group has no request left. -/
def ReleasedClear (s : System) : Prop := s.protocol.owner = .none → s.protocol.RequestsClear

/-- Every access is timely, no emergency starts from a running phase under a disable request or a
pending motion fault, and no activation starts with a pending motion fault. -/
def requestGuard (cfg : Config) (s : System) : Label → Prop
  | .tick sample now =>
    (s.step cfg (.tick sample now)).protocol.phase.emergency → s.protocol.emergencyLosesNone
  | .activate _ => s.protocol.active = false → s.protocol.motionFaultPending = false
  | .deactivate => True
  | l => ∀ a ∈ s.nextAccess cfg l, a.timely s.protocol

/-- An inactive controller is owned by the manager itself. -/
structure RequestsKept (p : Protocol) : Prop where
  owned : p.active → RequestsOwned p
  inactive : p.active = false → p.owner = .internal

theorem requestGuard_access {s : System} {l : Label} (h : s.requestGuard cfg l) {a : Access}
    (ha : s.nextAccess cfg l = some a) : a.timely s.protocol := by
  cases l with
  | tick => cases ha
  | activate => cases ha
  | deactivate => cases ha
  | _ => exact h a ha

theorem RequestsKept.apply {p : Protocol} {a : Access} (hk : RequestsKept p)
    (howns : threadOwns a) (h : a.timely p) : RequestsKept (a.apply p) := by
  have hactive : (a.apply p).active = p.active := by cases a <;> rfl
  refine ⟨fun h' => (hk.owned (hactive ▸ h')).apply howns h, fun h' => ?_⟩
  have howner := hk.inactive (hactive ▸ h')
  cases a with
  | claimOwner owner | releaseModeOwnership => exact (if_neg (by rw [howner]; decide)).trans howner
  | storeOwner owner => exact absurd (howner.symm.trans h.1) (by decide)
  | _ => exact howner

theorem requestsKept_step {s : System} {l : Label} (hk : RequestsKept s.protocol)
    (hguard : s.requestGuard cfg l) : RequestsKept (s.step cfg l).protocol := by
  refine protocol_step cfg s l hk (fun running stopped q hstep hlabel hactive hstate => ?_)
    (fun a ha howns => hk.apply howns (requestGuard_access hguard ha)) (fun sample hl hinactive => ?_)
    (fun _ _ => ?_)
  · obtain ⟨sample, now, rfl⟩ := hlabel
    have hemergency : q.phase.emergency → s.protocol.emergencyLosesNone := fun hq =>
      hguard (by rw [hstate]; exact hq)
    obtain ⟨h₁, h₂, h₃, h₄⟩ := hstep.requestsOwned (hk.owned hactive) hemergency
    refine ⟨fun _ => ⟨h₁, h₂, h₃, h₄⟩, fun h => ?_⟩
    exact absurd ((hstep.active.trans hactive).symm.trans h) (by decide)
  · subst hl
    exact ⟨fun _ => .of_clear ⟨rfl, rfl, rfl, hguard hinactive⟩, nofun⟩
  · exact ⟨nofun, fun _ => rfl⟩

/-- In every run whose accesses are timely and whose emergencies lose no request, a released group
has no request left. -/
theorem released_clear (cfg : Config) (controllers : List ControllerState) (labels : List Label)
    (h : Along (step cfg) (requestGuard cfg) (initial controllers) labels) :
    (runFrom cfg (initial controllers) labels).ReleasedClear := by
  have hk : RequestsKept (runFrom cfg (initial controllers) labels).protocol :=
    invariant_run (P := fun s : System => RequestsKept s.protocol)
      (fun s l => requestsKept_step) ⟨nofun, fun _ => rfl⟩ h
  intro hnone
  refine (hk.owned ?_).clear_of_none hnone
  by_contra hinactive
  exact absurd (hnone.symm.trans (hk.inactive (eq_false_of_ne_true hinactive))) (by decide)

section FaultDuringDeactivation

instance (s : System) : ∀ l, Decidable (s.requestGuard cfg l)
  | .tick _ _ | .activate _ => inferInstanceAs (Decidable (_ → _))
  | .deactivate => .isTrue trivial
  | .enable _ | .disable _ | .reset _ | .worker _ | .mode _ | .fault =>
    inferInstanceAs (Decidable (∀ a ∈ s.nextAccess cfg _, _))

/-- The enabled chassis is disabled in order. -/
def orderedDisable : List Label :=
  List.replicate 16 (.disable {}) ++
    [.tick .enabled 7, .tick .disabled 8, .tick .disabled 9, .tick .disabled 10]

/-- An ordered disable of the enabled chassis leaves no request. -/
theorem released_clear_disable :
    (runFrom chassis (initial chassisControllers)
      (startUp ++ enableGroup ++ orderedDisable)).ReleasedClear :=
  released_clear chassis chassisControllers _ (by decide +kernel)

/-- The drive faults while the disable call deactivates the controllers, and the call raises its
request into the emergency. -/
def faultDuringDeactivation : List Label :=
  startUp ++ enableGroup ++ List.replicate 7 (.disable {}) ++ [.tick .faulted 7] ++
    List.replicate 9 (.disable {}) ++ [.tick .faulted 8, .tick .faulted 9, .tick .faulted 10]

/-- The emergency answers the call and releases the owner, and the disable request stays. -/
theorem released_with_request :
    ¬(runFrom chassis (initial chassisControllers) faultDuringDeactivation).ReleasedClear := by
  intro h
  exact absurd (h (by decide +kernel)).disable (by decide +kernel)

end FaultDuringDeactivation

end System

end RobotDriver.EnableManager
