import RobotDriver.EnableManager.System

/-!
# Emergencies and the threads

While an emergency runs, phase and owner belong to the update. Three threads store one of them
without comparing it first: the disable service and the worker store `kJtcDeactivating`, the
convergence of a mode switch stores the owner. No claim and no release gets through, because an
emergency holds an owner that is neither `kNone` nor `kMode`.
-/

namespace RobotDriver.EnableManager

open LabelledRun

variable {cfg : Config}

/-- An owner that a thread replaces by a compare-exchange. -/
def Owner.exchangeable : Owner → Bool
  | .none => true
  | .mode => true
  | _ => false

section Threads

/-- An access that stores the phase or the owner whatever they are. -/
def Access.overwrites : Access → Bool
  | .storePhase _ => true
  | .storeOwner _ => true
  | _ => false

theorem Access.apply_of_not_overwrites {a : Access} {p : Protocol} (ha : a.overwrites = false)
    (howner : p.owner.exchangeable = false) :
    (a.apply p).phase = p.phase ∧ (a.apply p).owner = p.owner := by
  have hnone : p.owner ≠ .none := fun h => by rw [h] at howner; cases howner
  have hmode : p.owner ≠ .mode := fun h => by rw [h] at howner; cases howner
  cases a with
  | storePhase phase => cases ha
  | storeOwner owner => cases ha
  | claimOwner owner => exact ⟨rfl, if_neg hnone⟩
  | releaseModeOwnership => exact ⟨rfl, if_neg hmode⟩
  | _ => exact ⟨rfl, rfl⟩

theorem Access.interruptedOwner_apply (a : Access) (p : Protocol) :
    (a.apply p).interruptedOwner = p.interruptedOwner := by
  cases a <;> rfl

def OrderedPc.beforePhaseStore : OrderedPc → Bool
  | .clearResult => true
  | .clearFailed => true
  | .storePhase => true
  | _ => false

/-- The disable service has claimed an enabled group and has not stored the phase yet. -/
def DisablePc.beforePhaseStore : DisablePc → Bool
  | .ordered seen pc => pc.beforePhaseStore && (seen = .enabled || pc = .storePhase)
  | _ => false

/-- The worker has claimed an enabled group and has not stored the phase yet. -/
def WorkerPc.beforePhaseStore : WorkerPc → Bool
  | .takeFault => true
  | .pendFault => true
  | .ordered pc => pc.beforePhaseStore
  | _ => false

def ConvergePc.beforeOwnerStore : ConvergePc → Bool
  | .emergency => false
  | .raise => false
  | _ => true

def ExecPc.beforeOwnerStore : ExecPc → Bool
  | .release (.converge _ _) => true
  | .converge _ _ pc => pc.beforeOwnerStore
  | _ => false

/-- The mode switch is going to converge and has not stored the owner yet. -/
def ModePc.beforeOwnerStore : ModePc → Bool
  | .switching _ _ pc => pc.beforeOwnerStore
  | _ => false

theorem EnablePc.overwrites_access (env : Environment) (p : Protocol) (pc : EnablePc) :
    (pc.access cfg env p).overwrites = false := by
  have howns := pc.owns_access cfg env p
  revert howns
  cases pc.access cfg env p <;> simp [owns, Access.overwrites, Access.isSwitch]

theorem ResetPc.overwrites_access (pc : ResetPc) : pc.access.overwrites = false := by
  cases pc <;> rfl

theorem FaultPc.overwrites_access (pc : FaultPc) : pc.access.overwrites = false := by
  cases pc <;> rfl

theorem Access.overwrites_of_isSwitch {a : Access} (h : a.isSwitch) : a.overwrites = false := by
  cases a <;> first | rfl | exact absurd h Bool.false_ne_true

theorem OrderedPc.overwrites_access {env : Environment} {p : Protocol} {pc : OrderedPc}
    (h : pc ≠ .storePhase) : (pc.access cfg env p).overwrites = false := by
  cases pc with
  | storePhase => exact absurd rfl h
  | switching sub =>
    rcases sub.running_or_returned with hrunning | ⟨result, rfl⟩
    · rw [access_switching hrunning]
      exact Access.overwrites_of_isSwitch (sub.isSwitch_access cfg env p)
    · cases result <;> rfl
  | _ => rfl

theorem DisablePc.overwrites_access {env : Environment} {p : Protocol} {pc : DisablePc}
    (h : pc.beforePhaseStore = false) : (pc.access cfg env p).overwrites = false := by
  cases pc with
  | ordered seen sub =>
    refine OrderedPc.overwrites_access fun hstore => ?_
    rw [hstore] at h
    simp [beforePhaseStore, OrderedPc.beforePhaseStore] at h
  | _ => rfl

theorem WorkerPc.overwrites_access {env : Environment} {p : Protocol} {pc : WorkerPc}
    (h : pc.beforePhaseStore = false) : (pc.access cfg env p).overwrites = false := by
  cases pc with
  | ordered sub =>
    refine OrderedPc.overwrites_access fun hstore => ?_
    rw [hstore] at h
    cases h
  | switching sub =>
    rcases sub.running_or_returned with hrunning | ⟨result, rfl⟩
    · rw [access_switching hrunning]
      exact Access.overwrites_of_isSwitch (sub.isSwitch_access cfg env p)
    · cases result <;> rfl
  | _ => rfl

theorem DrivePc.overwrites_access (mode : ControlMode) (pc : DrivePc) :
    (pc.access cfg mode).overwrites = false := by
  cases pc with
  | store =>
    simp only [access]
    split <;> rfl
  | _ => rfl

theorem ModePc.overwrites_access {env : Environment} {p : Protocol} {pc : ModePc}
    (h : pc.beforeOwnerStore = false) : (pc.access cfg env p).overwrites = false := by
  cases pc with
  | switching target source sub =>
    cases sub with
    | claimSwitch =>
      simp only [access, ExecPc.access]
      split <;> rfl
    | leave before drive | enter drive => exact DrivePc.overwrites_access target drive
    | await request => exact Access.overwrites_of_isSwitch (SwitchReply.isSwitch_access _ _)
    | converge restart result sub => cases sub <;> first | rfl | cases h
    | _ => rfl
  | _ => rfl

theorem OrderedPc.beforePhaseStore_next {seen : Phase} {env : Environment} {w : World}
    {pc : OrderedPc} (h : pc.beforePhaseStore = false) :
    (pc.next cfg seen env w).beforePhaseStore = false := by
  cases pc with
  | clearResult => cases h
  | clearFailed => cases h
  | storePhase => cases h
  | switching sub =>
    rcases sub.running_or_returned with hrunning | ⟨result, rfl⟩
    · rw [next_switching hrunning]
      rfl
    · cases result <;> rfl
  | _ => rfl

theorem DisablePc.beforePhaseStore_afterOwner (owner : Owner) (seen : Phase) :
    (afterOwner owner seen).beforePhaseStore = false := by
  unfold afterOwner
  split
  · rename_i h
    cases seen <;> first | rfl | (revert h; cases owner <;> decide)
  · rfl

theorem DisablePc.beforePhaseStore_next {env : Environment} {w : World} {pc : DisablePc}
    (howner : w.protocol.owner ≠ .none) (h : pc.beforePhaseStore = false) :
    (pc.next cfg env w).beforePhaseStore = false := by
  cases pc with
  | claimOwner seen =>
    simp only [next, if_neg howner]
    rfl
  | ordered seen sub =>
    by_cases hbefore : sub.beforePhaseStore
    · have hseen : ¬(seen = .enabled ∨ sub = .storePhase) := by
        simpa [beforePhaseStore, hbefore] using h
      have hdisabled : seen ≠ .enabled := fun heq => hseen (.inl heq)
      cases sub with
      | clearResult => simp [next, OrderedPc.next, beforePhaseStore, hdisabled]
      | clearFailed =>
        simp only [next, OrderedPc.next, if_neg hdisabled]
        rfl
      | storePhase => exact absurd (.inr rfl) hseen
      | _ => cases hbefore
    · have hsub : (sub.next cfg seen env w).beforePhaseStore = false :=
        OrderedPc.beforePhaseStore_next (eq_false_of_ne_true hbefore)
      cases sub with
      | raise => rfl
      | _ => simp only [next, beforePhaseStore, hsub, Bool.false_and]
  | _ =>
    simp only [next]
    repeat' split
    all_goals first | rfl | exact beforePhaseStore_afterOwner _ _

theorem WorkerPc.beforePhaseStore_next {env : Environment} {w : World} {pc : WorkerPc}
    (howner : w.protocol.owner ≠ .none) (h : pc.beforePhaseStore = false) :
    (pc.next cfg env w).beforePhaseStore = false := by
  cases pc with
  | claimOwner =>
    simp only [next, if_neg howner]
    rfl
  | takeFault => cases h
  | pendFault => cases h
  | ordered sub =>
    have hsub : (sub.next cfg .enabled env w).beforePhaseStore = false :=
      OrderedPc.beforePhaseStore_next h
    cases sub with
    | raise => rfl
    | _ => exact hsub
  | switching sub =>
    rcases sub.running_or_returned with hrunning | ⟨result, rfl⟩
    · rw [next_switching hrunning]
      rfl
    · rfl
  | _ =>
    simp only [next]
    repeat' split
    all_goals rfl

end Threads

section Updates

variable {running stopped : Prop} {p q : Protocol}

theorem TickStep.interruptedOwner_of_emergency (h : TickStep cfg running stopped p q)
    (hp : p.phase.emergency) : q.interruptedOwner = p.interruptedOwner := by
  cases h with
  | emergency offline next hphase =>
    revert hp hphase
    cases p.phase <;> simp [Phase.emergency, runningPhase]
  | enableEmergency next hphase => rcases hphase with h | h <;> (rw [h] at hp; cases hp)
  | escalate hphase => rcases hphase with h | h | h <;> (rw [h] at hp; cases hp)
  | _ => rfl

theorem TickStep.owner_of_emergency (h : TickStep cfg running stopped p q)
    (hq : q.phase.emergency) :
    q.owner = .internal ∨ q.owner = p.owner ∧ (p.phase.emergency ∨ p.phase = .startupSanitizing ∨
      p.phase = .disabling ∨ p.phase = .rollback) := by
  cases h with
  | emergency => exact .inl rfl
  | enableEmergency => exact .inl rfl
  | escalate hphase => exact .inr ⟨rfl, .inr hphase⟩
  | rest => exact .inr ⟨rfl, .inl hq⟩
  | quickStopped hphase => exact .inr ⟨rfl, .inl (by rw [hphase]; rfl)⟩
  | finishStartup next hphase hnext | finishDisabling result next hphase hnext
  | finishRollback result next hphase hnext | finishReset result next hphase hnext
  | finishEmergency result next hphase hnext | enabling next hphase hnext =>
    rcases hnext with rfl | rfl <;> cases hq
  | answerReset result next hphase =>
    rcases hphase with ⟨-, rfl, -⟩ | ⟨-, rfl | rfl, -⟩ <;> cases hq
  | resetting next hphase => rcases hphase with ⟨-, rfl⟩ | ⟨-, rfl⟩ <;> cases hq
  | rejectEnable result hphase | answerDisable result hphase =>
    cases hq.symm.trans (congrArg Phase.emergency hphase)
  | _ => cases hq

end Updates

namespace System

def emergency (s : System) : Bool := s.protocol.phase.emergency

/-- No thread is about to store the phase or the owner. -/
def threadsApart (s : System) : Prop :=
  s.disable.beforePhaseStore = false ∧ s.worker.beforePhaseStore = false ∧
    s.mode.beforeOwnerStore = false

/-- A downward stage that expires escalates with the owner it has. -/
def stopping (s : System) : Prop :=
  s.protocol.phase = .startupSanitizing ∨ s.protocol.phase = .disabling ∨
    s.protocol.phase = .rollback

/-- An update starts an emergency only while no thread is about to store the phase or the owner,
and out of a stop only under a request or the manager itself. In an emergency no mode switch
decides to converge. -/
def emergencyGuard (cfg : Config) (s : System) : Label → Prop
  | .tick sample now =>
    s.emergency = false → (s.step cfg (.tick sample now)).emergency →
      s.threadsApart ∧ (s.stopping → s.protocol.owner.exchangeable = false)
  | .mode env => s.emergency → (s.step cfg (.mode env)).mode.beforeOwnerStore = false
  | _ => True

instance (s : System) : Decidable s.threadsApart := inferInstanceAs (Decidable (_ ∧ _ ∧ _))

instance (s : System) : Decidable s.stopping := inferInstanceAs (Decidable (_ ∨ _ ∨ _))

instance (s : System) : ∀ l, Decidable (s.emergencyGuard cfg l)
  | .tick _ _ => inferInstanceAs (Decidable (_ → _ → _))
  | .mode _ => inferInstanceAs (Decidable (_ → _))
  | .enable _ => .isTrue trivial
  | .disable _ => .isTrue trivial
  | .reset _ => .isTrue trivial
  | .worker _ => .isTrue trivial
  | .fault => .isTrue trivial
  | .activate _ => .isTrue trivial
  | .deactivate => .isTrue trivial

/-- No thread changes phase or owner of a running emergency, and nothing changes the request it
interrupted. -/
def emergencyUndisturbed (cfg : Config) (s : System) (l : Label) : Prop :=
  s.emergency →
    (l.thread → (s.step cfg l).protocol.phase = s.protocol.phase ∧
      (s.step cfg l).protocol.owner = s.protocol.owner) ∧
    (s.step cfg l).protocol.interruptedOwner = s.protocol.interruptedOwner

structure EmergencyOwned (s : System) : Prop where
  owner : s.protocol.owner.exchangeable = false
  apart : s.threadsApart

theorem interruptedOwner_step {s : System} (h : s.emergency) (l : Label) :
    (s.step cfg l).protocol.interruptedOwner = s.protocol.interruptedOwner := by
  exact protocol_step (P := fun p => p.interruptedOwner = s.protocol.interruptedOwner) cfg s l rfl
    (fun _ _ _ hstep _ _ _ => hstep.interruptedOwner_of_emergency h)
    (fun a _ _ => a.interruptedOwner_apply _) (fun _ _ _ => rfl) (fun _ _ => rfl)

theorem thread_step {s : System} (h : EmergencyOwned s) {l : Label} (hl : l.thread) :
    (s.step cfg l).protocol.phase = s.protocol.phase ∧
      (s.step cfg l).protocol.owner = s.protocol.owner := by
  obtain ⟨hdisable, hworker, hmode⟩ := h.apart
  cases l with
  | tick => cases hl
  | activate => cases hl
  | deactivate => cases hl
  | enable env =>
    exact Access.apply_of_not_overwrites (s.enable.overwrites_access env s.protocol) h.owner
  | disable env => exact Access.apply_of_not_overwrites (DisablePc.overwrites_access hdisable) h.owner
  | reset env => exact Access.apply_of_not_overwrites s.reset.overwrites_access h.owner
  | worker env => exact Access.apply_of_not_overwrites (WorkerPc.overwrites_access hworker) h.owner
  | fault => exact Access.apply_of_not_overwrites s.fault.overwrites_access h.owner
  | mode env =>
    simp only [step]
    split
    · exact Access.apply_of_not_overwrites (ModePc.overwrites_access hmode) h.owner
    · exact ⟨rfl, rfl⟩

theorem threadsApart_step {s : System} (h : EmergencyOwned s) {l : Label}
    (hmode : (s.step cfg l).mode.beforeOwnerStore = false) : (s.step cfg l).threadsApart := by
  have hnone : s.world.protocol.owner ≠ .none := fun heq => by
    have howner := h.owner
    rw [show s.protocol.owner = .none from heq] at howner
    cases howner
  obtain ⟨hdisable, hworker, -⟩ := h.apart
  cases l with
  | disable env => exact ⟨DisablePc.beforePhaseStore_next hnone hdisable, hworker, hmode⟩
  | worker env => exact ⟨hdisable, WorkerPc.beforePhaseStore_next hnone hworker, hmode⟩
  | mode env | activate sample | deactivate =>
    refine ⟨?_, ?_, hmode⟩ <;> (simp only [step]; split <;> assumption)
  | _ => exact ⟨hdisable, hworker, hmode⟩

theorem owner_step {s : System} {l : Label} (h : EmergencyOwned s)
    (hnext : (s.step cfg l).emergency) :
    (s.step cfg l).protocol.owner.exchangeable = false := by
  by_cases hl : l.thread
  · rw [(thread_step h hl).2]
    exact h.owner
  · refine protocol_step (P := fun p => p.phase.emergency → p.owner.exchangeable = false) cfg s l
      (fun _ => h.owner) (fun _ _ q hstep _ _ _ hq => ?_) (fun a ha _ => ?_) (fun _ _ _ _ => rfl)
      (fun _ _ => nofun) hnext
    · rcases hstep.owner_of_emergency hq with howner | ⟨howner, -⟩
      · exact congrArg Owner.exchangeable howner
      · exact (congrArg Owner.exchangeable howner).trans h.owner
    · cases l with
      | tick | activate | deactivate => exact nomatch ha
      | _ => exact absurd rfl hl

theorem emergencyOwned_step {s : System} {l : Label} (h : s.emergency → EmergencyOwned s)
    (hguard : s.emergencyGuard cfg l) (hnext : (s.step cfg l).emergency) :
    EmergencyOwned (s.step cfg l) := by
  by_cases hemergency : s.emergency
  · have howned := h hemergency
    refine ⟨owner_step howned hnext, threadsApart_step howned ?_⟩
    cases l with
    | mode env => exact hguard hemergency
    | activate sample | deactivate => simp only [step]; split <;> exact howned.apart.2.2
    | _ => exact howned.apart.2.2
  · obtain ⟨sample, now, rfl, hactive, hupdate⟩ :=
      exists_tick_of_entry (P := fun phase => phase.emergency) cfg ⟨by decide, by decide, by decide⟩
        hemergency hnext
    obtain ⟨hapart, howner⟩ := hguard (eq_false_of_ne_true hemergency) hnext
    refine ⟨?_, hapart⟩
    obtain ⟨q, hstep, hq⟩ := Controller.update_protocol cfg s.world.controller now sample hactive
    have hstate : (s.step cfg (.tick sample now)).protocol = q.writeDriveModes cfg := hq
    unfold emergency at hnext
    rw [hstate] at hnext ⊢
    rcases hstep.owner_of_emergency hnext with hinternal | ⟨hsame, hbefore | hstopping⟩
    · exact congrArg Owner.exchangeable hinternal
    · exact absurd hbefore hemergency
    · exact (congrArg Owner.exchangeable hsame).trans (howner hstopping)

theorem emergency_undisturbed (cfg : Config) (controllers : List ControllerState)
    (labels : List Label)
    (h : Along (step cfg) (emergencyGuard cfg) (initial controllers) labels) :
    Along (step cfg) (emergencyUndisturbed cfg) (initial controllers) labels := by
  refine Along.of_invariant (P := fun s => s.emergency → EmergencyOwned s)
    (fun s l hs hguard hnext => emergencyOwned_step hs hguard hnext)
    (fun s l hs _ hemergency => ?_) nofun h
  exact ⟨thread_step (hs hemergency), interruptedOwner_step hemergency l⟩

section FaultDuringDisable

/-- A disable call of the enabled chassis up to its store of the phase, and the update that sees
the drive fault in between. -/
def faultDuringDisable : List Label :=
  startUp ++ enableGroup ++ List.replicate 6 (.disable {}) ++ [.tick .faulted 7]

/-- The enabled chassis faults and stops with nobody in between; a disable call is refused. -/
theorem emergency_undisturbed_fault :
    Along (step chassis) (emergencyUndisturbed chassis) (initial chassisControllers)
      (startUp ++ enableGroup ++ [.tick .faulted 7, .disable {}, .disable {}, .tick .faulted 8]) :=
  emergency_undisturbed chassis chassisControllers _ (by decide +kernel)

/-- A disable call that claimed the group before the fault ends the emergency. -/
theorem emergency_overwritten :
    ¬Along (step chassis) (emergencyUndisturbed chassis) (initial chassisControllers)
      (faultDuringDisable ++ [.disable {}]) := by
  intro h
  rw [along_append] at h
  have hstep := (h.2.1 (by decide +kernel)).1 rfl
  exact absurd hstep.1 (by decide +kernel)

end FaultDuringDisable

end System

end RobotDriver.EnableManager
