import RobotDriver.EnableManager.System

/-!
# The requested drive mode follows the controller set

While a group is enabled and nobody works on it, `drive_csp_requested_` is what its control mode
asks for. Only a mode switch changes the two apart from each other; `ExecPc.keeps` says for every
position of the call what it still knows about them while it owns the enabled group.
-/

namespace RobotDriver.EnableManager

open LabelledRun

variable {cfg : Config}

section Knowledge

/-- The mode switch takes the drives out of CSP before the controllers are switched. -/
def Config.leavesCsp (cfg : Config) (source target : ControlMode) : Bool :=
  cfg.switchedDrivesUseCsp source && !cfg.switchedDrivesUseCsp target

def Protocol.cspMatches (cfg : Config) (p : Protocol) (mode : ControlMode) : Prop :=
  p.driveCspRequested = cfg.switchedDrivesUseCsp mode

/-- The drive mode asked for while the controllers are switched. -/
def Protocol.cspMatchesSwitch (cfg : Config) (p : Protocol) (source target : ControlMode) : Prop :=
  p.cspMatches cfg (if cfg.leavesCsp source target then target else p.currentControlMode)

/-- What `executeModeSwitch` knows about the requested drive mode while it owns the enabled
group. From a decision to converge on nothing is known until the owner is stored. -/
def ExecPc.keeps (cfg : Config) (p : Protocol) (target source : ControlMode) : ExecPc → Prop
  | .leave _ .store => cfg.leavesCsp source target ∧ p.cspMatches cfg p.currentControlMode
  | .leave _ _ => cfg.leavesCsp source target ∧ p.cspMatches cfg target
  | .await _ => p.cspMatchesSwitch cfg source target
  | .queryAfter _ => p.cspMatchesSwitch cfg source target
  | .recheckOwner _ _ => p.cspMatchesSwitch cfg source target
  | .recheckPhase _ _ => p.cspMatchesSwitch cfg source target
  | .enter .store => p.cspMatches cfg p.currentControlMode
  | .enter _ => p.cspMatches cfg target
  | .storeMode => p.cspMatches cfg target
  | .preemptRestart => False
  | .preemptMode => False
  | .release (.converge _ _) => True
  | .converge _ _ .emergency => False
  | .converge _ _ .raise => False
  | .converge _ _ _ => True
  | _ => p.cspMatches cfg p.currentControlMode

/-- The call has not decided how the mode switch ends. -/
def ExecPc.undecided : ExecPc → Bool
  | .preemptRestart => false
  | .preemptMode => false
  | .release _ => false
  | .converge _ _ _ => false
  | .returned _ => false
  | _ => true

/-- A call that has not claimed the owner, or has given it back, owns nothing. -/
def ModePc.keeps (cfg : Config) (p : Protocol) : ModePc → Prop
  | .validate _ _ => p.cspMatches cfg p.currentControlMode
  | .switching target source pc => pc.keeps cfg p target source
  | .releaseOwner _ _ => p.cspMatches cfg p.currentControlMode
  | _ => False

/-- The mode that a call starts from asks for CSP if the current one does. -/
def ModePc.sourceUsesCsp (cfg : Config) (p : Protocol) : ModePc → Prop
  | .loadPhase _ current | .loadOwner _ current | .clearAbort _ current | .claimOwner _ current
  | .validate _ current =>
    cfg.switchedDrivesUseCsp p.currentControlMode → cfg.switchedDrivesUseCsp current
  | .switching _ current pc => pc.undecided →
    cfg.switchedDrivesUseCsp p.currentControlMode → cfg.switchedDrivesUseCsp current
  | _ => True

def Protocol.ownedByMode (p : Protocol) : Prop := p.owner = .mode ∧ p.phase = .enabled

structure DriveModeOwned (cfg : Config) (pc : ModePc) (p : Protocol) : Prop where
  outside : p.phase ≠ .enabled → p.phase ≠ .jtcDeactivating → p.phase ≠ .inactive →
    p.driveCspRequested = false
  released : p.phase = .enabled → p.owner = .none → p.cspMatches cfg p.currentControlMode
  owned : p.ownedByMode → pc.keeps cfg p
  source : pc.sourceUsesCsp cfg p

end Knowledge

section Updates

variable {running stopped : Prop} {p q : Protocol}

theorem Config.switchedDrivesUseCsp_of_ne {mode : ControlMode} (h : mode ≠ .fjtReady) :
    cfg.switchedDrivesUseCsp mode = false := by
  simp [switchedDrivesUseCsp, h]

theorem TickStep.switchedDrivesUseCsp (h : TickStep cfg running stopped p q) :
    q.currentControlMode = p.currentControlMode ∨
      cfg.switchedDrivesUseCsp q.currentControlMode = false := by
  cases h with
  | finishStartup | finishDisabling | finishRollback | finishReset =>
    exact .inr (Config.switchedDrivesUseCsp_of_ne nofun)
  | finishEmergency =>
    refine .inr ?_
    dsimp only
    split <;> exact Config.switchedDrivesUseCsp_of_ne nofun
  | activated =>
    by_cases hmode : cfg.motionModeSwitching
    · refine .inr ?_
      simp only [hmode, if_true, Config.switchedDrivesUseCsp]
      cases cfg.motionControllerMode <;> rfl
    · exact .inl (if_neg hmode)
  | _ => exact .inl rfl

theorem Config.switchedDrivesUseCsp_of_not_switching (h : ¬cfg.motionModeSwitching)
    (mode : ControlMode) : cfg.switchedDrivesUseCsp mode = false := by
  have htrajectory : cfg.trajectoryMotionController = "" := by
    simp only [Config.motionModeSwitching, Bool.or_eq_true, decide_eq_true_eq, not_or] at h
    exact not_not.1 h.2
  simp [Config.switchedDrivesUseCsp, Config.motionControllerMode, htrajectory]

theorem Config.switchedDrivesUseCsp_motionControllerMode :
    cfg.switchedDrivesUseCsp cfg.motionControllerMode = false := by
  unfold Config.switchedDrivesUseCsp
  cases cfg.motionControllerMode <;> rfl

theorem TickStep.enabled (h : TickStep cfg running stopped p q) (hq : q.phase = .enabled) :
    q = p ∨ p.phase = .jtcActivating ∧ q.owner = .none ∧
      q.driveCspRequested = p.driveCspRequested ∧
      cfg.switchedDrivesUseCsp q.currentControlMode = false := by
  cases h with
  | rest => exact .inl rfl
  | activated hphase =>
    refine .inr ⟨hphase, rfl, rfl, ?_⟩
    by_cases hmode : cfg.motionModeSwitching
    · simp only [hmode, if_true]
      exact Config.switchedDrivesUseCsp_motionControllerMode
    · exact Config.switchedDrivesUseCsp_of_not_switching hmode _
  | emergency offline next hphase hviolation hnext | enableEmergency next hphase hnext
  | finishStartup next hphase hnext | finishDisabling result next hphase hnext
  | finishRollback result next hphase hnext | finishReset result next hphase hnext
  | finishEmergency result next hphase hnext | enabling next hphase hnext =>
    rcases hnext with rfl | rfl <;> cases hq
  | answerReset result next hphase =>
    rcases hphase with ⟨-, rfl, -⟩ | ⟨-, rfl | rfl, -⟩ <;> cases hq
  | resetting next hphase => rcases hphase with ⟨-, rfl⟩ | ⟨-, rfl⟩ <;> cases hq
  | rejectEnable result hphase | answerDisable result hphase => cases hq.symm.trans hphase
  | _ => cases hq

theorem ModePc.sourceUsesCsp_of_false (h : cfg.switchedDrivesUseCsp p.currentControlMode = false)
    (pc : ModePc) : pc.sourceUsesCsp cfg p := by
  cases pc with
  | switching target source sub => exact fun _ hp => absurd hp (ne_true_of_eq_false h)
  | _ => first | exact trivial | exact fun hp => absurd hp (ne_true_of_eq_false h)

theorem ModePc.sourceUsesCsp_congr (hmode : q.currentControlMode = p.currentControlMode)
    (pc : ModePc) : pc.sourceUsesCsp cfg q ↔ pc.sourceUsesCsp cfg p := by
  cases pc <;> simp only [sourceUsesCsp, hmode]

theorem ModePc.sourceUsesCsp_of_tick (h : TickStep cfg running stopped p q) {pc : ModePc}
    (hs : pc.sourceUsesCsp cfg p) : pc.sourceUsesCsp cfg q := by
  rcases h.switchedDrivesUseCsp with hsame | hnone
  · exact (sourceUsesCsp_congr hsame pc).2 hs
  · exact sourceUsesCsp_of_false hnone pc

theorem Protocol.cspMatches_of_false {mode : ControlMode} (hcsp : p.driveCspRequested = false)
    (hmode : cfg.switchedDrivesUseCsp mode = false) : p.cspMatches cfg mode :=
  hcsp.trans hmode.symm

theorem TickStep.driveModeOwned (h : TickStep cfg running stopped p q)
    (haxes : cfg.modeSwitchAxes ≠ []) {pc : ModePc} (ho : DriveModeOwned cfg pc p) :
    DriveModeOwned cfg pc (q.writeDriveModes cfg) := by
  have hwritten : (q.writeDriveModes cfg).driveCspRequested =
      (q.driveCspRequested && decide (q.phase = .enabled)) := by
    simp [Protocol.writeDriveModes, haxes]
  refine ⟨fun hphase _ _ => ?_, fun hphase howner => ?_, fun howned => ?_,
    ModePc.sourceUsesCsp_of_tick h ho.source⟩
  · rw [hwritten]
    simp [show q.phase ≠ .enabled from hphase]
  · rcases h.enabled hphase with rfl | ⟨hbefore, -, hcsp, hmode⟩
    · have hsame : q.writeDriveModes cfg = q := Protocol.writeDriveModes_of_enabled hphase
      rw [hsame]
      exact ho.released hphase howner
    · refine Protocol.cspMatches_of_false ?_ hmode
      rw [hwritten, hcsp, ho.outside (by rw [hbefore]; decide) (by rw [hbefore]; decide)
        (by rw [hbefore]; decide)]
      rfl
  · rcases h.enabled howned.2 with rfl | ⟨-, howner, -⟩
    · have hsame : q.writeDriveModes cfg = q := Protocol.writeDriveModes_of_enabled howned.2
      rw [hsame]
      exact ho.owned howned
    · exact absurd (howned.1.symm.trans howner) (by decide)

end Updates

section Threads

variable {p q : Protocol} {pc : ModePc}

theorem ExecPc.keeps_congr (hcsp : q.driveCspRequested = p.driveCspRequested)
    (hmode : q.currentControlMode = p.currentControlMode) (target source : ControlMode)
    (pc : ExecPc) : pc.keeps cfg q target source ↔ pc.keeps cfg p target source := by
  cases pc with
  | leave before drive | enter drive =>
    cases drive <;> simp only [keeps, Protocol.cspMatches, hcsp, hmode]
  | release exit => cases exit <;> simp only [keeps, Protocol.cspMatches, hcsp, hmode]
  | converge restart result sub => cases sub <;> simp only [keeps]
  | _ => simp only [keeps, Protocol.cspMatches, Protocol.cspMatchesSwitch, hcsp, hmode]

theorem ModePc.keeps_congr (hcsp : q.driveCspRequested = p.driveCspRequested)
    (hmode : q.currentControlMode = p.currentControlMode) (pc : ModePc) :
    pc.keeps cfg q ↔ pc.keeps cfg p := by
  cases pc with
  | switching target source sub => exact ExecPc.keeps_congr hcsp hmode target source sub
  | _ => simp only [keeps, Protocol.cspMatches, hcsp, hmode]

/-- The accesses of the threads other than the mode switch. -/
def Access.foreignToMode (a : Access) : Bool :=
  EnablePc.owns a || DisablePc.owns a || ResetPc.owns a || WorkerPc.owns a || FaultPc.owns a

/-- The accesses that leave drive mode, control mode, owner and phase alone. -/
def Access.neutral : Access → Bool
  | .claimOwner _ => false
  | .releaseModeOwnership => false
  | .storePhase _ => false
  | .storeOwner _ => false
  | .storeMode _ => false
  | .storeDriveCsp _ => false
  | _ => true

theorem DriveModeOwned.frame (ho : DriveModeOwned cfg pc p) (hphase : q.phase = p.phase)
    (howner : q.owner = p.owner) (hcsp : q.driveCspRequested = p.driveCspRequested)
    (hmode : q.currentControlMode = p.currentControlMode) : DriveModeOwned cfg pc q := by
  refine ⟨?_, ?_, ?_, ?_⟩
  · rw [hphase, hcsp]
    exact ho.outside
  · rw [hphase, howner, Protocol.cspMatches, hcsp, hmode]
    exact ho.released
  · rw [Protocol.ownedByMode, hphase, howner, ModePc.keeps_congr hcsp hmode]
    exact ho.owned
  · rw [ModePc.sourceUsesCsp_congr hmode]
    exact ho.source

theorem Access.apply_of_neutral {a : Access} (h : a.neutral) :
    (a.apply p).phase = p.phase ∧ (a.apply p).owner = p.owner ∧
      (a.apply p).driveCspRequested = p.driveCspRequested ∧
      (a.apply p).currentControlMode = p.currentControlMode := by
  cases a <;> first | exact ⟨rfl, rfl, rfl, rfl⟩ | exact absurd h Bool.false_ne_true

theorem DriveModeOwned.neutral {a : Access} (ho : DriveModeOwned cfg pc p) (h : a.neutral) :
    DriveModeOwned cfg pc (a.apply p) := by
  obtain ⟨hphase, howner, hcsp, hmode⟩ := a.apply_of_neutral (p := p) h
  exact ho.frame hphase howner hcsp hmode

theorem DriveModeOwned.foreign {a : Access} (ho : DriveModeOwned cfg pc p) (ha : a.foreignToMode)
    (hstore : ∀ mode, a = .storeMode mode →
      p.phase = .enabled → p.owner ≠ .none ∧ p.owner ≠ .mode) :
    DriveModeOwned cfg pc (a.apply p) := by
  cases a with
  | claimOwner owner =>
    by_cases hnone : p.owner = .none
    · have howner : ((Access.claimOwner owner).apply p).owner = owner := if_pos hnone
      refine ⟨ho.outside, fun _ h => ?_, fun h => ?_, ho.source⟩
      · rw [howner] at h
        subst h
        cases ha
      · have hmode := howner.symm.trans h.1
        subst hmode
        cases ha
    · exact ho.frame rfl (if_neg hnone) rfl rfl
  | storePhase phase =>
    have hphase : phase = .jtcDeactivating := by
      revert ha
      cases phase <;> decide
    subst hphase
    exact ⟨(fun _ h => absurd rfl h), nofun, (fun h => nomatch h.2), ho.source⟩
  | storeMode mode =>
    have hmode : mode = .restartRequired := by
      revert ha
      cases mode <;> decide
    subst hmode
    refine ⟨ho.outside, fun hphase howner => ?_, fun howned => ?_, ?_⟩
    · exact absurd howner (hstore _ rfl hphase).1
    · exact absurd howned.1 (hstore _ rfl howned.2).2
    · have hnone : cfg.switchedDrivesUseCsp .restartRequired = false :=
        Config.switchedDrivesUseCsp_of_ne (by decide)
      exact ModePc.sourceUsesCsp_of_false hnone pc
  | releaseModeOwnership => cases ha
  | storeOwner owner => cases owner <;> cases ha
  | storeDriveCsp csp => cases ha
  | _ => exact ho.neutral rfl

section OwnStep

variable {w : World} {env : Environment}

theorem DriveModeOwned.move {pc' : ModePc} {a : Access} (ho : DriveModeOwned cfg pc p)
    (ha : a.neutral) (hkeeps : p.ownedByMode → pc.keeps cfg p → pc'.keeps cfg p)
    (hsource : pc.sourceUsesCsp cfg p → pc'.sourceUsesCsp cfg p) :
    DriveModeOwned cfg pc' (a.apply p) :=
  DriveModeOwned.neutral ⟨ho.outside, ho.released, fun h => hkeeps h (ho.owned h), hsource ho.source⟩
    ha

/-- The mode switch was refused with its source controllers preserved. -/
def ExecPc.sourcePreserved : ExecPc → Bool
  | .recheckPhase (some false) .sourcePreserved => true
  | _ => false

/-- The access is made over the owner and in the phase that the call has checked. -/
def Access.overChecked (p : Protocol) : Access → Prop
  | .storeDriveCsp _ => p.ownedByMode
  | .storeMode _ => p.phase = .enabled → p.owner ≠ .none
  | _ => True

variable {target source : ControlMode} {sub sub' : ExecPc}

theorem DriveModeOwned.moveSwitch {a : Access}
    (ho : DriveModeOwned cfg (.switching target source sub) p) (ha : a.neutral)
    (hundecided : sub'.undecided → sub.undecided)
    (hkeeps : p.ownedByMode → sub.keeps cfg p target source → sub'.keeps cfg p target source) :
    DriveModeOwned cfg (.switching target source sub') (a.apply p) :=
  ho.move ha hkeeps fun hsource h => hsource (hundecided h)

theorem DriveModeOwned.storeDriveCsp {mode : ControlMode} (ho : DriveModeOwned cfg pc p)
    (hmine : p.ownedByMode) {pc' : ModePc}
    (hkeeps : ({ p with driveCspRequested := cfg.switchedDrivesUseCsp mode }).cspMatches cfg mode →
      pc'.keeps cfg { p with driveCspRequested := cfg.switchedDrivesUseCsp mode })
    (hsource : pc.sourceUsesCsp cfg p →
      pc'.sourceUsesCsp cfg { p with driveCspRequested := cfg.switchedDrivesUseCsp mode }) :
    DriveModeOwned cfg pc' { p with driveCspRequested := cfg.switchedDrivesUseCsp mode } := by
  refine ⟨fun hphase => absurd hmine.2 hphase, fun _ howner => ?_, fun _ => hkeeps rfl,
    hsource ho.source⟩
  exact absurd (hmine.1.symm.trans howner) (by decide)

theorem ExecPc.keeps_plan (h : p.cspMatchesSwitch cfg source target)
    (before : List ControllerState) : (plan cfg target before).keeps cfg p target source := by
  unfold plan
  split
  · exact trivial
  · exact h

theorem ExecPc.keeps_afterSwitch {reply : Option Bool} {observed : ModeSwitchState}
    (h : p.cspMatchesSwitch cfg source target)
    (hrejected : reply = some false → observed = .sourcePreserved →
      cfg.leavesCsp source target = false)
    (hsource : cfg.switchedDrivesUseCsp p.currentControlMode → cfg.switchedDrivesUseCsp source) :
    (afterSwitch cfg target reply observed).keeps cfg p target source := by
  have hstays : cfg.leavesCsp source target = false → p.cspMatches cfg p.currentControlMode := by
    intro hleaves
    rwa [Protocol.cspMatchesSwitch, hleaves] at h
  unfold afterSwitch
  cases reply with
  | none => exact trivial
  | some ok =>
    dsimp only
    split
    · split
      · rename_i htarget
        exact hstays (by simp [Config.leavesCsp, htarget])
      · rename_i htarget
        by_cases hleaves : cfg.leavesCsp source target
        · rwa [Protocol.cspMatchesSwitch, if_pos hleaves] at h
        · have hnotarget := eq_false_of_ne_true htarget
          have hnosource : cfg.switchedDrivesUseCsp source = false := by
            simpa [Config.leavesCsp, hnotarget] using hleaves
          have hcurrent : cfg.switchedDrivesUseCsp p.currentControlMode = false :=
            eq_false_of_ne_true fun hc =>
              absurd (hsource hc) (ne_true_of_eq_false hnosource)
          exact ((hstays (eq_false_of_ne_true hleaves)).trans hcurrent).trans hnotarget.symm
    · split
      · rename_i hpreserved
        refine hstays (hrejected ?_ hpreserved.2)
        rw [show ok = false by simpa using hpreserved.1]
      · split <;> exact trivial

theorem ExecPc.driveModeOwned_next
    (ho : DriveModeOwned cfg (.switching target source sub) w.protocol)
    (haxes : cfg.modeSwitchAxes ≠ [])
    (hchecked : (sub.access cfg target env w.protocol).overChecked w.protocol)
    (hrejected : w.protocol.phase = .enabled → sub.sourcePreserved →
      cfg.leavesCsp source target = false)
    (hreturned : ∀ result, sub ≠ .returned result) :
    DriveModeOwned cfg (.switching target source (sub.next cfg target source env w))
      ((sub.access cfg target env w.protocol).apply w.protocol) := by
  cases sub with
  | checkAbort | recheckAbort | checkAbortBefore before =>
    refine ho.moveSwitch rfl (fun _ => rfl) fun _ h => ?_
    simp only [next]
    split <;> exact h
  | claimSwitch =>
    refine ho.moveSwitch ?_ (fun _ => rfl) fun _ h => ?_
    · simp only [access]
      split <;> rfl
    · simp only [next]
      split <;> exact h
  | queryBefore | queryAfter reply =>
    refine ho.moveSwitch rfl (fun _ => rfl) fun _ h => ?_
    simp only [next]
    split
    · exact h
    · exact trivial
  | checkOwner before | recheckOwner reply observed =>
    refine ho.moveSwitch rfl (fun _ => rfl) fun hmine h => ?_
    simp only [next]
    split
    · exact absurd hmine.1 ‹_›
    · exact h
  | checkPhase before =>
    refine ho.moveSwitch rfl (fun _ => rfl) fun hmine h => ?_
    simp only [next]
    split
    · exact absurd hmine.2 ‹_›
    · split
      · exact trivial
      · exact h
  | checkService before =>
    refine ho.moveSwitch rfl (fun _ => rfl) fun _ h => ?_
    simp only [next]
    split
    · exact trivial
    · split
      · rename_i hleaves
        exact ⟨by simpa [Config.leavesCsp] using hleaves, h⟩
      · rename_i hstays
        refine keeps_plan ?_ before
        have hleaves : cfg.leavesCsp source target = false := by
          simpa [Config.leavesCsp] using hstays
        rw [Protocol.cspMatchesSwitch, hleaves]
        exact h
  | leave before drive =>
    cases drive with
    | store =>
      have haccess : (leave before .store).access cfg target env w.protocol = _ :=
        DrivePc.access_store haxes target
      have hnext : (leave before .store).next cfg target source env w = .leave before .owner := by
        simp [next, DrivePc.next, haxes]
      rw [haccess] at hchecked ⊢
      rw [hnext]
      exact ho.storeDriveCsp hchecked (fun h => ⟨(ho.owned hchecked).1, h⟩) id
    | owner | phase =>
      refine ho.moveSwitch rfl (fun _ => rfl) fun _ h => ?_
      simp only [next, DrivePc.next]
      split_ifs
      · exact trivial
      · exact h
    | display =>
      refine ho.moveSwitch rfl (fun _ => rfl) fun _ h => ?_
      simp only [next, DrivePc.next]
      by_cases hconfirmed : DrivePc.confirmed cfg target w.controller.data
      · rw [if_pos hconfirmed]
        refine keeps_plan ?_ before
        rw [Protocol.cspMatchesSwitch, if_pos h.1]
        exact h.2
      · rw [if_neg hconfirmed]
        exact h
  | await request =>
    refine ho.moveSwitch ?_ (fun _ => rfl) fun _ h => h
    have hswitch := SwitchReply.isSwitch_access request env.reply
    change (env.reply.access request).neutral
    revert hswitch
    cases env.reply.access request <;> simp [Access.isSwitch, Access.neutral]
  | recheckPhase reply observed =>
    refine ho.moveSwitch rfl (fun _ => rfl) fun hmine h => ?_
    simp only [next, if_neg (not_not_intro hmine.2)]
    exact keeps_afterSwitch h (fun hreply hobserved => hrejected hmine.2 (by
      rw [hreply, hobserved]
      rfl)) (ho.source rfl)
  | enter drive =>
    cases drive with
    | store =>
      have haccess : (enter .store).access cfg target env w.protocol = _ :=
        DrivePc.access_store haxes target
      have hnext : (enter .store).next cfg target source env w = .enter .owner := by
        simp [next, DrivePc.next, haxes]
      rw [haccess] at hchecked ⊢
      rw [hnext]
      exact ho.storeDriveCsp hchecked (fun h => h) id
    | owner | phase =>
      refine ho.moveSwitch rfl (fun _ => rfl) fun _ h => ?_
      simp only [next, DrivePc.next]
      split_ifs
      · exact trivial
      · exact h
    | display =>
      refine ho.moveSwitch rfl (fun _ => rfl) fun _ h => ?_
      simp only [next, DrivePc.next]
      by_cases hconfirmed : DrivePc.confirmed cfg target w.controller.data
      · rw [if_pos hconfirmed]
        exact h
      · rw [if_neg hconfirmed]
        exact h
  | storeMode =>
    refine ⟨ho.outside, fun hphase howner => absurd howner (hchecked hphase), fun hmine => ?_,
      by rintro ⟨⟩⟩
    exact ho.owned hmine
  | preemptRestart => exact ho.moveSwitch rfl (fun h => h) fun _ h => h
  | preemptMode =>
    exact ⟨ho.outside, fun hphase howner => absurd howner (hchecked hphase),
      fun hmine => (ho.owned hmine).elim, by rintro ⟨⟩⟩
  | release exit =>
    cases exit with
    | answer result => exact ho.moveSwitch rfl (fun h => h) fun _ h => h
    | converge restart result => exact ho.moveSwitch rfl (fun h => h) fun _ _ => trivial
  | converge restart result step =>
    cases step with
    | mode =>
      exact ⟨ho.outside, fun hphase howner => absurd howner (hchecked hphase), fun _ => trivial,
        by rintro ⟨⟩⟩
    | owner =>
      refine ⟨ho.outside, (by rintro _ ⟨⟩), (by rintro ⟨⟨⟩, -⟩), fun h => ?_⟩
      revert h
      cases restart <;> rintro ⟨⟩
    | raise => exact ho.moveSwitch rfl (fun h => h) fun _ h => h.elim
    | _ => exact ho.moveSwitch rfl (fun h => h) fun _ _ => by first | exact trivial | assumption
  | returned result => exact absurd rfl (hreturned result)

theorem ModePc.next_switching (h : ∀ result, sub ≠ .returned result) :
    (ModePc.switching target source sub).next cfg env w =
      .switching target source (sub.next cfg target source env w) := by
  cases sub <;> first | rfl | exact absurd rfl (h _)

/-- The position holds the answer of a controller manager that refused to leave CSP. -/
def ModePc.refusedInCsp (cfg : Config) : ModePc → Bool
  | .switching target source pc => pc.sourcePreserved && cfg.leavesCsp source target
  | _ => false

theorem ModePc.driveModeOwned_next (ho : DriveModeOwned cfg pc w.protocol)
    (haxes : cfg.modeSwitchAxes ≠ [])
    (hchecked : (pc.access cfg env w.protocol).overChecked w.protocol)
    (hrefused : w.protocol.phase = .enabled → pc.refusedInCsp cfg = false) :
    DriveModeOwned cfg (pc.next cfg env w) ((pc.access cfg env w.protocol).apply w.protocol) := by
  cases pc with
  | idle answer | checkRestart target =>
    refine ho.move rfl (fun _ h => h.elim) fun _ => ?_
    simp only [next]
    split <;> exact trivial
  | loadMode target => exact ho.move rfl (fun _ h => h.elim) fun _ h => h
  | loadPhase target current | loadOwner target current =>
    refine ho.move rfl (fun _ h => h.elim) fun h => ?_
    simp only [next]
    repeat' split
    all_goals first | exact trivial | exact h
  | clearAbort target current => exact ho.move rfl (fun _ h => h.elim) id
  | claimOwner target current =>
    by_cases hnone : w.protocol.owner = .none
    · have howner : ((Access.claimOwner .mode).apply w.protocol).owner = .mode := if_pos hnone
      simp only [next, if_pos hnone]
      refine ⟨ho.outside, fun _ h => ?_, fun h => ho.released h.2 hnone, ho.source⟩
      exact absurd (howner.symm.trans h) (by decide)
    · simp only [next, if_neg hnone]
      have hframe : DriveModeOwned cfg (.claimOwner target current)
          ((Access.claimOwner .mode).apply w.protocol) := ho.frame rfl (if_neg hnone) rfl rfl
      exact ⟨hframe.outside, hframe.released, fun h => (hframe.owned h).elim, trivial⟩
  | validate target current =>
    refine ho.move rfl (fun _ h => ?_) fun h => ?_ <;>
      (simp only [next]; split)
    · exact h
    · exact h
    · exact fun _ => h
    · exact trivial
  | switching target source sub =>
    by_cases hreturned : ∃ result, sub = .returned result
    · obtain ⟨result, rfl⟩ := hreturned
      exact ho.move rfl (fun _ h => h) fun _ => trivial
    · have hsub : ∀ result, sub ≠ .returned result := fun result h => hreturned ⟨result, h⟩
      rw [next_switching hsub]
      refine ExecPc.driveModeOwned_next ho haxes hchecked (fun hphase hpreserved => ?_) hsub
      have hnot := hrefused hphase
      rwa [refusedInCsp, hpreserved, Bool.true_and] at hnot
  | releaseOwner result current =>
    have hnone : ((Access.releaseModeOwnership).apply w.protocol).owner ≠ .mode := by
      simp only [Access.apply]
      split <;> simp_all
    refine ⟨ho.outside, fun hphase howner => ?_, fun h => absurd h.1 hnone, ?_⟩
    · by_cases hmode : w.protocol.owner = .mode
      · exact ho.owned ⟨hmode, hphase⟩
      · exact ho.released hphase ((if_neg hmode).symm.trans howner)
    · cases current <;> exact trivial
  | respond result => exact ho.move rfl (fun _ h => h.elim) fun _ => trivial

end OwnStep

end Threads

namespace System

/-- The requested drive mode of an enabled group that nobody works on is that of its controllers. -/
def DriveModeFollows (cfg : Config) (s : System) : Prop :=
  s.protocol.phase = .enabled → s.protocol.owner = .none →
    s.protocol.driveCspRequested = cfg.switchedDrivesUseCsp s.protocol.currentControlMode

/-- The mode switch stores over the owner and phase that it has checked, is not refused after the
drives have left CSP, and is not overridden by a disable call that waited for it in vain. -/
def driveModeGuard (cfg : Config) (s : System) : Label → Prop
  | .mode env =>
    (s.mode.access cfg env s.protocol).overChecked s.protocol ∧
      (s.protocol.phase = .enabled → s.mode.refusedInCsp cfg = false)
  | .disable _ =>
    s.disable = .forceMode → s.protocol.phase = .enabled →
      s.protocol.owner ≠ .none ∧ s.protocol.owner ≠ .mode
  | _ => True

def DriveModeOwned (cfg : Config) (s : System) : Prop :=
  EnableManager.DriveModeOwned cfg s.mode s.protocol

theorem foreignToMode_of_nextAccess {s : System} {l : Label} {a : Access}
    (ha : s.nextAccess cfg l = some a) (hl : ∀ env, l ≠ .mode env) : a.foreignToMode := by
  cases l with
  | mode env => exact absurd rfl (hl env)
  | tick => cases ha
  | activate => cases ha
  | deactivate => cases ha
  | enable env => cases ha; simp [Access.foreignToMode, s.enable.owns_access cfg env]
  | disable env => cases ha; simp [Access.foreignToMode, s.disable.owns_access cfg env]
  | reset env => cases ha; simp [Access.foreignToMode, s.reset.owns_access]
  | worker env => cases ha; simp [Access.foreignToMode, s.worker.owns_access cfg env]
  | fault => cases ha; simp [Access.foreignToMode, s.fault.owns_access]

theorem forceMode_of_storeMode {env : Environment} {p : Protocol} {pc : DisablePc}
    {mode : ControlMode} (h : pc.access cfg env p = .storeMode mode) : pc = .forceMode := by
  cases pc with
  | forceMode => rfl
  | ordered seen sub =>
    have howns := sub.owns_access cfg env p
    rw [show sub.access cfg env p = .storeMode mode from h] at howns
    cases howns
  | _ => cases h

theorem storeMode_foreign {s : System} {l : Label} {mode : ControlMode}
    (ha : s.nextAccess cfg l = some (.storeMode mode)) (hl : ∀ env, l ≠ .mode env) :
    s.disable = .forceMode ∧ ∃ env, l = .disable env := by
  have hnot : ∀ {owns : Access → Bool} {b : Access}, owns b → b = .storeMode mode →
      owns (.storeMode mode) = false → False := fun howns hb hfalse =>
    absurd (hb ▸ howns) (ne_true_of_eq_false hfalse)
  cases l with
  | mode env => exact absurd rfl (hl env)
  | tick => cases ha
  | activate => cases ha
  | deactivate => cases ha
  | disable env => exact ⟨forceMode_of_storeMode (Option.some.inj ha), env, rfl⟩
  | enable env => exact (hnot (s.enable.owns_access cfg env _) (Option.some.inj ha) rfl).elim
  | reset env => exact (hnot s.reset.owns_access (Option.some.inj ha) rfl).elim
  | worker env => exact (hnot (s.worker.owns_access cfg env _) (Option.some.inj ha) rfl).elim
  | fault => exact (hnot s.fault.owns_access (Option.some.inj ha) rfl).elim

theorem mode_step {s : System} {l : Label} (hl : ∀ env, l ≠ .mode env) :
    (s.step cfg l).mode = s.mode := by
  cases l with
  | mode env => exact absurd rfl (hl env)
  | activate sample | deactivate => simp only [step]; split <;> rfl
  | _ => rfl

theorem driveModeOwned_step (haxes : cfg.modeSwitchAxes ≠ []) {s : System} {l : Label}
    (ho : s.DriveModeOwned cfg) (hguard : s.driveModeGuard cfg l) :
    (s.step cfg l).DriveModeOwned cfg := by
  by_cases hl : ∃ env, l = .mode env
  · obtain ⟨env, rfl⟩ := hl
    by_cases hmode : cfg.motionModeSwitching
    · rw [step_mode_of_switching cfg s env hmode]
      exact ModePc.driveModeOwned_next ho haxes hguard.1 hguard.2
    · rw [step_mode_of_not_switching cfg s env hmode]
      exact ho
  · have hother : ∀ env, l ≠ .mode env := fun env h => hl ⟨env, h⟩
    unfold DriveModeOwned
    rw [mode_step hother]
    have hnone : cfg.switchedDrivesUseCsp .disabled = false :=
      Config.switchedDrivesUseCsp_of_ne (by decide)
    refine protocol_step cfg s l ho (fun running stopped q hstep _ _ _ => ?_) (fun a ha _ => ?_)
      (fun sample _ _ => ?_) (fun _ _ => ?_)
    · exact hstep.driveModeOwned haxes ho
    · refine EnableManager.DriveModeOwned.foreign ho (foreignToMode_of_nextAccess ha hother) ?_
      rintro mode rfl
      obtain ⟨hforce, env, rfl⟩ := storeMode_foreign ha hother
      exact hguard hforce
    · exact ⟨fun _ _ _ => rfl, nofun, (fun h => nomatch h.2),
        ModePc.sourceUsesCsp_of_false hnone _⟩
    · exact ⟨fun _ _ h => absurd rfl h, nofun, (fun h => nomatch h.2),
        ModePc.sourceUsesCsp_of_false hnone _⟩

end System

section Call

def ModePc.isIdle : ModePc → Bool
  | .idle _ => true
  | _ => false

/-- The call holds the owner, or is about to give it back. -/
def ModePc.held : ModePc → Bool
  | .validate _ _ => true
  | .switching _ _ _ => true
  | .releaseOwner _ _ => true
  | _ => false

def ExecPc.commits : ExecPc → Bool
  | .release (.answer result) => result = .ok
  | .release (.converge _ _) => true
  | .converge _ _ _ => true
  | .returned result => result = .ok
  | _ => false

/-- The call has stored a control mode and answers `kModeOk`, or converges. -/
def ModePc.commits : ModePc → Bool
  | .switching _ _ pc => pc.commits
  | .releaseOwner result _ => result = .ok
  | .respond result => result = .ok
  | .idle (some (result, _)) => result = .ok
  | _ => false

def Protocol.groupEnabled (p : Protocol) : Prop :=
  p.phase = .enabled ∧ (p.owner = .none ∨ p.owner = .mode)

/-- The control mode is still `before` unless the call commits to another one. -/
structure ModeKept (before : ControlMode) (pc : ModePc) (p : Protocol) : Prop where
  held : pc.held → p.owner = .mode
  mode : p.currentControlMode = before ∨ pc.commits

variable {before : ControlMode} {p q : Protocol} {pc : ModePc} {w : World} {env : Environment}

theorem ModeKept.foreign {a : Access} (hk : ModeKept before pc p) (ha : a.foreignToMode)
    (hstore : ∀ mode, a ≠ .storeMode mode) (hq : (a.apply p).groupEnabled) :
    ModeKept before pc (a.apply p) := by
  cases a with
  | claimOwner owner =>
    by_cases hnone : p.owner = .none
    · have howner : ((Access.claimOwner owner).apply p).owner = owner := if_pos hnone
      have hne : owner ≠ .mode := by
        rintro rfl
        cases ha
      refine ⟨fun hheld => absurd (hnone.symm.trans (hk.held hheld)) (by decide), hk.mode⟩
    · exact ⟨fun hheld => (if_neg hnone).trans (hk.held hheld), hk.mode⟩
  | storeMode mode => exact absurd rfl (hstore mode)
  | releaseModeOwnership => cases ha
  | storeOwner owner => cases owner <;> cases ha
  | _ => exact ⟨hk.held, hk.mode⟩

theorem TickStep.same_of_groupEnabled {running stopped : Prop}
    (h : TickStep cfg running stopped p q) (hp : p.groupEnabled) (hq : q.groupEnabled) : q = p := by
  rcases h.enabled hq.1 with hsame | ⟨hphase, -⟩
  · exact hsame
  · exact absurd (hp.1.symm.trans hphase) (by decide)

theorem ModeKept.move {pc' : ModePc} {a : Access} (hk : ModeKept before pc p) (ha : a.neutral)
    (hheld : pc'.held → pc.held) (hcommits : pc.commits → pc'.commits) :
    ModeKept before pc' (a.apply p) := by
  obtain ⟨-, howner, -, hmode⟩ := a.apply_of_neutral (p := p) ha
  refine ⟨fun h => howner.trans (hk.held (hheld h)), ?_⟩
  rw [hmode]
  exact hk.mode.imp_right hcommits

/-- The positions of `executeModeSwitch` that store the drive mode, the control mode or the
owner. -/
def ExecPc.stores : ExecPc → Bool
  | .leave _ .store => true
  | .enter .store => true
  | .storeMode => true
  | .preemptMode => true
  | .converge _ _ .mode => true
  | .converge _ _ .owner => true
  | _ => false

theorem ExecPc.neutral_access {target : ControlMode} {p : Protocol} {sub : ExecPc}
    (h : sub.stores = false) : (sub.access cfg target env p).neutral := by
  cases sub with
  | claimSwitch =>
    simp only [access]
    split <;> rfl
  | leave before drive | enter drive => cases drive <;> first | rfl | cases h
  | await request =>
    have hswitch := SwitchReply.isSwitch_access request env.reply
    change (env.reply.access request).neutral
    revert hswitch
    cases env.reply.access request <;> simp [Access.isSwitch, Access.neutral]
  | converge restart result step => cases step <;> first | rfl | cases h
  | storeMode => cases h
  | preemptMode => cases h
  | _ => rfl

variable {target source : ControlMode} {sub : ExecPc}

theorem ExecPc.commits_next (h : sub.commits) (hreturned : ∀ result, sub ≠ .returned result)
    (hkeeps : sub.keeps cfg w.protocol target source) :
    (sub.next cfg target source env w).commits := by
  cases sub with
  | release exit => cases exit <;> exact h
  | converge restart result step =>
    cases step with
    | raise => exact hkeeps.elim
    | _ => rfl
  | returned result => exact absurd rfl (hreturned result)
  | _ => cases h

theorem ExecPc.modeKept_next
    (hk : ModeKept before (.switching target source sub) w.protocol)
    (ho : DriveModeOwned cfg (.switching target source sub) w.protocol)
    (haxes : cfg.modeSwitchAxes ≠ []) (hp : w.protocol.groupEnabled)
    (hq : ((sub.access cfg target env w.protocol).apply w.protocol).groupEnabled)
    (hreturned : ∀ result, sub ≠ .returned result) :
    ModeKept before (.switching target source (sub.next cfg target source env w))
      ((sub.access cfg target env w.protocol).apply w.protocol) := by
  have howner : w.protocol.owner = .mode := hk.held rfl
  have hkeeps : sub.keeps cfg w.protocol target source := ho.owned ⟨howner, hp.1⟩
  have hcommits : sub.commits → (sub.next cfg target source env w).commits := fun h =>
    commits_next h hreturned hkeeps
  by_cases hstores : sub.stores
  · cases sub with
    | storeMode => exact ⟨fun _ => howner, .inr rfl⟩
    | preemptMode => exact hkeeps.elim
    | leave list drive | enter drive =>
      cases drive with
      | store =>
        change ModeKept before _ ((DrivePc.access cfg target .store).apply w.protocol)
        rw [DrivePc.access_store haxes]
        exact ⟨fun _ => howner, hk.mode.imp_right hcommits⟩
      | _ => cases hstores
    | converge restart result step =>
      cases step with
      | mode => exact ⟨fun _ => howner, .inr rfl⟩
      | owner => rcases hq.2 with h | h <;> cases h
      | _ => cases hstores
    | _ => cases hstores
  · exact hk.move (neutral_access (eq_false_of_ne_true hstores)) (fun _ => rfl) hcommits

theorem ModePc.modeKept_next (hk : ModeKept before pc w.protocol)
    (ho : DriveModeOwned cfg pc w.protocol) (haxes : cfg.modeSwitchAxes ≠ [])
    (hp : w.protocol.groupEnabled)
    (hq : ((pc.access cfg env w.protocol).apply w.protocol).groupEnabled)
    (hidle : pc.isIdle = false) :
    ModeKept before (pc.next cfg env w) ((pc.access cfg env w.protocol).apply w.protocol) := by
  cases pc with
  | idle answer => cases hidle
  | claimOwner target current =>
    by_cases hnone : w.protocol.owner = .none
    · simp only [next, if_pos hnone]
      exact ⟨fun _ => if_pos hnone, .inl (hk.mode.resolve_right nofun)⟩
    · simp only [next, if_neg hnone]
      exact ⟨nofun, .inl (hk.mode.resolve_right nofun)⟩
  | validate target current =>
    refine hk.move rfl (fun _ => rfl) nofun
  | switching target source sub =>
    by_cases hreturned : ∃ result, sub = .returned result
    · obtain ⟨result, rfl⟩ := hreturned
      exact hk.move rfl (fun _ => rfl) id
    · have hsub : ∀ result, sub ≠ .returned result := fun result h => hreturned ⟨result, h⟩
      rw [next_switching hsub]
      exact ExecPc.modeKept_next hk ho haxes hp hq hsub
  | releaseOwner result current =>
    refine ⟨fun h => ?_, hk.mode.imp_right fun h => ?_⟩ <;> cases current <;> first | cases h | exact h
  | respond result => exact hk.move rfl nofun id
  | _ =>
    refine hk.move rfl (fun h => ?_) nofun
    revert h
    simp only [next]
    repeat' split
    all_goals exact nofun

end Call

namespace System

variable {before : ControlMode}

theorem modeKept_step (haxes : cfg.modeSwitchAxes ≠ []) {s : System} {l : Label}
    (hk : ModeKept before s.mode s.protocol) (ho : s.DriveModeOwned cfg)
    (hguard : s.driveModeGuard cfg l) (hidle : s.mode.isIdle = false)
    (hp : s.protocol.groupEnabled) (hq : (s.step cfg l).protocol.groupEnabled) :
    ModeKept before (s.step cfg l).mode (s.step cfg l).protocol := by
  by_cases hl : ∃ env, l = .mode env
  · obtain ⟨env, rfl⟩ := hl
    by_cases hmode : cfg.motionModeSwitching
    · rw [step_mode_of_switching cfg s env hmode] at hq ⊢
      exact ModePc.modeKept_next hk ho haxes hp hq hidle
    · rw [step_mode_of_not_switching cfg s env hmode]
      exact hk
  · have hother : ∀ env, l ≠ .mode env := fun env h => hl ⟨env, h⟩
    rw [mode_step hother]
    refine protocol_step (P := fun q => q.groupEnabled → ModeKept before s.mode q) cfg s l
      (fun _ => hk) (fun running stopped q hstep _ _ _ hq => ?_) (fun a ha _ hq => ?_)
      (fun sample _ _ hq => nomatch hq.1) (fun _ _ hq => nomatch hq.1) hq
    · have hsame : q.writeDriveModes cfg = q := Protocol.writeDriveModes_of_enabled hq.1
      rw [hsame] at hq ⊢
      rw [hstep.same_of_groupEnabled hp hq]
      exact hk
    · refine hk.foreign (foreignToMode_of_nextAccess ha hother) ?_ hq
      rintro mode rfl
      obtain ⟨hforce, env, rfl⟩ := storeMode_foreign ha hother
      have hforced := hguard hforce hp.1
      exact hp.2.elim hforced.1 hforced.2

/-- One `handleSetMode` call from its first step to its answer, in a group that stays enabled. -/
structure SetModeCall (cfg : Config) (s : System) (call : List Label) (result : ModeResult) :
    Prop where
  idle : s.mode.isIdle
  enabled : s.protocol.groupEnabled
  steps : ∃ env rest, call = .mode env :: rest ∧
    Along (step cfg) (fun s _ => s.mode.isIdle = false ∧ s.protocol.groupEnabled)
      (s.step cfg (.mode env)) rest
  stays : (runFrom cfg s call).protocol.groupEnabled
  answer : ∃ mode, (runFrom cfg s call).mode = .idle (some (result, mode))

theorem cspMatches_of_idle {s : System} (ho : s.DriveModeOwned cfg) (hidle : s.mode.isIdle)
    (henabled : s.protocol.groupEnabled) :
    s.protocol.cspMatches cfg s.protocol.currentControlMode := by
  refine ho.released henabled.1 (henabled.2.resolve_right fun howner => ?_)
  have hkeeps := ho.owned ⟨howner, henabled.1⟩
  cases hpc : s.mode with
  | idle answer =>
    rw [hpc] at hkeeps
    exact hkeeps
  | _ =>
    rw [hpc] at hidle
    cases hidle

theorem start_call (cfg : Config) {s : System} (hidle : s.mode.isIdle) (env : Environment) :
    (s.step cfg (.mode env)).protocol = s.protocol ∧
      (s.step cfg (.mode env)).mode.held = false := by
  cases hpc : s.mode with
  | idle answer =>
    by_cases hmode : cfg.motionModeSwitching
    · rw [step_mode_of_switching cfg s env hmode, hpc]
      refine ⟨rfl, ?_⟩
      simp only [ModePc.next]
      split <;> rfl
    · rw [step_mode_of_not_switching cfg s env hmode, hpc]
      exact ⟨rfl, rfl⟩
  | _ =>
    rw [hpc] at hidle
    cases hidle

theorem SetModeCall.driveMode (haxes : cfg.modeSwitchAxes ≠ []) {s : System} {call : List Label}
    {result : ModeResult} (hcall : s.SetModeCall cfg call result) (ho : s.DriveModeOwned cfg)
    (hguard : Along (step cfg) (driveModeGuard cfg) s call) (hresult : result ≠ .ok) :
    (runFrom cfg s call).protocol.driveCspRequested = s.protocol.driveCspRequested := by
  obtain ⟨mode, hanswer⟩ := hcall.answer
  have hend := hcall.stays
  obtain ⟨env, rest, rfl, hrest⟩ := hcall.steps
  obtain ⟨hprotocol, hheld⟩ := start_call cfg hcall.idle env
  have hfirst : ModeKept s.protocol.currentControlMode (s.step cfg (.mode env)).mode
      (s.step cfg (.mode env)).protocol :=
    ⟨fun h => absurd h (ne_true_of_eq_false hheld), .inl (by rw [hprotocol])⟩
  have hlast := invariant_run (P := fun t : System => t.DriveModeOwned cfg ∧
      (t.protocol.groupEnabled → ModeKept s.protocol.currentControlMode t.mode t.protocol))
    (fun t l ht hok => ⟨driveModeOwned_step haxes ht.1 hok.1,
      modeKept_step haxes (ht.2 hok.2.2) ht.1 hok.1 hok.2.1 hok.2.2⟩)
    ⟨driveModeOwned_step haxes ho hguard.1, fun _ => hfirst⟩ (hguard.2.and hrest)
  have hkept : (runFrom cfg s (.mode env :: rest)).protocol.currentControlMode =
      s.protocol.currentControlMode := by
    refine (hlast.2 hend).mode.resolve_right fun hcommits => hresult ?_
    rw [show run (step cfg) (s.step cfg (.mode env)) rest = runFrom cfg s (.mode env :: rest) from rfl,
      hanswer] at hcommits
    exact of_decide_eq_true hcommits
  have hmatches : (runFrom cfg s (.mode env :: rest)).protocol.cspMatches cfg _ :=
    cspMatches_of_idle hlast.1 (by rw [hanswer]; rfl) hend
  have hbefore := cspMatches_of_idle ho hcall.idle hcall.enabled
  rw [hkept] at hmatches
  exact Eq.trans hmatches hbefore.symm

/-- In every run of a group with switched drives whose mode switches meet `driveModeGuard`, the
requested drive mode follows the control mode, and a refused call leaves it as it was. -/
theorem driveMode_follows (cfg : Config) (haxes : cfg.modeSwitchAxes ≠ [])
    (controllers : List ControllerState) (labels : List Label)
    (h : Along (step cfg) (driveModeGuard cfg) (initial controllers) labels) :
    (runFrom cfg (initial controllers) labels).DriveModeFollows cfg ∧
    ∀ first call last result, labels = first ++ call ++ last →
      (runFrom cfg (initial controllers) first).SetModeCall cfg call result → result ≠ .ok →
      (runFrom cfg (initial controllers) (first ++ call)).protocol.driveCspRequested =
        (runFrom cfg (initial controllers) first).protocol.driveCspRequested := by
  have hinit : (initial controllers).DriveModeOwned cfg :=
    ⟨fun _ _ h => absurd rfl h, nofun, (fun h => nomatch h.2), trivial⟩
  have hrun : ∀ labels, Along (step cfg) (driveModeGuard cfg) (initial controllers) labels →
      (runFrom cfg (initial controllers) labels).DriveModeOwned cfg := fun labels h =>
    invariant_run (fun s l => driveModeOwned_step haxes) hinit h
  refine ⟨fun hphase howner => (hrun labels h).released hphase howner, ?_⟩
  rintro first call last result rfl hcall hresult
  rw [List.append_assoc, along_append, along_append] at h
  rw [runFrom, run_append]
  exact hcall.driveMode haxes (hrun first h.1) h.2.1 hresult

section Chassis

instance (p : Protocol) : Decidable p.ownedByMode := inferInstanceAs (Decidable (_ ∧ _))

instance (p : Protocol) : ∀ a : Access, Decidable (a.overChecked p)
  | .storeDriveCsp _ => inferInstanceAs (Decidable p.ownedByMode)
  | .storeMode _ => inferInstanceAs (Decidable (_ → _))
  | .load | .claimOwner _ | .claimSwitch | .releaseSwitch | .clearResult _ | .clearHardwareReady
  | .raise _ | .raiseOutcome _ | .pendMotionFault | .storePhase _ | .storeOwner _
  | .releaseModeOwnership | .storeRestartRequired _ | .storeDeactivationRequired _
  | .storeDeactivateFailed _ | .storeModeAbort _ | .storeMotionFaultRequest _
  | .requestEmergencyDeactivation | .takeEmergencyDeactivation | .recordDeactivateFailure
  | .switchControllers _ => .isTrue trivial

instance (s : System) : ∀ l, Decidable (s.driveModeGuard cfg l)
  | .mode _ => inferInstanceAs (Decidable (_ ∧ _))
  | .disable _ => inferInstanceAs (Decidable (_ → _ → _))
  | .tick _ _ => .isTrue trivial
  | .enable _ => .isTrue trivial
  | .reset _ => .isTrue trivial
  | .worker _ => .isTrue trivial
  | .fault => .isTrue trivial
  | .activate _ => .isTrue trivial
  | .deactivate => .isTrue trivial

/-- The trajectory controller takes over and the drive confirms CSP. -/
def switchToTrajectory : List Label :=
  List.replicate 23 (.mode { target := .fjtReady }) ++ [.tick .enabledCsp 7, .tick .enabledCsp 8] ++
    List.replicate 6 (.mode {})

theorem driveMode_follows_trajectory :
    (runFrom chassis (initial chassisControllers)
      (startUp ++ enableGroup ++ switchToTrajectory)).DriveModeFollows chassis :=
  (driveMode_follows chassis (by decide) chassisControllers _ (by decide +kernel)).1

/-- The drive has left CSP when the controller manager refuses to switch back to the velocity
controller. -/
def refusedVelocity : List Label :=
  startUp ++ enableGroup ++ switchToTrajectory ++
    List.replicate 20 (.mode { target := .velocityReady }) ++ [.tick .enabled 9] ++
    List.replicate 3 (.mode {}) ++ List.replicate 8 (.mode { reply := .rejected })

/-- The trajectory controller keeps the group, with its drive in CSV. -/
theorem driveMode_left :
    ¬(runFrom chassis (initial chassisControllers) refusedVelocity).DriveModeFollows chassis :=
  fun h => absurd (h (by decide +kernel) (by decide +kernel)) (by decide +kernel)

end Chassis

end System

end RobotDriver.EnableManager
