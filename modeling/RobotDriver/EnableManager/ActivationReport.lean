import RobotDriver.EnableManager.System

/-!
# Who ends the activation

In `kJtcActivating` every drive is energised and a disable is refused, so only the enable call that
waits for the controllers can end the phase. It is still there as long as none of its waits
expires before the update is done with its request.
-/

namespace RobotDriver.EnableManager

open LabelledRun

variable {cfg : Config}

section Report

/-- From these positions the call goes on to raise the outcome of the activation. -/
def EnablePc.reports (p : Protocol) : EnablePc → Bool
  | .waitHardware => p.enableHardwareReady
  | .checkResult => p.enableHardwareReady
  | .checkHardware => p.enableHardwareReady
  | .setRequired => true
  | .switching _ => true
  | .setEmergency => true
  | .loadPhase _ => true
  | .raiseOutcome _ => true
  | .await => p.jtcActivatedRequest || p.jtcActivateFailedRequest
  | _ => false

/-- The call holds the owner and has not raised its request yet. -/
def EnablePc.claimed : EnablePc → Bool
  | .clearResult => true
  | .clearReady => true
  | .raise => true
  | _ => false

/-- The update is not working on an enable, and what it may publish next is not an enable result. -/
structure Protocol.EnablePending (p : Protocol) : Prop where
  sequence : enablePhase p.phase = false
  running : runningPhase p.phase = false
  rollback : p.phase ≠ .rollback
  owner : p.phase = .disabling ∨ p.phase = .startupSanitizing ∨ p.phase = .failed →
    p.owner ≠ .enable
  interrupted : p.phase.emergency → p.interruptedOwner ≠ .enable

theorem Protocol.EnablePending.of_idle {p : Protocol} (h : p.phase = .idle) : p.EnablePending := by
  refine ⟨?_, ?_, ?_, fun h' => ?_, fun h' => ?_⟩
  · rw [h]
    rfl
  · rw [h]
    rfl
  · rw [h]
    decide
  · rw [h] at h'
    rcases h' with h' | h' | h' <;> cases h'
  · rw [h] at h'
    cases h'

/-- The enable call and the update agree on the enable in progress. -/
structure EnableOwned (pc : EnablePc) (p : Protocol) : Prop where
  pending : p.enableRequest ∨ pc.claimed → p.EnablePending
  cleared : pc = .clearReady ∨ pc = .raise → p.enableResult.ready = false
  lowered : pc = .raise → p.enableHardwareReady = false
  waiting : p.active ∧ p.enableRequest ∨ enablePhase p.phase →
    p.active ∧ pc = .waitHardware ∧ p.enableHardwareReady = false ∧ p.enableResult.ready = false
  activating : p.phase = .jtcActivating →
    p.active ∧ p.enableResult.ready = false ∧ pc.reports p

section Update

variable {running stopped : Prop} {p q : Protocol}

theorem TickStep.enablePending (h : TickStep cfg running stopped p q) (hp : p.EnablePending)
    (hq : enablePhase q.phase = false) : q.EnablePending := by
  obtain ⟨hsequence, hrunning, hrollback, howner, hinterrupted⟩ := hp
  cases h
  all_goals
    constructor <;>
      simp_all [enablePhase, runningPhase, Phase.emergency, Protocol.publishInterrupted,
        Protocol.publishResult]
  all_goals grind

theorem TickStep.enableResult_of_pending (h : TickStep cfg running stopped p q)
    (hp : p.EnablePending) :
    q.enableResult = p.enableResult ∨ p.enableRequest ∧ q.enableRequest = false := by
  obtain ⟨hsequence, hrunning, hrollback, howner, hinterrupted⟩ := hp
  cases h with
  | rejectEnable result hphase hrequest => exact .inr ⟨hrequest, rfl⟩
  | finishRollback result next hphase => exact absurd hphase hrollback
  | preemptEnable result hphase => rcases hphase with h | h <;> simp [h, enablePhase] at hsequence
  | activated hphase => simp [hphase, runningPhase] at hrunning
  | finishEmergency result next hphase =>
    exact .inl (if_neg (hinterrupted (by rw [hphase]; rfl)))
  | _ => exact .inl rfl

theorem TickStep.enableHardwareReady (h : TickStep cfg running stopped p q)
    (hq : q.phase ≠ .jtcActivating) :
    q.enableHardwareReady = p.enableHardwareReady ∨ q.enableHardwareReady = false := by
  cases h with
  | hardwareReady => exact absurd rfl hq
  | startEnable => exact .inr rfl
  | _ => exact .inl rfl

theorem TickStep.enableRequest (h : TickStep cfg running stopped p q) (hq : q.enableRequest) :
    p.enableRequest := by
  cases h with
  | rejectEnable => cases hq
  | startEnable => cases hq
  | _ => exact hq

theorem TickStep.enters_enablePhase (h : TickStep cfg running stopped p q)
    (hq : enablePhase q.phase) :
    enablePhase p.phase ∧ q.enableHardwareReady = p.enableHardwareReady ∧
      q.enableResult = p.enableResult ∨
    p.phase = .idle ∧ p.enableRequest ∧ q.enableRequest = false ∧
      q.enableHardwareReady = false ∧ q.enableResult = p.enableResult := by
  cases h with
  | rest => exact .inl ⟨hq, rfl, rfl⟩
  | enabling next hphase =>
    refine .inl ⟨?_, rfl, rfl⟩
    rcases hphase with h | h <;> (rw [h]; rfl)
  | startEnable hphase hrequest => exact .inr ⟨hphase, hrequest, rfl, rfl, rfl⟩
  | _ => simp_all [enablePhase] <;> grind

theorem TickStep.enters_activating (h : TickStep cfg running stopped p q)
    (hq : q.phase = .jtcActivating) :
    p.phase = .enabling ∧ q.enableHardwareReady ∧ q.enableResult = p.enableResult ∨ q = p := by
  cases h with
  | rest => exact .inr rfl
  | hardwareReady hphase => exact .inl ⟨hphase, rfl, rfl⟩
  | _ => simp_all

theorem TickStep.enableOwned {pc : EnablePc} (h : TickStep cfg running stopped p q)
    (hactive : p.active) (ho : EnableOwned pc p) : EnableOwned pc q := by
  have hwaits : p.enableRequest → pc = .waitHardware := fun hrequest =>
    (ho.waiting (.inl ⟨hactive, hrequest⟩)).2.1
  have hpending : pc.claimed → p.EnablePending := fun hclaimed => ho.pending (.inr hclaimed)
  have hclaimed : pc.claimed → q.EnablePending := by
    intro hclaimed
    refine h.enablePending (hpending hclaimed) (eq_false_of_ne_true fun hq => ?_)
    rcases h.enters_enablePhase hq with ⟨hp, -⟩ | ⟨-, hrequest, -⟩
    · exact absurd (hp.symm.trans (hpending hclaimed).sequence) (by decide)
    · rw [hwaits hrequest] at hclaimed
      cases hclaimed
  have hresult : pc.claimed → q.enableResult = p.enableResult := by
    intro hclaimed
    refine (h.enableResult_of_pending (hpending hclaimed)).resolve_right fun hrequest => ?_
    rw [hwaits hrequest.1] at hclaimed
    cases hclaimed
  refine ⟨fun hbusy => ?_, fun hpc => ?_, fun hpc => ?_, fun hbusy => ?_, fun hphase => ?_⟩
  · rcases hbusy with hrequest | hbusy
    · have hbefore := h.enableRequest hrequest
      refine h.enablePending (ho.pending (.inl hbefore)) (eq_false_of_ne_true fun hq => ?_)
      rcases h.enters_enablePhase hq with ⟨hp, -⟩ | ⟨-, -, htaken, -⟩
      · exact absurd (hp.symm.trans (ho.pending (.inl hbefore)).sequence) (by decide)
      · exact absurd (hrequest.symm.trans htaken) (by decide)
    · exact hclaimed hbusy
  · rw [hresult (by rcases hpc with rfl | rfl <;> rfl)]
    exact ho.cleared hpc
  · have hq : q.phase ≠ .jtcActivating := by
      intro hq
      have hpend := (hclaimed (by rw [hpc]; rfl)).running
      rw [hq] at hpend
      cases hpend
    rcases h.enableHardwareReady hq with hsame | hlow
    · rw [hsame]
      exact ho.lowered hpc
    · exact hlow
  · rw [h.active]
    by_cases hq : enablePhase q.phase
    · rcases h.enters_enablePhase hq with ⟨hp, hready, hslot⟩ | ⟨-, hrequest, -, hready, hslot⟩
      · rw [hready, hslot]
        exact ho.waiting (.inr hp)
      · obtain ⟨-, hpc, -, hresult⟩ := ho.waiting (.inl ⟨hactive, hrequest⟩)
        rw [hready, hslot]
        exact ⟨hactive, hpc, rfl, hresult⟩
    · have hrequest := (hbusy.resolve_right hq).2
      have hbefore := h.enableRequest hrequest
      obtain ⟨-, hpc, hready, hslot⟩ := ho.waiting (.inl ⟨hactive, hbefore⟩)
      have hp := ho.pending (.inl hbefore)
      rw [(h.enableResult_of_pending hp).resolve_right fun htaken =>
        absurd (hrequest.symm.trans htaken.2) (by decide)]
      refine ⟨hactive, hpc, ?_, hslot⟩
      have hphase : q.phase ≠ .jtcActivating := by
        intro hphase
        rcases h.enters_activating hphase with ⟨henabling, -⟩ | rfl
        · have hsequence := hp.sequence
          rw [henabling] at hsequence
          cases hsequence
        · have hrunning := hp.running
          rw [hphase] at hrunning
          cases hrunning
      rcases h.enableHardwareReady hphase with hsame | hlow
      · rw [hsame]
        exact hready
      · exact hlow
  · rcases h.enters_activating hphase with ⟨henabling, hready, hslot⟩ | rfl
    · obtain ⟨-, rfl, -, hresult⟩ := ho.waiting (.inr (by rw [henabling]; rfl))
      rw [h.active, hslot]
      exact ⟨hactive, hresult, hready⟩
    · exact ho.activating hphase

end Update

section Threads

/-- The members of an enable are the same in `q`, and its owner did not become `kEnable`. -/
structure Protocol.SameEnable (p q : Protocol) : Prop where
  active : q.active = p.active
  phase : q.phase = p.phase
  interruptedOwner : q.interruptedOwner = p.interruptedOwner
  request : q.enableRequest = p.enableRequest
  ready : q.enableHardwareReady = p.enableHardwareReady
  result : q.enableResult = p.enableResult
  activated : q.jtcActivatedRequest = p.jtcActivatedRequest
  failed : q.jtcActivateFailedRequest = p.jtcActivateFailedRequest
  owner : q.owner = p.owner ∨ q.owner ≠ .enable

variable {p q : Protocol} {pc : EnablePc}

theorem Protocol.EnablePending.frame (hp : p.EnablePending) (h : p.SameEnable q) :
    q.EnablePending := by
  refine ⟨?_, ?_, ?_, ?_, ?_⟩
  · rw [h.phase]
    exact hp.sequence
  · rw [h.phase]
    exact hp.running
  · rw [h.phase]
    exact hp.rollback
  · rw [h.phase]
    rcases h.owner with howner | howner
    · rw [howner]
      exact hp.owner
    · exact fun _ => howner
  · rw [h.phase, h.interruptedOwner]
    exact hp.interrupted

theorem EnablePc.reports_frame (h : p.SameEnable q) (pc : EnablePc) :
    pc.reports q = pc.reports p := by
  cases pc <;> simp only [reports, h.ready, h.activated, h.failed]

theorem EnableOwned.frame (ho : EnableOwned pc p) (h : p.SameEnable q) : EnableOwned pc q := by
  refine ⟨?_, ?_, ?_, ?_, ?_⟩
  · rw [h.request]
    exact fun hbusy => (ho.pending hbusy).frame h
  · rw [h.result]
    exact ho.cleared
  · rw [h.ready]
    exact ho.lowered
  · rw [h.active, h.request, h.phase, h.ready, h.result]
    exact ho.waiting
  · rw [h.active, h.phase, h.result, EnablePc.reports_frame h]
    exact ho.activating

/-- The accesses by which an enable call takes part in an enable. -/
def Access.ofEnable : Access → Bool
  | .claimOwner owner => owner = .enable
  | .storeOwner owner => owner = .enable
  | .clearResult service => service = .enable
  | .raise service => service = .enable
  | .clearHardwareReady => true
  | .raiseOutcome _ => true
  | _ => false

theorem Access.sameEnable_apply {a : Access} (h : a.ofEnable = false)
    (hphase : ∀ phase, a ≠ .storePhase phase) : p.SameEnable (a.apply p) := by
  cases a with
  | storePhase phase => exact absurd rfl (hphase phase)
  | clearHardwareReady => cases h
  | raiseOutcome activated => cases h
  | clearResult service =>
    have hother : service ≠ .enable := of_decide_eq_false h
    exact ⟨rfl, rfl, rfl, rfl, rfl, if_neg hother, rfl, rfl, .inl rfl⟩
  | raise service =>
    have hother : service ≠ .enable := of_decide_eq_false h
    exact ⟨rfl, rfl, rfl, by simp [apply, hother], rfl, rfl, rfl, rfl, .inl rfl⟩
  | storeOwner owner =>
    exact ⟨rfl, rfl, rfl, rfl, rfl, rfl, rfl, rfl, .inr (of_decide_eq_false h)⟩
  | claimOwner owner =>
    refine ⟨rfl, rfl, rfl, rfl, rfl, rfl, rfl, rfl, ?_⟩
    rcases ite_eq_or_eq (p.owner = .none) owner p.owner with h' | h'
    · exact .inr (by rw [apply, h']; exact of_decide_eq_false h)
    · exact .inl h'
  | releaseModeOwnership =>
    refine ⟨rfl, rfl, rfl, rfl, rfl, rfl, rfl, rfl, ?_⟩
    rcases ite_eq_or_eq (p.owner = .mode) Owner.none p.owner with h' | h'
    · exact .inr (by rw [apply, h']; exact nofun)
    · exact .inl h'
  | _ => exact ⟨rfl, rfl, rfl, rfl, rfl, rfl, rfl, rfl, .inl rfl⟩

theorem Access.ofEnable_of_threadOwns {a : Access}
    (h : DisablePc.owns a || ResetPc.owns a || WorkerPc.owns a || ModePc.owns a || FaultPc.owns a) :
    a.ofEnable = false := by
  cases a with
  | claimOwner owner | storeOwner owner =>
    cases owner <;> first | rfl | exact absurd h (by decide)
  | clearResult service | raise service =>
    cases service <;> first | rfl | exact absurd h (by decide)
  | clearHardwareReady => cases h
  | raiseOutcome activated => cases h
  | _ => rfl

theorem EnableOwned.storePhase (ho : EnableOwned pc p) (hphase : p.phase = .enabled) :
    EnableOwned pc { p with phase := .jtcDeactivating } := by
  refine ⟨fun hbusy => ?_, ho.cleared, ho.lowered, fun hbusy => ?_, nofun⟩
  · have hrunning := (ho.pending hbusy).running
    rw [hphase] at hrunning
    cases hrunning
  · exact ho.waiting (.inl (hbusy.resolve_right nofun))

theorem EnableOwned.access {a : Access} (ho : EnableOwned pc p) (h : a.ofEnable = false)
    (hstore : ∀ phase, a = .storePhase phase → phase = .jtcDeactivating ∧ p.phase = .enabled) :
    EnableOwned pc (a.apply p) := by
  by_cases hphase : ∃ phase, a = .storePhase phase
  · obtain ⟨phase, rfl⟩ := hphase
    obtain ⟨rfl, henabled⟩ := hstore phase rfl
    exact ho.storePhase henabled
  · exact ho.frame (Access.sameEnable_apply h fun phase heq => hphase ⟨phase, heq⟩)

/-- A wait of the enable call that ends by its deadline. -/
def EnablePc.expires (env : Environment) (p : Protocol) : EnablePc → Bool
  | .waitHardware =>
    env.expired && p.active && !p.enableHardwareReady && !p.enableResult.ready
  | .await => env.expired && p.active && !p.enableResult.ready
  | _ => false

/-- The update still has to finish the request of the enable call. -/
def Protocol.enableUnfinished (p : Protocol) : Bool :=
  p.enableRequest || enablePhase p.phase || p.phase = .jtcActivating

theorem EnableOwned.move (ho : EnableOwned pc p) (pc' : EnablePc) (hpc : pc ≠ .waitHardware)
    (hclaimed : pc'.claimed = false)
    (hreports : p.phase = .jtcActivating → p.enableResult.ready = false → pc.reports p →
      pc'.reports p) : EnableOwned pc' p := by
  have hcontra : ∀ {b : Prop}, p.active ∧ p.enableRequest ∨ enablePhase p.phase → b :=
    fun hbusy => absurd (ho.waiting hbusy).2.1 hpc
  refine ⟨fun hbusy => ?_, fun h => ?_, fun h => ?_, hcontra, fun hphase => ?_⟩
  · exact ho.pending (.inl (hbusy.resolve_right (by rw [hclaimed]; decide)))
  · rcases h with rfl | rfl <;> cases hclaimed
  · rw [h] at hclaimed
    cases hclaimed
  · obtain ⟨hactive, hresult, hreported⟩ := ho.activating hphase
    exact ⟨hactive, hresult, hreports hphase hresult hreported⟩

theorem EnablePc.reports_reportOutcome (hphase : p.phase = .jtcActivating) (activated : Bool) :
    (reportOutcome p activated).reports p := by
  rw [reportOutcome, if_pos hphase]
  rfl

theorem EnablePc.claimed_reportOutcome (p : Protocol) (activated : Bool) :
    (reportOutcome p activated).claimed = false := by
  unfold reportOutcome
  split <;> rfl

theorem EnableOwned.next_switching {w : World} {env : Environment} {sub : SwitchPc}
    (ho : EnableOwned (.switching sub) w.protocol) :
    EnableOwned ((EnablePc.switching sub).next cfg env w)
      (((EnablePc.switching sub).access cfg env w.protocol).apply w.protocol) := by
  rcases sub.running_or_returned with hrunning | ⟨result, rfl⟩
  · rw [EnablePc.access_switching hrunning, EnablePc.next_switching hrunning]
    have hswitch := sub.isSwitch_access cfg env w.protocol
    have hmoved : EnableOwned (.switching (sub.next cfg cfg.motionControllerMode env w))
        w.protocol := ho.move _ (by rintro ⟨⟩) rfl fun _ _ h => h
    refine hmoved.access ?_ ?_
    · revert hswitch
      cases sub.access cfg env w.protocol <;> simp [Access.isSwitch, Access.ofEnable]
    · intro phase hphase
      rw [hphase] at hswitch
      cases hswitch
  · cases result with
    | success =>
      exact ho.move _ (by rintro ⟨⟩) (EnablePc.claimed_reportOutcome _ _) fun hphase _ _ =>
        EnablePc.reports_reportOutcome hphase true
    | failed =>
      exact (ho.move (.loadPhase false) (by rintro ⟨⟩) rfl fun _ _ h => h).access rfl
        (by rintro _ ⟨⟩)
    | ambiguous =>
      exact (ho.move .setEmergency (by rintro ⟨⟩) rfl fun _ _ h => h).access rfl
        (by rintro _ ⟨⟩)

theorem EnableOwned.next {w : World} {env : Environment} (ho : EnableOwned pc w.protocol)
    (hclaim : pc = .claimOwner → w.protocol.owner = .none → w.protocol.phase = .idle)
    (hexpires : pc.expires env w.protocol → w.protocol.enableUnfinished = false) :
    EnableOwned (pc.next cfg env w) ((pc.access cfg env w.protocol).apply w.protocol) := by
  have hidle : ∀ {pc' : EnablePc}, pc ≠ .waitHardware → pc.reports w.protocol = false →
      pc'.claimed = false → EnableOwned pc' w.protocol := fun hpc hreports hclaimed =>
    ho.move _ hpc hclaimed fun _ _ h => absurd (hreports.symm.trans h) (by decide)
  cases pc with
  | switching sub => exact ho.next_switching
  | claimOwner =>
    by_cases howner : w.protocol.owner = .none
    · have hphase := hclaim rfl howner
      simp only [EnablePc.next, if_pos howner]
      refine ⟨fun _ => Protocol.EnablePending.of_idle hphase, fun h => ?_, nofun,
        fun hbusy => ?_,
        fun h => ?_⟩
      · rcases h with h | h <;> cases h
      · exact absurd (ho.waiting hbusy).2.1 nofun
      · exact absurd (hphase.symm.trans h) (by decide)
    · simp only [EnablePc.next, if_neg howner]
      exact (hidle nofun rfl rfl).frame
        ⟨rfl, rfl, rfl, rfl, rfl, rfl, rfl, rfl, .inl (if_neg howner)⟩
  | clearResult =>
    have hp := ho.pending (.inr rfl)
    refine ⟨fun _ => ⟨hp.sequence, hp.running, hp.rollback, hp.owner, hp.interrupted⟩,
      fun _ => rfl, nofun, fun hbusy => ?_, fun h => ?_⟩
    · exact absurd (ho.waiting hbusy).2.1 nofun
    · exact absurd (ho.activating h).2.2 Bool.false_ne_true
  | clearReady =>
    have hp := ho.pending (.inr rfl)
    refine ⟨fun _ => ⟨hp.sequence, hp.running, hp.rollback, hp.owner, hp.interrupted⟩,
      fun _ => ho.cleared (.inl rfl), fun _ => rfl, fun hbusy => ?_, fun h => ?_⟩
    · exact absurd (ho.waiting hbusy).2.1 nofun
    · exact absurd (ho.activating h).2.2 Bool.false_ne_true
  | raise =>
    have hp := ho.pending (.inr rfl)
    refine ⟨fun _ => ⟨hp.sequence, hp.running, hp.rollback, hp.owner, hp.interrupted⟩,
      fun h => ?_, nofun, fun hbusy => ?_, fun h => ?_⟩
    · rcases h with h | h <;> cases h
    · have hactive := (hbusy.resolve_right fun h => absurd (hp.sequence.symm.trans h) (by decide)).1
      exact ⟨hactive, rfl, ho.lowered rfl, ho.cleared (.inr rfl)⟩
    · exact absurd (ho.activating h).2.2 Bool.false_ne_true
  | waitHardware =>
    simp only [EnablePc.next]
    split
    · rename_i hexit
      have hfinished : w.protocol.active ∧ w.protocol.enableRequest ∨
          enablePhase w.protocol.phase → False := by
        intro hbusy
        obtain ⟨hactive, -, hready, hresult⟩ := ho.waiting hbusy
        have hexpired := hexpires (by simpa [EnablePc.expires, hactive, hready, hresult] using hexit)
        rcases hbusy with ⟨-, hrequest⟩ | hsequence
        · simp [Protocol.enableUnfinished, hrequest] at hexpired
        · simp [Protocol.enableUnfinished, hsequence] at hexpired
      refine ⟨fun hbusy => ho.pending (.inl (hbusy.resolve_right nofun)), fun h => ?_,
        nofun, fun hbusy => (hfinished hbusy).elim, ho.activating⟩
      rcases h with h | h <;> cases h
    · exact ho
  | checkResult =>
    simp only [EnablePc.next]
    split
    · rename_i hresult
      exact ho.move _ nofun rfl fun _ h => absurd (h.symm.trans hresult) (by decide)
    · exact ho.move _ nofun rfl fun _ _ h => h
  | checkHardware =>
    simp only [EnablePc.next]
    split
    · exact ho.move _ nofun rfl fun _ _ _ => rfl
    · rename_i hready
      exact ho.move _ nofun rfl fun _ _ h => absurd h hready
  | setRequired =>
    exact (ho.move (.switching .claim) nofun rfl fun _ _ h => h).access rfl
      nofun
  | setEmergency =>
    exact (ho.move (.loadPhase false) nofun rfl fun _ _ h => h).access rfl
      nofun
  | loadPhase activated =>
    exact ho.move _ nofun (EnablePc.claimed_reportOutcome _ _) fun hphase _ _ =>
      EnablePc.reports_reportOutcome hphase activated
  | raiseOutcome activated =>
    have hp := fun hbusy => ho.pending (.inl hbusy)
    refine ⟨fun hbusy => ?_, fun h => ?_, nofun, fun hbusy => ?_, fun h => ?_⟩
    · obtain ⟨h₁, h₂, h₃, h₄, h₅⟩ := hp (hbusy.resolve_right nofun)
      exact ⟨h₁, h₂, h₃, h₄, h₅⟩
    · rcases h with h | h <;> cases h
    · exact absurd (ho.waiting hbusy).2.1 nofun
    · obtain ⟨hactive, hresult, -⟩ := ho.activating h
      refine ⟨hactive, hresult, ?_⟩
      cases activated <;> simp [EnablePc.next, EnablePc.reports, EnablePc.access, Access.apply]
  | await =>
    simp only [EnablePc.next]
    split
    · rename_i hexit
      refine ho.move _ nofun rfl fun hphase hresult hreports => ?_
      have hactive := (ho.activating hphase).1
      have hexpired := hexpires (by simpa [EnablePc.expires, hactive, hresult] using hexit)
      simp [Protocol.enableUnfinished, hphase] at hexpired
    · exact ho
  | _ =>
    simp only [EnablePc.next]
    repeat' split
    all_goals exact hidle nofun rfl rfl

end Threads

section Outcome

/-- The steps a switch still takes to return. -/
def SwitchPc.stepsToReturn : SwitchPc → ℕ
  | .claim => 6
  | .checkService => 5
  | .queryBefore => 4
  | .await _ => 3
  | .queryAfter => 2
  | .release _ => 1
  | .returned _ => 0

/-- The steps an enable call still takes to raise the outcome of the activation. -/
def EnablePc.stepsToOutcome : EnablePc → ℕ
  | .waitHardware => 14
  | .checkResult => 13
  | .checkHardware => 12
  | .setRequired => 11
  | .switching pc => pc.stepsToReturn + 4
  | .setEmergency => 3
  | .loadPhase _ => 2
  | .raiseOutcome _ => 1
  | _ => 0

theorem SwitchPc.stepsToReturn_next {target : ControlMode} {env : Environment} {w : World}
    {pc : SwitchPc} (h : pc.running) :
    (pc.next cfg target env w).stepsToReturn < pc.stepsToReturn := by
  cases pc with
  | returned result => cases h
  | queryBefore =>
    simp only [next, plan]
    repeat' split
    all_goals simp [stepsToReturn]
  | _ =>
    simp only [next]
    repeat' split
    all_goals simp [stepsToReturn]

theorem EnablePc.stepsToOutcome_le (pc : EnablePc) : pc.stepsToOutcome ≤ 14 := by
  cases pc with
  | switching sub => cases sub <;> simp [stepsToOutcome, SwitchPc.stepsToReturn]
  | _ => simp [stepsToOutcome]

theorem EnablePc.stepsToOutcome_reportOutcome {p : Protocol} (hphase : p.phase = .jtcActivating)
    (activated : Bool) : (reportOutcome p activated).stepsToOutcome = 1 := by
  rw [reportOutcome, if_pos hphase]
  rfl

theorem EnablePc.next_of_reports (cfg : Config) (env : Environment) {w : World} {pc : EnablePc}
    (hphase : w.protocol.phase = .jtcActivating) (hresult : w.protocol.enableResult.ready = false)
    (hreports : pc.reports w.protocol) (hawait : pc ≠ .await) (hraise : ∀ b, pc ≠ .raiseOutcome b) :
    (pc.access cfg env w.protocol).ofEnable = false ∧ (pc.next cfg env w).reports w.protocol ∧
      (pc.next cfg env w).stepsToOutcome < pc.stepsToOutcome := by
  cases pc with
  | waitHardware =>
    have hready : w.protocol.enableHardwareReady := hreports
    simp only [next, hready, Bool.or_true, Bool.true_or, if_true]
    exact ⟨rfl, hready, by decide⟩
  | checkResult =>
    simp only [next, hresult, Bool.false_eq_true, if_false]
    exact ⟨rfl, hreports, by decide⟩
  | checkHardware =>
    have hready : w.protocol.enableHardwareReady := hreports
    simp only [next, hready, if_true]
    exact ⟨rfl, rfl, by decide⟩
  | setRequired => exact ⟨rfl, rfl, show 10 < 11 by decide⟩
  | switching sub =>
    rcases sub.running_or_returned with hrunning | ⟨result, rfl⟩
    · rw [access_switching hrunning, next_switching hrunning]
      refine ⟨?_, rfl, Nat.add_lt_add_right (sub.stepsToReturn_next hrunning) 4⟩
      have hswitch := sub.isSwitch_access cfg env w.protocol
      revert hswitch
      cases sub.access cfg env w.protocol <;> simp [Access.isSwitch, Access.ofEnable]
    · cases result with
      | success =>
        refine ⟨rfl, reports_reportOutcome hphase true, ?_⟩
        change (reportOutcome w.protocol true).stepsToOutcome < 4
        rw [stepsToOutcome_reportOutcome hphase]
        decide
      | failed => exact ⟨rfl, rfl, show 2 < 4 by decide⟩
      | ambiguous => exact ⟨rfl, rfl, show 3 < 4 by decide⟩
  | setEmergency => exact ⟨rfl, rfl, show 2 < 3 by decide⟩
  | loadPhase activated =>
    refine ⟨rfl, reports_reportOutcome hphase activated, ?_⟩
    change (reportOutcome w.protocol activated).stepsToOutcome < 2
    rw [stepsToOutcome_reportOutcome hphase]
    decide
  | raiseOutcome activated => exact absurd rfl (hraise activated)
  | await => exact absurd rfl hawait
  | _ => cases hreports

end Outcome

end Report

namespace System

/-- `handleEnable` is between its call and its answer. -/
def enableInProgress (s : System) : Bool :=
  match s.enable with
  | .idle _ => false
  | _ => true

def outcomeRaised (s : System) : Bool :=
  s.protocol.jtcActivatedRequest || s.protocol.jtcActivateFailedRequest

/-- The enable call raises the outcome of the activation within `n` of its own steps. -/
def raisesWithin (cfg : Config) : ℕ → System → Prop
  | 0, s => s.outcomeRaised
  | n + 1, s => s.outcomeRaised ∨ ∀ env, raisesWithin cfg n (s.step cfg (.enable env))

/-- A group that activates its controllers is taken further: the enable call is still in progress
and raises the outcome, or else a disable call is not refused. -/
def ActivationEnds (cfg : Config) (s : System) : Prop :=
  s.protocol.phase = .jtcActivating →
    s.enableInProgress ∧ s.raisesWithin cfg 14 ∨ DisablePc.refusesDisable s.protocol.phase = false

/-- The enable call claims an idle group, no wait of it expires before the update has finished its
request, and `kJtcDeactivating` is stored over `kEnabled` only. -/
def activationGuard (s : System) : Label → Prop
  | .enable env =>
    (s.enable = .claimOwner → s.protocol.owner = .none → s.protocol.phase = .idle) ∧
      (s.enable.expires env s.protocol → s.protocol.enableUnfinished = false)
  | .disable _ => s.disable.storesPhase → s.protocol.phase = .enabled
  | .worker _ => s.worker.storesPhase → s.protocol.phase = .enabled
  | _ => True

def EnableOwned (s : System) : Prop := EnableManager.EnableOwned s.enable s.protocol

theorem enableOwned_tick {s : System} (ho : s.EnableOwned) (sample : Sample) (now : ℤ) :
    (s.step cfg (.tick sample now)).EnableOwned := by
  rcases s.tick_step cfg sample now with ⟨-, hsame⟩ | ⟨hactive, _, _, q, hstep, hq⟩
  · rwa [hsame]
  · have hframe : q.SameEnable (q.writeDriveModes cfg) :=
      ⟨rfl, rfl, rfl, rfl, rfl, rfl, rfl, rfl, .inl rfl⟩
    unfold EnableOwned
    rw [hq]
    exact (hstep.enableOwned hactive ho).frame hframe

theorem enableOwned_activate {s : System} (ho : s.EnableOwned) (sample : Sample) :
    EnableManager.EnableOwned s.enable (s.world.controller.onActivate cfg sample).protocol := by
  rcases s.world.controller.onActivate_protocol cfg sample with hkept | hactivated
  · rw [hkept]
    exact ho
  · rw [hactivated]
    refine ⟨fun _ => ⟨rfl, rfl, nofun, nofun, nofun⟩,
      ho.cleared, fun _ => rfl, fun hbusy => ?_, nofun⟩
    rcases hbusy with ⟨-, h⟩ | h <;> cases h

theorem enableOwned_access {s : System} (ho : s.EnableOwned) {a : Access}
    (howns : DisablePc.owns a || ResetPc.owns a || WorkerPc.owns a || ModePc.owns a ||
      FaultPc.owns a)
    (hstore : ∀ phase, a = .storePhase phase → s.protocol.phase = .enabled) :
    EnableManager.EnableOwned s.enable (a.apply s.protocol) := by
  refine EnableManager.EnableOwned.access ho (Access.ofEnable_of_threadOwns howns)
    fun phase hphase => ⟨storePhase_of_threadOwns ?_, hstore phase hphase⟩
  rw [← hphase, threadOwns]
  simp only [Bool.or_eq_true] at howns ⊢
  tauto

theorem enableOwned_step {s : System} {l : Label} (ho : s.EnableOwned)
    (hguard : s.activationGuard l) : (s.step cfg l).EnableOwned := by
  cases l with
  | tick sample now => exact enableOwned_tick ho sample now
  | enable env => exact EnableManager.EnableOwned.next ho hguard.1 hguard.2
  | disable env =>
    refine enableOwned_access ho (by simp [s.disable.owns_access cfg env]) fun phase hphase => ?_
    exact hguard (DisablePc.storesPhase_of_access hphase)
  | reset env =>
    refine enableOwned_access ho (by simp [s.reset.owns_access]) fun phase hphase => ?_
    have howns := s.reset.owns_access
    rw [hphase] at howns
    cases howns
  | worker env =>
    refine enableOwned_access ho (by simp [s.worker.owns_access cfg env]) fun phase hphase => ?_
    exact hguard (WorkerPc.storesPhase_of_access hphase)
  | mode env =>
    simp only [step]
    split
    · refine enableOwned_access ho (by simp [s.mode.owns_access cfg env]) fun phase hphase => ?_
      have howns := s.mode.owns_access cfg env s.protocol
      rw [hphase] at howns
      cases howns
    · exact ho
  | fault =>
    refine enableOwned_access ho (by simp [s.fault.owns_access]) fun phase hphase => ?_
    have howns := s.fault.owns_access
    rw [hphase] at howns
    cases howns
  | activate sample =>
    simp only [step]
    split
    · exact ho
    · exact enableOwned_activate ho sample
  | deactivate =>
    simp only [step]
    split
    · refine ⟨fun _ => ⟨rfl, rfl, by rintro ⟨⟩, fun h => ?_, by rintro ⟨⟩⟩,
        ho.cleared, ho.lowered, fun hbusy => ?_, by rintro ⟨⟩⟩
      · rcases h with h | h | h <;> cases h
      · rcases hbusy with ⟨h, -⟩ | h <;> cases h
    · exact ho

section Outcome

structure Reporting (s : System) : Prop where
  phase : s.protocol.phase = .jtcActivating
  result : s.protocol.enableResult.ready = false
  reports : s.enable.reports s.protocol

theorem Reporting.step_enable {s : System} (h : s.Reporting) (cfg : Config) (env : Environment)
    (hraised : s.outcomeRaised = false) :
    (s.step cfg (.enable env)).outcomeRaised ∨ (s.step cfg (.enable env)).Reporting ∧
      (s.step cfg (.enable env)).enable.stepsToOutcome < s.enable.stepsToOutcome := by
  by_cases hraise : ∃ b, s.enable = .raiseOutcome b
  · obtain ⟨b, hb⟩ := hraise
    refine .inl ?_
    simp only [outcomeRaised, protocol, step, World.access_protocol, hb, EnablePc.access]
    cases b <;> simp [Access.apply]
  · have hawait : s.enable ≠ .await := by
      intro hpc
      have hreports := h.reports
      rw [hpc] at hreports
      exact absurd hreports (ne_true_of_eq_false hraised)
    obtain ⟨hforeign, hnext, hlt⟩ := EnablePc.next_of_reports cfg env
      (w := s.world) h.phase h.result h.reports hawait fun b hb => hraise ⟨b, hb⟩
    have hsame : s.protocol.SameEnable (s.step cfg (.enable env)).protocol := by
      refine Access.sameEnable_apply hforeign fun phase hphase => ?_
      have howns := s.enable.owns_access cfg env s.protocol
      rw [hphase] at howns
      cases howns
    refine .inr ⟨⟨?_, ?_, ?_⟩, hlt⟩
    · rw [hsame.phase]
      exact h.phase
    · rw [hsame.result]
      exact h.result
    · rw [EnablePc.reports_frame hsame]
      exact hnext

theorem Reporting.outcomeRaised {s : System} (h : s.Reporting)
    (hsteps : s.enable.stepsToOutcome = 0) : s.outcomeRaised := by
  have hreports := h.reports
  unfold System.outcomeRaised
  cases hpc : s.enable <;> rw [hpc] at hsteps hreports <;>
    first | exact hreports | (simp [EnablePc.stepsToOutcome] at hsteps; done) | cases hreports

theorem raisesWithin_of_outcomeRaised {s : System} (h : s.outcomeRaised) (n : ℕ) :
    s.raisesWithin cfg n := by
  cases n with
  | zero => exact h
  | succ n => exact .inl h

theorem Reporting.raisesWithin {s : System} (h : s.Reporting) {n : ℕ}
    (hn : s.enable.stepsToOutcome ≤ n) : s.raisesWithin cfg n := by
  induction n generalizing s with
  | zero => exact h.outcomeRaised (Nat.le_zero.1 hn)
  | succ n ih =>
    by_cases hraised : s.outcomeRaised
    · exact .inl hraised
    · refine .inr fun env => ?_
      rcases h.step_enable cfg env (eq_false_of_ne_true hraised) with hout | ⟨hnext, hlt⟩
      · exact raisesWithin_of_outcomeRaised hout n
      · exact ih hnext (by omega)

theorem EnableOwned.activationEnds {s : System} (ho : s.EnableOwned) : s.ActivationEnds cfg := by
  intro hphase
  obtain ⟨-, hresult, hreports⟩ := ho.activating hphase
  refine .inl ⟨?_, Reporting.raisesWithin ⟨hphase, hresult, hreports⟩ s.enable.stepsToOutcome_le⟩
  unfold enableInProgress
  split
  · rename_i hpc
    rw [hpc] at hreports
    cases hreports
  · rfl

end Outcome

/-- In every run in which the enable call claims an idle group and does not give up an unfinished
request, the call that energised the group is there to end the activation. -/
theorem activation_ends (cfg : Config) (controllers : List ControllerState) (labels : List Label)
    (h : Along (step cfg) activationGuard (initial controllers) labels) :
    (runFrom cfg (initial controllers) labels).ActivationEnds cfg := by
  refine EnableOwned.activationEnds (invariant_run (fun s l => enableOwned_step) ?_ h)
  refine ⟨fun h => ?_, fun h => ?_, nofun, fun h => ?_, nofun⟩
  · rcases h with h | h <;> cases h
  · rcases h with h | h <;> cases h
  · rcases h with ⟨h, -⟩ | h <;> cases h

section ExpiredWait

instance (s : System) : ∀ l, Decidable (s.activationGuard l)
  | .enable _ => inferInstanceAs (Decidable (_ ∧ _))
  | .disable _ => inferInstanceAs (Decidable (_ → _))
  | .worker _ => inferInstanceAs (Decidable (_ → _))
  | .tick _ _ => .isTrue trivial
  | .reset _ => .isTrue trivial
  | .mode _ => .isTrue trivial
  | .fault => .isTrue trivial
  | .activate _ => .isTrue trivial
  | .deactivate => .isTrue trivial

/-- The chassis with its controllers still to be activated. -/
theorem activation_ends_chassis :
    (runFrom chassis (initial chassisControllers) (startUp ++ List.replicate 8 (.enable {}) ++
      [.tick .disabled 4, .tick .enabled 5])).ActivationEnds chassis :=
  activation_ends chassis chassisControllers _ (by decide +kernel)

/-- The call gives up while the drives are still being enabled; the next update energises them. -/
def expiredWait : List Label :=
  startUp ++ List.replicate 8 (.enable {}) ++ [.tick .disabled 4] ++
    List.replicate 3 (.enable { expired := true }) ++ [.tick .enabled 5]

/-- After the enable call gave up, nothing ends the activation and a disable is refused. -/
theorem activation_stuck :
    ¬(runFrom chassis (initial chassisControllers) expiredWait).ActivationEnds chassis := by
  intro h
  rcases h (by decide +kernel) with ⟨hcall, -⟩ | hdisable
  · exact absurd hcall (by decide +kernel)
  · exact absurd hdisable (by decide +kernel)

end ExpiredWait

end System

end RobotDriver.EnableManager
