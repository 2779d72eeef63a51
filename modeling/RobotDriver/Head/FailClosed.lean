import RobotDriver.Head.WriteFrames

/-!
# Fail closed, confirm freshly

The head is enabled only by statuses both motors sent after the enabling transition, and stays
enabled on fresh ones. A tick that fails while the head is not already holding a fault latches
it and sends nothing but disable frames; from there a completed reset and a new request are the
only way back to an enable or a position frame.
-/

namespace RobotDriver.Head

open EnableManager (HandshakePhase exactFlag)
open LabelledRun

namespace HeadStateMachine

variable {m : HeadStateMachine} {now : ℤ} {enableRequested : Bool} {resetGeneration : ℕ}
  {motors : Motor → MotorStatus}

theorem of_step_enabling
    (h : (m.step now enableRequested resetGeneration motors).1.phase = .enabling) :
    m.phase = .enabling ∧ (m.step now enableRequested resetGeneration motors).1 = m ∨
      m.phase = .disabled ∧ enableRequested = true ∧
        (m.step now enableRequested resetGeneration motors).1.transitionStartedAt = now := by
  unfold step at h ⊢
  dsimp only at h ⊢
  split at h <;> split_ifs at h ⊢ <;> simp_all [latchFault, transition]

theorem of_step_enabled
    (h : (m.step now enableRequested resetGeneration motors).1.phase = .enabled) :
    (m.phase = .enabled ∨
        m.phase = .enabling ∧ m.allReceivedAfterTransition motors = true) ∧
      m.allFresh now motors = true ∧ allStatus motors 1 = true := by
  unfold step at h
  dsimp only at h
  split at h <;> split_ifs at h <;> simp_all [latchFault, transition]

theorem step_latches
    (h : (m.phase = .disabled ∧ anyFault motors = true) ∨
      (m.phase = .disabling ∧ (m.allFresh now motors = false ∨ anyFault motors = true)) ∨
      (enableRequested = true ∧ (m.phase = .enabling ∨ m.phase = .enabled) ∧
        (m.allFresh now motors = false ∨ anyFault motors = true ∨
          (m.phase = .enabled ∧ allStatus motors 1 = false)))) :
    m.step now enableRequested resetGeneration motors = m.latchFault := by
  rcases h with ⟨hphase, hfault⟩ | ⟨hphase, hfails⟩ | ⟨rfl, hphase, hfails⟩
  · simp [step, hphase, hfault]
  · rcases hfails with hfails | hfails <;> simp [step, hphase, hfails]
  · rcases hphase with hphase | hphase <;> rcases hfails with hfails | hfails | ⟨hcase, hfails⟩
    all_goals first
      | exact absurd (hphase.symm.trans hcase) (by decide)
      | simp [step, hphase, hfails]

theorem step_withdrawn (hphase : m.phase = .enabling ∨ m.phase = .enabled) :
    m.step now false resetGeneration motors =
      (m.transition .disabling now, { sendDisable := true }) := by
  rcases hphase with hphase | hphase <;> simp [step, hphase]

variable (now enableRequested resetGeneration motors) in
theorem step_disabled (h : m.phase = .disabled) :
    (m.step now enableRequested resetGeneration motors).1.phase = .disabled ∨
      (m.step now enableRequested resetGeneration motors).1.phase = .faultLatched ∨
      enableRequested = true ∧
        (m.step now enableRequested resetGeneration motors).1.phase = .enabling := by
  simp only [step, h]
  split_ifs with hfault hstart
  · exact .inr (.inl rfl)
  · simp only [Bool.and_eq_true] at hstart
    exact .inr (.inr ⟨hstart.1.1, rfl⟩)
  · exact .inl rfl

theorem leaves_held (hheld : m.HoldsFault)
    (h : ¬(m.step now enableRequested resetGeneration motors).1.HoldsFault) :
    m.phase = .resetting ∧ enableRequested = false ∧
      (m.step now enableRequested resetGeneration motors).1.phase = .disabled := by
  unfold step at h ⊢
  dsimp only at h ⊢
  split at h <;> split_ifs at h ⊢ <;> simp_all [latchFault, transition, HoldsFault]

end HeadStateMachine

namespace DamiaoSystem

variable {s : DamiaoSystem}

def next (s : DamiaoSystem) (label : Label) : DamiaoSystem := (s.step label).1

section Machine

theorem kept_next {label : Label} (hwrite : ∀ now takes, label ≠ .write now takes)
    (hconfigure : ∀ replies now takes, label ≠ .configure replies now takes) :
    (s.next label).stateMachine = s.stateMachine ∧
      (s.next label).configuration = s.configuration := by
  cases label with
  | write now takes => exact absurd rfl (hwrite now takes)
  | configure replies now takes => exact absurd rfl (hconfigure replies now takes)
  | activate =>
    simp only [next, step, onActivate]
    split_ifs <;> exact ⟨rfl, rfl⟩
  | switchInterfaces starts stops =>
    simp only [next, step, performCommandModeSwitch]
    split_ifs <;> exact ⟨rfl, rfl⟩
  | read observed fails takes =>
    simp only [next, step, read]
    split_ifs <;> exact ⟨rfl, rfl⟩
  | deactivate | close | setEnableRequest | setResetGeneration | setCommand => exact ⟨rfl, rfl⟩

theorem machine_configure (replies : Motor → ConfigureReply) (now : ℤ) (takes : Socket) :
    (s.next (.configure replies now takes)).stateMachine = s.stateMachine ∨
      (s.next (.configure replies now takes)).stateMachine.phase = .disabled ∨
      (s.next (.configure replies now takes)).stateMachine.phase = .faultLatched := by
  have hmachine := ({ s with socketOpen := true }).stateMachine_configureMotors replies
  simp only [next, step, onConfigure]
  split
  case h_1 s' sent heq =>
    rw [heq] at hmachine
    exact .inl hmachine
  case h_2 s' sent heq =>
    right
    have hphase : s'.configuration.machine.phase = .disabled := rfl
    simp only [updateControlStates, HeadStateMachine.step, hphase]
    split_ifs
    · exact .inr rfl
    · rename_i h
      simp at h
    · exact .inl hphase

theorem machine_write (now : ℤ) (takes : Socket) (hrunning : s.Running) :
    (s.next (.write now takes)).stateMachine.phase = .faultLatched ∨
      ∃ enable generation, exactFlag s.enableRequest = some enable ∧
        s.requestedGeneration = some generation ∧
        (s.next (.write now takes)).stateMachine = (s.stepped now enable generation).1 := by
  simp only [next, step]
  rcases s.write_cases now takes with
    ⟨hidle, -⟩ | ⟨-, heq | ⟨enable, generation, henable, hgeneration, heq⟩⟩
  · exact absurd hrunning hidle
  · rw [heq]
    exact .inl rfl
  · rw [heq, stateMachine_emit]
    rcases s.advance_cases now enable generation with
      ⟨-, -, hmachine, -⟩ | ⟨-, hmachine, -⟩
    · left
      change (s.advance now enable generation).1.stateMachine.phase = _
      rw [hmachine]
      rfl
    · exact .inr ⟨enable, generation, henable, hgeneration, hmachine⟩

theorem machine_idle {now : ℤ} {takes : Socket} (hidle : ¬s.Running) :
    s.next (.write now takes) = s := by
  simp only [next, step]
  rcases s.write_cases now takes with ⟨-, heq⟩ | ⟨hrunning, -⟩
  · rw [heq]
  · exact absurd hrunning hidle

@[simp] theorem configuration_next (label : Label) :
    (s.next label).configuration = s.configuration := by
  cases label with
  | configure replies now takes =>
    have hconfiguration := ({ s with socketOpen := true }).configuration_configureMotors replies
    simp only [next, step, onConfigure]
    split
    case h_1 s' sent heq => exact (congrArg (configuration ∘ Prod.fst) heq).symm.trans hconfiguration
    case h_2 s' sent heq => exact (congrArg (configuration ∘ Prod.fst) heq).symm.trans hconfiguration
  | write now takes =>
    simp only [next, step]
    rcases s.write_cases now takes with ⟨-, heq⟩ | ⟨-, heq | ⟨enable, generation, -, -, heq⟩⟩
    · rw [heq]
    · rw [heq]
      rfl
    · rw [heq, configuration_emit]
      exact (s.advance_kept now enable generation).2
  | _ => exact (kept_next (by rintro _ _ ⟨⟩) (by rintro _ _ _ ⟨⟩)).2

/-- The machine was built from the configuration. -/
def Timed (s : DamiaoSystem) : Prop :=
  s.stateMachine.feedbackTimeout = s.configuration.feedbackTimeout

theorem Timed.next (h : s.Timed) (label : Label) : (s.next label).Timed := by
  have hbefore : (s.machineBefore label).feedbackTimeout = s.configuration.feedbackTimeout := by
    unfold machineBefore
    split
    · split_ifs
      · rfl
      · exact h
    · exact h
  rw [Timed, configuration_next, ← hbefore]
  rcases s.step_moves label with ⟨heq, -⟩ | ⟨generation, actions, hmove, -⟩
  · exact congrArg _ heq
  · generalize hnext : ((s.step label).1.stateMachine, actions) = result at hmove
    have hmachine : (s.next label).stateMachine = result.1 := congrArg Prod.fst hnext
    rw [hmachine]
    cases hmove <;> rfl

end Machine

section Properties

/-- A `write` of a running component that ends in `enabled`. -/
def EndsEnabled (s : DamiaoSystem) : Label → Prop
  | .write now takes =>
    s.Running ∧ (s.next (.write now takes)).stateMachine.phase = .enabled
  | _ => False

/-- Both motors report that they are enabled, no longer ago than the feedback timeout. -/
def Confirmed (s : DamiaoSystem) : Label → Prop
  | .write now _ => ∀ motor, (s.motors motor).status = 1 ∧ (s.motors motor).receivedAt ≤ now ∧
      now - (s.motors motor).receivedAt ≤ s.configuration.feedbackTimeout
  | _ => False

def EntersEnabled (s : DamiaoSystem) (label : Label) : Prop :=
  s.stateMachine.phase ≠ .enabled ∧ (s.next label).stateMachine.phase = .enabled

/-- The run ends in `enabling`, entered by a tick at `startedAt`. -/
def EnablingSince (s : DamiaoSystem) (labels : List Label) (startedAt : ℤ) : Prop :=
  ∃ before takes since, labels = before ++ .write startedAt takes :: since ∧
    (run next s before).stateMachine.phase ≠ .enabling ∧
    ∀ between rest, since = between ++ rest →
      (run next s (before ++ .write startedAt takes :: between)).stateMachine.phase = .enabling

/-- Both motors report that they are enabled, in frames of the present enabling. -/
def ConfirmedSince (s : DamiaoSystem) (labels : List Label) : Prop :=
  ∃ startedAt, EnablingSince s labels startedAt ∧ ∀ motor,
    ((run next s labels).motors motor).status = 1 ∧
      startedAt < ((run next s labels).motors motor).receivedAt

/-- What the tick finds wrong, unless a fault is held already or the head is being disabled on
request. -/
def Fails (s : DamiaoSystem) (now : ℤ) : Prop :=
  (s.stateMachine.phase = .disabled ∧ anyFault s.statuses = true) ∨
    (s.stateMachine.phase = .disabling ∧
      (s.stateMachine.allFresh now s.statuses = false ∨ anyFault s.statuses = true)) ∨
    (exactFlag s.enableRequest = some true ∧
      (s.stateMachine.phase = .enabling ∨ s.stateMachine.phase = .enabled) ∧
      (s.stateMachine.allFresh now s.statuses = false ∨ anyFault s.statuses = true ∨
        (s.stateMachine.phase = .enabled ∧ allStatus s.statuses 1 = false) ∨
        ∃ generation, s.requestedGeneration = some generation ∧
          (s.stepped now true generation).2.allowMotion = true ∧
          (s.prepared now true generation).commandsValid = false))

def FailingTick (s : DamiaoSystem) : Label → Prop
  | .write now _ => s.Running ∧ s.Fails now
  | _ => False

/-- A tick in `enabling` or `enabled` that finds the request withdrawn. -/
def WithdrawnTick (s : DamiaoSystem) : Label → Prop
  | .write _ _ => s.Running ∧ exactFlag s.enableRequest = some false ∧
      s.requestedGeneration.isSome = true ∧
      (s.stateMachine.phase = .enabling ∨ s.stateMachine.phase = .enabled)
  | _ => False

/-- A `write` sends disable to both motors, when the socket takes the first two frames that it is
handed, and no other frame. -/
def OnlyDisables (s : DamiaoSystem) : Label → Prop
  | .write now takes =>
    (takes 0 = true ∧ takes 1 = true → ∀ motor, .disable motor ∈ (s.write now takes).2) ∧
      ∀ frame ∈ (s.write now takes).2, ∃ motor, frame = .disable motor
  | _ => False

def Latches (s : DamiaoSystem) (label : Label) : Prop :=
  (s.next label).stateMachine.phase = .faultLatched

/-- The step sends an enable or a position frame. -/
def Energizes (s : DamiaoSystem) (label : Label) : Prop :=
  ∃ frame ∈ (s.step label).2, ∃ motor, frame = .enable motor ∨
    ∃ position velocity, frame = .positionVelocity motor position velocity

def CompletesReset (s : DamiaoSystem) : Label → Prop
  | .write now takes => s.stateMachine.phase = .resetting ∧
      exactFlag s.enableRequest = some false ∧
      (s.next (.write now takes)).stateMachine.phase = .disabled
  | _ => False

def StartsEnabling (s : DamiaoSystem) : Label → Prop
  | .write now takes => s.stateMachine.phase = .disabled ∧
      exactFlag s.enableRequest = some true ∧
      (s.next (.write now takes)).stateMachine.phase = .enabling
  | _ => False

/-- A completed reset and, after it, a new enable request. -/
def ResetAndRequested (s : DamiaoSystem) (labels : List Label) : Prop :=
  ∃ before reset between request after,
    labels = before ++ reset :: (between ++ request :: after) ∧
      CompletesReset (run next s before) reset ∧
      StartsEnabling (run next s (before ++ reset :: between)) request

def Configures : Label → Prop
  | .configure _ _ _ => True
  | _ => False

end Properties

section Confirmation

theorem phase_enabling {label : Label} {startedAt : ℤ}
    (h : (s.next label).stateMachine.phase = .enabling ∧
      (s.next label).stateMachine.transitionStartedAt = startedAt)
    (hbefore : ¬(s.stateMachine.phase = .enabling ∧
      s.stateMachine.transitionStartedAt = startedAt)) :
    s.stateMachine.phase ≠ .enabling ∧ ∃ takes, label = .write startedAt takes := by
  have hsame (heq : (s.next label).stateMachine = s.stateMachine) : False :=
    hbefore (heq ▸ h)
  cases label with
  | write now takes =>
    by_cases hrunning : s.Running
    · rcases machine_write now takes hrunning with
        hlatched | ⟨enable, generation, -, -, heq⟩
      · rw [hlatched] at h
        cases h.1
      · rw [heq] at h hsame
        rcases HeadStateMachine.of_step_enabling h.1 with ⟨-, hkept⟩ | ⟨hdisabled, -, hstarted⟩
        · exact (hsame hkept).elim
        · obtain rfl : now = startedAt := hstarted.symm.trans h.2
          exact ⟨by simp [hdisabled], takes, rfl⟩
    · exact (hsame (by rw [machine_idle hrunning])).elim
  | configure replies now takes =>
    rcases s.machine_configure replies now takes with heq | hphase | hphase
    · exact (hsame heq).elim
    · rw [hphase] at h
      cases h.1
    · rw [hphase] at h
      cases h.1
  | _ => exact (hsame (kept_next (by nofun) (by nofun)).1).elim

theorem enablingSince {labels : List Label} (hs : s.stateMachine.phase ≠ .enabling)
    (h : (run next s labels).stateMachine.phase = .enabling) :
    EnablingSince s labels (run next s labels).stateMachine.transitionStartedAt := by
  set startedAt := (run next s labels).stateMachine.transitionStartedAt with hstarted
  obtain ⟨before, label, since, heq, hbefore, hsince⟩ := exists_entry
    (P := fun (s : DamiaoSystem) => s.stateMachine.phase = .enabling ∧
      s.stateMachine.transitionStartedAt = startedAt) (fun hs' => hs hs'.1) ⟨h, hstarted.symm⟩
  have hentered := hsince [] since rfl
  rw [run_snoc] at hentered
  obtain ⟨hphase, takes, rfl⟩ := phase_enabling hentered hbefore
  exact ⟨before, takes, since, heq, hphase, fun between rest hrest =>
    (hsince between rest hrest).1⟩

theorem of_allStatus {motors : Motor → MotorStatus} {expected : ℕ}
    (h : allStatus motors expected = true) (motor : Motor) : (motors motor).status = expected :=
  (of_decide_eq_true h motor).2

/-- Entering `enabled` needs frames both motors sent in the present enabling. -/
theorem confirmedSince {labels : List Label} {label : Label}
    (hs : s.stateMachine.phase = .disabled) (h : EntersEnabled (run next s labels) label) :
    ConfirmedSince s labels := by
  obtain ⟨hbefore, hafter⟩ := h
  have hsame (heq : ((run next s labels).next label).stateMachine =
      (run next s labels).stateMachine) : False := hbefore (heq ▸ hafter)
  cases label with
  | write now takes =>
    by_cases hrunning : (run next s labels).Running
    · rcases machine_write now takes hrunning with
        hlatched | ⟨enable, generation, -, -, heq⟩
      · rw [hlatched] at hafter
        cases hafter
      · rw [heq] at hafter
        obtain ⟨hphase | ⟨henabling, hreceived⟩, -, hstatus⟩ :=
          HeadStateMachine.of_step_enabled hafter
        · exact absurd hphase hbefore
        · refine ⟨_, enablingSince (by simp [hs]) henabling, fun motor => ⟨?_, ?_⟩⟩
          · exact of_allStatus hstatus motor
          · exact (of_decide_eq_true hreceived motor).2
    · exact (hsame (by rw [machine_idle hrunning])).elim
  | configure replies now takes =>
    rcases (run next s labels).machine_configure replies now takes with heq | hphase | hphase
    · exact (hsame heq).elim
    · rw [hphase] at hafter
      cases hafter
    · rw [hphase] at hafter
      cases hafter
  | _ => exact (hsame (kept_next (by nofun) (by nofun)).1).elim

theorem confirmed_of_endsEnabled (hs : s.Timed) {label : Label} (h : EndsEnabled s label) :
    Confirmed s label := by
  cases label with
  | write now takes =>
    obtain ⟨hrunning, hphase⟩ := h
    rcases machine_write now takes hrunning with
      hlatched | ⟨enable, generation, -, -, heq⟩
    · rw [hlatched] at hphase
      cases hphase
    · rw [heq] at hphase
      obtain ⟨-, hfresh, hstatus⟩ := HeadStateMachine.of_step_enabled hphase
      intro motor
      have hmotor := of_decide_eq_true hfresh motor
      exact ⟨of_allStatus hstatus motor, hmotor.2.1, hs ▸ hmotor.2.2⟩
  | _ => exact h.elim

end Confirmation

section Closing

variable {now : ℤ} {takes : Socket} {enable : Bool} {generation : ℕ}

theorem write_of_requests (hrunning : s.Running) (henable : exactFlag s.enableRequest = some enable)
    (hgeneration : s.requestedGeneration = some generation) :
    s.write now takes = (s.advance now enable generation).1.updateControlStates.emit now
      (s.advance now enable generation).2 takes := by
  simp [write, hrunning.1, hrunning.2, henable, hgeneration]

theorem onlyDisables_write (hrunning : s.Running)
    (henable : exactFlag s.enableRequest = some enable)
    (hgeneration : s.requestedGeneration = some generation)
    (hactions : (s.advance now enable generation).2 = { sendDisable := true })
    (hdue : (s.advance now enable generation).1.specialRateLimiter.lastEmittedAt = none) :
    OnlyDisables s (.write now takes) := by
  rw [OnlyDisables, write_of_requests hrunning henable hgeneration, hactions]
  exact emit_sendDisable hdue

variable (takes) in
theorem onlyDisables_of_stepped (hrunning : s.Running)
    (henable : exactFlag s.enableRequest = some enable)
    (hgeneration : s.requestedGeneration = some generation)
    (hactions : (s.stepped now enable generation).2 = { sendDisable := true })
    (hphase : (s.stepped now enable generation).1.phase ≠ s.stateMachine.phase) :
    OnlyDisables s (.write now takes) ∧
      (s.next (.write now takes)).stateMachine = (s.stepped now enable generation).1 := by
  rcases s.advance_cases now enable generation with
    ⟨hmotion, -⟩ | ⟨-, hmachine, hsame, hprepared⟩
  · rw [hactions] at hmotion
    cases hmotion
  · refine ⟨onlyDisables_write hrunning henable hgeneration (hsame.trans hactions) ?_, ?_⟩
    · rw [hprepared]
      exact s.specialRateLimiter_prepared now enable generation hphase
    · simp only [next, step, write_of_requests hrunning henable hgeneration, stateMachine_emit]
      exact hmachine

theorem closes_of_failing {label : Label} (h : FailingTick s label) :
    Latches s label ∧ OnlyDisables s label := by
  cases label with
  | write now takes =>
    obtain ⟨hrunning, hfails⟩ := h
    rcases s.write_cases now takes with
      ⟨hidle, -⟩ | ⟨-, heq | ⟨enable, generation, henable, hgeneration, -⟩⟩
    · exact absurd hrunning hidle
    · simp only [Latches, OnlyDisables, next, step, heq]
      exact ⟨rfl, disable_mem_sendDisable hrunning.2, fun frame => mem_sendDisable⟩
    · by_cases hmotion : (s.stepped now enable generation).2.allowMotion = true ∧
          (s.prepared now enable generation).commandsValid = false
      · rcases s.advance_cases now enable generation with
          ⟨-, -, hmachine, hactions, hdue⟩ | ⟨hvalid, -, -, hprepared⟩
        · refine ⟨?_, onlyDisables_write hrunning henable hgeneration hactions hdue⟩
          simp only [Latches, next, step, write_of_requests hrunning henable hgeneration,
            stateMachine_emit]
          exact congrArg HeadStateMachine.phase hmachine
        · have hinvalid := hvalid hmotion.1
          rw [hprepared, hmotion.2] at hinvalid
          cases hinvalid
      · have hphase : s.stateMachine.phase ≠ .faultLatched := by
          rcases hfails with ⟨h, -⟩ | ⟨h, -⟩ | ⟨-, h | h, -⟩ <;> simp [h]
        have hlatched : s.stepped now enable generation = s.stateMachine.latchFault := by
          refine HeadStateMachine.step_latches ?_
          rcases hfails with hfails | hfails | ⟨hrequest, hin, hfails⟩
          · exact .inl hfails
          · exact .inr (.inl hfails)
          · obtain rfl : enable = true := Option.some.inj (henable.symm.trans hrequest)
            refine .inr (.inr ⟨rfl, hin, ?_⟩)
            rcases hfails with hfails | hfails | hfails | ⟨other, hother, hfails⟩
            · exact .inl hfails
            · exact .inr (.inl hfails)
            · exact .inr (.inr hfails)
            · obtain rfl : generation = other := Option.some.inj (hgeneration.symm.trans hother)
              exact absurd hfails hmotion
        obtain ⟨hdisables, hmachine⟩ := onlyDisables_of_stepped takes hrunning
          henable hgeneration (by rw [hlatched]; rfl) (by rw [hlatched]; exact hphase.symm)
        refine ⟨?_, hdisables⟩
        rw [Latches, hmachine, hlatched]
        rfl
  | _ => exact h.elim

theorem disables_of_withdrawn {label : Label} (h : WithdrawnTick s label) :
    OnlyDisables s label := by
  cases label with
  | write now takes =>
    obtain ⟨hrunning, hrequest, hgeneration, hphase⟩ := h
    obtain ⟨generation, hgeneration⟩ := Option.isSome_iff_exists.1 hgeneration
    have hstep : s.stepped now false generation =
        (s.stateMachine.transition .disabling now, { sendDisable := true }) :=
      HeadStateMachine.step_withdrawn hphase
    refine (onlyDisables_of_stepped takes hrunning hrequest hgeneration (by rw [hstep]) ?_).1
    rw [hstep]
    rcases hphase with h | h <;> simp [HeadStateMachine.transition, h]
  | _ => exact h.elim

end Closing

section Reset

variable {label : Label}

theorem phase_of_energizes (h : Energizes s label) :
    (s.next label).stateMachine.phase = .enabling ∨
      (s.next label).stateMachine.phase = .enabled := by
  obtain ⟨frame, hmem, motor, hframe⟩ := h
  rcases explained_step hmem with ⟨other, rfl⟩ | ⟨-, hexplained⟩
  · rcases hframe with h | ⟨position, velocity, h⟩ <;> cases h
  · cases hexplained with
    | disable other | clearFault other => rcases hframe with h | ⟨position, velocity, h⟩ <;> cases h
    | enable henabling => exact .inl henabling
    | hold henabling => exact .inl henabling
    | target henabled => exact .inr henabled

theorem completesReset_of_leaves (hconfigure : ¬Configures label)
    (hheld : s.stateMachine.HoldsFault) (h : ¬(s.next label).stateMachine.HoldsFault) :
    CompletesReset s label := by
  have hsame (heq : (s.next label).stateMachine = s.stateMachine) : False := h (heq ▸ hheld)
  cases label with
  | write now takes =>
    by_cases hrunning : s.Running
    · rcases machine_write now takes hrunning with
        hlatched | ⟨enable, generation, henable, -, heq⟩
      · exact absurd (.inl hlatched) h
      · rw [heq] at h
        obtain ⟨hphase, rfl, hdisabled⟩ := HeadStateMachine.leaves_held hheld h
        exact ⟨hphase, henable, by rw [heq]; exact hdisabled⟩
    · exact (hsame (by rw [machine_idle hrunning])).elim
  | configure replies now takes => exact (hconfigure trivial).elim
  | _ => exact (hsame (kept_next (by nofun) (by nofun)).1).elim

theorem startsEnabling_of_leaves (hconfigure : ¬Configures label)
    (hdisabled : s.stateMachine.phase = .disabled)
    (h : (s.next label).stateMachine.phase ≠ .disabled)
    (hfree : ¬(s.next label).stateMachine.HoldsFault) : StartsEnabling s label := by
  have hsame (heq : (s.next label).stateMachine = s.stateMachine) : False :=
    h (heq ▸ hdisabled)
  cases label with
  | write now takes =>
    by_cases hrunning : s.Running
    · rcases machine_write now takes hrunning with
        hlatched | ⟨enable, generation, henable, -, heq⟩
      · exact absurd (.inl hlatched) hfree
      · have hstarts := HeadStateMachine.step_disabled now enable generation s.statuses
          hdisabled
        rcases hstarts with hphase | hphase | ⟨rfl, hphase⟩
        · exact absurd (congrArg HeadStateMachine.phase heq |>.trans hphase) h
        · exact absurd (.inl (congrArg HeadStateMachine.phase heq |>.trans hphase)) hfree
        · exact ⟨hdisabled, henable, congrArg HeadStateMachine.phase heq |>.trans hphase⟩
    · exact (hsame (by rw [machine_idle hrunning])).elim
  | configure replies now takes => exact (hconfigure trivial).elim
  | _ => exact (hsame (kept_next (by nofun) (by nofun)).1).elim

theorem run_free {labels : List Label} (hlabels : ∀ label ∈ labels, ¬Configures label)
    (hheld : s.stateMachine.HoldsFault) (h : ¬(run next s labels).stateMachine.HoldsFault) :
    ∃ before reset after, labels = before ++ reset :: after ∧
      CompletesReset (run next s before) reset ∧
      ∀ between rest, after = between ++ rest →
        ¬(run next s (before ++ reset :: between)).stateMachine.HoldsFault := by
  obtain ⟨before, reset, after, rfl, hbefore, hafter⟩ := exists_entry
    (P := fun (s : DamiaoSystem) => ¬s.stateMachine.HoldsFault) (not_not.2 hheld) h
  refine ⟨before, reset, after, rfl, ?_, hafter⟩
  have hentered := hafter [] after rfl
  rw [run_snoc] at hentered
  exact completesReset_of_leaves (hlabels reset (by simp)) (not_not.1 hbefore) hentered

/-- From a held fault to `enabling` or `enabled` there is a completed reset and a request. -/
theorem resetAndRequested {labels : List Label} (hlabels : ∀ label ∈ labels, ¬Configures label)
    (hheld : s.stateMachine.HoldsFault)
    (h : (run next s labels).stateMachine.phase = .enabling ∨
      (run next s labels).stateMachine.phase = .enabled) : ResetAndRequested s labels := by
  have hfree : ¬(run next s labels).stateMachine.HoldsFault := by
    rcases h with h | h <;> simp [HeadStateMachine.HoldsFault, h]
  obtain ⟨before, reset, after, rfl, hreset, hafter⟩ := run_free hlabels hheld hfree
  have hdisabled : (run next s (before ++ [reset])).stateMachine.phase = .disabled := by
    rw [run_snoc]
    cases reset with
    | write now takes => exact hreset.2.2
    | _ => exact hreset.elim
  have hsplit (rest : List Label) : run next s (before ++ reset :: rest) =
      run next (run next s (before ++ [reset])) rest := by
    rw [← run_append, List.append_assoc, List.singleton_append]
  have hleft :
      (run next (run next s (before ++ [reset])) after).stateMachine.phase ≠ .disabled := by
    rw [← hsplit]
    rcases h with h | h <;> simp [h]
  obtain ⟨between, request, rest, rfl, hbetween, hrest⟩ := exists_entry
    (P := fun (s : DamiaoSystem) => s.stateMachine.phase ≠ .disabled) (not_not.2 hdisabled) hleft
  refine ⟨before, reset, between, request, rest, rfl, hreset, ?_⟩
  have hentered := hrest [] rest rfl
  rw [run_snoc] at hentered
  have hkept := hafter (between ++ [request]) rest (by simp)
  rw [hsplit, run_snoc] at hkept
  rw [hsplit]
  exact startsEnabling_of_leaves (hlabels request (by simp)) (not_not.1 hbetween) hentered hkept

end Reset

/-- Enabled only on fresh confirmation; every failing or withdrawn tick disables both motors, and
a latched fault is left by a completed reset and a new request alone. -/
theorem fails_closed (c : Configuration) (labels : List Label) :
    (∀ before label after, labels = before ++ label :: after →
        EntersEnabled (run next (onInit c) before) label → ConfirmedSince (onInit c) before) ∧
      Along next (fun s label => EndsEnabled s label → Confirmed s label) (onInit c) labels ∧
      Along next (fun s label => FailingTick s label → Latches s label ∧ OnlyDisables s label)
        (onInit c) labels ∧
      Along next (fun s label => WithdrawnTick s label → OnlyDisables s label) (onInit c) labels ∧
      ∀ before label between later after, labels = before ++ label :: (between ++ later :: after) →
        Latches (run next (onInit c) before) label →
        (∀ other ∈ between ++ [later], ¬Configures other) →
        Energizes (run next (onInit c) (before ++ label :: between)) later →
        ResetAndRequested (run next (onInit c) (before ++ [label])) (between ++ [later]) := by
  have hinitial : Timed (onInit c) := rfl
  refine ⟨?_, ?_, ?_, ?_, ?_⟩
  · rintro before label after - henters
    exact confirmedSince rfl henters
  · refine along_of_invariant (P := Timed) (fun _ label h => h.next label) (fun s label h => ?_)
      hinitial labels
    exact confirmed_of_endsEnabled h
  · exact along_of_forall (fun _ _ h => closes_of_failing h) _ labels
  · exact along_of_forall (fun _ _ h => disables_of_withdrawn h) _ labels
  · rintro before label between later after - hlatches hconfigures henergizes
    have hrun : run next (onInit c) (before ++ label :: between) =
        run next (run next (onInit c) (before ++ [label])) between := by
      rw [← run_append, List.append_assoc, List.singleton_append]
    refine resetAndRequested hconfigures (.inl ?_) ?_
    · rw [run_snoc]
      exact hlatches
    · rw [run_snoc, ← hrun]
      exact phase_of_energizes henergizes

section Unclosed

open Resets

/-- A running tick in which a motor reports a fault. -/
def FaultyTick (s : DamiaoSystem) : Label → Prop
  | .write _ _ => s.Running ∧ anyFault s.statuses = true
  | _ => False

instance (s : DamiaoSystem) : ∀ label, Decidable (CompletesReset s label)
  | .write _ _ => inferInstanceAs (Decidable (_ ∧ _ ∧ _))
  | .configure _ _ _ | .activate | .deactivate _ | .close _ | .switchInterfaces _ _
  | .setEnableRequest _ | .setResetGeneration _ | .setCommand _ _ | .read _ _ _ => .isFalse id

/-- The motors are enabled at 30 and both report a fault at 40. -/
def firstFault : List Label := enabling ++ [.read (feedback 8 40) false free, .write 40 free]

theorem firstFault_fails (takes : Socket) :
    FailingTick (run next (onInit Resets.configuration) firstFault.dropLast) (.write 40 takes) := by
  refine ⟨⟨by decide +kernel, by decide +kernel⟩, .inr (.inr ⟨?_, .inr ?_, .inr (.inl ?_)⟩)⟩
  · decide +kernel
  · decide +kernel
  · decide +kernel

theorem firstFault_closes :
    ConfirmedSince (onInit Resets.configuration) enabling.dropLast ∧
      OnlyDisables (run next (onInit Resets.configuration) firstFault.dropLast)
        (.write 40 free) := by
  have h := fails_closed Resets.configuration firstFault
  refine ⟨h.1 enabling.dropLast (.write 30 free) _ rfl ⟨by decide +kernel, by decide +kernel⟩, ?_⟩
  have htick := (along_iff_split _ _).1 h.2.2.1 firstFault.dropLast (.write 40 free) [] rfl
  exact (htick (firstFault_fails free)).2

/-- The request is withdrawn in the tick of the fault, and given again once the fault is gone. -/
def withdrawn : List Label :=
  enabling ++ [.read (feedback 8 40) false free, .setEnableRequest (some 0)]

def requestedAgain : List Label :=
  [.read (feedback 0 50) false free, .write 50 free, .setEnableRequest (some 1)]

/-- The disable of a held fault waits for its period, a fault met by a withdrawn request is not
latched, and a socket that takes nothing carries no disable either. -/
theorem fault_not_closed :
    ¬Along next (fun s label => FaultyTick s label → OnlyDisables s label)
        (onInit Resets.configuration)
        (firstFault ++ [.read (feedback 8 41) false free, .write 41 free]) ∧
      (¬∀ before label between later after,
        withdrawn ++ .write 40 free :: (requestedAgain ++ [.write 55 free]) =
            before ++ label :: (between ++ later :: after) →
          FaultyTick (run next (onInit Resets.configuration) before) label →
          Energizes (run next (onInit Resets.configuration) (before ++ label :: between)) later →
          ResetAndRequested (run next (onInit Resets.configuration) (before ++ [label]))
            (between ++ [later])) ∧
      FailingTick (run next (onInit Resets.configuration) firstFault.dropLast)
          (.write 40 fun _ => false) ∧
        ((run next (onInit Resets.configuration) firstFault.dropLast).write 40
          fun _ => false).2 = [] := by
  refine ⟨?_, ?_, firstFault_fails _, by decide +kernel⟩
  · intro h
    have htick := ((along_append _ _ _).1 h).2.2.1
    have hsilent : ((run next (onInit Resets.configuration)
        (firstFault ++ [.read (feedback 8 41) false free])).write 41 free).2 = [] := by
      decide +kernel
    rw [run_append, run_cons, run_nil] at hsilent
    have hframe := (htick ⟨⟨by decide +kernel, by decide +kernel⟩, by decide +kernel⟩).1
      ⟨rfl, rfl⟩ 0
    rw [hsilent] at hframe
    cases hframe
  · intro h
    have hreset := h withdrawn (.write 40 free) requestedAgain (.write 55 free) [] rfl
      ⟨⟨by decide +kernel, by decide +kernel⟩, by decide +kernel⟩
      ⟨.enable 0, by decide +kernel, 0, .inl rfl⟩
    obtain ⟨before, reset, between, request, after, heq, hcompletes, -⟩ := hreset
    have hnone : Along next (fun s label => ¬CompletesReset s label)
        (run next (onInit Resets.configuration) (withdrawn ++ [.write 40 free]))
        (requestedAgain ++ [.write 55 free]) := by
      decide +kernel
    exact (along_iff_split _ _).1 hnone before reset (between ++ request :: after) heq hcompletes

end Unclosed

end DamiaoSystem

end RobotDriver.Head
