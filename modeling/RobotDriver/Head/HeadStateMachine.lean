import RobotDriver.EnableManager.HandshakeDevice

/-!
# The head state machine

Two motors that are enabled and disabled together. A fault is latched until a reset generation
that differs from the last handled one is requested; the reset disables both motors, clears their
faults and returns to `disabled`.
-/

namespace RobotDriver.Head

open EnableManager (HandshakePhase)

abbrev Motor := Fin 2

structure MotorStatus where
  valid : Bool := false
  status : ℕ := 0
  receivedAt : ℤ := 0
  deriving DecidableEq, Repr

structure HeadActions where
  seedHold : Bool := false
  sendHold : Bool := false
  sendEnable : Bool := false
  sendDisable : Bool := false
  sendClearFault : Bool := false
  allowMotion : Bool := false
  deriving DecidableEq, Repr

structure HeadStateMachine where
  feedbackTimeout : ℤ
  transitionTimeout : ℤ
  transitionStartedAt : ℤ := 0
  phase : HandshakePhase := .disabled
  faultLatched : Bool := false
  handledResetGeneration : ℕ := 0
  pendingResetGeneration : ℕ := 0
  feedbackTimeout_pos : 0 < feedbackTimeout
  transitionTimeout_pos : 0 < transitionTimeout
  deriving DecidableEq

def anyFault (motors : Motor → MotorStatus) : Bool :=
  decide (∃ motor, (motors motor).valid ∧ 1 < (motors motor).status)

def allStatus (motors : Motor → MotorStatus) (expected : ℕ) : Bool :=
  decide (∀ motor, (motors motor).valid ∧ (motors motor).status = expected)

def noneEnabled (motors : Motor → MotorStatus) : Bool :=
  decide (¬∃ motor, (motors motor).valid ∧ (motors motor).status = 1)

namespace HeadStateMachine

variable (m : HeadStateMachine)

def allFresh (now : ℤ) (motors : Motor → MotorStatus) : Bool :=
  decide (∀ motor, (motors motor).valid ∧ (motors motor).receivedAt ≤ now ∧
    now - (motors motor).receivedAt ≤ m.feedbackTimeout)

def allReceivedAfterTransition (motors : Motor → MotorStatus) : Bool :=
  decide (∀ motor, (motors motor).valid ∧ m.transitionStartedAt < (motors motor).receivedAt)

def transition (phase : HandshakePhase) (now : ℤ) : HeadStateMachine :=
  { m with phase, transitionStartedAt := now }

def latchFault : HeadStateMachine × HeadActions :=
  ({ m with phase := .faultLatched, faultLatched := true }, { sendDisable := true })

def forceFault : HeadStateMachine × HeadActions := m.latchFault

def step (now : ℤ) (enableRequested : Bool) (resetGeneration : ℕ) (motors : Motor → MotorStatus) :
    HeadStateMachine × HeadActions :=
  let fresh := m.allFresh now motors
  let transitionTimedOut := decide (m.transitionTimeout < now - m.transitionStartedAt)
  match m.phase with
  | .disabled =>
    if anyFault motors then m.latchFault
    else
      let m := { m with handledResetGeneration := resetGeneration }
      if enableRequested && fresh && allStatus motors 0 then
        (m.transition .enabling now, { seedHold := true, sendHold := true, sendEnable := true })
      else (m, {})
  | .enabling =>
    if !enableRequested then (m.transition .disabling now, { sendDisable := true })
    else if !fresh || anyFault motors || transitionTimedOut then m.latchFault
    else if m.allReceivedAfterTransition motors && allStatus motors 1 then
      (m.transition .enabled now, { seedHold := true, sendHold := true, allowMotion := true })
    else (m, { sendHold := true, sendEnable := true })
  | .enabled =>
    if !enableRequested then (m.transition .disabling now, { sendDisable := true })
    else if !fresh || anyFault motors || !allStatus motors 1 then m.latchFault
    else (m, { allowMotion := true })
  | .disabling =>
    if !fresh || anyFault motors || transitionTimedOut then m.latchFault
    else if m.allReceivedAfterTransition motors && allStatus motors 0 then
      (m.transition .disabled now, {})
    else (m, { sendDisable := true })
  | .faultLatched =>
    if !enableRequested && resetGeneration ≠ m.handledResetGeneration then
      ({ m with pendingResetGeneration := resetGeneration }.transition .resetDisabling now,
        { sendDisable := true })
    else (m, { sendDisable := true })
  | .resetDisabling =>
    if enableRequested || !fresh || transitionTimedOut then m.latchFault
    else if m.allReceivedAfterTransition motors && noneEnabled motors then
      (m.transition .resetting now, { sendClearFault := true })
    else (m, { sendDisable := true })
  | .resetting =>
    if enableRequested || !fresh || transitionTimedOut then m.latchFault
    else if m.allReceivedAfterTransition motors && allStatus motors 0 then
      ({ m with
        phase := .disabled
        faultLatched := false
        handledResetGeneration := m.pendingResetGeneration }, {})
    else (m, { sendClearFault := true })

/-- What a step does to the two generations, by the phase it is taken in. -/
inductive Moves (resetGeneration : ℕ) : HeadStateMachine × HeadActions → Prop
  | latches {startedAt : ℤ} {actions : HeadActions} (quiet : actions.sendClearFault = false) :
      Moves resetGeneration ({ m with
        phase := .faultLatched
        faultLatched := true
        transitionStartedAt := startedAt }, actions)
  | adopts {startedAt : ℤ} {phase : HandshakePhase} {actions : HeadActions}
      (disabled : m.phase = .disabled) (next : phase = .disabled ∨ phase = .enabling)
      (quiet : actions.sendClearFault = false) :
      Moves resetGeneration ({ m with
        handledResetGeneration := resetGeneration
        phase := phase
        transitionStartedAt := startedAt }, actions)
  | drives {startedAt : ℤ} {phase : HandshakePhase} {actions : HeadActions}
      (driving : m.phase = .enabling ∨ m.phase = .enabled ∨ m.phase = .disabling)
      (next : phase = .disabled ∨ phase = .enabling ∨ phase = .enabled ∨ phase = .disabling)
      (quiet : actions.sendClearFault = false) :
      Moves resetGeneration ({ m with phase := phase, transitionStartedAt := startedAt }, actions)
  | waits {actions : HeadActions} (latched : m.phase = .faultLatched)
      (quiet : actions.sendClearFault = false) : Moves resetGeneration (m, actions)
  | resets {now : ℤ} {actions : HeadActions} (latched : m.phase = .faultLatched)
      (differs : resetGeneration ≠ m.handledResetGeneration)
      (quiet : actions.sendClearFault = false) :
      Moves resetGeneration ({ m with
        pendingResetGeneration := resetGeneration
        phase := .resetDisabling
        transitionStartedAt := now }, actions)
  | resetting {startedAt : ℤ} {phase : HandshakePhase} {actions : HeadActions}
      (resetting : m.phase = .resetDisabling ∨ m.phase = .resetting)
      (next : phase = .resetDisabling ∨ phase = .resetting) :
      Moves resetGeneration ({ m with phase := phase, transitionStartedAt := startedAt }, actions)
  | completes (resetting : m.phase = .resetting) :
      Moves resetGeneration ({ m with
        phase := .disabled
        faultLatched := false
        handledResetGeneration := m.pendingResetGeneration }, {})

theorem moves_latchFault (resetGeneration : ℕ) : m.Moves resetGeneration m.latchFault :=
  .latches rfl

theorem moves_step (now : ℤ) (enableRequested : Bool) (resetGeneration : ℕ)
    (motors : Motor → MotorStatus) :
    m.Moves resetGeneration (m.step now enableRequested resetGeneration motors) := by
  unfold step
  dsimp only
  split
  case h_1 hphase =>
    split_ifs
    · exact m.moves_latchFault _
    · exact .adopts hphase (.inr rfl) (by rfl)
    · exact .adopts hphase (.inl hphase) (by rfl)
  case h_2 hphase =>
    split_ifs
    · exact .drives (.inl hphase) (.inr (.inr (.inr rfl))) (by rfl)
    · exact m.moves_latchFault _
    · exact .drives (.inl hphase) (.inr (.inr (.inl rfl))) (by rfl)
    · exact .drives (.inl hphase) (.inr (.inl hphase)) (by rfl)
  case h_3 hphase =>
    split_ifs
    · exact .drives (.inr (.inl hphase)) (.inr (.inr (.inr rfl))) (by rfl)
    · exact m.moves_latchFault _
    · exact .drives (.inr (.inl hphase)) (.inr (.inr (.inl hphase))) (by rfl)
  case h_4 hphase =>
    split_ifs
    · exact m.moves_latchFault _
    · exact .drives (.inr (.inr hphase)) (.inl rfl) (by rfl)
    · exact .drives (.inr (.inr hphase)) (.inr (.inr (.inr hphase))) (by rfl)
  case h_5 hphase =>
    split_ifs with h
    · simp only [Bool.and_eq_true, Bool.not_eq_true', decide_eq_true_eq] at h
      exact .resets hphase h.2 (by rfl)
    · exact .waits hphase (by rfl)
  case h_6 hphase =>
    split_ifs
    · exact m.moves_latchFault _
    · exact .resetting (.inl hphase) (.inr rfl)
    · exact .resetting (.inl hphase) (.inl hphase)
  case h_7 hphase =>
    split_ifs
    · exact m.moves_latchFault _
    · exact .completes hphase
    · exact .resetting (.inr hphase) (.inr hphase)

theorem step_allowMotion {now : ℤ} {enableRequested : Bool} {resetGeneration : ℕ}
    {motors : Motor → MotorStatus}
    (h : (m.step now enableRequested resetGeneration motors).2.allowMotion = true) :
    ∃ startedAt, (m.step now enableRequested resetGeneration motors).1 =
      { m with phase := .enabled, transitionStartedAt := startedAt } := by
  unfold step at h ⊢
  dsimp only at h ⊢
  split at h
  case h_2 hphase =>
    split_ifs at h ⊢
    · simp [latchFault] at h
    · exact ⟨now, rfl⟩
  case h_3 hphase =>
    split_ifs at h ⊢
    · simp [latchFault] at h
    · exact ⟨m.transitionStartedAt, by rw [← hphase]⟩
  all_goals (split_ifs at h; all_goals simp [latchFault] at h)

theorem moves_forceFault {now : ℤ} {enableRequested : Bool} {resetGeneration : ℕ}
    {motors : Motor → MotorStatus}
    (h : (m.step now enableRequested resetGeneration motors).2.allowMotion = true) :
    m.Moves resetGeneration (m.step now enableRequested resetGeneration motors).1.forceFault := by
  obtain ⟨startedAt, hstep⟩ := m.step_allowMotion h
  rw [hstep]
  exact .latches (by rfl)

end HeadStateMachine

end RobotDriver.Head
