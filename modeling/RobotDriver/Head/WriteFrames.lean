import Mathlib.Data.List.TakeWhile
import RobotDriver.Head.ResetGenerations

/-!
# The frames of a write

Which frames a `write` puts on the bus follows from the phase it ends in. Enable frames are sent
in `enabling` alone, position frames in `enabling` and `enabled`, there with commands inside the
limits; every other step sends nothing but disable frames.
-/

namespace RobotDriver.Head

open EnableManager (HandshakePhase exactFlag)

namespace HeadStateMachine

variable (m : HeadStateMachine) {now : ℤ} {enableRequested : Bool} {resetGeneration : ℕ}
  {motors : Motor → MotorStatus}

variable (now enableRequested resetGeneration motors) in
theorem step_actions :
    ((m.step now enableRequested resetGeneration motors).2.sendEnable = true →
        (m.step now enableRequested resetGeneration motors).1.phase = .enabling) ∧
      ((m.step now enableRequested resetGeneration motors).2.sendHold = true →
        (m.step now enableRequested resetGeneration motors).1.phase = .enabling ∨
          (m.step now enableRequested resetGeneration motors).2.allowMotion = true) ∧
      ((m.step now enableRequested resetGeneration motors).2.allowMotion = true →
        (m.step now enableRequested resetGeneration motors).1.phase = .enabled) := by
  unfold step
  dsimp only
  split <;> split_ifs <;> simp_all [latchFault, transition]

end HeadStateMachine

namespace CommandRateLimiter

theorem due_of_none {r : CommandRateLimiter} (h : r.lastEmittedAt = none) (now : ℤ) :
    (r.due now).2 = true := by
  simp [due, isDue, h]

end CommandRateLimiter

namespace DamiaoSystem

variable (s : DamiaoSystem)

section Advance

variable (now : ℤ) (enable : Bool) (generation : ℕ)

/-- The step of the machine in a `write`, before the commands are checked. -/
def stepped : HeadStateMachine × HeadActions :=
  s.stateMachine.step now enable generation s.statuses

/-- The component after a step of the machine, with the limiters reset by a change of phase. -/
def entering (machine : HeadStateMachine) : DamiaoSystem :=
  let s' := { s with stateMachine := machine }
  if machine.phase ≠ s.stateMachine.phase then
    { s' with
      specialRateLimiter := s'.specialRateLimiter.reset
      commandRateLimiter :=
        if machine.phase = .enabling ∨ machine.phase = .enabled then s'.commandRateLimiter.reset
        else s'.commandRateLimiter }
  else s'

def seeded (seedHold : Bool) : DamiaoSystem :=
  if seedHold then
    { s with
      motors := fun motor => { s.motors motor with command := (s.motors motor).position } }
  else s

/-- The component with the commands it is about to send. -/
def prepared : DamiaoSystem :=
  let (machine, actions) := s.stepped now enable generation
  (s.entering machine).seeded actions.seedHold

theorem advance_eq : s.advance now enable generation =
    if (s.stepped now enable generation).2.allowMotion &&
        !(s.prepared now enable generation).commandsValid then
      ({ s.prepared now enable generation with
          stateMachine := (s.prepared now enable generation).stateMachine.latchFault.1
          specialRateLimiter := (s.prepared now enable generation).specialRateLimiter.reset },
        { sendDisable := true })
    else (s.prepared now enable generation, (s.stepped now enable generation).2) := rfl

theorem prepared_kept :
    (s.prepared now enable generation).configuration = s.configuration ∧
      (s.prepared now enable generation).stateMachine = (s.stepped now enable generation).1 := by
  simp only [prepared, seeded, entering]
  split_ifs <;> exact ⟨rfl, rfl⟩

theorem motors_prepared : (s.prepared now enable generation).motors =
    if (s.stepped now enable generation).2.seedHold then
      fun motor => { s.motors motor with command := (s.motors motor).position }
    else s.motors := by
  simp only [prepared, seeded, entering]
  split_ifs <;> rfl

theorem specialRateLimiter_prepared
    (h : (s.stepped now enable generation).1.phase ≠ s.stateMachine.phase) :
    (s.prepared now enable generation).specialRateLimiter.lastEmittedAt = none := by
  simp only [prepared, seeded, entering, if_pos h]
  split_ifs <;> rfl

theorem commandRateLimiter_prepared
    (h : (s.stepped now enable generation).1.phase = s.stateMachine.phase) :
    (s.prepared now enable generation).commandRateLimiter = s.commandRateLimiter := by
  simp only [prepared, seeded, entering, h, ne_eq, not_true_eq_false, if_false]
  split_ifs <;> rfl

theorem advance_kept :
    (s.advance now enable generation).1.motors = (s.prepared now enable generation).motors ∧
      (s.advance now enable generation).1.configuration = s.configuration := by
  rw [advance_eq]
  split_ifs <;> exact ⟨rfl, (s.prepared_kept now enable generation).1⟩

theorem advance_cases :
    ((s.stepped now enable generation).2.allowMotion = true ∧
        (s.advance now enable generation).1.commandsValid = false ∧
        (s.advance now enable generation).1.stateMachine =
          (s.stepped now enable generation).1.latchFault.1 ∧
        (s.advance now enable generation).2 = { sendDisable := true } ∧
        (s.advance now enable generation).1.specialRateLimiter.lastEmittedAt = none) ∨
      ((s.stepped now enable generation).2.allowMotion = true →
          (s.advance now enable generation).1.commandsValid = true) ∧
        (s.advance now enable generation).1.stateMachine = (s.stepped now enable generation).1 ∧
        (s.advance now enable generation).2 = (s.stepped now enable generation).2 ∧
        (s.advance now enable generation).1 = s.prepared now enable generation := by
  have hmachine := (s.prepared_kept now enable generation).2
  rw [advance_eq]
  split_ifs with h
  · simp only [Bool.and_eq_true, Bool.not_eq_true'] at h
    refine .inl ⟨h.1, h.2, ?_, rfl, rfl⟩
    rw [hmachine]
  · refine .inr ⟨fun hmotion => ?_, hmachine, rfl, rfl⟩
    simpa [hmotion] using h

end Advance

section Emit

variable {s} {now : ℤ} {actions : HeadActions} {takes : Socket} {frame : Frame}

variable (s now actions) in
@[simp] theorem motors_specialFrames :
    (s.specialFrames now actions).1.motors = s.motors ∧
      (s.specialFrames now actions).1.configuration = s.configuration := by
  simp only [specialFrames]
  split_ifs <;> exact ⟨rfl, rfl⟩

theorem mem_everyMotor {f : Motor → Frame} (h : frame ∈ everyMotor f) :
    ∃ motor, frame = f motor := by
  simp only [everyMotor, List.mem_cons, List.not_mem_nil, or_false] at h
  exact h.elim (fun h => ⟨_, h⟩) fun h => ⟨_, h⟩

theorem everyMotor_mem (f : Motor → Frame) : ∀ motor, f motor ∈ everyMotor f :=
  Fin.forall_fin_two.2 ⟨List.mem_cons_self, List.mem_cons_of_mem _ List.mem_cons_self⟩

/-- The position frame for the command of a motor. -/
def positionFrame (s : DamiaoSystem) (motor : Motor) : Frame :=
  .positionVelocity motor (toFloat (s.motors motor).command)
    (toFloat (some (s.configuration.limits motor).velocityLimit))

/-- A frame as the actions and the commands of a `write` make it. -/
inductive Emitted (s : DamiaoSystem) (actions : HeadActions) : Frame → Prop
  | disable (motor : Motor) : Emitted s actions (.disable motor)
  | clearFault (h : actions.sendClearFault = true) (motor : Motor) :
      Emitted s actions (.clearFault motor)
  | enable (h : actions.sendEnable = true) (motor : Motor) : Emitted s actions (.enable motor)
  | position (h : (actions.sendHold || actions.allowMotion) = true) (motor : Motor)
      (finite : (toFloat (s.motors motor).command).isFinite = true) :
      Emitted s actions (s.positionFrame motor)

theorem emitted_specialFrames (h : frame ∈ (s.specialFrames now actions).2) :
    s.Emitted actions frame := by
  simp only [specialFrames] at h
  split_ifs at h with hdisable hclear henable
  · obtain ⟨motor, rfl⟩ := mem_everyMotor h
    exact .disable motor
  · obtain ⟨motor, rfl⟩ := mem_everyMotor h
    exact .clearFault (Bool.and_eq_true _ _ ▸ hclear).1 motor
  · obtain ⟨motor, rfl⟩ := mem_everyMotor h
    exact .enable (Bool.and_eq_true _ _ ▸ henable).1 motor
  · cases h

theorem emitted_commandFrames (h : frame ∈ (s.commandFrames now actions).2)
    (hencodable : frame.encodable = true) : s.Emitted actions frame := by
  simp only [commandFrames] at h
  split_ifs at h with hmoves hpoll
  · obtain ⟨motor, rfl⟩ := mem_everyMotor (f := s.positionFrame) h
    rw [positionFrame, Frame.encodable, Bool.and_eq_true] at hencodable
    exact .position (Bool.and_eq_true _ _ ▸ hmoves).1 motor hencodable.1
  · obtain ⟨motor, rfl⟩ := mem_everyMotor h
    exact .disable motor
  · cases h

theorem mem_emit (h : frame ∈ (s.emit now actions takes).2) :
    frame ∈ (s.specialFrames now actions).2 ∨
      (frame ∈ ((s.specialFrames now actions).1.commandFrames now actions).2 ∧
        frame.encodable = true) ∨
      ∃ motor, frame = .disable motor := by
  have hsent {frames sent : List Frame} {n : ℕ} {rest : ℕ × Bool}
      (heq : transmit takes frames n = (sent, rest)) (hmem : frame ∈ sent) :
      frame ∈ frames ∧ frame.encodable = true := by
    obtain rfl := congrArg Prod.fst heq
    exact of_mem_transmit hmem
  simp only [emit] at h
  split at h
  case h_1 sent n heq =>
    rcases List.mem_append.1 h with hmem | hmem
    · exact .inl (hsent heq hmem).1
    · exact .inr (.inr (mem_sendDisable hmem))
  case h_2 sent n heq =>
    split at h
    case h_1 sent' n' heq' =>
      rcases List.mem_append.1 h with hmem | hmem
      · rcases List.mem_append.1 hmem with hmem | hmem
        · exact .inl (hsent heq hmem).1
        · exact .inr (.inl (hsent heq' hmem))
      · exact .inr (.inr (mem_sendDisable hmem))
    case h_2 sent' n' heq' =>
      rcases List.mem_append.1 h with hmem | hmem
      · exact .inl (hsent heq hmem).1
      · exact .inr (.inl (hsent heq' hmem))

theorem emitted_emit (h : frame ∈ (s.emit now actions takes).2) :
    s.Emitted actions frame := by
  rcases mem_emit h with hspecial | ⟨hcommand, hencodable⟩ | ⟨motor, rfl⟩
  · exact emitted_specialFrames hspecial
  · have hframe := emitted_commandFrames hcommand hencodable
    have hmotors := (motors_specialFrames s now actions).1
    have hconfiguration := (motors_specialFrames s now actions).2
    cases hframe with
    | disable motor => exact .disable motor
    | clearFault hclear motor => exact .clearFault hclear motor
    | enable henable motor => exact .enable henable motor
    | position hmoves motor finite =>
      rw [positionFrame, hmotors, hconfiguration]
      rw [hmotors] at finite
      exact .position hmoves motor finite
  · exact .disable motor

theorem due_of_position {motor : Motor} {position velocity : Double ℚ}
    (h : .positionVelocity motor position velocity ∈ (s.emit now actions takes).2) :
    s.commandRateLimiter.isDue now = true := by
  have hlimiter :
      (s.specialFrames now actions).1.commandRateLimiter = s.commandRateLimiter := by
    simp only [specialFrames]
    split_ifs <;> rfl
  rcases mem_emit h with hspecial | ⟨hcommand, -⟩ | ⟨other, hother⟩
  · simp only [specialFrames] at hspecial
    split_ifs at hspecial <;> simp [everyMotor] at hspecial
  · by_contra hdue
    have hidle : (s.commandRateLimiter.due now).2 = false := by
      simp [CommandRateLimiter.due, hdue]
    simp only [commandFrames, hlimiter, hidle, Bool.and_false] at hcommand
    split_ifs at hcommand <;> simp_all [everyMotor]
  · cases hother

@[simp] theorem motors_emit : (s.emit now actions takes).1.motors = s.motors := by
  have hcommand (s : DamiaoSystem) : (s.commandFrames now actions).1.motors = s.motors := by
    simp only [commandFrames]
    split_ifs <;> rfl
  have hspecial := (motors_specialFrames s now actions).1
  simp only [emit]
  split
  · exact hspecial
  · split
    · exact (hcommand _).trans hspecial
    · exact (hcommand _).trans hspecial

@[simp] theorem configuration_emit :
    (s.emit now actions takes).1.configuration = s.configuration := by
  have hcommand (s : DamiaoSystem) :
      (s.commandFrames now actions).1.configuration = s.configuration := by
    simp only [commandFrames]
    split_ifs <;> rfl
  have hspecial := (motors_specialFrames s now actions).2
  simp only [emit]
  split
  · exact hspecial
  · split
    · exact (hcommand _).trans hspecial
    · exact (hcommand _).trans hspecial

theorem disable_mem_sendDisable (hopen : s.socketOpen = true)
    (htakes : takes 0 = true ∧ takes 1 = true) (motor : Motor) :
    .disable motor ∈ s.sendDisable takes 0 := by
  rw [sendDisable, if_pos hopen]
  refine List.mem_map_of_mem (List.mem_filter.2 ⟨List.mem_finRange motor, ?_⟩)
  match motor with
  | 0 => exact htakes.1
  | 1 => exact htakes.2

theorem emit_sendDisable (hdue : s.specialRateLimiter.lastEmittedAt = none) :
    (takes 0 = true ∧ takes 1 = true →
        ∀ motor, .disable motor ∈ (s.emit now { sendDisable := true } takes).2) ∧
      ∀ frame ∈ (s.emit now { sendDisable := true } takes).2,
        ∃ motor, frame = .disable motor := by
  constructor
  · intro htakes motor
    have hspecial : s.specialFrames now { sendDisable := true } =
        ({ s with specialRateLimiter := (s.specialRateLimiter.due now).1 },
          everyMotor .disable) := by
      simp [specialFrames, CommandRateLimiter.due_of_none hdue now]
    have hsent : transmit takes (everyMotor .disable) 0 = (everyMotor .disable, 2, true) := by
      simp [transmit, everyMotor, Frame.encodable, htakes]
    have hmem := everyMotor_mem Frame.disable motor
    simp only [emit, hspecial, hsent]
    split
    · exact List.mem_append_left _ (List.mem_append_left _ hmem)
    · exact List.mem_append_left _ hmem
  · intro frame hframe
    cases emitted_emit hframe with
    | disable motor => exact ⟨motor, rfl⟩
    | clearFault h motor => cases h
    | enable h motor => cases h
    | position h motor => cases h

end Emit

section Write

variable {s} {now : ℤ} {takes : Socket} {frame : Frame}

def Running (s : DamiaoSystem) : Prop := s.hardwareActive = true ∧ s.socketOpen = true

/-- A `write` is skipped, forces a fault, or advances the machine and emits its actions. -/
theorem write_cases (now : ℤ) (takes : Socket) :
    ¬s.Running ∧ s.write now takes = (s, []) ∨
      s.Running ∧ (s.write now takes =
          ({ s with stateMachine := s.stateMachine.latchFault.1 }.updateControlStates,
            s.sendDisable takes 0) ∨
        ∃ enable generation, exactFlag s.enableRequest = some enable ∧
          s.requestedGeneration = some generation ∧
          s.write now takes = (s.advance now enable generation).1.updateControlStates.emit now
            (s.advance now enable generation).2 takes) := by
  unfold write Running
  split
  · rename_i h
    refine .inl ⟨?_, rfl⟩
    simp only [Bool.or_eq_true, Bool.not_eq_true'] at h
    rintro ⟨hactive, hopen⟩
    simp [hactive, hopen] at h
  · rename_i h
    simp only [Bool.or_eq_true, Bool.not_eq_true', not_or, Bool.not_eq_false] at h
    refine .inr ⟨h, ?_⟩
    split
    · rename_i enable generation henable hgeneration
      exact .inr ⟨enable, generation, henable, hgeneration, rfl⟩
    · exact .inl rfl

/-- A frame as the state after the step explains it. -/
inductive Explained (s' : DamiaoSystem) : Frame → Prop
  | disable (motor : Motor) : Explained s' (.disable motor)
  | clearFault (motor : Motor) : Explained s' (.clearFault motor)
  | enable (enabling : s'.stateMachine.phase = .enabling) (motor : Motor) :
      Explained s' (.enable motor)
  | hold (enabling : s'.stateMachine.phase = .enabling) (motor : Motor)
      (finite : (toFloat (s'.motors motor).command).isFinite = true) :
      Explained s' (s'.positionFrame motor)
  | target (enabled : s'.stateMachine.phase = .enabled) (valid : s'.commandsValid = true)
      (motor : Motor) (finite : (toFloat (s'.motors motor).command).isFinite = true) :
      Explained s' (s'.positionFrame motor)

theorem explained_write (h : frame ∈ (s.write now takes).2) :
    (s.write now takes).1.Explained frame := by
  rcases s.write_cases now takes with
    ⟨-, heq⟩ | ⟨-, heq | ⟨enable, generation, -, -, heq⟩⟩
  · rw [heq] at h
    cases h
  · rw [heq] at h ⊢
    obtain ⟨motor, rfl⟩ := mem_sendDisable h
    exact .disable motor
  · rw [heq] at h ⊢
    replace h := emitted_emit h
    rename' h => hframe
    obtain ⟨henable, hhold, hmotion⟩ :=
      s.stateMachine.step_actions now enable generation s.statuses
    set next := ((s.advance now enable generation).1.updateControlStates.emit now
      (s.advance now enable generation).2 takes).1 with hnext
    have hphase : next.stateMachine = (s.advance now enable generation).1.stateMachine := by
      rw [hnext, stateMachine_emit]
      rfl
    have hmotors : next.motors = (s.advance now enable generation).1.motors := motors_emit
    have hconfiguration :
        next.configuration = (s.advance now enable generation).1.configuration :=
      configuration_emit
    have hvalid : next.commandsValid = (s.advance now enable generation).1.commandsValid := by
      unfold commandsValid
      rw [hmotors, hconfiguration]
    rcases s.advance_cases now enable generation with
      ⟨-, -, -, hactions, -⟩ | ⟨hchecked, hmachine, hactions, -⟩
    · rw [hactions] at hframe
      cases hframe with
      | disable motor => exact .disable motor
      | clearFault h => cases h
      | enable h => cases h
      | position h => cases h
    · rw [hactions] at hframe
      rw [hmachine] at hphase
      cases hframe with
      | disable motor => exact .disable motor
      | clearFault _ motor => exact .clearFault motor
      | enable h motor => exact .enable (hphase ▸ henable h) motor
      | position h motor finite =>
        have hframe : (s.advance now enable generation).1.updateControlStates.positionFrame motor =
            next.positionFrame motor := by
          rw [positionFrame, positionFrame, hmotors, hconfiguration]
          rfl
        have hfinite : (toFloat (next.motors motor).command).isFinite = true := by
          rw [hmotors]
          exact finite
        have hmotion' (h : (s.stepped now enable generation).2.allowMotion = true) :
            next.Explained (next.positionFrame motor) :=
          .target (hphase ▸ hmotion h) (hvalid.trans (hchecked h)) motor hfinite
        rw [hframe]
        rcases Bool.or_eq_true _ _ ▸ h with h | h
        · rcases hhold h with henabling | hallowed
          · exact .hold (hphase ▸ henabling) motor hfinite
          · exact hmotion' hallowed
        · exact hmotion' h

theorem explained_step {label : Label} (h : frame ∈ (s.step label).2) :
    (∃ motor, frame = .disable motor) ∨
      (∃ now takes, label = .write now takes) ∧ (s.step label).1.Explained frame := by
  cases label with
  | write now takes => exact .inr ⟨⟨now, takes, rfl⟩, explained_write h⟩
  | configure replies now takes =>
    have hconfigured : frame ∈ (({ s with socketOpen := true }).configureMotors replies).2.1 →
        ∃ motor, frame = .disable motor := mem_configureMotors _
    left
    simp only [step, onConfigure] at h
    split at h
    case h_1 s' sent heq =>
      exact (List.mem_append.1 h).elim (fun hsent => hconfigured (by rwa [heq])) mem_sendDisable
    case h_2 s' sent heq => exact hconfigured (by rwa [heq])
  | read observed fails takes =>
    left
    simp only [step, read] at h
    split_ifs at h
    · exact mem_sendDisable h
    · cases h
  | deactivate | close => exact .inl (mem_sendDisable h)
  | activate | switchInterfaces | setEnableRequest | setResetGeneration | setCommand => cases h

end Write

end DamiaoSystem

end RobotDriver.Head
