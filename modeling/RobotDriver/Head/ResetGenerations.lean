import RobotDriver.Head.DamiaoSystem
import RobotDriver.Lib.LabelledRun

/-!
# Which generation may clear a fault

Beside the state machine stand the generations that were requested whenever the fault it holds was
latched. A reset is due to a new request when its generation is none of them, which the machine
guarantees as long as it latches no fault under a generation that it has not handled.
-/

namespace RobotDriver.Head

open EnableManager (HandshakePhase exactFlag)
open LabelledRun (Along run)

namespace HeadStateMachine

variable (m next : HeadStateMachine)

def HoldsFault : Prop :=
  m.phase = .faultLatched ∨ m.phase = .resetDisabling ∨ m.phase = .resetting

instance : Decidable m.HoldsFault := inferInstanceAs (Decidable (_ ∨ _ ∨ _))

def LatchesFault : Prop := m.phase ≠ .faultLatched ∧ next.phase = .faultLatched

instance : Decidable (m.LatchesFault next) := inferInstanceAs (Decidable (_ ∧ _))

def StartsReset : Prop := m.phase = .faultLatched ∧ next.phase = .resetDisabling

instance : Decidable (m.StartsReset next) := inferInstanceAs (Decidable (_ ∧ _))

/-- The generations of a fault, where a failed reset latches it once more. -/
def latchGenerations (standing latched : List ℕ) : List ℕ :=
  if m.LatchesFault next then if m.HoldsFault then latched ++ standing else standing else latched

/-- The held fault was latched under the handled generation, and the reset in progress has
another one. -/
structure Guarded (latched : List ℕ) : Prop where
  handled : m.HoldsFault → ∀ g ∈ latched, g = m.handledResetGeneration
  pending : m.phase = .resetDisabling ∨ m.phase = .resetting →
    m.pendingResetGeneration ≠ m.handledResetGeneration

variable {m next} {latched standing : List ℕ} {generation : ℕ} {actions : HeadActions}

theorem Guarded.of_disabled (h : m.phase = .disabled) : m.Guarded latched where
  handled := by simp [HoldsFault, h]
  pending := by simp [h]

theorem latchGenerations_of_not_latches (h : ¬m.LatchesFault next) :
    m.latchGenerations next standing latched = latched := if_neg h

theorem Guarded.kept (h : m.Guarded latched) (hlatch : ¬m.LatchesFault next)
    (hfrom : next.HoldsFault → m.HoldsFault)
    (hhandled : next.handledResetGeneration = m.handledResetGeneration)
    (hpending : next.phase = .resetDisabling ∨ next.phase = .resetting →
      next.pendingResetGeneration ≠ next.handledResetGeneration) :
    next.Guarded (m.latchGenerations next standing latched) := by
  rw [latchGenerations_of_not_latches hlatch]
  refine ⟨fun hnext g hg => ?_, hpending⟩
  rw [hhandled]
  exact h.handled (hfrom hnext) g hg

theorem Guarded.moves (h : m.Guarded latched) (hmove : m.Moves generation (next, actions))
    (hlatch : m.LatchesFault next → ∀ g ∈ standing, g = m.handledResetGeneration) :
    next.Guarded (m.latchGenerations next standing latched) := by
  cases hmove with
  | latches =>
    refine ⟨fun _ g hg => ?_, by simp⟩
    by_cases hphase : m.phase = .faultLatched
    · rw [latchGenerations_of_not_latches fun hl => hl.1 hphase] at hg
      exact h.handled (.inl hphase) g hg
    · by_cases hholds : m.HoldsFault
      · rw [latchGenerations, if_pos ⟨hphase, rfl⟩, if_pos hholds, List.mem_append] at hg
        exact hg.elim (h.handled hholds g) (hlatch ⟨hphase, rfl⟩ g)
      · rw [latchGenerations, if_pos ⟨hphase, rfl⟩, if_neg hholds] at hg
        exact hlatch ⟨hphase, rfl⟩ g hg
  | adopts _ hnext =>
    rcases hnext with rfl | rfl <;> exact ⟨by simp [HoldsFault], by simp⟩
  | drives _ hnext =>
    rcases hnext with rfl | rfl | rfl | rfl <;> exact ⟨by simp [HoldsFault], by simp⟩
  | waits hphase =>
    exact h.kept (fun hl => hl.1 hphase) id rfl h.pending
  | resets hphase hdiffers =>
    exact h.kept (fun hl => hl.1 hphase) (fun _ => .inl hphase) rfl fun _ => hdiffers
  | resetting hphase hnext =>
    refine h.kept (fun hl => ?_) (fun _ => .inr hphase) rfl fun _ => h.pending hphase
    rcases hnext with rfl | rfl <;> simp [LatchesFault] at hl
  | completes => exact ⟨by simp [HoldsFault], by simp⟩

theorem Guarded.resets_anew (h : m.Guarded latched) (hmove : m.Moves generation (next, actions))
    (hreset : m.StartsReset next) : generation ∉ latched := by
  intro hmem
  have hhandled := h.handled (.inl hreset.1) generation hmem
  cases hmove with
  | latches | completes => simp [StartsReset] at hreset
  | adopts hphase | waits hphase => simp [StartsReset, hphase] at hreset
  | drives hphase =>
    rcases hphase with hphase | hphase | hphase <;> simp [StartsReset, hphase] at hreset
  | resets _ hdiffers => exact hdiffers hhandled
  | resetting hphase => rcases hphase with hphase | hphase <;> simp [StartsReset, hphase] at hreset

theorem Guarded.clears_anew (h : m.Guarded latched) (hmove : m.Moves generation (next, actions))
    (hclear : actions.sendClearFault = true) : next.pendingResetGeneration ∉ latched := by
  cases hmove with
  | latches quiet | adopts _ _ quiet | drives _ _ quiet | waits _ quiet | resets _ _ quiet =>
    simp [quiet] at hclear
  | resetting hphase =>
    intro hmem
    exact h.pending hphase (h.handled (.inr hphase) _ hmem)
  | completes => simp at hclear

theorem handled_of_latches (hmove : m.Moves generation (next, actions))
    (hlatch : m.LatchesFault next) : next.handledResetGeneration = m.handledResetGeneration := by
  cases hmove with
  | latches | drives | waits | resets | resetting => rfl
  | adopts _ hnext => rcases hnext with rfl | rfl <;> simp [LatchesFault] at hlatch
  | completes => simp [LatchesFault] at hlatch

theorem step_of_faultLatched (h : m.phase = .faultLatched) (now : ℤ) (generation : ℕ)
    (hdiffers : generation ≠ m.handledResetGeneration) (motors : Motor → MotorStatus) :
    m.step now false generation motors =
      ({ m with pendingResetGeneration := generation }.transition .resetDisabling now,
        { sendDisable := true }) := by
  simp [step, h, hdiffers]

end HeadStateMachine

namespace DamiaoSystem

variable (s : DamiaoSystem)

/-- A successful configuration starts over with a new machine. -/
def machineBefore : Label → HeadStateMachine
  | .configure replies _ _ =>
    if ({ s with socketOpen := true }.configureMotors replies).2.2 then s.configuration.machine
    else s.stateMachine
  | _ => s.stateMachine

/-- The generations in force at a step: the one the machine is passed and the one requested. -/
def standing : Label → List ℕ
  | .configure _ _ _ => 0 :: s.requestedGeneration.toList
  | _ => s.requestedGeneration.toList

theorem of_mem_transmit {takes : Socket} {frames : List Frame} {n : ℕ} {frame : Frame}
    (h : frame ∈ (transmit takes frames n).1) : frame ∈ frames ∧ frame.encodable = true := by
  induction frames generalizing n with
  | nil => cases h
  | cons first frames ih =>
    simp only [transmit] at h
    split_ifs at h with hencodable
    · cases h
    · cases h
    · rcases List.mem_cons.1 h with rfl | hmem
      · exact ⟨List.mem_cons_self, by simpa using hencodable⟩
      · exact (ih hmem).imp_left (List.mem_cons_of_mem _)

variable {s} in
theorem mem_sendDisable {takes : Socket} {n : ℕ} {frame : Frame}
    (h : frame ∈ s.sendDisable takes n) : ∃ motor, frame = .disable motor := by
  unfold sendDisable at h
  split_ifs at h
  · obtain ⟨motor, -, rfl⟩ := List.mem_map.1 h
    exact ⟨motor, rfl⟩
  · cases h

theorem clearFault_notMem_sendDisable (takes : Socket) (n : ℕ) (motor : Motor) :
    .clearFault motor ∉ s.sendDisable takes n := by
  intro h
  obtain ⟨other, hother⟩ := mem_sendDisable h
  cases hother

theorem clearFault_notMem_commandFrames (now : ℤ) (actions : HeadActions) (motor : Motor) :
    .clearFault motor ∉ (s.commandFrames now actions).2 := by
  simp only [commandFrames]
  split_ifs <;> simp [everyMotor]

theorem sendClearFault_of_mem_specialFrames {now : ℤ} {actions : HeadActions} {motor : Motor}
    (h : .clearFault motor ∈ (s.specialFrames now actions).2) : actions.sendClearFault = true := by
  simp only [specialFrames] at h
  split_ifs at h with _ hclear
  · simp [everyMotor] at h
  · exact (Bool.and_eq_true _ _ ▸ hclear).1
  · simp [everyMotor] at h
  · simp at h

@[simp] theorem stateMachine_commandFrames (now : ℤ) (actions : HeadActions) :
    (s.commandFrames now actions).1.stateMachine = s.stateMachine := by
  simp only [commandFrames]
  split_ifs <;> rfl

@[simp] theorem stateMachine_specialFrames (now : ℤ) (actions : HeadActions) :
    (s.specialFrames now actions).1.stateMachine = s.stateMachine := by
  simp only [specialFrames]
  split_ifs <;> rfl

@[simp] theorem stateMachine_emit (now : ℤ) (actions : HeadActions) (takes : Socket) :
    (s.emit now actions takes).1.stateMachine = s.stateMachine := by
  simp only [emit]
  split
  · simp [transmitFails]
  · split <;> simp [transmitFails]

theorem sendClearFault_of_mem_emit {now : ℤ} {actions : HeadActions} {takes : Socket}
    {motor : Motor} (h : .clearFault motor ∈ (s.emit now actions takes).2) :
    actions.sendClearFault = true := by
  have hspecial {sent : List Frame} {rest : ℕ × Bool}
      (heq : transmit takes (s.specialFrames now actions).2 0 = (sent, rest))
      (hsent : .clearFault motor ∈ sent) : actions.sendClearFault = true := by
    have hmem : .clearFault motor ∈ (transmit takes (s.specialFrames now actions).2 0).1 := by
      rwa [heq]
    exact s.sendClearFault_of_mem_specialFrames (of_mem_transmit hmem).1
  have hcommand {s' : DamiaoSystem} {n : ℕ} {sent : List Frame} {rest : ℕ × Bool}
      (heq : transmit takes (s'.commandFrames now actions).2 n = (sent, rest)) :
      .clearFault motor ∉ sent := by
    intro hsent
    have hmem : .clearFault motor ∈ (transmit takes (s'.commandFrames now actions).2 n).1 := by
      rwa [heq]
    exact s'.clearFault_notMem_commandFrames now actions motor (of_mem_transmit hmem).1
  simp only [emit] at h
  split at h
  case h_1 sent n heq =>
    simp only [transmitFails, List.mem_append, clearFault_notMem_sendDisable, or_false] at h
    exact hspecial heq h
  case h_2 sent n heq =>
    refine hspecial heq ?_
    split at h
    case h_1 sent' n' heq' =>
      simp only [transmitFails, List.mem_append, clearFault_notMem_sendDisable, or_false] at h
      exact h.resolve_right (hcommand heq')
    case h_2 sent' n' heq' => exact (List.mem_append.1 h).resolve_right (hcommand heq')

theorem advance_moves (now : ℤ) (enable : Bool) (generation : ℕ) :
    s.stateMachine.Moves generation
      ((s.advance now enable generation).1.stateMachine, (s.advance now enable generation).2) := by
  have hstep := s.stateMachine.moves_step now enable generation s.statuses
  have hforce := @HeadStateMachine.moves_forceFault s.stateMachine now enable generation s.statuses
  simp only [advance]
  split_ifs <;> simp_all

@[simp] theorem stateMachine_configureMotor (motor : Motor) (reply : ConfigureReply) :
    (s.configureMotor motor reply).1.stateMachine = s.stateMachine := by
  simp only [configureMotor]
  split_ifs <;> rfl

@[simp] theorem configuration_configureMotor (motor : Motor) (reply : ConfigureReply) :
    (s.configureMotor motor reply).1.configuration = s.configuration := by
  simp only [configureMotor]
  split_ifs <;> rfl

@[simp] theorem stateMachine_configureMotors (replies : Motor → ConfigureReply) :
    (s.configureMotors replies).1.stateMachine = s.stateMachine := by
  have h := s.stateMachine_configureMotor 0 (replies 0)
  simp only [configureMotors]
  split <;> simp_all

theorem mem_configureMotors {replies : Motor → ConfigureReply} {frame : Frame}
    (h : frame ∈ (s.configureMotors replies).2.1) : ∃ motor, frame = .disable motor := by
  have hmotor {s : DamiaoSystem} {motor : Motor} {reply : ConfigureReply}
      (h : frame ∈ (s.configureMotor motor reply).2.1) : ∃ motor, frame = .disable motor := by
    simp only [configureMotor] at h
    split_ifs at h
    · cases h
    · exact ⟨motor, List.mem_singleton.1 h⟩
    · exact ⟨motor, List.mem_singleton.1 h⟩
  have hfirst := @hmotor s 0 (replies 0)
  simp only [configureMotors] at h
  split at h
  case h_1 s' sent heq => exact hfirst (heq ▸ h)
  case h_2 s' sent heq =>
    rcases List.mem_append.1 h with hsent | hsent
    · exact hfirst (heq ▸ hsent)
    · exact hmotor hsent

@[simp] theorem configuration_configureMotors (replies : Motor → ConfigureReply) :
    (s.configureMotors replies).1.configuration = s.configuration := by
  have h := s.configuration_configureMotor 0 (replies 0)
  simp only [configureMotors]
  split <;> simp_all

theorem step_moves (label : Label) :
    ((s.step label).1.stateMachine = s.machineBefore label ∧
      ∀ motor, .clearFault motor ∉ (s.step label).2) ∨
    ∃ generation actions,
      (s.machineBefore label).Moves generation ((s.step label).1.stateMachine, actions) ∧
      (∀ motor, .clearFault motor ∈ (s.step label).2 → actions.sendClearFault = true) ∧
      ((s.machineBefore label).StartsReset (s.step label).1.stateMachine →
        s.requestedGeneration = some generation) := by
  cases label with
  | configure replies now takes =>
    simp only [step, onConfigure, machineBefore]
    have hsent {motor : Motor} :
        .clearFault motor ∉ (({ s with socketOpen := true }).configureMotors replies).2.1 := by
      intro h
      obtain ⟨other, hother⟩ := mem_configureMotors _ h
      cases hother
    have hmachine := ({ s with socketOpen := true }).stateMachine_configureMotors replies
    have hconfiguration := ({ s with socketOpen := true }).configuration_configureMotors replies
    split
    case h_1 s' sent heq =>
      rw [heq] at hmachine hsent ⊢
      refine .inl ⟨hmachine, fun motor h => ?_⟩
      exact (List.mem_append.1 h).elim hsent (s'.clearFault_notMem_sendDisable takes 0 motor)
    case h_2 s' sent heq =>
      rw [heq] at hconfiguration hsent ⊢
      have hmove := s.configuration.machine.moves_step now false 0 (s'.configuredStatuses now)
      replace hconfiguration : s'.configuration = s.configuration := hconfiguration
      refine .inr ⟨0, (s.configuration.machine.step now false 0 (s'.configuredStatuses now)).2, ?_,
        fun motor h => ?_, fun h => ?_⟩
      · simpa only [updateControlStates, if_true, hconfiguration] using hmove
      · exact (hsent h).elim
      · exact absurd h.1 (by simp [Configuration.machine])
  | write now takes =>
    simp only [step, write, machineBefore]
    split_ifs
    · exact .inl ⟨rfl, by simp⟩
    · split
      case h_1 enable generation _ hgeneration =>
        refine .inr ⟨generation, (s.advance now enable generation).2, ?_, fun motor h => ?_,
          fun _ => hgeneration⟩
        · rw [stateMachine_emit]
          exact s.advance_moves now enable generation
        · exact sendClearFault_of_mem_emit _ h
      case h_2 =>
        refine .inr ⟨0, _, s.stateMachine.moves_latchFault 0, fun motor h => ?_, fun h => ?_⟩
        · exact absurd h (clearFault_notMem_sendDisable _ takes 0 motor)
        · exact absurd h.2 (by simp [updateControlStates, HeadStateMachine.forceFault,
            HeadStateMachine.latchFault])
  | activate =>
    refine .inl ⟨?_, by simp [step]⟩
    simp only [step, onActivate, machineBefore]
    split_ifs <;> rfl
  | switchInterfaces starts stops =>
    refine .inl ⟨?_, by simp [step]⟩
    simp only [step, performCommandModeSwitch, machineBefore]
    split_ifs <;> rfl
  | read observed fails takes =>
    simp only [step, read, machineBefore]
    split_ifs
    · exact .inl ⟨rfl, clearFault_notMem_sendDisable _ takes 0⟩
    · exact .inl ⟨rfl, by simp⟩
  | deactivate takes | close takes => exact .inl ⟨rfl, s.clearFault_notMem_sendDisable takes 0⟩
  | setEnableRequest | setResetGeneration | setCommand => exact .inl ⟨rfl, by simp [step]⟩

@[simp] theorem kept_commandFrames (now : ℤ) (actions : HeadActions) :
    (s.commandFrames now actions).1.socketOpen = s.socketOpen ∧
      (s.commandFrames now actions).1.resetGeneration = s.resetGeneration := by
  simp only [commandFrames]
  split_ifs <;> exact ⟨rfl, rfl⟩

@[simp] theorem kept_specialFrames (now : ℤ) (actions : HeadActions) :
    (s.specialFrames now actions).1.socketOpen = s.socketOpen ∧
      (s.specialFrames now actions).1.resetGeneration = s.resetGeneration := by
  simp only [specialFrames]
  split_ifs <;> exact ⟨rfl, rfl⟩

theorem kept_emit (now : ℤ) (actions : HeadActions) (takes : Socket) :
    (s.emit now actions takes).1.socketOpen = s.socketOpen ∧
      (s.emit now actions takes).1.resetGeneration = s.resetGeneration := by
  have hspecial := s.kept_specialFrames now actions
  have hcommand := (s.specialFrames now actions).1.kept_commandFrames now actions
  rw [hspecial.1, hspecial.2] at hcommand
  simp only [emit]
  split
  · exact hspecial
  · split <;> exact hcommand

theorem kept_advance (now : ℤ) (enable : Bool) (generation : ℕ) :
    (s.advance now enable generation).1.socketOpen = s.socketOpen ∧
      (s.advance now enable generation).1.resetGeneration = s.resetGeneration := by
  simp only [advance]
  split_ifs <;> exact ⟨rfl, rfl⟩

theorem resetGeneration_configureMotors (replies : Motor → ConfigureReply) :
    (s.configureMotors replies).1.resetGeneration = s.resetGeneration ∧
      (s.configureMotors replies).1.socketOpen = s.socketOpen := by
  have hmotor : ∀ (s : DamiaoSystem) motor reply,
      (s.configureMotor motor reply).1.resetGeneration = s.resetGeneration ∧
        (s.configureMotor motor reply).1.socketOpen = s.socketOpen := by
    intro s motor reply
    simp only [configureMotor]
    split_ifs <;> exact ⟨rfl, rfl⟩
  have h := hmotor s 0 (replies 0)
  simp only [configureMotors]
  split
  case h_1 s' sent heq => exact heq ▸ h
  case h_2 s' sent heq =>
    rw [heq] at h
    rw [← h.1, ← h.2]
    exact hmotor s' 1 (replies 1)

theorem latching_step {label : Label}
    (h : (s.machineBefore label).LatchesFault (s.step label).1.stateMachine) :
    (s.step label).1.socketOpen = true ∧
      (s.step label).1.requestedGeneration = s.requestedGeneration ∧
      ∀ g ∈ s.standing label, g ≠ (s.machineBefore label).handledResetGeneration →
        s.requestedGeneration = some g := by
  have hsame {m : HeadStateMachine} : ¬m.LatchesFault m := fun hl => hl.1 hl.2
  cases label with
  | configure replies now takes =>
    simp only [machineBefore, step, onConfigure] at h ⊢
    have hkept := ({ s with socketOpen := true }).resetGeneration_configureMotors replies
    have hmachine := ({ s with socketOpen := true }).stateMachine_configureMotors replies
    rcases heq : ({ s with socketOpen := true }).configureMotors replies with ⟨s', sent, _ | _⟩
    · rw [heq] at h hmachine
      exact absurd h (hmachine ▸ hsame)
    · rw [heq] at hkept ⊢
      refine ⟨hkept.2, congrArg wholeGeneration hkept.1, fun g hg hne => ?_⟩
      rcases List.mem_cons.1 hg with rfl | hg
      · exact absurd rfl hne
      · exact Option.mem_toList.1 hg
  | write now takes =>
    simp only [machineBefore, step, write] at h ⊢
    split_ifs at h ⊢ with hactive
    · exact absurd h hsame
    · have hopen : s.socketOpen = true := by simp_all
      refine ⟨?_, congrArg wholeGeneration ?_, fun g hg _ => Option.mem_toList.1 hg⟩
      · split
        · rw [(kept_emit _ _ _ _).1]
          exact ((s.kept_advance _ _ _).1).trans hopen
        · exact hopen
      · split
        · rw [(kept_emit _ _ _ _).2]
          exact (s.kept_advance _ _ _).2
        · rfl
  | activate =>
    simp only [machineBefore, step, onActivate] at h
    split_ifs at h <;> exact absurd h hsame
  | switchInterfaces starts stops =>
    simp only [machineBefore, step, performCommandModeSwitch] at h
    split_ifs at h <;> exact absurd h hsame
  | read observed fails takes =>
    simp only [machineBefore, step, read] at h
    split_ifs at h <;> exact absurd h hsame
  | deactivate | close | setEnableRequest | setResetGeneration | setCommand =>
    exact absurd h hsame

theorem write_of_faultLatched (hphase : s.stateMachine.phase = .faultLatched)
    (hactive : s.hardwareActive = true) (hopen : s.socketOpen = true)
    (henable : s.enableRequest = some 0) {generation : ℕ}
    (hgeneration : s.requestedGeneration = some generation)
    (hdiffers : generation ≠ s.stateMachine.handledResetGeneration) (now : ℤ) (takes : Socket) :
    (s.write now takes).1.stateMachine.phase = .resetDisabling := by
  have henabled : exactFlag s.enableRequest = some false := by rw [henable]; rfl
  simp only [write, hactive, hopen, henabled, hgeneration, Bool.not_true, Bool.or_false,
    Bool.false_eq_true, if_false, stateMachine_emit, updateControlStates]
  simp only [advance, HeadStateMachine.step_of_faultLatched hphase now generation hdiffers]
  split_ifs <;> simp_all [HeadStateMachine.transition]

end DamiaoSystem

structure StepInput where
  now : ℤ
  enableRequested : Bool
  resetGeneration : ℕ
  motors : Motor → MotorStatus

/-- A machine on its own. -/
structure Monitor where
  machine : HeadStateMachine
  latched : List ℕ := []

namespace Monitor

def start (c : Configuration) : Monitor where
  machine := c.machine

variable (w : Monitor) (input : StepInput)

def taken : HeadStateMachine × HeadActions :=
  w.machine.step input.now input.enableRequested input.resetGeneration input.motors

def step : Monitor where
  machine := (w.taken input).1
  latched := w.machine.latchGenerations (w.taken input).1 [input.resetGeneration] w.latched

def ResetsAnew : Prop :=
  (w.machine.StartsReset (w.taken input).1 → input.resetGeneration ∉ w.latched) ∧
    ((w.taken input).2.sendClearFault = true →
      (w.taken input).1.pendingResetGeneration ∉ w.latched)

/-- The step latches no fault, or is passed the handled generation. -/
def LatchesHandled : Prop :=
  w.machine.LatchesFault (w.taken input).1 →
    input.resetGeneration = w.machine.handledResetGeneration

variable {w input}

theorem guarded_step (h : w.machine.Guarded w.latched) (hlatch : w.LatchesHandled input) :
    (w.step input).machine.Guarded (w.step input).latched := by
  have hmove : w.machine.Moves input.resetGeneration ((w.taken input).1, (w.taken input).2) :=
    w.machine.moves_step _ _ _ _
  refine h.moves hmove fun hl g hg => ?_
  rw [List.mem_singleton.1 hg]
  exact hlatch hl

theorem resetsAnew_of_guarded (h : w.machine.Guarded w.latched) : w.ResetsAnew input :=
  have hmove := w.machine.moves_step input.now input.enableRequested input.resetGeneration
    input.motors
  ⟨h.resets_anew hmove, h.clears_anew hmove⟩

theorem along_resetsAnew {inputs : List StepInput} (hdisabled : w.machine.phase = .disabled)
    (h : Along step LatchesHandled w inputs) : Along step ResetsAnew w inputs :=
  LabelledRun.Along.of_invariant (P := fun w => w.machine.Guarded w.latched)
    (fun _ _ => guarded_step) (fun _ _ hw _ => resetsAnew_of_guarded hw)
    (HeadStateMachine.Guarded.of_disabled hdisabled) h

theorem exists_stale_reset (h : ¬w.LatchesHandled input) :
    ∃ next, ¬(w.step input).ResetsAnew next := by
  obtain ⟨hlatch, hdiffers⟩ := Classical.not_imp.1 h
  have hhandled : (w.taken input).1.handledResetGeneration = w.machine.handledResetGeneration :=
    HeadStateMachine.handled_of_latches (w.machine.moves_step _ _ _ _) hlatch
  refine ⟨{ input with enableRequested := false }, fun hnew => hnew.1 ?_ ?_⟩
  · refine ⟨hlatch.2, ?_⟩
    have hstarts := HeadStateMachine.step_of_faultLatched hlatch.2 input.now input.resetGeneration
      (hhandled ▸ hdiffers) input.motors
    exact congrArg (fun next => next.1.phase) hstarts
  · simp only [step, HeadStateMachine.latchGenerations, if_pos hlatch]
    split_ifs <;> simp

end Monitor

/-- The component in its environment. -/
structure World where
  system : DamiaoSystem
  latched : List ℕ := []

namespace World

def start (c : Configuration) : World where
  system := .onInit c

variable (w : World) (label : Label)

def before : HeadStateMachine := w.system.machineBefore label

def after : HeadStateMachine := (w.system.step label).1.stateMachine

def step : World where
  system := (w.system.step label).1
  latched := (w.before label).latchGenerations (w.after label) (w.system.standing label) w.latched

def ResetsAnew : Prop :=
  ((w.before label).StartsReset (w.after label) →
    ∃ g ∈ w.system.requestedGeneration, g ∉ w.latched) ∧
  ∀ motor, .clearFault motor ∈ (w.system.step label).2 →
    (w.after label).pendingResetGeneration ∉ w.latched

instance : Decidable (w.ResetsAnew label) := inferInstanceAs (Decidable (_ ∧ _))

/-- The step latches no fault, or does so with no generation in force but the handled one. -/
def LatchesHandled : Prop :=
  (w.before label).LatchesFault (w.after label) →
    ∀ g ∈ w.system.standing label, g = (w.before label).handledResetGeneration

instance : Decidable (w.LatchesHandled label) := inferInstanceAs (Decidable (_ → _))

variable {w label}

theorem guarded_before (h : w.system.stateMachine.Guarded w.latched) (label : Label) :
    (w.before label).Guarded w.latched := by
  cases label with
  | configure replies now takes =>
    simp only [before, DamiaoSystem.machineBefore]
    split_ifs
    · exact .of_disabled rfl
    · exact h
  | _ => exact h

theorem guarded_step (h : w.system.stateMachine.Guarded w.latched)
    (hlatch : w.LatchesHandled label) :
    (w.step label).system.stateMachine.Guarded (w.step label).latched := by
  have hbefore := guarded_before h label
  rcases w.system.step_moves label with ⟨hsame, _⟩ | ⟨g, actions, hmove, _⟩
  · have hquiet : ¬(w.before label).LatchesFault (w.after label) := fun hl =>
      hl.1 ((congrArg HeadStateMachine.phase hsame).symm.trans hl.2)
    simp only [step, HeadStateMachine.latchGenerations_of_not_latches hquiet, hsame]
    exact hbefore
  · exact hbefore.moves hmove hlatch

theorem resetsAnew_of_guarded (h : w.system.stateMachine.Guarded w.latched) :
    w.ResetsAnew label := by
  have hbefore := guarded_before h label
  rcases w.system.step_moves label with ⟨hsame, hquiet⟩ | ⟨g, actions, hmove, hclear, hreset⟩
  · refine ⟨fun hr => ?_, fun motor hm => absurd hm (hquiet motor)⟩
    have hphase := hr.2
    rw [after, hsame, ← before, hr.1] at hphase
    cases hphase
  · exact ⟨fun hr => ⟨g, hreset hr, hbefore.resets_anew hmove hr⟩,
      fun motor hm => hbefore.clears_anew hmove (hclear motor hm)⟩

theorem along_resetsAnew {labels : List Label} (hdisabled : w.system.stateMachine.phase = .disabled)
    (h : Along step LatchesHandled w labels) : Along step ResetsAnew w labels :=
  LabelledRun.Along.of_invariant (P := fun w => w.system.stateMachine.Guarded w.latched)
    (fun _ _ => guarded_step) (fun _ _ hw _ => resetsAnew_of_guarded hw)
    (HeadStateMachine.Guarded.of_disabled hdisabled) h

theorem not_along_resetsAnew (hphase : w.system.stateMachine.phase = .faultLatched)
    (hopen : w.system.socketOpen = true) {g : ℕ} (hg : w.system.requestedGeneration = some g)
    (hne : g ≠ w.system.stateMachine.handledResetGeneration) (hmem : g ∈ w.latched) :
    ¬Along step ResetsAnew w [.activate, .setEnableRequest (some 0), .write 0 fun _ => true] := by
  intro hnew
  let active := (w.step .activate).step (.setEnableRequest (some 0))
  have hsame {m : HeadStateMachine} : ¬m.LatchesFault m := fun hl => hl.1 hl.2
  have hactivate : w.system.onActivate =
      { w.system with
        hardwareActive := true
        commandInterfacesActive := false
        lastDisabledPollAt := 0 } := by
    simp [DamiaoSystem.onActivate, hopen]
  have hsystem : active.system =
      { w.system with
        hardwareActive := true
        commandInterfacesActive := false
        lastDisabledPollAt := 0
        enableRequest := some 0 } := by
    simp only [active, step, DamiaoSystem.step, hactivate]
  have hlatched : active.latched = w.latched := by
    have hfirst : (w.step .activate).latched = w.latched := by
      apply HeadStateMachine.latchGenerations_of_not_latches
      simp only [before, after, DamiaoSystem.machineBefore, DamiaoSystem.step, hactivate]
      exact hsame
    exact (HeadStateMachine.latchGenerations_of_not_latches hsame).trans hfirst
  have hwrite : active.ResetsAnew (.write 0 fun _ => true) := hnew.2.2.1
  have hrequested : active.system.requestedGeneration = some g := by
    rw [hsystem]
    exact hg
  have hreset : (active.before (.write 0 fun _ => true)).StartsReset
      (active.after (.write 0 fun _ => true)) := by
    simp only [before, after, DamiaoSystem.machineBefore, DamiaoSystem.step]
    refine ⟨?_, active.system.write_of_faultLatched ?_ ?_ ?_ ?_ hrequested ?_ 0
      fun _ => true⟩ <;>
      rw [hsystem] <;> assumption
  obtain ⟨g', hg', hnot⟩ := hwrite.1 hreset
  cases hrequested.symm.trans hg'
  exact hnot (hlatched ▸ hmem)

theorem exists_stale_reset (h : ¬w.LatchesHandled label) :
    ∃ labels, ¬Along step ResetsAnew (w.step label) labels := by
  simp only [LatchesHandled, Classical.not_imp, not_forall] at h
  obtain ⟨hlatch, g, hg, hne⟩ := h
  obtain ⟨hopen, hkept, hrequested⟩ := w.system.latching_step hlatch
  have hhandled : (w.after label).handledResetGeneration =
      (w.before label).handledResetGeneration := by
    rcases w.system.step_moves label with ⟨hsame, _⟩ | ⟨_, _, hmove, _⟩
    · exact congrArg _ hsame
    · exact HeadStateMachine.handled_of_latches hmove hlatch
  have hmem : g ∈ (w.step label).latched := by
    simp only [step, HeadStateMachine.latchGenerations, if_pos hlatch]
    split_ifs
    · exact List.mem_append_right _ hg
    · exact hg
  exact ⟨_, not_along_resetsAnew hlatch.2 hopen (hkept.trans (hrequested g hg hne))
    (fun heq => hne (heq.trans hhandled)) hmem⟩

end World

/-- A fault is cleared for a new request alone as long as every fault is latched under the handled
generation; a fault latched under another one is cleared for it without a new request. -/
theorem clears_on_new_request (c : Configuration) :
    (∀ inputs, Along Monitor.step Monitor.LatchesHandled (.start c) inputs →
      Along Monitor.step Monitor.ResetsAnew (.start c) inputs) ∧
    (∀ labels, Along World.step World.LatchesHandled (.start c) labels →
      Along World.step World.ResetsAnew (.start c) labels) ∧
    (∀ (w : Monitor) input, ¬w.LatchesHandled input → ∃ next, ¬(w.step input).ResetsAnew next) ∧
    ∀ (w : World) label, ¬w.LatchesHandled label →
      ∃ labels, ¬Along World.step World.ResetsAnew (w.step label) labels :=
  ⟨fun _ => Monitor.along_resetsAnew rfl, fun _ => World.along_resetsAnew rfl,
    fun _ _ => Monitor.exists_stale_reset, fun _ _ => World.exists_stale_reset⟩

namespace Resets

/-- The socket takes every frame. -/
def free : Socket := fun _ => true

def feedback (status : ℕ) (receivedAt : ℤ) : Motor → Option MotorFeedback :=
  fun _ => some { position := 0, status, receivedAt }

def enabling : List Label :=
  [.configure (fun _ => { registersValid := true, feedback := feedback 0 10 }) 10 free,
    .activate, .setEnableRequest (some 1), .read (feedback 0 20) false free, .write 20 free,
    .read (feedback 1 30) false free, .write 30 free]

/-- A fault of both motors under generation 0, and the reset that generation 1 asks for. -/
def faultThenRequest : List Label :=
  enabling ++
    [.read (feedback 8 40) false free, .write 40 free, .setEnableRequest (some 0),
      .setResetGeneration (some 1), .write 50 free, .read (feedback 8 60) false free, .write 60 free,
      .read (feedback 0 70) false free, .write 70 free]

theorem request_clears :
    Along World.step World.ResetsAnew (.start configuration) faultThenRequest :=
  (clears_on_new_request configuration).2.1 faultThenRequest (by decide +kernel)

/-- The request precedes the fault. -/
def requestThenFault : List Label :=
  enabling ++
    [.setResetGeneration (some 1), .write 35 free, .read (feedback 8 40) false free, .write 40 free,
      .setEnableRequest (some 0), .write 50 free]

theorem stale_request_clears :
    ¬∀ c labels, Along World.step World.ResetsAnew (.start c) labels := by
  intro h
  have hrun := h configuration requestThenFault
  revert hrun
  decide +kernel

end Resets

end RobotDriver.Head
