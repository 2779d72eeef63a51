import RobotDriver.Head.FailClosed

/-!
# The target of a position frame

Beside the head stands the position each motor had in the tick that started enabling. The hold
frames carry the command interface, which a controller may write meanwhile; they carry the
measured position exactly as long as the interface still holds it. The limits are checked before
the conversion to single precision, which may round a target beyond them.
-/

namespace RobotDriver.Head

open EnableManager (HandshakePhase Value exactFlag)
open LabelledRun

namespace HeadStateMachine

variable {m : HeadStateMachine} {now : ℤ} {enableRequested : Bool} {resetGeneration : ℕ}
  {motors : Motor → MotorStatus}

theorem seedHold_iff
    (h : (m.step now enableRequested resetGeneration motors).1.phase = .enabling ∨
      (m.step now enableRequested resetGeneration motors).1.phase = .enabled) :
    (m.step now enableRequested resetGeneration motors).2.seedHold = true ↔
      m.phase ≠ (m.step now enableRequested resetGeneration motors).1.phase := by
  unfold step at h ⊢
  dsimp only at h ⊢
  split at h <;> split_ifs at h ⊢ <;> simp_all [latchFault, transition]

end HeadStateMachine

namespace DamiaoSystem

variable {s : DamiaoSystem} {now : ℤ} {takes : Socket}

/-- A `write` sends the command interface, which a change of phase has seeded with the measured
position. -/
theorem command_of_position {motor : Motor} {position velocity : Double ℚ}
    (h : .positionVelocity motor position velocity ∈ (s.write now takes).2)
    (hends : (s.write now takes).1.stateMachine.phase = .enabling ∨
      (s.write now takes).1.stateMachine.phase = .enabled) :
    s.stateMachine.phase = (s.write now takes).1.stateMachine.phase ∧
        s.commandRateLimiter.isDue now = true ∧
        ((s.write now takes).1.motors motor).command = (s.motors motor).command ∨
      s.stateMachine.phase ≠ (s.write now takes).1.stateMachine.phase ∧
        ((s.write now takes).1.motors motor).command = (s.motors motor).position := by
  rcases s.write_cases now takes with ⟨-, heq⟩ | ⟨-, heq | ⟨enable, generation, -, -, heq⟩⟩
  · rw [heq] at h
    cases h
  · rw [heq] at hends
    rcases hends with hends | hends <;> cases hends
  · rw [heq] at h hends ⊢
    have hdue := due_of_position h
    simp only [stateMachine_emit, motors_emit, updateControlStates] at hends hdue ⊢
    rcases s.advance_cases now enable generation with
      ⟨-, -, hmachine, -⟩ | ⟨-, hmachine, -, hprepared⟩
    · rw [hmachine] at hends
      rcases hends with hends | hends <;> cases hends
    · rw [hmachine] at hends ⊢
      rw [hprepared] at hdue ⊢
      rw [s.motors_prepared now enable generation]
      have hseed : (s.stepped now enable generation).2.seedHold = true ↔
          s.stateMachine.phase ≠ (s.stepped now enable generation).1.phase :=
        HeadStateMachine.seedHold_iff hends
      by_cases hphase : s.stateMachine.phase = (s.stepped now enable generation).1.phase
      · rw [s.commandRateLimiter_prepared now enable generation hphase.symm] at hdue
        rw [if_neg fun hseeded => hseed.1 hseeded hphase]
        exact .inl ⟨hphase, hdue, rfl⟩
      · rw [if_pos (hseed.2 hphase)]
        exact .inr ⟨hphase, rfl⟩

end DamiaoSystem

/-- The head, and the positions measured in the tick that last started enabling. -/
structure Held where
  system : DamiaoSystem
  measured : Motor → Value

namespace Held

variable (w : Held) (label : Label)

def start (c : Configuration) : Held where
  system := .onInit c
  measured _ := none

def Starts : Prop := w.system.stateMachine.phase ≠ .enabling ∧
  (w.system.next label).stateMachine.phase = .enabling

instance : Decidable (w.Starts label) := inferInstanceAs (Decidable (_ ∧ _))

def step : Held where
  system := w.system.next label
  measured := if w.Starts label then fun motor => (w.system.motors motor).position else w.measured

/-- A position frame of the step holds the measured position, in single precision, or has a target
inside the limits. -/
def TargetsAllowed : Prop :=
  ∀ motor position velocity, .positionVelocity motor position velocity ∈ (w.system.step label).2 →
    ((w.step label).system.stateMachine.phase = .enabling ∧
        position = toFloat ((w.step label).measured motor)) ∨
      ((w.step label).system.stateMachine.phase = .enabled ∧
        ∃ target, position = .finite target ∧
          (w.system.configuration.limits motor).commandMin ≤ target ∧
          target ≤ (w.system.configuration.limits motor).commandMax)

/-- A hold that is due while the head stays in `enabling` finds the measured positions in the
command interfaces. -/
def HoldsMeasured (w : Held) : Label → Prop
  | .write now takes => w.system.stateMachine.phase = .enabling →
      (w.system.next (.write now takes)).stateMachine.phase = .enabling →
      w.system.commandRateLimiter.isDue now = true →
      ∀ motor, (w.system.motors motor).command = w.measured motor
  | _ => True

/-- A value inside the limits does not leave them by its conversion. -/
def RoundsInside (limits : MotorLimits) (value : Value) : Prop :=
  limits.contains value = true → (toFloat value).isFinite = true →
    limits.contains (toFloat value).toFinite = true

instance (limits : MotorLimits) (value : Value) : Decidable (RoundsInside limits value) :=
  inferInstanceAs (Decidable (_ → _ → _))

/-- A tick that ends in `enabled` converts no command, and in its first tick no measured position,
to a value beyond the limits. -/
def TargetsRoundInside (w : Held) : Label → Prop
  | .write now takes => (w.system.next (.write now takes)).stateMachine.phase = .enabled →
      ∀ motor,
        if w.system.stateMachine.phase = .enabled then
          w.system.commandRateLimiter.isDue now = true →
            RoundsInside (w.system.configuration.limits motor) (w.system.motors motor).command
        else RoundsInside (w.system.configuration.limits motor) (w.system.motors motor).position
  | _ => True

variable {w label}

theorem targetsAllowed_of_held (hheld : w.HoldsMeasured label) (hinside : w.TargetsRoundInside label) :
    w.TargetsAllowed label := by
  intro motor position velocity hframe
  rcases DamiaoSystem.explained_step hframe with
    ⟨other, hother⟩ | ⟨⟨now, takes, rfl⟩, hexplained⟩
  · cases hother
  · have hends : (w.system.write now takes).1.stateMachine.phase = .enabling ∨
        (w.system.write now takes).1.stateMachine.phase = .enabled := by
      cases hexplained with
      | hold henabling => exact .inl henabling
      | target henabled => exact .inr henabled
    have hcommand := DamiaoSystem.command_of_position hframe hends
    cases hexplained with
    | hold henabling =>
      refine .inl ⟨henabling, congrArg toFloat ?_⟩
      rw [show (w.system.write now takes).1.stateMachine.phase = .enabling from henabling]
        at hcommand
      rcases hcommand with ⟨hphase, hdue, hcommand⟩ | ⟨hphase, hcommand⟩
      · have hkept : (w.step (.write now takes)).measured = w.measured :=
          if_neg fun hstarts => hstarts.1 hphase
        rw [hkept, ← hheld hphase henabling hdue motor]
        exact hcommand
      · have hstarted : (w.step (.write now takes)).measured =
            fun motor => (w.system.motors motor).position := if_pos ⟨hphase, henabling⟩
        rw [hstarted]
        exact hcommand
    | target henabled hvalid _ hfinite =>
      have hcontains : ((w.system.next (.write now takes)).configuration.limits motor).contains
          ((w.system.next (.write now takes)).motors motor).command = true :=
        of_decide_eq_true hvalid motor
      rw [DamiaoSystem.configuration_next] at hcontains
      have hrounds : RoundsInside (w.system.configuration.limits motor)
          ((w.system.next (.write now takes)).motors motor).command := by
        have hround := hinside henabled motor
        rw [show (w.system.write now takes).1.stateMachine.phase = .enabled from henabled]
          at hcommand
        rcases hcommand with ⟨hphase, hdue, hcommand⟩ | ⟨hphase, hcommand⟩
        · rw [if_pos hphase] at hround
          exact hcommand ▸ hround hdue
        · rw [if_neg hphase] at hround
          exact hcommand ▸ hround
      obtain ⟨target, htarget⟩ := Double.exists_of_isFinite hfinite
      have hlimits := hrounds hcontains hfinite
      change (toFloat ((w.system.next (.write now takes)).motors motor).command) = _ at htarget
      rw [htarget] at hlimits
      exact .inr ⟨henabled, target, htarget, of_decide_eq_true hlimits⟩

/-- No foreign target is sent in a run whose due holds find the measured positions and whose
targets do not leave the limits by their conversion. -/
theorem targets_allowed (c : Configuration) (labels : List Label)
    (h : Along step (fun w label => w.HoldsMeasured label ∧ w.TargetsRoundInside label)
      (start c) labels) : Along step TargetsAllowed (start c) labels :=
  h.mono fun _ _ hheld => targetsAllowed_of_held hheld.1 hheld.2

section Foreign

open Resets

instance (w : Held) : ∀ label, Decidable (HoldsMeasured w label)
  | .write _ _ => inferInstanceAs (Decidable (_ → _ → _ → _))
  | .configure _ _ _ | .activate | .deactivate _ | .close _ | .switchInterfaces _ _
  | .setEnableRequest _ | .setResetGeneration _ | .setCommand _ _ | .read _ _ _ => .isTrue trivial

instance (w : Held) : ∀ label, Decidable (TargetsRoundInside w label)
  | .write _ _ => inferInstanceAs (Decidable (_ → ∀ _, _))
  | .configure _ _ _ | .activate | .deactivate _ | .close _ | .switchInterfaces _ _
  | .setEnableRequest _ | .setResetGeneration _ | .setCommand _ _ | .read _ _ _ => .isTrue trivial

/-- The head is enabled and the first motor is sent to `target`. -/
def commanded (target : ℚ) : List Label := enabling ++ [.setCommand 0 (some target)]

theorem targets_allowed_commanded :
    Along step TargetsAllowed (start Resets.configuration)
        (commanded (1 / 3) ++ [.write 34 free]) ∧
      .positionVelocity 0 (.finite (11184811 / 2 ^ 25)) (.finite 1) ∈
        ((run step (start Resets.configuration) (commanded (1 / 3))).system.write 34 free).2 :=
  ⟨targets_allowed Resets.configuration _ (by decide +kernel), by decide +kernel⟩

/-- A controller writes the position interface after the enabling has started. -/
def foreignCommand : List Label :=
  enabling.take 5 ++ [.setCommand 0 (some 5), .read (feedback 0 24) false free]

/-- The limits of the shipped description: a quarter turn at the double nearest to it. -/
def quarterTurn : Configuration :=
  { Resets.configuration with
    limits := fun _ =>
      { velocityLimit := 1
        commandMin := -884279719003555 / 2 ^ 50
        commandMax := 884279719003555 / 2 ^ 50
        velocityLimit_pos := unitVelocity_pos
        command_lt := by norm_num } }

theorem foreign_target_sent :
    ¬Along step TargetsAllowed (start Resets.configuration)
        (foreignCommand ++ [.write 24 free]) ∧
      ¬Along step TargetsAllowed (start quarterTurn)
        (commanded (884279719003555 / 2 ^ 50) ++ [.write 34 free]) := by
  constructor
  · intro h
    have hallowed := (along_iff_split _ _).1 h foreignCommand (.write 24 free) [] rfl 0
      (.finite 5) (.finite 1) (by decide +kernel)
    have hmeasured : ((run step (start Resets.configuration) foreignCommand).step
        (.write 24 free)).measured 0 = some 0 := by
      decide +kernel
    have hphase : ((run step (start Resets.configuration) foreignCommand).step
        (.write 24 free)).system.stateMachine.phase = .enabling := by
      decide +kernel
    rw [hmeasured, hphase] at hallowed
    rcases hallowed with ⟨-, h⟩ | ⟨h, -⟩
    · revert h
      decide +kernel
    · cases h
  · intro h
    have hallowed := (along_iff_split _ _).1 h (commanded (884279719003555 / 2 ^ 50))
      (.write 34 free) [] rfl 0 (.finite (13176795 / 2 ^ 24)) (.finite 1) (by decide +kernel)
    have hphase : ((run step (start quarterTurn) (commanded (884279719003555 / 2 ^ 50))).step
        (.write 34 free)).system.stateMachine.phase = .enabled := by
      decide +kernel
    rw [hphase] at hallowed
    rcases hallowed with ⟨h, -⟩ | ⟨-, target, htarget, -, hle⟩
    · cases h
    · cases htarget
      revert hle
      decide +kernel

end Foreign

end Held

end RobotDriver.Head
