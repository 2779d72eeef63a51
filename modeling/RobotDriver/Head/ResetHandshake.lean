import Mathlib.Algebra.Order.Ring.Rat
import Mathlib.Data.Nat.Cast.Order.Ring
import RobotDriver.Head.DamiaoSystem
import RobotDriver.Lib.LabelledRun

/-!
# Reset requests between the manager's device and the head

The device writes a generation, the head reports the one it has handled. Both count on their own,
and the device restarts its counter from the reported value on activation.
-/

namespace RobotDriver.Head

open EnableManager (DeviceSample HandshakeDevice HandshakePhase decodeHandshakePhase exactFlag
  exactGeneration maximumExactInteger)
open LabelledRun (Along run)

structure Handshake where
  device : HandshakeDevice := {}
  head : HeadStateMachine
  /-- The head has handled the target since the reset was started. -/
  answered : Bool := false

/-- The steps of the manager, and the ticks of the head between them. -/
inductive HandshakeLabel
  | baseline
  | update (enable : Option Bool) (reset : Bool)
  | deactivate
  | tick (now : ℤ) (motors : Motor → MotorStatus) (commandsValid : Bool)

namespace HeadStateMachine

def HoldsReset (m : HeadStateMachine) : Prop := m.phase = .resetDisabling ∨ m.phase = .resetting

instance (m : HeadStateMachine) : Decidable m.HoldsReset := inferInstanceAs (Decidable (_ ∨ _))

/-- A tick handles a generation when it ends a reset, or finds the head disabled without a
fault. -/
def Handles (m next : HeadStateMachine) : Prop :=
  (m.phase = .resetting ∧ next.phase = .disabled) ∨
    (m.phase = .disabled ∧ next.phase ≠ .faultLatched)

instance (m next : HeadStateMachine) : Decidable (m.Handles next) :=
  inferInstanceAs (Decidable (_ ∨ _))

end HeadStateMachine

namespace Handshake

variable (w : Handshake)

def start (c : Configuration) : Handshake where
  head := c.machine

def sample : DeviceSample := w.head.controlStates

/-- The generation on the command interface, as the head reads it. -/
def written : ℕ := roundToDouble w.device.resetCommand

def advanced (now : ℤ) (motors : Motor → MotorStatus) (commandsValid : Bool) : HeadStateMachine :=
  let (head, actions) := w.head.step now w.device.enableCommand w.written motors
  if actions.allowMotion && !commandsValid then head.forceFault.1 else head

/-- The reset of an update, for a device that its new sample shows faulted. -/
def reset : Handshake :=
  if w.device.faulted then { w with device := w.device.startReset, answered := false } else w

def step : HandshakeLabel → Handshake
  | .baseline =>
    match w.device.baseline w.sample with
    | some device => { w with device }
    | none => { w with device := w.device.read w.sample }
  | .update enable reset =>
    let w := { w with device := w.device.read w.sample }
    let w :=
      match enable with
      | some enable => { w with device := w.device.requestEnable enable }
      | none => w
    let w := if reset then w.reset else w
    { w with device := w.device.write }
  | .deactivate => { w with device := (w.device.requestEnable false).write }
  | .tick now motors commandsValid =>
    let head := w.advanced now motors commandsValid
    { w with
      head
      answered := w.answered ||
        decide (w.head.Handles head ∧ head.handledResetGeneration = w.device.resetTarget) }

/-- A reset started and not yet handled stands out at the latched head, and is complete only once
it is handled. -/
structure Sound : Prop where
  stands : w.device.resetPending = true → w.answered = false → w.head.phase = .faultLatched →
    w.written ≠ w.head.handledResetGeneration
  completes : w.device.resetPending = true → (w.device.read w.sample).resetComplete = true →
    w.head.phase = .disabled ∧ w.head.faultLatched = false ∧ w.answered = true

/-- The device's counter has not fallen behind the head, and its next value is exact. -/
def Abreast : Prop :=
  w.head.handledResetGeneration ≤ w.device.resetGeneration ∧
    (w.head.HoldsReset → w.head.pendingResetGeneration ≤ w.device.resetGeneration) ∧
    w.device.resetGeneration < 2 ^ 53

instance : Decidable w.Abreast := inferInstanceAs (Decidable (_ ∧ _ ∧ _))

def ResetsAbreast : HandshakeLabel → Prop
  | .update _ true => (w.device.read w.sample).faulted = true → w.Abreast
  | _ => True

instance : ∀ label, Decidable (w.ResetsAbreast label)
  | .update _ true => inferInstanceAs (Decidable (_ → _))
  | .update _ false | .baseline | .deactivate | .tick _ _ _ => .isTrue trivial

end Handshake

theorem roundToDouble_of_le {n : ℕ} (h : n ≤ 2 ^ 53) : roundToDouble n = n := if_pos h

@[simp] theorem decode_phaseCode (phase : HandshakePhase) :
    decodeHandshakePhase (some (phaseCode phase)) = some phase := by
  cases phase <;> rfl

@[simp] theorem exactFlag_ite (p : Prop) [Decidable p] :
    exactFlag (some (if p then 1 else 0)) = some (decide p) := by
  by_cases hp : p <;> simp [exactFlag, hp]

theorem exactGeneration_natCast (n : ℕ) :
    exactGeneration (some (n : ℚ)) = if n < 2 ^ 53 then some n else none := by
  have hbound : (n : ℚ) ≤ maximumExactInteger ↔ n < 2 ^ 53 := by
    rw [show maximumExactInteger = ((9007199254740991 : ℕ) : ℚ) from rfl, Nat.cast_le]
    omega
  have hnonneg : (0 : ℚ) ≤ n := Nat.cast_nonneg n
  simp [exactGeneration, hbound, hnonneg]

namespace HeadStateMachine

variable {m next : HeadStateMachine} {generation bound : ℕ} {actions : HeadActions}

theorem Moves.bounded (hmove : m.Moves generation (next, actions)) (hgeneration : generation ≤ bound)
    (hhandled : m.handledResetGeneration ≤ bound)
    (hpending : m.HoldsReset → m.pendingResetGeneration ≤ bound) :
    next.handledResetGeneration ≤ bound ∧
      (next.HoldsReset → next.pendingResetGeneration ≤ bound) := by
  cases hmove with
  | latches => exact ⟨hhandled, by simp [HoldsReset]⟩
  | adopts _ hnext =>
    rcases hnext with rfl | rfl <;> exact ⟨hgeneration, by simp [HoldsReset]⟩
  | drives _ hnext =>
    rcases hnext with rfl | rfl | rfl | rfl <;> exact ⟨hhandled, by simp [HoldsReset]⟩
  | waits => exact ⟨hhandled, hpending⟩
  | resets => exact ⟨hhandled, fun _ => hgeneration⟩
  | resetting hphase => exact ⟨hhandled, fun _ => hpending hphase⟩
  | completes hphase => exact ⟨hpending (.inr hphase), by simp [HoldsReset]⟩

theorem Moves.unhandled (hmove : m.Moves generation (next, actions))
    (hhandled : m.handledResetGeneration < generation)
    (hpending : m.HoldsReset → m.pendingResetGeneration ≤ generation)
    (hnot : ¬(m.Handles next ∧ next.handledResetGeneration = generation)) :
    next.handledResetGeneration < generation := by
  cases hmove with
  | latches | drives | waits | resets | resetting => exact hhandled
  | adopts hphase hnext =>
    refine absurd ⟨.inr ⟨hphase, ?_⟩, rfl⟩ hnot
    rcases hnext with rfl | rfl <;> simp
  | completes hphase =>
    refine lt_of_le_of_ne (hpending (.inr hphase)) fun heq => hnot ⟨.inl ⟨hphase, rfl⟩, heq⟩

end HeadStateMachine

namespace Handshake

variable {w : Handshake}

theorem advanced_moves (w : Handshake) (now : ℤ) (motors : Motor → MotorStatus)
    (commandsValid : Bool) :
    ∃ actions, w.head.Moves w.written (w.advanced now motors commandsValid, actions) := by
  simp only [advanced]
  split_ifs with h
  · rw [Bool.and_eq_true] at h
    exact ⟨_, w.head.moves_forceFault h.1⟩
  · exact ⟨_, w.head.moves_step now w.device.enableCommand w.written motors⟩

theorem read_sample (w : Handshake) :
    w.device.read w.sample =
      if roundToDouble w.head.handledResetGeneration < 2 ^ 53 then
        { w.device with
          valid := true
          phase := w.head.phase
          faultLatched := w.head.faultLatched
          motionAllowed := decide (w.head.phase = .enabled)
          handledGeneration := roundToDouble w.head.handledResetGeneration }
      else { w.device with valid := false } := by
  simp only [HandshakeDevice.read, sample, HeadStateMachine.controlStates, decode_phaseCode,
    exactFlag_ite, exactGeneration_natCast, Bool.decide_eq_true]
  split_ifs <;> rfl

section Device

variable (d : HandshakeDevice) (sample : DeviceSample)

@[simp] theorem resetGeneration_read : (d.read sample).resetGeneration = d.resetGeneration := by
  unfold HandshakeDevice.read
  split <;> rfl

@[simp] theorem resetTarget_read : (d.read sample).resetTarget = d.resetTarget := by
  unfold HandshakeDevice.read
  split <;> rfl

@[simp] theorem resetPending_read : (d.read sample).resetPending = d.resetPending := by
  unfold HandshakeDevice.read
  split <;> rfl

@[simp] theorem resetCommand_read : (d.read sample).resetCommand = d.resetCommand := by
  unfold HandshakeDevice.read
  split <;> rfl

end Device

/-- The device of an update after its new sample and the enable request. -/
def requested (w : Handshake) (enable : Option Bool) : HandshakeDevice :=
  match enable with
  | some enable => (w.device.read w.sample).requestEnable enable
  | none => w.device.read w.sample

theorem faulted_requested (w : Handshake) (enable : Option Bool) :
    (w.requested enable).faulted = (w.device.read w.sample).faulted := by
  cases enable <;> rfl

theorem requested_resets (w : Handshake) (enable : Option Bool) :
    (w.requested enable).resetGeneration = w.device.resetGeneration ∧
      (w.requested enable).resetTarget = w.device.resetTarget ∧
      (w.requested enable).resetPending = w.device.resetPending := by
  cases enable <;> simp [requested, HandshakeDevice.requestEnable]

theorem step_update (w : Handshake) (enable : Option Bool) (reset : Bool) :
    w.step (.update enable reset) =
      if reset = true ∧ (w.device.read w.sample).faulted = true then
        { w with device := (w.requested enable).startReset.write, answered := false }
      else { w with device := (w.requested enable).write } := by
  rw [← w.faulted_requested enable]
  cases enable <;> cases reset <;> simp only [step, reset, requested] <;> split_ifs <;> simp_all

theorem step_baseline (w : Handshake) :
    (∃ device : HandshakeDevice, w.step .baseline = { w with device } ∧
      device.resetPending = false ∧
      device.resetGeneration = roundToDouble w.head.handledResetGeneration ∧
      device.resetCommand = device.resetGeneration ∧ device.resetGeneration < 2 ^ 53) ∨
    w.step .baseline = { w with device := { w.device with valid := false } } := by
  simp only [step, HandshakeDevice.baseline, read_sample]
  by_cases hexact : roundToDouble w.head.handledResetGeneration < 2 ^ 53
  · simp only [if_pos hexact, if_true]
    exact .inl ⟨_, rfl, rfl, rfl, rfl, hexact⟩
  · rw [if_neg hexact]
    exact .inr rfl

/-- What the two sides know of each other's generations. -/
structure Inv (w : Handshake) : Prop where
  command : w.device.resetCommand = w.device.resetGeneration
  bound : w.device.resetGeneration ≤ 2 ^ 53
  target : w.device.resetPending = true → w.device.resetTarget = w.device.resetGeneration
  unhandled : w.device.resetPending = true → w.answered = false →
    w.head.handledResetGeneration < w.device.resetTarget ∧
      (w.head.HoldsReset → w.head.pendingResetGeneration ≤ w.device.resetTarget)

theorem Inv.written (h : w.Inv) : w.written = w.device.resetGeneration := by
  rw [Handshake.written, h.command, roundToDouble_of_le h.bound]

theorem Inv.sound (h : w.Inv) : w.Sound where
  stands hpending hanswered _ := by
    rw [h.written, ← h.target hpending]
    exact (h.unhandled hpending hanswered).1.ne'
  completes hpending hcomplete := by
    have hdisabled := HandshakeDevice.disabled_of_resetComplete hcomplete
    rw [read_sample] at hcomplete hdisabled
    split_ifs at hcomplete hdisabled with hexact
    · simp only [HandshakeDevice.disabled, HandshakeDevice.faulted, Bool.and_eq_true,
        Bool.not_eq_true', Bool.or_eq_false_iff, decide_eq_true_eq] at hdisabled
      refine ⟨hdisabled.1.2, hdisabled.1.1.1.2, ?_⟩
      by_contra hanswered
      have hunhandled := (h.unhandled hpending (Bool.eq_false_iff.2 hanswered)).1
      have hbound := h.target hpending ▸ h.bound
      rw [HandshakeDevice.resetComplete, roundToDouble_of_le (by omega)] at hcomplete
      simp only [hpending, Bool.and_eq_true, Bool.not_true, Bool.false_or,
        decide_eq_true_eq] at hcomplete
      omega
    · simp [HandshakeDevice.disabled, HandshakeDevice.faulted] at hdisabled

theorem startReset_generation {d : HandshakeDevice} (h : d.resetGeneration < 2 ^ 53) :
    d.startReset.resetGeneration = d.resetGeneration + 1 := by
  have hword : d.resetGeneration + 1 < 2 ^ 64 := by omega
  exact Nat.mod_eq_of_lt hword

theorem Inv.step (h : w.Inv) {label : HandshakeLabel} (hreset : w.ResetsAbreast label) :
    (w.step label).Inv := by
  cases label with
  | baseline =>
    rcases w.step_baseline with ⟨device, hstep, hpending, _, hcommand, hbound⟩ | hstep
    · rw [hstep]
      exact ⟨hcommand, hbound.le, by simp [hpending], by simp [hpending]⟩
    · rw [hstep]
      exact ⟨h.command, h.bound, h.target, h.unhandled⟩
  | update enable reset =>
    obtain ⟨hgeneration, htarget, hpending⟩ := w.requested_resets enable
    rw [step_update]
    split_ifs with hstart
    · obtain ⟨rfl, hfaulted⟩ := hstart
      obtain ⟨hhandled, hheld, hexact⟩ := hreset hfaulted
      have hnext := startReset_generation (hgeneration ▸ hexact)
      rw [hgeneration] at hnext
      have htarget : (w.requested enable).startReset.resetTarget = w.device.resetGeneration + 1 :=
        hnext
      refine ⟨rfl, hnext ▸ hexact, fun _ => rfl, fun _ _ => ?_⟩
      simp only [HandshakeDevice.write, htarget]
      exact ⟨Nat.lt_succ_of_le hhandled, fun hholds => (hheld hholds).trans (Nat.le_succ _)⟩
    · refine ⟨rfl, hgeneration ▸ h.bound, ?_, ?_⟩ <;>
        simp only [HandshakeDevice.write, hgeneration, htarget, hpending]
      · exact h.target
      · exact h.unhandled
  | deactivate => exact ⟨rfl, h.bound, h.target, h.unhandled⟩
  | tick now motors commandsValid =>
    refine ⟨h.command, h.bound, h.target, fun hpending hanswered => ?_⟩
    obtain ⟨actions, hmove⟩ := w.advanced_moves now motors commandsValid
    simp only [Handshake.step, Bool.or_eq_false_iff, decide_eq_false_iff_not] at hpending hanswered
    obtain ⟨hhandled, hheld⟩ := h.unhandled hpending hanswered.1
    have hwritten : w.written = w.device.resetTarget := h.written.trans (h.target hpending).symm
    rw [hwritten] at hmove
    exact ⟨hmove.unhandled hhandled hheld hanswered.2, (hmove.bounded le_rfl hhandled.le hheld).2⟩

theorem inv_start (c : Configuration) : (start c).Inv :=
  ⟨rfl, by simp [start], fun _ => rfl, by simp [start]⟩

/-- No baseline runs while a reset is in progress in the head, and the counter stays exact. -/
def Calm (w : Handshake) : HandshakeLabel → Prop
  | .baseline => ¬w.head.HoldsReset
  | .update _ true => w.device.resetGeneration < 2 ^ 53
  | _ => True

/-- The counter has kept up with the head. -/
structure KeepsUp (w : Handshake) : Prop where
  command : w.device.resetCommand = w.device.resetGeneration
  bound : w.device.resetGeneration ≤ 2 ^ 53
  handled : w.head.handledResetGeneration ≤ w.device.resetGeneration
  pending : w.head.HoldsReset → w.head.pendingResetGeneration ≤ w.device.resetGeneration

theorem KeepsUp.step (h : w.KeepsUp) {label : HandshakeLabel} (hcalm : w.Calm label) :
    (w.step label).KeepsUp := by
  cases label with
  | baseline =>
    rcases w.step_baseline with ⟨device, hstep, _, hgeneration, hcommand, hbound⟩ | hstep
    · rw [hstep]
      rw [roundToDouble_of_le (h.handled.trans h.bound)] at hgeneration
      exact ⟨hcommand, hbound.le, hgeneration.ge, fun hholds => absurd hholds hcalm⟩
    · rw [hstep]
      exact ⟨h.command, h.bound, h.handled, h.pending⟩
  | update enable reset =>
    have hgeneration := (w.requested_resets enable).1
    rw [step_update]
    split_ifs with hstart
    · obtain ⟨rfl, _⟩ := hstart
      have hexact : w.device.resetGeneration < 2 ^ 53 := hcalm
      have hnext := startReset_generation (hgeneration ▸ hexact)
      rw [hgeneration] at hnext
      exact ⟨rfl, hnext ▸ hcalm, hnext ▸ h.handled.trans (Nat.le_succ _),
        fun hholds => hnext ▸ (h.pending hholds).trans (Nat.le_succ _)⟩
    · exact ⟨rfl, hgeneration ▸ h.bound, hgeneration ▸ h.handled, hgeneration ▸ h.pending⟩
  | deactivate => exact ⟨rfl, h.bound, h.handled, h.pending⟩
  | tick now motors commandsValid =>
    obtain ⟨actions, hmove⟩ := w.advanced_moves now motors commandsValid
    have hwritten : w.written = w.device.resetGeneration := by
      rw [written, h.command, roundToDouble_of_le h.bound]
    obtain ⟨hhandled, hpending⟩ := hmove.bounded hwritten.le h.handled h.pending
    exact ⟨h.command, h.bound, hhandled, hpending⟩

theorem KeepsUp.resetsAbreast (h : w.KeepsUp) {label : HandshakeLabel} (hcalm : w.Calm label) :
    w.ResetsAbreast label := by
  cases label with
  | update enable reset =>
    cases reset with
    | false => trivial
    | true => exact fun _ => ⟨h.handled, h.pending, hcalm⟩
  | _ => trivial

end Handshake

/-- No reset request is lost as long as every reset is started with a counter that has not fallen
behind the head, and it falls behind only in a baseline during a reset. -/
theorem resets_not_lost (c : Configuration) :
    (∀ labels, Along Handshake.step Handshake.ResetsAbreast (.start c) labels →
      (run Handshake.step (.start c) labels).Sound) ∧
    ∀ labels, Along Handshake.step Handshake.Calm (.start c) labels →
      Along Handshake.step Handshake.ResetsAbreast (.start c) labels := by
  constructor
  · intro labels h
    have hinv := LabelledRun.invariant_run (P := Handshake.Inv)
      (fun _ _ hw hreset => hw.step hreset) (Handshake.inv_start c) h
    exact hinv.sound
  · intro labels h
    have hstart : (Handshake.start c).KeepsUp :=
      ⟨rfl, by simp [Handshake.start], le_rfl, fun _ => le_rfl⟩
    exact LabelledRun.Along.of_invariant (P := Handshake.KeepsUp)
      (fun _ _ hw hcalm => hw.step hcalm) (fun _ _ hw hcalm => hw.resetsAbreast hcalm) hstart h

namespace Handshake

/-- Both motors at one status, received at one time. -/
def report (status : ℕ) (receivedAt : ℤ) : Motor → MotorStatus :=
  fun _ => { valid := true, status, receivedAt }

/-- The head latches a fault of both motors. -/
def faulting (now : ℤ) : HandshakeLabel := .tick now (report 8 now) true

/-- A reset after a baseline in the middle of another one that failed. -/
def rebasedReset : List HandshakeLabel :=
  [.baseline, faulting 10, .update none true, .tick 20 (report 0 20) true, .baseline,
    .tick 60 (report 0 20) true, .update none true, .tick 70 (report 0 70) true,
    .tick 80 (report 0 80) true, .tick 90 (report 0 90) true]

theorem rebased_not_lost : (run step (start Resets.configuration) rebasedReset).Sound :=
  (resets_not_lost Resets.configuration).1 rebasedReset (by decide +kernel)

/-- The reset completes after a baseline in its middle, and the next fault precedes the head's
adoption of the restarted counter. -/
def overtakenReset : List HandshakeLabel :=
  [.baseline, faulting 10, .update none true, .tick 20 (report 0 20) true, .baseline,
    .tick 30 (report 0 30) true, .tick 40 (report 0 40) true, faulting 50, .update none true]

theorem overtaken_lost : ¬∀ c labels, (run step (start c) labels).Sound := by
  intro h
  have hstands := (h Resets.configuration overtakenReset).stands
  revert hstands
  decide +kernel

end Handshake

end RobotDriver.Head
