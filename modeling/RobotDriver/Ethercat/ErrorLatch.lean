import RobotDriver.Ethercat.KincoRun

/-!
# What a latched error inhibits

The exits of the start hook that come before the latch is looked at put the requested control word
out as it is.
-/

namespace RobotDriver.Ethercat

open LabelledRun (Along run)

/-- The word does not enable and no velocity is asked for. -/
def KincoOutput.Inhibited (output : KincoOutput) : Prop :=
  requestsEnable output.controlWord = false ∧ output.velocity = 0

instance (output : KincoOutput) : Decidable output.Inhibited := inferInstanceAs (Decidable (_ ∧ _))

namespace KincoCyclicModeSlave

variable {K : Type*} [Field K] [LinearOrder K] [FloorRing K] (s : KincoCyclicModeSlave K)

/-- The start hook leaves before it looks at the latch, with an enable or a velocity to put out. -/
def Bypasses (complete : Bool) (now : ℤ) : Prop :=
  s.isOperational = true ∧ s.startupSeedSent = true ∧
    if complete then
      s.enableRequested = true ∧
        (s.haveInputs = false ∨ (s.prepare complete now).feedbackFresh now = false ∨
          s.displaysMode = false)
    else
      s.incompleteCycles ≤ maxRideThroughCycles ∧
        (s.enableRequested = true ∨ s.lastSentVelocityRaw ≠ 0)

instance (complete : Bool) (now : ℤ) : Decidable (s.Bypasses complete now) :=
  inferInstanceAs (Decidable (_ ∧ _ ∧ _))

omit [FloorRing K] in
theorem inhibited_inhibitOperation : s.inhibitOperation.output.Inhibited := by
  refine ⟨?_, rfl⟩
  simp only [inhibitOperation]
  split_ifs with h
  · decide
  · exact Bool.eq_false_iff.2 h

theorem requestsEnable_prepare (complete : Bool) (now : ℤ) :
    requestsEnable (s.prepare complete now).output.controlWord = true ↔
      s.isOperational = true ∧ s.startupSeedSent = true ∧
        (complete = true ∨ s.rideThrough complete = true) ∧ s.enableRequested = true := by
  have h7 : requestsEnable 0x0007#16 = false := by decide
  have h0 : requestsEnable 0#16 = false := by decide
  simp only [prepare, enableRequested]
  cases s.isOperational <;> cases s.startupSeedSent <;> cases complete <;>
    cases s.rideThrough _ <;> simp [h0]
  all_goals split_ifs <;> simp_all

theorem inhibited_prepare (complete : Bool) (now : ℤ) :
    (s.prepare complete now).output.Inhibited ↔
      ¬(s.isOperational = true ∧ s.startupSeedSent = true ∧
        (complete = true ∨ s.rideThrough complete = true) ∧ s.enableRequested = true) := by
  rw [← s.requestsEnable_prepare complete now, Bool.not_eq_true]
  exact and_iff_left rfl

theorem inhibited_seededCycle (hlatched : s.errorLatched = true) (hvelocity : s.output.velocity = 0)
    (hword : requestsEnable s.output.controlWord = true → s.enableRequested = true) (now : ℤ) :
    (s.seededCycle now).output.Inhibited := by
  by_cases hkept : s.isOperationEnabled = true ∨ s.enableRequested = true
  · have hlatch : s.tracked.errorLatched = true := by
      unfold tracked
      split_ifs with h
      · have henable := hkept.resolve_left (by simpa using h)
        simp [trackDisabled, hlatched, henable]
      · exact hlatched
    rw [seededCycle, unlatchedCycle, if_pos hlatch]
    exact inhibited_inhibitOperation _
  · obtain ⟨hdisabled, hrequest⟩ := not_or.1 hkept
    have hdown : s.output.Inhibited := ⟨Bool.eq_false_iff.2 fun h => hrequest (hword h), hvelocity⟩
    have htrack : s.tracked = s.trackDisabled := if_pos (by simpa using hdisabled)
    have hclear : s.trackDisabled.errorLatched = false := by simp [trackDisabled, hrequest]
    have hstill : s.trackDisabled.isOperationEnabled = false := by
      simpa [trackDisabled, isOperationEnabled] using hdisabled
    rw [seededCycle, htrack, unlatchedCycle, if_neg (by simp [hclear])]
    split_ifs
    · exact hdown
    · exact hdown
    · simp_all
    · simp_all

theorem inhibited_start_iff (hlatched : s.errorLatched = true) (complete : Bool) (now : ℤ) :
    (s.onPdoCycleStart complete now).output.Inhibited ↔ ¬s.Bypasses complete now := by
  have hprepared := s.inhibited_prepare complete now
  have hexit := s.startExit complete now
  generalize s.onPdoCycleStart complete now = next at hexit
  cases hexit with
  | rides hride =>
    have hword : requestsEnable (s.prepare false now).repeatLast.output.controlWord = true ↔
        s.enableRequested = true := by
      refine (s.requestsEnable_prepare false now).trans ?_
      simp only [rideThrough, Bool.and_eq_true] at hride
      simp [rideThrough, hride.1.1.2, hride.1.2, hride.2]
    have hvelocity : (s.prepare false now).repeatLast.output.velocity = s.lastSentVelocityRaw := rfl
    simp only [rideThrough, Bool.and_eq_true, decide_eq_true_eq] at hride
    rw [KincoOutput.Inhibited, hvelocity, ← Bool.not_eq_true, hword]
    simp [Bypasses, hride.1.1.2, hride.1.2, hride.2]
  | lost hstrict =>
    refine Iff.trans hprepared (iff_of_true (by simp [hstrict]) ?_)
    rintro ⟨hoperational, hseeded, hcycles, _⟩
    simp [rideThrough, hoperational, hseeded, hcycles] at hstrict
  | incomplete hdown =>
    refine Iff.trans hprepared ?_
    rcases hdown with hdown | hdown <;> simp [Bypasses, hdown]
  | stale hoperational hinputs hstale =>
    refine Iff.trans hprepared ?_
    simp [Bypasses, hoperational, hinputs, hstale]
  | seeds hvalid hunseeded =>
    refine Iff.trans hprepared ?_
    simp [Bypasses, hunseeded]
  | seeded hvalid hseeded =>
    have hnot : ¬s.Bypasses true now := by
      rintro ⟨_, _, _, h⟩
      simp [hvalid.inputs, hvalid.fresh, hvalid.displays] at h
    refine iff_of_true (inhibited_seededCycle ((s.prepare true now).ageFeedback now) hlatched rfl
      (fun hword => ?_) now) hnot
    exact ((s.requestsEnable_prepare true now).1 hword).2.2.2

/-- A cycle that begins with a latched error sends no enable and no velocity. -/
def LatchInhibits : KincoLabel K → Prop
  | .cycle c => s.errorLatched = true → (s.started c).output.Inhibited
  | .operational _ => True

/-- No cycle that begins with a latched error leaves before the latch is looked at. -/
def LatchReached : KincoLabel K → Prop
  | .cycle c => s.errorLatched = true → ¬(s.atStart c).Bypasses c.complete c.startAt
  | .operational _ => True

instance (s : KincoCyclicModeSlave ℚ) : ∀ label, Decidable (s.LatchInhibits label)
  | .cycle _ => inferInstanceAs (Decidable (_ → _))
  | .operational _ => .isTrue trivial

omit [FloorRing K] in
theorem errorLatched_processInputs (h : s.errorLatched = true) (inputs : List Input) :
    (s.processInputs inputs).errorLatched = true := by
  induction inputs generalizing s with
  | nil => exact h
  | cons input inputs ih =>
    refine ih _ ?_
    unfold processInput countFeedback clearHandoff
    split_ifs <;> cases input <;> simp [store, h]

omit [FloorRing K] in
theorem errorLatched_atStart (h : s.errorLatched = true) (c : KincoCycle K) :
    (s.atStart c).errorLatched = true := by
  have hread : (s.readData c).errorLatched = true := by
    unfold readData
    split
    · apply errorLatched_processInputs
      unfold onPdoCycleRead clearHandoff
      dsimp only
      split_ifs <;> simp [h]
    · exact h
  exact hread

theorem latchInhibits_iff (label : KincoLabel K) : s.LatchInhibits label ↔ s.LatchReached label := by
  cases label with
  | cycle c =>
    refine forall_congr' fun hlatched => ?_
    exact inhibited_start_iff _ (s.errorLatched_atStart hlatched c) c.complete c.startAt
  | operational => exact Iff.rfl

end KincoCyclicModeSlave

/-- A latched error inhibits operation in exactly the runs in which no cycle leaves the start hook
before the latch. -/
theorem error_inhibits_iff {K : Type*} [Field K] [LinearOrder K] [FloorRing K]
    (config : KincoConfig K) (commands : KincoCommands K) (labels : List (KincoLabel K)) :
    Along KincoCyclicModeSlave.step (fun s => s.LatchInhibits) (.start config commands) labels ↔
      Along KincoCyclicModeSlave.step (fun s => s.LatchReached) (.start config commands) labels :=
  ⟨LabelledRun.Along.mono fun s label => (s.latchInhibits_iff label).1,
    LabelledRun.Along.mono fun s label => (s.latchInhibits_iff label).2⟩

namespace Kinco

/-- Enabled in velocity mode, an unknown mode is requested, and then a frame is lost. -/
def latchedLoss : List (KincoLabel ℚ) :=
  [.operational true, observing 0x0021 350 kCsv 1 [],
    observing 0x0027 350 kCsv 2 [.controlWord (.finite 15), .mode (.finite 3)], losing 3]

theorem loss_restores_enable :
    ¬∀ (config : KincoConfig ℚ) commands labels,
      Along KincoCyclicModeSlave.step (fun s => s.LatchInhibits) (.start config commands)
        labels := by
  intro h
  have hrun := h (configuration kCsv (.inr rfl)) commands latchedLoss
  revert hrun
  decide +kernel

end Kinco

end RobotDriver.Ethercat
