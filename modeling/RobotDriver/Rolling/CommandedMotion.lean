import RobotDriver.Rolling.TickMotion

/-!
# The motion of the commanded positions

Three consecutive commanded positions differ as the acceleration limit allows as long as every tick
moves the desired point by one period. A tick that begins a stop writes the previous point once
more, which the limit allows only when the arms are slow.
-/

namespace RobotDriver.Rolling

open RollingTrajectoryController LabelledRun

variable {K : Type*} [Field K] [LinearOrder K]

/-- The second differences of a list of positions, newest first, stay within a bound. -/
def SecondDifferences (bound : Axis → K) (log : List (Axis → K)) : Prop :=
  ∀ after p q r before, log = after ++ p :: q :: r :: before →
    ∀ axis, |p axis - 2 * q axis + r axis| ≤ bound axis

theorem secondDifferences_cons {bound : Axis → K} {log : List (Axis → K)} {p : Axis → K}
    (h : SecondDifferences bound log)
    (hhead : ∀ q r before, log = q :: r :: before →
      ∀ axis, |p axis - 2 * q axis + r axis| ≤ bound axis) : SecondDifferences bound (p :: log) := by
  intro after p' q r before hlog
  cases after with
  | nil =>
    obtain ⟨rfl, hrest⟩ := List.cons.inj hlog
    exact hhead q r before hrest
  | cons first after =>
    obtain ⟨-, hrest⟩ := List.cons.inj hlog
    exact h after p' q r before hrest

theorem SecondDifferences.newest {bound : Axis → K} {log : List (Axis → K)}
    (h : SecondDifferences bound log) : ∀ p ∈ log[0]?, ∀ q ∈ log[1]?, ∀ r ∈ log[2]?, ∀ axis,
      |p axis - 2 * q axis + r axis| ≤ bound axis := by
  match log with
  | [] | [_] | [_, _] => simp
  | p :: q :: r :: before =>
    rintro _ ⟨⟩ _ ⟨⟩ _ ⟨⟩
    exact h [] p q r before rfl

instance decidableHeads {α : Type*} (log : List α) (P : α → α → Prop)
    [∀ p q, Decidable (P p q)] : Decidable (∀ p q before, log = p :: q :: before → P p q) :=
  match log with
  | [] | [_] => .isTrue fun _ _ _ h => nomatch h
  | p :: q :: before => decidable_of_iff (P p q)
      ⟨fun h _ _ _ heq => by cases heq; exact h, fun h => h p q before rfl⟩

namespace RollingTrajectoryController

/-- What the motion of a moving session relies on. -/
structure Steady [FloorSemiring K] (c : RollingTrajectoryController K) : Prop where
  origin : c.rtSessionState = .running → c.executionTimeNs = 0 →
    c.rtDesired.velocities = fun _ => 0
  braking : c.rtSessionState = .stopping → ∃ point,
    Brakes c.configuration.limitChecker point c.rtStopTrajectory ∧
      c.rtStopTrajectory.state = .stopping ∧ CanStop c.configuration.limitChecker point ∧
        OnBrake c.configuration.limitChecker point c.rtStopElapsedNs c.rtDesired
  clock : c.stopReason ≠ .clockAnomaly

/-- The bound on the second differences for one period. -/
def differenceBound (c : RollingTrajectoryController K) (periodNs : ℕ) (axis : Axis) : K :=
  c.configuration.jointAccelerationLimits axis * seconds periodNs ^ 2

/-- The positions written so far, and how the last of them was approached. -/
structure Emits (c : RollingTrajectoryController K) (periodNs : ℕ) (log : List (Axis → K)) :
    Prop where
  differences : SecondDifferences (c.differenceBound periodNs) log
  last : ∀ p ∈ log.head?, p = c.desiredPositions
  held : c.rtDesired.positions = c.desiredPositions
  approach : ∀ p q before, log = p :: q :: before → ∀ axis,
    |p axis - q axis - c.rtDesired.velocities axis * seconds periodNs| ≤
        c.differenceBound periodNs axis / 2 ∨
      c.rtSessionState = .stopping ∧ c.rtStopElapsedNs = 0 ∧ p axis = q axis ∧
        |brakeDistance c.configuration.limitChecker c.rtDesired periodNs axis| ≤
          c.differenceBound periodNs axis

/-- What a tick does to the desired point. -/
inductive TickEffect (c : RollingTrajectoryController K) (periodNs : ℕ)
    (updated : RollingTrajectoryController K × Bool) : Prop
  | rests (positions : updated.1.rtDesired.positions = c.rtDesired.positions)
      (rest : c.rtDesired.velocities = fun _ => 0)
      (rest' : updated.1.rtDesired.velocities = fun _ => 0)
      (state : c.rtSessionState ≠ .stopping)
  | fails (failed : updated.2 = false) (desired : updated.1.rtDesired = c.rtDesired)
      (state : updated.1.rtSessionState = c.rtSessionState)
      (elapsed : updated.1.rtStopElapsedNs = c.rtStopElapsedNs)
  | moves (succeeded : updated.2 = true)
      (valid : updated.1.desiredIsValid updated.1.rtDesired = true)
      (motion : ∀ axis, BoundedMotion (c.configuration.jointAccelerationLimits axis)
        (seconds periodNs) (c.rtDesired.positions axis) (c.rtDesired.velocities axis)
        (updated.1.rtDesired.positions axis) (updated.1.rtDesired.velocities axis))
      (first : c.rtSessionState = .stopping → c.rtStopElapsedNs = 0 → ∀ axis,
        updated.1.rtDesired.positions axis - c.rtDesired.positions axis =
          brakeDistance c.configuration.limitChecker c.rtDesired periodNs axis)
  | brakes (succeeded : updated.2 = true)
      (valid : updated.1.desiredIsValid updated.1.rtDesired = true)
      (desired : updated.1.rtDesired = c.rtDesired) (running : c.rtSessionState = .running)
      (stopping : updated.1.rtSessionState = .stopping)
      (elapsed : updated.1.rtStopElapsedNs = 0)
      (time : updated.1.executionTimeNs = c.executionTimeNs)
  | lost (failed : updated.2 = false) (running : c.rtSessionState = .running)
      (time : updated.1.executionTimeNs ≠ c.executionTimeNs)

/-- The words that a tick changes only when it writes. -/
structure Unwritten (c c' : RollingTrajectoryController K) : Prop where
  configuration : c'.configuration = c.configuration
  positions : c'.desiredPositions = c.desiredPositions

/-- The words that the effect of a tick is measured against. -/
structure SameMotion (c c' : RollingTrajectoryController K) : Prop extends Unwritten c c' where
  desired : c'.rtDesired = c.rtDesired
  state : c'.rtSessionState = c.rtSessionState
  elapsed : c'.rtStopElapsedNs = c.rtStopElapsedNs
  time : c'.executionTimeNs = c.executionTimeNs

theorem TickEffect.of_same {c c' : RollingTrajectoryController K} {periodNs : ℕ}
    {updated : RollingTrajectoryController K × Bool} (h : TickEffect c' periodNs updated)
    (hsame : SameMotion c c') : TickEffect c periodNs updated := by
  obtain ⟨⟨hconfiguration, -⟩, hdesired, hstate, helapsed, htime⟩ := hsame
  cases h with
  | rests positions rest rest' state =>
    rw [hdesired] at positions rest
    rw [hstate] at state
    exact .rests positions rest rest' state
  | fails failed desired state elapsed =>
    exact .fails failed (desired.trans hdesired) (state.trans hstate) (elapsed.trans helapsed)
  | moves succeeded valid motion first =>
    rw [hconfiguration, hdesired] at motion first
    rw [hstate, helapsed] at first
    exact .moves succeeded valid motion first
  | brakes succeeded valid desired running stopping elapsed time =>
    exact .brakes succeeded valid (desired.trans hdesired) (hstate.symm.trans running) stopping
      elapsed (time.trans htime)
  | lost failed running time =>
    rw [htime] at time
    exact .lost failed (hstate.symm.trans running) time

end RollingTrajectoryController

namespace World

/-- A session that begins to stop without advancing has moved by no more than the bound in the last
period, and its braking curve does so in the first one. -/
def BrakesGently [FloorSemiring K] [SquareRoot K] (periodNs : ℕ) (w : World K)
    (label : Label K) : Prop :=
  w.controller.rtSessionState = .running → (w.step label).controller.rtSessionState = .stopping →
    (w.step label).controller.executionTimeNs = w.controller.executionTimeNs → ∀ axis,
      (∀ p q before, w.commanded = p :: q :: before →
        |p axis - q axis| ≤ w.controller.differenceBound periodNs axis) ∧
      |brakeDistance w.controller.configuration.limitChecker w.controller.rtDesired periodNs
        axis| ≤ w.controller.differenceBound periodNs axis

instance [FloorSemiring K] [SquareRoot K] (periodNs : ℕ) (w : World K) (label : Label K) :
    Decidable (w.BrakesGently periodNs label) :=
  inferInstanceAs (Decidable (_ → _ → _ → ∀ _, (∀ _ _ _, _ → _) ∧ _))

/-- A running session that advances its execution time writes its positions. -/
def WritesAdvance [FloorSemiring K] [SquareRoot K] (w : World K) (label : Label K) : Prop :=
  w.controller.rtSessionState = .running → (w.step label).commanded = w.commanded →
    (w.step label).controller.executionTimeNs = w.controller.executionTimeNs

instance [FloorSemiring K] [SquareRoot K] (w : World K) (label : Label K) :
    Decidable (w.WritesAdvance label) :=
  inferInstanceAs (Decidable (_ → _ → _))

end World

namespace RollingTrajectoryController

section Finish

variable [IsStrictOrderedRing K] {w : World K} {periodNs : ℕ}
  {updated : RollingTrajectoryController K × Bool}

theorem differenceBound_nonneg (c : RollingTrajectoryController K) (periodNs : ℕ) (axis : Axis) :
    0 ≤ c.differenceBound periodNs axis :=
  mul_nonneg (c.configuration.valid axis).accelerationPositive.le (sq_nonneg _)

theorem half_le_differenceBound (c : RollingTrajectoryController K) (periodNs : ℕ) (axis : Axis) :
    c.differenceBound periodNs axis / 2 ≤ c.differenceBound periodNs axis :=
  half_le_self (differenceBound_nonneg c periodNs axis)

omit [IsStrictOrderedRing K] in
theorem Emits.written {c c' : RollingTrajectoryController K} {log : List (Axis → K)}
    (h : c.Emits periodNs log) (hsame : Unwritten c c') {written : RollingTrajectoryController K}
    (hwritten : written = { c' with
      desiredPositions := c'.rtDesired.positions
      desiredVelocities := c'.rtDesired.velocities
      rtStateSessionEpoch := c'.rtObservedSessionEpoch })
    (hdifferences : ∀ q r before, log = q :: r :: before → ∀ axis,
      |c'.rtDesired.positions axis - 2 * q axis + r axis| ≤ c.differenceBound periodNs axis)
    (happroach : ∀ axis,
      |c'.rtDesired.positions axis - c.desiredPositions axis -
          c'.rtDesired.velocities axis * seconds periodNs| ≤ c.differenceBound periodNs axis / 2 ∨
        c'.rtSessionState = .stopping ∧ c'.rtStopElapsedNs = 0 ∧
          c'.rtDesired.positions axis = c.desiredPositions axis ∧
            |brakeDistance c.configuration.limitChecker c'.rtDesired periodNs axis| ≤
              c.differenceBound periodNs axis) :
    written.Emits periodNs (c'.rtDesired.positions :: log) := by
  subst hwritten
  have hbound : ∀ axis, differenceBound { c' with
      desiredPositions := c'.rtDesired.positions
      desiredVelocities := c'.rtDesired.velocities
      rtStateSessionEpoch := c'.rtObservedSessionEpoch } periodNs axis =
        c.differenceBound periodNs axis := by
    intro axis
    change c'.configuration.jointAccelerationLimits axis * _ = _
    rw [hsame.configuration]
    rfl
  constructor
  · have hfun : differenceBound { c' with
        desiredPositions := c'.rtDesired.positions
        desiredVelocities := c'.rtDesired.velocities
        rtStateSessionEpoch := c'.rtObservedSessionEpoch } periodNs =
          c.differenceBound periodNs := funext hbound
    rw [hfun]
    exact secondDifferences_cons h.differences hdifferences
  · intro p hp
    exact (Option.some.inj hp).symm
  · rfl
  · intro p q before hlog axis
    obtain ⟨rfl, hrest⟩ := List.cons.inj hlog
    have hlast : q = c.desiredPositions := h.last q (by rw [hrest]; rfl)
    rw [hbound, hlast]
    change _ ∨ c'.rtSessionState = .stopping ∧ c'.rtStopElapsedNs = 0 ∧ _ ∧
      |brakeDistance c'.configuration.limitChecker c'.rtDesired periodNs axis| ≤ _
    rw [hsame.configuration]
    exact happroach axis

omit [IsStrictOrderedRing K] in
theorem Emits.unwritten {c c' : RollingTrajectoryController K} {log : List (Axis → K)}
    (h : c.Emits periodNs log) (hsame : Unwritten c c')
    (hpositions : c'.rtDesired.positions = c.rtDesired.positions)
    (happroach : ∀ p q before, log = p :: q :: before → ∀ axis,
      |p axis - q axis - c'.rtDesired.velocities axis * seconds periodNs| ≤
          c.differenceBound periodNs axis / 2 ∨
        c'.rtSessionState = .stopping ∧ c'.rtStopElapsedNs = 0 ∧ p axis = q axis ∧
          |brakeDistance c.configuration.limitChecker c'.rtDesired periodNs axis| ≤
            c.differenceBound periodNs axis) : c'.Emits periodNs log := by
  have hbound : c'.differenceBound periodNs = c.differenceBound periodNs := by
    unfold differenceBound
    rw [hsame.configuration]
  constructor
  · rw [hbound]
    exact h.differences
  · rw [hsame.positions]
    exact h.last
  · rw [hpositions, hsame.positions]
    exact h.held
  · rw [hbound, hsame.configuration]
    exact happroach

omit [IsStrictOrderedRing K] in
theorem Emits.at_rest {c : RollingTrajectoryController K} {log : List (Axis → K)}
    (h : c.Emits periodNs log) (hrest : c.rtDesired.velocities = fun _ => 0)
    (hstate : c.rtSessionState ≠ .stopping) {p q : Axis → K} {before : List (Axis → K)}
    (hlog : log = p :: q :: before) (axis : Axis) :
    |p axis - q axis| ≤ c.differenceBound periodNs axis / 2 := by
  rcases h.approach p q before hlog axis with happroach | ⟨hstopping, -⟩
  · rw [hrest] at happroach
    simpa using happroach
  · exact absurd hstopping hstate

theorem Emits.finishTick (h : w.controller.Emits periodNs w.commanded)
    (hsame : Unwritten w.controller updated.1) (heffect : TickEffect w.controller periodNs updated)
    (hgentle : w.controller.rtSessionState = .running → updated.1.rtSessionState = .stopping →
      updated.1.executionTimeNs = w.controller.executionTimeNs → ∀ axis,
        (∀ p q before, w.commanded = p :: q :: before →
          |p axis - q axis| ≤ w.controller.differenceBound periodNs axis) ∧
        |brakeDistance w.controller.configuration.limitChecker w.controller.rtDesired periodNs
          axis| ≤ w.controller.differenceBound periodNs axis)
    (hwrites : updated.2 = false → w.controller.rtSessionState = .running →
      updated.1.executionTimeNs = w.controller.executionTimeNs) :
    (w.finishTick updated).controller.Emits periodNs (w.finishTick updated).commanded := by
  have hbound := differenceBound_nonneg w.controller periodNs
  have hhalf := half_le_differenceBound w.controller periodNs
  have hlast : ∀ q r before, w.commanded = q :: r :: before → q = w.controller.desiredPositions :=
    fun q r before hlog => h.last q (by rw [hlog]; rfl)
  unfold World.finishTick writeRtDesired
  cases heffect with
  | rests positions rest rest' state =>
    have hquiet := h.unwritten hsame positions fun p q before hlog axis => .inl (by
      rw [rest', zero_mul, sub_zero]
      exact h.at_rest rest state hlog axis)
    split
    · split
      · rename_i heq
        split at heq <;> cases heq
        exact hquiet
      · rename_i heq
        split at heq <;> cases heq
        refine h.written hsame rfl (fun q r before hlog axis => ?_) fun axis => .inl ?_
        · have hdistance := h.at_rest rest state hlog axis
          have hposition : updated.1.rtDesired.positions axis = q axis := by
            rw [positions, h.held, hlast q r before hlog]
          have heq : updated.1.rtDesired.positions axis - 2 * q axis + r axis =
              -(q axis - r axis) := by
            rw [hposition]
            ring
          rw [heq, abs_neg]
          exact hdistance.trans (hhalf axis)
        · rw [positions, h.held, rest', sub_self, zero_mul, sub_zero, abs_zero]
          exact div_nonneg (hbound axis) zero_le_two
    · exact hquiet
  | fails failed desired state elapsed =>
    rw [if_neg (Bool.not_eq_true _ ▸ failed)]
    refine h.unwritten hsame (by rw [desired]) fun p q before hlog axis => ?_
    rw [desired, state, elapsed]
    exact h.approach p q before hlog axis
  | moves succeeded valid motion first =>
    rw [if_pos succeeded, if_pos valid]
    have hmotion := fun axis => (motion axis).forward
    have hmotion' := fun axis => (motion axis).backward
    have hheld := h.held
    refine h.written hsame rfl (fun q r before hlog axis => ?_) fun axis => .inl ?_
    · have hq : w.controller.rtDesired.positions axis = q axis := by
        rw [hheld, hlast q r before hlog]
      have hforward := hmotion axis
      rw [hq] at hforward
      rcases h.approach q r before hlog axis with happroach | ⟨hstopping, helapsed, hsame', hfirst⟩
      · calc |updated.1.rtDesired.positions axis - 2 * q axis + r axis|
            = |(updated.1.rtDesired.positions axis - q axis -
                w.controller.rtDesired.velocities axis * seconds periodNs) +
              -(q axis - r axis - w.controller.rtDesired.velocities axis * seconds periodNs)| := by
              ring_nf
          _ ≤ |updated.1.rtDesired.positions axis - q axis -
                w.controller.rtDesired.velocities axis * seconds periodNs| +
              |-(q axis - r axis - w.controller.rtDesired.velocities axis * seconds periodNs)| :=
              abs_add_le _ _
          _ ≤ w.controller.differenceBound periodNs axis / 2 +
              w.controller.differenceBound periodNs axis / 2 := by
              rw [abs_neg]
              exact add_le_add hforward happroach
          _ = w.controller.differenceBound periodNs axis := add_halves _
      · have hdistance := first hstopping helapsed axis
        rw [hq] at hdistance
        have heq : updated.1.rtDesired.positions axis - 2 * q axis + r axis =
            updated.1.rtDesired.positions axis - q axis := by
          rw [← hsame']
          ring
        rw [heq, hdistance]
        exact hfirst
    · rw [← hheld]
      exact hmotion' axis
  | brakes succeeded valid desired running stopping elapsed time =>
    rw [if_pos succeeded, if_pos valid]
    have hguard := hgentle running stopping time
    have hheld := h.held
    refine h.written hsame rfl (fun q r before hlog axis => ?_) fun axis => .inr ?_
    · have hq : updated.1.rtDesired.positions axis = q axis := by
        rw [desired, hheld, hlast q r before hlog]
      have heq : updated.1.rtDesired.positions axis - 2 * q axis + r axis =
          -(q axis - r axis) := by
        rw [hq]
        ring
      rw [heq, abs_neg]
      exact (hguard axis).1 q r before hlog
    · refine ⟨stopping, elapsed, ?_, ?_⟩
      · rw [desired, hheld]
      · rw [desired]
        exact (hguard axis).2
  | lost failed running time => exact absurd (hwrites failed running) time

end Finish

section Effects

variable [FloorSemiring K] [IsStrictOrderedRing K] {c : RollingTrajectoryController K}

omit [FloorSemiring K] [IsStrictOrderedRing K] in
theorem accelerationLimit_eq (c : RollingTrajectoryController K) (axis : Axis) :
    c.configuration.limitChecker.accelerationLimit axis =
      c.configuration.jointAccelerationLimits axis :=
  max_self _

omit [FloorSemiring K] [IsStrictOrderedRing K] in
theorem stopAcceleration_eq (c : RollingTrajectoryController K) (axis : Axis) (velocity : K) :
    (c.configuration.limitChecker.envelope axis).stopAcceleration velocity =
      c.configuration.jointAccelerationLimits axis :=
  ite_self _

omit [FloorSemiring K] [IsStrictOrderedRing K] in
theorem recordStopReason_clock (h : c.stopReason ≠ .clockAnomaly) {reason : StopReason}
    (hreason : reason ≠ .clockAnomaly) : (c.recordStopReason reason).stopReason ≠ .clockAnomaly := by
  change (if c.stopReason = .none then reason else c.stopReason) ≠ .clockAnomaly
  split
  · exact hreason
  · exact h

theorem steady_beginRtStop {reason : StopReason}
    (horigin : c.rtSessionState = .running → c.executionTimeNs = 0 →
      c.rtDesired.velocities = fun _ => 0)
    (hclock : c.stopReason ≠ .clockAnomaly) (hreason : reason ≠ .clockAnomaly)
    (hstate : c.rtSessionState = .priming ∨ c.rtSessionState = .running)
    (hchecker : c.rtStopTrajectory.limitChecker = c.configuration.limitChecker)
    (hvalid : c.rtDesired.velocities ≠ (fun _ => 0) → c.desiredIsValid c.rtDesired = true) :
    (c.beginRtStop reason).1.Steady := by
  have hcases := beginRtStop_cases reason hstate hchecker
  have hclock' := recordStopReason_clock hclock hreason
  generalize c.beginRtStop reason = updated at hcases
  cases hcases with
  | refused =>
    refine ⟨horigin, fun hstopping => ?_, hclock'⟩
    rcases hstate with h | h <;> exact nomatch h.symm.trans hstopping
  | rests => exact ⟨fun h => (nomatch h), fun h => (nomatch h), hclock'⟩
  | stops begins moving =>
    rw [hchecker] at begins moving
    refine ⟨fun h => (nomatch h), fun _ => ⟨c.rtDesired, begins.brakes, ?_, ⟨?_, begins.terminal⟩,
      OnBrake.begins moving⟩, hclock'⟩
    · exact begins.state.trans (if_neg moving)
    · refine hvalid fun hrest => moving ?_
      rw [hrest]
      exact stopSeconds_rest _

theorem effect_beginRtStop (reason : StopReason) (periodNs : ℕ)
    (hstate : c.rtSessionState = .priming ∧ c.rtDesired.velocities = (fun _ => 0) ∨
      c.rtSessionState = .running ∧ c.desiredIsValid c.rtDesired = true)
    (hchecker : c.rtStopTrajectory.limitChecker = c.configuration.limitChecker) :
    Unwritten c (c.beginRtStop reason).1 ∧ TickEffect c periodNs (c.beginRtStop reason) := by
  have hcases := beginRtStop_cases reason (hstate.imp And.left And.left) hchecker
  generalize c.beginRtStop reason = updated at hcases
  cases hcases with
  | refused => exact ⟨⟨rfl, rfl⟩, .fails rfl rfl rfl rfl⟩
  | rests rest =>
    refine ⟨⟨rfl, rfl⟩, .rests rfl rest rest fun hstopping => ?_⟩
    rcases hstate with ⟨h, -⟩ | ⟨h, -⟩ <;> exact nomatch h.symm.trans hstopping
  | stops begins moving =>
    rcases hstate with ⟨-, hrest⟩ | ⟨hrunning, hvalid⟩
    · rw [hrest] at moving
      exact absurd (stopSeconds_rest _) moving
    · exact ⟨⟨rfl, rfl⟩, .brakes rfl hvalid rfl hrunning rfl rfl rfl⟩

omit [FloorSemiring K] [IsStrictOrderedRing K] in
theorem validPeriod_pos {periodNs : ℤ} (h : c.configuration.validPeriod periodNs = true) :
    0 < periodNs.toNat := by
  simp only [RuntimeConfiguration.validPeriod, Bool.and_eq_true, decide_eq_true_eq] at h
  omega

theorem effect_advanced_beginRtStop (c' : RollingTrajectoryController K) (reason : StopReason)
    {periodNs : ℕ} (hrunning : c.rtSessionState = .running) (hsame : Unwritten c c')
    (hstate : c'.rtSessionState = .running)
    (hchecker : c'.rtStopTrajectory.limitChecker = c'.configuration.limitChecker)
    (htime : c'.executionTimeNs ≠ c.executionTimeNs)
    (hvalid : c'.desiredIsValid c'.rtDesired = true)
    (hmotion : ∀ axis, BoundedMotion (c.configuration.jointAccelerationLimits axis)
      (seconds periodNs) (c.rtDesired.positions axis) (c.rtDesired.velocities axis)
      (c'.rtDesired.positions axis) (c'.rtDesired.velocities axis)) :
    Unwritten c (c'.beginRtStop reason).1 ∧ TickEffect c periodNs (c'.beginRtStop reason) := by
  have hcases := beginRtStop_cases reason (.inr hstate) hchecker
  have hnotStopping : c.rtSessionState ≠ .stopping := by
    rw [hrunning]
    exact SessionState.noConfusion
  generalize c'.beginRtStop reason = updated at hcases
  cases hcases with
  | refused => exact ⟨⟨hsame.configuration, hsame.positions⟩, .lost rfl hrunning htime⟩
  | rests | stops =>
    exact ⟨⟨hsame.configuration, hsame.positions⟩, .moves rfl hvalid hmotion
      fun hstopping => absurd hstopping hnotStopping⟩

theorem effect_advanceRtStop (hsteady : c.Steady) (hstate : c.rtSessionState = .stopping)
    {periodNs : ℤ} (hperiod : c.configuration.validPeriod periodNs = true) :
    Unwritten c (c.advanceRtStop periodNs).1 ∧
      TickEffect c periodNs.toNat (c.advanceRtStop periodNs) ∧
        (c.advanceRtStop periodNs).1.Steady := by
  obtain ⟨point, hbrakes, hstopping, hcan, hon⟩ := hsteady.braking hstate
  have hpos := validPeriod_pos hperiod
  have hcases := advanceRtStop_cases c periodNs
  have hincrement : c.stopIncrementNs periodNs = periodNs.toNat :=
    if_pos ⟨hsteady.clock, hperiod⟩
  rw [hincrement] at hcases
  have hvalidSample : ∀ {candidate stop}, c.rtStopTrajectory.sample
      (c.rtStopElapsedNs + periodNs.toNat) = some (candidate, stop) →
        c.desiredIsValid candidate = true ∧
          Brakes c.configuration.limitChecker point stop := by
    intro candidate stop hsample
    have htime : point.timeNs + (c.rtStopElapsedNs + periodNs.toNat) ≤ maxUint64 ∨
        maxUint64 - point.timeNs < c.rtStopElapsedNs + periodNs.toNat := by
      omega
    rcases htime with htime | htime
    · obtain ⟨sampled, stop', hsampled, hbrakes', hvalid, -⟩ := hcan.sample_eq hbrakes htime
      rw [hsample] at hsampled
      cases hsampled
      exact ⟨hvalid, hbrakes'⟩
    · unfold StopTrajectory.sample at hsample
      rw [hbrakes.start, if_neg hbrakes.state, if_pos htime] at hsample
      cases hsample
  generalize c.advanceRtStop periodNs = updated at hcases
  cases hcases with
  | refused => exact ⟨⟨rfl, rfl⟩, .fails rfl rfl rfl rfl, hsteady⟩
  | invalid sample invalid => exact absurd (hvalidSample sample).1 invalid
  | moves sample valid =>
    rename_i candidate stop
    obtain ⟨hmotion, hfirst, hnext⟩ := hon.sample hbrakes hstopping sample fun axis =>
      (stopAcceleration_eq c axis _).le
    refine ⟨⟨rfl, rfl⟩, .moves rfl valid hmotion fun _ hzero axis => ?_,
      fun hrunning => ?_, fun hstate' => ?_, hsteady.clock⟩
    · have hvelocities : c.rtDesired.velocities = point.velocities := by
        funext axis
        rw [hon.velocities, hzero, seconds_zero, mul_zero, add_zero]
      have hdistance : brakeDistance c.configuration.limitChecker c.rtDesired periodNs.toNat axis =
          brakeDistance c.configuration.limitChecker point periodNs.toNat axis := by
        simp only [brakeDistance, StopTrajectory.stopAccelerations, hvelocities]
      rw [hdistance]
      exact hfirst hzero axis
    · dsimp only at hrunning
      split at hrunning
      · cases hrunning
      · cases hstate.symm.trans hrunning
    · rcases hnext with hholding | ⟨rfl, hon'⟩
      · dsimp only at hstate'
        rw [if_pos hholding] at hstate'
        cases hstate'
      · exact ⟨point, (hvalidSample sample).2, hstopping, hcan, hon'⟩

variable [SquareRoot K]

theorem effect_updateRunning {image : TrajectoryImage K} (hcore : c.Core) (hruns : c.Runs image)
    (hrunning : c.rtSessionState = .running) (hsteady : c.Steady) {periodNs : ℤ}
    (hperiod : c.configuration.validPeriod periodNs = true) (nowNs : ℕ) :
    Unwritten c (c.updateRunning periodNs nowNs).1 ∧
      TickEffect c periodNs.toNat (c.updateRunning periodNs nowNs) ∧
        (c.updateRunning periodNs nowNs).1.Steady := by
  have hpos := validPeriod_pos hperiod
  have hnotStopping : c.rtSessionState ≠ .stopping := by
    rw [hrunning]
    exact SessionState.noConfusion
  have hadvance : ∀ {candidate cursor},
      Advances c image (c.executionTimeNs + periodNs.toNat) candidate cursor → ∀ axis,
        BoundedMotion (c.configuration.jointAccelerationLimits axis) (seconds periodNs.toNat)
          (c.rtDesired.positions axis) (c.rtDesired.velocities axis)
          (candidate.positions axis) (candidate.velocities axis) := by
    intro candidate cursor hadvances axis
    obtain ⟨hfrom, hto, hmoves⟩ := hruns.sound.movesWithin hruns.desired hadvances.sample
      (Nat.le_add_right _ _)
    have hmotion := hmoves.axis axis
    rw [hfrom, hto, Nat.add_sub_cancel_left, accelerationLimit_eq] at hmotion
    exact hmotion
  have hcases := updateRunning_cases periodNs nowNs hruns.active
    hruns.sound.points.increasing hruns.cursor
  generalize c.updateRunning periodNs nowNs = updated at hcases
  cases hcases with
  | stop fits reason clock =>
    rename_i cursor
    have heffect := effect_beginRtStop (c := { c with rtSamplingCursor := cursor })
      reason periodNs.toNat (.inr ⟨hrunning, hruns.valid⟩) hcore.stopChecker
    have hnext := steady_beginRtStop (c := { c with rtSamplingCursor := cursor })
      hsteady.origin hsteady.clock (clock hperiod) (.inr hrunning) hcore.stopChecker
      fun _ => hruns.valid
    exact ⟨⟨heffect.1.configuration, heffect.1.positions⟩,
      heffect.2.of_same ⟨⟨rfl, rfl⟩, rfl, rfl, rfl, rfl⟩, hnext⟩
  | advance advances boundary =>
    refine ⟨⟨rfl, rfl⟩, .moves rfl advances.valid (hadvance advances)
      fun hstopping => absurd hstopping hnotStopping, fun _ hzero => ?_,
      fun hstopping => absurd hstopping hnotStopping, hsteady.clock⟩
    change c.executionTimeNs + periodNs.toNat = 0 at hzero
    omega
  | overflow advances boundary =>
    rename_i candidate cursor
    have htime : c.executionTimeNs + periodNs.toNat ≠ c.executionTimeNs := by omega
    have heffect := effect_advanced_beginRtStop { c with
        rtSamplingCursor := cursor
        rtDesired := candidate
        executionTimeNs := c.executionTimeNs + periodNs.toNat } .internalInvariant
      hrunning ⟨rfl, rfl⟩ hrunning hcore.stopChecker htime advances.valid (hadvance advances)
    refine ⟨heffect.1, heffect.2, steady_beginRtStop (fun _ hzero => ?_) hsteady.clock
      StopReason.noConfusion (.inr hrunning) hcore.stopChecker fun _ => advances.valid⟩
    change c.executionTimeNs + periodNs.toNat = 0 at hzero
    omega
  | complete final le advances =>
    rename_i candidate cursor
    obtain ⟨last, hlast, hbuffered⟩ := hruns.last_isSome
    have hcovered : c.executionTimeNs ≤ c.bufferedUntilNs := by
      have hdesired := hruns.desired
      rw [sampleTrajectoryImage_eq] at hdesired
      split at hdesired
      · rename_i hcovers
        obtain ⟨other, hother, hle⟩ := (TrajectoryImage.covers_iff.1 hcovers).2
        obtain rfl : last = other := Option.some.inj (hlast.symm.trans hother)
        rwa [hbuffered]
      · cases hdesired
    have hrest := hruns.rest_of_final final advances.sample
    obtain ⟨hfrom, hto, hmoves⟩ := hruns.sound.movesWithin hruns.desired advances.sample hcovered
    have hsplit : (seconds (c.bufferedUntilNs - c.executionTimeNs) : K) +
        seconds (c.executionTimeNs + periodNs.toNat - c.bufferedUntilNs) =
          seconds periodNs.toNat := by
      rw [← seconds_add]
      congr 1
      omega
    refine ⟨⟨rfl, rfl⟩, .moves rfl advances.valid (fun axis => ?_)
      fun hstopping => absurd hstopping hnotStopping, fun h => (nomatch h), fun h => (nomatch h),
      recordStopReason_clock hsteady.clock StopReason.noConfusion⟩
    have hmotion := hmoves.axis axis
    rw [hfrom, hto, accelerationLimit_eq, hrest] at hmotion
    have hlimit := (c.configuration.valid axis).accelerationPositive.le
    have hwhole := hmotion.trans (boundedMotion_rest hlimit
      (seconds_nonneg (c.executionTimeNs + periodNs.toNat - c.bufferedUntilNs)))
    rw [hsplit] at hwhole
    change BoundedMotion _ _ _ _ (candidate.positions axis) (candidate.velocities axis)
    rw [hrest]
    exact hwhole

omit [FloorSemiring K] [IsStrictOrderedRing K] in
theorem sameMotion_consume (hcore : c.Core) (hrunning : c.rtSessionState = .running) :
    SameMotion c (c.consumeLatestRtTrajectory false).1 ∧
      (c.consumeLatestRtTrajectory false).1.stopReason = c.stopReason := by
  by_cases haccepted : (c.consumeLatestRtTrajectory false).2 = .accepted
  · have heq : c.consumeLatestRtTrajectory false =
        ((c.consumeLatestRtTrajectory false).1, .accepted) := Prod.ext rfl haccepted
    obtain ⟨-, -, -, -, hdesired⟩ := accepted_running hcore hrunning heq
    obtain ⟨_, _, _, _, -, -, htakes⟩ := consume_eq_accepted heq
    have htaken := htakes.eq_taken
    rw [htaken] at hdesired ⊢
    exact ⟨⟨⟨rfl, rfl⟩, hdesired, rfl, rfl, rfl⟩, rfl⟩
  · rw [consumption_keeps (consume_cases c false) haccepted]
    exact ⟨⟨⟨rfl, rfl⟩, rfl, rfl, rfl, rfl⟩, rfl⟩

theorem effect_updateBody {state : SessionState} (hcore : c.Core) (hstill : c.Still)
    (hcaptured : Captured c state) (hreset : state = .priming → c.RtReset) (hsteady : c.Steady)
    {periodNs : ℤ} (hperiod : c.configuration.validPeriod periodNs = true) (busy : Bool)
    (nowNs : ℕ) :
    Unwritten c (World.updateBody c busy state periodNs nowNs).1 ∧
      TickEffect c periodNs.toNat (World.updateBody c busy state periodNs nowNs) ∧
        (World.updateBody c busy state periodNs nowNs).1.Steady := by
  have hrest : ¬c.Moving → Unwritten c { c with rtDesired.velocities := fun _ => 0 } ∧
      TickEffect c periodNs.toNat ({ c with rtDesired.velocities := fun _ => 0 }, true) ∧
        Steady { c with rtDesired.velocities := fun _ => 0 } := fun hmoving =>
    ⟨⟨rfl, rfl⟩, .rests rfl (hstill hmoving).2 rfl fun hstopping => hmoving (.inr hstopping),
      fun _ _ => rfl, fun hstopping => absurd (.inr hstopping) hmoving, hsteady.clock⟩
  cases state with
  | priming =>
    have hmoving := not_moving_of_priming hcaptured
    obtain ⟨hpositions, hvelocities⟩ := hstill hmoving
    have hnotStopping : c.rtSessionState ≠ .stopping := fun hstopping => hmoving (.inr hstopping)
    unfold World.updateBody
    dsimp only
    split
    · exact ⟨⟨rfl, rfl⟩, .rests rfl hvelocities hvelocities hnotStopping, hsteady⟩
    by_cases haccepted : (c.consumeLatestRtTrajectory true).2 = .accepted
    · have heq : c.consumeLatestRtTrajectory true =
          ((c.consumeLatestRtTrajectory true).1, .accepted) := Prod.ext rfl haccepted
      obtain ⟨-, -, -, -, -, hdesired⟩ :=
        accepted_priming hcore hcaptured (hreset rfl) heq
      obtain ⟨_, _, _, _, -, -, htakes⟩ := consume_eq_accepted heq
      generalize (c.consumeLatestRtTrajectory true).1 = taken at heq hdesired htakes
      rw [heq]
      have htaken := htakes.eq_taken
      have hrest' : taken.rtDesired.velocities = fun _ => 0 := by
        rw [hdesired]
        rfl
      refine ⟨⟨?_, ?_⟩, .rests ?_ hvelocities hrest' hnotStopping, fun _ _ => hrest',
        fun hstopping => ?_, ?_⟩
      · rw [htaken]
      · rw [htaken]
      · rw [hdesired, hpositions]
        rfl
      · rw [htaken] at hstopping
        cases hstopping
      · rw [htaken]
        exact hsteady.clock
    · have hconsumed := consumption_keeps (consume_cases c true) haccepted
      cases hresult : (c.consumeLatestRtTrajectory true).2 with
      | accepted => exact absurd hresult haccepted
      | noChange =>
        rw [show c.consumeLatestRtTrajectory true = ({ c with unread := none }, .noChange) from
          Prod.ext hconsumed hresult]
        exact ⟨⟨rfl, rfl⟩, .rests rfl hvelocities hvelocities hnotStopping, { hsteady with }⟩
      | invalid =>
        rw [show c.consumeLatestRtTrajectory true = ({ c with unread := none }, .invalid) from
          Prod.ext hconsumed hresult]
        have heffect := effect_beginRtStop (c := { c with unread := none })
          .internalInvariant periodNs.toNat (.inl ⟨hcaptured, hvelocities⟩)
          hcore.stopChecker
        exact ⟨⟨heffect.1.configuration, heffect.1.positions⟩,
          heffect.2.of_same ⟨⟨rfl, rfl⟩, rfl, rfl, rfl, rfl⟩,
          steady_beginRtStop hsteady.origin hsteady.clock StopReason.noConfusion (.inl hcaptured)
            hcore.stopChecker fun hne => absurd hvelocities hne⟩
  | running =>
    have hnotStopping : c.rtSessionState ≠ .stopping := fun hstopping =>
      nomatch hstopping.symm.trans hcaptured
    unfold World.updateBody
    dsimp only
    split
    · rename_i hskip
      have hvelocities := hsteady.origin hcaptured hskip.1
      exact ⟨⟨rfl, rfl⟩, .rests rfl hvelocities hvelocities hnotStopping, hsteady⟩
    obtain ⟨image, hruns⟩ := hcore.running hcaptured
    obtain ⟨hsame, hreason⟩ := sameMotion_consume hcore hcaptured
    have hcases := consume_cases c false
    generalize c.consumeLatestRtTrajectory false = consumed at hcases hsame hreason
    obtain ⟨hcore', -, hrunning, image', hruns', -⟩ :=
      runs_of_consumption hcore hruns hcaptured hcases
    have hsteady' : consumed.1.Steady := by
      refine ⟨fun _ hzero => ?_, fun hstopping => ?_, ?_⟩
      · rw [hsame.desired]
        exact hsteady.origin hcaptured (hsame.time.symm.trans hzero)
      · exact nomatch hrunning.symm.trans hstopping
      · rw [hreason]
        exact hsteady.clock
    have hperiod' : consumed.1.configuration.validPeriod periodNs = true := by
      rw [hsame.configuration]
      exact hperiod
    have hconvert : ∀ {updated : RollingTrajectoryController K × Bool},
        Unwritten consumed.1 updated.1 ∧ TickEffect consumed.1 periodNs.toNat updated ∧
          updated.1.Steady →
        Unwritten c updated.1 ∧ TickEffect c periodNs.toNat updated ∧ updated.1.Steady :=
      fun ⟨hunwritten, heffect, hnext⟩ =>
        ⟨⟨hunwritten.configuration.trans hsame.configuration,
          hunwritten.positions.trans hsame.positions⟩, heffect.of_same hsame, hnext⟩
    have hupdate := hconvert (effect_updateRunning hcore' hruns' hrunning hsteady' hperiod' nowNs)
    cases hcases with
    | unchanged => exact hupdate
    | invalid =>
      have heffect := effect_beginRtStop (c := { c with unread := none })
        .internalInvariant periodNs.toNat (.inr ⟨hrunning, hruns'.valid⟩)
        hcore'.stopChecker
      exact hconvert ⟨heffect.1, heffect.2, steady_beginRtStop hsteady'.origin hsteady'.clock
        StopReason.noConfusion (.inr hrunning) hcore'.stopChecker fun _ => hruns'.valid⟩
    | accepted => exact hupdate
  | stopping => exact effect_advanceRtStop hsteady hcaptured hperiod
  | none => exact hrest hcaptured
  | holding => exact hrest hcaptured
  | terminated => exact absurd hcaptured fun h => h

end Effects

end RollingTrajectoryController

end RobotDriver.Rolling
