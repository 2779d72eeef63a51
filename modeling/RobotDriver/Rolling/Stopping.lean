import RobotDriver.Lib.BoundedMotion
import RobotDriver.Rolling.Controller
import RobotDriver.Rolling.Sampling

/-!
# Stops from a desired point

A stop from a point whose stopping distance is safe begins, stays within the limits at every sample
and ends at rest. The realtime stop samples it at the accumulated increments.
-/

namespace RobotDriver.Rolling

variable {K : Type*} [Field K] [LinearOrder K]

theorem LimitChecker.desiredIsValid_iff {checker : LimitChecker K} {desired : JointPoint K} :
    checker.desiredIsValid desired = true ↔ ∀ axis,
      ((checker.envelope axis).safeLower ≤ desired.positions axis ∧
        desired.positions axis ≤ (checker.envelope axis).safeUpper) ∧
      -(checker.envelope axis).velocityNegative ≤ desired.velocities axis ∧
        desired.velocities axis ≤ (checker.envelope axis).velocityPositive := by
  simp only [desiredIsValid, axes, List.all_eq_true, List.mem_finRange, true_implies,
    Bool.and_eq_true, decide_eq_true_eq]
  constructor
  · intro h axis
    exact ⟨(h axis).1.1, (h axis).2, (h axis).1.2⟩
  · intro h axis
    exact ⟨⟨(h axis).1, (h axis).2.2⟩, (h axis).2.1⟩

/-- The point is valid and so is the point where its stop ends. -/
structure CanStop (checker : LimitChecker K) (point : JointPoint K) : Prop where
  valid : checker.desiredIsValid point = true
  terminal : ∀ axis, (checker.envelope axis).safeLower ≤
      StopTrajectory.stopPositions (checker.stopSeconds point.velocities) point axis ∧
    StopTrajectory.stopPositions (checker.stopSeconds point.velocities) point axis ≤
      (checker.envelope axis).safeUpper

section StopSeconds

variable {checker : LimitChecker K} {velocities : Axis → K}

omit [Field K] in
theorem foldl_max_eq (f : Axis → K) (list : List Axis) (start : K) :
    list.foldl (fun duration axis => max duration (f axis)) start =
      list.foldl (fun duration axis => max (max duration (f axis)) (f axis)) start := by
  congr 1
  funext duration axis
  rw [max_assoc, max_self]

theorem stopSeconds_nonneg : 0 ≤ checker.stopSeconds velocities := by
  rw [LimitChecker.stopSeconds, foldl_max_eq]
  exact le_foldl_max _ _ _ _

variable (checker velocities) in
theorem le_stopSeconds (axis : Axis) :
    |velocities axis| / (checker.envelope axis).stopAcceleration (velocities axis) ≤
      checker.stopSeconds velocities := by
  rw [LimitChecker.stopSeconds, foldl_max_eq]
  exact (axis_le_foldl_max
    (fun axis => |velocities axis| / (checker.envelope axis).stopAcceleration (velocities axis))
    _ (List.mem_finRange axis) 0).1

theorem stopSeconds_le {bound : K} (h : ∀ axis,
    |velocities axis| / (checker.envelope axis).stopAcceleration (velocities axis) ≤ bound)
    (hbound : 0 ≤ bound) : checker.stopSeconds velocities ≤ bound := by
  rw [LimitChecker.stopSeconds, foldl_max_eq]
  exact foldl_max_le (fun axis => ⟨h axis, h axis⟩) hbound

theorem stopAcceleration_pos (checker : LimitChecker K) (axis : Axis) (velocity : K) :
    0 < (checker.envelope axis).stopAcceleration velocity := by
  unfold AxisEnvelope.stopAcceleration
  split
  · exact (checker.valid axis).stopAccelerationPositive
  · exact (checker.valid axis).stopAccelerationNegative

end StopSeconds

variable [IsStrictOrderedRing K]

section Segment

variable {checker : LimitChecker K} {start end' : JointPoint K}

theorem StoppableWith.canStop {extrema : SegmentExtrema K}
    (h : StoppableWith checker start end' extrema) {timeNs : ℕ} (h0 : start.timeNs ≤ timeNs)
    (h1 : timeNs ≤ end'.timeNs) : CanStop checker (motion start end' timeNs) := by
  obtain ⟨hincreasing, hencloses, hviable⟩ := h
  obtain ⟨hp0, hp1⟩ := phase_mem (K := K) hincreasing h0 h1
  have hposition : ∀ axis,
      (extrema axis).positionMin ≤ (motion start end' timeNs).positions axis ∧
        (motion start end' timeNs).positions axis ≤ (extrema axis).positionMax := by
    intro axis
    obtain ⟨segment, hsegment⟩ := axisSegment_isSome (K := K) hincreasing axis
    have hbounds := hencloses axis segment hsegment
    have hmin := hbounds.positionMin _ hp0 hp1
    have hmax := hbounds.positionMax _ hp0 hp1
    rw [CubicHermite.position, (axisSegment_cubic hsegment).1] at hmin hmax
    exact ⟨hmin, hmax⟩
  have hvelocity : ∀ axis,
      (motion start end' timeNs).velocities axis ≤ (extrema axis).velocityPositive ∧
        -(motion start end' timeNs).velocities axis ≤ (extrema axis).velocityNegative := by
    intro axis
    obtain ⟨segment, hsegment⟩ := axisSegment_isSome (K := K) hincreasing axis
    have hbounds := hencloses axis segment hsegment
    have hpositive := hbounds.velocityPositive _ hp0 hp1
    have hnegative := hbounds.velocityNegative _ hp0 hp1
    rw [CubicHermite.velocity, (axisSegment_cubic hsegment).1,
      (axisSegment_cubic hsegment).2] at hpositive hnegative
    exact ⟨hpositive, hnegative⟩
  have hnonneg : ∀ axis,
      0 ≤ (extrema axis).velocityPositive ∧ 0 ≤ (extrema axis).velocityNegative := by
    intro axis
    obtain ⟨segment, hsegment⟩ := axisSegment_isSome (K := K) hincreasing axis
    exact ⟨(hencloses axis segment hsegment).velocityPositive_nonneg,
      (hencloses axis segment hsegment).velocityNegative_nonneg⟩
  have hduration : checker.stopSeconds (motion start end' timeNs).velocities ≤
      checker.stopDurationSeconds extrema := by
    refine stopSeconds_le (fun axis => ?_) stopDurationSeconds_nonneg
    obtain ⟨hpositive, hnegative⟩ :=
      velocity_le_stopDuration checker extrema axis
    have hvalid := checker.valid axis
    unfold AxisEnvelope.stopAcceleration
    split
    · rename_i hsign
      rw [abs_of_nonneg hsign]
      exact (div_le_div_of_nonneg_right (hvelocity axis).1
        hvalid.stopAccelerationPositive.le).trans hpositive
    · rename_i hsign
      rw [abs_of_neg (not_le.1 hsign)]
      exact (div_le_div_of_nonneg_right (hvelocity axis).2
        hvalid.stopAccelerationNegative.le).trans hnegative
  refine ⟨LimitChecker.desiredIsValid_iff.2 fun axis => ⟨⟨?_, ?_⟩, ?_, ?_⟩, fun axis => ⟨?_, ?_⟩⟩
  · exact (hviable.positionMin axis).trans (hposition axis).1
  · exact (hposition axis).2.trans (hviable.positionMax axis)
  · exact neg_le.1 ((hvelocity axis).2.trans (hviable.velocityNegative axis))
  · exact (hvelocity axis).1.trans (hviable.velocityPositive axis)
  · have hreach : -(motion start end' timeNs).velocities axis *
        checker.stopSeconds (motion start end' timeNs).velocities ≤
          (extrema axis).velocityNegative * checker.stopDurationSeconds extrema :=
      mul_le_mul (hvelocity axis).2 hduration stopSeconds_nonneg (hnonneg axis).2
    have hlower := hviable.stopLower axis
    have hmin := (hposition axis).1
    rw [StopTrajectory.stopPositions]
    linarith
  · have hreach : (motion start end' timeNs).velocities axis *
        checker.stopSeconds (motion start end' timeNs).velocities ≤
          (extrema axis).velocityPositive * checker.stopDurationSeconds extrema :=
      mul_le_mul (hvelocity axis).1 hduration stopSeconds_nonneg (hnonneg axis).1
    have hupper := hviable.stopUpper axis
    have hmax := (hposition axis).2
    rw [StopTrajectory.stopPositions]
    linarith

end Segment

section Sample

variable [FloorSemiring K] {checker : LimitChecker K} {point : JointPoint K}

theorem durationToNanoseconds_eq {durationSeconds : K} (h0 : 0 ≤ durationSeconds) {ns : ℕ}
    (hns : durationSeconds ≤ seconds ns) (hmax : ns ≤ maxUint64) :
    durationToNanoseconds durationSeconds = some ⌈durationSeconds * 10 ^ 9⌉₊ := by
  have hle : ⌈durationSeconds * 10 ^ 9⌉₊ ≤ ns := by
    rw [Nat.ceil_le]
    rwa [seconds, le_div_iff₀ (by positivity)] at hns
  rw [durationToNanoseconds, if_neg (not_lt.2 h0), if_neg (not_lt.2 (hle.trans hmax))]

/-- The stop has begun at the point; it may have been sampled. -/
structure Brakes (checker : LimitChecker K) (point : JointPoint K) (stop : StopTrajectory K) :
    Prop where
  limitChecker : stop.limitChecker = checker
  start : stop.start = point
  accelerations : stop.accelerations =
    StopTrajectory.stopAccelerations (checker.stopSeconds point.velocities) point
  terminalPositions : stop.terminalPositions =
    StopTrajectory.stopPositions (checker.stopSeconds point.velocities) point
  durationNs : stop.durationNs = ⌈checker.stopSeconds point.velocities * 10 ^ 9⌉₊
  state : stop.state ≠ .idle

omit [FloorSemiring K] in
theorem stopAccelerations_le (checker : LimitChecker K) (point : JointPoint K) (axis : Axis) :
    |StopTrajectory.stopAccelerations (checker.stopSeconds point.velocities) point axis| ≤
      (checker.envelope axis).stopAcceleration (point.velocities axis) := by
  have hlimit := stopAcceleration_pos checker axis (point.velocities axis)
  unfold StopTrajectory.stopAccelerations
  split
  · rw [abs_zero]
    exact hlimit.le
  · rename_i hne
    have hpos : 0 < checker.stopSeconds point.velocities :=
      lt_of_le_of_ne stopSeconds_nonneg (Ne.symm hne)
    have hle := le_stopSeconds checker point.velocities axis
    rw [abs_div, abs_neg, abs_of_pos hpos, div_le_iff₀ hpos, mul_comm]
    exact (div_le_iff₀ hlimit).1 hle

theorem CanStop.begin_eq (h : CanStop checker point) {ns : ℕ}
    (hns : checker.stopSeconds point.velocities ≤ seconds ns) (hmax : ns ≤ maxUint64) :
    ∃ stop, StopTrajectory.begin { limitChecker := checker } point = some stop ∧
      Brakes checker point stop := by
  have hbreaks : (axes.any (StopTrajectory.breaksLimit { limitChecker := checker }
      (checker.stopSeconds point.velocities) point)) = false := by
    rw [List.any_eq_false]
    intro axis _
    have hterminal := h.terminal axis
    have hacceleration := stopAccelerations_le checker point axis
    simp only [StopTrajectory.breaksLimit, Bool.or_eq_true, decide_eq_true_eq]
    rintro ((hbad | hbad) | hbad)
    · exact absurd hbad (not_lt.2 hterminal.1)
    · exact absurd hbad (not_lt.2 hterminal.2)
    · exact absurd hbad (not_lt.2 hacceleration)
  simp only [StopTrajectory.begin, ne_eq, not_true_eq_false, if_false,
    durationToNanoseconds_eq stopSeconds_nonneg hns hmax, hbreaks, Bool.false_eq_true]
  refine ⟨_, rfl, rfl, rfl, rfl, rfl, rfl, ?_⟩
  dsimp only
  split
  · exact StopTrajectoryState.noConfusion
  · exact StopTrajectoryState.noConfusion

theorem CanStop.sample_eq (h : CanStop checker point) {stop : StopTrajectory K}
    (hbrakes : Brakes checker point stop) {elapsedNs : ℕ}
    (htime : point.timeNs + elapsedNs ≤ maxUint64) :
    ∃ sampled stop', stop.sample elapsedNs = some (sampled, stop') ∧
      Brakes checker point stop' ∧ checker.desiredIsValid sampled = true ∧
      (stop.durationNs ≤ elapsedNs → sampled.velocities = (fun _ => 0) ∧ stop'.state = .holding) ∧
      (stop'.state = .holding → sampled.velocities = fun _ => 0) := by
  obtain ⟨hchecker, hstart, haccelerations, hterminal, hduration, hstate⟩ := hbrakes
  have hvalid := LimitChecker.desiredIsValid_iff.1 h.valid
  have hfits : ¬maxUint64 - stop.start.timeNs < elapsedNs := by
    rw [hstart]
    omega
  unfold StopTrajectory.sample
  rw [if_neg hstate, if_neg hfits]
  by_cases hcompleted : stop.state = .holding ∨ stop.durationNs ≤ elapsedNs
  · rw [if_pos hcompleted]
    refine ⟨_, _, rfl, ⟨hchecker, hstart, haccelerations, hterminal, hduration,
      StopTrajectoryState.noConfusion⟩, ?_, fun _ => ⟨rfl, rfl⟩, fun _ => rfl⟩
    refine LimitChecker.desiredIsValid_iff.2 fun axis => ⟨?_, ?_, ?_⟩
    · rw [hterminal]
      exact h.terminal axis
    · exact neg_nonpos.2 (checker.valid axis).velocityNegative.le
    · exact (checker.valid axis).velocityPositive.le
  · rw [if_neg hcompleted]
    rw [not_or, not_le] at hcompleted
    refine ⟨_, _, rfl, ⟨hchecker, hstart, haccelerations, hterminal, hduration, hstate⟩, ?_,
      fun hle => absurd hle (not_le.2 hcompleted.2), fun hholding => absurd hholding hcompleted.1⟩
    have hlt : (seconds elapsedNs : K) < checker.stopSeconds point.velocities := by
      have hceil := hcompleted.2
      rw [hduration, Nat.lt_ceil] at hceil
      rwa [seconds, div_lt_iff₀ (by positivity)]
    have hs0 : (0 : K) ≤ seconds elapsedNs := div_nonneg (Nat.cast_nonneg _) (by positivity)
    have hpos := hs0.trans_lt hlt
    refine LimitChecker.desiredIsValid_iff.2 fun axis => ?_
    have hacceleration : stop.accelerations axis =
        -point.velocities axis / checker.stopSeconds point.velocities := by
      rw [haccelerations, StopTrajectory.stopAccelerations, if_neg hpos.ne']
    dsimp only
    rw [hstart, hacceleration]
    exact ⟨brake_position_mem hpos hs0 hlt.le (hvalid axis).1 (h.terminal axis),
      brake_velocity_mem hpos hs0 hlt.le ⟨neg_nonpos.2 (checker.valid axis).velocityNegative.le,
        (checker.valid axis).velocityPositive.le⟩ (hvalid axis).2⟩

end Sample

section Controller

open LabelledRun RollingTrajectoryController

variable [FloorSemiring K] {c : RollingTrajectoryController K} {point : JointPoint K}

/-- The controller stops from the point and has sampled the stop up to its execution time. -/
structure Braking (c : RollingTrajectoryController K) (point : JointPoint K) : Prop where
  brakes : Brakes c.configuration.limitChecker point c.rtStopTrajectory
  time : point.timeNs + c.rtStopElapsedNs = c.executionTimeNs

theorem beginRtStop_succeeds (reason : StopReason)
    (hstate : c.rtSessionState = .priming ∨ c.rtSessionState = .running)
    (hidle : c.rtStopTrajectory = { limitChecker := c.configuration.limitChecker })
    (hdesired : CanStop c.configuration.limitChecker c.rtDesired)
    (htime : c.rtDesired.timeNs = c.executionTimeNs) (hmax : c.executionTimeNs ≤ maxUint64)
    (hduration : c.configuration.limitChecker.stopSeconds c.rtDesired.velocities ≤
      seconds c.executionTimeNs) :
    (c.beginRtStop reason).2 = true ∧ Braking (c.beginRtStop reason).1 c.rtDesired ∧
      (c.beginRtStop reason).1.configuration = c.configuration ∧
      (c.beginRtStop reason).1.executionTimeNs = c.executionTimeNs := by
  have hbegin : c.beginRtStop reason = (c.recordStopReason reason).beginStopTrajectory := by
    unfold beginRtStop
    rcases hstate with hstate | hstate <;> rw [hstate]
  obtain ⟨stop, hstop, hbrakes⟩ := hdesired.begin_eq hduration hmax
  have htrajectory : (c.recordStopReason reason).rtStopTrajectory.begin
      (c.recordStopReason reason).rtDesired = some stop := by
    change c.rtStopTrajectory.begin c.rtDesired = some stop
    rw [hidle]
    exact hstop
  rw [hbegin, beginStopTrajectory, htrajectory]
  dsimp only
  split
  · rename_i hholding
    obtain ⟨sampled, stop', hsample, hbrakes', hvalid, -⟩ := hdesired.sample_eq hbrakes
      (show c.rtDesired.timeNs + 0 ≤ maxUint64 by omega)
    rw [hsample]
    dsimp only
    rw [if_pos (show (c.recordStopReason reason).desiredIsValid sampled = true from hvalid)]
    exact ⟨rfl, ⟨hbrakes', htime⟩, rfl, rfl⟩
  · exact ⟨rfl, ⟨hbrakes, htime⟩, rfl, rfl⟩

theorem Braking.advance (h : Braking c point)
    (hcan : CanStop c.configuration.limitChecker point) (periodNs : ℤ)
    (hmax : c.executionTimeNs + c.stopIncrementNs periodNs ≤ maxUint64) :
    (c.advanceRtStop periodNs).2 = true ∧ Braking (c.advanceRtStop periodNs).1 point ∧
      (c.advanceRtStop periodNs).1.configuration = c.configuration ∧
      (c.advanceRtStop periodNs).1.stopReason = c.stopReason ∧
      (c.advanceRtStop periodNs).1.executionTimeNs =
        c.executionTimeNs + c.stopIncrementNs periodNs := by
  obtain ⟨hbrakes, htime⟩ := h
  have helapsed : addTime c.rtStopElapsedNs (c.stopIncrementNs periodNs) =
      some (c.rtStopElapsedNs + c.stopIncrementNs periodNs) :=
    (addTime_eq_some (by omega)).2 ⟨rfl, by omega⟩
  have hexecution : addTime c.executionTimeNs (c.stopIncrementNs periodNs) =
      some (c.executionTimeNs + c.stopIncrementNs periodNs) :=
    (addTime_eq_some (by omega)).2 ⟨rfl, hmax⟩
  obtain ⟨sampled, stop', hsample, hbrakes', hvalid, -⟩ := hcan.sample_eq hbrakes
    (show point.timeNs + (c.rtStopElapsedNs + c.stopIncrementNs periodNs) ≤ maxUint64 by omega)
  simp only [advanceRtStop, helapsed, hexecution, hsample]
  rw [if_pos (show c.desiredIsValid sampled = true from hvalid)]
  exact ⟨rfl, ⟨hbrakes', by dsimp only; omega⟩, rfl, rfl, rfl⟩

theorem Braking.along (h : Braking c point) (hcan : CanStop c.configuration.limitChecker point)
    (periods : List ℤ)
    (hmax : c.executionTimeNs + (periods.map c.stopIncrementNs).sum ≤ maxUint64) :
    Along (fun c periodNs => (advanceRtStop c periodNs).1)
      (fun c periodNs => (advanceRtStop c periodNs).2 = true) c periods := by
  induction periods generalizing c with
  | nil => exact along_nil c
  | cons periodNs periods ih =>
    rw [List.map_cons, List.sum_cons] at hmax
    obtain ⟨hok, hnext, hconfiguration, hreason, hexecution⟩ :=
      h.advance hcan periodNs (by omega)
    have hincrement : (c.advanceRtStop periodNs).1.stopIncrementNs = c.stopIncrementNs := by
      funext periodNs'
      rw [stopIncrementNs, hconfiguration, hreason]
      rfl
    refine ⟨hok, ih hnext ?_ ?_⟩
    · rw [hconfiguration]
      exact hcan
    · rw [hexecution, hincrement]
      omega

end Controller

end RobotDriver.Rolling
