import RobotDriver.Rolling.BoundedImage
import RobotDriver.Rolling.SpliceContinuity

/-!
# The motion of one tick

A tick that advances moves the desired point along the active image or along the braking curve, and
either way within the acceleration limits for the whole period.
-/

namespace RobotDriver.Rolling

open RollingTrajectoryController

variable {K : Type*} [Field K] [LinearOrder K]

/-- The distance that a stop from the desired point covers in its first period. -/
def brakeDistance (checker : LimitChecker K) (desired : JointPoint K) (periodNs : ℕ)
    (axis : Axis) : K :=
  let s := min (seconds periodNs) (checker.stopSeconds desired.velocities)
  desired.velocities axis * s + 1 / 2 *
    StopTrajectory.stopAccelerations (checker.stopSeconds desired.velocities) desired axis * s * s

/-- The desired point lies on the braking curve. -/
structure OnBrake (checker : LimitChecker K) (point : JointPoint K) (elapsedNs : ℕ)
    (desired : JointPoint K) : Prop where
  lt : seconds elapsedNs < checker.stopSeconds point.velocities
  positions : ∀ axis, desired.positions axis = point.positions axis +
    point.velocities axis * seconds elapsedNs + 1 / 2 * StopTrajectory.stopAccelerations
      (checker.stopSeconds point.velocities) point axis * seconds elapsedNs * seconds elapsedNs
  velocities : ∀ axis, desired.velocities axis = point.velocities axis +
    StopTrajectory.stopAccelerations (checker.stopSeconds point.velocities) point axis *
      seconds elapsedNs

section Brake

variable [IsStrictOrderedRing K] {checker : LimitChecker K} {point desired candidate : JointPoint K}
  {stop stop' : StopTrajectory K} {elapsedNs periodNs : ℕ}

omit [LinearOrder K] [IsStrictOrderedRing K] in
theorem seconds_zero : (seconds 0 : K) = 0 := by
  rw [seconds, Nat.cast_zero, zero_div]

theorem seconds_nonneg (timeNs : ℕ) : (0 : K) ≤ seconds timeNs :=
  div_nonneg (Nat.cast_nonneg _) (by positivity)

omit [IsStrictOrderedRing K] in
theorem OnBrake.begins (hmoving : checker.stopSeconds point.velocities ≠ 0) :
    OnBrake checker point 0 point where
  lt := by
    rw [seconds_zero]
    exact lt_of_le_of_ne stopSeconds_nonneg (Ne.symm hmoving)
  positions axis := by simp [seconds_zero]
  velocities axis := by simp [seconds_zero]

theorem stopAccelerations_moving (h : OnBrake checker point elapsedNs desired) (axis : Axis) :
    StopTrajectory.stopAccelerations (checker.stopSeconds point.velocities) point axis =
      -point.velocities axis / checker.stopSeconds point.velocities := by
  rw [StopTrajectory.stopAccelerations, if_neg]
  exact ((seconds_nonneg elapsedNs).trans_lt h.lt).ne'

theorem OnBrake.follows [FloorSemiring K] (h : OnBrake checker point elapsedNs desired)
    (hbrakes : Brakes checker point stop) (hlt : elapsedNs + periodNs < stop.durationNs)
    (hpositions : ∀ axis, candidate.positions axis = stop.start.positions axis +
      stop.start.velocities axis * seconds (elapsedNs + periodNs) + 1 / 2 *
        stop.accelerations axis * seconds (elapsedNs + periodNs) * seconds (elapsedNs + periodNs))
    (hvelocities : ∀ axis, candidate.velocities axis = stop.start.velocities axis +
      stop.accelerations axis * seconds (elapsedNs + periodNs)) {limit : Axis → K}
    (hlimit : ∀ axis, (checker.envelope axis).stopAcceleration (point.velocities axis) ≤
      limit axis) :
    OnBrake checker point (elapsedNs + periodNs) candidate ∧
      (∀ axis, BoundedMotion (limit axis) (seconds periodNs) (desired.positions axis)
        (desired.velocities axis) (candidate.positions axis) (candidate.velocities axis)) ∧
      (elapsedNs = 0 → ∀ axis, candidate.positions axis - desired.positions axis =
        brakeDistance checker point periodNs axis) := by
  rw [hbrakes.start, hbrakes.accelerations] at hpositions hvelocities
  have htime : (seconds (elapsedNs + periodNs) : K) < checker.stopSeconds point.velocities := by
    rw [hbrakes.durationNs, Nat.lt_ceil] at hlt
    rwa [seconds, div_lt_iff₀ (by positivity)]
  refine ⟨⟨htime, hpositions, hvelocities⟩, fun axis => ?_, fun hzero axis => ?_⟩
  · have hacceleration := (stopAccelerations_le checker point axis).trans (hlimit axis)
    have hmotion := BoundedMotion.of_constant (x := desired.positions axis)
      (v := desired.velocities axis) hacceleration (seconds_nonneg periodNs)
    have hposition : candidate.positions axis = desired.positions axis +
        desired.velocities axis * seconds periodNs + 1 / 2 * StopTrajectory.stopAccelerations
          (checker.stopSeconds point.velocities) point axis * seconds periodNs *
            seconds periodNs := by
      rw [hpositions, h.positions, h.velocities, seconds_add]
      ring
    have hvelocity : candidate.velocities axis = desired.velocities axis +
        StopTrajectory.stopAccelerations (checker.stopSeconds point.velocities) point axis *
          seconds periodNs := by
      rw [hvelocities, h.velocities, seconds_add]
      ring
    rw [hposition, hvelocity]
    exact hmotion
  · subst hzero
    rw [Nat.zero_add] at hpositions htime
    rw [hpositions, h.positions, brakeDistance, min_eq_left htime.le, seconds_zero]
    ring

theorem boundedMotion_rest {a h x : K} (ha : 0 ≤ a) (hh : 0 ≤ h) : BoundedMotion a h x 0 x 0 := by
  have hzero : |(0 : K)| ≤ a := by rwa [abs_zero]
  have hrest := BoundedMotion.of_constant (x := x) (v := 0) hzero hh
  have hposition : x + 0 * h + 1 / 2 * 0 * h * h = x := by ring
  have hvelocity : (0 : K) + 0 * h = 0 := by ring
  rwa [hposition, hvelocity] at hrest

theorem OnBrake.completes [FloorSemiring K] (h : OnBrake checker point elapsedNs desired)
    (hbrakes : Brakes checker point stop) (hle : stop.durationNs ≤ elapsedNs + periodNs)
    (hpositions : candidate.positions = stop.terminalPositions)
    (hvelocities : candidate.velocities = fun _ => 0) {limit : Axis → K}
    (hlimit : ∀ axis, (checker.envelope axis).stopAcceleration (point.velocities axis) ≤
      limit axis) :
    (∀ axis, BoundedMotion (limit axis) (seconds periodNs) (desired.positions axis)
        (desired.velocities axis) (candidate.positions axis) (candidate.velocities axis)) ∧
      (elapsedNs = 0 → ∀ axis, candidate.positions axis - desired.positions axis =
        brakeDistance checker point periodNs axis) := by
  rw [hbrakes.terminalPositions] at hpositions
  have hduration : checker.stopSeconds point.velocities ≤
      (seconds elapsedNs : K) + seconds periodNs := by
    rw [hbrakes.durationNs, Nat.ceil_le] at hle
    rwa [← seconds_add, seconds, le_div_iff₀ (by positivity)]
  have hpos : checker.stopSeconds point.velocities ≠ 0 :=
    ((seconds_nonneg elapsedNs).trans_lt h.lt).ne'
  refine ⟨fun axis => ?_, fun hzero axis => ?_⟩
  · have hacceleration := (stopAccelerations_le checker point axis).trans (hlimit axis)
    have hrest : 0 ≤ limit axis := (abs_nonneg _).trans hacceleration
    have hbrake := BoundedMotion.of_constant (x := desired.positions axis)
      (v := desired.velocities axis) hacceleration (sub_nonneg.2 h.lt.le)
    have hposition : desired.positions axis + desired.velocities axis *
        (checker.stopSeconds point.velocities - seconds elapsedNs) + 1 / 2 *
          StopTrajectory.stopAccelerations (checker.stopSeconds point.velocities) point axis *
            (checker.stopSeconds point.velocities - seconds elapsedNs) *
              (checker.stopSeconds point.velocities - seconds elapsedNs) =
        candidate.positions axis := by
      rw [hpositions, StopTrajectory.stopPositions, h.positions, h.velocities,
        stopAccelerations_moving h]
      field_simp
      ring
    have hvelocity : desired.velocities axis +
        StopTrajectory.stopAccelerations (checker.stopSeconds point.velocities) point axis *
          (checker.stopSeconds point.velocities - seconds elapsedNs) = 0 := by
      rw [h.velocities, stopAccelerations_moving h]
      field_simp
      ring
    rw [hposition, hvelocity] at hbrake
    have htotal : checker.stopSeconds point.velocities - seconds elapsedNs +
        (seconds elapsedNs + seconds periodNs - checker.stopSeconds point.velocities) =
          seconds periodNs := by
      ring
    have hwhole := hbrake.trans (boundedMotion_rest hrest (sub_nonneg.2 hduration))
    rw [htotal] at hwhole
    rw [hvelocities]
    exact hwhole
  · subst hzero
    rw [seconds_zero, zero_add] at hduration
    rw [hpositions, StopTrajectory.stopPositions, h.positions, brakeDistance,
      min_eq_right hduration, stopAccelerations_moving h, seconds_zero]
    field_simp
    ring

theorem OnBrake.sample [FloorSemiring K] (h : OnBrake checker point elapsedNs desired)
    (hbrakes : Brakes checker point stop) (hstate : stop.state = .stopping)
    (hsample : stop.sample (elapsedNs + periodNs) = some (candidate, stop')) {limit : Axis → K}
    (hlimit : ∀ axis, (checker.envelope axis).stopAcceleration (point.velocities axis) ≤
      limit axis) :
    (∀ axis, BoundedMotion (limit axis) (seconds periodNs) (desired.positions axis)
        (desired.velocities axis) (candidate.positions axis) (candidate.velocities axis)) ∧
      (elapsedNs = 0 → ∀ axis, candidate.positions axis - desired.positions axis =
        brakeDistance checker point periodNs axis) ∧
      (stop'.state = .holding ∨
        stop' = stop ∧ OnBrake checker point (elapsedNs + periodNs) candidate) := by
  unfold StopTrajectory.sample at hsample
  rw [if_neg (by rw [hstate]; exact StopTrajectoryState.noConfusion)] at hsample
  split at hsample
  · cases hsample
  split at hsample
  · rename_i hcompleted
    have hle : stop.durationNs ≤ elapsedNs + periodNs := by
      refine hcompleted.resolve_left fun hholding => ?_
      rw [hstate] at hholding
      cases hholding
    obtain ⟨hcandidate, rfl⟩ := Prod.mk.inj (Option.some.inj hsample)
    have hpositions := (congrArg JointPoint.positions hcandidate).symm
    have hvelocities := (congrArg JointPoint.velocities hcandidate).symm
    obtain ⟨hmotion, hfirst⟩ := h.completes hbrakes hle hpositions hvelocities hlimit
    exact ⟨hmotion, hfirst, .inl rfl⟩
  · rename_i hcompleted
    rw [not_or, not_le] at hcompleted
    obtain ⟨hcandidate, rfl⟩ := Prod.mk.inj (Option.some.inj hsample)
    have hpositions := fun axis => (congrFun (congrArg JointPoint.positions hcandidate) axis).symm
    have hvelocities := fun axis => (congrFun (congrArg JointPoint.velocities hcandidate) axis).symm
    obtain ⟨hon, hmotion, hfirst⟩ := h.follows hbrakes hcompleted.2 hpositions hvelocities hlimit
    exact ⟨hmotion, hfirst, .inr ⟨rfl, hon⟩⟩

end Brake

section Image

variable [SquareRoot K] [IsStrictOrderedRing K] {checker : LimitChecker K}
  {image : TrajectoryImage K} {desired candidate : JointPoint K} {executionNs timeNs : ℕ}

theorem SoundImage.movesWithin (h : SoundImage checker image)
    (hdesired : sampleTrajectoryImage image executionNs = some desired)
    (hcandidate : sampleTrajectoryImage image timeNs = some candidate)
    (htime : executionNs ≤ timeNs) : desired.timeNs = executionNs ∧ candidate.timeNs = timeNs ∧
      MovesWithin checker.accelerationLimit desired candidate := by
  rw [sampleTrajectoryImage_eq] at hdesired hcandidate
  split at hdesired
  · rename_i hcovers
    split at hcandidate
    · have hhead : ∀ first ∈ image.points.head?, first.timeNs ≤ executionNs := by
        obtain ⟨first, hfirst, hle⟩ := (TrajectoryImage.covers_iff.1 hcovers).1
        intro other hother
        obtain rfl : first = other := Option.some.inj (hfirst.symm.trans hother)
        exact hle
      have hhead' : ∀ first ∈ image.points.head?, first.timeNs ≤ timeNs :=
        fun first hfirst => (hhead first hfirst).trans htime
      exact ⟨lookup_timeNs h.points.increasing hdesired hhead,
        lookup_timeNs h.points.increasing hcandidate hhead',
        movesWithin_samples h.points.pieces hhead hdesired hcandidate htime⟩
    · cases hcandidate
  · cases hdesired

end Image

end RobotDriver.Rolling
