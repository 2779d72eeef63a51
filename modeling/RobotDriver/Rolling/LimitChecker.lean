import RobotDriver.Rolling.CubicHermite

/-!
# Data types of the rolling trajectory controller

Times are unsigned 64-bit nanoseconds; positions and velocities are elements of an ordered field,
so every value is finite. A trajectory image lists the points below its `point_count`.
-/

namespace RobotDriver.Rolling

abbrev axisCount : ℕ := 14

abbrev Axis := Fin axisCount

def transportMaxPoints : ℕ := 256

/-- The largest unsigned 64-bit value. -/
def maxUint64 : ℕ := 2 ^ 64 - 1

inductive RejectCode
  | none | invalidShape | nonFinite | nonMonotonicTime | lateReplace | timeGap | capacityExceeded
  | insufficientHorizon | positionDiscontinuity | velocityDiscontinuity | positionLimit
  | velocityLimit | accelerationLimit | notStoppingViable | sessionNotAccepting | horizonExceeded
  | finalNotAtRest
  deriving DecidableEq, Repr

inductive SessionState
  | none | priming | running | stopping | holding | terminated
  deriving DecidableEq, Repr

inductive StopReason
  | none | updateTimeout | lowWater | clockAnomaly | internalInvariant | controllerDeactivated
  | completed
  deriving DecidableEq, Repr

structure JointPoint (K : Type*) where
  timeNs : ℕ
  positions : Axis → K
  velocities : Axis → K

structure TrajectoryImage (K : Type*) where
  points : List (JointPoint K) := []
  generation : ℕ := 0
  earliestChangedNs : ℕ := 0
  final : Bool := false

/-- `none` when the sum does not fit into 64 bits. -/
def addTime (valueNs incrementNs : ℕ) : Option ℕ :=
  if maxUint64 - valueNs < incrementNs then none else some (valueNs + incrementNs)

theorem addTime_eq_some {valueNs incrementNs sum : ℕ} (h : valueNs ≤ maxUint64) :
    addTime valueNs incrementNs = some sum ↔
      valueNs + incrementNs = sum ∧ sum ≤ maxUint64 := by
  unfold addTime
  split
  · simp only [reduceCtorEq, false_iff, not_and]
    omega
  · simp only [Option.some.injEq]
    omega

end RobotDriver.Rolling

/-!
# Limit checks of a segment

`LimitChecker` over a valid envelope, so a checker is always configured. A segment that passes both
checks is admissible; it is stoppable when the same checks hold of bounds that enclose it.
-/

namespace RobotDriver.Rolling

structure AxisEnvelope (K : Type*) where
  positionLower : K
  positionUpper : K
  velocityPositive : K
  velocityNegative : K
  accelerationPositive : K
  accelerationNegative : K
  stopAccelerationPositive : K
  stopAccelerationNegative : K
  positionMarginLower : K
  positionMarginUpper : K

variable {K : Type*} [Field K] [LinearOrder K]

namespace AxisEnvelope

variable (limits : AxisEnvelope K)

def safeLower : K := limits.positionLower + limits.positionMarginLower

def safeUpper : K := limits.positionUpper - limits.positionMarginUpper

structure Valid : Prop where
  position : limits.positionLower < limits.positionUpper
  velocityPositive : 0 < limits.velocityPositive
  velocityNegative : 0 < limits.velocityNegative
  accelerationPositive : 0 < limits.accelerationPositive
  accelerationNegative : 0 < limits.accelerationNegative
  stopAccelerationPositive : 0 < limits.stopAccelerationPositive
  stopAccelerationNegative : 0 < limits.stopAccelerationNegative
  positionMarginLower : 0 ≤ limits.positionMarginLower
  positionMarginUpper : 0 ≤ limits.positionMarginUpper
  safe : limits.safeLower < limits.safeUpper

end AxisEnvelope

structure LimitChecker (K : Type*) [Field K] [LinearOrder K] where
  envelope : Axis → AxisEnvelope K
  valid : ∀ axis, (envelope axis).Valid

abbrev SegmentExtrema (K : Type*) := Axis → ScalarKinematicExtrema K

structure SegmentCheckResult where
  code : RejectCode
  axis : ℕ
  deriving DecidableEq, Repr

structure StoppingEnvelope (K : Type*) where
  durationSeconds : K
  lowerPositions : Axis → K
  upperPositions : Axis → K

def axes : List Axis := List.finRange axisCount

def seconds (ns : ℕ) : K := ns / 10 ^ 9

def axisSegment (start end' : JointPoint K) (axis : Axis) : Option (CubicHermite K) :=
  buildCubicHermite (start.positions axis) (start.velocities axis) (end'.positions axis)
    (end'.velocities axis) (seconds (end'.timeNs - start.timeNs))

def axisExtrema [SquareRoot K] (start end' : JointPoint K) (axis : Axis) :
    Option (ScalarKinematicExtrema K) :=
  (axisSegment start end' axis).bind computeCubicHermiteExtrema

namespace LimitChecker

variable (checker : LimitChecker K) (extrema : SegmentExtrema K)

def breaksPosition (axis : Axis) : Bool :=
  (extrema axis).positionMin < (checker.envelope axis).safeLower ||
    (checker.envelope axis).safeUpper < (extrema axis).positionMax

def breaksVelocity (axis : Axis) : Bool :=
  (checker.envelope axis).velocityPositive < (extrema axis).velocityPositive ||
    (checker.envelope axis).velocityNegative < (extrema axis).velocityNegative

def breaksAcceleration (axis : Axis) : Bool :=
  (checker.envelope axis).accelerationPositive < (extrema axis).accelerationPositive ||
    (checker.envelope axis).accelerationNegative < (extrema axis).accelerationNegative

def checkExtrema : Option SegmentCheckResult :=
  match axes.find? (checker.breaksPosition extrema) with
  | some axis => some ⟨.positionLimit, axis⟩
  | none =>
    match axes.find? (checker.breaksVelocity extrema) with
    | some axis => some ⟨.velocityLimit, axis⟩
    | none =>
      match axes.find? (checker.breaksAcceleration extrema) with
      | some axis => some ⟨.accelerationLimit, axis⟩
      | none => none

def checkSegment [SquareRoot K] (start end' : JointPoint K) :
    Except SegmentCheckResult (SegmentExtrema K) :=
  if end'.timeNs ≤ start.timeNs then .error ⟨.nonMonotonicTime, axisCount⟩
  else
    match axes.find? fun axis => (axisExtrema start end' axis).isNone with
    | some axis => .error ⟨.nonFinite, axis⟩
    | none =>
      let candidate : SegmentExtrema K := fun axis =>
        (axisExtrema start end' axis).getD ⟨0, 0, 0, 0, 0, 0⟩
      match checker.checkExtrema candidate with
      | some result => .error result
      | none => .ok candidate

/-- The longest time that any axis needs at the extreme velocities. -/
def stopDurationSeconds : K :=
  axes.foldl (fun duration axis =>
    max (max duration
      ((extrema axis).velocityPositive / (checker.envelope axis).stopAccelerationPositive))
      ((extrema axis).velocityNegative / (checker.envelope axis).stopAccelerationNegative)) 0

def stoppingEnvelope : StoppingEnvelope K where
  durationSeconds := checker.stopDurationSeconds extrema
  lowerPositions axis := (extrema axis).positionMin -
    1 / 2 * (extrema axis).velocityNegative * checker.stopDurationSeconds extrema
  upperPositions axis := (extrema axis).positionMax +
    1 / 2 * (extrema axis).velocityPositive * checker.stopDurationSeconds extrema

def checkStoppingViability : Except SegmentCheckResult (StoppingEnvelope K) :=
  match axes.find? fun axis =>
      (extrema axis).velocityPositive < 0 || (extrema axis).velocityNegative < 0 with
  | some axis => .error ⟨.nonFinite, axis⟩
  | none =>
    let candidate := checker.stoppingEnvelope extrema
    match axes.find? fun axis =>
        candidate.lowerPositions axis < (checker.envelope axis).safeLower ||
          (checker.envelope axis).safeUpper < candidate.upperPositions axis with
    | some axis => .error ⟨.notStoppingViable, axis⟩
    | none => .ok candidate

end LimitChecker

section Continuity

variable (expected replacement : JointPoint K) (positionTolerance velocityTolerance : Axis → K)

def checkSpliceContinuity : RejectCode :=
  if axes.any fun axis => positionTolerance axis < 0 || velocityTolerance axis < 0 then .nonFinite
  else if axes.any fun axis =>
      positionTolerance axis < |replacement.positions axis - expected.positions axis| then
    .positionDiscontinuity
  else if axes.any fun axis =>
      velocityTolerance axis < |replacement.velocities axis - expected.velocities axis| then
    .velocityDiscontinuity
  else .none

end Continuity

theorem find?_axes_eq_none {p : Axis → Bool} : axes.find? p = none ↔ ∀ axis, p axis = false := by
  simp [axes, List.find?_eq_none]

/-- The checks of both kinds pass for these bounds. -/
structure LimitChecker.Viable (checker : LimitChecker K) (extrema : SegmentExtrema K) : Prop where
  positionMin : ∀ axis, (checker.envelope axis).safeLower ≤ (extrema axis).positionMin
  positionMax : ∀ axis, (extrema axis).positionMax ≤ (checker.envelope axis).safeUpper
  velocityPositive :
    ∀ axis, (extrema axis).velocityPositive ≤ (checker.envelope axis).velocityPositive
  velocityNegative :
    ∀ axis, (extrema axis).velocityNegative ≤ (checker.envelope axis).velocityNegative
  accelerationPositive :
    ∀ axis, (extrema axis).accelerationPositive ≤ (checker.envelope axis).accelerationPositive
  accelerationNegative :
    ∀ axis, (extrema axis).accelerationNegative ≤ (checker.envelope axis).accelerationNegative
  stopLower : ∀ axis, (checker.envelope axis).safeLower ≤ (extrema axis).positionMin -
    1 / 2 * (extrema axis).velocityNegative * checker.stopDurationSeconds extrema
  stopUpper : ∀ axis, (extrema axis).positionMax +
    1 / 2 * (extrema axis).velocityPositive * checker.stopDurationSeconds extrema ≤
      (checker.envelope axis).safeUpper

namespace LimitChecker

variable {checker : LimitChecker K} {extrema : SegmentExtrema K}

theorem checkExtrema_eq_none : checker.checkExtrema extrema = none ↔
    (∀ axis, checker.breaksPosition extrema axis = false) ∧
      (∀ axis, checker.breaksVelocity extrema axis = false) ∧
      ∀ axis, checker.breaksAcceleration extrema axis = false := by
  unfold checkExtrema
  cases hposition : axes.find? (checker.breaksPosition extrema) with
  | some axis =>
    simp only [reduceCtorEq, false_iff]
    intro h
    rw [find?_axes_eq_none.2 h.1] at hposition
    cases hposition
  | none =>
    cases hvelocity : axes.find? (checker.breaksVelocity extrema) with
    | some axis =>
      simp only [reduceCtorEq, false_iff]
      intro h
      rw [find?_axes_eq_none.2 h.2.1] at hvelocity
      cases hvelocity
    | none =>
      cases hacceleration : axes.find? (checker.breaksAcceleration extrema) with
      | some axis =>
        simp only [reduceCtorEq, false_iff]
        intro h
        rw [find?_axes_eq_none.2 h.2.2] at hacceleration
        cases hacceleration
      | none =>
        exact iff_of_true rfl ⟨find?_axes_eq_none.1 hposition, find?_axes_eq_none.1 hvelocity,
          find?_axes_eq_none.1 hacceleration⟩

theorem checkSegment_eq_ok [SquareRoot K] {start end' : JointPoint K} :
    checker.checkSegment start end' = .ok extrema ↔ start.timeNs < end'.timeNs ∧
      (∀ axis, axisExtrema start end' axis = some (extrema axis)) ∧
        checker.checkExtrema extrema = none := by
  unfold checkSegment
  by_cases htime : end'.timeNs ≤ start.timeNs
  · simp [htime, not_lt.2 htime]
  · rw [if_neg htime]
    cases hfind : axes.find? fun axis => (axisExtrema start end' axis).isNone with
    | some axis =>
      simp only [reduceCtorEq, false_iff]
      intro h
      have hnone : ∀ axis, (axisExtrema start end' axis).isNone = false := by
        intro axis
        rw [h.2.1 axis]
        rfl
      rw [find?_axes_eq_none.2 hnone] at hfind
      cases hfind
    | none =>
      rw [find?_axes_eq_none] at hfind
      have hsome : ∀ axis, axisExtrema start end' axis =
          some ((axisExtrema start end' axis).getD ⟨0, 0, 0, 0, 0, 0⟩) := by
        intro axis
        cases haxis : axisExtrema start end' axis with
        | none => simpa [haxis] using hfind axis
        | some value => rfl
      dsimp only
      constructor
      · intro h
        split at h
        · cases h
        · cases h
          exact ⟨not_le.1 htime, hsome, ‹_›⟩
      · rintro ⟨-, haxes, hcheck⟩
        have heq : (fun axis => (axisExtrema start end' axis).getD ⟨0, 0, 0, 0, 0, 0⟩) =
            extrema := by
          funext axis
          rw [haxes axis]
          rfl
        rw [heq, hcheck]

theorem checkStoppingViability_isOk :
    (∃ envelope, checker.checkStoppingViability extrema = .ok envelope) ↔
      (∀ axis, 0 ≤ (extrema axis).velocityPositive ∧ 0 ≤ (extrema axis).velocityNegative) ∧
        ∀ axis, (checker.envelope axis).safeLower ≤
            (checker.stoppingEnvelope extrema).lowerPositions axis ∧
          (checker.stoppingEnvelope extrema).upperPositions axis ≤
            (checker.envelope axis).safeUpper := by
  unfold checkStoppingViability
  cases hsign : axes.find? fun axis =>
      decide ((extrema axis).velocityPositive < 0) || decide ((extrema axis).velocityNegative < 0)
    with
  | some axis =>
    have hbad := List.find?_some hsign
    simp only [reduceCtorEq, exists_false, false_iff]
    intro h
    simp [not_lt.2 (h.1 axis).1, not_lt.2 (h.1 axis).2] at hbad
  | none =>
    rw [find?_axes_eq_none] at hsign
    have hnonneg : ∀ axis,
        0 ≤ (extrema axis).velocityPositive ∧ 0 ≤ (extrema axis).velocityNegative := by
      intro axis
      simpa using hsign axis
    dsimp only
    cases hbounds : axes.find? fun axis =>
        decide ((checker.stoppingEnvelope extrema).lowerPositions axis <
            (checker.envelope axis).safeLower) ||
          decide ((checker.envelope axis).safeUpper <
            (checker.stoppingEnvelope extrema).upperPositions axis) with
    | some axis =>
      have hbad := List.find?_some hbounds
      simp only [reduceCtorEq, exists_false, false_iff]
      intro h
      simp [not_lt.2 (h.2 axis).1, not_lt.2 (h.2 axis).2] at hbad
    | none =>
      rw [find?_axes_eq_none] at hbounds
      refine iff_of_true ⟨_, rfl⟩ ⟨hnonneg, fun axis => ?_⟩
      simpa using hbounds axis

theorem checkSegment_error [SquareRoot K] {start end' : JointPoint K} {result : SegmentCheckResult}
    (h : checker.checkSegment start end' = .error result) : result.code ≠ .none := by
  unfold checkSegment checkExtrema at h
  split at h
  · cases h
    exact RejectCode.noConfusion
  split at h
  · cases h
    exact RejectCode.noConfusion
  dsimp only at h
  split at h
  · rename_i hlimit
    cases h
    split at hlimit
    · cases hlimit
      exact RejectCode.noConfusion
    split at hlimit
    · cases hlimit
      exact RejectCode.noConfusion
    split at hlimit
    · cases hlimit
      exact RejectCode.noConfusion
    · cases hlimit
  · cases h

theorem checkStoppingViability_error {result : SegmentCheckResult}
    (h : checker.checkStoppingViability extrema = .error result) : result.code ≠ .none := by
  unfold checkStoppingViability at h
  split at h
  · cases h
    exact RejectCode.noConfusion
  dsimp only at h
  split at h
  · cases h
    exact RejectCode.noConfusion
  · cases h

/-- A segment passes both checks. -/
def Admissible [SquareRoot K] (checker : LimitChecker K) (start end' : JointPoint K) : Prop :=
  ∃ extrema envelope, checker.checkSegment start end' = .ok extrema ∧
    checker.checkStoppingViability extrema = .ok envelope

instance [SquareRoot K] (checker : LimitChecker K) (start end' : JointPoint K) :
    Decidable (checker.Admissible start end') :=
  match hsegment : checker.checkSegment start end' with
  | .error _ => .isFalse fun ⟨_, _, h, _⟩ => by rw [hsegment] at h; cases h
  | .ok extrema =>
    match hviable : checker.checkStoppingViability extrema with
    | .error _ => .isFalse fun ⟨_, _, h, h'⟩ => by
      rw [hsegment] at h
      cases h
      rw [hviable] at h'
      cases h'
    | .ok envelope => .isTrue ⟨extrema, envelope, hsegment, hviable⟩

theorem admissible_iff [SquareRoot K] {start end' : JointPoint K} :
    checker.Admissible start end' ↔ start.timeNs < end'.timeNs ∧ ∃ extrema,
      (∀ axis, axisExtrema start end' axis = some (extrema axis)) ∧ checker.Viable extrema ∧
        ∀ axis, 0 ≤ (extrema axis).velocityPositive ∧ 0 ≤ (extrema axis).velocityNegative := by
  constructor
  · rintro ⟨extrema, envelope, hsegment, hviable⟩
    obtain ⟨htime, haxes, hcheck⟩ := checkSegment_eq_ok.1 hsegment
    obtain ⟨hposition, hvelocity, hacceleration⟩ := checkExtrema_eq_none.1 hcheck
    obtain ⟨hnonneg, hbounds⟩ := checkStoppingViability_isOk.1 ⟨envelope, hviable⟩
    simp only [breaksPosition, breaksVelocity, breaksAcceleration, Bool.or_eq_false_iff,
      decide_eq_false_iff_not, not_lt] at hposition hvelocity hacceleration
    exact ⟨htime, extrema, haxes, ⟨fun axis => (hposition axis).1, fun axis => (hposition axis).2,
      fun axis => (hvelocity axis).1, fun axis => (hvelocity axis).2,
      fun axis => (hacceleration axis).1, fun axis => (hacceleration axis).2,
      fun axis => (hbounds axis).1, fun axis => (hbounds axis).2⟩, hnonneg⟩
  · rintro ⟨htime, extrema, haxes, hviable, hnonneg⟩
    have hcheck : checker.checkExtrema extrema = none := by
      rw [checkExtrema_eq_none]
      refine ⟨fun axis => ?_, fun axis => ?_, fun axis => ?_⟩
      · simp [breaksPosition, hviable.positionMin axis, hviable.positionMax axis]
      · simp [breaksVelocity, hviable.velocityPositive axis, hviable.velocityNegative axis]
      · simp [breaksAcceleration, hviable.accelerationPositive axis,
          hviable.accelerationNegative axis]
    obtain ⟨envelope, henvelope⟩ := checkStoppingViability_isOk.2
      ⟨hnonneg, fun axis => ⟨hviable.stopLower axis, hviable.stopUpper axis⟩⟩
    exact ⟨extrema, envelope, checkSegment_eq_ok.2 ⟨htime, haxes, hcheck⟩, henvelope⟩

end LimitChecker

end RobotDriver.Rolling
