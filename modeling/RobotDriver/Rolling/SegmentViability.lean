import RobotDriver.Rolling.ExtremaEnclosure
import RobotDriver.Rolling.LimitChecker

/-!
# Viability of a segment and of its pieces

A segment is stoppable when enclosing bounds pass the checks. An admissible segment is stoppable if
it is resolved on every axis, an initial piece of a stoppable segment is stoppable, and a stoppable
segment is admissible again: the computed extrema never leave an enclosure.
-/

namespace RobotDriver.Rolling

section Folds

variable {K : Type*} [LinearOrder K]

theorem le_foldl_max (f g : Axis → K) (list : List Axis) (d : K) :
    d ≤ list.foldl (fun d axis => max (max d (f axis)) (g axis)) d := by
  induction list generalizing d with
  | nil => exact le_rfl
  | cons axis list ih => exact ((le_max_left _ _).trans (le_max_left _ _)).trans (ih _)

theorem axis_le_foldl_max (f g : Axis → K) {list : List Axis} {axis : Axis} (h : axis ∈ list)
    (d : K) : f axis ≤ list.foldl (fun d axis => max (max d (f axis)) (g axis)) d ∧
      g axis ≤ list.foldl (fun d axis => max (max d (f axis)) (g axis)) d := by
  induction list generalizing d with
  | nil => cases h
  | cons other list ih =>
    rcases List.mem_cons.1 h with rfl | hmem
    · exact ⟨((le_max_right _ _).trans (le_max_left _ _)).trans (le_foldl_max f g list _),
        (le_max_right _ _).trans (le_foldl_max f g list _)⟩
    · exact ih hmem _

theorem foldl_max_le {f g : Axis → K} {bound : K} {list : List Axis}
    (h : ∀ axis, f axis ≤ bound ∧ g axis ≤ bound) {d : K} (hd : d ≤ bound) :
    list.foldl (fun d axis => max (max d (f axis)) (g axis)) d ≤ bound := by
  induction list generalizing d with
  | nil => exact hd
  | cons axis list ih => exact ih (max_le (max_le hd (h axis).1) (h axis).2)

end Folds

variable {K : Type*} [Field K] [LinearOrder K]

/-- Bounds that enclose the segment on every axis pass the checks. -/
structure StoppableWith (checker : LimitChecker K) (start end' : JointPoint K)
    (extrema : SegmentExtrema K) : Prop where
  increasing : start.timeNs < end'.timeNs
  encloses : ∀ axis segment, axisSegment start end' axis = some segment →
    segment.Encloses (extrema axis)
  viable : checker.Viable extrema

def Stoppable (checker : LimitChecker K) (start end' : JointPoint K) : Prop :=
  ∃ extrema, StoppableWith checker start end' extrema

section StopDuration

variable {checker : LimitChecker K} {extrema : SegmentExtrema K}

theorem stopDurationSeconds_nonneg : 0 ≤ checker.stopDurationSeconds extrema :=
  le_foldl_max _ _ _ _

variable (checker extrema) in
theorem velocity_le_stopDuration (axis : Axis) :
    (extrema axis).velocityPositive / (checker.envelope axis).stopAccelerationPositive ≤
        checker.stopDurationSeconds extrema ∧
      (extrema axis).velocityNegative / (checker.envelope axis).stopAccelerationNegative ≤
        checker.stopDurationSeconds extrema :=
  axis_le_foldl_max
    (fun axis => (extrema axis).velocityPositive / (checker.envelope axis).stopAccelerationPositive)
    (fun axis => (extrema axis).velocityNegative / (checker.envelope axis).stopAccelerationNegative)
    (List.mem_finRange axis) 0

end StopDuration

variable [IsStrictOrderedRing K] {checker : LimitChecker K} {start end' : JointPoint K}

theorem seconds_pos {ns : ℕ} (h : 0 < ns) : 0 < (seconds ns : K) :=
  div_pos (Nat.cast_pos.2 h) (by positivity)

theorem axisSegment_isSome (h : start.timeNs < end'.timeNs) (axis : Axis) :
    ∃ segment, axisSegment start end' axis = some segment := by
  unfold axisSegment buildCubicHermite
  rw [if_neg (not_le.2 (seconds_pos (Nat.sub_pos_of_lt h)))]
  exact ⟨_, rfl⟩

section Within

variable {extrema extrema' : SegmentExtrema K}

variable (checker) in
theorem stopDurationSeconds_mono (h : ∀ axis, (extrema' axis).Within (extrema axis)) :
    checker.stopDurationSeconds extrema' ≤ checker.stopDurationSeconds extrema := by
  refine foldl_max_le (fun axis => ?_) stopDurationSeconds_nonneg
  have hvalid := checker.valid axis
  obtain ⟨hpositive, hnegative⟩ := velocity_le_stopDuration checker extrema axis
  exact ⟨(div_le_div_of_nonneg_right (h axis).velocityPositive
      hvalid.stopAccelerationPositive.le).trans hpositive,
    (div_le_div_of_nonneg_right (h axis).velocityNegative
      hvalid.stopAccelerationNegative.le).trans hnegative⟩

theorem viable_of_within (h : ∀ axis, (extrema' axis).Within (extrema axis))
    (hnonneg : ∀ axis,
      0 ≤ (extrema axis).velocityPositive ∧ 0 ≤ (extrema axis).velocityNegative)
    (hviable : checker.Viable extrema) : checker.Viable extrema' where
  positionMin axis := (hviable.positionMin axis).trans (h axis).positionMin
  positionMax axis := (h axis).positionMax.trans (hviable.positionMax axis)
  velocityPositive axis := (h axis).velocityPositive.trans (hviable.velocityPositive axis)
  velocityNegative axis := (h axis).velocityNegative.trans (hviable.velocityNegative axis)
  accelerationPositive axis :=
    (h axis).accelerationPositive.trans (hviable.accelerationPositive axis)
  accelerationNegative axis :=
    (h axis).accelerationNegative.trans (hviable.accelerationNegative axis)
  stopLower axis := by
    have hduration := stopDurationSeconds_mono checker h
    have hpush : 1 / 2 * (extrema' axis).velocityNegative * checker.stopDurationSeconds extrema' ≤
        1 / 2 * (extrema axis).velocityNegative * checker.stopDurationSeconds extrema :=
      mul_le_mul (mul_le_mul_of_nonneg_left (h axis).velocityNegative (by positivity)) hduration
        stopDurationSeconds_nonneg (mul_nonneg (by positivity) (hnonneg axis).2)
    have hstop := hviable.stopLower axis
    have hposition := (h axis).positionMin
    linarith
  stopUpper axis := by
    have hduration := stopDurationSeconds_mono checker h
    have hpush : 1 / 2 * (extrema' axis).velocityPositive * checker.stopDurationSeconds extrema' ≤
        1 / 2 * (extrema axis).velocityPositive * checker.stopDurationSeconds extrema :=
      mul_le_mul (mul_le_mul_of_nonneg_left (h axis).velocityPositive (by positivity)) hduration
        stopDurationSeconds_nonneg (mul_nonneg (by positivity) (hnonneg axis).1)
    have hstop := hviable.stopUpper axis
    have hposition := (h axis).positionMax
    linarith

end Within

section Admissible

variable [SquareRoot K]

theorem axisExtrema_of_segment {axis : Axis} {segment : CubicHermite K}
    (h : axisSegment start end' axis = some segment) :
    ∃ extrema, axisExtrema start end' axis = some extrema ∧
      computeCubicHermiteExtrema segment = some extrema := by
  obtain ⟨-, extrema, heq, -, -⟩ := computeCubicHermiteExtrema_eq
    (CubicHermite.built_of_build h).1
  refine ⟨extrema, ?_, heq⟩
  rw [axisExtrema, h, Option.bind_some, heq]

theorem velocity_nonneg_of_compute {segment : CubicHermite K} {extrema : ScalarKinematicExtrema K}
    (hbuilt : segment.Built) (h : computeCubicHermiteExtrema segment = some extrema) :
    0 ≤ extrema.velocityPositive ∧ 0 ≤ extrema.velocityNegative := by
  obtain ⟨positions, velocities, heq, hpositions, hvelocities⟩ :=
    computeCubicHermiteExtrema_eq hbuilt
  obtain rfl : velocities = extrema := Option.some.inj (heq.symm.trans h)
  constructor
  · refine le_trans ?_ hvelocities.le_velocityPositive
    rw [hpositions.velocityPositive]
    exact le_max_right _ _
  · refine le_trans ?_ hvelocities.le_velocityNegative
    rw [hpositions.velocityNegative]
    exact le_max_right _ _

theorem Stoppable.admissible (h : Stoppable checker start end') :
    checker.Admissible start end' := by
  obtain ⟨bounds, hincreasing, hencloses, hviable⟩ := h
  choose segment hsegment using axisSegment_isSome hincreasing
  choose extrema hextrema hcompute using fun axis => axisExtrema_of_segment (hsegment axis)
  have hbuilt := fun axis => (CubicHermite.built_of_build (hsegment axis)).1
  have henclosed := fun axis => hencloses axis (segment axis) (hsegment axis)
  have hwithin := fun axis => extrema_within (hbuilt axis) (hcompute axis) (henclosed axis)
  rw [LimitChecker.admissible_iff]
  refine ⟨hincreasing, extrema, hextrema, viable_of_within hwithin (fun axis => ?_) hviable,
    fun axis => velocity_nonneg_of_compute (hbuilt axis) (hcompute axis)⟩
  exact ⟨(henclosed axis).velocityPositive_nonneg, (henclosed axis).velocityNegative_nonneg⟩

end Admissible

/-- Every axis of the segment is resolved. -/
def ResolvedSegment (start end' : JointPoint K) : Prop :=
  ∀ axis segment, axisSegment start end' axis = some segment → segment.Resolved

theorem stoppable_of_admissible {checker : LimitChecker ℝ} {start end' : JointPoint ℝ}
    (hresolved : ResolvedSegment start end') (h : checker.Admissible start end') :
    Stoppable checker start end' := by
  obtain ⟨hincreasing, extrema, hextrema, hviable, -⟩ := LimitChecker.admissible_iff.1 h
  refine ⟨extrema, hincreasing, fun axis segment hsegment => ?_, hviable⟩
  obtain ⟨value, haxis, hcompute⟩ := axisExtrema_of_segment hsegment
  obtain rfl : value = extrema axis := Option.some.inj (haxis.symm.trans (hextrema axis))
  exact extrema_encloses (CubicHermite.built_of_build hsegment).1 (hresolved axis segment hsegment)
    hcompute

end RobotDriver.Rolling
