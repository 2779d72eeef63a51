import RobotDriver.Rolling.CubicHermite

/-!
# Enclosure by the computed extrema

Over the real numbers the root search finds every zero of the derivative in the unit interval,
unless its leading coefficient is tiny without being zero. The velocity is free of the exception.
-/

namespace RobotDriver.Rolling

section Resolved

variable {K : Type*} [Field K] [LinearOrder K]

/-- The leading coefficient is zero or above the root tolerance. -/
def Resolved (quadratic linear constant : K) : Prop :=
  quadratic = 0 ∨ normalizedRootTolerance < |quadratic / rootScale quadratic linear constant|

def CubicHermite.Resolved (segment : CubicHermite K) : Prop :=
  Rolling.Resolved (3 * segment.c3) (2 * segment.c2) segment.c1

instance (segment : CubicHermite K) : Decidable segment.Resolved :=
  inferInstanceAs (Decidable (_ ∨ _))

end Resolved

theorem normalizedTolerance_lt_one : (normalizedRootTolerance : ℝ) < 1 := by
  norm_num [normalizedRootTolerance]

section Roots

variable {a b c t : ℝ}

theorem linear_root (hb : b ≠ 0) (hroot : b * t + c = 0) : t = -c / b := by
  rw [eq_div_iff hb]
  linarith

theorem discriminant_of_root (hroot : a * t * t + b * t + c = 0) :
    -4 * a * c + b * b = (2 * a * t + b) ^ 2 := by
  linear_combination -4 * a * hroot

theorem copysign_mul_self (magnitude sign : ℝ) :
    copysign magnitude sign * copysign magnitude sign = magnitude * magnitude := by
  unfold copysign
  split
  · rw [neg_mul_neg, abs_mul_abs_self]
  · rw [abs_mul_abs_self]

theorem add_copysign_ne_zero {magnitude : ℝ} (h : magnitude ≠ 0) : b + copysign magnitude b ≠ 0 := by
  have hpos : 0 < |magnitude| := abs_pos.2 h
  unfold copysign
  split
  · linarith
  · intro hzero
    linarith

theorem stable_root (ha : a ≠ 0) (hroot : a * t * t + b * t + c = 0) {squareRoot : ℝ}
    (hsquare : squareRoot * squareRoot = (2 * a * t + b) ^ 2) (hpos : squareRoot ≠ 0) :
    t = -(1 / 2) * (b + copysign squareRoot b) / a ∨
      t = c / (-(1 / 2) * (b + copysign squareRoot b)) := by
  have hcopy : copysign squareRoot b * copysign squareRoot b = (2 * a * t + b) ^ 2 :=
    (copysign_mul_self _ _).trans hsquare
  have hq : -(1 / 2) * (b + copysign squareRoot b) ≠ 0 :=
    mul_ne_zero (by norm_num) (add_copysign_ne_zero hpos)
  have hfactor : (copysign squareRoot b - (2 * a * t + b)) *
      (copysign squareRoot b + (2 * a * t + b)) = 0 := by
    linear_combination hcopy
  rcases mul_eq_zero.1 hfactor with hminus | hplus
  · right
    rw [eq_div_iff hq]
    linear_combination -(1 / 2) * t * hminus - hroot
  · left
    rw [eq_div_iff ha]
    linear_combination (1 / 2) * hplus

end Roots

theorem mem_quadraticRoots {a b c t : ℝ} (ha : a ≠ 0) (hroot : a * t * t + b * t + c = 0) :
    t ∈ quadraticRoots a b c := by
  have hdiscriminant := discriminant_of_root hroot
  have hnonneg : ¬-4 * a * c + b * b < 0 := by
    rw [hdiscriminant]
    exact not_lt.2 (sq_nonneg _)
  have hclamped : ¬(-4 * a * c + b * b < 0 ∧ -(-4 * a * c + b * b) ≤
      normalizedRootTolerance * (b * b + |4 * a * c|)) := fun h => hnonneg h.1
  have hsquare : SquareRoot.squareRoot (-4 * a * c + b * b) *
      SquareRoot.squareRoot (-4 * a * c + b * b) = (2 * a * t + b) ^ 2 := by
    rw [hdiscriminant]
    exact Real.mul_self_sqrt (sq_nonneg _)
  unfold quadraticRoots
  simp only [if_neg hclamped, if_neg hnonneg]
  by_cases hzero : SquareRoot.squareRoot (-4 * a * c + b * b) = 0
  · rw [if_pos hzero, List.mem_singleton, eq_div_iff (mul_ne_zero two_ne_zero ha)]
    rw [hzero, mul_zero] at hsquare
    have hslope := (pow_eq_zero_iff two_ne_zero).1 hsquare.symm
    linarith
  · rw [if_neg hzero, if_pos (mul_ne_zero (by norm_num) (add_copysign_ne_zero hzero))]
    rcases stable_root ha hroot hsquare hzero with h | h
    · exact List.mem_cons.2 (.inl h)
    · exact List.mem_cons_of_mem _ (List.mem_singleton.2 h)

theorem tolerance_lt_linear {linear constant t : ℝ} (hscale : rootScale 0 linear constant ≠ 0)
    (h0 : 0 ≤ t) (h1 : t ≤ 1) (hroot : linear * t + constant = 0) :
    normalizedRootTolerance < |linear / rootScale 0 linear constant| := by
  have hconstant : |constant| ≤ |linear| := by
    have heq : constant = -(linear * t) := by linarith
    rw [heq, abs_neg, abs_mul, abs_of_nonneg h0]
    exact mul_le_of_le_one_right (abs_nonneg _) h1
  have hvalue : rootScale 0 linear constant = |linear| := by
    rw [rootScale, abs_zero, max_eq_right (abs_nonneg linear), max_eq_left hconstant]
  rw [hvalue] at hscale
  rw [hvalue, abs_div, abs_abs, div_self hscale]
  exact normalizedTolerance_lt_one

theorem mem_realRoots {quadratic linear constant t : ℝ}
    (hresolved : Resolved quadratic linear constant) (h0 : 0 ≤ t) (h1 : t ≤ 1)
    (hroot : quadratic * t * t + linear * t + constant = 0)
    (hscale : rootScale quadratic linear constant ≠ 0) :
    t ∈ realRoots quadratic linear constant := by
  have htolerance := normalizedTolerance_pos (K := ℝ)
  have hnormal : ∀ scale : ℝ,
      quadratic / scale * t * t + linear / scale * t + constant / scale = 0 := by
    intro scale
    calc quadratic / scale * t * t + linear / scale * t + constant / scale
        = (quadratic * t * t + linear * t + constant) / scale := by ring
      _ = 0 := by rw [hroot, zero_div]
  unfold realRoots
  simp only [if_neg hscale]
  rcases hresolved with rfl | hlarge
  · have hlinear := tolerance_lt_linear hscale h0 h1 (by linarith)
    rw [if_pos (by rw [zero_div, abs_zero]; exact htolerance.le), if_pos hlinear,
      List.mem_singleton]
    refine linear_root (fun hzero => ?_) ?_
    · rw [hzero, abs_zero] at hlinear
      exact lt_asymm hlinear htolerance
    · have h := hnormal (rootScale 0 linear constant)
      rwa [zero_div, zero_mul, zero_mul, zero_add] at h
  · rw [if_neg (not_le.2 hlarge)]
    refine mem_quadraticRoots (fun hzero => ?_) (hnormal _)
    rw [hzero, abs_zero] at hlarge
    exact lt_asymm hlarge htolerance

theorem rootScale_eq_zero {quadratic linear constant : ℝ}
    (h : rootScale quadratic linear constant = 0) :
    quadratic = 0 ∧ linear = 0 ∧ constant = 0 := by
  have hquadratic := (le_max_left _ _).trans ((le_max_left _ |constant|).trans h.le)
  have hlinear := (le_max_right |quadratic| _).trans ((le_max_left _ |constant|).trans h.le)
  have hconstant := (le_max_right (max |quadratic| |linear|) _).trans h.le
  exact ⟨abs_nonpos_iff.1 hquadratic, abs_nonpos_iff.1 hlinear, abs_nonpos_iff.1 hconstant⟩

section Enclosure

variable {segment : CubicHermite ℝ} {extrema : ScalarKinematicExtrema ℝ}

theorem position_bounds_of_critical (hresolved : segment.Resolved)
    {before after : ScalarKinematicExtrema ℝ}
    (hfold : PositionFold segment (realRoots (3 * segment.c3) (2 * segment.c2) segment.c1)
      before after) (hbefore : before.positionMin ≤ segment.position 0 ∧
        segment.position 0 ≤ before.positionMax) {t : ℝ} (h0 : 0 ≤ t) (h1 : t ≤ 1)
    (hcritical : segment.cubic.deriv t = 0) :
    after.positionMin ≤ segment.position t ∧ segment.position t ≤ after.positionMax := by
  by_cases hscale : rootScale (3 * segment.c3) (2 * segment.c2) segment.c1 = 0
  · obtain ⟨h3, h2, hc1⟩ := rootScale_eq_zero hscale
    have hconstant : segment.position t = segment.position 0 := by
      have hc3 : segment.c3 = 0 := by linarith
      have hc2 : segment.c2 = 0 := by linarith
      simp [CubicHermite.position, CubicPolynomial.eval, CubicHermite.cubic, hc3, hc2, hc1]
    rw [hconstant]
    exact ⟨hfold.positionMin_le.trans hbefore.1, hbefore.2.trans hfold.le_positionMax⟩
  · have hroot : 3 * segment.c3 * t * t + 2 * segment.c2 * t + segment.c1 = 0 := by
      rw [← hcritical]
      simp only [CubicPolynomial.deriv, CubicHermite.cubic]
      ring
    exact hfold.root_bounds t (mem_realRoots hresolved h0 h1 hroot hscale) h0 h1

theorem velocity_bounds_of_critical {before after : ScalarKinematicExtrema ℝ}
    (hfold : VelocityFold segment (realRoots 0 (6 * segment.c3) (2 * segment.c2)) before after)
    (hbefore : segment.velocity 0 ≤ before.velocityPositive ∧
      -segment.velocity 0 ≤ before.velocityNegative) {t : ℝ} (h0 : 0 ≤ t) (h1 : t ≤ 1)
    (hcritical : segment.cubic.second t = 0) :
    segment.velocity t ≤ after.velocityPositive ∧ -segment.velocity t ≤ after.velocityNegative := by
  by_cases hscale : rootScale 0 (6 * segment.c3) (2 * segment.c2) = 0
  · obtain ⟨-, h3, h2⟩ := rootScale_eq_zero hscale
    have hconstant : segment.velocity t = segment.velocity 0 := by
      have hc3 : segment.c3 = 0 := by linarith
      have hc2 : segment.c2 = 0 := by linarith
      simp [CubicHermite.velocity, CubicPolynomial.deriv, CubicHermite.cubic, hc3, hc2]
    rw [hconstant]
    exact ⟨hbefore.1.trans hfold.le_velocityPositive, hbefore.2.trans hfold.le_velocityNegative⟩
  · have hroot : 0 * t * t + 6 * segment.c3 * t + 2 * segment.c2 = 0 := by
      simp only [CubicPolynomial.second, CubicHermite.cubic] at hcritical
      linarith
    exact hfold.root_bounds t (mem_realRoots (.inl rfl) h0 h1 hroot hscale) h0 h1

theorem velocity_enclosed (hbuilt : segment.Built) {positive negative : ℝ}
    (hcritical : ∀ t, 0 ≤ t → t ≤ 1 → segment.cubic.second t = 0 →
      segment.velocity t ≤ positive ∧ -segment.velocity t ≤ negative)
    (hstart : segment.velocity 0 ≤ positive ∧ -segment.velocity 0 ≤ negative)
    (hend : segment.velocity 1 ≤ positive ∧ -segment.velocity 1 ≤ negative) {t : ℝ} (h0 : 0 ≤ t)
    (h1 : t ≤ 1) : segment.velocity t ≤ positive ∧ -segment.velocity t ≤ negative := by
  have hduration := hbuilt.duration_pos
  have hupper : ∀ s, segment.velocity s ≤ positive ↔
      segment.cubic.derivative.eval s ≤ positive * segment.durationSeconds := by
    intro s
    rw [CubicHermite.velocity, div_le_iff₀ hduration, CubicPolynomial.eval_derivative]
  have hlower : ∀ s, -segment.velocity s ≤ negative ↔
      -(negative * segment.durationSeconds) ≤ segment.cubic.derivative.eval s := by
    intro s
    rw [CubicHermite.velocity, neg_le, le_div_iff₀ hduration, neg_mul, CubicPolynomial.eval_derivative]
  constructor
  · rw [hupper]
    refine CubicPolynomial.eval_le_of_critical _ ((hupper 0).1 hstart.1) ((hupper 1).1 hend.1)
      (fun s hs0 hs1 hs => (hupper s).1 (hcritical s hs0 hs1 ?_).1) h0 h1
    rwa [CubicPolynomial.deriv_derivative] at hs
  · rw [hlower]
    refine CubicPolynomial.le_eval_of_critical _ ((hlower 0).1 hstart.2) ((hlower 1).1 hend.2)
      (fun s hs0 hs1 hs => (hlower s).1 (hcritical s hs0 hs1 ?_).2) h0 h1
    rwa [CubicPolynomial.deriv_derivative] at hs

theorem extrema_velocity (hbuilt : segment.Built)
    (h : computeCubicHermiteExtrema segment = some extrema) {t : ℝ} (h0 : 0 ≤ t) (h1 : t ≤ 1) :
    segment.velocity t ≤ extrema.velocityPositive ∧
      -segment.velocity t ≤ extrema.velocityNegative := by
  obtain ⟨positions, velocities, heq, hpositions, hvelocities⟩ :=
    computeCubicHermiteExtrema_eq hbuilt
  obtain rfl : velocities = extrema := Option.some.inj (heq.symm.trans h)
  have hpositive : positions.velocityPositive = (endpointExtrema segment).velocityPositive :=
    hpositions.velocityPositive
  have hnegative : positions.velocityNegative = (endpointExtrema segment).velocityNegative :=
    hpositions.velocityNegative
  have hstart : segment.velocity 0 ≤ positions.velocityPositive ∧
      -segment.velocity 0 ≤ positions.velocityNegative := by
    rw [hpositive, hnegative]
    exact ⟨(le_max_left _ _).trans (le_max_left _ _), (le_max_left _ _).trans (le_max_left _ _)⟩
  have hend : segment.velocity 1 ≤ positions.velocityPositive ∧
      -segment.velocity 1 ≤ positions.velocityNegative := by
    rw [hpositive, hnegative]
    exact ⟨(le_max_right _ _).trans (le_max_left _ _), (le_max_right _ _).trans (le_max_left _ _)⟩
  have hwiden : ∀ {t}, segment.velocity t ≤ positions.velocityPositive ∧
      -segment.velocity t ≤ positions.velocityNegative →
        segment.velocity t ≤ velocities.velocityPositive ∧
          -segment.velocity t ≤ velocities.velocityNegative :=
    fun hbound => ⟨hbound.1.trans hvelocities.le_velocityPositive,
      hbound.2.trans hvelocities.le_velocityNegative⟩
  exact velocity_enclosed hbuilt
    (fun s hs0 hs1 => velocity_bounds_of_critical hvelocities hstart hs0 hs1) (hwiden hstart)
    (hwiden hend) h0 h1

theorem extrema_nonneg (hbuilt : segment.Built)
    (h : computeCubicHermiteExtrema segment = some extrema) :
    0 ≤ extrema.velocityPositive ∧ 0 ≤ extrema.velocityNegative ∧
      0 ≤ extrema.accelerationPositive ∧ 0 ≤ extrema.accelerationNegative := by
  obtain ⟨positions, velocities, heq, hpositions, hvelocities⟩ :=
    computeCubicHermiteExtrema_eq hbuilt
  obtain rfl : velocities = extrema := Option.some.inj (heq.symm.trans h)
  refine ⟨le_trans ?_ hvelocities.le_velocityPositive, le_trans ?_ hvelocities.le_velocityNegative,
    ?_, ?_⟩
  · rw [hpositions.velocityPositive]
    exact le_max_right _ _
  · rw [hpositions.velocityNegative]
    exact le_max_right _ _
  · rw [hvelocities.accelerationPositive, hpositions.accelerationPositive]
    exact le_max_right _ _
  · rw [hvelocities.accelerationNegative, hpositions.accelerationNegative]
    exact le_max_right _ _

theorem PositionFold.ends {roots : List ℝ} {after : ScalarKinematicExtrema ℝ}
    (h : PositionFold segment roots (endpointExtrema segment) after) :
    (after.positionMin ≤ segment.position 0 ∧ after.positionMin ≤ segment.position 1) ∧
      segment.position 0 ≤ after.positionMax ∧ segment.position 1 ≤ after.positionMax :=
  ⟨⟨h.positionMin_le.trans (min_le_left _ _), h.positionMin_le.trans (min_le_right _ _)⟩,
    (le_max_left _ _).trans h.le_positionMax, (le_max_right _ _).trans h.le_positionMax⟩

theorem extrema_encloses (hbuilt : segment.Built) (hresolved : segment.Resolved)
    (h : computeCubicHermiteExtrema segment = some extrema) : segment.Encloses extrema := by
  obtain ⟨positions, velocities, heq, hpositions, hvelocities⟩ :=
    computeCubicHermiteExtrema_eq hbuilt
  obtain rfl : velocities = extrema := Option.some.inj (heq.symm.trans h)
  obtain ⟨⟨hmin0, hmin1⟩, hmax0, hmax1⟩ := hpositions.ends
  have hcritical := fun t (h0 : 0 ≤ t) (h1 : t ≤ 1) => position_bounds_of_critical hresolved
    hpositions ⟨min_le_left _ _, le_max_left _ _⟩ h0 h1
  obtain ⟨hpositive, hnegative, hrising, hfalling⟩ := extrema_nonneg hbuilt h
  refine ⟨fun t h0 h1 => ?_, fun t h0 h1 => ?_, fun t h0 h1 => (extrema_velocity hbuilt h h0 h1).1,
    fun t h0 h1 => (extrema_velocity hbuilt h h0 h1).2,
    fun t h0 h1 => (extrema_acceleration hbuilt h h0 h1).1,
    fun t h0 h1 => (extrema_acceleration hbuilt h h0 h1).2, hpositive, hnegative, hrising,
    hfalling⟩
  · rw [hvelocities.positionMin]
    exact segment.cubic.le_eval_of_critical hmin0 hmin1
      (fun s hs0 hs1 hs => (hcritical s hs0 hs1 hs).1) h0 h1
  · rw [hvelocities.positionMax]
    exact segment.cubic.eval_le_of_critical hmax0 hmax1
      (fun s hs0 hs1 hs => (hcritical s hs0 hs1 hs).2) h0 h1

end Enclosure

end RobotDriver.Rolling
