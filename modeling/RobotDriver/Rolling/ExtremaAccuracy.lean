import RobotDriver.Rolling.ExtremaEnclosure

/-!
# How far the computed extrema are from the segment

The bounds of velocity and acceleration are the largest values in their direction, or zero. Those of
the position miss it by no more than the root tolerance, in units of the scale of the root search.
-/

namespace RobotDriver.Rolling

variable {segment : CubicHermite ℝ} {extrema : ScalarKinematicExtrema ℝ}

namespace CubicHermite

/-- The root tolerance in units of the coefficients that the root search divides by. -/
noncomputable def tolerance (segment : CubicHermite ℝ) : ℝ :=
  normalizedRootTolerance * rootScale (3 * segment.c3) (2 * segment.c2) segment.c1

/-- No phase has more of the quantity than the bound, and a bound above zero is the one of a phase.
-/
structure Bounds (segment : CubicHermite ℝ) (quantity : ScalarKinematicState ℝ → ℝ)
    (bound : ℝ) : Prop where
  contains : ∀ t, 0 ≤ t → t ≤ 1 →
    ∃ state, sampleCubicHermite segment t = some state ∧ quantity state ≤ bound
  attained : ∃ t state, sampleCubicHermite segment t = some state ∧
    bound = max (quantity state) 0

/-- The position of every phase lies in the bounds, up to the margin. -/
def PositionWithin (segment : CubicHermite ℝ) (extrema : ScalarKinematicExtrema ℝ)
    (margin : ℝ) : Prop :=
  ∀ t, 0 ≤ t → t ≤ 1 → ∃ state, sampleCubicHermite segment t = some state ∧
    extrema.positionMin - margin ≤ state.position ∧ state.position ≤ extrema.positionMax + margin

theorem position_extremes (segment : CubicHermite ℝ) : ∃ least greatest,
    (0 ≤ least ∧ least ≤ 1) ∧ (0 ≤ greatest ∧ greatest ≤ 1) ∧ ∀ t, 0 ≤ t → t ≤ 1 →
      segment.position least ≤ segment.position t ∧
        segment.position t ≤ segment.position greatest := by
  obtain ⟨least, hleast0, hleast1, hleast⟩ := segment.cubic.exists_least
  obtain ⟨greatest, hgreatest0, hgreatest1, hgreatest⟩ := segment.cubic.exists_greatest
  exact ⟨least, greatest, ⟨hleast0, hleast1⟩, ⟨hgreatest0, hgreatest1⟩,
    fun t h0 h1 => ⟨hleast t h0 h1, hgreatest t h0 h1⟩⟩

theorem Built.velocity_extremes (h : segment.Built) : ∃ least greatest,
    (0 ≤ least ∧ least ≤ 1) ∧ (0 ≤ greatest ∧ greatest ≤ 1) ∧ ∀ t, 0 ≤ t → t ≤ 1 →
      segment.velocity least ≤ segment.velocity t ∧
        segment.velocity t ≤ segment.velocity greatest := by
  obtain ⟨least, hleast0, hleast1, hleast⟩ := segment.cubic.derivative.exists_least
  obtain ⟨greatest, hgreatest0, hgreatest1, hgreatest⟩ := segment.cubic.derivative.exists_greatest
  simp only [CubicPolynomial.eval_derivative] at hleast hgreatest
  exact ⟨least, greatest, ⟨hleast0, hleast1⟩, ⟨hgreatest0, hgreatest1⟩, fun t h0 h1 =>
    ⟨div_le_div_of_nonneg_right (hleast t h0 h1) h.duration_pos.le,
      div_le_div_of_nonneg_right (hgreatest t h0 h1) h.duration_pos.le⟩⟩

theorem Built.acceleration_extremes (h : segment.Built) : ∃ least greatest,
    (0 ≤ least ∧ least ≤ 1) ∧ (0 ≤ greatest ∧ greatest ≤ 1) ∧ ∀ t, 0 ≤ t → t ≤ 1 →
      segment.acceleration least ≤ segment.acceleration t ∧
        segment.acceleration t ≤ segment.acceleration greatest := by
  have hsquare := (mul_pos h.duration_pos h.duration_pos).le
  obtain ⟨least, hleast0, hleast1, hleast⟩ := segment.cubic.derivative.derivative.exists_least
  obtain ⟨greatest, hgreatest0, hgreatest1, hgreatest⟩ :=
    segment.cubic.derivative.derivative.exists_greatest
  simp only [CubicPolynomial.eval_derivative, CubicPolynomial.deriv_derivative] at hleast hgreatest
  exact ⟨least, greatest, ⟨hleast0, hleast1⟩, ⟨hgreatest0, hgreatest1⟩, fun t h0 h1 =>
    ⟨div_le_div_of_nonneg_right (hleast t h0 h1) hsquare,
      div_le_div_of_nonneg_right (hgreatest t h0 h1) hsquare⟩⟩

theorem Built.exists_tight (h : segment.Built) : ∃ tight, segment.Encloses tight ∧
    (∃ t, (0 ≤ t ∧ t ≤ 1) ∧ tight.velocityPositive = max (segment.velocity t) 0) ∧
    (∃ t, (0 ≤ t ∧ t ≤ 1) ∧ tight.velocityNegative = max (-segment.velocity t) 0) ∧
    (∃ t, (0 ≤ t ∧ t ≤ 1) ∧ tight.accelerationPositive = max (segment.acceleration t) 0) ∧
    ∃ t, (0 ≤ t ∧ t ≤ 1) ∧ tight.accelerationNegative = max (-segment.acceleration t) 0 := by
  obtain ⟨low, high, -, -, hposition⟩ := segment.position_extremes
  obtain ⟨slow, fast, hslow, hfast, hvelocity⟩ := h.velocity_extremes
  obtain ⟨falling, rising, hfalling, hrising, hacceleration⟩ := h.acceleration_extremes
  refine ⟨⟨segment.position low, segment.position high, max (segment.velocity fast) 0,
    max (-segment.velocity slow) 0, max (segment.acceleration rising) 0,
    max (-segment.acceleration falling) 0⟩, ?_, ⟨fast, hfast, rfl⟩, ⟨slow, hslow, rfl⟩,
    ⟨rising, hrising, rfl⟩, ⟨falling, hfalling, rfl⟩⟩
  constructor
  · exact fun t h0 h1 => (hposition t h0 h1).1
  · exact fun t h0 h1 => (hposition t h0 h1).2
  · exact fun t h0 h1 => (hvelocity t h0 h1).2.trans (le_max_left _ _)
  · exact fun t h0 h1 => (neg_le_neg (hvelocity t h0 h1).1).trans (le_max_left _ _)
  · exact fun t h0 h1 => (hacceleration t h0 h1).2.trans (le_max_left _ _)
  · exact fun t h0 h1 => (neg_le_neg (hacceleration t h0 h1).1).trans (le_max_left _ _)
  · exact le_max_right _ _
  · exact le_max_right _ _
  · exact le_max_right _ _
  · exact le_max_right _ _

theorem Built.bounds (h : segment.Built) {value : ℝ → ℝ} {quantity : ScalarKinematicState ℝ → ℝ}
    (hquantity : ∀ t, quantity ⟨segment.position t, segment.velocity t, segment.acceleration t⟩ =
      value t) {bound tight : ℝ} (hnonneg : 0 ≤ bound)
    (hcontains : ∀ t, 0 ≤ t → t ≤ 1 → value t ≤ bound) (hwithin : bound ≤ tight)
    (htight : ∃ t, (0 ≤ t ∧ t ≤ 1) ∧ tight = max (value t) 0) : segment.Bounds quantity bound := by
  refine ⟨fun t h0 h1 => ⟨_, h.sample h0 h1, ?_⟩, ?_⟩
  · rw [hquantity]
    exact hcontains t h0 h1
  · obtain ⟨t, ⟨h0, h1⟩, rfl⟩ := htight
    refine ⟨t, _, h.sample h0 h1, ?_⟩
    rw [hquantity]
    exact le_antisymm hwithin (max_le (hcontains t h0 h1) hnonneg)

end CubicHermite

open CubicHermite

theorem scale_pos_of_not_resolved {quadratic linear constant : ℝ}
    (h : ¬Resolved quadratic linear constant) : 0 < rootScale quadratic linear constant := by
  have hnonneg : 0 ≤ rootScale quadratic linear constant :=
    (abs_nonneg constant).trans (le_max_right _ _)
  refine lt_of_le_of_ne hnonneg fun hzero => h (.inl ?_)
  exact (rootScale_eq_zero hzero.symm).1

theorem mem_realRoots_of_not_resolved {quadratic linear constant t : ℝ}
    (h : ¬Resolved quadratic linear constant) (h0 : 0 ≤ t) (h1 : t ≤ 1)
    (hroot : linear * t + constant = 0) : t ∈ realRoots quadratic linear constant := by
  have hscale := scale_pos_of_not_resolved h
  have hsmall : |quadratic / rootScale quadratic linear constant| ≤ normalizedRootTolerance :=
    not_lt.1 fun hlarge => h (.inr hlarge)
  have hconstant : |constant| ≤ |linear| := by
    have heq : constant = -(linear * t) := by linarith
    rw [heq, abs_neg, abs_mul, abs_of_nonneg h0]
    exact mul_le_of_le_one_right (abs_nonneg _) h1
  have hquadratic : |quadratic| < rootScale quadratic linear constant := by
    rw [abs_div, abs_of_pos hscale, div_le_iff₀ hscale] at hsmall
    exact hsmall.trans_lt (mul_lt_of_lt_one_left hscale normalizedTolerance_lt_one)
  have hvalue : rootScale quadratic linear constant = |linear| := by
    have hmax : rootScale quadratic linear constant = max |quadratic| |linear| :=
      max_eq_left (hconstant.trans (le_max_right _ _))
    rw [hmax] at hquadratic ⊢
    refine max_eq_right (le_of_not_ge fun hle => ?_)
    rw [max_eq_left hle] at hquadratic
    exact lt_irrefl _ hquadratic
  have hlinear : |linear / rootScale quadratic linear constant| = 1 := by
    rw [abs_div, abs_of_pos hscale, ← hvalue, div_self hscale.ne']
  unfold realRoots
  simp only [if_neg hscale.ne', if_pos hsmall]
  rw [if_pos (by rw [hlinear]; exact normalizedTolerance_lt_one), List.mem_singleton]
  refine linear_root (fun hzero => ?_) ?_
  · rw [hzero, abs_zero] at hlinear
    exact zero_ne_one hlinear
  · calc linear / rootScale quadratic linear constant * t +
          constant / rootScale quadratic linear constant
        = (linear * t + constant) / rootScale quadratic linear constant := by ring
      _ = 0 := by rw [hroot, zero_div]

theorem leading_le_tolerance (h : ¬segment.Resolved) : |segment.c3| ≤ segment.tolerance := by
  have hscale := scale_pos_of_not_resolved h
  have hsmall : |3 * segment.c3 / rootScale (3 * segment.c3) (2 * segment.c2) segment.c1| ≤
      normalizedRootTolerance := not_lt.1 fun hlarge => h (.inr hlarge)
  rw [abs_div, abs_of_pos hscale, div_le_iff₀ hscale, abs_mul, abs_of_pos three_pos] at hsmall
  unfold tolerance
  linarith [abs_nonneg segment.c3]

theorem position_within_tolerance (hbuilt : segment.Built) (hband : ¬segment.Resolved)
    (h : computeCubicHermiteExtrema segment = some extrema) :
    segment.PositionWithin extrema segment.tolerance := by
  obtain ⟨positions, velocities, heq, hpositions, hvelocities⟩ :=
    computeCubicHermiteExtrema_eq hbuilt
  obtain rfl : velocities = extrema := Option.some.inj (heq.symm.trans h)
  obtain ⟨⟨hmin0, hmin1⟩, hmax0, hmax1⟩ := hpositions.ends
  have hleading := leading_le_tolerance hband
  have hfound : ∀ s, 0 ≤ s → s ≤ 1 → 2 * segment.c2 * s + segment.c1 = 0 →
      positions.positionMin ≤ segment.position s ∧ segment.position s ≤ positions.positionMax :=
    fun s hs0 hs1 hs => hpositions.root_bounds s (mem_realRoots_of_not_resolved hband hs0 hs1 hs)
      hs0 hs1
  intro t h0 h1
  refine ⟨_, hbuilt.sample h0 h1, ?_, ?_⟩
  · rw [hvelocities.positionMin]
    have hlow := segment.cubic.le_eval_of_nearly_critical hmin0 hmin1
      (fun s hs0 hs1 hs => (hfound s hs0 hs1 hs).1) h0 h1
    exact (sub_le_sub_left hleading _).trans hlow
  · rw [hvelocities.positionMax]
    have hhigh := segment.cubic.eval_le_of_nearly_critical hmax0 hmax1
      (fun s hs0 hs1 hs => (hfound s hs0 hs1 hs).2) h0 h1
    exact hhigh.trans (add_le_add_right hleading _)

/-- The extrema of a segment are those of its velocity and its acceleration, or zero. They contain
its position, up to the tolerance where the leading coefficient of its velocity is tiny. -/
theorem extrema_accuracy {startPosition startVelocity endPosition endVelocity durationSeconds : ℝ}
    (hduration : 0 < durationSeconds) : ∃ segment extrema,
      buildCubicHermite startPosition startVelocity endPosition endVelocity durationSeconds =
        some segment ∧
      computeCubicHermiteExtrema segment = some extrema ∧
      segment.Bounds (·.velocity) extrema.velocityPositive ∧
      segment.Bounds (-·.velocity) extrema.velocityNegative ∧
      segment.Bounds (·.acceleration) extrema.accelerationPositive ∧
      segment.Bounds (-·.acceleration) extrema.accelerationNegative ∧
      (segment.Resolved → segment.PositionWithin extrema 0) ∧
      (¬segment.Resolved → segment.PositionWithin extrema segment.tolerance) := by
  have hbuild : (buildCubicHermite startPosition startVelocity endPosition endVelocity
      durationSeconds).isSome := by
    unfold buildCubicHermite
    rw [if_neg (not_le.2 hduration)]
    rfl
  obtain ⟨segment, hsegment⟩ := Option.isSome_iff_exists.1 hbuild
  obtain ⟨hbuilt, -⟩ := built_of_build hsegment
  obtain ⟨-, extrema, hextrema, -, -⟩ := computeCubicHermiteExtrema_eq hbuilt
  obtain ⟨hpositive, hnegative, hrising, hfalling⟩ := extrema_nonneg hbuilt hextrema
  obtain ⟨tight, hencloses, htightPositive, htightNegative, htightRising, htightFalling⟩ :=
    hbuilt.exists_tight
  have hwithin := extrema_within hbuilt hextrema hencloses
  refine ⟨segment, extrema, hsegment, hextrema, ?_, ?_, ?_, ?_, fun hresolved t h0 h1 => ?_,
    fun hband => position_within_tolerance hbuilt hband hextrema⟩
  · exact hbuilt.bounds (fun _ => rfl) hpositive
      (fun t h0 h1 => (extrema_velocity hbuilt hextrema h0 h1).1) hwithin.velocityPositive
      htightPositive
  · exact hbuilt.bounds (fun _ => rfl) hnegative
      (fun t h0 h1 => (extrema_velocity hbuilt hextrema h0 h1).2) hwithin.velocityNegative
      htightNegative
  · exact hbuilt.bounds (fun _ => rfl) hrising
      (fun t h0 h1 => (extrema_acceleration hbuilt hextrema h0 h1).1) hwithin.accelerationPositive
      htightRising
  · exact hbuilt.bounds (fun _ => rfl) hfalling
      (fun t h0 h1 => (extrema_acceleration hbuilt hextrema h0 h1).2) hwithin.accelerationNegative
      htightFalling
  · have henclosed := extrema_encloses hbuilt hresolved hextrema
    refine ⟨_, hbuilt.sample h0 h1, ?_, ?_⟩
    · rw [sub_zero]
      exact henclosed.positionMin t h0 h1
    · rw [add_zero]
      exact henclosed.positionMax t h0 h1

theorem extrema_accuracy_of_rise : ∃ segment extrema,
    buildCubicHermite (0 : ℝ) 0 1 0 1 = some segment ∧
      computeCubicHermiteExtrema segment = some extrema ∧
      segment.Bounds (·.velocity) extrema.velocityPositive ∧
      (segment.Resolved → segment.PositionWithin extrema 0) := by
  obtain ⟨segment, extrema, hsegment, hextrema, hpositive, -, -, -, hresolved, -⟩ :=
    @extrema_accuracy 0 0 1 0 1 one_pos
  exact ⟨segment, extrema, hsegment, hextrema, hpositive, hresolved⟩

/-- A segment that only falls has no phase at its positive velocity bound. -/
theorem velocity_bound_not_attained :
    ¬∀ startPosition startVelocity endPosition endVelocity durationSeconds : ℝ,
      0 < durationSeconds → ∀ segment extrema,
        buildCubicHermite startPosition startVelocity endPosition endVelocity durationSeconds =
          some segment → computeCubicHermiteExtrema segment = some extrema →
        ∃ t state, sampleCubicHermite segment t = some state ∧
          state.velocity = extrema.velocityPositive := by
  intro hattained
  obtain ⟨segment, hsegment⟩ := Option.isSome_iff_exists.1
    (show (buildCubicHermite (0 : ℝ) (-1) (-1) (-1) 1).isSome by norm_num [buildCubicHermite])
  obtain ⟨hbuilt, hposition, hstart, hend, hendVelocity, hduration⟩ := built_of_build hsegment
  obtain ⟨-, extrema, hextrema, -, -⟩ := computeCubicHermiteExtrema_eq hbuilt
  obtain ⟨t, state, hsample, heq⟩ := hattained 0 (-1) (-1) (-1) 1 one_pos segment extrema hsegment
    hextrema
  have hrange : 0 ≤ t ∧ t ≤ 1 := by
    unfold sampleCubicHermite at hsample
    split at hsample
    · cases hsample
    · rename_i hinside
      push Not at hinside
      exact hinside.2
  have hfalls : state.velocity = -1 := by
    rw [hbuilt.sample hrange.1 hrange.2] at hsample
    obtain rfl := Option.some.inj hsample
    change segment.cubic.deriv t / segment.durationSeconds = -1
    rw [hbuilt.cubic_eq, hposition, hstart, hend, hendVelocity, hduration]
    norm_num [CubicPolynomial.deriv, CubicPolynomial.hermite]
  have hnonneg := (extrema_nonneg hbuilt hextrema).1
  rw [← heq, hfalls] at hnonneg
  norm_num at hnonneg

end RobotDriver.Rolling
