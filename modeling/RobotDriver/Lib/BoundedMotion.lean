import RobotDriver.Lib.Cubic

/-!
# Motions of bounded acceleration

A motion of one coordinate between two instants is given by the positions and velocities at its
ends. The relation says what a bound on the acceleration in between implies for them; it composes,
and two motions of equal duration bound the second difference of the positions.
-/

variable {K : Type*} [Field K] [LinearOrder K]

/-- From position `x` and velocity `v` to `x'` and `v'` within `h`, accelerating at most by `a`. -/
structure BoundedMotion (a h x v x' v' : K) : Prop where
  duration : 0 ≤ h
  velocity : |v' - v| ≤ a * h
  forward : |x' - x - v * h| ≤ a * h ^ 2 / 2
  backward : |x' - x - v' * h| ≤ a * h ^ 2 / 2

namespace BoundedMotion

variable [IsStrictOrderedRing K] {a h h' x v x' v' x'' v'' : K}

theorem refl : BoundedMotion a 0 x v x v := by
  constructor <;> simp

theorem trans (hm : BoundedMotion a h x v x' v') (hm' : BoundedMotion a h' x' v' x'' v'') :
    BoundedMotion a (h + h') x v x'' v'' where
  duration := add_nonneg hm.duration hm'.duration
  velocity :=
    calc |v'' - v| = |(v'' - v') + (v' - v)| := by ring_nf
      _ ≤ |v'' - v'| + |v' - v| := abs_add_le _ _
      _ ≤ a * h' + a * h := add_le_add hm'.velocity hm.velocity
      _ = a * (h + h') := by ring
  forward := by
    have hdrift : |(v' - v) * h'| ≤ a * h * h' := by
      rw [abs_mul, abs_of_nonneg hm'.duration]
      exact mul_le_mul_of_nonneg_right hm.velocity hm'.duration
    calc |x'' - x - v * (h + h')|
        = |(x'' - x' - v' * h') + (x' - x - v * h) + (v' - v) * h'| := by ring_nf
      _ ≤ |x'' - x' - v' * h'| + |x' - x - v * h| + |(v' - v) * h'| := abs_add_three _ _ _
      _ ≤ a * h' ^ 2 / 2 + a * h ^ 2 / 2 + a * h * h' :=
          add_le_add (add_le_add hm'.forward hm.forward) hdrift
      _ = a * (h + h') ^ 2 / 2 := by ring
  backward := by
    have hdrift : |(v' - v'') * h| ≤ a * h' * h := by
      rw [abs_mul, abs_of_nonneg hm.duration, abs_sub_comm]
      exact mul_le_mul_of_nonneg_right hm'.velocity hm.duration
    calc |x'' - x - v'' * (h + h')|
        = |(x'' - x' - v'' * h') + (x' - x - v' * h) + (v' - v'') * h| := by ring_nf
      _ ≤ |x'' - x' - v'' * h'| + |x' - x - v' * h| + |(v' - v'') * h| := abs_add_three _ _ _
      _ ≤ a * h' ^ 2 / 2 + a * h ^ 2 / 2 + a * h' * h :=
          add_le_add (add_le_add hm'.backward hm.backward) hdrift
      _ = a * (h + h') ^ 2 / 2 := by ring

theorem speed_le (hm : BoundedMotion a h x v x' v') : |v'| ≤ |v| + a * h :=
  calc |v'| = |(v' - v) + v| := by ring_nf
    _ ≤ |v' - v| + |v| := abs_add_le _ _
    _ ≤ a * h + |v| := add_le_add_left hm.velocity _
    _ = |v| + a * h := add_comm _ _

theorem of_constant {b : K} (hb : |b| ≤ a) (hh : 0 ≤ h) :
    BoundedMotion a h x v (x + v * h + 1 / 2 * b * h * h) (v + b * h) where
  duration := hh
  velocity := by
    rw [add_sub_cancel_left, abs_mul, abs_of_nonneg hh]
    exact mul_le_mul_of_nonneg_right hb hh
  forward := by
    have heq : x + v * h + 1 / 2 * b * h * h - x - v * h = b * (h ^ 2 / 2) := by ring
    rw [heq, abs_mul, abs_of_nonneg (by positivity : 0 ≤ h ^ 2 / 2), mul_div_assoc]
    exact mul_le_mul_of_nonneg_right hb (by positivity)
  backward := by
    have heq : x + v * h + 1 / 2 * b * h * h - x - (v + b * h) * h = -b * (h ^ 2 / 2) := by ring
    rw [heq, abs_mul, abs_neg, abs_of_nonneg (by positivity : 0 ≤ h ^ 2 / 2), mul_div_assoc]
    exact mul_le_mul_of_nonneg_right hb (by positivity)

theorem of_cubic (p : CubicPolynomial K) {d s t : K} (hd : 0 < d) (hst : s ≤ t)
    (hs : |p.second s| ≤ a * d ^ 2) (ht : |p.second t| ≤ a * d ^ 2) :
    BoundedMotion a ((t - s) * d) (p.eval s) (p.deriv s / d) (p.eval t) (p.deriv t / d) where
  duration := mul_nonneg (sub_nonneg.2 hst) hd.le
  velocity := by
    have heq : p.deriv t / d - p.deriv s / d =
        (t - s) / (2 * d) * (p.second s + p.second t) := by
      rw [← sub_div, CubicPolynomial.deriv, CubicPolynomial.deriv, CubicPolynomial.second,
        CubicPolynomial.second]
      field_simp
      ring
    have hsum : |p.second s + p.second t| ≤ a * d ^ 2 + a * d ^ 2 :=
      (abs_add_le _ _).trans (add_le_add hs ht)
    have hfactor : 0 ≤ (t - s) / (2 * d) := div_nonneg (sub_nonneg.2 hst) (by positivity)
    rw [heq, abs_mul, abs_of_nonneg hfactor]
    refine (mul_le_mul_of_nonneg_left hsum hfactor).trans_eq ?_
    field_simp
    ring
  forward := by
    have heq : p.eval t - p.eval s - p.deriv s / d * ((t - s) * d) =
        (t - s) ^ 2 / 6 * (2 * p.second s + p.second t) := by
      rw [CubicPolynomial.eval, CubicPolynomial.eval, CubicPolynomial.deriv,
        CubicPolynomial.second, CubicPolynomial.second]
      field_simp
      ring
    have hsum : |2 * p.second s + p.second t| ≤ 2 * (a * d ^ 2) + a * d ^ 2 := by
      refine (abs_add_le _ _).trans (add_le_add ?_ ht)
      rw [abs_mul, abs_two]
      exact mul_le_mul_of_nonneg_left hs zero_le_two
    rw [heq, abs_mul, abs_of_nonneg (by positivity : 0 ≤ (t - s) ^ 2 / 6)]
    refine (mul_le_mul_of_nonneg_left hsum (by positivity)).trans_eq ?_
    ring
  backward := by
    have heq : p.eval t - p.eval s - p.deriv t / d * ((t - s) * d) =
        -((t - s) ^ 2 / 6 * (p.second s + 2 * p.second t)) := by
      rw [CubicPolynomial.eval, CubicPolynomial.eval, CubicPolynomial.deriv,
        CubicPolynomial.second, CubicPolynomial.second]
      field_simp
      ring
    have hsum : |p.second s + 2 * p.second t| ≤ a * d ^ 2 + 2 * (a * d ^ 2) := by
      refine (abs_add_le _ _).trans (add_le_add hs ?_)
      rw [abs_mul, abs_two]
      exact mul_le_mul_of_nonneg_left ht zero_le_two
    rw [heq, abs_neg, abs_mul, abs_of_nonneg (by positivity : 0 ≤ (t - s) ^ 2 / 6)]
    refine (mul_le_mul_of_nonneg_left hsum (by positivity)).trans_eq ?_
    ring

end BoundedMotion

section Brake

variable [IsStrictOrderedRing K] {lower upper x v duration s : K}

theorem brake_share (hduration : 0 < duration) (h0 : 0 ≤ s) (h1 : s ≤ duration) :
    0 ≤ s / duration * (2 - s / duration) ∧ s / duration * (2 - s / duration) ≤ 1 := by
  have hr0 : 0 ≤ s / duration := div_nonneg h0 hduration.le
  have hr1 : s / duration ≤ 1 := (div_le_one hduration).2 h1
  constructor
  · exact mul_nonneg hr0 (by linarith)
  · have hsquare := sq_nonneg (1 - s / duration)
    linarith [hsquare, (by ring : (1 - s / duration) ^ 2 =
      1 - s / duration * (2 - s / duration))]

theorem brake_position_mem (hduration : 0 < duration) (h0 : 0 ≤ s) (h1 : s ≤ duration)
    (hx : lower ≤ x ∧ x ≤ upper)
    (hend : lower ≤ x + 1 / 2 * v * duration ∧ x + 1 / 2 * v * duration ≤ upper) :
    lower ≤ x + v * s + 1 / 2 * (-v / duration) * s * s ∧
      x + v * s + 1 / 2 * (-v / duration) * s * s ≤ upper := by
  obtain ⟨hw0, hw1⟩ := brake_share hduration h0 h1
  have heq : x + v * s + 1 / 2 * (-v / duration) * s * s =
      (1 - s / duration * (2 - s / duration)) * x +
        s / duration * (2 - s / duration) * (x + 1 / 2 * v * duration) := by
    field_simp
    ring
  rw [heq]
  constructor
  · calc lower = (1 - s / duration * (2 - s / duration)) * lower +
          s / duration * (2 - s / duration) * lower := by ring
      _ ≤ _ := add_le_add (mul_le_mul_of_nonneg_left hx.1 (sub_nonneg.2 hw1))
          (mul_le_mul_of_nonneg_left hend.1 hw0)
  · calc (1 - s / duration * (2 - s / duration)) * x +
          s / duration * (2 - s / duration) * (x + 1 / 2 * v * duration)
        ≤ (1 - s / duration * (2 - s / duration)) * upper +
          s / duration * (2 - s / duration) * upper :=
          add_le_add (mul_le_mul_of_nonneg_left hx.2 (sub_nonneg.2 hw1))
            (mul_le_mul_of_nonneg_left hend.2 hw0)
      _ = upper := by ring

theorem brake_velocity_mem (hduration : 0 < duration) (h0 : 0 ≤ s) (h1 : s ≤ duration)
    (hzero : lower ≤ 0 ∧ 0 ≤ upper) (hv : lower ≤ v ∧ v ≤ upper) :
    lower ≤ v + -v / duration * s ∧ v + -v / duration * s ≤ upper := by
  have hr0 : 0 ≤ s / duration := div_nonneg h0 hduration.le
  have hr1 : 0 ≤ 1 - s / duration := sub_nonneg.2 ((div_le_one hduration).2 h1)
  have heq : v + -v / duration * s = (1 - s / duration) * v := by
    field_simp
    ring
  have hsplit : ∀ bound : K, bound = (1 - s / duration) * bound + s / duration * bound := by
    intro bound
    ring
  rw [heq]
  constructor
  · have hscaled := mul_le_mul_of_nonneg_left hv.1 hr1
    have hrest := mul_nonpos_of_nonneg_of_nonpos hr0 hzero.1
    linarith [hsplit lower]
  · have hscaled := mul_le_mul_of_nonneg_left hv.2 hr1
    have hrest := mul_nonneg hr0 hzero.2
    linarith [hsplit upper]

end Brake
