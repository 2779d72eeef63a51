import Mathlib.Analysis.InnerProductSpace.Basic
import Mathlib.Analysis.SpecificLimits.Basic
import RobotDriver.Lib.Numerals

/-!
# Approaching a point in bounded steps

A velocity is pulled towards zero by an acceleration that heads for it, in equal steps. The area
that velocity and acceleration span shrinks with every step, so that in the end the motion is along
a line; there it comes closer by a fixed amount in every other step. It cannot go on for ever
outside of a ball.
-/

open Filter Topology
open scoped RealInnerProductSpace

namespace RadialApproach

section Descent

/-- One step of the distance `x`, the approach velocity `u` and the area `q`. -/
structure Descends (h s θ₀ d₀ c x u q x' u' q' : ℝ) : Prop where
  far : s ≤ x'
  area_nonneg : 0 ≤ q'
  area : q' ≤ (1 - θ₀) * q
  move : x' + h * u' ≤ x
  turn : ∃ θ d, θ₀ ≤ θ ∧ θ ≤ 1 ∧ 0 ≤ d ∧ (d₀ ≤ d ∨ (s / (2 * h)) ^ 2 ≤ u ^ 2 + q / s ^ 2) ∧
    (1 - θ) * u + θ * d - c * q' ≤ u'

variable {h s θ₀ d₀ c x u q x' u' q' : ℝ}

/-- What still turns away from the point. -/
noncomputable def swing (θ₀ c u q : ℝ) : ℝ := max (-u) 0 + 2 * c / θ₀ * q

theorem swing_nonneg (hθ : 0 < θ₀) (hc : 0 < c) (hq : 0 ≤ q) : 0 ≤ swing θ₀ c u q :=
  add_nonneg (le_max_right _ _) (by positivity)

theorem Descends.swing_le (hd : Descends h s θ₀ d₀ c x u q x' u' q') (hθ : 0 < θ₀) (hc : 0 < c)
    (hq : 0 ≤ q) : swing θ₀ c u' q' ≤ (1 - θ₀ / 2) * swing θ₀ c u q := by
  obtain ⟨θ, d, hlow, hhigh, hd0, -, hturn⟩ := hd.turn
  have hback : -u ≤ max (-u) 0 := le_max_left _ _
  have hzero : 0 ≤ max (-u) 0 := le_max_right _ _
  have hθ1 : θ₀ ≤ 1 := hlow.trans hhigh
  have hpull : 0 ≤ θ * d := mul_nonneg (hθ.le.trans hlow) hd0
  have hslower : (1 - θ) * -u ≤ (1 - θ₀) * max (-u) 0 :=
    (mul_le_mul_of_nonneg_left hback (sub_nonneg.2 hhigh)).trans
      (mul_le_mul_of_nonneg_right (by linarith) hzero)
  have hcq : 0 ≤ c * q' := mul_nonneg hc.le hd.area_nonneg
  have hnew : max (-u') 0 ≤ (1 - θ₀) * max (-u) 0 + c * q' := by
    refine max_le (by linarith) (add_nonneg (mul_nonneg (sub_nonneg.2 hθ1) hzero) hcq)
  have harea : c * q' ≤ c * ((1 - θ₀) * q) := mul_le_mul_of_nonneg_left hd.area hc.le
  have harea' : 2 * c / θ₀ * q' ≤ 2 * c / θ₀ * ((1 - θ₀) * q) :=
    mul_le_mul_of_nonneg_left hd.area (by positivity)
  have hratio : 2 * c / θ₀ * ((1 - θ₀) * q) + c * ((1 - θ₀) * q) ≤
      (1 - θ₀ / 2) * (2 * c / θ₀ * q) := by
    have hsame : (1 - θ₀ / 2) * (2 * c / θ₀ * q) -
        (2 * c / θ₀ * ((1 - θ₀) * q) + c * ((1 - θ₀) * q)) = c * θ₀ * q := by
      field_simp
      ring
    have hpos : 0 ≤ c * θ₀ * q := by positivity
    linarith
  unfold swing
  have hmore : (1 - θ₀) * max (-u) 0 ≤ (1 - θ₀ / 2) * max (-u) 0 :=
    mul_le_mul_of_nonneg_right (by linarith) hzero
  linarith

/-- The distance and what the swing can still add to it. -/
noncomputable def reach (h θ₀ c x u q : ℝ) : ℝ := x + 2 * h / θ₀ * swing θ₀ c u q

theorem Descends.reach_le (hd : Descends h s θ₀ d₀ c x u q x' u' q') (hh : 0 < h) (hθ : 0 < θ₀)
    (hc : 0 < c) (hq : 0 ≤ q) : reach h θ₀ c x' u' q' + h * max u' 0 ≤ reach h θ₀ c x u q := by
  have hswing := hd.swing_le hθ hc hq
  have hmove := hd.move
  have hpart : max (-u') 0 ≤ swing θ₀ c u' q' :=
    le_add_of_nonneg_right (mul_nonneg (by positivity) hd.area_nonneg)
  have hsplit : max u' 0 - max (-u') 0 = u' := by
    rcases le_total 0 u' with hle | hle
    · rw [max_eq_left hle, max_eq_right (neg_nonpos.2 hle), sub_zero]
    · rw [max_eq_right hle, max_eq_left (neg_nonneg.2 hle), zero_sub, neg_neg]
  have hup : h * max (-u') 0 ≤ h * swing θ₀ c u' q' := mul_le_mul_of_nonneg_left hpart hh.le
  have hscaled := mul_le_mul_of_nonneg_left hswing (by positivity : 0 ≤ 2 * h / θ₀ + h)
  have hfactor : (2 * h / θ₀ + h) * ((1 - θ₀ / 2) * swing θ₀ c u q) ≤
      2 * h / θ₀ * swing θ₀ c u q := by
    have hsame : 2 * h / θ₀ * swing θ₀ c u q -
        (2 * h / θ₀ + h) * ((1 - θ₀ / 2) * swing θ₀ c u q) = h * θ₀ / 2 * swing θ₀ c u q := by
      field_simp
      ring
    have hpos : 0 ≤ h * θ₀ / 2 * swing θ₀ c u q :=
      mul_nonneg (by positivity) (swing_nonneg hθ hc hq)
    linarith
  have hsum : h * max u' 0 = h * u' + h * max (-u') 0 := by
    rw [← mul_add]
    congr 1
    linarith
  unfold reach
  linarith

theorem Descends.closer {η : ℝ} (hd : Descends h s θ₀ d₀ c x u q x' u' q') (hs : 0 < s)
    (hθ : 0 < θ₀) (hc : 0 < c) (hq : 0 ≤ q) (hswing : swing θ₀ c u q ≤ η)
    (hback : η < s / (4 * h)) (harea : θ₀ / (2 * c) * η ≤ s ^ 2 * (s / (2 * h)) ^ 2 / 2)
    (hpull : 2 * η ≤ θ₀ * d₀ / 2) : s / (4 * h) ≤ u ∨ θ₀ * d₀ / 2 ≤ u' := by
  obtain ⟨θ, d, hlow, hhigh, hd0, hslow, hturn⟩ := hd.turn
  have hpart : 0 ≤ 2 * c / θ₀ * q := by positivity
  have hneg : max (-u) 0 ≤ η := (le_add_of_nonneg_right hpart).trans hswing
  have hq' : 2 * c / θ₀ * q ≤ η := (le_add_of_nonneg_left (le_max_right _ _)).trans hswing
  have hu : -η ≤ u := by linarith [(le_max_left (-u) 0).trans hneg]
  rcases hslow with hlong | hfast
  · right
    have hη : 0 ≤ η := hpart.trans hq'
    have hcq : c * q' ≤ η := by
      have hle : c * q' ≤ c * q :=
        mul_le_mul_of_nonneg_left (hd.area.trans (mul_le_of_le_one_left hq (by linarith))) hc.le
      have hhalf : c * q = θ₀ / 2 * (2 * c / θ₀ * q) := by
        field_simp
      have hsmall : θ₀ / 2 * (2 * c / θ₀ * q) ≤ 1 * η :=
        mul_le_mul (by linarith) hq' hpart zero_le_one
      linarith
    have hslower : -η ≤ (1 - θ) * u := by
      have hfirst : (1 - θ) * -η ≤ (1 - θ) * u := mul_le_mul_of_nonneg_left hu (sub_nonneg.2 hhigh)
      have hsecond : (1 - θ) * η ≤ 1 * η := mul_le_mul_of_nonneg_right (by linarith) hη
      linarith
    have hstrong : θ₀ * d₀ ≤ θ * d := by
      exact (mul_le_mul_of_nonneg_left hlong hθ.le).trans (mul_le_mul_of_nonneg_right hlow hd0)
    linarith
  · left
    have hqs : q / s ^ 2 ≤ (s / (2 * h)) ^ 2 / 2 := by
      rw [div_le_iff₀ (by positivity)]
      have hsame : q = θ₀ / (2 * c) * (2 * c / θ₀ * q) := by
        field_simp
      have hscaled := mul_le_mul_of_nonneg_left hq' (by positivity : 0 ≤ θ₀ / (2 * c))
      linarith
    have hsquare : (s / (4 * h)) ^ 2 ≤ u ^ 2 := by
      have hquarter : (s / (4 * h)) ^ 2 = (s / (2 * h)) ^ 2 / 4 := by ring
      have hnonneg := sq_nonneg (s / (2 * h))
      linarith
    rcases le_abs.1 ((le_abs_self _).trans (sq_le_sq.1 hsquare)) with hup | hdown
    · exact hup
    · linarith

theorem exists_small_swing (hs : 0 < s) (hh : 0 < h) (hθ : 0 < θ₀) (hd₀ : 0 < d₀) (hc : 0 < c) :
    ∃ η, 0 < η ∧ η < s / (4 * h) ∧ θ₀ / (2 * c) * η ≤ s ^ 2 * (s / (2 * h)) ^ 2 / 2 ∧
      2 * η ≤ θ₀ * d₀ / 2 := by
  have hback : 0 < s / (4 * h) / 2 := by positivity
  have harea : 0 < s ^ 2 * (s / (2 * h)) ^ 2 / 2 / (θ₀ / (2 * c)) := by positivity
  have hpull : 0 < θ₀ * d₀ / 2 / 2 := by positivity
  refine ⟨min (s / (4 * h) / 2) (min (s ^ 2 * (s / (2 * h)) ^ 2 / 2 / (θ₀ / (2 * c)))
    (θ₀ * d₀ / 2 / 2)), lt_min hback (lt_min harea hpull), ?_, ?_, ?_⟩
  · exact (min_le_left _ _).trans_lt (half_lt_self (by positivity))
  · rw [← le_div_iff₀' (by positivity)]
    exact (min_le_right _ _).trans (min_le_left _ _)
  · rw [← le_div_iff₀' zero_lt_two]
    exact (min_le_right _ _).trans (min_le_right _ _)

section Endless

variable {x u q : ℕ → ℝ} (hs : 0 < s) (hh : 0 < h) (hθ : 0 < θ₀) (hθ1 : θ₀ ≤ 1) (hd₀ : 0 < d₀)
  (hc : 0 < c) (hq : ∀ n, 0 ≤ q n)
  (hsteps : ∀ n, Descends h s θ₀ d₀ c (x n) (u n) (q n) (x (n + 1)) (u (n + 1)) (q (n + 1)))
include hθ hθ1 hc hq hsteps

theorem tendsto_swing : Tendsto (fun n => swing θ₀ c (u n) (q n)) atTop (𝓝 0) := by
  have hgeometric : ∀ n, swing θ₀ c (u n) (q n) ≤ (1 - θ₀ / 2) ^ n * swing θ₀ c (u 0) (q 0) := by
    intro n
    induction n with
    | zero => rw [pow_zero, one_mul]
    | succ n ih =>
      refine ((hsteps n).swing_le hθ hc (hq n)).trans ?_
      rw [pow_succ', mul_assoc]
      exact mul_le_mul_of_nonneg_left ih (by linarith)
  have hpow := tendsto_pow_atTop_nhds_zero_of_lt_one (by linarith : 0 ≤ 1 - θ₀ / 2)
    (by linarith : 1 - θ₀ / 2 < 1)
  refine squeeze_zero (fun n => swing_nonneg hθ hc (hq n)) hgeometric ?_
  simpa using hpow.mul_const (swing θ₀ c (u 0) (q 0))

include hs hh hd₀

theorem reach_falls : ∃ e, 0 < e ∧ ∃ N, ∀ n, N ≤ n →
    reach h θ₀ c (x (n + 2)) (u (n + 2)) (q (n + 2)) + e ≤ reach h θ₀ c (x n) (u n) (q n) := by
  obtain ⟨η, hη, hback, harea, hpull⟩ := exists_small_swing hs hh hθ hd₀ hc
  obtain ⟨N, hN⟩ := eventually_atTop.1
    ((tendsto_swing hθ hθ1 hc hq hsteps).eventually_lt_const hη)
  refine ⟨h * min (s / (4 * h)) (θ₀ * d₀ / 2), by positivity, N, fun n hn => ?_⟩
  have hfirst := (hsteps n).reach_le hh hθ hc (hq n)
  have hsecond := (hsteps (n + 1)).reach_le hh hθ hc (hq (n + 1))
  have hpos : ∀ y : ℝ, 0 ≤ h * max y 0 := fun y => mul_nonneg hh.le (le_max_right y 0)
  rcases (hsteps (n + 1)).closer hs hθ hc (hq (n + 1)) (hN (n + 1) (by omega)).le hback harea
    hpull with hnear | hnear
  · have hstep : h * min (s / (4 * h)) (θ₀ * d₀ / 2) ≤ h * max (u (n + 1)) 0 :=
      mul_le_mul_of_nonneg_left ((min_le_left _ _).trans (hnear.trans (le_max_left _ _))) hh.le
    linarith [hpos (u (n + 1 + 1))]
  · have hstep : h * min (s / (4 * h)) (θ₀ * d₀ / 2) ≤ h * max (u (n + 1 + 1)) 0 :=
      mul_le_mul_of_nonneg_left ((min_le_right _ _).trans (hnear.trans (le_max_left _ _))) hh.le
    linarith [hpos (u (n + 1))]

theorem no_endless_descent : False := by
  obtain ⟨e, he, N, hfall⟩ := reach_falls hs hh hθ hθ1 hd₀ hc hq hsteps
  have hrun : ∀ k : ℕ, reach h θ₀ c (x (N + 2 * k)) (u (N + 2 * k)) (q (N + 2 * k)) + k * e ≤
      reach h θ₀ c (x N) (u N) (q N) := by
    intro k
    induction k with
    | zero => simp
    | succ k ih =>
      have hnext := hfall (N + 2 * k) (by omega)
      have hindex : N + 2 * (k + 1) = N + 2 * k + 2 := by ring
      rw [hindex]
      push_cast
      linarith
  obtain ⟨k, hk⟩ := exists_nat_gt (reach h θ₀ c (x N) (u N) (q N) / e)
  rw [div_lt_iff₀ he] at hk
  have hfar : s ≤ x (N + 2 * (k + 1)) := (hsteps (N + 2 * k + 1)).far
  have hreach : 0 ≤ reach h θ₀ c (x (N + 2 * (k + 1))) (u (N + 2 * (k + 1)))
      (q (N + 2 * (k + 1))) :=
    add_nonneg (hs.le.trans hfar) (mul_nonneg (by positivity) (swing_nonneg hθ hc (hq _)))
  have hlast := hrun (k + 1)
  push_cast at hlast
  linarith

end Endless

end Descent

section Space

variable {E : Type*} [NormedAddCommGroup E] [InnerProductSpace ℝ E]

/-- The velocity with which `v` approaches zero at the acceleration `a`. -/
noncomputable def approach (v a : E) : ℝ := -⟪v, a⟫ / ‖v‖

/-- The square of the area that two vectors span. -/
noncomputable def area (v a : E) : ℝ := ‖v‖ ^ 2 * ‖a‖ ^ 2 - ⟪v, a⟫ ^ 2

theorem area_nonneg (v a : E) : 0 ≤ area v a := by
  have hle := pow_le_pow_left₀ (abs_nonneg _) (abs_real_inner_le_norm v a) 2
  rw [sq_abs, mul_pow] at hle
  exact sub_nonneg.2 hle

theorem area_add_smul (v a : E) (h : ℝ) : area (v + h • a) a = area v a := by
  have hnorm : ‖v + h • a‖ ^ 2 = ‖v‖ ^ 2 + 2 * (h * ⟪v, a⟫) + h ^ 2 * ‖a‖ ^ 2 := by
    rw [norm_add_sq_real, real_inner_smul_right, norm_smul, mul_pow, Real.norm_eq_abs, sq_abs]
  have hinner : ⟪v + h • a, a⟫ = ⟪v, a⟫ + h * ‖a‖ ^ 2 := by
    rw [inner_add_left, real_inner_smul_left, real_inner_self_eq_norm_sq]
  rw [area, area, hnorm, hinner]
  ring

theorem area_smul_sub (v a : E) (r k : ℝ) : area v (r • a - k • v) = r ^ 2 * area v a := by
  have hnorm : ‖r • a - k • v‖ ^ 2 =
      r ^ 2 * ‖a‖ ^ 2 - 2 * (r * k * ⟪v, a⟫) + k ^ 2 * ‖v‖ ^ 2 := by
    rw [norm_sub_sq_real, norm_smul, norm_smul, mul_pow, mul_pow, Real.norm_eq_abs,
      Real.norm_eq_abs, sq_abs, sq_abs, real_inner_smul_left, real_inner_smul_right,
      real_inner_comm]
    ring
  have hinner : ⟪v, r • a - k • v⟫ = r * ⟪v, a⟫ - k * ‖v‖ ^ 2 := by
    rw [inner_sub_right, real_inner_smul_right, real_inner_smul_right, real_inner_self_eq_norm_sq]
  rw [area, area, hnorm, hinner]
  ring

theorem norm_sq_eq {v : E} (hv : 0 < ‖v‖) (a : E) :
    ‖a‖ ^ 2 = approach v a ^ 2 + area v a / ‖v‖ ^ 2 := by
  rw [approach, area]
  field_simp
  ring

theorem approach_smul_sub {v : E} (hv : 0 < ‖v‖) (a : E) (r k : ℝ) :
    approach v (r • a - (k / ‖v‖) • v) = r * approach v a + k := by
  rw [approach, approach, inner_sub_right, real_inner_smul_right, real_inner_smul_right,
    real_inner_self_eq_norm_sq]
  field_simp
  ring

theorem abs_approach_le {v : E} (hv : 0 < ‖v‖) (a : E) : |approach v a| ≤ ‖a‖ := by
  rw [approach, abs_div, abs_neg, abs_of_pos hv, div_le_iff₀' hv]
  exact abs_real_inner_le_norm v a

theorem norm_add_approach_le {v a : E} {h : ℝ} (hv : 0 < ‖v + h • a‖) :
    ‖v + h • a‖ + h * approach (v + h • a) a ≤ ‖v‖ := by
  have hinner : ⟪v + h • a, v⟫ = ‖v + h • a‖ ^ 2 - h * ⟪v + h • a, a⟫ := by
    have hsame : v = (v + h • a) - h • a := (add_sub_cancel_right v (h • a)).symm
    nth_rewrite 2 [hsame]
    rw [inner_sub_right, real_inner_smul_right, real_inner_self_eq_norm_sq]
  have hle := real_inner_le_norm (v + h • a) v
  rw [hinner] at hle
  refine le_of_mul_le_mul_left (le_trans (le_of_eq ?_) hle) hv
  rw [approach]
  field_simp
  ring

theorem turned_le {X y u w h s P : ℝ} (hX : 0 < X) (hw : 0 ≤ w) (hh : 0 ≤ h) (hs : 0 < s)
    (hy : s ≤ y) (hsq : y ^ 2 = X ^ 2 + h ^ 2 * w) (hP : 0 ≤ P) (hu : u ≤ P) :
    u - (P * h ^ 2 / s ^ 2 + h / s) * w ≤ (X * u - h * w) / y := by
  have hy0 : 0 < y := hs.trans_le hy
  have hle : X ≤ y := by
    refine (pow_le_pow_iff_left₀ hX.le hy0.le two_ne_zero).1 ?_
    rw [hsq]
    exact le_add_of_nonneg_right (mul_nonneg (sq_nonneg h) hw)
  have hgap : (y - X) * y ≤ h ^ 2 * w := by
    have hfactor : (y - X) * (y + X) = h ^ 2 * w := by
      rw [← sub_eq_iff_eq_add'.2 hsq]
      ring
    have hmore := mul_nonneg (sub_nonneg.2 hle) hX.le
    linarith
  have hfirst : u * (y - X) ≤ P * h ^ 2 / s ^ 2 * w * y := by
    have hbound : u * (y - X) ≤ P * (y - X) := mul_le_mul_of_nonneg_right hu (sub_nonneg.2 hle)
    have hshort : y - X ≤ h ^ 2 * w / y := (le_div_iff₀ hy0).2 hgap
    have hlong : h ^ 2 * w / y ≤ h ^ 2 * w * (y / s ^ 2) := by
      rw [div_eq_mul_inv]
      refine mul_le_mul_of_nonneg_left ?_ (mul_nonneg (sq_nonneg h) hw)
      rw [inv_le_iff_one_le_mul₀ hy0, div_mul_eq_mul_div, one_le_div (by positivity), ← sq]
      exact pow_le_pow_left₀ hs.le hy 2
    have hscaled := mul_le_mul_of_nonneg_left (hshort.trans hlong) hP
    have hsame : P * h ^ 2 / s ^ 2 * w * y = P * (h ^ 2 * w * (y / s ^ 2)) := by ring
    linarith
  have hsecond : h * w ≤ h / s * w * y := by
    have hratio : 1 ≤ y / s := (one_le_div hs).2 hy
    have hscaled := mul_le_mul_of_nonneg_left hratio (mul_nonneg hh hw)
    have hsame : h / s * w * y = h * w * (y / s) := by ring
    linarith
  rw [le_div_iff₀ hy0]
  linarith

theorem approach_sub_le {v a : E} {h s P : ℝ} (hh : 0 ≤ h) (hs : 0 < s) (hv : s ≤ ‖v‖)
    (hv' : s ≤ ‖v + h • a‖) (hahead : 0 < ⟪v + h • a, v⟫) (ha : ‖a‖ ≤ P) :
    approach v a - (P * h ^ 2 / s ^ 2 + h / s) / s ^ 2 * area v a ≤ approach (v + h • a) a := by
  have hx : 0 < ‖v‖ := hs.trans_le hv
  have hP : 0 ≤ P := (norm_nonneg a).trans ha
  have harea : 0 ≤ area v a / ‖v‖ ^ 2 := div_nonneg (area_nonneg v a) (sq_nonneg _)
  have hinner : ⟪v, a⟫ = -(‖v‖ * approach v a) := by
    rw [approach]
    field_simp
  have hahead' : ⟪v + h • a, v⟫ = ‖v‖ * (‖v‖ - h * approach v a) := by
    rw [inner_add_left, real_inner_smul_left, real_inner_self_eq_norm_sq, real_inner_comm, hinner]
    ring
  have hX : 0 < ‖v‖ - h * approach v a := by
    rw [hahead'] at hahead
    exact (mul_pos_iff_of_pos_left hx).1 hahead
  have hsq : ‖v + h • a‖ ^ 2 =
      (‖v‖ - h * approach v a) ^ 2 + h ^ 2 * (area v a / ‖v‖ ^ 2) := by
    rw [norm_add_sq_real, real_inner_smul_right, norm_smul, mul_pow, Real.norm_eq_abs, sq_abs,
      norm_sq_eq hx a, hinner]
    ring
  have hnew : approach (v + h • a) a =
      ((‖v‖ - h * approach v a) * approach v a - h * (area v a / ‖v‖ ^ 2)) / ‖v + h • a‖ := by
    have hturned : ⟪v + h • a, a⟫ = ⟪v, a⟫ + h * ‖a‖ ^ 2 := by
      rw [inner_add_left, real_inner_smul_left, real_inner_self_eq_norm_sq]
    rw [approach, hturned, norm_sq_eq hx a, hinner]
    congr 1
    ring
  have hturn := turned_le hX harea hh hs hv' hsq hP ((le_abs_self _).trans
    ((abs_approach_le hx a).trans ha))
  rw [hnew]
  refine le_trans ?_ hturn
  have hless : area v a / ‖v‖ ^ 2 ≤ area v a / s ^ 2 :=
    div_le_div_of_nonneg_left (area_nonneg v a) (by positivity) (pow_le_pow_left₀ hs.le hv 2)
  have hfactor : 0 ≤ P * h ^ 2 / s ^ 2 + h / s := by positivity
  have hscaled := mul_le_mul_of_nonneg_left hless hfactor
  have hsame : (P * h ^ 2 / s ^ 2 + h / s) / s ^ 2 * area v a =
      (P * h ^ 2 / s ^ 2 + h / s) * (area v a / s ^ 2) := by ring
  linarith

/-- One step of a velocity `v` that an acceleration `a` pulls towards zero. -/
structure Pulled (h s P θ₀ d₀ : ℝ) (v a v' a' : E) : Prop where
  far : s ≤ ‖v‖
  far' : s ≤ ‖v'‖
  ahead : 0 < ⟪v', v⟫
  move : v' = v + h • a'
  bounded : ‖a'‖ ≤ P
  turn : ∃ θ d, θ₀ ≤ θ ∧ θ ≤ 1 ∧ 0 ≤ d ∧ (2 * (h * ‖a‖) ≤ ‖v‖ → d₀ ≤ d) ∧
    a' = (1 - θ) • a - (θ * d / ‖v‖) • v

theorem Pulled.descends {h s P θ₀ d₀ : ℝ} {v a v' a' : E} (hp : Pulled h s P θ₀ d₀ v a v' a')
    (hh : 0 < h) (hs : 0 < s) (hθ : 0 < θ₀) :
    Descends h s θ₀ d₀ ((P * h ^ 2 / s ^ 2 + h / s) / s ^ 2) ‖v‖ (approach v a) (area v a)
      ‖v'‖ (approach v' a') (area v' a') := by
  obtain ⟨hfar, hfar', hahead, rfl, hbounded, θ, d, hlow, hhigh, hd, hslow, rfl⟩ := hp
  have hx : 0 < ‖v‖ := hs.trans_le hfar
  have hshrink : area (v + h • ((1 - θ) • a - (θ * d / ‖v‖) • v))
      ((1 - θ) • a - (θ * d / ‖v‖) • v) = (1 - θ) ^ 2 * area v a := by
    rw [area_add_smul, area_smul_sub]
  refine ⟨hfar', area_nonneg _ _, ?_, norm_add_approach_le (hs.trans_le hfar'), θ, d, hlow, hhigh,
    hd, ?_, ?_⟩
  · rw [hshrink]
    refine mul_le_mul_of_nonneg_right ?_ (area_nonneg v a)
    have hle : (1 - θ) * (1 - θ) ≤ 1 * (1 - θ₀) :=
      mul_le_mul (by linarith) (by linarith) (by linarith) zero_le_one
    linarith [sq (1 - θ)]
  · by_cases hnear : 2 * (h * ‖a‖) ≤ ‖v‖
    · exact .inl (hslow hnear)
    · right
      have hfast : s / (2 * h) ≤ ‖a‖ := by
        rw [div_le_iff₀' (by positivity)]
        linarith
      have hsquare := pow_le_pow_left₀ (by positivity) hfast 2
      rw [norm_sq_eq hx a] at hsquare
      have hless : area v a / ‖v‖ ^ 2 ≤ area v a / s ^ 2 :=
        div_le_div_of_nonneg_left (area_nonneg v a) (by positivity) (pow_le_pow_left₀ hs.le hfar 2)
      linarith
  · have hturned := approach_sub_le hh.le hs hfar hfar' hahead hbounded
    rw [area_add_smul] at hshrink ⊢
    rwa [approach_smul_sub hx] at hturned

theorem no_endless_pull {h s P θ₀ d₀ : ℝ} (hh : 0 < h) (hs : 0 < s) (hP : 0 ≤ P) (hθ : 0 < θ₀)
    (hθ1 : θ₀ ≤ 1) (hd₀ : 0 < d₀) (v a : ℕ → E)
    (hp : ∀ n, Pulled h s P θ₀ d₀ (v n) (a n) (v (n + 1)) (a (n + 1))) : False :=
  no_endless_descent hs hh hθ hθ1 hd₀ (by positivity) (fun n => area_nonneg (v n) (a n))
    fun n => (hp n).descends hh hs hθ

end Space

end RadialApproach
