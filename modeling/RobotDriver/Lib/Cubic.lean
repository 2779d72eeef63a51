import Mathlib.Analysis.Calculus.Deriv.Polynomial
import Mathlib.Analysis.Calculus.LocalExtr.Basic
import Mathlib.Topology.Algebra.Module.ModuleTopology
import RobotDriver.Lib.Numerals

/-!
# Cubics over the unit interval

A cubic is given by its coefficients. The values and slopes at the two ends of an interval
determine it, an initial piece of it is a rescaled cubic, and over the reals its range on the unit
interval is spanned by the ends and by the zeros of its derivative.
-/

@[ext]
structure CubicPolynomial (K : Type*) where
  c0 : K
  c1 : K
  c2 : K
  c3 : K

namespace CubicPolynomial

variable {K : Type*} [Field K] (p : CubicPolynomial K)

def eval (t : K) : K := ((p.c3 * t + p.c2) * t + p.c1) * t + p.c0

def deriv (t : K) : K := (3 * p.c3 * t + 2 * p.c2) * t + p.c1

def second (t : K) : K := 2 * p.c2 + 6 * p.c3 * t

/-- The cubic with the given values and slopes at 0 and 1. -/
def hermite (x d x' d' : K) : CubicPolynomial K where
  c0 := x
  c1 := d
  c2 := -3 * x - 2 * d + 3 * x' - d'
  c3 := 2 * x + d - 2 * x' + d'

/-- The derivative as a cubic. -/
def derivative : CubicPolynomial K := ⟨p.c1, 2 * p.c2, 3 * p.c3, 0⟩

def rescale (s : K) : CubicPolynomial K := ⟨p.c0, p.c1 * s, p.c2 * s ^ 2, p.c3 * s ^ 3⟩

/-- The cubic without its leading term. -/
def truncate : CubicPolynomial K := ⟨p.c0, p.c1, p.c2, 0⟩

def neg : CubicPolynomial K := ⟨-p.c0, -p.c1, -p.c2, -p.c3⟩

@[simp] theorem eval_zero : p.eval 0 = p.c0 := by simp [eval]

@[simp] theorem deriv_zero : p.deriv 0 = p.c1 := by simp [deriv]

@[simp] theorem eval_neg (t : K) : p.neg.eval t = -p.eval t := by
  simp only [eval, neg]
  ring

@[simp] theorem deriv_neg (t : K) : p.neg.deriv t = -p.deriv t := by
  simp only [deriv, neg]
  ring

theorem eval_derivative (t : K) : p.derivative.eval t = p.deriv t := by
  simp only [eval, deriv, derivative]
  ring

theorem deriv_derivative (t : K) : p.derivative.deriv t = p.second t := by
  simp only [second, deriv, derivative]
  ring

@[simp] theorem eval_rescale (s t : K) : (p.rescale s).eval t = p.eval (s * t) := by
  simp only [eval, rescale]
  ring

@[simp] theorem deriv_rescale (s t : K) : (p.rescale s).deriv t = s * p.deriv (s * t) := by
  simp only [deriv, rescale]
  ring

@[simp] theorem second_rescale (s t : K) : (p.rescale s).second t = s ^ 2 * p.second (s * t) := by
  simp only [second, rescale]
  ring

@[simp] theorem hermite_eval_one (x d x' d' : K) : (hermite x d x' d').eval 1 = x' := by
  simp only [eval, hermite]
  ring

@[simp] theorem hermite_deriv_one (x d x' d' : K) : (hermite x d x' d').deriv 1 = d' := by
  simp only [deriv, hermite]
  ring

theorem hermite_self : hermite (p.eval 0) (p.deriv 0) (p.eval 1) (p.deriv 1) = p := by
  ext <;> simp only [hermite, eval, deriv] <;> ring

theorem hermite_rescale (s : K) :
    hermite p.c0 (s * p.c1) (p.eval s) (s * p.deriv s) = p.rescale s := by
  have h := (p.rescale s).hermite_self
  rw [eval_zero, deriv_zero, eval_rescale, deriv_rescale, mul_one] at h
  rw [mul_comm s p.c1]
  exact h

section Real

variable (p : CubicPolynomial ℝ)

theorem hasDerivAt_eval (t : ℝ) : HasDerivAt p.eval (p.deriv t) t := by
  have h3 : HasDerivAt (fun t : ℝ => p.c3 * t ^ 3) (p.c3 * (3 * t ^ 2)) t := by
    simpa using (hasDerivAt_pow 3 t).const_mul p.c3
  have h2 : HasDerivAt (fun t : ℝ => p.c2 * t ^ 2) (p.c2 * (2 * t)) t := by
    simpa using (hasDerivAt_pow 2 t).const_mul p.c2
  have h1 : HasDerivAt (fun t : ℝ => p.c1 * t) p.c1 t := by
    simpa using (hasDerivAt_id t).const_mul p.c1
  have heval : p.eval = fun t => p.c3 * t ^ 3 + p.c2 * t ^ 2 + p.c1 * t + p.c0 := by
    funext t
    simp only [eval]
    ring
  have hderiv : p.deriv t = p.c3 * (3 * t ^ 2) + p.c2 * (2 * t) + p.c1 := by
    simp only [deriv]
    ring
  rw [heval, hderiv]
  exact ((h3.add h2).add h1).add_const p.c0

theorem exists_greatest :
    ∃ s, 0 ≤ s ∧ s ≤ 1 ∧ ∀ t, 0 ≤ t → t ≤ 1 → p.eval t ≤ p.eval s := by
  have hcontinuous : ContinuousOn p.eval (Set.Icc 0 1) :=
    fun s _ => (p.hasDerivAt_eval s).continuousAt.continuousWithinAt
  obtain ⟨s, ⟨hs0, hs1⟩, hmax⟩ :=
    isCompact_Icc.exists_isMaxOn (Set.nonempty_Icc.2 zero_le_one) hcontinuous
  exact ⟨s, hs0, hs1, fun t h0 h1 => hmax ⟨h0, h1⟩⟩

theorem exists_least : ∃ s, 0 ≤ s ∧ s ≤ 1 ∧ ∀ t, 0 ≤ t → t ≤ 1 → p.eval s ≤ p.eval t := by
  obtain ⟨s, hs0, hs1, hgreatest⟩ := p.neg.exists_greatest
  refine ⟨s, hs0, hs1, fun t h0 h1 => ?_⟩
  have h := hgreatest t h0 h1
  rw [eval_neg, eval_neg] at h
  exact neg_le_neg_iff.1 h

theorem eval_le_of_critical {bound t : ℝ} (hstart : p.eval 0 ≤ bound) (hend : p.eval 1 ≤ bound)
    (hcritical : ∀ s, 0 ≤ s → s ≤ 1 → p.deriv s = 0 → p.eval s ≤ bound) (h0 : 0 ≤ t)
    (h1 : t ≤ 1) : p.eval t ≤ bound := by
  obtain ⟨s, hs0, hs1, hgreatest⟩ := p.exists_greatest
  refine (hgreatest t h0 h1).trans ?_
  rcases hs0.eq_or_lt with rfl | hs0
  · exact hstart
  rcases hs1.eq_or_lt with rfl | hs1
  · exact hend
  · have hmax : IsMaxOn p.eval (Set.Icc 0 1) s := fun t ht => hgreatest t ht.1 ht.2
    have hlocal : IsLocalMax p.eval s := hmax.isLocalMax (Icc_mem_nhds hs0 hs1)
    exact hcritical s hs0.le hs1.le (hlocal.hasDerivAt_eq_zero (p.hasDerivAt_eval s))

theorem le_eval_of_critical {bound t : ℝ} (hstart : bound ≤ p.eval 0) (hend : bound ≤ p.eval 1)
    (hcritical : ∀ s, 0 ≤ s → s ≤ 1 → p.deriv s = 0 → bound ≤ p.eval s) (h0 : 0 ≤ t)
    (h1 : t ≤ 1) : bound ≤ p.eval t := by
  have hneg : p.neg.eval t ≤ -bound := by
    apply p.neg.eval_le_of_critical _ _ _ h0 h1
    · rw [eval_neg]
      exact neg_le_neg hstart
    · rw [eval_neg]
      exact neg_le_neg hend
    · intro s hs0 hs1 hs
      rw [deriv_neg, neg_eq_zero] at hs
      rw [eval_neg]
      exact neg_le_neg (hcritical s hs0 hs1 hs)
  rw [eval_neg] at hneg
  exact neg_le_neg_iff.1 hneg

theorem eval_le_of_nearly_critical {bound t : ℝ} (hstart : p.eval 0 ≤ bound)
    (hend : p.eval 1 ≤ bound)
    (hcritical : ∀ s, 0 ≤ s → s ≤ 1 → 2 * p.c2 * s + p.c1 = 0 → p.eval s ≤ bound) (h0 : 0 ≤ t)
    (h1 : t ≤ 1) : p.eval t ≤ bound + |p.c3| := by
  have hsplit : ∀ s, p.eval s = p.truncate.eval s + p.c3 * s ^ 3 := by
    intro s
    simp only [eval, truncate]
    ring
  have hbelow : ∀ s, 0 ≤ s → s ≤ 1 → p.c3 * s ^ 3 ≤ max p.c3 0 := by
    intro s hs0 hs1
    calc p.c3 * s ^ 3 ≤ max p.c3 0 * s ^ 3 :=
          mul_le_mul_of_nonneg_right (le_max_left _ _) (pow_nonneg hs0 3)
      _ ≤ max p.c3 0 := mul_le_of_le_one_right (le_max_right _ _) (pow_le_one₀ hs0 hs1)
  have habove : ∀ s, 0 ≤ s → s ≤ 1 → -(p.c3 * s ^ 3) ≤ max (-p.c3) 0 := by
    intro s hs0 hs1
    calc -(p.c3 * s ^ 3) = -p.c3 * s ^ 3 := (neg_mul _ _).symm
      _ ≤ max (-p.c3) 0 * s ^ 3 :=
          mul_le_mul_of_nonneg_right (le_max_left _ _) (pow_nonneg hs0 3)
      _ ≤ max (-p.c3) 0 := mul_le_of_le_one_right (le_max_right _ _) (pow_le_one₀ hs0 hs1)
  have htruncated : ∀ s, 0 ≤ s → s ≤ 1 → p.eval s ≤ bound →
      p.truncate.eval s ≤ bound + max (-p.c3) 0 := by
    intro s hs0 hs1 hs
    linarith [hsplit s, habove s hs0 hs1]
  have hle : p.truncate.eval t ≤ bound + max (-p.c3) 0 := by
    refine p.truncate.eval_le_of_critical (htruncated 0 le_rfl zero_le_one hstart)
      (htruncated 1 zero_le_one le_rfl hend) (fun s hs0 hs1 hs => ?_) h0 h1
    refine htruncated s hs0 hs1 (hcritical s hs0 hs1 ?_)
    rw [← hs]
    simp only [deriv, truncate]
    ring
  calc p.eval t = p.truncate.eval t + p.c3 * t ^ 3 := hsplit t
    _ ≤ bound + max (-p.c3) 0 + max p.c3 0 := add_le_add hle (hbelow t h0 h1)
    _ = bound + (max p.c3 0 + max (-p.c3) 0) := by ring
    _ = bound + |p.c3| := by rw [max_zero_add_max_neg_zero_eq_abs_self]

theorem le_eval_of_nearly_critical {bound t : ℝ} (hstart : bound ≤ p.eval 0)
    (hend : bound ≤ p.eval 1)
    (hcritical : ∀ s, 0 ≤ s → s ≤ 1 → 2 * p.c2 * s + p.c1 = 0 → bound ≤ p.eval s) (h0 : 0 ≤ t)
    (h1 : t ≤ 1) : bound - |p.c3| ≤ p.eval t := by
  have hneg : p.neg.eval t ≤ -bound + |p.neg.c3| := by
    apply p.neg.eval_le_of_nearly_critical _ _ _ h0 h1
    · rw [eval_neg]
      exact neg_le_neg hstart
    · rw [eval_neg]
      exact neg_le_neg hend
    · intro s hs0 hs1 hs
      rw [eval_neg]
      refine neg_le_neg (hcritical s hs0 hs1 ?_)
      have hlinear : 2 * -p.c2 * s + -p.c1 = 0 := hs
      linarith
  rw [eval_neg, show |p.neg.c3| = |p.c3| from abs_neg _] at hneg
  linarith

end Real

section Ordered

variable [LinearOrder K] [IsStrictOrderedRing K]

theorem second_le {bound t : K} (hstart : p.second 0 ≤ bound) (hend : p.second 1 ≤ bound)
    (h0 : 0 ≤ t) (h1 : t ≤ 1) : p.second t ≤ bound := by
  have hsplit : p.second t = (1 - t) * p.second 0 + t * p.second 1 := by
    simp only [second]
    ring
  calc p.second t = (1 - t) * p.second 0 + t * p.second 1 := hsplit
    _ ≤ (1 - t) * bound + t * bound := add_le_add
        (mul_le_mul_of_nonneg_left hstart (sub_nonneg.2 h1)) (mul_le_mul_of_nonneg_left hend h0)
    _ = bound := by ring

theorem le_second {bound t : K} (hstart : bound ≤ p.second 0) (hend : bound ≤ p.second 1)
    (h0 : 0 ≤ t) (h1 : t ≤ 1) : bound ≤ p.second t := by
  have hsplit : p.second t = (1 - t) * p.second 0 + t * p.second 1 := by
    simp only [second]
    ring
  calc bound = (1 - t) * bound + t * bound := by ring
    _ ≤ (1 - t) * p.second 0 + t * p.second 1 := add_le_add
        (mul_le_mul_of_nonneg_left hstart (sub_nonneg.2 h1)) (mul_le_mul_of_nonneg_left hend h0)
    _ = p.second t := hsplit.symm

end Ordered

end CubicPolynomial
