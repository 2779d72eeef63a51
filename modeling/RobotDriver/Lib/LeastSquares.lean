import Mathlib.Algebra.Order.Field.Basic
import Mathlib.Data.Matrix.Mul
import Mathlib.Tactic.FieldSimp
import Mathlib.Tactic.Linarith
import Mathlib.Tactic.LinearCombination

/-!
# Linear least squares

An observation is a row and the value measured along it. A vector that satisfies the normal
equations has the least sum of squared errors, and any other that attains it satisfies them, too.
-/

namespace LeastSquares

variable {C K : Type*} [Fintype C]

structure Observation (C K : Type*) where
  row : C → K
  measurement : K

variable [Field K]

def error (v : C → K) (o : Observation C K) : K := o.row ⬝ᵥ v - o.measurement

def cost (observations : List (Observation C K)) (v : C → K) : K :=
  (observations.map fun o => error v o ^ 2).sum

def NormalEquations (observations : List (Observation C K)) (v : C → K) : Prop :=
  ∀ c, (observations.map fun o => o.row c * error v o).sum = 0

variable {observations : List (Observation C K)} {u v : C → K}

theorem error_sub (o : Observation C K) : error u o = error v o + o.row ⬝ᵥ (u - v) := by
  rw [error, error, dotProduct_sub]
  ring

theorem NormalEquations.orthogonal (h : NormalEquations observations v) (x : C → K) :
    (observations.map fun o => (o.row ⬝ᵥ x) * error v o).sum = 0 := by
  have hsum : ∀ os : List (Observation C K), (os.map fun o => (o.row ⬝ᵥ x) * error v o).sum =
      ∑ c, x c * (os.map fun o => o.row c * error v o).sum := by
    intro os
    induction os with
    | nil => simp
    | cons o os ih =>
      have hfirst : (o.row ⬝ᵥ x) * error v o = ∑ c, x c * (o.row c * error v o) := by
        rw [dotProduct, Finset.sum_mul]
        refine Finset.sum_congr rfl fun c _ => ?_
        ring
      simp only [List.map_cons, List.sum_cons, ih, hfirst, mul_add, Finset.sum_add_distrib]
  rw [hsum]
  refine Finset.sum_eq_zero fun c _ => ?_
  rw [h c, mul_zero]

theorem cost_eq (h : NormalEquations observations v) (u : C → K) :
    cost observations u =
      cost observations v + (observations.map fun o => (o.row ⬝ᵥ (u - v)) ^ 2).sum := by
  have horthogonal := h.orthogonal (u - v)
  have hexpand : ∀ os : List (Observation C K), cost os u = cost os v +
      2 * (os.map fun o => (o.row ⬝ᵥ (u - v)) * error v o).sum +
        (os.map fun o => (o.row ⬝ᵥ (u - v)) ^ 2).sum := by
    intro os
    induction os with
    | nil => simp [cost]
    | cons o os ih =>
      have ho := @error_sub C K _ _ u v o
      simp only [cost, List.map_cons, List.sum_cons] at ih ⊢
      rw [ih, ho]
      ring
  rw [hexpand, horthogonal, mul_zero, add_zero]

theorem NormalEquations.of_exact (h : ∀ o ∈ observations, error v o = 0) :
    NormalEquations observations v := by
  intro c
  apply List.sum_eq_zero
  intro x hx
  obtain ⟨o, ho, rfl⟩ := List.mem_map.1 hx
  rw [h o ho, mul_zero]

variable [LinearOrder K] [IsStrictOrderedRing K]

omit [Fintype C] in
theorem sum_sq_nonneg (os : List (Observation C K)) (f : Observation C K → K) :
    0 ≤ (os.map fun o => f o ^ 2).sum := by
  apply List.sum_nonneg
  intro x hx
  obtain ⟨o, -, rfl⟩ := List.mem_map.1 hx
  exact sq_nonneg _

theorem NormalEquations.least (h : NormalEquations observations v) (u : C → K) :
    cost observations v ≤ cost observations u := by
  rw [cost_eq h u]
  exact le_add_of_nonneg_right (sum_sq_nonneg observations _)

omit [Fintype C] in
theorem eq_zero_of_sum_sq {os : List (Observation C K)} {f : Observation C K → K}
    (h : (os.map fun o => f o ^ 2).sum = 0) : ∀ o ∈ os, f o = 0 := by
  induction os with
  | nil => simp
  | cons o os ih =>
    rw [List.map_cons, List.sum_cons] at h
    have hrest := sum_sq_nonneg os f
    have hfirst := sq_nonneg (f o)
    rw [List.forall_mem_cons]
    exact ⟨pow_eq_zero_iff two_ne_zero |>.1 (by linarith), ih (by linarith)⟩

theorem NormalEquations.of_cost_eq (h : NormalEquations observations v)
    (hcost : cost observations u = cost observations v) : NormalEquations observations u := by
  have hsum : (observations.map fun o => (o.row ⬝ᵥ (u - v)) ^ 2).sum = 0 := by
    have heq := cost_eq h u
    linarith
  have hzero := eq_zero_of_sum_sq hsum
  intro c
  rw [← h c]
  congr 1
  refine List.map_congr_left fun o ho => ?_
  rw [@error_sub C K _ _ u v o, hzero o ho, add_zero]

end LeastSquares

/-!
# Pivot steps on systems of linear equations

A system is a family of rows; a vector solves it when it is orthogonal to each row. A right-hand
side is the last entry of a row, against minus one in the vector. A pivot step moves a row to a
target place, normalises it and clears its column in the other rows.
-/

namespace LinearSystem

variable {R E K : Type*} [Fintype E] [Field K]

def Solves (m : R → E → K) (w : E → K) : Prop := ∀ row, m row ⬝ᵥ w = 0

variable [DecidableEq R]

def pivotStep (m : R → E → K) (target source : R) (column : E) : R → E → K := fun row =>
  let pivot := (m source column)⁻¹ • m source
  if row = target then pivot
  else m (Equiv.swap target source row) - m (Equiv.swap target source row) column • pivot

variable {m : R → E → K} {target source : R} {column : E} {w : E → K}

theorem pivotStep_dotProduct (row : R) : pivotStep m target source column row ⬝ᵥ w =
    if row = target then (m source column)⁻¹ * (m source ⬝ᵥ w)
    else m (Equiv.swap target source row) ⬝ᵥ w -
      m (Equiv.swap target source row) column * ((m source column)⁻¹ * (m source ⬝ᵥ w)) := by
  unfold pivotStep
  by_cases hrow : row = target
  · simp only [hrow, if_true, smul_dotProduct, smul_eq_mul]
  · simp only [hrow, if_false, sub_dotProduct, smul_dotProduct, smul_eq_mul]

theorem solves_pivotStep (h : m source column ≠ 0) :
    Solves (pivotStep m target source column) w ↔ Solves m w := by
  constructor
  · intro hsolves
    have hsource : m source ⬝ᵥ w = 0 := by
      have htarget := hsolves target
      rw [pivotStep_dotProduct, if_pos rfl] at htarget
      exact (mul_eq_zero.1 htarget).resolve_left (inv_ne_zero h)
    have hswapped : ∀ row, m (Equiv.swap target source row) ⬝ᵥ w = 0 := by
      intro row
      by_cases hrow : row = target
      · rw [hrow, Equiv.swap_apply_left]
        exact hsource
      · have hother := hsolves row
        rwa [pivotStep_dotProduct, if_neg hrow, hsource, mul_zero, mul_zero, sub_zero] at hother
    intro row
    have hback := hswapped (Equiv.swap target source row)
    rwa [Equiv.swap_apply_self] at hback
  · intro hsolves row
    rw [pivotStep_dotProduct]
    split_ifs
    · rw [hsolves source, mul_zero]
    · rw [hsolves source, hsolves, mul_zero, mul_zero, sub_zero]

omit [Fintype E] in
theorem pivotStep_column (h : m source column ≠ 0) (row : R) :
    pivotStep m target source column row column = if row = target then 1 else 0 := by
  unfold pivotStep
  split_ifs
  · exact inv_mul_cancel₀ h
  · simp [inv_mul_cancel₀ h]

omit [Fintype E] in
theorem pivotStep_other {other : E} (htarget : m target other = 0) (hsource : m source other = 0)
    (row : R) : pivotStep m target source column row other = m row other := by
  unfold pivotStep
  by_cases hrow : row = target
  · simp [hrow, htarget, hsource]
  · by_cases hrow' : row = source
    · subst hrow'
      simp [hrow, hsource, htarget]
    · simp [hrow, hsource, Equiv.swap_apply_of_ne_of_ne hrow hrow']

end LinearSystem
