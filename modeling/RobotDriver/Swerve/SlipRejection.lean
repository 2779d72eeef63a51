import RobotDriver.Lib.LeastSquares
import RobotDriver.Swerve.Kinematics

/-!
# The fit with slip rejection

Each column of the elimination is a pivot step, so that a solved system has one solution. The
normal equations of a set of modules are such a system, the rejection loop ends in one over the
modules it keeps, and a rigid motion solves every one of them.
-/

noncomputable section

namespace RobotDriver.Swerve

section Elimination

open LinearSystem

variable {matrix next : AugmentedMatrix} {column : Fin 3} {v solution : Fin 3 → ℝ}

/-- The columns before `done` are those of the identity. -/
def Reduced (matrix : AugmentedMatrix) (done : ℕ) : Prop :=
  ∀ column : Fin 3, column.val < done → ∀ row, matrix row column.castSucc =
    if row = column then 1 else 0

/-- The unknowns, then minus one for the right-hand side. -/
def augmented (v : Fin 3 → ℝ) : Fin 4 → ℝ := Fin.snoc v (-1)

@[simp] theorem augmented_castSucc (v : Fin 3 → ℝ) (entry : Fin 3) :
    augmented v entry.castSucc = v entry := by
  simp [augmented]

@[simp] theorem augmented_last (v : Fin 3 → ℝ) : augmented v (Fin.last 3) = -1 :=
  Fin.snoc_last _ _

theorem le_pivotRow (matrix : AugmentedMatrix) (column : Fin 3) :
    column ≤ pivotRow matrix column := by
  unfold pivotRow
  have hrows : ∀ row ∈ (List.finRange 3).filter (column < ·), column ≤ row := by
    intro row hrow
    exact le_of_lt (by simpa using hrow)
  have hfold : ∀ (rows : List (Fin 3)) (pivot : Fin 3), column ≤ pivot →
      (∀ row ∈ rows, column ≤ row) →
      column ≤ rows.foldl (fun pivot row =>
        if |matrix pivot column.castSucc| < |matrix row column.castSucc| then row else pivot)
        pivot := by
    intro rows
    induction rows with
    | nil => exact fun _ hpivot _ => hpivot
    | cons row rows ih =>
      intro pivot hpivot hall
      rw [List.forall_mem_cons] at hall
      rw [List.foldl_cons]
      apply ih _ _ hall.2
      split_ifs
      · exact hall.1
      · exact hpivot
  exact hfold _ column le_rfl hrows

theorem Reduced.zero_of_le {entry row : Fin 3} (h : Reduced matrix column.val)
    (hentry : entry < column) (hrow : column ≤ row) : matrix row entry.castSucc = 0 := by
  rw [h entry hentry row, if_neg (hentry.trans_le hrow).ne']

theorem eliminateColumn_eq (hreduced : Reduced matrix column.val)
    (h : eliminateColumn matrix column = some next) :
    matrix (pivotRow matrix column) column.castSucc ≠ 0 ∧
      next = pivotStep matrix column (pivotRow matrix column) column.castSucc := by
  have hpivot := le_pivotRow matrix column
  unfold eliminateColumn at h
  generalize pivotRow matrix column = pivot at h hpivot ⊢
  dsimp only at h
  by_cases hsmall : |matrix pivot column.castSucc| < 1 / 10 ^ 12
  · rw [if_pos hsmall] at h
    cases h
  have hne : matrix pivot column.castSucc ≠ 0 := by
    intro hzero
    rw [hzero, abs_zero] at hsmall
    norm_num at hsmall
  refine ⟨hne, ?_⟩
  have hswap : ∀ row, (if row = column then matrix pivot else if row = pivot then matrix column
      else matrix row) = matrix (Equiv.swap column pivot row) := by
    intro row
    rw [Equiv.swap_apply_def]
    split_ifs <;> rfl
  simp only [if_neg hsmall, hswap, Option.some.injEq] at h
  rw [← h]
  funext row entry
  by_cases hentry : column.castSucc ≤ entry
  · by_cases hrow : row = column
    · simp [pivotStep, hentry, hrow, div_eq_inv_mul]
    · simp [pivotStep, hentry, hrow, div_eq_inv_mul]
  · obtain ⟨done, rfl⟩ : ∃ done : Fin 3, done.castSucc = entry :=
      ⟨entry.castLT (by omega), Fin.castSucc_castLT _ _⟩
    have hdone : done < column := by
      rw [not_le, Fin.castSucc_lt_castSucc_iff] at hentry
      exact hentry
    rw [pivotStep_other (hreduced.zero_of_le hdone le_rfl) (hreduced.zero_of_le hdone hpivot)]
    simp only [hentry, and_false, if_false]
    by_cases hrow : row = column
    · rw [hrow, Equiv.swap_apply_left, hreduced.zero_of_le hdone hpivot,
        hreduced.zero_of_le hdone le_rfl]
    · by_cases hrow' : row = pivot
      · rw [hrow', Equiv.swap_apply_right, hreduced.zero_of_le hdone hpivot,
          hreduced.zero_of_le hdone le_rfl]
      · rw [Equiv.swap_apply_of_ne_of_ne hrow hrow']

theorem Reduced.step (hreduced : Reduced matrix column.val)
    (h : eliminateColumn matrix column = some next) :
    Reduced next (column.val + 1) ∧ ∀ w, Solves next w ↔ Solves matrix w := by
  obtain ⟨hpivot, rfl⟩ := eliminateColumn_eq hreduced h
  constructor
  · intro done hdone row
    rcases Nat.lt_succ_iff_lt_or_eq.1 hdone with hbefore | hnow
    · rw [pivotStep_other (hreduced.zero_of_le hbefore le_rfl)
        (hreduced.zero_of_le hbefore (le_pivotRow matrix column)), hreduced done hbefore]
    · rw [Fin.ext hnow, pivotStep_column hpivot]
  · intro w
    exact solves_pivotStep hpivot

theorem Reduced.solves_iff (h : Reduced matrix 3) :
    Solves matrix (augmented v) ↔ v = fun row => matrix row 3 := by
  have hrow : ∀ row, matrix row ⬝ᵥ augmented v = v row - matrix row 3 := by
    intro row
    have hidentity : ∀ entry : Fin 3, matrix row entry.castSucc * augmented v entry.castSucc =
        if row = entry then v entry else 0 := by
      intro entry
      rw [h entry entry.isLt row, augmented_castSucc, ite_mul, one_mul, zero_mul]
    rw [dotProduct, Fin.sum_univ_castSucc, augmented_last, Finset.sum_congr rfl fun entry _ =>
      hidentity entry, Finset.sum_ite_eq, if_pos (Finset.mem_univ row)]
    rw [mul_neg_one, ← sub_eq_add_neg]
    rfl
  constructor
  · intro hsolves
    funext row
    rw [← sub_eq_zero, ← hrow row]
    exact hsolves row
  · intro hv row
    rw [hrow row, hv, sub_self]

theorem solves_iff_of_solve (h : solveThreeByThree matrix = some solution) :
    Solves matrix (augmented v) ↔ v = solution := by
  have hcolumns : List.finRange 3 = [0, 1, 2] := by decide
  rw [solveThreeByThree, hcolumns, Option.map_eq_some_iff] at h
  obtain ⟨solved, hsolved, rfl⟩ := h
  simp only [List.foldlM_cons, List.foldlM_nil, Option.bind_eq_bind, Option.pure_def,
    Option.bind_eq_some_iff, Option.some.injEq] at hsolved
  obtain ⟨first, hfirst, second, hsecond, third, hthird, rfl⟩ := hsolved
  have hstart : Reduced matrix (0 : Fin 3).val := by
    intro column hcolumn
    exact absurd hcolumn (Nat.not_lt_zero _)
  obtain ⟨hreduced, hiff⟩ := hstart.step hfirst
  have hone : Reduced first (1 : Fin 3).val := hreduced
  obtain ⟨hreduced', hiff'⟩ := hone.step hsecond
  have htwo : Reduced second (2 : Fin 3).val := hreduced'
  obtain ⟨hreduced'', hiff''⟩ := htwo.step hthird
  rw [← hiff, ← hiff', ← hiff'']
  exact hreduced''.solves_iff

end Elimination

section NormalEquations

open LeastSquares LinearSystem

variable (observations : Module → ModuleVectorObservation) (locations : Module → Translation2d)

/-- What one module observes of the motion. -/
def moduleObservations (index : Module) : List (Observation (Fin 3) ℝ) :=
  [⟨![1, 0, -(locations index).y], (observations index).x⟩,
    ⟨![0, 1, (locations index).x], (observations index).y⟩]

def usedObservations (used : List Module) : List (Observation (Fin 3) ℝ) :=
  used.flatMap (moduleObservations observations locations)

variable {observations locations} {used : List Module} {v solution : Fin 3 → ℝ}

theorem accumulateObservation_dotProduct (normal : AugmentedMatrix) (row : Fin 3 → ℝ)
    (measurement : ℝ) (outer : Fin 3) :
    accumulateObservation normal row measurement outer ⬝ᵥ augmented v =
      normal outer ⬝ᵥ augmented v + row outer * error v ⟨row, measurement⟩ := by
  have hentry : ∀ entry : Fin 3, accumulateObservation normal row measurement outer
      entry.castSucc = normal outer entry.castSucc + row outer * row entry := by
    intro entry
    simp [accumulateObservation]
  have hlast : accumulateObservation normal row measurement outer (Fin.last 3) =
      normal outer (Fin.last 3) + row outer * measurement := by
    simp [accumulateObservation]
  simp only [dotProduct, Fin.sum_univ_castSucc (n := 3), augmented_castSucc, augmented_last,
    hentry, hlast, error, add_mul, Finset.sum_add_distrib, mul_assoc, ← Finset.mul_sum]
  ring

theorem accumulate_dotProduct (used : List Module) (normal : AugmentedMatrix) (outer : Fin 3) :
    used.foldl (fun normal index => accumulateModule (locations index) (observations index).x
        (observations index).y normal) normal outer ⬝ᵥ augmented v =
      normal outer ⬝ᵥ augmented v +
        ((usedObservations observations locations used).map fun o =>
          o.row outer * error v o).sum := by
  induction used generalizing normal with
  | nil => simp [usedObservations]
  | cons index used ih =>
    rw [List.foldl_cons, ih, accumulateModule, accumulateObservation_dotProduct,
      accumulateObservation_dotProduct]
    simp only [usedObservations, moduleObservations, List.flatMap_cons, List.map_append,
      List.sum_append, List.map_cons, List.map_nil, List.sum_cons, List.sum_nil]
    ring

theorem normalEquations_iff (h : solveWithMask observations locations used = some solution) :
    NormalEquations (usedObservations observations locations used) v ↔ v = solution := by
  rw [← solves_iff_of_solve h]
  apply forall_congr'
  intro outer
  have hempty : (fun _ => 0 : Fin 4 → ℝ) ⬝ᵥ augmented v = 0 := zero_dotProduct _
  rw [accumulate_dotProduct, hempty, zero_add]

/-- The sum of the squared residuals of the used modules. -/
def squaredResiduals (observations : Module → ModuleVectorObservation)
    (locations : Module → Translation2d) (used : List Module) (v : Fin 3 → ℝ) : ℝ :=
  (used.map fun index => moduleResidual (observations index) (locations index) v ^ 2).sum

theorem error_fst (index : Module) : error v ⟨![1, 0, -(locations index).y],
    (observations index).x⟩ = (v 0 - v 2 * (locations index).y) - (observations index).x := by
  simp [error, dotProduct, Fin.sum_univ_three]
  ring

theorem error_snd (index : Module) : error v ⟨![0, 1, (locations index).x],
    (observations index).y⟩ = (v 1 + v 2 * (locations index).x) - (observations index).y := by
  simp [error, dotProduct, Fin.sum_univ_three]
  ring

theorem cost_usedObservations (used : List Module) :
    cost (usedObservations observations locations used) v =
      squaredResiduals observations locations used v := by
  induction used with
  | nil => rfl
  | cons index used ih =>
    have hresidual : moduleResidual (observations index) (locations index) v ^ 2 =
        ((observations index).x - (v 0 - v 2 * (locations index).y)) ^ 2 +
          ((observations index).y - (v 1 + v 2 * (locations index).x)) ^ 2 :=
      Real.sq_sqrt (by positivity)
    rw [squaredResiduals] at ih ⊢
    rw [List.map_cons, List.sum_cons, ← ih, hresidual]
    simp only [cost, usedObservations, moduleObservations, List.flatMap_cons, List.map_append,
      List.sum_append, List.map_cons, List.map_nil, List.sum_cons, List.sum_nil, error_fst,
      error_snd]
    ring

/-- The solution over the used modules is the one that has the least squares. -/
theorem squaredResiduals_least (h : solveWithMask observations locations used = some solution)
    (v : Fin 3 → ℝ) :
    squaredResiduals observations locations used solution ≤
        squaredResiduals observations locations used v ∧
      (squaredResiduals observations locations used v =
        squaredResiduals observations locations used solution → v = solution) := by
  have hsolution := (normalEquations_iff h).2 rfl
  rw [← cost_usedObservations, ← cost_usedObservations]
  constructor
  · exact hsolution.least v
  · intro hcost
    exact (normalEquations_iff h).1 (hsolution.of_cost_eq hcost)

theorem eq_of_rigid (h : solveWithMask observations locations used = some solution)
    (hrigid : ∀ index ∈ used, (observations index).x = v 0 - v 2 * (locations index).y ∧
      (observations index).y = v 1 + v 2 * (locations index).x) : v = solution := by
  apply (normalEquations_iff h).1
  apply NormalEquations.of_exact
  intro o ho
  obtain ⟨index, hindex, ho⟩ := List.mem_flatMap.1 ho
  obtain ⟨hx, hy⟩ := hrigid index hindex
  simp only [moduleObservations, List.mem_cons, List.not_mem_nil, or_false] at ho
  rcases ho with rfl | rfl
  · rw [error_fst, hx, sub_self]
  · rw [error_snd, hy, sub_self]

end NormalEquations

section Rejection

variable {observations : Module → ModuleVectorObservation} {locations : Module → Translation2d}
  {threshold : ℝ} {kept solution : Fin 3 → ℝ} {used rejected used' rejected' : List Module}

theorem eq_nil_of_largestResidual {residual : Module → ℝ}
    (h : largestResidual residual used = none) : used = [] := by
  cases used using List.reverseRecOn with
  | nil => rfl
  | append_singleton used last =>
    unfold largestResidual at h
    rw [List.foldl_append, List.foldl_cons, List.foldl_nil] at h
    split at h
    · cases h
    · split_ifs at h

theorem le_of_largestResidual {residual : Module → ℝ} {largest : Module}
    (h : largestResidual residual used = some largest) :
    ∀ index ∈ used, residual index ≤ residual largest := by
  induction used using List.reverseRecOn generalizing largest with
  | nil => cases h
  | append_singleton used last ih =>
    unfold largestResidual at h ih
    rw [List.foldl_append, List.foldl_cons, List.foldl_nil] at h
    intro index hindex
    rw [List.mem_append, List.mem_singleton] at hindex
    split at h
    · rename_i hnone
      cases h
      rcases hindex with hmem | rfl
      · rw [eq_nil_of_largestResidual hnone] at hmem
        cases hmem
      · exact le_rfl
    · rename_i other hother
      have hbefore := ih hother
      split_ifs at h with hless
      · cases h
        rcases hindex with hmem | rfl
        · exact (hbefore index hmem).trans hless.le
        · exact le_rfl
      · cases h
        rcases hindex with hmem | rfl
        · exact hbefore index hmem
        · exact not_lt.1 hless

theorem rejectModules_spec
    (h : rejectModules observations locations (some threshold) kept used rejected =
      some (solution, used', rejected')) :
    used'.Sublist used ∧ (used' ++ rejected').Perm (used ++ rejected) ∧
      (2 ≤ used'.length → solveWithMask observations locations used' = some solution ∧
        ∀ index ∈ used', moduleResidual (observations index) (locations index) solution ≤
          threshold) := by
  induction hlength : used.length using Nat.strong_induction_on
    generalizing kept used rejected with
  | _ length ih =>
    rw [rejectModules] at h
    by_cases hfew : used.length < 2
    · rw [if_pos hfew] at h
      simp only [Option.some.injEq, Prod.mk.injEq] at h
      obtain ⟨-, rfl, rfl⟩ := h
      exact ⟨List.Sublist.refl _, List.Perm.refl _, fun htwo => absurd htwo (by omega)⟩
    rw [if_neg hfew] at h
    split at h
    · cases h
    rename_i found hfound
    dsimp only at h
    split at h
    · rename_i hnone
      rw [eq_nil_of_largestResidual hnone] at hfew
      exact absurd Nat.zero_lt_two hfew
    rename_i largest hlargest
    have hmem := mem_of_largestResidual hlargest
    by_cases hwithin : moduleResidual (observations largest) (locations largest) found ≤ threshold
    · rw [if_pos hwithin] at h
      simp only [Option.some.injEq, Prod.mk.injEq] at h
      obtain ⟨rfl, rfl, rfl⟩ := h
      refine ⟨List.Sublist.refl _, List.Perm.refl _, fun _ => ⟨hfound, ?_⟩⟩
      intro index hindex
      exact (le_of_largestResidual hlargest index hindex).trans hwithin
    rw [if_neg hwithin] at h
    by_cases htwo : used.length = 2
    · rw [if_pos htwo] at h
      cases h
    rw [if_neg htwo] at h
    have hshorter : (used.erase largest).length < length := by
      have hpos := List.length_pos_of_mem hmem
      rw [List.length_erase_of_mem hmem]
      omega
    obtain ⟨hsub, hperm, hfit⟩ := ih _ hshorter h rfl
    refine ⟨hsub.trans List.erase_sublist, hperm.trans ?_, hfit⟩
    have hmoved : (used.erase largest ++ [largest]).Perm used :=
      (List.perm_append_singleton _ _).trans (List.perm_cons_erase hmem).symm
    calc (used.erase largest ++ (rejected ++ [largest])).Perm
          (used.erase largest ++ ([largest] ++ rejected)) :=
          List.perm_append_comm.append_left _
      List.Perm _ (used ++ rejected) := by
          rw [← List.append_assoc]
          exact hmoved.append_right _

end Rejection

section ChassisFit

variable {modules : Module → SwerveModuleMeasurement} {locations : Module → Translation2d}
  {threshold : ℝ} {fit : ChassisSpeedFit}

def ChassisSpeeds.vector (speeds : ChassisSpeeds) : Fin 3 → ℝ :=
  ![speeds.vx, speeds.vy, speeds.omega]

theorem ChassisSpeeds.vector_injective : Function.Injective ChassisSpeeds.vector := by
  rintro ⟨vx, vy, omega⟩ ⟨vx', vy', omega'⟩ h
  simpa [ChassisSpeeds.vector] using h

def ChassisSpeedFit.used (fit : ChassisSpeedFit) : List Module :=
  (List.finRange moduleCount).filter fit.usedModules

def validModules (modules : Module → SwerveModuleMeasurement) : List Module :=
  (List.finRange moduleCount).filter fun index => (modules index).valid

/-- The wheel moves as the rigid body does at its place. -/
def Follows (motion : ChassisSpeeds) (location : Translation2d)
    (measurement : SwerveModuleMeasurement) : Prop :=
  measurement.speed * Real.cos measurement.angle = motion.vx - motion.omega * location.y ∧
    measurement.speed * Real.sin measurement.angle = motion.vy + motion.omega * location.x

theorem filter_velocityObservations : (List.finRange moduleCount).filter
    (fun index => (velocityObservations modules index).valid) = validModules modules := by
  apply List.filter_congr
  intro index _
  unfold velocityObservations
  split_ifs with hvalid <;> simp [hvalid]

theorem fit_of_some
    (h : chassisSpeedsWithSlipRejection modules locations threshold = some fit) :
    ∃ used rejected : List Module,
      rejectModules (velocityObservations modules) locations (some threshold) (fun _ => 0)
        (validModules modules) [] = some (fit.speeds.vector, used, rejected) ∧
      2 ≤ used.length ∧ fit.usedModuleCount = used.length ∧
      (∀ index, fit.usedModules index = true ↔ index ∈ used) ∧
      (∀ index, fit.slippingModules index = true ↔ index ∈ rejected) ∧
      ∀ index, (modules index).valid → fit.residuals index =
        moduleResidual (velocityObservations modules index) (locations index)
          fit.speeds.vector := by
  unfold chassisSpeedsWithSlipRejection fitModuleObservations at h
  rw [filter_velocityObservations, Option.map_eq_some_iff] at h
  obtain ⟨found, hfound, rfl⟩ := h
  rw [Option.bind_eq_some_iff] at hfound
  obtain ⟨⟨solution, used, rejected⟩, hloop, hfound⟩ := hfound
  dsimp only at hfound
  split_ifs at hfound with hfew
  cases hfound
  have hvector : ChassisSpeeds.vector ⟨solution 0, solution 1, solution 2⟩ = solution := by
    funext row
    fin_cases row <;> rfl
  refine ⟨used, rejected, ?_, by omega, rfl, ?_, ?_, ?_⟩
  · rw [hvector]
    exact hloop
  · simp
  · simp
  · intro index hvalid
    simp [hvector, velocityObservations, hvalid]

theorem nodup_validModules : (validModules modules).Nodup :=
  (List.nodup_finRange _).filter _

theorem perm_used {used : List Module} (hsub : used.Sublist (validModules modules))
    (h : ∀ index, fit.usedModules index = true ↔ index ∈ used) : fit.used.Perm used := by
  apply (List.perm_ext_iff_of_nodup ((List.nodup_finRange _).filter _)
    (hsub.nodup nodup_validModules)).2
  intro index
  simp [h index]

theorem squaredResiduals_perm {observations : Module → ModuleVectorObservation}
    {used used' : List Module} (h : used.Perm used') (v : Fin 3 → ℝ) :
    squaredResiduals observations locations used v =
      squaredResiduals observations locations used' v :=
  (h.map _).sum_eq

theorem partition_of_fit
    (h : chassisSpeedsWithSlipRejection modules locations threshold = some fit) (index : Module) :
    ((modules index).valid = true ↔
        fit.usedModules index = true ∨ fit.slippingModules index = true) ∧
      ¬(fit.usedModules index = true ∧ fit.slippingModules index = true) := by
  obtain ⟨used, rejected, hloop, -, -, hused, hrejected, -⟩ := fit_of_some h
  obtain ⟨-, hperm, -⟩ := rejectModules_spec hloop
  rw [List.append_nil] at hperm
  have hnodup : (used ++ rejected).Nodup := hperm.nodup_iff.2 nodup_validModules
  rw [hused index, hrejected index]
  constructor
  · rw [← List.mem_append, hperm.mem_iff]
    simp [validModules]
  · rintro ⟨hin, hout⟩
    exact List.disjoint_of_nodup_append hnodup hin hout

theorem least_of_fit
    (h : chassisSpeedsWithSlipRejection modules locations threshold = some fit) :
    2 ≤ fit.used.length ∧ fit.usedModuleCount = fit.used.length ∧
      (∀ index, fit.usedModules index = true →
        fit.residuals index = moduleResidual (velocityObservations modules index)
          (locations index) fit.speeds.vector ∧ fit.residuals index ≤ threshold) ∧
      ∀ v, squaredResiduals (velocityObservations modules) locations fit.used fit.speeds.vector ≤
          squaredResiduals (velocityObservations modules) locations fit.used v ∧
        (squaredResiduals (velocityObservations modules) locations fit.used v =
          squaredResiduals (velocityObservations modules) locations fit.used fit.speeds.vector →
          v = fit.speeds.vector) := by
  obtain ⟨used, rejected, hloop, htwo, hcount, hused, -, hresidual⟩ := fit_of_some h
  obtain ⟨hsub, -, hfit⟩ := rejectModules_spec hloop
  obtain ⟨hsolve, hwithin⟩ := hfit htwo
  have hperm := perm_used hsub hused
  refine ⟨?_, ?_, ?_, ?_⟩
  · rw [hperm.length_eq]
    exact htwo
  · rw [hperm.length_eq]
    exact hcount
  · intro index hindex
    have hvalid := ((partition_of_fit h index).1).2 (Or.inl hindex)
    rw [hresidual index hvalid]
    exact ⟨rfl, hwithin index ((hused index).1 hindex)⟩
  · intro v
    rw [squaredResiduals_perm hperm, squaredResiduals_perm hperm]
    exact squaredResiduals_least hsolve v

theorem rejectModules_of_rigid {motion : ChassisSpeeds} {used : List Module}
    {kept solution : Fin 3 → ℝ} (hthreshold : 0 < threshold) (htwo : 2 ≤ used.length)
    (hvalid : ∀ index ∈ used, (modules index).valid)
    (hmotion : ∀ index ∈ used, Follows motion (locations index) (modules index))
    (hsolve : solveWithMask (velocityObservations modules) locations used = some solution) :
    rejectModules (velocityObservations modules) locations (some threshold) kept used [] =
      some (motion.vector, used, []) := by
  have hrigid : ∀ index ∈ used,
      (velocityObservations modules index).x =
          motion.vector 0 - motion.vector 2 * (locations index).y ∧
        (velocityObservations modules index).y =
          motion.vector 1 + motion.vector 2 * (locations index).x := by
    intro index hindex
    rw [velocityObservations, if_pos (hvalid index hindex)]
    exact hmotion index hindex
  rw [eq_of_rigid hsolve hrigid]
  apply rejectModules_of_consistent htwo hsolve
  intro index hindex
  obtain ⟨hx, hy⟩ := hrigid index hindex
  rw [← eq_of_rigid hsolve hrigid, moduleResidual, hx, hy]
  simp [hthreshold.le]

/-- Whatever is measured, the fit is the least-squares solution over the modules it keeps, and it
keeps all of them when they follow one motion. The loop drops a module in every pass but its
last. -/
theorem slip_rejection_fits (modules : Module → SwerveModuleMeasurement)
    (locations : Module → Translation2d) {threshold : ℝ} (hthreshold : 0 < threshold) :
    (∀ fit, chassisSpeedsWithSlipRejection modules locations threshold = some fit →
      (∀ index, ((modules index).valid = true ↔
          fit.usedModules index = true ∨ fit.slippingModules index = true) ∧
        ¬(fit.usedModules index = true ∧ fit.slippingModules index = true)) ∧
      2 ≤ fit.used.length ∧ fit.usedModuleCount = fit.used.length ∧
      (∀ index, fit.usedModules index = true →
        fit.residuals index = moduleResidual (velocityObservations modules index)
          (locations index) fit.speeds.vector ∧ fit.residuals index ≤ threshold) ∧
      ∀ v, squaredResiduals (velocityObservations modules) locations fit.used fit.speeds.vector ≤
          squaredResiduals (velocityObservations modules) locations fit.used v ∧
        (squaredResiduals (velocityObservations modules) locations fit.used v =
          squaredResiduals (velocityObservations modules) locations fit.used fit.speeds.vector →
          v = fit.speeds.vector)) ∧
    ∀ motion : ChassisSpeeds,
      (∀ index, (modules index).valid → Follows motion (locations index) (modules index)) →
      (∀ fit, chassisSpeedsWithSlipRejection modules locations threshold = some fit →
        (∀ index, fit.slippingModules index = false) ∧ fit.speeds = motion) ∧
      (2 ≤ (validModules modules).length →
        (solveWithMask (velocityObservations modules) locations (validModules modules)).isSome →
        (chassisSpeedsWithSlipRejection modules locations threshold).isSome) := by
  constructor
  · intro fit hfit
    exact ⟨partition_of_fit hfit, least_of_fit hfit⟩
  intro motion hmotion
  have hvalid : ∀ index ∈ validModules modules, (modules index).valid := by
    intro index hindex
    simpa [validModules] using hindex
  have hkeep : ∀ solution, 2 ≤ (validModules modules).length →
      solveWithMask (velocityObservations modules) locations (validModules modules) =
        some solution →
      rejectModules (velocityObservations modules) locations (some threshold) (fun _ => 0)
        (validModules modules) [] = some (motion.vector, validModules modules, []) := by
    intro solution htwo hsolve
    exact rejectModules_of_rigid hthreshold htwo hvalid
      (fun index hindex => hmotion index (hvalid index hindex)) hsolve
  constructor
  · intro fit hfit
    obtain ⟨used, rejected, hloop, htwo, -, hused, hrejected, -⟩ := fit_of_some hfit
    have hcount : 2 ≤ (validModules modules).length :=
      htwo.trans (rejectModules_spec hloop).1.length_le
    cases hsolve : solveWithMask (velocityObservations modules) locations
        (validModules modules) with
    | none =>
      rw [rejectModules, if_neg (by omega), hsolve] at hloop
      cases hloop
    | some solution =>
      rw [hkeep solution hcount hsolve] at hloop
      simp only [Option.some.injEq, Prod.mk.injEq] at hloop
      obtain ⟨hspeeds, -, rfl⟩ := hloop
      constructor
      · intro index
        rw [Bool.eq_false_iff, ne_eq, hrejected index]
        exact List.not_mem_nil
      · exact (ChassisSpeeds.vector_injective hspeeds).symm
  · intro htwo hsolve
    obtain ⟨solution, hsolve⟩ := Option.isSome_iff_exists.1 hsolve
    unfold chassisSpeedsWithSlipRejection fitModuleObservations
    rw [filter_velocityObservations, hkeep solution htwo hsolve]
    rw [Option.bind_some]
    dsimp only
    rw [if_neg (not_lt.2 htwo)]
    rfl

theorem solveWithMask_crossing :
    solveWithMask (velocityObservations fun _ => ⟨1, 0, true⟩) crossing
      (validModules fun _ => ⟨1, 0, true⟩) = some ![1, 0, 0] := by
  have hmodules : validModules (fun _ => ⟨1, 0, true⟩) = [0, 1, 2, 3] := by
    rw [validModules, List.filter_eq_self.2 fun _ _ => rfl]
    decide
  have hnormal : [0, 1, 2, 3].foldl (fun normal index =>
      accumulateModule (crossing index)
        (velocityObservations (fun _ => ⟨1, 0, true⟩) index).x
        (velocityObservations (fun _ => ⟨1, 0, true⟩) index).y normal) (fun _ _ => 0) =
      ![![4, 0, 0, 4], ![0, 4, 0, 0], ![0, 0, 4, 0]] := by
    funext row entry
    fin_cases row <;> fin_cases entry <;>
      simp [accumulateModule, accumulateObservation, crossing, velocityObservations] <;> norm_num
  rw [solveWithMask, hmodules, hnormal, solveThreeByThree_diagonal (by norm_num)]
  simp

/-- Four wheels rolling straight ahead. -/
theorem slip_rejection_fits_straight :
    ∃ fit, chassisSpeedsWithSlipRejection (fun _ => ⟨1, 0, true⟩) crossing 1 = some fit ∧
      (∀ index, fit.slippingModules index = false) ∧ fit.speeds = ⟨1, 0, 0⟩ := by
  obtain ⟨hsound, hfound⟩ := (slip_rejection_fits (fun _ => ⟨1, 0, true⟩) crossing one_pos).2
    ⟨1, 0, 0⟩ fun index _ => by simp [Follows]
  obtain ⟨fit, hfit⟩ := Option.isSome_iff_exists.1 (hfound (by simp [validModules, moduleCount]) (by
    rw [solveWithMask_crossing]
    rfl))
  exact ⟨fit, hfit, hsound fit hfit⟩

end ChassisFit

end RobotDriver.Swerve

end
