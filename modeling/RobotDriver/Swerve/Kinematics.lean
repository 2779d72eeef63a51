import Mathlib.Analysis.SpecialFunctions.Complex.Arg
import RobotDriver.Lib.Numerals

/-!
# Swerve kinematics

Angles, the least-squares fits over four modules and the displacement estimates from wheel
position increments, over the real numbers. The checks for finite values that precede a `throw`
have no counterpart here.
-/

noncomputable section

namespace RobotDriver.Swerve

abbrev moduleCount : ℕ := 4

abbrev Module := Fin moduleCount

structure ChassisSpeeds where
  vx : ℝ := 0
  vy : ℝ := 0
  omega : ℝ := 0

structure Translation2d where
  x : ℝ
  y : ℝ

/-- The ends of a cross. -/
def crossing : Module → Translation2d := ![⟨1, 0⟩, ⟨-1, 0⟩, ⟨0, 1⟩, ⟨0, -1⟩]

structure ChassisDelta where
  dx : ℝ
  dy : ℝ
  dtheta : ℝ

structure SwerveModuleMeasurement where
  speed : ℝ
  angle : ℝ
  valid : Bool

structure SwerveModulePosition where
  distance : ℝ
  angle : ℝ
  valid : Bool
  rejectedAsSlip : Bool := false

structure ChassisSpeedFit where
  speeds : ChassisSpeeds
  residuals : Module → ℝ
  usedModules : Module → Bool
  slippingModules : Module → Bool
  usedModuleCount : ℕ

structure SteeringAngleLimits where
  minimum : ℝ
  maximum : ℝ
  margin : ℝ
  measurementTolerance : ℝ

def ChassisSpeedFit.slipDetected (fit : ChassisSpeedFit) : Bool :=
  (List.finRange moduleCount).any fit.slippingModules

section Angles

def atan2 (y x : ℝ) : ℝ := Complex.arg ⟨x, y⟩

def wrapPi (angle : ℝ) : ℝ := atan2 (Real.sin angle) (Real.cos angle)

def midpointAngle (previous current : ℝ) : ℝ := previous + wrapPi (current - previous) / 2

theorem wrapPi_of_abs_lt {angle : ℝ} (h : |angle| < Real.pi) : wrapPi angle = angle := by
  obtain ⟨hlower, hupper⟩ := abs_lt.1 h
  have hpoint : (⟨Real.cos angle, Real.sin angle⟩ : ℂ) =
      Complex.cos angle + Complex.sin angle * Complex.I := by
    apply Complex.ext <;> simp [← Complex.ofReal_cos, ← Complex.ofReal_sin]
  rw [wrapPi, atan2, hpoint, Complex.arg_cos_add_sin_mul_I ⟨hlower, hupper.le⟩]

@[simp] theorem wrapPi_zero : wrapPi 0 = 0 := wrapPi_of_abs_lt (by simpa using Real.pi_pos)

@[simp] theorem midpointAngle_self (angle : ℝ) : midpointAngle angle angle = angle := by
  simp [midpointAngle]

def validSteeringAngleLimits (limits : SteeringAngleLimits) : Prop :=
  0 ≤ limits.margin ∧ 0 ≤ limits.measurementTolerance ∧
    limits.maximum - limits.minimum ≤ 2 * Real.pi + 1 / 10 ^ 12 ∧
    Real.pi ≤ limits.maximum - limits.minimum - 2 * limits.margin

def steeringAngleWithinLimits (angle : ℝ) (limits : SteeringAngleLimits) : Prop :=
  validSteeringAngleLimits limits ∧ limits.minimum + limits.margin ≤ angle ∧
    angle ≤ limits.maximum - limits.margin

def steeringMeasurementWithinTolerance (angle : ℝ) (limits : SteeringAngleLimits) : Prop :=
  validSteeringAngleLimits limits ∧ limits.minimum - limits.measurementTolerance ≤ angle ∧
    angle ≤ limits.maximum + limits.measurementTolerance

def clampSteeringMeasurementToSafeRange (angle : ℝ) (limits : SteeringAngleLimits) : ℝ :=
  min (max angle (limits.minimum + limits.margin)) (limits.maximum - limits.margin)

end Angles

section Fit

abbrev AugmentedMatrix := Fin 3 → Fin 4 → ℝ

/-- The first row from `column` on with the largest entry of the column. -/
def pivotRow (matrix : AugmentedMatrix) (column : Fin 3) : Fin 3 :=
  ((List.finRange 3).filter (column < ·)).foldl
    (fun pivot row => if |matrix pivot column.castSucc| < |matrix row column.castSucc| then row
      else pivot) column

/-- One column of the elimination: pivot, swap, normalise, eliminate. -/
def eliminateColumn (matrix : AugmentedMatrix) (column : Fin 3) : Option AugmentedMatrix :=
  let pivot := pivotRow matrix column
  if |matrix pivot column.castSucc| < 1 / 10 ^ 12 then none
  else
    let swapped : AugmentedMatrix := fun row =>
      if row = column then matrix pivot else if row = pivot then matrix column else matrix row
    let divisor := swapped column column.castSucc
    let normalised : AugmentedMatrix := fun row entry =>
      if row = column ∧ column.castSucc ≤ entry then swapped row entry / divisor
      else swapped row entry
    some fun row entry =>
      if row ≠ column ∧ column.castSucc ≤ entry then
        normalised row entry - normalised row column.castSucc * normalised column entry
      else normalised row entry

def solveThreeByThree (matrix : AugmentedMatrix) : Option (Fin 3 → ℝ) :=
  ((List.finRange 3).foldlM eliminateColumn matrix).map fun solved row => solved row 3

theorem pivotRow_of_column {matrix : AugmentedMatrix} {column : Fin 3}
    (h : ∀ row, column < row → matrix row column.castSucc = 0) : pivotRow matrix column = column := by
  unfold pivotRow
  have hrows : ∀ row ∈ (List.finRange 3).filter (column < ·), matrix row column.castSucc = 0 := by
    intro row hrow
    exact h row (by simpa using hrow)
  generalize (List.finRange 3).filter (column < ·) = rows at hrows
  induction rows with
  | nil => rfl
  | cons row rows ih =>
    have hnot : ¬|matrix column column.castSucc| < |matrix row column.castSucc| := by
      rw [hrows row List.mem_cons_self, abs_zero]
      exact not_lt.2 (abs_nonneg _)
    rw [List.foldl_cons, if_neg hnot]
    exact ih fun row hrow => hrows row (List.mem_cons_of_mem _ hrow)

theorem eliminateColumn_of_isolated {matrix : AugmentedMatrix} {column : Fin 3}
    (h : ∀ row, row ≠ column → matrix row column.castSucc = 0)
    (hpivot : 1 / 10 ^ 12 ≤ |matrix column column.castSucc|) :
    eliminateColumn matrix column = some fun row entry =>
      if row = column ∧ column.castSucc ≤ entry then
        matrix row entry / matrix column column.castSucc
      else matrix row entry := by
  rw [eliminateColumn, pivotRow_of_column fun row hrow => h row hrow.ne', if_neg (not_lt.2 hpivot)]
  refine congrArg some ?_
  funext row entry
  by_cases hrow : row = column
  · subst hrow
    simp
  · simp [hrow, h row hrow]

theorem solveThreeByThree_diagonal {d : ℝ} (h : 1 ≤ d) (x y z : ℝ) :
    solveThreeByThree ![![d, 0, 0, x], ![0, d, 0, y], ![0, 0, d, z]] =
      some ![x / d, y / d, z / d] := by
  have hpivot : 1 / 10 ^ 12 ≤ |d| := by
    rw [abs_of_nonneg (by linarith)]
    norm_num
    linarith
  have hcolumns : List.finRange 3 = [0, 1, 2] := by decide
  rw [solveThreeByThree, hcolumns, List.foldlM_cons,
    eliminateColumn_of_isolated (by intro row hrow; fin_cases row <;> simp_all) hpivot,
    Option.bind_eq_bind, Option.bind_some, List.foldlM_cons,
    eliminateColumn_of_isolated (by intro row hrow; fin_cases row <;> simp_all)
      (by simpa using hpivot),
    Option.bind_eq_bind, Option.bind_some, List.foldlM_cons,
    eliminateColumn_of_isolated (by intro row hrow; fin_cases row <;> simp_all)
      (by simpa using hpivot)]
  simp only [List.foldlM_nil, Option.bind_eq_bind, Option.bind_some, Option.pure_def,
    Option.map_some]
  congr 1
  funext row
  fin_cases row <;> simp

def accumulateObservation (normal : AugmentedMatrix) (row : Fin 3 → ℝ) (measurement : ℝ) :
    AugmentedMatrix := fun outer entry =>
  normal outer entry + row outer * if h : entry.val < 3 then row ⟨entry, h⟩ else measurement

structure ModuleVectorObservation where
  x : ℝ := 0
  y : ℝ := 0
  valid : Bool := false

/-- The two rows that one module contributes. -/
def accumulateModule (location : Translation2d) (x y : ℝ) (normal : AugmentedMatrix) :
    AugmentedMatrix :=
  accumulateObservation (accumulateObservation normal ![1, 0, -location.y] x)
    ![0, 1, location.x] y

def solveWithMask (observations : Module → ModuleVectorObservation)
    (locations : Module → Translation2d) (used : List Module) : Option (Fin 3 → ℝ) :=
  solveThreeByThree (used.foldl (fun normal index =>
    accumulateModule (locations index) (observations index).x (observations index).y normal)
    fun _ _ => 0)

def moduleResidual (observation : ModuleVectorObservation) (location : Translation2d)
    (solution : Fin 3 → ℝ) : ℝ :=
  √((observation.x - (solution 0 - solution 2 * location.y)) ^ 2 +
    (observation.y - (solution 1 + solution 2 * location.x)) ^ 2)

/-- The first of the used modules with the largest residual. -/
def largestResidual (residual : Module → ℝ) (used : List Module) : Option Module :=
  used.foldl (fun largest index =>
    match largest with
    | none => some index
    | some other => if residual other < residual index then some index else some other) none

theorem mem_of_largestResidual {residual : Module → ℝ} {used : List Module} {index : Module}
    (h : largestResidual residual used = some index) : index ∈ used := by
  induction used using List.reverseRecOn generalizing index with
  | nil => cases h
  | append_singleton used last ih =>
    unfold largestResidual at h ih
    rw [List.foldl_append, List.foldl_cons, List.foldl_nil] at h
    split at h
    · cases h
      simp
    · rename_i other hother
      split at h
      · cases h
        simp
      · cases h
        exact List.mem_append_left _ (ih hother)

structure ModuleLeastSquaresFit where
  solution : Fin 3 → ℝ
  residuals : Module → ℝ
  used : List Module
  rejected : List Module

/-- The rejection loop. The solution is the one of the last solve, `kept` before any. -/
def rejectModules (observations : Module → ModuleVectorObservation)
    (locations : Module → Translation2d) (threshold : Option ℝ) (kept : Fin 3 → ℝ)
    (used rejected : List Module) : Option ((Fin 3 → ℝ) × List Module × List Module) :=
  if used.length < 2 then some (kept, used, rejected)
  else
    match solveWithMask observations locations used with
    | none => none
    | some solution =>
      match threshold with
      | none => some (solution, used, rejected)
      | some threshold =>
        let residual index := moduleResidual (observations index) (locations index) solution
        match _h : largestResidual residual used with
        | none => some (solution, used, rejected)
        | some largest =>
          if residual largest ≤ threshold then some (solution, used, rejected)
          else if used.length = 2 then none
          else
            rejectModules observations locations (some threshold) solution (used.erase largest)
              (rejected ++ [largest])
  termination_by used.length
  decreasing_by
    have := List.length_pos_of_mem (mem_of_largestResidual _h)
    rw [List.length_erase_of_mem (mem_of_largestResidual _h)]
    omega

def fitModuleObservations (observations : Module → ModuleVectorObservation)
    (locations : Module → Translation2d) (rejectionThreshold : Option ℝ) :
    Option ModuleLeastSquaresFit :=
  (rejectModules observations locations rejectionThreshold (fun _ => 0)
    ((List.finRange moduleCount).filter fun index => (observations index).valid) []).bind
    fun (solution, used, rejected) =>
      if used.length < 2 then none
      else some
        { solution := solution
          residuals := fun index =>
            if (observations index).valid then
              moduleResidual (observations index) (locations index) solution
            else 0
          used := used
          rejected := rejected }

def velocityObservations (modules : Module → SwerveModuleMeasurement) (index : Module) :
    ModuleVectorObservation :=
  if (modules index).valid then
    { x := (modules index).speed * Real.cos (modules index).angle
      y := (modules index).speed * Real.sin (modules index).angle
      valid := true }
  else {}

/-- The threshold is positive, otherwise the source throws. -/
def chassisSpeedsWithSlipRejection (modules : Module → SwerveModuleMeasurement)
    (moduleLocations : Module → Translation2d) (slipResidualThreshold : ℝ) :
    Option ChassisSpeedFit :=
  (fitModuleObservations (velocityObservations modules) moduleLocations
    (some slipResidualThreshold)).map fun fit =>
      { speeds := ⟨fit.solution 0, fit.solution 1, fit.solution 2⟩
        residuals := fit.residuals
        usedModules := fun index => index ∈ fit.used
        slippingModules := fun index => index ∈ fit.rejected
        usedModuleCount := fit.used.length }

theorem rejectModules_of_consistent {observations : Module → ModuleVectorObservation}
    {locations : Module → Translation2d} {threshold : ℝ} {kept solution : Fin 3 → ℝ}
    {used rejected : List Module} (hused : 2 ≤ used.length)
    (hsolve : solveWithMask observations locations used = some solution)
    (hresidual : ∀ index ∈ used,
      moduleResidual (observations index) (locations index) solution ≤ threshold) :
    rejectModules observations locations (some threshold) kept used rejected =
      some (solution, used, rejected) := by
  rw [rejectModules, if_neg (by omega), hsolve]
  dsimp only
  split
  · rfl
  · rename_i largest hlargest
    rw [if_pos (hresidual largest (mem_of_largestResidual hlargest))]

theorem chassisSpeedsWithSlipRejection_of_consistent
    {modules : Module → SwerveModuleMeasurement} {locations : Module → Translation2d}
    {threshold : ℝ} {solution : Fin 3 → ℝ} (hvalid : ∀ index, (modules index).valid)
    (hsolve : solveWithMask (velocityObservations modules) locations (List.finRange moduleCount) =
      some solution)
    (hresidual : ∀ index, moduleResidual (velocityObservations modules index) (locations index)
      solution ≤ threshold) :
    ∃ fit, chassisSpeedsWithSlipRejection modules locations threshold = some fit ∧
      fit.slippingModules = fun _ => false := by
  have hused : (List.finRange moduleCount).filter
      (fun index => (velocityObservations modules index).valid) = List.finRange moduleCount := by
    rw [List.filter_eq_self]
    intro index _
    simp [velocityObservations, hvalid index]
  have hcount : 2 ≤ (List.finRange moduleCount).length := by decide
  unfold chassisSpeedsWithSlipRejection fitModuleObservations
  rw [hused, rejectModules_of_consistent hcount hsolve fun index _ => hresidual index]
  refine ⟨_, rfl, ?_⟩
  simp

end Fit

section Deltas

variable (previous current : Module → SwerveModulePosition)
  (moduleLocations : Module → Translation2d)

/-- The modules that are valid now and were valid at their last baseline. -/
def contributing : List Module :=
  (List.finRange moduleCount).filter fun index => (previous index).valid && (current index).valid

def distanceDelta (index : Module) : ℝ := (current index).distance - (previous index).distance

def steeringAngle (index : Module) : ℝ :=
  midpointAngle (previous index).angle (current index).angle

def wheelTranslationFromPositionDeltas (deltaYaw : ℝ) : Option Translation2d :=
  let sum := (contributing previous current).foldl (fun (sum : Translation2d) index =>
    let distance := distanceDelta previous current index
    let angle := steeringAngle previous current index
    ⟨sum.x + (distance * Real.cos angle + deltaYaw * (moduleLocations index).y),
      sum.y + (distance * Real.sin angle - deltaYaw * (moduleLocations index).x)⟩) ⟨0, 0⟩
  let validCount := (contributing previous current).length
  if validCount = 0 then none else some ⟨sum.x / validCount, sum.y / validCount⟩

def wheelChassisDeltaFromPositionDeltas : Option ChassisDelta :=
  let normal := (contributing previous current).foldl (fun normal index =>
    let distance := distanceDelta previous current index
    let angle := steeringAngle previous current index
    accumulateModule (moduleLocations index) (distance * Real.cos angle)
      (distance * Real.sin angle) normal) fun _ _ => 0
  if (contributing previous current).length < 2 then none
  else (solveThreeByThree normal).map fun solution => ⟨solution 0, solution 1, solution 2⟩

end Deltas

end RobotDriver.Swerve

end
