import RobotDriver.Swerve.UpdateReturns

/-!
# The motion that an update measures

An update moves the pose by what its wheels and its IMU report since the baseline, and by nothing
else. The update of an activation takes its own baseline and measures nothing.
-/

noncomputable section

open scoped Classical

namespace RobotDriver.Swerve

/-- A displacement in the body frame with the change of the heading. -/
structure MeasuredMotion where
  dx : ℝ := 0
  dy : ℝ := 0
  dyaw : ℝ := 0

def Pose2d.moved (pose : Pose2d) (motion : MeasuredMotion) : Pose2d :=
  integratePose pose ⟨motion.dx, motion.dy, wrapPi motion.dyaw⟩ (pose.heading + motion.dyaw)

@[simp] theorem Pose2d.moved_nothing (pose : Pose2d) : pose.moved {} = pose := by
  unfold Pose2d.moved integratePose
  rw [wrapPi_zero, poseExp_of_straight]
  ext <;> simp

theorem Pose2d.moved_injective (motion : MeasuredMotion) :
    Function.Injective fun pose : Pose2d => pose.moved motion := by
  intro pose other h
  have hheading : pose.heading + motion.dyaw = other.heading + motion.dyaw :=
    congrArg Pose2d.heading h
  have hheading : pose.heading = other.heading := add_right_cancel hheading
  have hx := congrArg Pose2d.x h
  have hy := congrArg Pose2d.y h
  simp only [Pose2d.moved, integratePose, hheading] at hx hy
  ext
  · linarith
  · linarith
  · exact hheading

section Fit

theorem eliminateColumn_of_zero {matrix next : AugmentedMatrix} {column : Fin 3}
    (h : eliminateColumn matrix column = some next) (hzero : ∀ row, matrix row 3 = 0) (row : Fin 3) :
    next row 3 = 0 := by
  rw [eliminateColumn] at h
  by_cases hsingular : |matrix (pivotRow matrix column) column.castSucc| < 1 / 10 ^ 12
  · rw [if_pos hsingular] at h
    cases h
  · rw [if_neg hsingular] at h
    cases h
    have hswapped : ∀ row, (if row = column then matrix (pivotRow matrix column)
        else if row = pivotRow matrix column then matrix column else matrix row) 3 = 0 := by
      intro row
      split_ifs <;> exact hzero _
    simp [hswapped, hzero]

theorem solveThreeByThree_of_zero {matrix : AugmentedMatrix} {solution : Fin 3 → ℝ}
    (h : solveThreeByThree matrix = some solution) (hzero : ∀ row, matrix row 3 = 0) (row : Fin 3) :
    solution row = 0 := by
  have hfold : ∀ (columns : List (Fin 3)) (matrix : AugmentedMatrix),
      (∀ row, matrix row 3 = 0) → ∀ solved ∈ columns.foldlM eliminateColumn matrix,
        ∀ row, solved row 3 = 0 := by
    intro columns
    induction columns with
    | nil =>
      rintro matrix hzero _ ⟨⟩
      exact hzero
    | cons column columns ih =>
      intro matrix hzero solved hsolved
      rw [List.foldlM_cons] at hsolved
      obtain ⟨next, hnext, hrest⟩ := Option.bind_eq_some_iff.1 hsolved
      exact ih next (eliminateColumn_of_zero hnext hzero) solved hrest
  obtain ⟨solved, hsolved, rfl⟩ := Option.map_eq_some_iff.1 h
  exact hfold _ matrix hzero solved hsolved row

end Fit

section Deltas

variable {previous current : Module → SwerveModulePosition}
  (h : ∀ index, distanceDelta previous current index = 0) (moduleLocations : Module → Translation2d)

include h in
theorem wheelChassisDelta_of_still :
    (wheelChassisDeltaFromPositionDeltas previous current moduleLocations).elim 0 (·.dtheta) =
      0 := by
  have hnormal : ∀ (indices : List Module) (normal : AugmentedMatrix),
      (∀ row, normal row 3 = 0) → ∀ row, indices.foldl (fun normal index =>
        accumulateModule (moduleLocations index)
          (distanceDelta previous current index * Real.cos (steeringAngle previous current index))
          (distanceDelta previous current index * Real.sin (steeringAngle previous current index))
          normal) normal row 3 = 0 := by
    intro indices
    induction indices with
    | nil => exact fun _ hzero => hzero
    | cons index indices ih =>
      intro normal hzero
      refine ih _ fun row => ?_
      simp [accumulateModule, accumulateObservation, hzero row, h index]
  unfold wheelChassisDeltaFromPositionDeltas
  dsimp only
  split_ifs
  · rfl
  · cases hsolve : solveThreeByThree ((contributing previous current).foldl (fun normal index =>
        accumulateModule (moduleLocations index)
          (distanceDelta previous current index * Real.cos (steeringAngle previous current index))
          (distanceDelta previous current index * Real.sin (steeringAngle previous current index))
          normal) fun _ _ => 0) with
    | none => rfl
    | some solution => exact solveThreeByThree_of_zero hsolve (hnormal _ _ fun _ => rfl) 2

include h in
theorem wheelTranslation_of_still :
    ∀ translation ∈ wheelTranslationFromPositionDeltas previous current moduleLocations 0,
      translation = ⟨0, 0⟩ := by
  have hsum : ∀ indices : List Module, indices.foldl (fun (sum : Translation2d) index =>
      (⟨sum.x + (distanceDelta previous current index *
          Real.cos (steeringAngle previous current index) + 0 * (moduleLocations index).y),
        sum.y + (distanceDelta previous current index *
          Real.sin (steeringAngle previous current index) - 0 * (moduleLocations index).x)⟩ :
          Translation2d)) ⟨0, 0⟩ = ⟨0, 0⟩ := by
    intro indices
    induction indices with
    | nil => rfl
    | cons index indices ih =>
      rw [List.foldl_cons]
      simpa [h index] using ih
  unfold wheelTranslationFromPositionDeltas
  dsimp only
  rw [hsum]
  split_ifs
  · exact nofun
  · rintro _ ⟨⟩
    simp

end Deltas

namespace ControlCore

variable (core : ControlCore) (feedback : Module → ModuleFeedback) (imu : Option YawSample)

def measuredYaw : ℝ :=
  match freshImu imu with
  | some (yaw, _) => if core.imuFallback then 0 else wrapPi (yaw - core.lastImuYaw)
  | none => (core.wheelDelta feedback).elim 0 (·.dtheta)

def measuredMotion : MeasuredMotion :=
  match core.odometry with
  | none => {}
  | some odometry =>
    let dyaw := core.measuredYaw feedback imu
    let translation := wheelTranslationFromPositionDeltas odometry.previousPositions
      (core.odometryPositions feedback) odometry.moduleLocations (wrapPi dyaw)
    ⟨translation.elim 0 (·.x), translation.elim 0 (·.y), dyaw⟩

theorem observedYaw_eq :
    core.observedYaw feedback imu = core.yaw + core.measuredYaw feedback imu := by
  unfold observedYaw measuredYaw
  cases freshImu imu with
  | none => rfl
  | some sample =>
    dsimp only
    split_ifs
    · exact (add_zero core.yaw).symm
    · rfl

/-- The odometry stands at the published pose and at the yaw. -/
structure Framed (core : ControlCore) : Prop where
  pose : ∀ odometry ∈ core.odometry, odometry.pose = core.output.pose
  yaw : ∀ odometry ∈ core.odometry, odometry.previousYaw = core.yaw
  heading : ∀ odometry ∈ core.odometry, odometry.yawOffset + core.yaw = core.output.pose.heading

variable {core}

theorem Framed.pose_observe (h : core.Framed) :
    (core.observe feedback imu).output.pose =
      core.output.pose.moved (core.measuredMotion feedback imu) := by
  cases hodometry : core.odometry with
  | none => simp only [observe, measuredMotion, hodometry, Pose2d.moved_nothing]
  | some odometry =>
    have hpose := h.pose odometry hodometry
    have hyaw := h.yaw odometry hodometry
    have hheading := h.heading odometry hodometry
    have hdelta : core.observedYaw feedback imu - odometry.previousYaw =
        core.measuredYaw feedback imu := by
      rw [observedYaw_eq, hyaw, add_sub_cancel_left]
    have habsolute : odometry.yawOffset + core.observedYaw feedback imu =
        core.output.pose.heading + core.measuredYaw feedback imu := by
      rw [observedYaw_eq, ← add_assoc, hheading]
    simp only [observe, measuredMotion, hodometry, SwerveOdometry.update, Pose2d.moved, hdelta,
      habsolute, hpose]

theorem Framed.observe (h : core.Framed) : (core.observe feedback imu).Framed := by
  cases hodometry : core.odometry with
  | none =>
    have hkept : core.observe feedback imu = core := by rw [ControlCore.observe, hodometry]
    rw [hkept]
    exact h
  | some odometry =>
    simp only [ControlCore.observe, hodometry]
    constructor
    · rintro _ ⟨⟩
      rfl
    · rintro _ ⟨⟩
      rfl
    · rintro _ ⟨⟩
      rfl

end ControlCore

namespace MotionCore

variable {G : Type*} (ruckig : Ruckig G) (core : MotionCore G)
  (feedback : Module → MotionFeedback)

/-- The output of the odometry, its frame and the anchor of the IMU are kept. -/
structure SameFrame (next : MotionCore G) : Prop where
  output : next.output = core.output
  yaw : next.yaw = core.yaw
  odometry : next.odometry = core.odometry
  lastImuYaw : next.lastImuYaw = core.lastImuYaw
  imuFallback : next.imuFallback = core.imuFallback

/-- What only an observation changes. -/
def observation : ControlOutput × ℝ × Option SwerveOdometry × ℝ × Bool ×
    (Module → SwerveModulePosition) :=
  (core.output, core.yaw, core.odometry, core.lastImuYaw, core.imuFallback, core.previousPositions)

variable {core} in
theorem SameFrame.of_observation {next : MotionCore G} (h : next.observation = core.observation) :
    core.SameFrame next := by
  simp only [observation, Prod.mk.injEq] at h
  exact ⟨h.1, h.2.1, h.2.2.1, h.2.2.2.1, h.2.2.2.2.1⟩

variable {core} in
theorem SameFrame.framed {next : MotionCore G} (h : core.SameFrame next) (hframed : core.Framed) :
    next.Framed where
  pose odometry hodometry := by
    rw [h.odometry] at hodometry
    rw [h.output, hframed.pose odometry hodometry]
  yaw odometry hodometry := by
    rw [h.odometry] at hodometry
    rw [h.yaw, hframed.yaw odometry hodometry]
  heading odometry hodometry := by
    rw [h.odometry] at hodometry
    rw [h.output, h.yaw, hframed.heading odometry hodometry]

theorem observation_rampStop (status : ControlStatus) (dt : Option ℝ) :
    (core.rampStop ruckig feedback status dt).1.observation = core.observation := by
  unfold rampStop
  split
  · rfl
  · split
    · rfl
    · dsimp only
      split_ifs
      · rfl
      · rfl

theorem observation_settle (targets : AlignmentResult) (waiting : Bool) :
    (core.settle ruckig targets waiting).observation = core.observation := by
  unfold settle
  split_ifs
  · rfl
  · rfl

theorem observation_follow (targets : AlignmentResult) (holding : Module → Bool) (waiting : Bool)
    (period : ℝ) :
    (core.follow ruckig targets holding waiting period).observation = core.observation :=
  observation_settle ruckig (core.commit targets holding
    (core.followedSpeed targets waiting period) .running) targets waiting

theorem observation_steerTo (desired : Module → SwerveModuleState) (holding : Module → Bool)
    (waiting : Bool) (period : ℝ) :
    (core.steerTo ruckig feedback desired holding waiting period).1.observation =
      core.observation := by
  unfold steerTo
  split_ifs
  · rfl
  · split
    · rfl
    · rename_i setpoints targets hgenerate
      dsimp only
      split_ifs
      · exact observation_follow ruckig { core with setpoints := setpoints } targets holding waiting
          period
      · rfl

theorem observation_track (shaped : ChassisSpeeds) (waiting zeroRequest : Bool) (period : ℝ) :
    (core.track ruckig feedback shaped waiting zeroRequest period).1.observation =
      core.observation := by
  unfold track
  dsimp only
  split_ifs
  · exact observation_rampStop ruckig (core.restBody ruckig) feedback _ _
  · exact core.observation_rampStop ruckig feedback _ _
  · exact core.observation_steerTo ruckig feedback _ _ waiting period

theorem observation_obey (command : ChassisSpeeds) (period : ℝ) :
    (core.obey ruckig feedback command period).1.observation = core.observation := by
  unfold obey
  dsimp only
  split_ifs
  · exact core.observation_rampStop ruckig feedback _ _
  · rfl
  · generalize core.shapeBody ruckig feedback _ _ period = shaped
    obtain ⟨shaper, shaped⟩ := shaped
    exact observation_track ruckig { core with bodyShaper := shaper } feedback shaped _ _ period

theorem observation_updateObserved (command : CommandSpeeds) (commandFresh : Bool)
    (dt : Option ℝ) :
    (core.updateObserved ruckig feedback command commandFresh dt).1.observation =
      core.observation := by
  unfold updateObserved
  dsimp only
  split_ifs
  · rfl
  · rfl
  · rfl
  · exact observation_rampStop ruckig ((core.monitored feedback dt).restBody ruckig) feedback
      .commandTimeout dt
  · split
    · exact observation_obey ruckig (core.monitored feedback dt) feedback _ _
    · rfl

variable (command : CommandSpeeds) (commandFresh : Bool) (dt : Option ℝ) (imu : Option YawSample)

/-- A core that is inactive or holds does not observe. -/
def measuredMotion : MeasuredMotion :=
  if core.active && !core.holdFaultLatched then
    core.toControlCore.measuredMotion (observedFeedback feedback) imu
  else {}

variable {core}

theorem sameFrame_update (hactive : core.active = true) (hlatched : core.holdFaultLatched = false) :
    (core.observed feedback imu).SameFrame
      (core.update ruckig feedback command commandFresh dt imu).1 := by
  unfold update
  rw [if_neg (by simp [hactive]), if_neg (by simp [hlatched])]
  exact .of_observation (observation_updateObserved ruckig _ feedback command commandFresh dt)

theorem pose_update (h : core.Framed) :
    (core.update ruckig feedback command commandFresh dt imu).1.output.pose =
      core.output.pose.moved (core.measuredMotion feedback imu) := by
  unfold measuredMotion
  cases hactive : core.active with
  | false => simp [update, hactive, stop]
  | true =>
    cases hlatched : core.holdFaultLatched with
    | true => simp [update, hactive, hlatched, stop]
    | false =>
      rw [(sameFrame_update ruckig feedback command commandFresh dt imu hactive hlatched).output]
      exact h.pose_observe (observedFeedback feedback) imu

theorem framed_update (h : core.Framed) :
    (core.update ruckig feedback command commandFresh dt imu).1.Framed := by
  unfold update
  have hstopped : ∀ status, core.SameFrame (core.stop ruckig feedback status) :=
    fun _ => .of_observation rfl
  split_ifs
  · exact (hstopped .inactive).framed h
  · exact (hstopped .steeringHoldFault).framed h
  · exact (SameFrame.of_observation (observation_updateObserved ruckig _ feedback command commandFresh
      dt)).framed
      (h.observe (observedFeedback feedback) imu)

theorem distance_odometryPositions (core : ControlCore) (feedback : Module → ModuleFeedback)
    (index : Module) : (core.odometryPositions feedback index).distance =
      (feedback index).wheelPosition.getD 0 * core.config.wheelRadius index := by
  unfold ControlCore.odometryPositions
  split_ifs <;> rfl

theorem measuredMotion_of_baseline {core : ControlCore} {feedback : Module → ModuleFeedback}
    {odometry : SwerveOdometry} (hodometry : core.odometry = some odometry)
    (hprevious : ∀ index, (core.previousPositions index).distance =
      (feedback index).wheelPosition.getD 0 * core.config.wheelRadius index)
    (hbaseline : odometry.previousPositions = core.previousPositions) :
    core.measuredMotion feedback none = {} := by
  have hstill : ∀ index, distanceDelta core.previousPositions (core.odometryPositions feedback)
      index = 0 := by
    intro index
    rw [distanceDelta, distance_odometryPositions, hprevious, sub_self]
  have hyaw : core.measuredYaw feedback none = 0 := wheelChassisDelta_of_still hstill _
  have htranslation := wheelTranslation_of_still hstill odometry.moduleLocations
  simp only [ControlCore.measuredMotion, hodometry, hyaw, wrapPi_zero, hbaseline]
  cases htranslated : wheelTranslationFromPositionDeltas core.previousPositions
      (core.odometryPositions feedback) odometry.moduleLocations 0 with
  | none => rfl
  | some translation =>
    rw [htranslation translation htranslated]
    rfl

theorem activate_measures_nothing (core : MotionCore G) (hframed : core.Framed) :
    let activated := (core.activate ruckig feedback).1
    activated.Framed ∧ activated.output.pose = core.output.pose ∧
      ((core.activate ruckig feedback).2 = true → activated.measuredMotion feedback none = {}) := by
  unfold activate
  split_ifs
  · refine ⟨⟨?_, ?_, ?_⟩, rfl, fun _ => ?_⟩
    · rintro _ ⟨⟩
      rfl
    · rintro _ ⟨⟩
      rfl
    · rintro _ ⟨⟩
      exact sub_add_cancel _ _
    · exact (if_pos rfl).trans (measuredMotion_of_baseline rfl (fun _ => rfl) rfl)
  · exact ⟨⟨hframed.pose, hframed.yaw, hframed.heading⟩, rfl, nofun⟩

theorem framed_deactivate {core : MotionCore G} (h : core.Framed) :
    (core.deactivate ruckig).Framed :=
  ⟨h.pose, h.yaw, h.heading⟩

theorem framed_create (config : CoreConfig) (motion : MotionConfig) :
    (create ruckig config motion).Framed :=
  ⟨fun _ => nofun, fun _ => nofun, fun _ => nofun⟩

end MotionCore

end RobotDriver.Swerve

end
