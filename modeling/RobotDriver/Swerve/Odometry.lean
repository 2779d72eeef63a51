import RobotDriver.Swerve.Kinematics

/-!
# Swerve odometry

`SwerveOdometry` with the pose exponential it integrates. A module's baseline is its position in
the last update in which it was valid or was rejected as slipping.
-/

noncomputable section

namespace RobotDriver.Swerve

@[ext]
structure Pose2d where
  x : ℝ := 0
  y : ℝ := 0
  heading : ℝ := 0

structure BodyDelta where
  dx : ℝ
  dy : ℝ
  dtheta : ℝ

def smallAngleThreshold : ℝ := 1 / 10 ^ 9

def poseExp (delta : BodyDelta) : Pose2d :=
  let theta := delta.dtheta
  let sineScale := if |theta| < smallAngleThreshold then 1 - theta * theta / 6
    else Real.sin theta / theta
  let cosineScale := if |theta| < smallAngleThreshold then theta / 2
    else (1 - Real.cos theta) / theta
  ⟨delta.dx * sineScale - delta.dy * cosineScale, delta.dx * cosineScale + delta.dy * sineScale,
    theta⟩

def integratePose (current : Pose2d) (delta : BodyDelta) (absoluteHeading : ℝ) : Pose2d :=
  let transform := poseExp delta
  let cosine := Real.cos current.heading
  let sine := Real.sin current.heading
  ⟨current.x + transform.x * cosine - transform.y * sine,
    current.y + transform.x * sine + transform.y * cosine, absoluteHeading⟩

structure SwerveOdometry where
  moduleLocations : Module → Translation2d
  previousPositions : Module → SwerveModulePosition
  pose : Pose2d
  previousYaw : ℝ
  yawOffset : ℝ

def updateValidBaselines (baselines positions : Module → SwerveModulePosition) :
    Module → SwerveModulePosition := fun index =>
  if (positions index).valid || (positions index).rejectedAsSlip then
    { positions index with valid := true, rejectedAsSlip := false }
  else baselines index

namespace SwerveOdometry

def reset (moduleLocations : Module → Translation2d) (pose : Pose2d) (yaw : ℝ)
    (positions : Module → SwerveModulePosition) : SwerveOdometry where
  moduleLocations := moduleLocations
  previousPositions := positions
  pose := pose
  previousYaw := yaw
  yawOffset := pose.heading - yaw

variable (o : SwerveOdometry)

def update (yaw : ℝ) (positions : Module → SwerveModulePosition) : SwerveOdometry :=
  let deltaYaw := wrapPi (yaw - o.previousYaw)
  let translation :=
    wheelTranslationFromPositionDeltas o.previousPositions positions o.moduleLocations deltaYaw
  let delta : BodyDelta :=
    ⟨translation.elim 0 (·.x), translation.elim 0 (·.y), deltaYaw⟩
  { o with
    pose := integratePose o.pose delta (o.yawOffset + yaw)
    previousPositions := updateValidBaselines o.previousPositions positions
    previousYaw := yaw }

end SwerveOdometry

theorem poseExp_of_straight (dx dy : ℝ) : poseExp ⟨dx, dy, 0⟩ = ⟨dx, dy, 0⟩ := by
  have hsmall : |(0 : ℝ)| < smallAngleThreshold := by norm_num [smallAngleThreshold]
  unfold poseExp
  simp only [if_pos hsmall]
  ext <;> simp

end RobotDriver.Swerve

end
