import RobotDriver.Rolling.LimitChecker

/-!
# The rolling buffer

`RollingBuffer` with the sampling of a trajectory image. A coordinate of a batch that is not finite
is `none`. An image lists its valid points, so an index loop over them is a recursion on a suffix.
-/

namespace RobotDriver.Rolling

variable {K : Type*} [Field K] [LinearOrder K]

structure PointView (K : Type*) where
  timeNs : ℕ
  positions : List (Option K)
  velocities : List (Option K)

structure BatchView (K : Type*) where
  replaceFromNs : ℕ
  points : List (PointView K)
  final : Bool

structure BufferConfiguration (K : Type*) [Field K] [LinearOrder K] where
  capacity : ℕ
  maxHorizonNs : ℕ
  splicePositionTolerance : Axis → K
  spliceVelocityTolerance : Axis → K
  two_le_capacity : 2 ≤ capacity
  capacity_le : capacity ≤ transportMaxPoints
  maxHorizonNs_pos : 0 < maxHorizonNs
  splicePositionTolerance_nonneg : ∀ axis, 0 ≤ splicePositionTolerance axis
  spliceVelocityTolerance_nonneg : ∀ axis, 0 ≤ spliceVelocityTolerance axis

theorem two_le_transportMaxPoints : 2 ≤ transportMaxPoints := by decide

theorem tenSeconds_pos : 0 < 10 ^ 10 := by norm_num

/-- Ten seconds, without a splice tolerance. -/
def BufferConfiguration.tight : BufferConfiguration K where
  capacity := 256
  maxHorizonNs := 10 ^ 10
  splicePositionTolerance _ := 0
  spliceVelocityTolerance _ := 0
  two_le_capacity := two_le_transportMaxPoints
  capacity_le := Nat.le_refl transportMaxPoints
  maxHorizonNs_pos := tenSeconds_pos
  splicePositionTolerance_nonneg _ := le_rfl
  spliceVelocityTolerance_nonneg _ := le_rfl

structure AdmissionContext where
  executionTimeNs : ℕ := 0
  replaceableFromNs : ℕ := 0
  minimumHorizonNs : ℕ := 0
  activeGeneration : ℕ := 0
  priming : Bool := false

structure MonotonicTrajectoryCursor where
  pointIndex : ℕ := 0
  generation : ℕ := 0
  lastTimeNs : ℕ := 0
  initialized : Bool := false

def copyPoint (input : PointView K) : JointPoint K where
  timeNs := input.timeNs
  positions axis := (input.positions[axis.val]?.join).getD 0
  velocities axis := (input.velocities[axis.val]?.join).getD 0

section Sampling

def phase (start end' : JointPoint K) (timeNs : ℕ) : K :=
  ((timeNs : K) - start.timeNs) / ((end'.timeNs - start.timeNs : ℕ) : K)

def sampleAxis (start end' : JointPoint K) (timeNs : ℕ) (axis : Axis) :
    Option (ScalarKinematicState K) :=
  (axisSegment start end' axis).bind fun segment =>
    sampleCubicHermite segment (phase start end' timeNs)

def sampleSegment (start end' : JointPoint K) (timeNs : ℕ) : Option (JointPoint K) :=
  if axes.all fun axis => (sampleAxis start end' timeNs axis).isSome then
    some
      { timeNs
        positions := fun axis => (sampleAxis start end' timeNs axis).elim 0 (·.position)
        velocities := fun axis => (sampleAxis start end' timeNs axis).elim 0 (·.velocity) }
  else none

/-- Drop the points before the last one that is not after `timeNs`. -/
def seek (timeNs : ℕ) : List (JointPoint K) → List (JointPoint K)
  | current :: next :: rest =>
    if next.timeNs ≤ timeNs then seek timeNs (next :: rest) else current :: next :: rest
  | points => points

def sampleAt (timeNs : ℕ) : List (JointPoint K) → Option (JointPoint K)
  | [] => none
  | current :: rest =>
    if timeNs = current.timeNs then some current
    else rest.head?.bind fun next => sampleSegment current next timeNs

def TrajectoryImage.covers (image : TrajectoryImage K) (timeNs : ℕ) : Bool :=
  image.points.head?.any (·.timeNs ≤ timeNs) && image.points.getLast?.any (timeNs ≤ ·.timeNs)

def sampleTrajectoryImageMonotonic (image : TrajectoryImage K) (timeNs : ℕ)
    (cursor : MonotonicTrajectoryCursor) : Option (JointPoint K × MonotonicTrajectoryCursor) :=
  if image.covers timeNs then
    let reset := !cursor.initialized || cursor.generation ≠ image.generation ||
      timeNs < cursor.lastTimeNs || image.points.length ≤ cursor.pointIndex
    let suffix := seek timeNs (image.points.drop (if reset then 0 else cursor.pointIndex))
    (sampleAt timeNs suffix).map fun point =>
      (point, ⟨image.points.length - suffix.length, image.generation, timeNs, true⟩)
  else none

def sampleTrajectoryImage (image : TrajectoryImage K) (timeNs : ℕ) : Option (JointPoint K) :=
  (sampleTrajectoryImageMonotonic image timeNs {}).map (·.1)

end Sampling

structure RollingBuffer (K : Type*) [Field K] [LinearOrder K] where
  configuration : BufferConfiguration K
  limitChecker : LimitChecker K
  image : TrajectoryImage K := {}
  anchor : JointPoint K := ⟨0, fun _ => 0, fun _ => 0⟩

namespace RollingBuffer

variable (buffer : RollingBuffer K)

def clear : RollingBuffer K :=
  { buffer with image := {}, anchor := ⟨0, fun _ => 0, fun _ => 0⟩ }

/-- `none` when the anchor is refused. -/
def reset (anchor : JointPoint K) : Option (RollingBuffer K) :=
  if anchor.timeNs ≠ 0 then none
  else if axes.any fun axis =>
      anchor.velocities axis ≠ 0 ||
        anchor.positions axis < (buffer.limitChecker.envelope axis).safeLower ||
          (buffer.limitChecker.envelope axis).safeUpper < anchor.positions axis then none
  else some { buffer.clear with anchor }

/-- The loop of `validateInput` behind a point at `previousNs`. -/
def validatePoints (previousNs : Option ℕ) : List (PointView K) → RejectCode
  | [] => .none
  | point :: rest =>
    if point.positions.length ≠ axisCount ∨ point.velocities.length ≠ axisCount then .invalidShape
    else if point.positions.any (·.isNone) || point.velocities.any (·.isNone) then .nonFinite
    else if previousNs.any (point.timeNs ≤ ·) then .nonMonotonicTime
    else validatePoints (some point.timeNs) rest

def validateInput (batch : BatchView K) : RejectCode :=
  if batch.points.length < 2 then .invalidShape
  else if buffer.configuration.capacity < batch.points.length then .capacityExceeded
  else
    match validatePoints none batch.points with
    | .none =>
      if batch.final &&
          !(batch.points.getLast?.all fun last => last.velocities.all (· = some 0)) then
        .finalNotAtRest
      else if (batch.points.head?.all fun first => first.timeNs = batch.replaceFromNs) then .none
      else .timeGap
    | code => code

def validateHorizon (candidate : TrajectoryImage K) (context : AdmissionContext) : RejectCode :=
  if !candidate.covers context.executionTimeNs then .timeGap
  else
    let horizon := (candidate.points.getLast?.elim 0 (·.timeNs)) - context.executionTimeNs
    if !context.priming && horizon ≤ context.minimumHorizonNs then .insufficientHorizon
    else if buffer.configuration.maxHorizonNs < horizon then .horizonExceeded
    else .none

/-- The knot that replaces the first point of the batch and the points kept before it. -/
def splice (batch : BatchView K) (context : AdmissionContext) :
    Except RejectCode (JointPoint K × List (JointPoint K)) :=
  if buffer.image.points = [] then
    if batch.replaceFromNs ≠ 0 then .error .timeGap
    else if context.executionTimeNs ≠ 0 then .error .lateReplace
    else .ok (buffer.anchor, [])
  else if batch.replaceFromNs < context.replaceableFromNs then .error .lateReplace
  else if !buffer.image.covers context.executionTimeNs then .error .timeGap
  else
    match sampleTrajectoryImage buffer.image batch.replaceFromNs with
    | none => .error .timeGap
    | some point => .ok (point, (seek context.executionTimeNs buffer.image.points).takeWhile
        (·.timeNs < batch.replaceFromNs))

/-- The checks of the new segments, which start at the knot. -/
def checkSuffix [SquareRoot K] : List (JointPoint K) → RejectCode
  | start :: end' :: rest =>
    match buffer.limitChecker.checkSegment start end' with
    | .error direct => direct.code
    | .ok extrema =>
      match buffer.limitChecker.checkStoppingViability extrema with
      | .error viable => viable.code
      | .ok _ => checkSuffix (end' :: rest)
  | _ => .none

def candidate (batch : BatchView K) (context : AdmissionContext) (knot : JointPoint K)
    (kept : List (JointPoint K)) : TrajectoryImage K where
  points := kept ++ knot :: batch.points.tail.map copyPoint
  generation := buffer.image.generation + 1
  final := batch.final
  earliestChangedNs :=
    if context.activeGeneration < buffer.image.generation then
      min buffer.image.earliestChangedNs batch.replaceFromNs
    else batch.replaceFromNs

def prepare [SquareRoot K] (batch : BatchView K) (context : AdmissionContext) :
    Except RejectCode (TrajectoryImage K) :=
  match buffer.validateInput batch with
  | .none =>
    if buffer.image.generation = maxUint64 then .error .sessionNotAccepting
    else
      match buffer.splice batch context with
      | .error code => .error code
      | .ok (knot, kept) =>
        match checkSpliceContinuity knot (batch.points.head?.elim knot copyPoint)
            buffer.configuration.splicePositionTolerance
            buffer.configuration.spliceVelocityTolerance with
        | .none =>
          if buffer.configuration.capacity < kept.length + batch.points.length then
            .error .capacityExceeded
          else
            match buffer.validateHorizon (buffer.candidate batch context knot kept) context with
            | .none =>
              match buffer.checkSuffix (knot :: batch.points.tail.map copyPoint) with
              | .none => .ok (buffer.candidate batch context knot kept)
              | code => .error code
            | code => .error code
        | code => .error code
  | code => .error code

def commit (candidate : TrajectoryImage K) (context : AdmissionContext) :
    Except RejectCode (RollingBuffer K) :=
  if candidate.earliestChangedNs < context.replaceableFromNs then .error .lateReplace
  else
    match buffer.validateHorizon candidate context with
    | .none => .ok { buffer with image := candidate }
    | code => .error code

end RollingBuffer

end RobotDriver.Rolling
