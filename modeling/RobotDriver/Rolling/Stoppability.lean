import RobotDriver.Rolling.BoundedImage
import RobotDriver.Rolling.BufferRun
import RobotDriver.Rolling.Stopping

/-!
# Admitted motion can stop

From every time of an accepted image whose segment starts a resolved one the stop begins, respects
the limits and ends at rest, and the realtime stop never fails.
-/

namespace RobotDriver.Rolling

open LabelledRun

variable {K : Type*} [Field K] [LinearOrder K]

/-- Some segment of the image around the time starts a resolved admissible one. -/
def TrajectoryImage.ResolvedAt [SquareRoot K] (checker : LimitChecker K) (image : TrajectoryImage K)
    (timeNs : ℕ) : Prop :=
  ∃ before start end' after original, image.points = before ++ start :: end' :: after ∧
    start.timeNs ≤ timeNs ∧ timeNs ≤ end'.timeNs ∧ PieceOf checker start end' original ∧
      ResolvedSegment start original

structure StopsFrom [FloorSemiring K] (configuration : RuntimeConfiguration K)
    (point : JointPoint K) : Prop where
  begins : ∃ stop, StopTrajectory.begin { limitChecker := configuration.limitChecker } point =
      some stop ∧
    (∀ axis, |stop.accelerations axis| ≤ (configuration.limitChecker.envelope axis).stopAcceleration
      (point.velocities axis)) ∧
    ∀ elapsedNs, point.timeNs + elapsedNs ≤ maxUint64 →
      ∃ sampled stop', stop.sample elapsedNs = some (sampled, stop') ∧
        configuration.limitChecker.desiredIsValid sampled = true ∧
        (stop.durationNs ≤ elapsedNs →
          sampled.velocities = (fun _ => 0) ∧ stop'.state = .holding)
  ticks : ∀ (c : RollingTrajectoryController K) (reason : StopReason) (periods : List ℤ),
    c.configuration = configuration → c.rtSessionState = .priming ∨ c.rtSessionState = .running →
    c.rtStopTrajectory = { limitChecker := configuration.limitChecker } → c.rtDesired = point →
    c.executionTimeNs = point.timeNs →
    point.timeNs + (periods.map (c.beginRtStop reason).1.stopIncrementNs).sum ≤ maxUint64 →
    (c.beginRtStop reason).2 = true ∧
      Along (fun c periodNs => (RollingTrajectoryController.advanceRtStop c periodNs).1)
        (fun c periodNs => (RollingTrajectoryController.advanceRtStop c periodNs).2 = true)
        (c.beginRtStop reason).1 periods

section Pace

structure PacedBuffer (buffer : RollingBuffer K) : Prop where
  anchor : ∀ axis, buffer.anchor.velocities axis = 0
  points : ∀ point ∈ buffer.image.points, Paced buffer.limitChecker.accelerationLimit point

variable [IsStrictOrderedRing K]

theorem paced_at_rest {limit : Axis → K} {point : JointPoint K} (htime : point.timeNs = 0)
    (hrest : ∀ axis, point.velocities axis = 0) : Paced limit point := by
  intro axis
  rw [hrest axis, htime, abs_zero, seconds, Nat.cast_zero, zero_div, mul_zero]

theorem Paced.stopSeconds_le (configuration : RuntimeConfiguration K) {point : JointPoint K}
    (h : Paced configuration.limitChecker.accelerationLimit point) :
    configuration.limitChecker.stopSeconds point.velocities ≤ seconds point.timeNs := by
  refine Rolling.stopSeconds_le (fun axis => ?_) (div_nonneg (Nat.cast_nonneg _) (by positivity))
  have hlimit := stopAcceleration_pos configuration.limitChecker axis (point.velocities axis)
  have heq : (configuration.limitChecker.envelope axis).stopAcceleration (point.velocities axis) =
      configuration.limitChecker.accelerationLimit axis := by
    unfold AxisEnvelope.stopAcceleration LimitChecker.accelerationLimit
    exact (ite_self _).trans (max_self _).symm
  rw [heq] at hlimit ⊢
  rw [div_le_iff₀ hlimit, mul_comm]
  exact h axis

theorem lookup_of_infix {points : List (JointPoint K)} {start end' : JointPoint K}
    {before after : List (JointPoint K)} {timeNs : ℕ} (hincreasing : Increasing points)
    (heq : points = before ++ start :: end' :: after) (h0 : start.timeNs ≤ timeNs)
    (h1 : timeNs ≤ end'.timeNs) : lookup timeNs points = some (motion start end' timeNs) := by
  induction before generalizing points with
  | nil =>
    rw [List.nil_append] at heq
    subst heq
    have hlt : start.timeNs < end'.timeNs :=
      List.rel_of_pairwise_cons hincreasing List.mem_cons_self
    rcases h1.eq_or_lt with rfl | h1
    · rw [lookup_of_next_le le_rfl, lookup_head hincreasing.of_cons, motion_end hlt]
    · rw [lookup_of_lt_next h1]
      split
      · rename_i htime
        rw [htime, motion_start hlt]
      · exact sampleSegment_eq hlt h0 h1.le
  | cons earlier before ih =>
    subst heq
    have hrest : lookup timeNs (before ++ start :: end' :: after) =
        some (motion start end' timeNs) := ih hincreasing.of_cons rfl
    rw [List.cons_append, lookup_cons_of_head_le (by simp), hrest]
    intro first hfirst
    refine le_trans ?_ h0
    cases before with
    | nil =>
      cases hfirst
      exact le_rfl
    | cons other before =>
      cases hfirst
      exact (List.rel_of_pairwise_cons hincreasing.of_cons (by simp)).le

variable [SquareRoot K]

theorem Prepares.paced {buffer : RollingBuffer K} {batch : BatchView K}
    {context : AdmissionContext} {candidate : TrajectoryImage K} {knot : JointPoint K}
    {kept : List (JointPoint K)} (h : Prepares buffer batch context candidate knot kept)
    (hbuffer : SoundBuffer buffer) (hpaced : PacedBuffer buffer) :
    ∀ point ∈ candidate.points, Paced buffer.limitChecker.accelerationLimit point := by
  refine paced_of_head (h.soundPoints hbuffer).pieces fun first hfirst => ?_
  have hpoints : candidate.points = kept ++ knot :: batch.points.tail.map copyPoint := by
    rw [h.eq_candidate]
    rfl
  rw [hpoints] at hfirst
  cases splice_eq_ok h.splice with
  | anchor empty replaceFrom execution knot_eq kept_eq =>
    rw [kept_eq, List.nil_append] at hfirst
    obtain rfl : knot = first := Option.some.inj hfirst
    rw [knot_eq]
    exact paced_at_rest hbuffer.anchor hpaced.anchor
  | image nonempty replaceable covered knot_eq kept_eq =>
    obtain ⟨hcovers, hlookup, -⟩ := h.image_covers nonempty
    cases hkept : kept with
    | nil =>
      rw [hkept, List.nil_append] at hfirst
      obtain rfl : knot = first := Option.some.inj hfirst
      obtain ⟨⟨head, hhead, hle⟩, -⟩ := TrajectoryImage.covers_iff.1 hcovers
      have hmoves := movesWithin_lookup (hbuffer.points nonempty).pieces hlookup hhead hle
      exact (hpaced.points head (List.mem_of_mem_head? hhead)).of_movesWithin hmoves
    | cons head rest =>
      rw [hkept] at hfirst
      obtain rfl : head = first := Option.some.inj hfirst
      have hmem : head ∈ kept := by
        rw [hkept]
        exact List.mem_cons_self
      rw [kept_eq] at hmem
      exact hpaced.points head (seek_suffix.mem (List.takeWhile_subset _ hmem))

theorem PacedBuffer.step {s : BufferRun K} (hsound : s.Sound) (h : PacedBuffer s.buffer)
    (call : BufferCall K) : PacedBuffer (s.step call).buffer := by
  cases call with
  | reset anchor =>
    simp only [BufferRun.step]
    split
    · exact h
    · rename_i buffer hreset
      unfold RollingBuffer.reset at hreset
      split at hreset
      · cases hreset
      split at hreset
      · cases hreset
      rename_i hanchor
      cases hreset
      refine ⟨fun axis => ?_, by rintro point ⟨⟩⟩
      by_contra hne
      exact hanchor (List.any_eq_true.2 ⟨axis, List.mem_finRange axis, by simp [hne]⟩)
  | prepare batch context =>
    simp only [BufferRun.step]
    split
    · exact h
    · exact h
  | commit context =>
    simp only [BufferRun.step]
    split
    · exact h
    · rename_i batch candidate hprepared
      split
      · exact h
      · rename_i buffer hcommit
        obtain ⟨rfl, -, -⟩ := BufferRun.commit_eq_ok hcommit
        obtain ⟨context', knot, kept, hprepares⟩ := hsound.prepared batch candidate hprepared
        exact ⟨h.anchor, hprepares.paced hsound.buffer h⟩

end Pace

theorem stopsFrom_of_canStop [IsStrictOrderedRing K] [FloorSemiring K]
    {configuration : RuntimeConfiguration K} {point : JointPoint K}
    (hcan : CanStop configuration.limitChecker point)
    (hpaced : Paced configuration.limitChecker.accelerationLimit point)
    (htime : point.timeNs ≤ maxUint64) : StopsFrom configuration point where
  begins := by
    obtain ⟨stop, hstop, hbrakes⟩ := hcan.begin_eq (hpaced.stopSeconds_le configuration) htime
    refine ⟨stop, hstop, fun axis => ?_, fun elapsedNs hmax => ?_⟩
    · rw [hbrakes.accelerations]
      exact stopAccelerations_le _ _ _
    · obtain ⟨sampled, stop', hsample, -, hvalid, hrest, -⟩ := hcan.sample_eq hbrakes hmax
      exact ⟨sampled, stop', hsample, hvalid, hrest⟩
  ticks := by
    rintro c reason periods rfl hstate hidle rfl hexecution hmax
    obtain ⟨hok, hbraking, hconfiguration, hsame⟩ := beginRtStop_succeeds reason hstate hidle hcan
      hexecution.symm (hexecution.trans_le htime) (by
        rw [hexecution]
        exact hpaced.stopSeconds_le c.configuration)
    refine ⟨hok, hbraking.along ?_ periods ?_⟩
    · rw [hconfiguration]
      exact hcan
    · rw [hsame, hexecution]
      exact hmax

/-- The image after a sequence of calls. -/
def acceptedImage [SquareRoot K] (configuration : RuntimeConfiguration K)
    (calls : List (BufferCall K)) : TrajectoryImage K :=
  (run BufferRun.step { buffer := {
    configuration := configuration.buffer
    limitChecker := configuration.limitChecker } } calls).buffer.image

/-- For every sequence of calls the accepted image can stop from each of its times, where the
segment starts a resolved one and the times fit into 64 bits. -/
theorem admitted_stoppable (configuration : RuntimeConfiguration ℝ) (calls : List (BufferCall ℝ))
    (timeNs : ℕ) (point : JointPoint ℝ)
    (hpoint : sampleTrajectoryImage (acceptedImage configuration calls) timeNs = some point)
    (hresolved :
      (acceptedImage configuration calls).ResolvedAt configuration.limitChecker timeNs)
    (htime : timeNs ≤ maxUint64) : point.timeNs = timeNs ∧ StopsFrom configuration point := by
  have hinvariant : ∀ s : BufferRun ℝ, ∀ call,
      s.Sound ∧ PacedBuffer s.buffer ∧ s.buffer.limitChecker = configuration.limitChecker →
      (s.step call).Sound ∧ PacedBuffer (s.step call).buffer ∧
        (s.step call).buffer.limitChecker = configuration.limitChecker := by
    rintro s call ⟨hsound, hpaced, hchecker⟩
    exact ⟨hsound.step call, hpaced.step hsound call, (s.step_limitChecker call).trans hchecker⟩
  obtain ⟨hsound, hpaced, hchecker⟩ := invariant_all hinvariant
    ⟨BufferRun.Sound.initial configuration.buffer configuration.limitChecker,
      ⟨fun _ => rfl, nofun⟩, rfl⟩ calls
  obtain ⟨before, start, end', after, original, heq, h0, h1, hpiece, hsegment⟩ := hresolved
  have hnonempty : (acceptedImage configuration calls).points ≠ [] := by
    rw [heq]
    simp
  obtain ⟨hincreasing, -, hpieces⟩ := hsound.buffer.points hnonempty
  rw [sampleTrajectoryImage_eq] at hpoint
  split at hpoint
  · rename_i hcovers
    have hmotion := lookup_of_infix hincreasing heq h0 h1
    obtain rfl : motion start end' timeNs = point := Option.some.inj (hmotion.symm.trans hpoint)
    obtain ⟨extrema, hstoppable⟩ := hpiece.stoppable_of_original hsegment
    obtain ⟨⟨first, hfirst, hle⟩, -⟩ := TrajectoryImage.covers_iff.1 hcovers
    have hmoves := movesWithin_lookup hpieces hpoint hfirst hle
    have hfirstPaced := hpaced.points first (List.mem_of_mem_head? hfirst)
    have hpointPaced := hfirstPaced.of_movesWithin hmoves
    rw [hchecker] at hpointPaced
    exact ⟨rfl, stopsFrom_of_canStop (hstoppable.canStop h0 h1) hpointPaced htime⟩
  · cases hpoint

/-! A batch that takes all axes from rest to rest, an eighth of a radian away, in one second. -/

namespace Gliding

def point (timeNs : ℕ) (position velocity : ℝ) : JointPoint ℝ :=
  ⟨timeNs, fun _ => position, fun _ => velocity⟩

def view (timeNs : ℕ) (position : ℝ) : PointView ℝ :=
  ⟨timeNs, List.replicate axisCount (some position), List.replicate axisCount (some 0)⟩

def start : JointPoint ℝ := point 0 0 0

noncomputable def goal : JointPoint ℝ := point (10 ^ 9) (1 / 8) 0

noncomputable def configuration : RuntimeConfiguration ℝ := .unit

noncomputable def batch : BatchView ℝ := ⟨0, [view 0 0, view (10 ^ 9) (1 / 8)], true⟩

noncomputable def calls : List (BufferCall ℝ) :=
  [.prepare batch { priming := true }, .commit { priming := true }]

theorem copyPoint_view (timeNs : ℕ) (position : ℝ) :
    copyPoint (view timeNs position) = point timeNs position 0 := by
  have hvalue : ∀ (value : ℝ) (axis : Axis),
      ((List.replicate axisCount (some value))[axis.val]?.join).getD 0 = value := by
    intro value axis
    rw [List.getElem?_replicate, if_pos axis.isLt]
    rfl
  unfold copyPoint view point
  simp only [hvalue]

theorem segmentCubic_glide (axis : Axis) : segmentCubic start goal axis = ⟨0, 0, 3 / 8, -1 / 4⟩ := by
  norm_num [segmentCubic, start, goal, point, CubicPolynomial.hermite]

/-- The velocity is greatest half way, the acceleration at the ends. -/
theorem stoppableWith : StoppableWith configuration.limitChecker start goal
    fun _ => ⟨0, 1 / 8, 3 / 16, 0, 3 / 4, 3 / 4⟩ where
  increasing := by norm_num [start, goal, point]
  encloses axis segment hsegment := by
    obtain ⟨hcubic, hduration⟩ := axisSegment_cubic hsegment
    have hsecond : segment.durationSeconds = 1 := by
      rw [hduration]
      norm_num [seconds, start, goal, point]
    rw [segmentCubic_glide] at hcubic
    have hposition : ∀ t, segment.position t = (3 / 8 - t / 4) * t ^ 2 := by
      intro t
      simp only [CubicHermite.position, hcubic, CubicPolynomial.eval]
      ring
    have hvelocity : ∀ t, segment.velocity t = 3 / 4 * (t * (1 - t)) := by
      intro t
      simp only [CubicHermite.velocity, hcubic, hsecond, CubicPolynomial.deriv]
      ring
    have hacceleration : ∀ t, segment.acceleration t = 3 / 4 - 3 / 2 * t := by
      intro t
      simp only [CubicHermite.acceleration, hcubic, hsecond, CubicPolynomial.second]
      ring
    refine ⟨fun t h0 h1 => ?_, fun t h0 h1 => ?_, fun t h0 h1 => ?_, fun t h0 h1 => ?_,
      fun t h0 h1 => ?_, fun t h0 h1 => ?_, by norm_num, le_rfl, by norm_num, by norm_num⟩
    · rw [hposition]
      exact mul_nonneg (by linarith) (sq_nonneg t)
    · have hcubed : 0 ≤ (1 - t) ^ 2 * (1 + 2 * t) := by positivity
      rw [hposition]
      linarith
    · rw [hvelocity]
      linarith [sq_nonneg (2 * t - 1)]
    · rw [hvelocity]
      linarith [mul_nonneg h0 (sub_nonneg.2 h1)]
    · rw [hacceleration]
      linarith
    · rw [hacceleration]
      linarith
  viable := by
    have hduration : configuration.limitChecker.stopDurationSeconds
        (fun _ => ⟨0, 1 / 8, 3 / 16, 0, 3 / 4, 3 / 4⟩) = 3 / 16 := by
      have haxes : axes = [0, 1, 2, 3, 4, 5, 6, 7, 8, 9, 10, 11, 12, 13] := by decide
      norm_num [LimitChecker.stopDurationSeconds, haxes, RuntimeConfiguration.limitChecker,
        configuration, RuntimeConfiguration.unit, loadedEnvelope]
    constructor <;> try rw [hduration]
    all_goals norm_num [RuntimeConfiguration.limitChecker, configuration,
      RuntimeConfiguration.unit, loadedEnvelope, AxisEnvelope.safeLower, AxisEnvelope.safeUpper]

theorem resolved : ResolvedSegment start goal := by
  intro axis segment hsegment
  have hcubic := (axisSegment_cubic hsegment).1
  rw [segmentCubic_glide] at hcubic
  have hc1 : segment.c1 = 0 := congrArg CubicPolynomial.c1 hcubic
  have hc2 : segment.c2 = 3 / 8 := congrArg CubicPolynomial.c2 hcubic
  have hc3 : segment.c3 = -1 / 4 := congrArg CubicPolynomial.c3 hcubic
  right
  rw [hc1, hc2, hc3, rootScale]
  norm_num [normalizedRootTolerance, abs_of_nonneg]

theorem admissible : configuration.limitChecker.Admissible start goal :=
  Stoppable.admissible ⟨_, stoppableWith⟩

theorem pieceOf : PieceOf configuration.limitChecker start goal goal :=
  ⟨admissible, admissible.increasing, le_rfl, (motion_end admissible.increasing).symm⟩

theorem acceptedImage_points :
    (acceptedImage configuration calls).points = [start, goal] := by
  set buffer : RollingBuffer ℝ := {
    configuration := configuration.buffer
    limitChecker := configuration.limitChecker } with hbuffer
  have hconfiguration : buffer.configuration = BufferConfiguration.tight := rfl
  have hvalid : buffer.validateInput batch = .none := by
    norm_num [RollingBuffer.validateInput, RollingBuffer.validatePoints, batch, view, hconfiguration,
      BufferConfiguration.tight, axisCount]
  have hcontinuity : checkSpliceContinuity start (copyPoint (view 0 0))
      buffer.configuration.splicePositionTolerance buffer.configuration.spliceVelocityTolerance =
        .none := by
    norm_num [checkSpliceContinuity, copyPoint_view, start, point, hconfiguration,
      BufferConfiguration.tight]
  have hsuffix : buffer.checkSuffix [start, goal] = .none :=
    checkSuffix_of_isChain (List.isChain_cons_cons.2 ⟨admissible, .singleton _⟩)
  have hsplice : buffer.splice batch { priming := true } = .ok (start, []) := rfl
  have hcandidate : buffer.candidate batch { priming := true } start [] =
      ⟨[start, goal], 1, 0, true⟩ := by
    simp only [RollingBuffer.candidate, batch, List.nil_append, List.tail_cons, List.map_cons,
      List.map_nil, copyPoint_view]
    rfl
  have hhorizon : buffer.validateHorizon ⟨[start, goal], 1, 0, true⟩
      { priming := true } = .none := by
    norm_num [RollingBuffer.validateHorizon, TrajectoryImage.covers, start, goal, point,
      hconfiguration, BufferConfiguration.tight]
  have hprepare : buffer.prepare batch { priming := true } =
      .ok ⟨[start, goal], 1, 0, true⟩ := by
    have hhead : batch.points.head?.elim start copyPoint = copyPoint (view 0 0) := rfl
    have htail : batch.points.tail.map copyPoint = [goal] := by
      simp [batch, copyPoint_view, goal]
    have hgeneration : buffer.image.generation ≠ maxUint64 := by decide
    have hcapacity : ¬buffer.configuration.capacity <
        ([] : List (JointPoint ℝ)).length + batch.points.length := by decide
    unfold RollingBuffer.prepare
    rw [hvalid]
    dsimp only
    rw [if_neg hgeneration, hsplice]
    dsimp only
    rw [hhead, hcontinuity]
    dsimp only
    rw [if_neg hcapacity, hcandidate, hhorizon]
    dsimp only
    rw [htail, hsuffix]
  have hcommit : buffer.commit ⟨[start, goal], 1, 0, true⟩ { priming := true } =
      .ok { buffer with image := ⟨[start, goal], 1, 0, true⟩ } := by
    unfold RollingBuffer.commit
    rw [if_neg (by decide), hhorizon]
  simp only [acceptedImage, calls, run_cons, run_nil, BufferRun.step, ← hbuffer, hprepare, hcommit]

/-- Half way the arms move at their greatest velocity. -/
theorem stoppable : (point (5 * 10 ^ 8) (1 / 16) (3 / 16)).timeNs = 5 * 10 ^ 8 ∧
    StopsFrom configuration (point (5 * 10 ^ 8) (1 / 16) (3 / 16)) := by
  have hmotion : motion start goal (5 * 10 ^ 8) = point (5 * 10 ^ 8) (1 / 16) (3 / 16) := by
    simp only [motion, segmentCubic_glide]
    norm_num [CubicPolynomial.eval, CubicPolynomial.deriv, phase, seconds, start, goal, point]
  refine admitted_stoppable configuration calls (5 * 10 ^ 8) _ ?_ ?_ (by decide)
  · rw [sampleTrajectoryImage_eq, acceptedImage_points, if_pos, ← hmotion]
    · have hinfix : [start, goal] = [] ++ start :: goal :: [] := rfl
      exact lookup_of_infix (by simp [Increasing, start, goal, point]) hinfix (by decide)
        (by decide)
    · norm_num [TrajectoryImage.covers, acceptedImage_points, start, goal, point]
  · exact ⟨[], start, goal, [], goal, acceptedImage_points, by decide, by decide, pieceOf, resolved⟩

end Gliding

namespace NearDegenerate

def stopLimit : ℚ := 2 ^ 80

/-- The upper limit is the bound that the checks compute for the whole segment. -/
def runtime : RuntimeConfiguration ℚ :=
  { RuntimeConfiguration.unit with
    jointPositionUpper _ := curve.eval (1 / 2) + 1 / 2 / stopLimit
    jointAccelerationLimits _ := stopLimit
    buffer := { configuration with maxHorizonNs := maxUint64, maxHorizonNs_pos := by decide }
    valid _ := by
      constructor <;> norm_num [RuntimeConfiguration.unit, loadedEnvelope, curve,
        CubicPolynomial.eval, duration, seconds, stopLimit, AxisEnvelope.safeLower,
        AxisEnvelope.safeUpper]
    replaceLeadNs_le := by decide
    maxHorizonNs_le := le_rfl }

def accepting (batch : BatchView ℚ) : List (BufferCall ℚ) :=
  [.prepare batch { priming := true }, .commit { priming := true }]

/-- The arms rest until two seconds before the end of the representable time. -/
def lateMove : BatchView ℚ where
  replaceFromNs := 0
  points := [pointView 0 0 0, pointView (maxUint64 - 2 * 10 ^ 9) 0 0,
    pointView (maxUint64 - 10 ^ 9) (1 / 2) 1, pointView maxUint64 1 0]
  final := true

def runningAt (point : JointPoint ℚ) : RollingTrajectoryController ℚ where
  configuration := runtime
  buffer := { configuration := runtime.buffer, limitChecker := runtime.limitChecker }
  observedPositions _ := none
  observedFeedbackAgeMs := none
  desiredPositions := point.positions
  rtSessionState := .running
  executionTimeNs := point.timeNs
  rtDesired := point
  rtStopTrajectory := { limitChecker := runtime.limitChecker }

/-- A stop does not begin above the computed maximum, and one that has begun fails when the
execution time overflows. -/
theorem stop_fails :
    ((sampleTrajectoryImage (acceptedImage runtime (accepting first)) cutNs).map fun point =>
      (StopTrajectory.begin { limitChecker := runtime.limitChecker } point).isSome) = some false ∧
    ((sampleTrajectoryImage (acceptedImage runtime (accepting lateMove)) (maxUint64 - 1)).map
      fun point => (((runningAt point).beginRtStop .lowWater).2,
        (((runningAt point).beginRtStop .lowWater).1.advanceRtStop (10 ^ 6)).2)) =
          some (true, false) := by
  decide +kernel

end NearDegenerate

end RobotDriver.Rolling
