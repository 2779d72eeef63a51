import RobotDriver.Rolling.Images
import RobotDriver.Rolling.Stopping
import RobotDriver.Rolling.System

/-!
# What the realtime functions do

One lemma for each function: the outcomes of `consumeLatestRtTrajectory`, of `beginRtStop`, of the
running branch of `update` and of `advanceRtStop`, with all they change.
-/

namespace RobotDriver.Rolling

variable {K : Type*} [Field K] [LinearOrder K]

namespace RollingTrajectoryController

variable {c : RollingTrajectoryController K}

section Consume

/-- A snapshot that `takeSnapshot` accepts and the state it leaves. -/
structure Takes (c : RollingTrajectoryController K) (priming : Bool) (snapshot : RollingSnapshot K)
    (taken : RollingTrajectoryController K) (desired : JointPoint K)
    (cursor : MonotonicTrajectoryCursor) (boundaryNs : ℕ) : Prop where
  epoch : snapshot.sessionEpoch = c.rtObservedSessionEpoch
  generation : c.activeGeneration < snapshot.trajectory.generation
  handoff : c.handoffTimeIsValid priming snapshot.trajectory = true
  sample : sampleTrajectoryImageMonotonic snapshot.trajectory c.executionTimeNs {} =
    some (desired, cursor)
  valid : c.desiredIsValid desired = true
  boundary : addTime c.executionTimeNs c.configuration.replaceLeadNs = some boundaryNs
  eq_taken : taken = { c with
    rtActiveTrajectory := some snapshot.trajectory
    rtSamplingCursor := cursor
    rtDesired := desired
    rtConsumedPublicationSequence := snapshot.publicationSequence
    rtLastAcceptedArrivalNs := snapshot.arrivalTimeNs
    activeGeneration := snapshot.trajectory.generation
    bufferedUntilNs := snapshot.trajectory.points.getLast?.elim 0 (·.timeNs)
    replaceableFromNs := boundaryNs
    rtSessionState := if priming then .running else c.rtSessionState }

theorem takeSnapshot_eq_some {priming : Bool} {snapshot : RollingSnapshot K}
    {taken : RollingTrajectoryController K} (h : c.takeSnapshot priming snapshot = some taken) :
    ∃ desired cursor boundaryNs, Takes c priming snapshot taken desired cursor boundaryNs := by
  unfold takeSnapshot at h
  split at h
  · cases h
  rename_i hcurrent
  rw [not_or, not_not, not_le] at hcurrent
  split at h
  · rename_i hhandoff
    rw [Option.bind_eq_some_iff] at h
    obtain ⟨⟨desired, cursor⟩, hsample, h⟩ := h
    split at h
    · rename_i hvalid
      rw [Option.map_eq_some_iff] at h
      obtain ⟨boundaryNs, hboundary, rfl⟩ := h
      exact ⟨desired, cursor, boundaryNs, hcurrent.1, hcurrent.2, hhandoff, hsample, hvalid,
        hboundary, rfl⟩
    · cases h
  · cases h

/-- The snapshot was published after the last one that the consumer has accepted. -/
def Fresh (c : RollingTrajectoryController K) (snapshot : RollingSnapshot K) : Prop :=
  c.rtPublicationFloor ≤ snapshot.publicationSequence ∧
    c.rtConsumedPublicationSequence < snapshot.publicationSequence

inductive Consumption (c : RollingTrajectoryController K) (priming : Bool) :
    RollingTrajectoryController K × SnapshotConsumeResult → Prop
  | unchanged (discard : c.unread = none ∨ ∃ snapshot, c.unread = some snapshot ∧
      ¬c.Fresh snapshot) : Consumption c priming ({ c with unread := none }, .noChange)
  | invalid {snapshot : RollingSnapshot K} (unread : c.unread = some snapshot)
      (fresh : c.Fresh snapshot)
      (refused : { c with unread := none }.takeSnapshot priming snapshot = none) :
      Consumption c priming ({ c with unread := none }, .invalid)
  | accepted {snapshot : RollingSnapshot K} {taken : RollingTrajectoryController K}
      {desired : JointPoint K} {cursor : MonotonicTrajectoryCursor} {boundaryNs : ℕ}
      (unread : c.unread = some snapshot) (fresh : c.Fresh snapshot)
      (takes : Takes { c with unread := none } priming snapshot taken desired cursor boundaryNs) :
      Consumption c priming (taken, .accepted)

theorem consume_cases (c : RollingTrajectoryController K) (priming : Bool) :
    Consumption c priming (c.consumeLatestRtTrajectory priming) := by
  unfold consumeLatestRtTrajectory
  split
  · rename_i hnone
    have heq : c = { c with unread := none } := by rw [← hnone]
    rw [heq]
    exact .unchanged (.inl rfl)
  · rename_i snapshot hsnapshot
    split
    · rename_i hstale
      refine .unchanged (.inr ⟨snapshot, hsnapshot, fun hfresh => ?_⟩)
      unfold Fresh at hfresh
      omega
    · rename_i hfresh
      have hfresh' : c.Fresh snapshot := by
        unfold Fresh
        omega
      split
      · exact .invalid hsnapshot hfresh' ‹_›
      · rename_i taken htaken
        obtain ⟨desired, cursor, boundaryNs, htakes⟩ := takeSnapshot_eq_some htaken
        exact .accepted hsnapshot hfresh' htakes

theorem consumption_keeps {priming : Bool}
    {consumed : RollingTrajectoryController K × SnapshotConsumeResult}
    (h : Consumption c priming consumed) (haccepted : consumed.2 ≠ .accepted) :
    consumed.1 = { c with unread := none } := by
  cases h with
  | unchanged => rfl
  | invalid => rfl
  | accepted => exact absurd rfl haccepted

end Consume

section Stop

variable [FloorSemiring K]

omit [FloorSemiring K] in
theorem rest_of_stopSeconds [IsStrictOrderedRing K] {checker : LimitChecker K}
    {velocities : Axis → K} (h : checker.stopSeconds velocities = 0) : velocities = fun _ => 0 := by
  funext axis
  have hle := le_stopSeconds checker velocities axis
  have hlimit := stopAcceleration_pos checker axis (velocities axis)
  rw [h, div_le_iff₀ hlimit, zero_mul] at hle
  exact abs_nonpos_iff.1 hle

/-- What `begin` establishes. -/
structure Begins (checker : LimitChecker K) (desired : JointPoint K) (stop : StopTrajectory K) :
    Prop where
  brakes : Brakes checker desired stop
  terminal : ∀ axis, (checker.envelope axis).safeLower ≤
      StopTrajectory.stopPositions (checker.stopSeconds desired.velocities) desired axis ∧
    StopTrajectory.stopPositions (checker.stopSeconds desired.velocities) desired axis ≤
      (checker.envelope axis).safeUpper
  state : stop.state =
    if checker.stopSeconds desired.velocities = 0 then .holding else .stopping

theorem begins_of_begin {stop stop' : StopTrajectory K} {desired : JointPoint K}
    (h : stop.begin desired = some stop') : Begins stop.limitChecker desired stop' := by
  unfold StopTrajectory.begin at h
  split at h
  · cases h
  dsimp only at h
  split at h
  · cases h
  rename_i durationNs hduration
  split at h
  · cases h
  rename_i hbreaks
  have hceil : durationNs = ⌈stop.limitChecker.stopSeconds desired.velocities * 10 ^ 9⌉₊ := by
    unfold durationToNanoseconds at hduration
    split at hduration
    · cases hduration
    split at hduration
    · cases hduration
    · exact (Option.some.inj hduration).symm
  cases h
  refine ⟨⟨rfl, rfl, rfl, rfl, hceil, ?_⟩, fun axis => ?_, rfl⟩
  · dsimp only
    split <;> exact StopTrajectoryState.noConfusion
  · have haxis := List.any_eq_false.1 (Bool.eq_false_iff.2 hbreaks) axis (List.mem_finRange axis)
    simp only [StopTrajectory.breaksLimit, Bool.or_eq_true, decide_eq_true_eq, not_or,
      not_lt] at haxis
    exact haxis.1

/-- The outcomes of `beginRtStop`. None of them moves the desired point. -/
inductive StopBegin (c : RollingTrajectoryController K) (reason : StopReason) :
    RollingTrajectoryController K × Bool → Prop
  | refused : StopBegin c reason (c.recordStopReason reason, false)
  | rests {stop : StopTrajectory K}
      (rest : c.rtDesired.velocities = fun _ => 0)
      (checker : stop.limitChecker = c.rtStopTrajectory.limitChecker) :
      StopBegin c reason ({ c.recordStopReason reason with
        rtStopTrajectory := stop
        rtStopElapsedNs := 0
        stopRequested := false
        rtSessionState := .holding }, true)
  | stops {stop : StopTrajectory K}
      (begins : Begins c.rtStopTrajectory.limitChecker c.rtDesired stop)
      (moving : c.rtStopTrajectory.limitChecker.stopSeconds c.rtDesired.velocities ≠ 0) :
      StopBegin c reason ({ c.recordStopReason reason with
        rtStopTrajectory := stop
        rtStopElapsedNs := 0
        stopRequested := false
        rtSessionState := .stopping }, true)

theorem beginRtStop_cases [IsStrictOrderedRing K] (reason : StopReason)
    (hstate : c.rtSessionState = .priming ∨ c.rtSessionState = .running)
    (hchecker : c.rtStopTrajectory.limitChecker = c.configuration.limitChecker) :
    StopBegin c reason (c.beginRtStop reason) := by
  have hbegin : c.beginRtStop reason = (c.recordStopReason reason).beginStopTrajectory := by
    unfold beginRtStop
    rcases hstate with hstate | hstate <;> rw [hstate]
  rw [hbegin, beginStopTrajectory]
  cases hstop : (c.recordStopReason reason).rtStopTrajectory.begin
      (c.recordStopReason reason).rtDesired with
  | none => exact .refused
  | some stop =>
    have hbegins : Begins c.rtStopTrajectory.limitChecker c.rtDesired stop := begins_of_begin hstop
    dsimp only
    split
    · rename_i hholding
      have hzero : c.rtStopTrajectory.limitChecker.stopSeconds c.rtDesired.velocities = 0 := by
        by_contra hne
        rw [hbegins.state, if_neg hne] at hholding
        cases hholding
      have hrest := rest_of_stopSeconds hzero
      have hterminal : stop.terminalPositions = c.rtDesired.positions := by
        rw [hbegins.brakes.terminalPositions]
        funext axis
        rw [StopTrajectory.stopPositions, hzero, mul_zero, add_zero]
      have hpoint : (⟨c.rtDesired.timeNs, c.rtDesired.positions, fun _ => 0⟩ : JointPoint K) =
          c.rtDesired := congrArg (JointPoint.mk _ _) hrest.symm
      have hsample : stop.sample 0 = some (c.rtDesired, { stop with state := .holding }) := by
        unfold StopTrajectory.sample
        rw [if_neg hbegins.brakes.state, if_neg (Nat.not_lt_zero _), if_pos (Or.inl hholding),
          hterminal, hbegins.brakes.start, Nat.add_zero, hpoint]
      have hvalid : (c.recordStopReason reason).desiredIsValid c.rtDesired = true := by
        refine LimitChecker.desiredIsValid_iff.2 fun axis => ⟨?_, ?_, ?_⟩
        · have hsafe := hbegins.terminal axis
          rw [← hbegins.brakes.terminalPositions, hterminal, hchecker] at hsafe
          exact hsafe
        · rw [hrest]
          exact neg_nonpos.2 (c.configuration.limitChecker.valid axis).velocityNegative.le
        · rw [hrest]
          exact (c.configuration.limitChecker.valid axis).velocityPositive.le
      rw [hsample]
      dsimp only
      rw [if_pos hvalid]
      exact .rests hrest hbegins.brakes.limitChecker
    · rename_i hstopping
      refine .stops hbegins fun hzero => hstopping ?_
      rw [hbegins.state, if_pos hzero]

/-- The outcomes of `advanceRtStop`. -/
inductive StopAdvance (c : RollingTrajectoryController K) (incrementNs : ℕ) :
    RollingTrajectoryController K × Bool → Prop
  | refused : StopAdvance c incrementNs (c, false)
  | invalid {candidate : JointPoint K} {stop : StopTrajectory K}
      (sample : c.rtStopTrajectory.sample (c.rtStopElapsedNs + incrementNs) = some (candidate, stop))
      (invalid : c.desiredIsValid candidate ≠ true) :
      StopAdvance c incrementNs ({ c with rtStopTrajectory := stop }, false)
  | moves {candidate : JointPoint K} {stop : StopTrajectory K}
      (sample : c.rtStopTrajectory.sample (c.rtStopElapsedNs + incrementNs) = some (candidate, stop))
      (valid : c.desiredIsValid candidate = true) :
      StopAdvance c incrementNs ({ c with
        rtStopTrajectory := stop
        rtDesired := candidate
        rtStopElapsedNs := c.rtStopElapsedNs + incrementNs
        executionTimeNs := c.executionTimeNs + incrementNs
        rtSessionState := if stop.state = .holding then .holding else c.rtSessionState }, true)

omit [FloorSemiring K] in
theorem addTime_some {valueNs incrementNs sumNs : ℕ}
    (h : addTime valueNs incrementNs = some sumNs) : sumNs = valueNs + incrementNs := by
  unfold addTime at h
  split at h
  · cases h
  · exact (Option.some.inj h).symm

omit [FloorSemiring K] in
theorem addTime_le {valueNs incrementNs sumNs : ℕ} (h : addTime valueNs incrementNs = some sumNs)
    (hpos : 0 < incrementNs) : valueNs + incrementNs ≤ maxUint64 := by
  unfold addTime at h
  split at h
  · cases h
  · omega

omit [FloorSemiring K] in
theorem sample_limitChecker {stop stop' : StopTrajectory K} {elapsedNs : ℕ}
    {sampled : JointPoint K} (h : stop.sample elapsedNs = some (sampled, stop')) :
    stop'.limitChecker = stop.limitChecker := by
  unfold StopTrajectory.sample at h
  split at h
  · cases h
  split at h
  · cases h
  split at h
  · cases h
    rfl
  · cases h
    rfl

omit [FloorSemiring K] in
theorem advanceRtStop_cases (c : RollingTrajectoryController K) (periodNs : ℤ) :
    StopAdvance c (c.stopIncrementNs periodNs) (c.advanceRtStop periodNs) := by
  unfold advanceRtStop
  split
  · rename_i nextElapsedNs nextExecutionNs helapsed hexecution
    obtain rfl := addTime_some helapsed
    obtain rfl := addTime_some hexecution
    split
    · exact .refused
    · rename_i candidate stop hsample
      split
      · rename_i hvalid
        exact .moves hsample hvalid
      · rename_i hinvalid
        exact .invalid hsample hinvalid
  · exact .refused

end Stop

section Running

/-- A sample of the active image that becomes the desired point. -/
structure Advances (c : RollingTrajectoryController K) (image : TrajectoryImage K) (timeNs : ℕ)
    (candidate : JointPoint K) (cursor : MonotonicTrajectoryCursor) : Prop where
  sample : sampleTrajectoryImage image timeNs = some candidate
  fits : cursor.Fits image
  valid : c.desiredIsValid candidate = true

theorem sampleActive_cases {image : TrajectoryImage K} (timeNs : ℕ)
    (hincreasing : Increasing image.points) (hfits : c.rtSamplingCursor.Fits image) :
    (∃ cursor, cursor.Fits image ∧
      c.sampleActive image timeNs = ({ c with rtSamplingCursor := cursor }, none)) ∨
    ∃ candidate cursor, Advances c image timeNs candidate cursor ∧
      c.sampleActive image timeNs = ({ c with rtSamplingCursor := cursor }, some candidate) := by
  have heq := sampleTrajectoryImageMonotonic_eq timeNs hincreasing fun _ => hfits
  unfold sampleActive
  split
  · exact .inl ⟨c.rtSamplingCursor, hfits, rfl⟩
  · rename_i candidate cursor hsample
    have hcursor := fits_of_sample hincreasing (fun _ => hfits) hsample
    rw [hsample] at heq
    split
    · rename_i hvalid
      exact .inr ⟨candidate, cursor, ⟨heq.symm, hcursor, hvalid⟩, rfl⟩
    · exact .inl ⟨cursor, hcursor, rfl⟩

variable [FloorSemiring K]

/-- The outcomes of the running branch of `update` behind the consumption. -/
inductive RunningStep (c : RollingTrajectoryController K) (image : TrajectoryImage K)
    (periodNs : ℤ) : RollingTrajectoryController K × Bool → Prop
  | stop {cursor : MonotonicTrajectoryCursor} (fits : cursor.Fits image) (reason : StopReason)
      (clock : c.configuration.validPeriod periodNs = true → reason ≠ .clockAnomaly) :
      RunningStep c image periodNs ({ c with rtSamplingCursor := cursor }.beginRtStop reason)
  | advance {candidate : JointPoint K} {cursor : MonotonicTrajectoryCursor} {boundaryNs : ℕ}
      (advances : Advances c image (c.executionTimeNs + periodNs.toNat) candidate cursor)
      (boundary : addTime (c.executionTimeNs + periodNs.toNat) c.configuration.replaceLeadNs =
        some boundaryNs) :
      RunningStep c image periodNs ({ c with
        rtSamplingCursor := cursor
        rtDesired := candidate
        executionTimeNs := c.executionTimeNs + periodNs.toNat
        replaceableFromNs := boundaryNs }, true)
  | overflow {candidate : JointPoint K} {cursor : MonotonicTrajectoryCursor}
      (advances : Advances c image (c.executionTimeNs + periodNs.toNat) candidate cursor)
      (boundary : addTime (c.executionTimeNs + periodNs.toNat) c.configuration.replaceLeadNs =
        none) :
      RunningStep c image periodNs ({ c with
        rtSamplingCursor := cursor
        rtDesired := candidate
        executionTimeNs := c.executionTimeNs + periodNs.toNat }.beginRtStop .internalInvariant)
  | complete {candidate : JointPoint K} {cursor : MonotonicTrajectoryCursor}
      (final : image.final = true) (le : c.bufferedUntilNs ≤ c.executionTimeNs + periodNs.toNat)
      (advances : Advances c image c.bufferedUntilNs candidate cursor) :
      RunningStep c image periodNs ({ { c with
        rtSamplingCursor := cursor
        rtDesired := candidate
        executionTimeNs := c.bufferedUntilNs }.recordStopReason .completed with
          rtSessionState := .holding }, true)

section Branches

variable {image : TrajectoryImage K} {periodNs : ℤ}

theorem advanceRunning_cases (hincreasing : Increasing image.points)
    (hfits : c.rtSamplingCursor.Fits image) :
    RunningStep c image periodNs (c.advanceRunning image periodNs) := by
  have hkeep : RunningStep c image periodNs (c.beginRtStop .internalInvariant) :=
    .stop hfits .internalInvariant fun _ => StopReason.noConfusion
  unfold advanceRunning
  split
  · exact hkeep
  · rename_i nextExecutionNs htime
    obtain rfl := addTime_some htime
    rcases sampleActive_cases (c.executionTimeNs + periodNs.toNat) hincreasing hfits with
      ⟨cursor, hcursor, heq⟩ | ⟨candidate, cursor, hadvances, heq⟩
    · rw [heq]
      exact .stop hcursor .internalInvariant fun _ => StopReason.noConfusion
    · rw [heq]
      dsimp only [updateRtReplaceableBoundary]
      cases hboundary : addTime (c.executionTimeNs + periodNs.toNat)
          c.configuration.replaceLeadNs with
      | none => exact .overflow hadvances hboundary
      | some boundaryNs => exact .advance hadvances hboundary

theorem advanceRtFinal_cases (hincreasing : Increasing image.points)
    (hfits : c.rtSamplingCursor.Fits image) (hfinal : image.final = true) :
    RunningStep c image periodNs
      (match c.advanceRtFinal image periodNs with
        | (c', true) => (c', true)
        | (c', false) => c'.beginRtStop .internalInvariant) := by
  have hkeep : RunningStep c image periodNs (c.beginRtStop .internalInvariant) :=
    .stop hfits .internalInvariant fun _ => StopReason.noConfusion
  unfold advanceRtFinal
  cases htime : addTime c.executionTimeNs periodNs.toNat with
  | none => exact hkeep
  | some nextExecutionNs =>
    obtain rfl := addTime_some htime
    dsimp only
    by_cases hbefore : c.executionTimeNs + periodNs.toNat < c.bufferedUntilNs
    · rw [min_eq_left hbefore.le]
      rcases sampleActive_cases (c.executionTimeNs + periodNs.toNat) hincreasing hfits with
        ⟨cursor, hcursor, heq⟩ | ⟨candidate, cursor, hadvances, heq⟩
      · rw [heq]
        exact .stop hcursor .internalInvariant fun _ => StopReason.noConfusion
      · rw [heq]
        dsimp only
        rw [if_pos hbefore]
        dsimp only [updateRtReplaceableBoundary]
        cases hboundary : addTime (c.executionTimeNs + periodNs.toNat)
            c.configuration.replaceLeadNs with
        | none => exact .overflow hadvances hboundary
        | some boundaryNs => exact .advance hadvances hboundary
    · rw [min_eq_right (not_lt.1 hbefore)]
      rcases sampleActive_cases c.bufferedUntilNs hincreasing hfits with
        ⟨cursor, hcursor, heq⟩ | ⟨candidate, cursor, hadvances, heq⟩
      · rw [heq]
        exact .stop hcursor .internalInvariant fun _ => StopReason.noConfusion
      · rw [heq]
        dsimp only
        rw [if_neg hbefore]
        exact .complete hfinal (not_lt.1 hbefore) hadvances

theorem updateRunning_cases (periodNs : ℤ) (nowNs : ℕ) (hactive : c.rtActiveTrajectory = some image)
    (hincreasing : Increasing image.points) (hfits : c.rtSamplingCursor.Fits image) :
    RunningStep c image periodNs (c.updateRunning periodNs nowNs) := by
  have hstop : ∀ reason, (c.configuration.validPeriod periodNs = true → reason ≠ .clockAnomaly) →
      RunningStep c image periodNs (c.beginRtStop reason) :=
    fun reason hclock => .stop hfits reason hclock
  unfold updateRunning
  rw [hactive]
  dsimp only
  split
  · rename_i hperiod
    refine hstop .clockAnomaly fun hvalid => ?_
    rw [hvalid] at hperiod
    cases hperiod
  split
  · rename_i hfinal
    exact advanceRtFinal_cases hincreasing hfits hfinal
  split
  · exact hstop .updateTimeout fun _ => StopReason.noConfusion
  split
  · exact hstop .internalInvariant fun _ => StopReason.noConfusion
  split
  · exact advanceRunning_cases hincreasing hfits
  · exact hstop .lowWater fun _ => StopReason.noConfusion

end Branches

end Running

end RollingTrajectoryController

end RobotDriver.Rolling
