import RobotDriver.Rolling.BatchInvariant

/-!
# Splices do not make the command jump

Whatever the interleaving of batches and ticks, a snapshot that the consumer accepts passes through
the desired point that it holds, and the image of the buffer samples like the one that runs up to
its earliest changed time.
-/

namespace RobotDriver.Rolling

open RollingTrajectoryController LabelledRun

variable {K : Type*} [Field K] [LinearOrder K]

namespace World

/-- The next step of the tick is its body, in a priming or in a running session. -/
def AtConsumption (w : World K) (priming : Bool) : Prop :=
  ∃ input, w.tick = some (input, .body (if priming then .priming else .running))

instance (w : World K) (priming : Bool) : Decidable (w.AtConsumption priming) :=
  decidable_of_iff (w.tick.map Prod.snd = some (.body (if priming then .priming else .running))) <| by
    rw [Option.map_eq_some_iff, Prod.exists]
    simp only [AtConsumption, exists_eq_right]

structure SplicesContinuously (w : World K) : Prop where
  accepted : ∀ priming taken, w.AtConsumption priming →
    w.controller.consumeLatestRtTrajectory priming = (taken, .accepted) →
      ∃ snapshot, w.controller.unread = some snapshot ∧
        taken.rtActiveTrajectory = some snapshot.trajectory ∧
        sampleTrajectoryImage snapshot.trajectory w.controller.executionTimeNs =
          some taken.rtDesired ∧
        taken.rtDesired.positions = w.controller.rtDesired.positions ∧
        taken.rtDesired.velocities = w.controller.rtDesired.velocities ∧
        (priming = true → w.controller.executionTimeNs = 0 ∧ taken.rtDesired = w.controller.hold)
  agrees : w.controller.rtSessionState = .running →
    ∃ active, w.controller.rtActiveTrajectory = some active ∧
      w.controller.buffer.image.Starts w.controller.executionTimeNs ∧
      ∀ timeNs, w.controller.buffer.image.Starts timeNs →
        active = w.controller.buffer.image ∨
          timeNs ≤ w.controller.buffer.image.earliestChangedNs →
        sampleTrajectoryImage w.controller.buffer.image timeNs =
          sampleTrajectoryImage active timeNs

end World

namespace RollingTrajectoryController

variable {c : RollingTrajectoryController K}

theorem consume_eq_accepted {priming : Bool} {taken : RollingTrajectoryController K}
    (h : c.consumeLatestRtTrajectory priming = (taken, .accepted)) :
    ∃ snapshot desired cursor boundaryNs, c.unread = some snapshot ∧ c.Fresh snapshot ∧
      Takes { c with unread := none } priming snapshot taken desired cursor boundaryNs := by
  have hcases := consume_cases c priming
  rw [h] at hcases
  cases hcases with
  | accepted hunread hfresh htakes => exact ⟨_, _, _, _, hunread, hfresh, htakes⟩

theorem handoff_running {image : TrajectoryImage K}
    (h : c.handoffTimeIsValid false image = true) :
    image.covers c.executionTimeNs ∧ (c.replaceableFromNs ≤ image.earliestChangedNs ∨
      c.executionTimeNs = 0 ∧ image.earliestChangedNs = 0) := by
  simpa [handoffTimeIsValid] using h

theorem Takes.sample_eq {priming : Bool} {snapshot : RollingSnapshot K}
    {taken : RollingTrajectoryController K} {desired : JointPoint K}
    {cursor : MonotonicTrajectoryCursor} {boundaryNs : ℕ}
    (h : Takes c priming snapshot taken desired cursor boundaryNs)
    (hincreasing : Increasing snapshot.trajectory.points)
    (hgeneration : 0 < snapshot.trajectory.generation) :
    sampleTrajectoryImage snapshot.trajectory c.executionTimeNs = some desired := by
  have hfresh := sampleTrajectoryImageMonotonic_eq c.executionTimeNs hincreasing
    fun heq : ({} : MonotonicTrajectoryCursor).generation = _ => absurd heq hgeneration.ne
  rw [← hfresh, h.sample]
  rfl

variable [SquareRoot K]

theorem Runs.earliest_ge {image : TrajectoryImage K} (h : c.Runs image)
    {snapshot : RollingSnapshot K} {taken : RollingTrajectoryController K} {desired : JointPoint K}
    {cursor : MonotonicTrajectoryCursor} {boundaryNs : ℕ}
    (htakes : Takes { c with unread := none } false snapshot taken desired cursor boundaryNs) :
    snapshot.trajectory.Starts c.executionTimeNs ∧
      c.executionTimeNs ≤ snapshot.trajectory.earliestChangedNs := by
  obtain ⟨hcovers, hearliest⟩ := handoff_running htakes.handoff
  refine ⟨(TrajectoryImage.covers_iff.1 hcovers).1, ?_⟩
  rcases hearliest with hboundary | ⟨hexecution, -⟩
  · have hle := addTime_le htakes.boundary c.configuration.replaceLeadNs_pos
    change c.executionTimeNs + c.configuration.replaceLeadNs ≤ maxUint64 at hle
    change c.replaceableFromNs ≤ snapshot.trajectory.earliestChangedNs at hboundary
    have hreplaceable := h.boundary
    omega
  · change c.executionTimeNs = 0 at hexecution
    rw [hexecution]
    exact Nat.zero_le _

theorem accepted_running (hcore : c.Core) (hrunning : c.rtSessionState = .running)
    {taken : RollingTrajectoryController K}
    (h : c.consumeLatestRtTrajectory false = (taken, .accepted)) :
    ∃ snapshot, c.unread = some snapshot ∧ taken.rtActiveTrajectory = some snapshot.trajectory ∧
      sampleTrajectoryImage snapshot.trajectory c.executionTimeNs = some taken.rtDesired ∧
      taken.rtDesired = c.rtDesired := by
  obtain ⟨snapshot, desired, cursor, boundaryNs, hunread, hfresh, htakes⟩ := consume_eq_accepted h
  obtain ⟨image, hruns⟩ := hcore.running hrunning
  have hsuccessor := hruns.unread snapshot ⟨hunread, hruns.floor.symm.le.trans hfresh.1⟩
  obtain ⟨hstarts, hearliest⟩ := hruns.earliest_ge htakes
  have hextends := hsuccessor.linked.newer hsuccessor.generation
  have hsample := htakes.sample_eq hsuccessor.sound.points.increasing hsuccessor.sound.generation
  have hdesired : desired = c.rtDesired := by
    refine Option.some.inj (hsample.symm.trans ?_)
    exact (hextends.sample _ hstarts hearliest).trans hruns.desired
  rw [htakes.eq_taken]
  exact ⟨snapshot, hunread, rfl, hsample, hdesired⟩

theorem accepted_priming (hcore : c.Core) (hpriming : c.rtSessionState = .priming)
    (hreset : c.RtReset) {taken : RollingTrajectoryController K}
    (h : c.consumeLatestRtTrajectory true = (taken, .accepted)) :
    ∃ snapshot, c.unread = some snapshot ∧ taken.rtActiveTrajectory = some snapshot.trajectory ∧
      sampleTrajectoryImage snapshot.trajectory c.executionTimeNs = some taken.rtDesired ∧
      c.executionTimeNs = 0 ∧ taken.rtDesired = c.hold := by
  obtain ⟨snapshot, desired, cursor, boundaryNs, hunread, hfresh, htakes⟩ := consume_eq_accepted h
  have hprimed := hcore.primed hpriming
  obtain ⟨-, hsound, hanchored, hstarts, -⟩ :=
    hprimed.unread snapshot ⟨hunread, hreset.floor.symm.le.trans hfresh.1⟩
  have hsample := htakes.sample_eq hsound.points.increasing hsound.generation
  have hdesired : desired = c.hold := by
    have hanchor := hanchored hstarts
    rw [← hprimed.execution, hprimed.anchor] at hanchor
    exact Option.some.inj (hsample.symm.trans hanchor)
  rw [htakes.eq_taken]
  exact ⟨snapshot, hunread, rfl, hsample, hprimed.execution, hdesired⟩

end RollingTrajectoryController

namespace World

variable [SquareRoot K]

theorem Sound.splicesContinuously {w : World K} (h : w.Sound) : w.SplicesContinuously where
  accepted := by
    rintro priming taken ⟨input, htick⟩ haccepted
    obtain ⟨hcaptured, hreset⟩ := h.tick _ _ htick
    cases priming with
    | true =>
      obtain ⟨snapshot, hunread, hactive, hsample, hexecution, hdesired⟩ :=
        accepted_priming h.core hcaptured (hreset rfl) haccepted
      obtain ⟨hpositions, hvelocities⟩ := h.still (not_moving_of_priming hcaptured)
      refine ⟨snapshot, hunread, hactive, hsample, ?_, ?_, fun _ => ⟨hexecution, hdesired⟩⟩
      · rw [hdesired, hpositions]
        rfl
      · rw [hdesired, hvelocities]
        rfl
    | false =>
      obtain ⟨snapshot, hunread, hactive, hsample, hdesired⟩ :=
        accepted_running h.core hcaptured haccepted
      exact ⟨snapshot, hunread, hactive, hsample, by rw [hdesired], by rw [hdesired],
        Bool.noConfusion⟩
  agrees := by
    intro hrunning
    obtain ⟨image, hruns⟩ := h.core.running hrunning
    refine ⟨image, hruns.active, hruns.starts, fun timeNs hstarts htime => ?_⟩
    rcases hruns.linked.le.lt_or_eq with hlt | heq
    · rcases htime with rfl | htime
      · rfl
      · exact (hruns.linked.newer hlt).sample timeNs hstarts htime
    · rw [hruns.linked.same heq]

variable [FloorSemiring K] [IsStrictOrderedRing K]

theorem splices_continuously (configuration : RuntimeConfiguration K) (sourceCommands : Axis → K)
    (actualPositions : Axis → Option K) (feedbackAgeMs : Option K)
    (activationEpoch publicationSequence : ℕ) (unread : Option (RollingSnapshot K))
    (hunread : ∀ snapshot ∈ unread, snapshot.publicationSequence ≤ publicationSequence)
    (labels : List (Label K)) :
    (run step (activated configuration sourceCommands actualPositions feedbackAgeMs activationEpoch
      publicationSequence unread) labels).SplicesContinuously :=
  (Sound.run (Sound.activated configuration sourceCommands actualPositions feedbackAgeMs
    activationEpoch hunread) labels).splicesContinuously

end World

namespace Standstill

def configuration : RuntimeConfiguration ℚ :=
  { RuntimeConfiguration.unit with
    updateTimeoutNs := 10 ^ 9
    maximumControllerPeriodNs_le := by decide
    updateTimeoutNs_le := by decide }

def initial : World ℚ :=
  World.activated configuration (fun _ => 0) (fun _ => some 0) (some 0) 1 0 none

def stamp (timeNs : ℕ) : Stamp := ⟨timeNs / 10 ^ 9, timeNs % 10 ^ 9⟩

def zeros : List (Option ℚ) := List.replicate axisCount (some 0)

/-- The arms rest at zero, and every batch keeps them there. -/
def message (sequence replaceFromNs durationNs : ℕ) : BatchMessage ℚ where
  epoch := 1
  sequence := sequence
  replaceFrom := stamp replaceFromNs
  points := [⟨stamp 0, zeros, zeros⟩, ⟨stamp durationNs, zeros, zeros⟩]
  final := false

def batch (message : BatchMessage ℚ) (nowNs count : ℕ) : List (Label ℚ) :=
  .deliver message nowNs :: List.replicate count (.admission nowNs true)

def tick (timeNs count : ℕ) : List (Label ℚ) :=
  .tick ⟨timeNs, 10 ^ 7⟩ (fun _ => some 0) (some 0) :: List.replicate count (.realtime timeNs)

/-- The arms leave their rest with half the acceleration limit, and come back to rest. -/
def ramp : BatchMessage ℚ where
  epoch := 1
  sequence := 1
  replaceFrom := stamp (10 ^ 9)
  points := [⟨stamp 0, zeros, zeros⟩,
    ⟨stamp (10 ^ 9), List.replicate axisCount (some (1 / 4)),
      List.replicate axisCount (some (1 / 2))⟩,
    ⟨stamp (2 * 10 ^ 9), List.replicate axisCount (some (1 / 2)), zeros⟩]
  final := false

/-- No batch follows the one that opens the session at one second. -/
def ramping (arrivalNs ticks : ℕ) : List (Label ℚ) :=
  batch ramp arrivalNs 15 ++
    (List.range ticks).flatMap fun count => tick (10 ^ 9 + count * 10 ^ 7) 7

/-- The second batch leaves the ramp after half a second, and the arms brake. -/
def replacement : BatchMessage ℚ where
  epoch := 1
  sequence := 2
  replaceFrom := stamp (15 * 10 ^ 8)
  points := [⟨stamp 0, List.replicate axisCount (some (1 / 16)),
      List.replicate axisCount (some (1 / 4))⟩,
    ⟨stamp (10 ^ 9), List.replicate axisCount (some (3 / 16)), zeros⟩]
  final := true

/-- The fifth tick of the ramp is about to take the second batch. -/
def replacing : List (Label ℚ) :=
  ramping (99 * 10 ^ 7) 4 ++ batch replacement (103 * 10 ^ 7) 4 ++ tick (104 * 10 ^ 7) 4

theorem splices :
    ((run World.step initial replacing).tick = some (⟨104 * 10 ^ 7, 10 ^ 7⟩, .body .running) ∧
      (run World.step initial replacing).controller.rtDesired.velocities = (fun _ => 3 / 200) ∧
      ((run World.step initial replacing).controller.consumeLatestRtTrajectory false).2 =
        .accepted) ∧
    (run World.step initial replacing).SplicesContinuously :=
  ⟨by decide +kernel, World.splices_continuously configuration _ _ _ 1 0 none
    nofun _⟩

end Standstill

end RobotDriver.Rolling
