import RobotDriver.Rolling.SpliceContinuity

/-!
# The kept cursor

The consumer keeps a cursor for its active image over all ticks of a session. The cursor is set
whenever the image is, so it always samples like a fresh one.
-/

namespace RobotDriver.Rolling

open LabelledRun RollingTrajectoryController

variable {K : Type*} [Field K] [LinearOrder K]

/-- The samples of an image at a sequence of times, with the cursor kept from one to the next. -/
def sampleInTurn (image : TrajectoryImage K) :
    MonotonicTrajectoryCursor → List ℕ → List (Option (JointPoint K))
  | _, [] => []
  | cursor, timeNs :: times =>
    match sampleTrajectoryImageMonotonic image timeNs cursor with
    | none => none :: sampleInTurn image cursor times
    | some (point, cursor') => some point :: sampleInTurn image cursor' times

theorem sampleInTurn_eq {image : TrajectoryImage K} (hincreasing : Increasing image.points)
    {cursor : MonotonicTrajectoryCursor} (hfits : cursor.Fits image) (times : List ℕ) :
    sampleInTurn image cursor times = times.map (sampleTrajectoryImage image) := by
  induction times generalizing cursor with
  | nil => rfl
  | cons timeNs times ih =>
    have heq := sampleTrajectoryImageMonotonic_eq timeNs hincreasing fun _ => hfits
    rw [sampleInTurn, List.map_cons, ← heq]
    cases hsample : sampleTrajectoryImageMonotonic image timeNs cursor with
    | none => exact congrArg (none :: ·) (ih hfits)
    | some sampled =>
      have hnext := fits_of_sample hincreasing (fun _ => hfits) hsample
      exact congrArg (some sampled.1 :: ·) (ih hnext)

namespace RollingTrajectoryController

variable {c c' : RollingTrajectoryController K}

/-- The kept cursor does not stand behind the times of the active image. -/
def CursorFits (c : RollingTrajectoryController K) : Prop :=
  ∀ image ∈ c.rtActiveTrajectory, Increasing image.points ∧ c.rtSamplingCursor.Fits image

/-- The consumer still has the image and the cursor. -/
structure KeepsCursor (c c' : RollingTrajectoryController K) : Prop where
  image : c'.rtActiveTrajectory = c.rtActiveTrajectory
  cursor : c'.rtSamplingCursor = c.rtSamplingCursor

theorem CursorFits.of_keeps (h : c.CursorFits) (hkeeps : KeepsCursor c c') : c'.CursorFits := by
  intro image himage
  rw [hkeeps.image] at himage
  rw [hkeeps.cursor]
  exact h image himage

theorem cursorFits_of_none (h : c.rtActiveTrajectory = none) : c.CursorFits := by
  intro image himage
  rw [h] at himage
  cases himage

section Realtime

variable [FloorSemiring K]

theorem keepsCursor_beginStopTrajectory : KeepsCursor c c.beginStopTrajectory.1 := by
  unfold beginStopTrajectory
  split
  · exact ⟨rfl, rfl⟩
  split
  · split
    · exact ⟨rfl, rfl⟩
    split <;> exact ⟨rfl, rfl⟩
  · exact ⟨rfl, rfl⟩

theorem keepsCursor_beginRtStop (reason : StopReason) :
    KeepsCursor c (c.beginRtStop reason).1 := by
  have hbegin := keepsCursor_beginStopTrajectory (c := c.recordStopReason reason)
  unfold beginRtStop
  split
  · exact ⟨rfl, rfl⟩
  · exact ⟨rfl, rfl⟩
  · exact { hbegin with }
  · exact { hbegin with }
  · exact ⟨rfl, rfl⟩

omit [FloorSemiring K] in
theorem keepsCursor_advanceRtStop (periodNs : ℤ) : KeepsCursor c (c.advanceRtStop periodNs).1 := by
  have hcases := advanceRtStop_cases c periodNs
  generalize c.advanceRtStop periodNs = updated at hcases
  cases hcases with
  | refused => exact ⟨rfl, rfl⟩
  | invalid => exact ⟨rfl, rfl⟩
  | moves => exact ⟨rfl, rfl⟩

omit [FloorSemiring K] in
theorem keepsCursor_writeRtDesired : KeepsCursor c c.writeRtDesired.1 := by
  unfold writeRtDesired
  split <;> exact ⟨rfl, rfl⟩

variable [SquareRoot K]

omit [FloorSemiring K] in
theorem Runs.cursorFits {image : TrajectoryImage K} (h : c.Runs image) : c.CursorFits := by
  intro other hother
  obtain rfl : image = other := Option.some.inj (h.active.symm.trans hother)
  exact ⟨h.sound.points.increasing, h.cursor⟩

omit [FloorSemiring K] [SquareRoot K] in
theorem cursorFits_of_fits {image : TrajectoryImage K} (hincreasing : Increasing image.points)
    (hactive : c.rtActiveTrajectory = some image) {cursor : MonotonicTrajectoryCursor}
    (hfits : cursor.Fits image) : { c with rtSamplingCursor := cursor }.CursorFits := by
  intro other hother
  obtain rfl : image = other := Option.some.inj (hactive.symm.trans hother)
  exact ⟨hincreasing, hfits⟩

theorem Runs.cursorFits_updateRunning {image : TrajectoryImage K} (h : c.Runs image)
    (periodNs : ℤ) (nowNs : ℕ) : (c.updateRunning periodNs nowNs).1.CursorFits := by
  have hincreasing := h.sound.points.increasing
  have hcases := updateRunning_cases periodNs nowNs h.active hincreasing h.cursor
  generalize c.updateRunning periodNs nowNs = updated at hcases
  cases hcases with
  | stop fits reason =>
    have hkept := cursorFits_of_fits hincreasing h.active fits
    exact hkept.of_keeps (keepsCursor_beginRtStop reason)
  | advance advances | complete final le advances =>
    exact cursorFits_of_fits hincreasing h.active advances.fits
  | overflow advances =>
    have hkept := cursorFits_of_fits hincreasing h.active advances.fits
    exact CursorFits.of_keeps hkept { keepsCursor_beginRtStop .internalInvariant with }

end Realtime

end RollingTrajectoryController

namespace World

variable {w : World K}

theorem cursorFits_finishTick {updated : RollingTrajectoryController K × Bool}
    (h : updated.1.CursorFits) : (w.finishTick updated).controller.CursorFits := by
  have hwritten := h.of_keeps keepsCursor_writeRtDesired
  unfold World.finishTick
  split
  · generalize updated.1.writeRtDesired = written at hwritten
    obtain ⟨c, written⟩ := written
    cases written <;> exact hwritten
  · exact h

theorem BatchChange.keepsCursor {next : World K} {nowNs : ℕ} {pc : SessionPc K}
    (h : BatchChange w nowNs pc next) : KeepsCursor w.controller next.controller := by
  cases h with
  | stored store locals session => cases store <;> exact ⟨rfl, rfl⟩
  | _ => exact ⟨rfl, rfl⟩

variable [SquareRoot K] [FloorSemiring K]

theorem Sound.cursorFits_updateBody [IsStrictOrderedRing K] (h : w.Sound)
    (hfits : w.controller.CursorFits) {input : TickInput} {state : SessionState}
    (htick : w.tick = some (input, .body state)) (nowNs : ℕ) :
    (updateBody w.controller w.session.isSome state input.periodNs nowNs).1.CursorFits := by
  obtain ⟨hcaptured, hreset⟩ := h.tick _ _ htick
  have hdiscard : { w.controller with unread := none }.CursorFits := hfits
  cases state with
  | priming =>
    unfold updateBody
    dsimp only
    split
    · exact hfits
    have hcases := consume_cases w.controller true
    generalize w.controller.consumeLatestRtTrajectory true = consumed at hcases
    cases hcases with
    | unchanged => exact hfits
    | invalid => exact hdiscard.of_keeps (keepsCursor_beginRtStop _)
    | accepted hunread hfresh htakes =>
      exact (runs_of_priming h.core hcaptured (hreset rfl) hunread hfresh htakes).cursorFits
  | running =>
    unfold updateBody
    dsimp only
    split
    · exact hfits
    obtain ⟨image, hruns⟩ := h.core.running hcaptured
    have hcases := consume_cases w.controller false
    generalize w.controller.consumeLatestRtTrajectory false = consumed at hcases
    obtain ⟨-, -, -, image', hruns', -⟩ := runs_of_consumption h.core hruns hcaptured hcases
    have hupdate := hruns'.cursorFits_updateRunning input.periodNs nowNs
    cases hcases with
    | unchanged => exact hupdate
    | invalid => exact hdiscard.of_keeps (keepsCursor_beginRtStop _)
    | accepted => exact hupdate
  | stopping => exact hfits.of_keeps (keepsCursor_advanceRtStop input.periodNs)
  | none => exact hfits
  | holding => exact hfits
  | terminated => exact hfits

theorem Sound.cursorFits_stepTick [IsStrictOrderedRing K] (h : w.Sound)
    (hfits : w.controller.CursorFits) {input : TickInput} {pc : TickPc}
    (htick : w.tick = some (input, pc)) (nowNs : ℕ) :
    (w.stepTick input nowNs pc).controller.CursorFits := by
  have hchange := tickChange_stepTick w input nowNs pc
  generalize w.stepTick input nowNs pc = next at hchange
  cases hchange with
  | same => exact hfits
  | reset hreset =>
    unfold RollingTrajectoryController.resetRtEpoch at hreset
    split at hreset
    · cases hreset
    dsimp only at hreset
    split at hreset
    · cases hreset
      exact cursorFits_of_none rfl
    · cases hreset
  | body state => exact cursorFits_finishTick (h.cursorFits_updateBody hfits htick nowNs)
  | stop => exact cursorFits_finishTick (hfits.of_keeps (keepsCursor_beginRtStop _))
  | write => exact cursorFits_finishTick hfits

theorem Sound.cursorFits_step [IsStrictOrderedRing K] (h : w.Sound)
    (hfits : w.controller.CursorFits) (label : Label K) :
    (w.step label).controller.CursorFits := by
  have hchange := worldChange_step w label
  generalize w.step label = next at hchange
  cases hchange with
  | same | observed | delivered => exact hfits
  | realtime htick => exact h.cursorFits_stepTick hfits htick _
  | batch hsession hbatch => exact hfits.of_keeps (BatchChange.keepsCursor hbatch)

/-- In every state of every run the kept cursor samples the active image like a fresh one, at one
time and at any sequence of times. -/
theorem cursor_samples_afresh [IsStrictOrderedRing K] (configuration : RuntimeConfiguration K)
    (sourceCommands : Axis → K) (actualPositions : Axis → Option K) (feedbackAgeMs : Option K)
    (activationEpoch publicationSequence : ℕ) (unread : Option (RollingSnapshot K))
    (hunread : ∀ snapshot ∈ unread, snapshot.publicationSequence ≤ publicationSequence)
    (labels : List (Label K)) :
    let c := (run step (activated configuration sourceCommands actualPositions feedbackAgeMs
      activationEpoch publicationSequence unread) labels).controller
    ∀ image ∈ c.rtActiveTrajectory,
      (∀ timeNs, (sampleTrajectoryImageMonotonic image timeNs c.rtSamplingCursor).map (·.1) =
        sampleTrajectoryImage image timeNs) ∧
      ∀ times, sampleInTurn image c.rtSamplingCursor times =
        times.map (sampleTrajectoryImage image) := by
  have hactivated := Sound.activated configuration sourceCommands actualPositions feedbackAgeMs
    activationEpoch hunread
  have hall : ∀ w : World K, w.Sound ∧ w.controller.CursorFits → ∀ label,
      (w.step label).Sound ∧ (w.step label).controller.CursorFits :=
    fun w h label => ⟨h.1.step label, h.1.cursorFits_step h.2 label⟩
  have hrun := invariant_all (P := fun w : World K => w.Sound ∧ w.controller.CursorFits)
    (fun w label h => hall w h label) ⟨hactivated, cursorFits_of_none rfl⟩ labels
  intro c image himage
  obtain ⟨hincreasing, hfits⟩ := hrun.2 image himage
  exact ⟨fun timeNs => sampleTrajectoryImageMonotonic_eq timeNs hincreasing fun _ => hfits,
    sampleInTurn_eq hincreasing hfits⟩

end World

namespace Standstill

/-- The tick that takes the second batch leaves a cursor on the new image. -/
theorem samples_afresh :
    (run World.step initial
      (replacing ++ [.realtime (104 * 10 ^ 7)])).controller.rtActiveTrajectory.map (·.generation) =
        some 2 ∧
    ∀ image ∈ (run World.step initial
        (replacing ++ [.realtime (104 * 10 ^ 7)])).controller.rtActiveTrajectory,
      ∀ timeNs, (sampleTrajectoryImageMonotonic image timeNs (run World.step initial
        (replacing ++ [.realtime (104 * 10 ^ 7)])).controller.rtSamplingCursor).map (·.1) =
          sampleTrajectoryImage image timeNs :=
  ⟨by decide +kernel, fun image himage => (World.cursor_samples_afresh configuration _ _ _ 1 0 none
    nofun _ image himage).1⟩

end Standstill

end RobotDriver.Rolling
