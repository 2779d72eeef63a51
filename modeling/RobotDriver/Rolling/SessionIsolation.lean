import RobotDriver.Rolling.SpliceContinuity

/-!
# Sessions do not mix

A snapshot that the consumer accepts was published by the session that it observes, and a running
session executes only its own images. A new snapshot is taken for one of another session when the
session restarts behind the coherent epoch of a tick and before its gate.
-/

namespace RobotDriver.Rolling

open RollingTrajectoryController LabelledRun

variable {K : Type*} [Field K] [LinearOrder K]

namespace World

/-- The step calls `consumeLatestRtTrajectory`. -/
def Consumes (w : World K) (label : Label K) (priming : Bool) : Prop :=
  (∃ nowNs, label = .realtime nowNs) ∧ w.AtConsumption priming ∧
    (w.session.isSome = true → priming = false ∧ w.controller.executionTimeNs ≠ 0)

instance (w : World K) (priming : Bool) : (label : Label K) → Decidable (w.Consumes label priming)
  | .realtime _ => decidable_of_iff (w.AtConsumption priming ∧ (w.session.isSome = true →
      priming = false ∧ w.controller.executionTimeNs ≠ 0)) ⟨fun h => ⟨⟨_, rfl⟩, h⟩, And.right⟩
  | .tick .. | .deliver .. | .admission .. => .isFalse fun h => nomatch h.1

/-- The step accepts an image that was published in the session of that epoch. -/
def Acquires (w : World K) (label : Label K) (image : TrajectoryImage K) (epoch : ℕ) : Prop :=
  ∃ priming taken snapshot, w.Consumes label priming ∧
    w.controller.consumeLatestRtTrajectory priming = (taken, .accepted) ∧
    w.controller.unread = some snapshot ∧ snapshot.trajectory = image ∧
    snapshot.sessionEpoch = epoch

structure KeepsSessionsApart (w : World K) (label : Label K) : Prop where
  accepted : ∀ priming taken, w.Consumes label priming →
    w.controller.consumeLatestRtTrajectory priming = (taken, .accepted) →
      ∃ snapshot, w.controller.unread = some snapshot ∧
        taken.rtActiveTrajectory = some snapshot.trajectory ∧
        snapshot.sessionEpoch = w.controller.sessionEpoch ∧
        w.controller.rtObservedSessionEpoch = w.controller.sessionEpoch ∧
        w.controller.sessionPublicationFloor ≤ snapshot.publicationSequence
  kept : ∀ priming snapshot, w.Consumes label priming → w.controller.Current snapshot →
    w.controller.Fresh snapshot ∧ snapshot.sessionEpoch = w.controller.rtObservedSessionEpoch

/-- In a running session, the active image was accepted from the same session. -/
def ExecutesOwnSession [FloorSemiring K] [SquareRoot K] (w : World K)
    (labels : List (Label K)) : Prop :=
  ∀ image, (run step w labels).controller.rtSessionState = .running →
    (run step w labels).controller.rtActiveTrajectory = some image →
      ∃ before label after, labels = before ++ label :: after ∧
        (run step w before).Acquires label image (run step w labels).controller.sessionEpoch

/-- A tick that passes the gate of a priming session has observed the session that has published
the unread snapshot. -/
def EpochIsCurrent (w : World K) (label : Label K) : Prop :=
  w.Consumes label true → ∀ snapshot, w.controller.Current snapshot →
    w.controller.rtObservedSessionEpoch = w.controller.sessionEpoch

instance (w : World K) (label : Label K) : Decidable (w.EpochIsCurrent label) :=
  decidable_of_iff (w.Consumes label true → ∀ snapshot ∈ w.controller.unread,
    w.controller.sessionPublicationFloor ≤ snapshot.publicationSequence →
      w.controller.rtObservedSessionEpoch = w.controller.sessionEpoch)
    ⟨fun h hconsumes snapshot hcurrent => h hconsumes snapshot hcurrent.1 hcurrent.2,
      fun h hconsumes snapshot hunread hfloor => h hconsumes snapshot ⟨hunread, hfloor⟩⟩

end World

namespace RollingTrajectoryController

variable {c : RollingTrajectoryController K}

/-- The words of the session and of the exchange are the same. -/
structure SameSession (c c' : RollingTrajectoryController K) : Prop where
  unread : c'.unread = c.unread
  active : c'.rtActiveTrajectory = c.rtActiveTrajectory
  epoch : c'.sessionEpoch = c.sessionEpoch
  floor : c'.sessionPublicationFloor = c.sessionPublicationFloor

section Same

variable [FloorSemiring K]

theorem sameSession_beginStopTrajectory : SameSession c c.beginStopTrajectory.1 := by
  unfold beginStopTrajectory
  split
  · exact ⟨rfl, rfl, rfl, rfl⟩
  split
  · split
    · exact ⟨rfl, rfl, rfl, rfl⟩
    split <;> exact ⟨rfl, rfl, rfl, rfl⟩
  · exact ⟨rfl, rfl, rfl, rfl⟩

theorem sameSession_beginRtStop (reason : StopReason) :
    SameSession c (c.beginRtStop reason).1 := by
  have hbegin := sameSession_beginStopTrajectory (c := c.recordStopReason reason)
  unfold beginRtStop
  split
  · exact ⟨rfl, rfl, rfl, rfl⟩
  · exact ⟨rfl, rfl, rfl, rfl⟩
  · exact { hbegin with }
  · exact { hbegin with }
  · exact ⟨rfl, rfl, rfl, rfl⟩

variable [SquareRoot K]

theorem Runs.sameSession_updateRunning {image : TrajectoryImage K} (h : c.Runs image)
    (periodNs : ℤ) (nowNs : ℕ) : SameSession c (c.updateRunning periodNs nowNs).1 := by
  have hcases := updateRunning_cases periodNs nowNs h.active
    h.sound.points.increasing h.cursor
  generalize c.updateRunning periodNs nowNs = updated at hcases
  cases hcases with
  | stop fits reason => exact { sameSession_beginRtStop reason with }
  | advance | complete => exact ⟨rfl, rfl, rfl, rfl⟩
  | overflow => exact { sameSession_beginRtStop .internalInvariant with }

end Same

/-- A session that runs behind a step has run the same image before it. -/
def Continues (c c' : RollingTrajectoryController K) : Prop :=
  c'.rtSessionState = .running → c.rtSessionState = .running ∧
    c'.rtActiveTrajectory = c.rtActiveTrajectory ∧ c'.sessionEpoch = c.sessionEpoch

theorem SameSession.continues {c' : RollingTrajectoryController K} (h : SameSession c c')
    (hstate : c'.rtSessionState = .running → c.rtSessionState = .running) : Continues c c' :=
  fun hrunning => ⟨hstate hrunning, h.active, h.epoch⟩

section Continue

variable [FloorSemiring K] [IsStrictOrderedRing K]

theorem running_of_beginRtStop {reason : StopReason}
    (hstate : c.rtSessionState = .priming ∨ c.rtSessionState = .running)
    (hchecker : c.rtStopTrajectory.limitChecker = c.configuration.limitChecker)
    (h : (c.beginRtStop reason).1.rtSessionState = .running) : c.rtSessionState = .running := by
  have hcases := beginRtStop_cases reason hstate hchecker
  generalize c.beginRtStop reason = updated at hcases h
  cases hcases with
  | refused => exact h
  | rests => cases h
  | stops => cases h

theorem continues_beginRtStop {reason : StopReason}
    (hstate : c.rtSessionState = .priming ∨ c.rtSessionState = .running)
    (hchecker : c.rtStopTrajectory.limitChecker = c.configuration.limitChecker) :
    Continues c (c.beginRtStop reason).1 :=
  (sameSession_beginRtStop reason).continues (running_of_beginRtStop hstate hchecker)

omit [FloorSemiring K] [IsStrictOrderedRing K] in
theorem continues_advanceRtStop (hstate : c.rtSessionState = .stopping) (periodNs : ℤ) :
    Continues c (c.advanceRtStop periodNs).1 := by
  have hcases := advanceRtStop_cases c periodNs
  generalize c.advanceRtStop periodNs = updated at hcases
  intro hrunning
  cases hcases with
  | refused | invalid =>
    rw [hstate] at hrunning
    cases hrunning
  | moves =>
    dsimp only at hrunning
    split at hrunning
    · cases hrunning
    · rw [hstate] at hrunning
      cases hrunning

end Continue

end RollingTrajectoryController

namespace World

variable {w : World K}

theorem finishTick_continues {c : RollingTrajectoryController K}
    {updated : RollingTrajectoryController K × Bool} (h : Continues c updated.1) :
    Continues c (w.finishTick updated).controller := by
  unfold finishTick writeRtDesired
  split
  · split
    · rename_i heq
      split at heq <;> cases heq
      exact h
    · rename_i heq
      split at heq <;> cases heq
      exact h
  · exact h

variable [SquareRoot K]

theorem Sound.continues_of_batchChange (h : w.Sound) {message : BatchMessage K} {pc : SessionPc K}
    (hsession : w.session = some (message, pc)) {nowNs : ℕ} {next : World K}
    (hchange : BatchChange w nowNs pc next) : Continues w.controller next.controller := by
  have hpc := h.session message pc hsession
  have hsame : Continues w.controller w.controller := fun hrunning => ⟨hrunning, rfl, rfl⟩
  cases hchange with
  | stored store locals session =>
    intro hrunning
    have hstill := Storing.still hpc
    cases store with
    | sessionState => cases hrunning
    | _ => exact absurd (.inl hrunning) hstill
  | _ => exact hsame

variable [FloorSemiring K]

/-- Where the image of a session that runs behind a step comes from. -/
def ActiveFrom (w : World K) (label : Label K) (c : RollingTrajectoryController K) : Prop :=
  ∀ image, c.rtSessionState = .running → c.rtActiveTrajectory = some image →
    w.Acquires label image c.sessionEpoch ∨
      w.controller.rtSessionState = .running ∧ w.controller.rtActiveTrajectory = some image ∧
        c.sessionEpoch = w.controller.sessionEpoch

omit [SquareRoot K] [FloorSemiring K] in
theorem activeFrom_of_continues {label : Label K} {c : RollingTrajectoryController K}
    (h : Continues w.controller c) : w.ActiveFrom label c := by
  intro image hrunning hactive
  obtain ⟨hbefore, hsame, hepoch⟩ := h hrunning
  exact .inr ⟨hbefore, hsame.symm.trans hactive, hepoch⟩

omit [SquareRoot K] [FloorSemiring K] in
theorem ActiveFrom.of_same {label : Label K} {c c' : RollingTrajectoryController K}
    (h : w.ActiveFrom label c) (hsame : Continues c c') : w.ActiveFrom label c' := by
  intro image hrunning hactive
  obtain ⟨hbefore, heq, hepoch⟩ := hsame hrunning
  rw [hepoch]
  exact h image hbefore (heq.symm.trans hactive)

omit [FloorSemiring K] in
theorem Sound.accepted_current (h : w.Sound) {priming : Bool} (hat : w.AtConsumption priming)
    {taken : RollingTrajectoryController K}
    (haccepted : w.controller.consumeLatestRtTrajectory priming = (taken, .accepted)) :
    ∃ snapshot, w.controller.unread = some snapshot ∧
      taken.rtActiveTrajectory = some snapshot.trajectory ∧
      taken.sessionEpoch = w.controller.sessionEpoch ∧
      snapshot.sessionEpoch = w.controller.sessionEpoch ∧
      w.controller.rtObservedSessionEpoch = w.controller.sessionEpoch ∧
      w.controller.sessionPublicationFloor ≤ snapshot.publicationSequence := by
  obtain ⟨input, htick⟩ := hat
  obtain ⟨hcaptured, hreset⟩ := h.tick _ _ htick
  obtain ⟨snapshot, desired, cursor, boundaryNs, hunread, hfresh, htakes⟩ :=
    consume_eq_accepted haccepted
  have hobserved : snapshot.sessionEpoch = w.controller.rtObservedSessionEpoch := htakes.epoch
  have hfloor : w.controller.rtPublicationFloor = w.controller.sessionPublicationFloor ∧
      (w.controller.Current snapshot → snapshot.sessionEpoch = w.controller.sessionEpoch) := by
    cases priming with
    | true =>
      exact ⟨(hreset rfl).floor, fun hcurrent =>
        ((h.core.primed hcaptured).unread snapshot hcurrent).1⟩
    | false =>
      obtain ⟨image, hruns⟩ := h.core.running hcaptured
      exact ⟨hruns.floor, fun hcurrent => (hruns.unread snapshot hcurrent).epoch⟩
  have hcurrent : w.controller.sessionPublicationFloor ≤ snapshot.publicationSequence :=
    hfloor.1.symm.le.trans hfresh.1
  have hepoch := hfloor.2 ⟨hunread, hcurrent⟩
  rw [htakes.eq_taken]
  exact ⟨snapshot, hunread, rfl, rfl, hepoch, hobserved.symm.trans hepoch, hcurrent⟩

variable [IsStrictOrderedRing K]

theorem Sound.activeFrom_updateBody (h : w.Sound) {input : TickInput} {state : SessionState}
    (htick : w.tick = some (input, .body state)) (nowNs : ℕ) :
    w.ActiveFrom (.realtime nowNs) (updateBody w.controller w.session.isSome state input.periodNs
      nowNs).1 := by
  obtain ⟨hcaptured, hreset⟩ := h.tick _ _ htick
  have hsame : w.ActiveFrom (.realtime nowNs) w.controller := activeFrom_of_continues
    fun hrunning => ⟨hrunning, rfl, rfl⟩
  have hacquires : ∀ {priming taken}, w.Consumes (.realtime nowNs) priming →
      w.controller.consumeLatestRtTrajectory priming = (taken, .accepted) →
        w.ActiveFrom (.realtime nowNs) taken := by
    intro priming taken hconsumes haccepted image hrunning hactive
    obtain ⟨snapshot, hunread, htrajectory, hsession, hepoch, -⟩ :=
      h.accepted_current hconsumes.2.1 haccepted
    refine .inl ⟨priming, taken, snapshot, hconsumes, haccepted, hunread, ?_, ?_⟩
    · exact Option.some.inj (htrajectory.symm.trans hactive)
    · rw [hsession]
      exact hepoch
  have hconsumed : ∀ {priming}, w.Consumes (.realtime nowNs) priming →
      w.ActiveFrom (.realtime nowNs) (w.controller.consumeLatestRtTrajectory priming).1 := by
    intro priming hconsumes
    by_cases haccepted : (w.controller.consumeLatestRtTrajectory priming).2 = .accepted
    · exact hacquires hconsumes (Prod.ext rfl haccepted)
    · rw [consumption_keeps (consume_cases _ _) haccepted]
      exact activeFrom_of_continues fun hrunning => ⟨hrunning, rfl, rfl⟩
  cases state with
  | priming =>
    have hgate : w.session.isSome = false → w.Consumes (.realtime nowNs) true := fun hfree =>
      ⟨⟨nowNs, rfl⟩, ⟨input, htick⟩, fun hbusy => by
        rw [hfree] at hbusy
        cases hbusy⟩
    unfold updateBody
    dsimp only
    split
    · exact hsame
    rename_i hfree
    have hnext := hconsumed (hgate (Bool.eq_false_iff.2 hfree))
    have hcases := consume_cases w.controller true
    generalize w.controller.consumeLatestRtTrajectory true = consumed at hcases hnext
    cases hcases with
    | unchanged => exact hnext
    | invalid => exact hnext.of_same (continues_beginRtStop (.inl hcaptured) h.core.stopChecker)
    | accepted => exact hnext
  | running =>
    unfold updateBody
    dsimp only
    split
    · exact hsame
    rename_i hfree
    have hconsumes : w.Consumes (.realtime nowNs) false :=
      ⟨⟨nowNs, rfl⟩, ⟨input, htick⟩, fun hbusy => ⟨rfl, fun hzero => hfree ⟨hzero, hbusy⟩⟩⟩
    have hnext := hconsumed hconsumes
    obtain ⟨image, hruns⟩ := h.core.running hcaptured
    have hcases := consume_cases w.controller false
    generalize w.controller.consumeLatestRtTrajectory false = consumed at hcases hnext
    obtain ⟨hcore, -, hrunning, image', hruns', -⟩ :=
      runs_of_consumption h.core hruns hcaptured hcases
    have hupdate := hnext.of_same
      ((hruns'.sameSession_updateRunning input.periodNs nowNs).continues fun _ => hrunning)
    cases hcases with
    | unchanged => exact hupdate
    | invalid => exact hnext.of_same (continues_beginRtStop (.inr hrunning) hcore.stopChecker)
    | accepted => exact hupdate
  | stopping => exact activeFrom_of_continues (continues_advanceRtStop hcaptured input.periodNs)
  | none => exact hsame
  | holding => exact hsame
  | terminated => exact hsame

theorem Sound.activeFrom_stepTick (h : w.Sound) {input : TickInput} {pc : TickPc}
    (htick : w.tick = some (input, pc)) (nowNs : ℕ) :
    w.ActiveFrom (.realtime nowNs) (w.stepTick input nowNs pc).controller := by
  have hsame : Continues w.controller w.controller := fun hrunning => ⟨hrunning, rfl, rfl⟩
  have hpc := h.tick input pc htick
  have hchange := tickChange_stepTick w input nowNs pc
  generalize w.stepTick input nowNs pc = next at hchange
  cases hchange with
  | same => exact activeFrom_of_continues hsame
  | reset hreset =>
    refine activeFrom_of_continues fun hrunning => ?_
    obtain ⟨-, -, hstep, -⟩ := h.resetRtEpoch hpc.1 hpc.2 hreset
    exact absurd (.inl hrunning) (hstep.still hpc.2)
  | body state =>
    refine (h.activeFrom_updateBody htick nowNs).of_same (finishTick_continues ?_)
    exact fun hrunning => ⟨hrunning, rfl, rfl⟩
  | stop =>
    exact activeFrom_of_continues (finishTick_continues (continues_beginRtStop
      (hpc.imp_left And.left) h.core.stopChecker))
  | write => exact activeFrom_of_continues (finishTick_continues hsame)

theorem Sound.activeFrom_step (h : w.Sound) (label : Label K) :
    w.ActiveFrom label (w.step label).controller := by
  have hsame : Continues w.controller w.controller := fun hrunning => ⟨hrunning, rfl, rfl⟩
  have hchange := worldChange_step w label
  generalize w.step label = next at hchange
  cases hchange with
  | same | observed | delivered => exact activeFrom_of_continues hsame
  | realtime htick => exact h.activeFrom_stepTick htick _
  | batch hsession hbatch =>
    exact activeFrom_of_continues (h.continues_of_batchChange hsession hbatch)

theorem Sound.executesOwnSession (h : w.Sound) (hstart : w.controller.rtSessionState ≠ .running)
    (labels : List (Label K)) : w.ExecutesOwnSession labels := by
  induction labels using List.reverseRecOn with
  | nil => exact fun image hrunning => absurd hrunning hstart
  | append_singleton labels label ih =>
    intro image hrunning hactive
    rw [run_snoc] at hrunning hactive ⊢
    rcases (h.run labels).activeFrom_step label image hrunning hactive with
      hacquires | ⟨hbefore, hsame, hepoch⟩
    · exact ⟨labels, label, [], rfl, hacquires⟩
    · obtain ⟨before, label', after, rfl, hacquires⟩ := ih image hbefore hsame
      refine ⟨before, label', after ++ [label], by simp, ?_⟩
      rw [hepoch]
      exact hacquires

omit [FloorSemiring K] [IsStrictOrderedRing K] in
theorem Sound.keepsSessionsApart_iff (h : w.Sound) (label : Label K) :
    w.KeepsSessionsApart label ↔ w.EpochIsCurrent label := by
  constructor
  · rintro ⟨-, hkept⟩ hconsumes snapshot hcurrent
    obtain ⟨input, htick⟩ := hconsumes.2.1
    have hprimed := h.core.primed (h.tick _ _ htick).1
    exact (hkept true snapshot hconsumes hcurrent).2.symm.trans (hprimed.unread snapshot hcurrent).1
  · intro hepoch
    refine ⟨fun priming taken hconsumes haccepted => ?_, fun priming snapshot hconsumes hcurrent => ?_⟩
    · obtain ⟨snapshot, hunread, hactive, -, hrest⟩ := h.accepted_current hconsumes.2.1 haccepted
      exact ⟨snapshot, hunread, hactive, hrest⟩
    · obtain ⟨input, htick⟩ := hconsumes.2.1
      obtain ⟨hcaptured, hreset⟩ := h.tick _ _ htick
      cases priming with
      | true =>
        have hobserved := hepoch hconsumes snapshot hcurrent
        have hsnapshot := ((h.core.primed hcaptured).unread snapshot hcurrent).1
        obtain ⟨hfloor, hlast, -⟩ := hreset rfl
        exact ⟨⟨hfloor.le.trans hcurrent.2, hlast.trans_le hcurrent.2⟩,
          hsnapshot.trans hobserved.symm⟩
      | false =>
        obtain ⟨image, hruns⟩ := h.core.running hcaptured
        have hsuccessor := hruns.unread snapshot hcurrent
        exact ⟨⟨hruns.floor.le.trans hcurrent.2, hsuccessor.consumed⟩,
          hsuccessor.epoch.trans hruns.epoch.symm⟩

theorem sessions_apart (configuration : RuntimeConfiguration K) (sourceCommands : Axis → K)
    (actualPositions : Axis → Option K) (feedbackAgeMs : Option K)
    (activationEpoch publicationSequence : ℕ) (unread : Option (RollingSnapshot K))
    (hunread : ∀ snapshot ∈ unread, snapshot.publicationSequence ≤ publicationSequence)
    (labels : List (Label K)) :
    (Along step KeepsSessionsApart (activated configuration sourceCommands actualPositions
        feedbackAgeMs activationEpoch publicationSequence unread) labels ↔
      Along step EpochIsCurrent (activated configuration sourceCommands actualPositions
        feedbackAgeMs activationEpoch publicationSequence unread) labels) ∧
    ExecutesOwnSession (activated configuration sourceCommands actualPositions feedbackAgeMs
      activationEpoch publicationSequence unread) labels := by
  have hsound := Sound.activated configuration sourceCommands actualPositions feedbackAgeMs
    activationEpoch hunread
  have hstep : ∀ (w : World K) (label : Label K), w.Sound → (w.step label).Sound :=
    fun _ label h => h.step label
  refine ⟨⟨fun hapart => ?_, fun hcurrent => ?_⟩,
    hsound.executesOwnSession SessionState.noConfusion labels⟩
  · exact hapart.of_invariant (fun w label h _ => hstep w label h)
      (fun w label h => (h.keepsSessionsApart_iff label).1) hsound
  · exact hcurrent.of_invariant (fun w label h _ => hstep w label h)
      (fun w label h => (h.keepsSessionsApart_iff label).2) hsound

end World

namespace Standstill

/-- A batch with one point opens a session and is refused. -/
def refused : List (Label ℚ) :=
  batch { message 1 (10 ^ 9) 0 with points := [⟨stamp 0, zeros, zeros⟩] } (99 * 10 ^ 7) 12

/-- The second batch restarts the session while a tick stands between its epoch and the gate. -/
def restart : List (Label ℚ) :=
  refused ++ tick (10 ^ 9) 6 ++ batch (message 2 (102 * 10 ^ 7) (10 ^ 9)) (10 ^ 9) 15

theorem executes_own :
    (run World.step initial (replacing ++ [.realtime (104 * 10 ^ 7)])).controller.activeGeneration =
      2 ∧
    Along World.step World.KeepsSessionsApart initial (replacing ++ [.realtime (104 * 10 ^ 7)]) ∧
    World.ExecutesOwnSession initial (replacing ++ [.realtime (104 * 10 ^ 7)]) := by
  have happly := World.sessions_apart configuration (fun _ => 0) (fun _ => some 0) (some 0) 1 0 none
    nofun (replacing ++ [.realtime (104 * 10 ^ 7)])
  exact ⟨by decide +kernel, happly.1.2 (by decide +kernel), happly.2⟩

theorem restart_discards :
    ¬Along World.step World.KeepsSessionsApart initial (restart ++ [.realtime (10 ^ 9)]) ∧
    (run World.step initial (restart ++ [.realtime (10 ^ 9)])).results =
      [(2, .accepted), (1, .invalidBatch)] ∧
    (run World.step initial (restart ++ [.realtime (10 ^ 9)])).controller.stopReason =
      .internalInvariant := by
  refine ⟨fun hapart => ?_, by decide +kernel, by decide +kernel⟩
  have hlast := ((along_append _ _ _).1 hapart).2.1
  have htick : (run World.step initial restart).tick = some (⟨10 ^ 9, 10 ^ 7⟩, .body .priming) ∧
      (run World.step initial restart).session.isSome = false := by
    decide +kernel
  have hunread : ((run World.step initial restart).controller.unread.map fun snapshot =>
      (snapshot.sessionEpoch, snapshot.publicationSequence)) = some (2, 1) ∧
      (run World.step initial restart).controller.sessionPublicationFloor = 1 ∧
      (run World.step initial restart).controller.rtObservedSessionEpoch = 1 := by
    decide +kernel
  obtain ⟨hmap, hfloor, hobserved⟩ := hunread
  obtain ⟨snapshot, hsnapshot, heq⟩ := Option.map_eq_some_iff.1 hmap
  obtain ⟨hepoch, hsequence⟩ := Prod.mk.inj heq
  have hkept := hlast.kept true snapshot ⟨⟨_, rfl⟩, ⟨_, htick.1⟩, fun hbusy => by
    rw [htick.2] at hbusy
    cases hbusy⟩ ⟨hsnapshot, (hfloor.trans hsequence.symm).le⟩
  rw [hobserved, hepoch] at hkept
  exact absurd hkept.2 (by decide)

end Standstill

end RobotDriver.Rolling
