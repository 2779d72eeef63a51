import RobotDriver.Rolling.Invariant

/-!
# Ticks keep the invariant

Each step of a tick keeps what holds of the controller and changes only what `handleBatch` allows.
-/

namespace RobotDriver.Rolling

variable {K : Type*} [Field K] [LinearOrder K]

section Facts

theorem lookup_last {points : List (JointPoint K)} (hincreasing : Increasing points)
    {last : JointPoint K} (hlast : last ∈ points.getLast?) :
    lookup last.timeNs points = some last := by
  induction points with
  | nil => cases hlast
  | cons current points ih =>
    cases points with
    | nil =>
      obtain rfl : current = last := Option.some.inj hlast
      rw [lookup_singleton, if_pos rfl]
    | cons next rest =>
      rw [List.getLast?_cons_cons] at hlast
      have hmem := List.mem_of_getLast? hlast
      have hle : next.timeNs ≤ last.timeNs := by
        rcases List.mem_cons.1 hmem with rfl | hmem
        · exact le_rfl
        · exact (List.rel_of_pairwise_cons hincreasing.of_cons hmem).le
      rw [lookup_of_next_le hle]
      exact ih hincreasing.of_cons hlast

theorem stopSeconds_rest [IsStrictOrderedRing K] (checker : LimitChecker K) :
    checker.stopSeconds (fun _ => 0) = 0 := by
  refine le_antisymm (stopSeconds_le (fun axis => ?_) le_rfl) stopSeconds_nonneg
  rw [abs_zero, zero_div]

theorem sample_rest {stop stop' : StopTrajectory K} {elapsedNs : ℕ} {sampled : JointPoint K}
    (h : stop.sample elapsedNs = some (sampled, stop')) (hstate : stop'.state = .holding) :
    sampled.velocities = fun _ => 0 := by
  unfold StopTrajectory.sample at h
  split at h
  · cases h
  split at h
  · cases h
  split at h
  · cases h
    rfl
  · rename_i hcompleted
    cases h
    exact absurd (Or.inl hstate) hcompleted

end Facts

section Steps

variable {c c' c'' : RollingTrajectoryController K}

theorem RtStep.refl (c : RollingTrajectoryController K) : RtStep c c where
  configuration := rfl
  buffer := rfl
  publication := rfl
  epoch := rfl
  floor := rfl
  still h := h
  desired _ := rfl
  execution _ h := h
  generation _ h := h
  request h := h
  reset _ _ h := h
  priming h := ⟨h, rfl⟩
  running h := ⟨h, le_rfl⟩
  active _ h := h
  unpublished _ h := h

theorem RtStep.trans (h : RtStep c c') (h' : RtStep c' c'') : RtStep c c'' where
  configuration := h'.configuration.trans h.configuration
  buffer := h'.buffer.trans h.buffer
  publication := h'.publication.trans h.publication
  epoch := h'.epoch.trans h.epoch
  floor := h'.floor.trans h.floor
  still hstill := h'.still (h.still hstill)
  desired hstill := (h'.desired (h.still hstill)).trans (h.desired hstill)
  execution hstill hzero := h'.execution (h.still hstill) (h.execution hstill hzero)
  generation hstill hzero := h'.generation (h.still hstill) (h.generation hstill hzero)
  request hrequest := h'.request (h.request hrequest)
  reset hstill himage hreset := by
    refine h'.reset (h.still hstill) ?_ (h.reset hstill himage hreset)
    rw [h.buffer]
    exact himage
  priming hstate := by
    obtain ⟨hmiddle, heq'⟩ := h'.priming hstate
    obtain ⟨hbefore, heq⟩ := h.priming hmiddle
    exact ⟨hbefore, heq'.trans heq⟩
  running hstate := by
    obtain ⟨hmiddle, hle'⟩ := h'.running hstate
    obtain ⟨hbefore, hle⟩ := h.running hmiddle
    exact ⟨hbefore, hle.trans hle'⟩
  active hstate hactive := by
    have hmiddle := (h'.running hstate).1
    have hstep := h'.active hstate
    rw [h.buffer] at hstep
    exact hstep (h.active hmiddle hactive)
  unpublished hstate hunpublished :=
    h'.unpublished hstate (h.unpublished (h'.running hstate).1 hunpublished)

theorem RtStep.of_moving (hmoving : c.Moving) (hconfiguration : c'.configuration = c.configuration)
    (hbuffer : c'.buffer = c.buffer) (hpublication : c'.publicationSequence = c.publicationSequence)
    (hepoch : c'.sessionEpoch = c.sessionEpoch)
    (hfloor : c'.sessionPublicationFloor = c.sessionPublicationFloor)
    (hrequest : c.stopRequested = false → c'.stopRequested = false)
    (hpriming : c'.rtSessionState ≠ .priming)
    (hrunning : c'.rtSessionState = .running → c.rtSessionState = .running ∧
      c.executionTimeNs ≤ c'.executionTimeNs ∧
      (c.rtActiveTrajectory = some c.buffer.image →
        c'.rtActiveTrajectory = some c.buffer.image) ∧ (Unpublished c → Unpublished c')) :
    RtStep c c' where
  configuration := hconfiguration
  buffer := hbuffer
  publication := hpublication
  epoch := hepoch
  floor := hfloor
  still h := absurd hmoving h
  desired h := absurd hmoving h
  execution h := absurd hmoving h
  generation h := absurd hmoving h
  request := hrequest
  reset h := absurd hmoving h
  priming h := absurd h hpriming
  running h := ⟨(hrunning h).1, (hrunning h).2.1⟩
  active h := (hrunning h).2.2.1
  unpublished h := (hrunning h).2.2.2

theorem RtStep.discard (c : RollingTrajectoryController K) :
    RtStep c { c with unread := none } :=
  { RtStep.refl c with
    reset := fun _ _ h hepoch => { h hepoch with }
    unpublished := fun _ h => { h with unread := fun _ _ hcurrent => nomatch hcurrent.1 } }

end Steps

namespace RollingTrajectoryController

variable {c c' : RollingTrajectoryController K}

theorem not_moving_of_priming (h : c.rtSessionState = .priming) : ¬c.Moving := by
  rintro (hmoving | hmoving) <;> rw [h] at hmoving <;> cases hmoving

section Core

variable [SquareRoot K]

theorem Core.epoch_of_moving (h : c.Core) (hmoving : c.Moving) :
    c.rtObservedSessionEpoch = c.sessionEpoch := by
  rcases hmoving with hrunning | hstopping
  · obtain ⟨image, hruns⟩ := h.running hrunning
    exact hruns.epoch
  · exact h.stopping hstopping

theorem Core.recordStopReason (h : c.Core) (reason : StopReason) :
    (c.recordStopReason reason).Core := by
  refine { h with
    primed := fun hstate => { h.primed hstate with
      reset := fun hepoch => { (h.primed hstate).reset hepoch with } }
    running := fun hstate => ?_ }
  obtain ⟨image, hruns⟩ := h.running hstate
  refine ⟨image, { hruns with
    boundary := hruns.boundary.imp_right fun hoverflow => ⟨hoverflow.1, ?_⟩
    unread := fun snapshot hcurrent => { hruns.unread snapshot hcurrent with } }⟩
  change (if c.stopReason = .none then reason else c.stopReason) ≠ .none
  rw [if_neg hoverflow.2]
  exact hoverflow.2

theorem Core.discard (h : c.Core) : { c with unread := none }.Core := by
  refine { h with
    unread := nofun
    primed := fun hstate => { h.primed hstate with
      reset := fun hepoch => { (h.primed hstate).reset hepoch with }
      unread := fun _ hcurrent => nomatch hcurrent.1 }
    running := fun hstate => ?_ }
  obtain ⟨image, hruns⟩ := h.running hstate
  exact ⟨image, { hruns with unread := fun _ hcurrent => nomatch hcurrent.1 }⟩

/-- The words that no state relies on may change freely. -/
theorem Core.frame (h : c.Core) (hbuffer : c'.buffer = c.buffer)
    (hconfiguration : c'.configuration = c.configuration)
    (hstop : c'.rtStopTrajectory.limitChecker = c.configuration.limitChecker)
    (hobserved : c'.rtObservedSessionEpoch = c.rtObservedSessionEpoch)
    (hepoch : c'.sessionEpoch = c.sessionEpoch)
    (hfloor : c'.sessionPublicationFloor = c.sessionPublicationFloor)
    (hpublication : c'.publicationSequence = c.publicationSequence)
    (hconsumed : c'.rtConsumedPublicationSequence ≤ c.publicationSequence)
    (hunread : c'.unread = c.unread ∨ c'.unread = none)
    (halive : c'.rtSessionState ≠ .terminated)
    (hprimed : c'.rtSessionState = .priming → c'.Primed)
    (hrunning : c'.rtSessionState = .running → ∃ image, c'.Runs image)
    (hstopping : c'.rtSessionState = .stopping → c.rtObservedSessionEpoch = c.sessionEpoch) :
    c'.Core where
  limitChecker := by
    rw [hbuffer, hconfiguration]
    exact h.limitChecker
  stopChecker := by rw [hstop, hconfiguration]
  buffer := by
    rw [hbuffer]
    exact h.buffer
  anchor := by
    rw [hbuffer]
    exact h.anchor
  image := by
    rw [hbuffer, hconfiguration]
    exact h.image
  epoch := by
    rw [hobserved, hepoch]
    exact h.epoch
  floor_pos := by
    rw [hfloor]
    exact h.floor_pos
  floor_le := by
    rw [hfloor, hpublication]
    exact h.floor_le
  consumed := by
    rw [hpublication]
    exact hconsumed
  unread := by
    rw [hpublication]
    rcases hunread with hunread | hunread <;> rw [hunread]
    · exact h.unread
    · exact nofun
  alive := halive
  primed := hprimed
  running := hrunning
  stopping hstate := by
    rw [hobserved, hepoch]
    exact hstopping hstate

end Core

/-- What a tick leaves before it writes. -/
structure Settles [SquareRoot K] (c : RollingTrajectoryController K) (busy : Bool)
    (updated : RollingTrajectoryController K × Bool) : Prop where
  core : updated.1.Core
  step : busy = true → RtStep c updated.1
  written : updated.1.Still ∨ c.Moving ∧ updated.2 = true ∧
    updated.1.rtSessionState = .holding ∧ updated.1.desiredIsValid updated.1.rtDesired = true ∧
      updated.1.rtDesired.velocities = fun _ => 0

theorem recordStopReason_step (c : RollingTrajectoryController K) (reason : StopReason) :
    RtStep c (c.recordStopReason reason) where
  configuration := rfl
  buffer := rfl
  publication := rfl
  epoch := rfl
  floor := rfl
  still h := h
  desired _ := rfl
  execution _ h := h
  generation _ h := h
  request h := h
  reset _ _ h hepoch := { h hepoch with }
  priming h := ⟨h, rfl⟩
  running h := ⟨h, le_rfl⟩
  active _ h := h
  unpublished _ h := { h with }

section Stop

variable [SquareRoot K] [FloorSemiring K] [IsStrictOrderedRing K]

theorem settles_beginRtStop {reason : StopReason} {busy : Bool}
    (hcore : (c.recordStopReason reason).Core)
    (hstate : c.rtSessionState = .priming ∧ (busy = true → c.buffer.image.points ≠ []) ∨
      c.rtSessionState = .running ∧ c.desiredIsValid c.rtDesired = true)
    (hstill : c.Still) : Settles c busy (c.beginRtStop reason) := by
  have hstate' : c.rtSessionState = .priming ∨ c.rtSessionState = .running :=
    hstate.imp And.left And.left
  have hchecker : c.rtStopTrajectory.limitChecker = c.configuration.limitChecker :=
    hcore.stopChecker
  have hcases := beginRtStop_cases reason hstate' hchecker
  generalize c.beginRtStop reason = updated at hcases
  cases hcases with
  | refused => exact ⟨hcore, fun _ => recordStopReason_step c reason, .inl hstill⟩
  | rests rest checker =>
    rename_i stop
    have hholding : { c.recordStopReason reason with
        rtStopTrajectory := stop
        rtStopElapsedNs := 0
        stopRequested := false
        rtSessionState := .holding }.Core :=
      hcore.frame rfl rfl (checker.trans hchecker) rfl rfl rfl rfl hcore.consumed (.inl rfl)
        SessionState.noConfusion nofun nofun nofun
    rcases hstate with ⟨hpriming, himage⟩ | ⟨hrunning, hvalid⟩
    · have hnotMoving := not_moving_of_priming hpriming
      refine ⟨hholding, fun hbusy => ?_, .inl fun _ => hstill hnotMoving⟩
      exact
        { configuration := rfl
          buffer := rfl
          publication := rfl
          epoch := rfl
          floor := rfl
          still := fun _ h => by rcases h with h | h <;> cases h
          desired := fun _ => rfl
          execution := fun _ h => h
          generation := fun _ h => h
          request := fun _ => rfl
          reset := fun _ hempty => absurd hempty (himage hbusy)
          priming := nofun
          running := nofun
          active := nofun
          unpublished := nofun }
    · refine ⟨hholding, fun _ => ?_, .inr ⟨.inl hrunning, rfl, rfl, hvalid, rest⟩⟩
      exact RtStep.of_moving (.inl hrunning) rfl rfl rfl rfl rfl (fun _ => rfl)
        SessionState.noConfusion nofun
  | stops begins moving =>
    rename_i stop
    rcases hstate with ⟨hpriming, -⟩ | ⟨hrunning, -⟩
    · have hnotMoving := not_moving_of_priming hpriming
      rw [(hstill hnotMoving).2] at moving
      exact absurd (stopSeconds_rest _) moving
    · obtain ⟨image, hruns⟩ := hcore.running hrunning
      refine ⟨?_, fun _ => ?_, .inl fun h => absurd (.inr rfl) h⟩
      · exact hcore.frame rfl rfl (begins.brakes.limitChecker.trans hchecker) rfl rfl rfl rfl
          hcore.consumed (.inl rfl) SessionState.noConfusion nofun
          nofun fun _ => hruns.epoch
      · exact RtStep.of_moving (.inl hrunning) rfl rfl rfl rfl rfl (fun _ => rfl)
          SessionState.noConfusion nofun

end Stop

section Consume

variable [SquareRoot K]

theorem Takes.runs {priming : Bool} {snapshot : RollingSnapshot K}
    {taken : RollingTrajectoryController K} {desired : JointPoint K}
    {cursor : MonotonicTrajectoryCursor} {boundaryNs : ℕ}
    (h : Takes c priming snapshot taken desired cursor boundaryNs) (hunread : c.unread = none)
    (hsound : SoundImage c.configuration.limitChecker snapshot.trajectory)
    (hepoch : c.rtObservedSessionEpoch = c.sessionEpoch)
    (hfloor : c.rtPublicationFloor = c.sessionPublicationFloor)
    (hfresh : c.Fresh snapshot)
    (hstop : c.rtStopTrajectory = { limitChecker := c.configuration.limitChecker })
    (hnonempty : c.buffer.image.points ≠ []) (hstarts : c.buffer.image.Starts c.executionTimeNs)
    (hlinked : Linked snapshot.trajectory c.buffer.image) : taken.Runs snapshot.trajectory := by
  have hincreasing := hsound.points.increasing
  have hcursor : ({} : MonotonicTrajectoryCursor).generation = snapshot.trajectory.generation →
      ({} : MonotonicTrajectoryCursor).Fits snapshot.trajectory :=
    fun heq => absurd heq hsound.generation.ne
  have hsample := sampleTrajectoryImageMonotonic_eq c.executionTimeNs hincreasing
    hcursor
  rw [h.sample] at hsample
  rw [h.eq_taken]
  exact
    { active := rfl
      sound := hsound
      generation := rfl
      cursor := fits_of_sample hincreasing hcursor h.sample
      desired := hsample.symm
      valid := h.valid
      buffered := fun last hlast => by
        change snapshot.trajectory.points.getLast?.elim 0 (·.timeNs) = last.timeNs
        rw [Option.mem_def.1 hlast]
        rfl
      boundary := .inl ⟨addTime_some h.boundary,
        addTime_le h.boundary c.configuration.replaceLeadNs_pos⟩
      epoch := hepoch
      floor := hfloor
      consumed := hfloor.symm.le.trans hfresh.1
      stop := hstop
      nonempty := hnonempty
      starts := hstarts
      linked := hlinked
      unread := fun other hcurrent => by
        have hother := hcurrent.1
        change c.unread = some other at hother
        rw [hunread] at hother
        cases hother }

theorem Settles.of_step {busy : Bool} {updated : RollingTrajectoryController K × Bool}
    (h : Settles c' busy updated) (hstep : RtStep c c') (hmoving : c'.Moving → c.Moving) :
    Settles c busy updated where
  core := h.core
  step hbusy := hstep.trans (h.step hbusy)
  written := h.written.imp_right fun hwritten => ⟨hmoving hwritten.1, hwritten.2⟩

theorem Settles.refl (busy : Bool) (hcore : c.Core) (hstill : c.Still) :
    Settles c busy (c, true) :=
  ⟨hcore, fun _ => RtStep.refl c, .inl hstill⟩

theorem runs_of_consumption {image : TrajectoryImage K} (hcore : c.Core) (hruns : c.Runs image)
    (hrunning : c.rtSessionState = .running)
    {consumed : RollingTrajectoryController K × SnapshotConsumeResult}
    (h : Consumption c false consumed) :
    consumed.1.Core ∧ RtStep c consumed.1 ∧ consumed.1.rtSessionState = .running ∧
      ∃ image', consumed.1.Runs image' ∧ consumed.1.unread = none := by
  have hdiscard : { c with unread := none }.Runs image :=
    { hruns with unread := fun _ hcurrent => nomatch hcurrent.1 }
  cases h with
  | unchanged | invalid => exact ⟨hcore.discard, RtStep.discard c, hrunning, image, hdiscard, rfl⟩
  | accepted hunread hfresh htakes =>
    rename_i snapshot taken desired cursor boundaryNs
    have hcurrent : c.Current snapshot := ⟨hunread, hruns.floor.symm.le.trans hfresh.1⟩
    have hsuccessor := hruns.unread snapshot hcurrent
    have htaken : taken.Runs snapshot.trajectory :=
      htakes.runs rfl hsuccessor.sound hruns.epoch hruns.floor hfresh hruns.stop hruns.nonempty
        hruns.starts hsuccessor.latest
    have hgeneration : ∀ {latest}, c.buffer.image = latest → image ≠ latest := by
      rintro latest rfl rfl
      have hlt := hsuccessor.generation
      have hle := hsuccessor.latest.le
      omega
    have hlast : snapshot.publicationSequence ≤ c.publicationSequence :=
      hcore.unread snapshot hunread
    obtain rfl := htakes.eq_taken
    refine ⟨?_, ?_, hrunning, snapshot.trajectory, htaken, rfl⟩
    · exact hcore.frame rfl rfl hcore.stopChecker rfl rfl rfl rfl hlast (.inr rfl)
        (fun h => hcore.alive h) (fun h => by rw [hrunning] at h; cases h)
        (fun _ => ⟨_, htaken⟩) fun _ => hruns.epoch
    · refine RtStep.of_moving (.inl hrunning) rfl rfl rfl rfl rfl (fun h => h) ?_ fun _ =>
        ⟨hrunning, le_rfl, fun hactive => ?_, fun h => ?_⟩
      · rw [hrunning]
        exact SessionState.noConfusion
      · rw [hruns.active] at hactive
        exact absurd (Option.some.inj hactive) (hgeneration rfl)
      · exact { h with
          active := fun hstate => h.unread hstate snapshot hcurrent
          unread := fun _ _ hother => nomatch hother.1 }

end Consume

section Update

variable [SquareRoot K] [FloorSemiring K] [IsStrictOrderedRing K]

omit [FloorSemiring K] [IsStrictOrderedRing K] in
theorem Runs.advance {image : TrajectoryImage K} (h : c.Runs image) (hunread : c.unread = none)
    {candidate : JointPoint K} {cursor : MonotonicTrajectoryCursor} {timeNs boundaryNs : ℕ}
    {reason : StopReason} (hadvances : Advances c image timeNs candidate cursor)
    (htime : c.executionTimeNs ≤ timeNs)
    (hboundary : boundaryNs = timeNs + c.configuration.replaceLeadNs ∧
        timeNs + c.configuration.replaceLeadNs ≤ maxUint64 ∨
      maxUint64 < timeNs + c.configuration.replaceLeadNs ∧ reason ≠ .none) :
    { c with
      rtSamplingCursor := cursor
      rtDesired := candidate
      executionTimeNs := timeNs
      replaceableFromNs := boundaryNs
      stopReason := reason }.Runs image :=
  { h with
    cursor := hadvances.fits
    desired := hadvances.sample
    valid := hadvances.valid
    boundary := hboundary
    starts := h.starts.mono htime
    unread := fun _ hcurrent => nomatch hunread.symm.trans hcurrent.1 }

omit [FloorSemiring K] [IsStrictOrderedRing K] in
theorem Runs.last_isSome {image : TrajectoryImage K} (h : c.Runs image) :
    ∃ last ∈ image.points.getLast?, c.bufferedUntilNs = last.timeNs := by
  cases hlast : image.points.getLast? with
  | none =>
    have hlength := h.sound.points.two_le
    rw [List.getLast?_eq_none_iff] at hlast
    rw [hlast] at hlength
    cases hlength
  | some last => exact ⟨last, rfl, h.buffered last hlast⟩

omit [FloorSemiring K] [IsStrictOrderedRing K] in
theorem Runs.rest_of_final {image : TrajectoryImage K} (h : c.Runs image)
    (hfinal : image.final = true) {candidate : JointPoint K}
    (hsample : sampleTrajectoryImage image c.bufferedUntilNs = some candidate) :
    candidate.velocities = fun _ => 0 := by
  obtain ⟨last, hlast, hbuffered⟩ := h.last_isSome
  rw [hbuffered, sampleTrajectoryImage_eq, lookup_last h.sound.points.increasing hlast] at hsample
  split at hsample
  · obtain rfl := Option.some.inj hsample
    exact funext (h.sound.rest hfinal last hlast)
  · cases hsample

theorem settles_updateRunning {image : TrajectoryImage K} (hcore : c.Core) (hruns : c.Runs image)
    (hrunning : c.rtSessionState = .running) (hunread : c.unread = none) (busy : Bool)
    (periodNs : ℤ) (nowNs : ℕ) : Settles c busy (c.updateRunning periodNs nowNs) := by
  have hmoving : c.Moving := .inl hrunning
  have hcases := updateRunning_cases periodNs nowNs hruns.active
    hruns.sound.points.increasing hruns.cursor
  have hcore' : ∀ {c' : RollingTrajectoryController K}, c'.Runs image → c'.buffer = c.buffer →
      c'.configuration = c.configuration → c'.sessionEpoch = c.sessionEpoch →
      c'.rtObservedSessionEpoch = c.rtObservedSessionEpoch →
      c'.sessionPublicationFloor = c.sessionPublicationFloor →
      c'.publicationSequence = c.publicationSequence →
      c'.rtConsumedPublicationSequence = c.rtConsumedPublicationSequence →
      c'.unread = c.unread → c'.rtSessionState = c.rtSessionState → c'.Core := by
    intro c' hruns' hbuffer hconfiguration hepoch hobserved hfloor hpublication hconsumed hsame
      hstate
    rw [hrunning] at hstate
    refine hcore.frame hbuffer hconfiguration ?_ hobserved hepoch hfloor hpublication ?_
      (.inl hsame) ?_ ?_ (fun _ => ⟨image, hruns'⟩) fun _ => hruns.epoch
    · rw [hruns'.stop, hconfiguration]
    · rw [hconsumed]
      exact hcore.consumed
    · rw [hstate]
      exact SessionState.noConfusion
    · intro hpriming
      rw [hstate] at hpriming
      cases hpriming
  generalize c.updateRunning periodNs nowNs = updated at hcases
  cases hcases with
  | stop fits reason clock =>
    rename_i cursor
    have hkept : ({ c with rtSamplingCursor := cursor }.recordStopReason reason).Runs image :=
      { hruns with
        cursor := fits
        boundary := hruns.boundary.imp_right fun hoverflow => ⟨hoverflow.1, by
          change (if c.stopReason = .none then reason else c.stopReason) ≠ .none
          rw [if_neg hoverflow.2]
          exact hoverflow.2⟩
        unread := fun snapshot hcurrent => { hruns.unread snapshot hcurrent with } }
    refine (settles_beginRtStop (hcore' hkept rfl rfl rfl rfl rfl rfl rfl rfl rfl)
      (.inr ⟨hrunning, hruns.valid⟩) fun h => absurd hmoving h).of_step ?_ fun _ => hmoving
    exact { RtStep.refl c with
      reset := fun h => absurd hmoving h
      unpublished := fun _ h => { h with } }
  | advance advances boundary =>
    rename_i candidate cursor boundaryNs
    have hruns' : { c with
        rtSamplingCursor := cursor
        rtDesired := candidate
        executionTimeNs := c.executionTimeNs + periodNs.toNat
        replaceableFromNs := boundaryNs }.Runs image :=
      hruns.advance hunread advances (Nat.le_add_right _ _)
        (.inl ⟨addTime_some boundary, addTime_le boundary c.configuration.replaceLeadNs_pos⟩)
    refine ⟨hcore' hruns' rfl rfl rfl rfl rfl rfl rfl rfl rfl, fun _ => ?_,
      .inl fun h => absurd hmoving h⟩
    exact { RtStep.refl c with
      execution := fun h => absurd hmoving h
      priming := fun h => by
        rw [hrunning] at h
        cases h
      running := fun h => ⟨h, Nat.le_add_right _ _⟩
      reset := fun h => absurd hmoving h
      unpublished := fun _ h => { h with } }
  | overflow advances boundary =>
    rename_i candidate cursor
    have hoverflow : maxUint64 < c.executionTimeNs + periodNs.toNat +
        c.configuration.replaceLeadNs := by
      unfold addTime at boundary
      split at boundary
      · omega
      · cases boundary
    have hreason : (if c.stopReason = .none then StopReason.internalInvariant
        else c.stopReason) ≠ .none := by
      split
      · exact StopReason.noConfusion
      · assumption
    let advanced := { c with
      rtSamplingCursor := cursor
      rtDesired := candidate
      executionTimeNs := c.executionTimeNs + periodNs.toNat }
    have hruns' : (advanced.recordStopReason .internalInvariant).Runs image :=
      hruns.advance hunread advances (Nat.le_add_right _ _) (.inr ⟨hoverflow, hreason⟩)
    have hbegins : Settles advanced busy (advanced.beginRtStop .internalInvariant) :=
      settles_beginRtStop (hcore' hruns' rfl rfl rfl rfl rfl rfl rfl rfl rfl)
        (.inr ⟨hrunning, advances.valid⟩) fun h => absurd (.inl hrunning) h
    refine hbegins.of_step ?_ fun _ => hmoving
    exact { RtStep.refl c with
      execution := fun h => absurd hmoving h
      priming := fun h => by
        rw [hrunning] at h
        cases h
      running := fun h => ⟨h, Nat.le_add_right _ _⟩
      reset := fun h => absurd hmoving h
      unpublished := fun _ h => { h with } }
  | complete final le advances =>
    rename_i candidate cursor
    have hrest := hruns.rest_of_final final advances.sample
    refine ⟨?_, fun _ => ?_, .inr ⟨hmoving, rfl, rfl, advances.valid, hrest⟩⟩
    · exact hcore.frame rfl rfl hcore.stopChecker rfl rfl rfl rfl hcore.consumed (.inl rfl)
        SessionState.noConfusion nofun nofun nofun
    · exact RtStep.of_moving hmoving rfl rfl rfl rfl rfl (fun h => h) SessionState.noConfusion
        nofun

omit [FloorSemiring K] [IsStrictOrderedRing K] in
theorem runs_of_priming {snapshot : RollingSnapshot K} {taken : RollingTrajectoryController K}
    {desired : JointPoint K} {cursor : MonotonicTrajectoryCursor} {boundaryNs : ℕ}
    (hcore : c.Core) (hpriming : c.rtSessionState = .priming) (hreset : c.RtReset)
    (hunread : c.unread = some snapshot) (hfresh : c.Fresh snapshot)
    (htakes : Takes { c with unread := none } true snapshot taken desired cursor boundaryNs) :
    taken.Runs snapshot.trajectory := by
  have hprimed := hcore.primed hpriming
  have hfloor : c.sessionPublicationFloor ≤ snapshot.publicationSequence :=
    hreset.floor.symm.le.trans hfresh.1
  obtain ⟨hepoch, hsound, -, -, hlinked⟩ := hprimed.unread snapshot ⟨hunread, hfloor⟩
  have hnonempty : c.buffer.image.points ≠ [] := by
    intro hempty
    have hle := hcore.unread snapshot hunread
    have hlast := hprimed.empty hempty
    omega
  have hstarts : c.buffer.image.Starts c.executionTimeNs := by
    rw [hprimed.execution]
    exact (hprimed.anchored hnonempty).2
  exact htakes.runs rfl hsound (htakes.epoch.symm.trans hepoch) hreset.floor hfresh hreset.stop
    hnonempty hstarts hlinked

omit [FloorSemiring K] [IsStrictOrderedRing K] in
theorem settles_rest {busy : Bool} (hcore : c.Core) (hstill : c.Still) (hmoving : ¬c.Moving) :
    Settles c busy ({ c with rtDesired.velocities := fun _ => 0 }, true) where
  core := { hcore with
    primed := fun h => { hcore.primed h with
      reset := fun hepoch => { (hcore.primed h).reset hepoch with } }
    running := fun h => absurd (.inl h) hmoving }
  step _ := { RtStep.refl c with
    reset := fun _ _ h hepoch => { h hepoch with }
    unpublished := fun _ h => { h with } }
  written := .inl fun h => ⟨(hstill h).1, rfl⟩

theorem settles_updateBody {state : SessionState} (hcore : c.Core) (hstill : c.Still)
    (hcaptured : Captured c state) (hreset : state = .priming → c.RtReset) (busy : Bool)
    (periodNs : ℤ) (nowNs : ℕ) :
    Settles c busy (World.updateBody c busy state periodNs nowNs) := by
  have hkept := Settles.refl busy hcore hstill
  cases state with
  | priming =>
    unfold World.updateBody
    cases busy with
    | true => exact hkept
    | false =>
      have hcases := consume_cases c true
      generalize c.consumeLatestRtTrajectory true = consumed at hcases
      cases hcases with
      | unchanged => exact ⟨hcore.discard, Bool.noConfusion, .inl hstill⟩
      | invalid =>
        exact (settles_beginRtStop (hcore.discard.recordStopReason _)
          (.inl ⟨hcaptured, Bool.noConfusion⟩) hstill).of_step (RtStep.discard c) fun h => h
      | accepted hunread hfresh htakes =>
        have hruns := runs_of_priming hcore hcaptured (hreset rfl) hunread hfresh htakes
        have hlast := hcore.unread _ hunread
        obtain rfl := htakes.eq_taken
        refine ⟨?_, Bool.noConfusion, .inl fun h => absurd (.inl rfl) h⟩
        exact hcore.frame rfl rfl hcore.stopChecker rfl rfl rfl rfl hlast (.inr rfl)
          SessionState.noConfusion nofun (fun _ => ⟨_, hruns⟩) nofun
  | running =>
    unfold World.updateBody
    dsimp only
    split
    · exact hkept
    obtain ⟨image, hruns⟩ := hcore.running hcaptured
    have hcases := consume_cases c false
    generalize c.consumeLatestRtTrajectory false = consumed at hcases
    obtain ⟨hcore', hstep, hrunning, image', hruns', hunread⟩ :=
      runs_of_consumption hcore hruns hcaptured hcases
    have hmoving : c.Moving := .inl hcaptured
    have hnext := (settles_updateRunning hcore' hruns' hrunning hunread busy periodNs nowNs).of_step
      hstep fun _ => hmoving
    cases hcases with
    | unchanged => exact hnext
    | invalid =>
      exact (settles_beginRtStop (hcore'.recordStopReason _) (.inr ⟨hrunning, hruns'.valid⟩)
        fun h => absurd (.inl hrunning) h).of_step hstep fun _ => hmoving
    | accepted => exact hnext
  | stopping =>
    have hmoving : c.Moving := .inr hcaptured
    have hcases := advanceRtStop_cases c periodNs
    have hepoch := hcore.stopping hcaptured
    change Settles c busy (c.advanceRtStop periodNs)
    generalize c.advanceRtStop periodNs = updated at hcases
    cases hcases with
    | refused => exact ⟨hcore, fun _ => RtStep.refl c, .inl hstill⟩
    | invalid sample valid =>
      have hstate : c.rtSessionState ≠ .priming ∧ c.rtSessionState ≠ .running := by
        rw [show c.rtSessionState = .stopping from hcaptured]
        exact ⟨SessionState.noConfusion, SessionState.noConfusion⟩
      refine ⟨?_, fun _ => ?_, .inl fun h => absurd hmoving h⟩
      · exact hcore.frame rfl rfl ((sample_limitChecker sample).trans hcore.stopChecker) rfl rfl rfl
          rfl hcore.consumed
          (.inl rfl) hcore.alive (fun h => absurd h hstate.1) (fun h => absurd h hstate.2)
          fun _ => hepoch
      · exact RtStep.of_moving hmoving rfl rfl rfl rfl rfl (fun h => h) hstate.1
          fun h => absurd h hstate.2
    | moves sample valid =>
      rename_i candidate stop
      have hstate : ∀ {state'}, (if stop.state = .holding then SessionState.holding
          else c.rtSessionState) = state' → state' = .holding ∨ state' = .stopping := by
        rintro state' rfl
        split
        · exact .inl rfl
        · exact .inr hcaptured
      have hpriming : (if stop.state = .holding then SessionState.holding
          else c.rtSessionState) ≠ .priming := by
        intro h
        rcases hstate h with h | h <;> cases h
      have hrunning : (if stop.state = .holding then SessionState.holding
          else c.rtSessionState) ≠ .running := by
        intro h
        rcases hstate h with h | h <;> cases h
      refine ⟨?_, fun _ => ?_, ?_⟩
      · refine hcore.frame rfl rfl ((sample_limitChecker sample).trans hcore.stopChecker) rfl rfl
          rfl rfl hcore.consumed (.inl rfl) ?_ (fun h => absurd h hpriming)
          (fun h => absurd h hrunning) fun _ => hepoch
        intro h
        rcases hstate h with h | h <;> cases h
      · exact RtStep.of_moving hmoving rfl rfl rfl rfl rfl (fun h => h) hpriming
          fun h => absurd h hrunning
      · by_cases hholding : stop.state = .holding
        · exact .inr ⟨hmoving, rfl, if_pos hholding, valid, sample_rest sample hholding⟩
        · refine .inl fun h => absurd (.inr ?_) h
          change (if stop.state = .holding then SessionState.holding else c.rtSessionState) = _
          rw [if_neg hholding]
          exact hcaptured
  | none | holding => exact settles_rest hcore hstill hcaptured
  | terminated => exact absurd hcaptured fun h => h

end Update

theorem Settles.write [SquareRoot K] {busy : Bool} {updated : RollingTrajectoryController K × Bool}
    (h : Settles c busy updated) {written : RollingTrajectoryController K}
    (hwritten : written = { updated.1 with
      desiredPositions := updated.1.rtDesired.positions
      desiredVelocities := updated.1.rtDesired.velocities
      rtStateSessionEpoch := updated.1.rtObservedSessionEpoch }) :
    written.Core ∧ written.Still ∧ (busy = true → RtStep c written) := by
  subst hwritten
  have hcore := h.core
  refine ⟨{ hcore with
    primed := fun hstate => ?_
    running := fun hstate => ?_ }, fun hmoving => ⟨rfl, ?_⟩, fun hbusy => { h.step hbusy with
    desired := fun hstill => ?_
    reset := fun hstill hempty hreset hepoch =>
      { (h.step hbusy).reset hstill hempty hreset hepoch with }
    unpublished := fun hstate hfresh => { (h.step hbusy).unpublished hstate hfresh with } }⟩
  · have hprimed := hcore.primed hstate
    have hhold : updated.1.rtDesired.positions = updated.1.desiredPositions := by
      rcases h.written with hstill | ⟨-, -, hholding, -⟩
      · exact (hstill (not_moving_of_priming hstate)).1
      · exact nomatch hholding.symm.trans hstate
    have hanchor := hprimed.anchor
    have hvalid := hprimed.valid
    rw [hold, ← hhold] at hanchor hvalid
    exact { hprimed with
      anchor := hanchor
      valid := hvalid
      reset := fun hepoch => { hprimed.reset hepoch with } }
  · obtain ⟨image, hruns⟩ := hcore.running hstate
    exact ⟨image, { hruns with
      unread := fun snapshot hcurrent => { hruns.unread snapshot hcurrent with } }⟩
  · rcases h.written with hstill | ⟨-, -, -, -, hrest⟩
    · exact (hstill hmoving).2
    · exact hrest
  · rcases h.written with hwritten | ⟨hmoving, -⟩
    · have hstep := h.step hbusy
      exact (hwritten (hstep.still hstill)).1.trans (hstep.desired hstill)
    · exact absurd hmoving hstill

end RollingTrajectoryController

open RollingTrajectoryController

section Changes

variable [FloorSemiring K]

/-- What a step of a tick makes of the world. -/
inductive TickChange (w : World K) (input : TickInput) (nowNs : ℕ) : TickPc → World K → Prop
  | same (pc : TickPc) {tick : Option (TickInput × TickPc)}
      (input_eq : ∀ other pc', tick = some (other, pc') → other = input) :
      TickChange w input nowNs pc { w with tick }
  | reset {attempt epoch : ℕ} {c : RollingTrajectoryController K}
      (reset : w.controller.resetRtEpoch epoch = some c) :
      TickChange w input nowNs (.reset attempt epoch)
        { w with controller := c, tick := some (input, .state attempt epoch) }
  | body (state : SessionState) : TickChange w input nowNs (.body state)
      (w.finishTick (World.updateBody w.controller w.session.isSome state input.periodNs nowNs))
  | stop : TickChange w input nowNs .stop
      (w.finishTick (w.controller.beginRtStop .internalInvariant))
  | write : TickChange w input nowNs .write (w.finishTick (w.controller, true))

theorem tickChange_stepTick (w : World K) (input : TickInput) (nowNs : ℕ) (pc : TickPc) :
    TickChange w input nowNs pc (w.stepTick input nowNs pc) := by
  have hnext : ∀ pc', TickChange w input nowNs pc { w with tick := some (input, pc') } :=
    fun pc' => .same pc fun _ _ heq => (Prod.mk.inj (Option.some.inj heq)).1.symm
  unfold World.stepTick
  cases pc with
  | epoch attempt | recheck attempt epoch state | stopRequest state =>
    dsimp only
    split
    · exact hnext _
    split <;> exact hnext _
  | reset attempt epoch =>
    dsimp only
    split
    · exact .same _ nofun
    · exact .reset ‹_›
  | state attempt epoch => exact hnext _
  | primeStart =>
    dsimp only
    split <;> exact hnext _
  | body state => exact .body state
  | stop => exact .stop
  | write => exact .write

/-- What a step of a batch makes of the world. -/
inductive BatchChange (w : World K) (nowNs : ℕ) : SessionPc K → World K → Prop
  | booked (pc : SessionPc K) (result : BatchResult) (sequence : ℕ)
      (session : Option (BatchMessage K × SessionPc K)) (results : List (ℕ × BatchResult)) :
      BatchChange w nowNs pc { w with
        controller := { w.controller with lastResult := result, lastSequence := sequence }
        session
        results }
  | begun {startNs : ℤ} {buffer : RollingBuffer K} (previousStopReason : PublicStopReason)
      (session : Option (BatchMessage K × SessionPc K))
      (reset : w.controller.buffer.reset ⟨0, w.controller.desiredPositions, fun _ => 0⟩ =
        some buffer) :
      BatchChange w nowNs (.starting startNs) { w with
        controller := { w.controller with
          buffer
          previousStopReason
          sessionOriginNs := startNs }
        session }
  | stored (store : StartStore) (locals : StartLocals)
      (session : Option (BatchMessage K × SessionPc K)) :
      BatchChange w nowNs (.storing store locals)
        { w with controller := w.controller.storeStart locals store, session }
  | committed {candidate : TrajectoryImage K} {context : AdmissionContext}
      {buffer : RollingBuffer K} (session : Option (BatchMessage K × SessionPc K))
      (commit : w.controller.buffer.commit candidate context = .ok buffer) :
      BatchChange w nowNs (.committing candidate context)
        { w with controller := { w.controller with buffer }, session }
  | published (message : BatchMessage K) :
      BatchChange w nowNs .publishing (w.finishBatch message { w.controller with
        unread := some
          { sessionEpoch := w.controller.sessionEpoch
            trajectory := w.controller.buffer.image
            arrivalTimeNs := nowNs
            publicationSequence := w.controller.publicationSequence + 1 }
        publicationSequence := w.controller.publicationSequence + 1 } .accepted)
  | reported (session : Option (BatchMessage K × SessionPc K)) :
      BatchChange w nowNs .reporting
        { w with controller := w.controller.recordStopReason .internalInvariant, session }
  | requested (message : BatchMessage K) :
      BatchChange w nowNs .requesting
        (w.finishBatch message { w.controller with stopRequested := true } .notAccepting)

variable [SquareRoot K]

theorem batchChange_stepSession (w : World K) (message : BatchMessage K) (nowNs : ℕ)
    (readable : Bool) (pc : SessionPc K) :
    BatchChange w nowNs pc (w.stepSession message nowNs readable pc) := by
  have hbooked : ∀ result, BatchChange w nowNs pc (w.finishBatch message w.controller result) :=
    fun result => .booked pc result message.sequence _ _
  have hsame : ∀ session, BatchChange w nowNs pc { w with session } := fun session =>
    .booked pc w.controller.lastResult w.controller.lastSequence session w.results
  unfold World.stepSession
  cases pc with
  | starting startNs =>
    dsimp only
    split
    · exact hbooked _
    · rename_i c locals hbegin
      unfold beginSession at hbegin
      split at hbegin
      · cases hbegin
      split at hbegin
      · cases hbegin
      split at hbegin
      · cases hbegin
      split at hbegin
      · cases hbegin
      rename_i buffer hreset
      cases hbegin
      exact .begun _ _ hreset
  | storing store locals => exact .stored store locals _
  | admitting offsetNs =>
    dsimp only
    unfold World.stepAdmitting
    split
    · exact hsame none
    · exact hbooked _
    split
    · exact hbooked _
    split
    · exact hbooked _
    · exact hsame _
  | prepared candidate =>
    dsimp only
    split
    · exact hbooked _
    · exact hsame _
  | committing candidate context =>
    dsimp only
    split
    · exact hbooked _
    · exact .committed _ ‹_›
  | publishing =>
    dsimp only
    split
    · exact hsame _
    · rename_i c hpublish
      unfold publish at hpublish
      split at hpublish
      · cases hpublish
      · cases hpublish
        exact .published message
  | reporting => exact .reported _
  | requesting => exact .requested message

/-- What a step makes of the world. -/
inductive WorldChange (w : World K) : Label K → World K → Prop
  | same (label : Label K) : WorldChange w label w
  | observed {input : TickInput} (observedPositions : Axis → Option K) (feedbackAgeMs : Option K) :
      WorldChange w (.tick input observedPositions feedbackAgeMs) { w with
        controller :=
          { w.controller with observedPositions, observedFeedbackAgeMs := feedbackAgeMs }
        tick := some (input, .epoch 0) }
  | realtime {nowNs : ℕ} {input : TickInput} {pc : TickPc} (tick : w.tick = some (input, pc)) :
      WorldChange w (.realtime nowNs) (w.stepTick input nowNs pc)
  | delivered {message : BatchMessage K} {nowNs : ℤ} (result : BatchResult)
      (sequence epochSequence : ℕ) (session : Option (BatchMessage K × SessionPc K))
      (results : List (ℕ × BatchResult)) :
      WorldChange w (.deliver message nowNs) { w with
        controller := { w.controller with
          lastResult := result
          lastSequence := sequence
          epochSequence }
        session
        results }
  | batch {nowNs : ℕ} {readable : Bool} {message : BatchMessage K} {pc : SessionPc K}
      (session : w.session = some (message, pc)) {next : World K}
      (change : BatchChange w nowNs pc next) : WorldChange w (.admission nowNs readable) next

theorem worldChange_step (w : World K) (label : Label K) : WorldChange w label (w.step label) := by
  have hsame : WorldChange w label w := .same label
  unfold World.step
  cases label with
  | tick input observedPositions feedbackAgeMs =>
    dsimp only
    split
    · exact hsame
    · exact .observed observedPositions feedbackAgeMs
  | realtime nowNs =>
    dsimp only
    split
    · exact hsame
    · exact .realtime ‹_›
  | deliver message nowNs =>
    dsimp only
    split
    · exact hsame
    unfold World.stepDeliver
    split
    · exact .delivered _ _ w.controller.epochSequence _ _
    split
    · exact .delivered _ _ w.controller.epochSequence _ _
    dsimp only
    split
    · exact .delivered _ _ _ _ _
    · exact .delivered w.controller.lastResult w.controller.lastSequence _ _ _
    · exact .delivered w.controller.lastResult w.controller.lastSequence _ _ _
    · exact .delivered w.controller.lastResult w.controller.lastSequence _ _ _
  | admission nowNs readable =>
    dsimp only
    split
    · exact hsame
    · exact .batch ‹_› (batchChange_stepSession w _ nowNs _ _)

end Changes

namespace World.Sound

variable [SquareRoot K] {w : World K}

theorem finishTick (h : w.Sound) {updated : RollingTrajectoryController K × Bool}
    (hsettles : Settles w.controller w.session.isSome updated) : (w.finishTick updated).Sound := by
  have hsession : ∀ {c}, (w.session.isSome = true → RtStep w.controller c) →
      ∀ message pc, w.session = some (message, pc) → SessionSound c pc := by
    intro c hstep message pc hpc
    refine (h.session message pc hpc).realtime (hstep ?_)
    rw [hpc]
    rfl
  unfold World.finishTick writeRtDesired
  by_cases hupdated : updated.2 = true
  · rw [if_pos hupdated]
    by_cases hvalid : updated.1.desiredIsValid updated.1.rtDesired = true
    · rw [if_pos hvalid]
      obtain ⟨hcore, hstill, hstep⟩ := hsettles.write rfl
      exact ⟨hcore, hstill, fun _ _ hnone => (nomatch hnone), hsession hstep⟩
    · rw [if_neg hvalid]
      refine ⟨hsettles.core, ?_, fun _ _ hnone => (nomatch hnone), hsession hsettles.step⟩
      rcases hsettles.written with hstill | ⟨-, -, -, hvalid', -⟩
      · exact hstill
      · exact absurd hvalid' hvalid
  · rw [if_neg hupdated]
    refine ⟨hsettles.core, ?_, fun _ _ hnone => (nomatch hnone), hsession hsettles.step⟩
    rcases hsettles.written with hstill | ⟨-, hupdated', -⟩
    · exact hstill
    · exact absurd hupdated' hupdated

theorem next_tick (h : w.Sound) {input : TickInput} {pc : TickPc}
    (hpc : TickSound w.controller pc) : { w with tick := some (input, pc) }.Sound :=
  { h with
    tick := fun _ _ hnext => by
      cases hnext
      exact hpc }

theorem resetRtEpoch (h : w.Sound) {epoch : ℕ} (hepoch : epoch ≤ w.controller.sessionEpoch)
    (hmoving : ¬w.controller.Moving) {c : RollingTrajectoryController K}
    (hreset : w.controller.resetRtEpoch epoch = some c) :
    c.Core ∧ c.Still ∧ RtStep w.controller c ∧ c.rtObservedSessionEpoch = epoch := by
  unfold RollingTrajectoryController.resetRtEpoch at hreset
  dsimp only at hreset
  split at hreset
  · cases hreset
  split at hreset
  · cases hreset
    have hcore := h.core
    have hconsumed : w.controller.sessionPublicationFloor - 1 <
        w.controller.sessionPublicationFloor := Nat.sub_lt hcore.floor_pos Nat.one_pos
    refine ⟨{ hcore with
      stopChecker := rfl
      epoch := hepoch
      consumed := ?_
      primed := fun hstate => { hcore.primed hstate with
        execution := rfl
        generation := rfl
        reset := fun _ => ⟨rfl, hconsumed, rfl⟩ }
      running := fun hstate => absurd (.inl hstate) hmoving
      stopping := fun hstate => absurd (.inr hstate) hmoving }, fun _ => ⟨rfl, rfl⟩, ?_, rfl⟩
    · exact (Nat.lt_succ_iff.1 (hconsumed.trans_le hcore.floor_le))
    · exact { RtStep.refl w.controller with
        execution := fun _ _ => rfl
        generation := fun _ _ => rfl
        reset := fun _ _ _ _ => ⟨rfl, hconsumed, rfl⟩
        priming := fun hstate => ⟨hstate, (hcore.primed hstate).execution.symm⟩
        running := fun hstate => absurd (.inl hstate) hmoving
        active := fun hstate => absurd (.inl hstate) hmoving
        unpublished := fun hstate => absurd (.inl hstate) hmoving }
  · cases hreset

variable [FloorSemiring K] [IsStrictOrderedRing K]

theorem stepTick (h : w.Sound) {input : TickInput} {pc : TickPc}
    (htick : w.tick = some (input, pc)) (nowNs : ℕ) : (w.stepTick input nowNs pc).Sound := by
  have hpc := h.tick input pc htick
  have hcore := h.core
  unfold World.stepTick
  cases pc with
  | epoch attempt =>
    dsimp only
    split
    · rename_i hattempt
      refine h.next_tick (hpc ?_)
      rw [hattempt]
      decide
    split
    · rename_i hepoch
      exact h.next_tick hepoch.symm
    · rename_i hepoch
      exact h.next_tick ⟨le_rfl, fun hmoving => hepoch (hcore.epoch_of_moving hmoving).symm⟩
  | reset attempt epoch =>
    dsimp only
    cases hreset : w.controller.resetRtEpoch epoch with
    | none => exact { h with tick := fun _ _ hnone => (nomatch hnone) }
    | some c =>
      obtain ⟨hcore', hstill, hstep, hobserved⟩ := h.resetRtEpoch hpc.1 hpc.2 hreset
      refine ⟨hcore', hstill, fun _ _ hnext => ?_, fun message pc hsession =>
        (h.session message pc hsession).realtime hstep⟩
      cases hnext
      exact hobserved
  | state attempt epoch =>
    refine h.next_tick ⟨hpc, ?_⟩
    have halive := hcore.alive
    cases hstate : w.controller.rtSessionState with
    | terminated => exact absurd hstate halive
    | priming => exact hstate
    | running => exact hstate
    | stopping => exact hstate
    | none | holding =>
      rintro (hmoving | hmoving) <;> rw [hstate] at hmoving <;> cases hmoving
  | recheck attempt epoch state =>
    obtain ⟨hobserved, hcaptured⟩ := hpc
    dsimp only
    split
    · rename_i hepoch
      refine h.next_tick fun _ hmoving => hepoch ?_
      exact (hcore.epoch_of_moving hmoving).symm.trans hobserved
    rename_i hepoch
    rw [not_not] at hepoch
    have hreset : state = .priming → w.controller.RtReset := by
      rintro rfl
      exact (hcore.primed hcaptured).reset (hobserved.trans hepoch.symm)
    split
    · rename_i hstate
      exact h.next_tick ⟨hstate, hcaptured, hreset⟩
    · exact h.next_tick ⟨hcaptured, hreset⟩
  | stopRequest state =>
    obtain ⟨hstate, hcaptured, hreset⟩ := hpc
    dsimp only
    split
    · rename_i hrequest
      refine h.next_tick ?_
      rcases hstate with rfl | rfl
      · refine .inl ⟨hcaptured, fun hempty => ?_⟩
        have hcleared := (hcore.primed hcaptured).request hempty
        rw [hrequest] at hcleared
        cases hcleared
      · exact .inr hcaptured
    split
    · rename_i hpriming
      rw [hpriming] at hcaptured
      exact h.next_tick ⟨hcaptured, hreset hpriming⟩
    · exact h.next_tick ⟨hcaptured, hreset⟩
  | primeStart =>
    dsimp only
    split
    · exact h.next_tick ⟨hpc.1, fun _ => hpc.2⟩
    · exact h.next_tick (not_moving_of_priming hpc.1)
  | body state => exact h.finishTick (settles_updateBody hcore h.still hpc.1 hpc.2 _ _ _)
  | stop =>
    refine h.finishTick (settles_beginRtStop (hcore.recordStopReason _) ?_ h.still)
    rcases hpc with ⟨hpriming, hnonempty⟩ | hrunning
    · exact .inl ⟨hpriming, fun _ => hnonempty⟩
    · obtain ⟨image, hruns⟩ := hcore.running hrunning
      exact .inr ⟨hrunning, hruns.valid⟩
  | write => exact h.finishTick (Settles.refl _ hcore h.still)

end World.Sound

end RobotDriver.Rolling
