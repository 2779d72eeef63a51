import RobotDriver.Rolling.CommandedMotion

/-!
# Ticks of one period

In a run whose ticks have one valid period, the second differences of the commanded positions stay
within the acceleration limit, as long as stops begin slowly and what advances is written.
-/

namespace RobotDriver.Rolling

open RollingTrajectoryController LabelledRun

variable {K : Type*} [Field K] [LinearOrder K]

def Label.HasPeriod (periodNs : ℤ) : Label K → Prop
  | .tick input _ _ => input.periodNs = periodNs
  | _ => True

instance (periodNs : ℤ) : (label : Label K) → Decidable (label.HasPeriod periodNs)
  | .tick input _ _ => inferInstanceAs (Decidable (input.periodNs = periodNs))
  | .realtime _ | .deliver _ _ | .admission _ _ => .isTrue trivial

section Frame

variable {c c' : RollingTrajectoryController K} {w : World K}

/-- What a step of a batch leaves of the motion. -/
structure BatchQuiet (c c' : RollingTrajectoryController K) : Prop extends Unwritten c c' where
  desired : c'.rtDesired = c.rtDesired
  stop : c'.rtStopTrajectory = c.rtStopTrajectory
  elapsed : c'.rtStopElapsedNs = c.rtStopElapsedNs
  state : c'.rtSessionState = c.rtSessionState ∧ c'.executionTimeNs = c.executionTimeNs ∨
    ¬c.Moving ∧ ¬c'.Moving
  reason : c'.stopReason = c.stopReason ∨ c'.stopReason ≠ .clockAnomaly

theorem BatchQuiet.steady [FloorSemiring K] (h : BatchQuiet c c') (hsteady : c.Steady) :
    c'.Steady where
  origin hrunning hzero := by
    rw [h.desired]
    rcases h.state with ⟨hstate, htime⟩ | ⟨-, hstill⟩
    · exact hsteady.origin (hstate.symm.trans hrunning) (htime.symm.trans hzero)
    · exact absurd (.inl hrunning) hstill
  braking hstopping := by
    rw [h.configuration, h.stop, h.elapsed, h.desired]
    rcases h.state with ⟨hstate, -⟩ | ⟨-, hstill⟩
    · exact hsteady.braking (hstate.symm.trans hstopping)
    · exact absurd (.inr hstopping) hstill
  clock := by
    rcases h.reason with hreason | hreason
    · rw [hreason]
      exact hsteady.clock
    · exact hreason

theorem BatchQuiet.emits (h : BatchQuiet c c') {periodNs : ℕ} {log : List (Axis → K)}
    (hemits : c.Emits periodNs log) : c'.Emits periodNs log := by
  refine hemits.unwritten h.toUnwritten (by rw [h.desired]) fun p q before hlog axis => ?_
  rw [h.desired, h.elapsed]
  refine (hemits.approach p q before hlog axis).imp_right fun hbraking => ⟨?_, hbraking.2⟩
  rcases h.state with ⟨hstate, -⟩ | ⟨hstill, -⟩
  · exact hstate.trans hbraking.1
  · exact absurd (.inr hbraking.1) hstill

theorem storeStart_quiet {store : StartStore} {locals : StartLocals}
    (hstill : ¬c.Moving) : BatchQuiet c (c.storeStart locals store) := by
  cases store with
  | executionTime => exact ⟨⟨rfl, rfl⟩, rfl, rfl, rfl, .inr ⟨hstill, hstill⟩, .inl rfl⟩
  | stopReason =>
    exact ⟨⟨rfl, rfl⟩, rfl, rfl, rfl, .inl ⟨rfl, rfl⟩, .inr StopReason.noConfusion⟩
  | sessionState =>
    refine ⟨⟨rfl, rfl⟩, rfl, rfl, rfl, .inr ⟨hstill, ?_⟩, .inl rfl⟩
    exact not_moving_of_priming rfl
  | _ => exact ⟨⟨rfl, rfl⟩, rfl, rfl, rfl, .inl ⟨rfl, rfl⟩, .inl rfl⟩

theorem recordStopReason_quiet (c : RollingTrajectoryController K) {reason : StopReason}
    (hreason : reason ≠ .clockAnomaly) : BatchQuiet c (c.recordStopReason reason) := by
  refine ⟨⟨rfl, rfl⟩, rfl, rfl, rfl, .inl ⟨rfl, rfl⟩, ?_⟩
  change (if c.stopReason = .none then reason else c.stopReason) = c.stopReason ∨
    (if c.stopReason = .none then reason else c.stopReason) ≠ .clockAnomaly
  split
  · exact .inr hreason
  · exact .inl rfl

theorem World.Sound.quiet_of_batchChange [SquareRoot K] (h : w.Sound) {message : BatchMessage K}
    {pc : SessionPc K} (hsession : w.session = some (message, pc)) {nowNs : ℕ} {next : World K}
    (hchange : BatchChange w nowNs pc next) :
    BatchQuiet w.controller next.controller ∧ next.commanded = w.commanded ∧
      next.tick = w.tick := by
  have hpc := h.session message pc hsession
  cases hchange with
  | stored store locals session => exact ⟨storeStart_quiet (Storing.still hpc), rfl, rfl⟩
  | reported => exact ⟨recordStopReason_quiet _ StopReason.noConfusion, rfl, rfl⟩
  | _ => exact ⟨⟨⟨rfl, rfl⟩, rfl, rfl, rfl, .inl ⟨rfl, rfl⟩, .inl rfl⟩, rfl, rfl⟩

end Frame

namespace World

variable [FloorSemiring K] [SquareRoot K] {w : World K} {periodNs : ℤ}
  {configuration : RuntimeConfiguration K}

/-- What a run of ticks with one period keeps. -/
structure EmitsSmoothly (configuration : RuntimeConfiguration K) (periodNs : ℤ) (w : World K) :
    Prop where
  sound : w.Sound
  configuration_eq : w.controller.configuration = configuration
  steady : w.controller.Steady
  emits : w.controller.Emits periodNs.toNat w.commanded
  period : ∀ input pc, w.tick = some (input, pc) → input.periodNs = periodNs

omit [FloorSemiring K] [SquareRoot K] in
theorem finishTick_words (w : World K) (updated : RollingTrajectoryController K × Bool) :
    (w.finishTick updated).controller.rtSessionState = updated.1.rtSessionState ∧
      (w.finishTick updated).controller.executionTimeNs = updated.1.executionTimeNs ∧
      (w.finishTick updated).controller.configuration = updated.1.configuration ∧
      (w.finishTick updated).tick = none ∧
      (updated.2 = false → (w.finishTick updated).commanded = w.commanded) := by
  unfold finishTick writeRtDesired
  split
  · rename_i hsucceeded
    have hfailed : updated.2 = false → False := fun hfailed => by
      rw [hsucceeded] at hfailed
      cases hfailed
    split
    · rename_i heq
      split at heq <;> cases heq
      exact ⟨rfl, rfl, rfl, rfl, fun h => absurd h hfailed⟩
    · rename_i heq
      split at heq <;> cases heq
      exact ⟨rfl, rfl, rfl, rfl, fun h => absurd h hfailed⟩
  · exact ⟨rfl, rfl, rfl, rfl, fun _ => rfl⟩

omit [SquareRoot K] in
theorem finishTick_steady {updated : RollingTrajectoryController K × Bool}
    (h : updated.1.Steady) : (w.finishTick updated).controller.Steady := by
  unfold finishTick writeRtDesired
  split
  · split
    · rename_i heq
      split at heq <;> cases heq
      exact h
    · rename_i heq
      split at heq <;> cases heq
      exact { h with }
  · exact h

variable [IsStrictOrderedRing K]

theorem EmitsSmoothly.finishTick (h : w.EmitsSmoothly configuration periodNs) {nowNs : ℕ}
    {updated : RollingTrajectoryController K × Bool}
    (hstep : w.step (.realtime nowNs) = w.finishTick updated)
    (hgentle : w.BrakesGently periodNs.toNat (.realtime nowNs))
    (hwrites : w.WritesAdvance (.realtime nowNs)) (hsame : Unwritten w.controller updated.1)
    (heffect : TickEffect w.controller periodNs.toNat updated) (hsteady : updated.1.Steady) :
    (w.finishTick updated).EmitsSmoothly configuration periodNs := by
  obtain ⟨hstate, htime, hconfiguration, htick, hfailed⟩ := finishTick_words w updated
  refine ⟨hstep ▸ h.sound.step _, ?_, finishTick_steady hsteady, ?_, fun input pc hnext => ?_⟩
  · rw [hconfiguration, hsame.configuration, h.configuration_eq]
  · refine h.emits.finishTick hsame heffect (fun hrunning hstopping hexecution => ?_)
      fun hfalse hrunning => ?_
    · refine hgentle hrunning ?_ ?_
      · rw [hstep, hstate]
        exact hstopping
      · rw [hstep, htime]
        exact hexecution
    · have hadvance := hwrites hrunning
      rw [hstep, htime] at hadvance
      exact hadvance (hfailed hfalse)
  · rw [htick] at hnext
    cases hnext

theorem EmitsSmoothly.realtime (h : w.EmitsSmoothly configuration periodNs)
    (hperiod : configuration.validPeriod periodNs = true) {nowNs : ℕ}
    (hgentle : w.BrakesGently periodNs.toNat (.realtime nowNs))
    (hwrites : w.WritesAdvance (.realtime nowNs)) :
    (w.step (.realtime nowNs)).EmitsSmoothly configuration periodNs := by
  have hsound := h.sound.step (.realtime nowNs)
  cases htick : w.tick with
  | none =>
    have hsame : w.step (.realtime nowNs) = w := by
      simp only [step, htick]
    rw [hsame]
    exact h
  | some current =>
    obtain ⟨input, pc⟩ := current
    have hinput := h.period input pc htick
    have hpc := h.sound.tick input pc htick
    have hcore := h.sound.core
    have hstep : w.step (.realtime nowNs) = w.stepTick input nowNs pc := by
      simp only [step, htick]
    have hvalid : w.controller.configuration.validPeriod input.periodNs = true := by
      rw [h.configuration_eq, hinput]
      exact hperiod
    have hchange := tickChange_stepTick w input nowNs pc
    rw [hstep] at hsound ⊢
    generalize w.stepTick input nowNs pc = next at hchange hstep hsound
    cases hchange with
    | same _ input_eq =>
      refine ⟨hsound, h.configuration_eq, h.steady, h.emits, fun other pc' hnext => ?_⟩
      rw [input_eq other pc' hnext]
      exact hinput
    | reset hreset =>
      obtain ⟨-, hmoving⟩ := hpc
      obtain ⟨hpositions, hvelocities⟩ := h.sound.still hmoving
      unfold RollingTrajectoryController.resetRtEpoch at hreset
      dsimp only at hreset
      split at hreset
      · cases hreset
      split at hreset
      · cases hreset
        refine ⟨hsound, h.configuration_eq, ⟨fun _ _ => rfl,
          fun hstopping => absurd (.inr hstopping) hmoving, h.steady.clock⟩, ?_, ?_⟩
        · refine h.emits.unwritten ⟨rfl, rfl⟩ hpositions.symm fun p q before hlog axis => .inl ?_
          have hdistance := h.emits.at_rest hvelocities
            (fun hstopping => hmoving (.inr hstopping)) hlog axis
          simpa using hdistance
        · intro other pc' hnext
          cases hnext
          exact hinput
      · cases hreset
    | body state =>
      have heffect := effect_updateBody hcore h.sound.still hpc.1 hpc.2 h.steady hvalid
        w.session.isSome nowNs
      rw [hinput] at heffect hstep ⊢
      exact h.finishTick hstep hgentle hwrites heffect.1 heffect.2.1 heffect.2.2
    | stop =>
      have hstate : w.controller.rtSessionState = .priming ∨
          w.controller.rtSessionState = .running := hpc.imp_left And.left
      have hready : w.controller.rtSessionState = .priming ∧
            w.controller.rtDesired.velocities = (fun _ => 0) ∨
          w.controller.rtSessionState = .running ∧
            w.controller.desiredIsValid w.controller.rtDesired = true := by
        refine hstate.imp (fun hpriming => ⟨hpriming, ?_⟩) fun hrunning => ⟨hrunning, ?_⟩
        · exact (h.sound.still (not_moving_of_priming hpriming)).2
        · obtain ⟨image, hruns⟩ := hcore.running hrunning
          exact hruns.valid
      have heffect := effect_beginRtStop .internalInvariant periodNs.toNat hready
        hcore.stopChecker
      refine h.finishTick hstep hgentle hwrites heffect.1 heffect.2 (steady_beginRtStop
        h.steady.origin h.steady.clock StopReason.noConfusion hstate hcore.stopChecker fun hne => ?_)
      rcases hready with ⟨-, hrest⟩ | ⟨-, hvalid⟩
      · exact absurd hrest hne
      · exact hvalid
    | write =>
      obtain ⟨-, hvelocities⟩ := h.sound.still hpc
      exact h.finishTick hstep hgentle hwrites ⟨rfl, rfl⟩ (.rests rfl hvelocities hvelocities
        fun hstopping => hpc (.inr hstopping)) h.steady

omit [IsStrictOrderedRing K] in
theorem EmitsSmoothly.quiet (h : w.EmitsSmoothly configuration periodNs) {next : World K}
    (hsound : next.Sound) (hquiet : BatchQuiet w.controller next.controller)
    (hcommanded : next.commanded = w.commanded) (htick : next.tick = w.tick) :
    next.EmitsSmoothly configuration periodNs where
  sound := hsound
  configuration_eq := hquiet.configuration.trans h.configuration_eq
  steady := hquiet.steady h.steady
  emits := by
    rw [hcommanded]
    exact hquiet.emits h.emits
  period input pc hnext := h.period input pc (htick.symm.trans hnext)

theorem EmitsSmoothly.step (h : w.EmitsSmoothly configuration periodNs)
    (hperiod : configuration.validPeriod periodNs = true) {label : Label K}
    (hlabel : label.HasPeriod periodNs) (hgentle : w.BrakesGently periodNs.toNat label)
    (hwrites : w.WritesAdvance label) :
    (w.step label).EmitsSmoothly configuration periodNs := by
  have hsound := h.sound.step label
  have hchange := worldChange_step w label
  by_cases hrealtime : ∃ nowNs, label = .realtime nowNs
  · obtain ⟨nowNs, rfl⟩ := hrealtime
    exact h.realtime hperiod hgentle hwrites
  generalize w.step label = next at hsound hchange
  cases hchange with
  | same => exact h
  | observed =>
    refine ⟨hsound, h.configuration_eq, { h.steady with }, { h.emits with },
      fun other pc hnext => ?_⟩
    cases hnext
    exact hlabel
  | realtime => exact absurd ⟨_, rfl⟩ hrealtime
  | delivered =>
    exact h.quiet hsound ⟨⟨rfl, rfl⟩, rfl, rfl, rfl, .inl ⟨rfl, rfl⟩, .inl rfl⟩ rfl rfl
  | batch hsession hbatch =>
    obtain ⟨hquiet, hcommanded, htick⟩ := h.sound.quiet_of_batchChange hsession hbatch
    exact h.quiet hsound hquiet hcommanded htick

omit [IsStrictOrderedRing K] in
theorem EmitsSmoothly.activated (configuration : RuntimeConfiguration K)
    (sourceCommands : Axis → K) (actualPositions : Axis → Option K) (feedbackAgeMs : Option K)
    (activationEpoch : ℕ) {publicationSequence : ℕ} {unread : Option (RollingSnapshot K)}
    (hunread : ∀ snapshot ∈ unread, snapshot.publicationSequence ≤ publicationSequence)
    (periodNs : ℤ) :
    (activated configuration sourceCommands actualPositions feedbackAgeMs activationEpoch
      publicationSequence unread).EmitsSmoothly configuration periodNs where
  sound := .activated configuration sourceCommands actualPositions feedbackAgeMs activationEpoch
    hunread
  configuration_eq := rfl
  steady := ⟨fun _ _ => rfl, fun hstopping => (nomatch hstopping), StopReason.noConfusion⟩
  emits := by
    refine ⟨fun after p q r before hlog => ?_, fun p hp => (nomatch hp), rfl,
      fun p q before hlog => (nomatch hlog)⟩
    cases after <;> cases hlog
  period input pc htick := nomatch htick

theorem commanded_within (configuration : RuntimeConfiguration K) (sourceCommands : Axis → K)
    (actualPositions : Axis → Option K) (feedbackAgeMs : Option K)
    (activationEpoch publicationSequence : ℕ) (unread : Option (RollingSnapshot K))
    (hunread : ∀ snapshot ∈ unread, snapshot.publicationSequence ≤ publicationSequence)
    (periodNs : ℤ) (hperiod : configuration.validPeriod periodNs = true) (labels : List (Label K))
    (hticks : ∀ label ∈ labels, label.HasPeriod periodNs)
    (hlabels : Along World.step
      (fun w label => w.BrakesGently periodNs.toNat label ∧ w.WritesAdvance label)
      (World.activated configuration sourceCommands actualPositions feedbackAgeMs activationEpoch
        publicationSequence unread) labels) :
    SecondDifferences
      (fun axis => configuration.jointAccelerationLimits axis * seconds periodNs.toNat ^ 2)
      (run World.step (World.activated configuration sourceCommands actualPositions feedbackAgeMs
        activationEpoch publicationSequence unread) labels).commanded := by
  have hperiods : Along World.step (fun _ label => label.HasPeriod periodNs)
      (World.activated configuration sourceCommands actualPositions feedbackAgeMs activationEpoch
        publicationSequence unread) labels :=
    (along_iff_split _ _).2 fun before label after heq =>
      hticks label (heq ▸ List.mem_append_cons_self)
  have hinitial := EmitsSmoothly.activated configuration sourceCommands actualPositions
    feedbackAgeMs activationEpoch hunread periodNs
  have hlast := invariant_run (P := fun w => w.EmitsSmoothly configuration periodNs)
    (fun w label hw hlabel => hw.step hperiod hlabel.1 hlabel.2.1 hlabel.2.2) hinitial
    (hperiods.and hlabels)
  have hdifferences := hlast.emits.differences
  unfold differenceBound at hdifferences
  rw [hlast.configuration_eq] at hdifferences
  exact hdifferences

end World

namespace Standstill

theorem gentle_within :
    (run World.step initial (ramping (2 * 10 ^ 7) 6)).controller.stopReason = .updateTimeout ∧
    SecondDifferences
      (fun axis => configuration.jointAccelerationLimits axis * seconds (Int.toNat (10 ^ 7)) ^ 2)
      (run World.step initial (ramping (2 * 10 ^ 7) 6)).commanded :=
  ⟨by decide +kernel, World.commanded_within configuration _ _ _ 1 0 none
    nofun (10 ^ 7) (by decide +kernel) _ (by decide +kernel)
    (by decide +kernel)⟩

theorem timeout_jumps :
    configuration.validPeriod (10 ^ 7) = true ∧
    (∀ label ∈ ramping (5 * 10 ^ 7) 7, label.HasPeriod (10 ^ 7)) ∧
    ¬SecondDifferences
      (fun axis => configuration.jointAccelerationLimits axis * seconds (Int.toNat (10 ^ 7)) ^ 2)
      (run World.step initial (ramping (5 * 10 ^ 7) 7)).commanded :=
  ⟨by decide +kernel, by decide +kernel, fun h => absurd h.newest (by decide +kernel)⟩

end Standstill

end RobotDriver.Rolling
