import RobotDriver.Rolling.BufferRun
import RobotDriver.Rolling.TickInvariant

/-!
# Batches keep the invariant

Each step of `handleBatch` keeps what holds of the controller and changes only what a tick allows,
so the invariant holds in every run from an activation.
-/

namespace RobotDriver.Rolling

variable {K : Type*} [Field K] [LinearOrder K]

section Facts

variable {c : RollingTrajectoryController K}

theorem reset_eq_some {buffer buffer' : RollingBuffer K} {anchor : JointPoint K}
    (h : buffer.reset anchor = some buffer') : buffer' = { buffer.clear with anchor } ∧
      anchor.timeNs = 0 ∧ ∀ axis, anchor.velocities axis = 0 ∧
        (buffer.limitChecker.envelope axis).safeLower ≤ anchor.positions axis ∧
          anchor.positions axis ≤ (buffer.limitChecker.envelope axis).safeUpper := by
  unfold RollingBuffer.reset at h
  split at h
  · cases h
  rename_i htime
  split at h
  · cases h
  rename_i hlimits
  cases h
  refine ⟨rfl, not_not.1 htime, fun axis => ?_⟩
  have haxis := List.any_eq_false.1 (Bool.eq_false_iff.2 hlimits) axis (List.mem_finRange axis)
  simp only [Bool.or_eq_true, decide_eq_true_eq, not_or, not_not, not_lt] at haxis
  exact ⟨haxis.1.1, haxis.1.2, haxis.2⟩

namespace RollingTrajectoryController

theorem buildAdmissionContext_eq_some [FloorSemiring K] {readable : Bool}
    {context : AdmissionContext} (h : c.buildAdmissionContext readable = some context) :
    c.rtSessionState = .priming ∧ c.activeGeneration = 0 ∧ context = { priming := true } ∨
      c.rtSessionState = .running ∧ context.executionTimeNs = c.executionTimeNs ∧
        context.replaceableFromNs = c.replaceableFromNs ∧
          context.activeGeneration = c.activeGeneration ∧ context.priming = false := by
  unfold buildAdmissionContext at h
  split at h
  · rename_i hpriming
    exact .inl ⟨hpriming.1, hpriming.2, (Option.some.inj h).symm⟩
  split at h
  · cases h
  dsimp only at h
  split at h
  · cases h
  rename_i hrunning
  rw [Option.bind_eq_some_iff] at h
  obtain ⟨stopDurationNs, -, h⟩ := h
  rw [Option.map_eq_some_iff] at h
  obtain ⟨minimumHorizonNs, -, rfl⟩ := h
  refine .inr ⟨by_contra fun hstate => hrunning (.inr (.inl hstate)), rfl, rfl, rfl, rfl⟩

theorem accepting_eq_false (h : c.accepting = false) :
    c.rtSessionState ≠ .running ∧
      (c.rtSessionState = .priming → c.buffer.image.points = []) := by
  unfold accepting at h
  rw [Bool.or_eq_false_iff] at h
  refine ⟨of_decide_eq_false h.1, fun hpriming => ?_⟩
  have hpoints := h.2
  rw [hpriming] at hpoints
  simpa using hpoints

theorem admission_eq_start {message : BatchMessage K} {nowNs startNs : ℤ}
    (h : c.admission message nowNs = .start startNs) :
    c.accepting = false ∧ c.rtSessionState ≠ .stopping ∧ c.rtSessionState ≠ .terminated := by
  unfold admission at h
  split at h
  · cases h
  split at h
  · cases h
  split at h
  · cases h
  split at h
  · split at h <;> cases h
  rename_i haccepting
  split at h
  · cases h
  rename_i hstate
  rw [not_or] at hstate
  exact ⟨Bool.eq_false_iff.2 haccepting, hstate⟩

end RollingTrajectoryController

theorem BatchStep.refl (c : RollingTrajectoryController K) : BatchStep c c where
  configuration := rfl
  observed := rfl
  rtFloor := rfl
  consumed := rfl
  stop := rfl
  epoch := le_rfl
  state := .inl rfl
  floor _ := rfl
  image _ h := h

end Facts

namespace RollingTrajectoryController

variable {c c' : RollingTrajectoryController K}

variable [SquareRoot K]

theorem Core.bookkeeping (h : c.Core) (result : BatchResult) (sequence epochSequence : ℕ)
    (observedPositions : Axis → Option K) (feedbackAgeMs : Option K) :
    { c with
      lastResult := result
      lastSequence := sequence
      epochSequence
      observedPositions
      observedFeedbackAgeMs := feedbackAgeMs }.Core :=
  { h with
    primed := fun hstate => { h.primed hstate with
      reset := fun hepoch => { (h.primed hstate).reset hepoch with } }
    running := fun hstate => by
      obtain ⟨image, hruns⟩ := h.running hstate
      exact ⟨image, { hruns with
        unread := fun snapshot hcurrent => { hruns.unread snapshot hcurrent with } }⟩ }

/-- What one step of `handleBatch` keeps. -/
structure Keeps (c c' : RollingTrajectoryController K) : Prop where
  core : c'.Core
  still : c'.Still
  step : BatchStep c c'

section Start

theorem keeps_beginSession [IsStrictOrderedRing K] (hcore : c.Core) (hstill : c.Still)
    (hmoving : ¬c.Moving)
    (hempty : c.rtSessionState = .priming → c.buffer.image.points = []) {startNs : ℤ}
    {locals : StartLocals} (h : c.beginSession startNs = .ok (c', locals)) :
    Keeps c c' ∧ Storing c' .executionTime locals := by
  unfold beginSession at h
  split at h
  · cases h
  split at h
  · cases h
  split at h
  · cases h
  split at h
  · cases h
  rename_i buffer hreset
  obtain ⟨rfl, -, hlimits⟩ := reset_eq_some hreset
  cases h
  have hvalid : c.desiredIsValid c.hold = true := by
    refine LimitChecker.desiredIsValid_iff.2 fun axis => ?_
    obtain ⟨-, hlower, hupper⟩ := hlimits axis
    rw [hcore.limitChecker] at hlower hupper
    have henvelope := c.configuration.limitChecker.valid axis
    exact ⟨⟨hlower, hupper⟩, neg_nonpos.2 henvelope.velocityNegative.le,
      henvelope.velocityPositive.le⟩
  have hfloor : c.rtSessionState = .priming →
      c.sessionPublicationFloor = c.publicationSequence + 1 :=
    fun hstate => (hcore.primed hstate).empty (hempty hstate)
  refine ⟨⟨?_, hstill, ?_⟩, ?_⟩
  · exact { hcore with
      buffer := ⟨rfl, fun hnonempty => absurd rfl hnonempty, Nat.zero_le _⟩
      anchor := fun _ => rfl
      image := fun hnonempty => absurd rfl hnonempty
      primed := fun hstate =>
        { hcore.primed hstate with
          anchor := rfl
          reset := fun hepoch => { (hcore.primed hstate).reset hepoch with }
          empty := fun _ => hfloor hstate
          request := fun _ => (hcore.primed hstate).request (hempty hstate)
          anchored := fun hnonempty => absurd rfl hnonempty
          unread := fun snapshot hcurrent => by
            have hle := hcore.unread snapshot hcurrent.1
            have hge := (hfloor hstate).symm.le.trans hcurrent.2
            omega }
      running := fun hstate => absurd (.inl hstate) hmoving }
  · exact { BatchStep.refl c with
      image := fun hstate hnonempty => absurd (hempty hstate) hnonempty }
  · exact
      { still := hmoving
        image := rfl
        anchor := rfl
        valid := hvalid
        publication := rfl
        execution := fun hindex => absurd hindex (Nat.lt_irrefl 0)
        generation := fun hindex => absurd hindex (Nat.not_lt_zero 1)
        floor := fun hindex => absurd hindex (Nat.not_lt_zero 5)
        request := fun hindex => absurd hindex (Nat.not_lt_zero 7)
        epoch := fun _ => rfl
        reset := nofun }

theorem not_current (hcore : c.Core) (hfloor : c.sessionPublicationFloor = c.publicationSequence + 1)
    (snapshot : RollingSnapshot K) : ¬c.Current snapshot := by
  intro hcurrent
  have hle := hcore.unread snapshot hcurrent.1
  have hge := hfloor.symm.le.trans hcurrent.2
  omega

omit [SquareRoot K] in
theorem Storing.next {store next : StartStore} {locals : StartLocals} (h : Storing c store locals)
    (hobserved : c.rtObservedSessionEpoch ≤ c.sessionEpoch) (hnext : store.next = some next) :
    Storing (c.storeStart locals store) next locals := by
  have hfloor : locals.publication + 1 = c.publicationSequence + 1 :=
    congrArg Nat.succ h.publication
  have hepoch : store = .sessionEpoch → c.rtObservedSessionEpoch ≠ locals.epoch + 1 := by
    rintro rfl
    have hsession := h.epoch (by decide)
    omega
  cases store with
  | sessionState => cases hnext
  | _ =>
    cases hnext
    refine ⟨h.still, h.image, h.anchor, h.valid, h.publication, fun hindex => ?_, fun hindex => ?_,
      fun hindex => ?_, fun hindex => ?_, fun hindex => ?_, fun hstore => ?_⟩
    · first | rfl | exact h.execution (by decide)
    · first | rfl | exact h.generation (by decide) | exact absurd hindex (by decide)
    · first | exact hfloor | exact h.floor (by decide) | exact absurd hindex (by decide)
    · first | rfl | exact h.request (by decide) | exact absurd hindex (by decide)
    · first | exact h.epoch (by decide) | exact absurd hindex (by decide)
    · first | exact absurd hstore (by decide) | exact fun heq => absurd heq (hepoch rfl)

theorem keeps_storeStart (hcore : c.Core) (hstill : c.Still) {store : StartStore}
    {locals : StartLocals} (h : Storing c store locals) :
    Keeps c (c.storeStart locals store) := by
  have hmoving := h.still
  have hrunning : c.rtSessionState ≠ .running := fun hstate => hmoving (.inl hstate)
  have hprimed : c.rtSessionState = .priming → c.Primed := hcore.primed
  have hfloor : c.rtSessionState = .priming →
      locals.publication + 1 = c.sessionPublicationFloor := fun hstate =>
    (congrArg Nat.succ h.publication).trans ((hprimed hstate).empty h.image).symm
  cases store with
  | executionTime =>
    refine ⟨{ hcore with
      primed := fun hstate => { hprimed hstate with
        execution := rfl
        reset := fun hepoch => { (hprimed hstate).reset hepoch with } }
      running := fun hstate => absurd hstate hrunning }, hstill, { BatchStep.refl c with }⟩
  | activeGeneration =>
    refine ⟨{ hcore with
      primed := fun hstate => { hprimed hstate with
        generation := rfl
        reset := fun hepoch => { (hprimed hstate).reset hepoch with } }
      running := fun hstate => absurd hstate hrunning }, hstill, { BatchStep.refl c with }⟩
  | publicationFloor =>
    refine ⟨{ hcore with
      floor_pos := Nat.succ_pos _
      floor_le := (congrArg Nat.succ h.publication).le
      primed := fun hstate => ?_
      running := fun hstate => absurd hstate hrunning }, hstill, { BatchStep.refl c with
        floor := hfloor }⟩
    have hsame := hfloor hstate
    have heq : c.storeStart locals .publicationFloor = c := by
      unfold storeStart
      rw [hsame]
    rw [heq]
    exact hprimed hstate
  | sessionEpoch =>
    have hepoch : c.sessionEpoch < locals.epoch + 1 :=
      Nat.lt_succ_of_le (h.epoch (by decide)).le
    refine ⟨{ hcore with
      epoch := hcore.epoch.trans hepoch.le
      primed := fun hstate => { hprimed hstate with
        reset := fun heq => absurd heq (hcore.epoch.trans_lt hepoch).ne
        unread := fun snapshot hcurrent =>
          absurd ⟨hcurrent.1, hcurrent.2⟩
            (not_current hcore ((hprimed hstate).empty h.image) snapshot) }
      running := fun hstate => absurd hstate hrunning
      stopping := fun hstate => absurd (.inr hstate) hmoving }, hstill, { BatchStep.refl c with
        epoch := hepoch.le }⟩
  | sessionState =>
    have hlast := h.floor (by decide)
    refine ⟨{ hcore with
      alive := SessionState.noConfusion
      primed := fun _ =>
        { execution := h.execution (by decide)
          generation := h.generation (by decide)
          anchor := h.anchor
          valid := h.valid
          reset := fun hepoch => { h.reset rfl hepoch with }
          empty := fun _ => hlast
          request := fun _ => h.request (by decide)
          anchored := fun hnonempty => absurd h.image hnonempty
          unread := fun snapshot hcurrent =>
            absurd ⟨hcurrent.1, hcurrent.2⟩ (not_current hcore hlast snapshot) }
      running := nofun
      stopping := nofun }, fun _ => hstill hmoving, { BatchStep.refl c with
        state := .inr ⟨rfl, hmoving⟩ }⟩
  | stopRequested =>
    refine ⟨{ hcore with
      primed := fun hstate => { hprimed hstate with
        request := fun _ => rfl
        reset := fun hepoch => { (hprimed hstate).reset hepoch with } }
      running := fun hstate => absurd hstate hrunning }, hstill, { BatchStep.refl c with }⟩
  | bufferedUntil | replaceableFrom | primeStart | stopReason =>
    refine ⟨{ hcore with
      primed := fun hstate => { hprimed hstate with
        reset := fun hepoch => { (hprimed hstate).reset hepoch with } }
      running := fun hstate => absurd hstate hrunning }, hstill, { BatchStep.refl c with }⟩

end Start

section Admit

theorem candidate_of_prepare [FloorSemiring K] (hcore : c.Core) {readable : Bool}
    {context : AdmissionContext} {batch : BatchView K} {candidate : TrajectoryImage K}
    (hcontext : c.buildAdmissionContext readable = some context)
    (hprepare : c.buffer.prepare batch context = .ok candidate) : Candidate c candidate context := by
  obtain ⟨knot, kept, hprepares⟩ := prepare_eq_ok hprepare
  refine ⟨⟨batch, knot, kept, hprepares⟩, fun hpriming hnonempty => ?_, fun hrunning => ?_⟩
  · rcases buildAdmissionContext_eq_some hcontext with ⟨-, -, rfl⟩ | ⟨hrunning, -⟩
    · exact (hcore.image hnonempty).generation
    · rw [hpriming] at hrunning
      cases hrunning
  · obtain ⟨image, hruns⟩ := hcore.running hrunning
    rcases buildAdmissionContext_eq_some hcontext with ⟨hpriming, -⟩ | ⟨-, -, -, hactive, -⟩
    · rw [hrunning] at hpriming
      cases hpriming
    · rw [hactive, hruns.generation]
      rcases hruns.linked.le.lt_or_eq with hlt | heq
      · exact .inl hlt
      · rw [← hruns.linked.same heq]
        exact .inr hruns.active

variable [IsStrictOrderedRing K]

theorem keeps_commit (hcore : c.Core) (hstill : c.Still) {candidate : TrajectoryImage K}
    {context context' : AdmissionContext} (hcandidate : Candidate c candidate context)
    (hexecution : c.rtSessionState = .priming ∨ c.rtSessionState = .running →
      context'.executionTimeNs ≤ c.executionTimeNs) {buffer : RollingBuffer K}
    (hcommit : c.buffer.commit candidate context' = .ok buffer) :
    Keeps c { c with buffer } ∧ Unpublished { c with buffer } := by
  obtain ⟨rfl, -, hhorizon⟩ := BufferRun.commit_eq_ok hcommit
  obtain ⟨⟨batch, knot, kept, hprepares⟩, hpriming, hrunning⟩ := hcandidate
  have hcovers := (TrajectoryImage.covers_iff.1 (validateHorizon_eq_none hhorizon).1).1
  have hsound := hprepares.soundImage hcore.buffer
  rw [hcore.limitChecker] at hsound
  have hgeneration := hprepares.generation_eq
  have hnonempty : candidate.points ≠ [] := by
    intro hempty
    have hlength := hsound.points.two_le
    rw [hempty] at hlength
    cases hlength
  refine ⟨⟨{ hcore with
    buffer := ⟨hcore.buffer.anchor, fun _ => hprepares.soundPoints hcore.buffer,
      hprepares.points_le_capacity⟩
    image := fun _ => hsound
    primed := fun hstate => ?_
    running := fun hstate => ?_ }, hstill, { BatchStep.refl c with
      image := fun _ _ => hnonempty }⟩, ?_⟩
  · have hprimed := hcore.primed hstate
    have hzero := hexecution (.inl hstate)
    rw [hprimed.execution, Nat.le_zero] at hzero
    have hanchored := hprepares.anchored hcore.buffer fun h => (hprimed.anchored h).1
    refine { hprimed with
      reset := fun hepoch => { hprimed.reset hepoch with }
      empty := fun hempty => absurd hempty hnonempty
      request := fun hempty => absurd hempty hnonempty
      anchored := fun _ => ⟨hanchored, hzero ▸ hcovers⟩
      unread := fun snapshot hcurrent => ?_ }
    have hcurrent' : c.Current snapshot := ⟨hcurrent.1, hcurrent.2⟩
    obtain ⟨hepoch, hsnapshot, hanchor, hstarts, hlinked⟩ := hprimed.unread snapshot hcurrent'
    have hpublished : c.buffer.image.points ≠ [] := fun hempty =>
      not_current hcore (hprimed.empty hempty) snapshot hcurrent'
    exact ⟨hepoch, hsnapshot, hanchor, hstarts,
      hprepares.linked hcore.buffer hpublished hlinked (.inl (hpriming hstate hpublished))⟩
  · obtain ⟨image, hruns⟩ := hcore.running hstate
    have hactive : ∀ {older}, older = image → context.activeGeneration < c.buffer.image.generation ∨
        older = c.buffer.image := by
      rintro older rfl
      refine (hrunning hstate).imp_right fun hsame => ?_
      exact Option.some.inj (hruns.active.symm.trans hsame)
    refine ⟨image, { hruns with
      nonempty := hnonempty
      starts := hcovers.mono (hexecution (.inr hstate))
      linked := hprepares.linked hcore.buffer hruns.nonempty hruns.linked (hactive rfl)
      unread := fun snapshot hcurrent => ?_ }⟩
    have hsuccessor := hruns.unread snapshot ⟨hcurrent.1, hcurrent.2⟩
    refine { hsuccessor with
      latest := hprepares.linked hcore.buffer hruns.nonempty hsuccessor.latest (.inl ?_) }
    refine (hactive rfl).resolve_right fun hsame => ?_
    have hlt := hsuccessor.generation
    have hle := hsuccessor.latest.le
    rw [hsame] at hlt
    omega
  · refine ⟨hnonempty, fun hstate => ?_, fun hstate snapshot hcurrent => ?_⟩
    · obtain ⟨image, hruns⟩ := hcore.running hstate
      have hle := hruns.linked.le
      change c.activeGeneration < candidate.generation
      rw [hruns.generation]
      omega
    · obtain ⟨image, hruns⟩ := hcore.running hstate
      have hle := (hruns.unread snapshot ⟨hcurrent.1, hcurrent.2⟩).latest.le
      change snapshot.trajectory.generation < candidate.generation
      omega

omit [IsStrictOrderedRing K] in
theorem keeps_publish (hcore : c.Core) (hstill : c.Still) (hfresh : Unpublished c) {arrivalNs : ℕ}
    (h : c.publish arrivalNs = some c') : Keeps c c' := by
  unfold publish at h
  split at h
  · cases h
  cases h
  have hsound := hcore.image hfresh.nonempty
  refine ⟨{ hcore with
    floor_le := hcore.floor_le.trans (Nat.le_succ _)
    consumed := hcore.consumed.trans (Nat.le_succ _)
    unread := fun snapshot hsnapshot => by
      cases hsnapshot
      exact le_rfl
    primed := fun hstate => ?_
    running := fun hstate => ?_ }, hstill, { BatchStep.refl c with }⟩
  · have hprimed := hcore.primed hstate
    refine { hprimed with
      reset := fun hepoch => { hprimed.reset hepoch with }
      empty := fun hempty => absurd hempty hfresh.nonempty
      unread := fun snapshot hcurrent => ?_ }
    cases hcurrent.1
    obtain ⟨hanchored, hstarts⟩ := hprimed.anchored hfresh.nonempty
    exact ⟨rfl, hsound, hanchored, hstarts, Linked.refl _⟩
  · obtain ⟨image, hruns⟩ := hcore.running hstate
    refine ⟨image, { hruns with
      unread := fun snapshot hcurrent => ?_ }⟩
    cases hcurrent.1
    exact
      { consumed := Nat.lt_succ_of_le hcore.consumed
        generation := hruns.generation.symm.trans_lt (hfresh.active hstate)
        epoch := rfl
        sound := hsound
        starts := hruns.starts
        linked := hruns.linked
        latest := Linked.refl _ }

omit [IsStrictOrderedRing K] in
theorem keeps_request (hcore : c.Core) (hstill : c.Still) (hnonempty : c.buffer.image.points ≠ []) :
    Keeps c { c with stopRequested := true } where
  core := { hcore with
    primed := fun hstate => { hcore.primed hstate with
      reset := fun hepoch => { (hcore.primed hstate).reset hepoch with }
      request := fun hempty => absurd hempty hnonempty }
    running := fun hstate => by
      obtain ⟨image, hruns⟩ := hcore.running hstate
      exact ⟨image, { hruns with
        unread := fun snapshot hcurrent => { hruns.unread snapshot hcurrent with } }⟩ }
  still := hstill
  step := { BatchStep.refl c with }

end Admit

end RollingTrajectoryController

open RollingTrajectoryController LabelledRun

namespace World.Sound

variable [SquareRoot K] {w : World K} {c : RollingTrajectoryController K}

theorem next_session (h : w.Sound) (hkeeps : Keeps w.controller c) {message : BatchMessage K}
    {pc : SessionPc K} (hpc : SessionSound c pc) :
    { w with controller := c, session := some (message, pc) }.Sound where
  core := hkeeps.core
  still := hkeeps.still
  tick input pc htick := (h.tick input pc htick).batch hkeeps.step
  session _ _ hnext := by
    cases hnext
    exact hpc

theorem no_session (h : w.Sound) (hkeeps : Keeps w.controller c)
    (results : List (ℕ × BatchResult)) :
    { w with controller := c, session := none, results }.Sound where
  core := hkeeps.core
  still := hkeeps.still
  tick input pc htick := (h.tick input pc htick).batch hkeeps.step
  session _ _ hnone := nomatch hnone

theorem finishBatch (h : w.Sound) (hkeeps : Keeps w.controller c) (message : BatchMessage K)
    (result : BatchResult) : (w.finishBatch message c result).Sound :=
  h.no_session ⟨hkeeps.core.bookkeeping result message.sequence c.epochSequence c.observedPositions
    c.observedFeedbackAgeMs, hkeeps.still, { hkeeps.step with }⟩ _

theorem keeps (h : w.Sound) : Keeps w.controller w.controller :=
  ⟨h.core, h.still, BatchStep.refl _⟩

theorem stepDeliver (h : w.Sound) (message : BatchMessage K) (nowNs : ℤ) :
    (w.stepDeliver message nowNs).Sound := by
  unfold World.stepDeliver
  split
  · exact h.finishBatch h.keeps message .wrongEpoch
  split
  · exact h.finishBatch h.keeps message .staleSequence
  have hkeeps : Keeps w.controller { w.controller with epochSequence := message.sequence } :=
    ⟨h.core.bookkeeping w.controller.lastResult w.controller.lastSequence message.sequence
      w.controller.observedPositions w.controller.observedFeedbackAgeMs, h.still,
      { BatchStep.refl w.controller with }⟩
  dsimp only
  split
  · exact h.finishBatch hkeeps message _
  · exact h.no_session hkeeps w.results
  · rename_i startNs hstart
    obtain ⟨haccepting, hstopping, -⟩ := admission_eq_start hstart
    obtain ⟨hrunning, hempty⟩ := accepting_eq_false haccepting
    exact h.next_session hkeeps ⟨not_or.2 ⟨hrunning, hstopping⟩, hempty⟩
  · exact h.next_session hkeeps trivial

variable [FloorSemiring K] [IsStrictOrderedRing K]

omit [IsStrictOrderedRing K] in
theorem stepAdmitting (h : w.Sound) (message : BatchMessage K) (offsetNs : ℤ) (readable : Bool) :
    (w.stepAdmitting message offsetNs readable).Sound := by
  unfold World.stepAdmitting
  split
  · exact h.no_session h.keeps w.results
  · exact h.finishBatch h.keeps message .invalidBatch
  split
  · exact h.finishBatch h.keeps message .notAccepting
  rename_i context hcontext
  split
  · exact h.finishBatch h.keeps message _
  · rename_i candidate hprepare
    exact h.next_session h.keeps ⟨context, candidate_of_prepare h.core hcontext hprepare⟩

theorem stepSession (h : w.Sound) {message : BatchMessage K} {pc : SessionPc K}
    (hsession : w.session = some (message, pc)) (nowNs : ℕ) (readable : Bool) :
    (w.stepSession message nowNs readable pc).Sound := by
  have hpc := h.session message pc hsession
  unfold World.stepSession
  cases pc with
  | starting startNs =>
    dsimp only
    split
    · exact h.finishBatch h.keeps message _
    · rename_i c locals hbegin
      obtain ⟨hkeeps, hstoring⟩ := keeps_beginSession h.core h.still hpc.1 hpc.2 hbegin
      exact h.next_session hkeeps hstoring
  | storing store locals =>
    refine h.next_session (keeps_storeStart h.core h.still hpc) ?_
    cases hnext : store.next with
    | none => trivial
    | some next => exact Storing.next hpc h.core.epoch hnext
  | admitting offsetNs => exact h.stepAdmitting message offsetNs readable
  | prepared candidate =>
    dsimp only
    split
    · exact h.finishBatch h.keeps message .notAccepting
    rename_i context hcontext
    refine h.next_session h.keeps ⟨hpc, fun _ => ?_⟩
    rcases buildAdmissionContext_eq_some hcontext with ⟨-, -, rfl⟩ | ⟨-, hexecution, -⟩
    · exact Nat.zero_le _
    · exact hexecution.le
  | committing candidate context =>
    dsimp only
    split
    · exact h.finishBatch h.keeps message _
    · rename_i buffer hcommit
      obtain ⟨⟨context', hcandidate⟩, hexecution⟩ := hpc
      obtain ⟨hkeeps, hfresh⟩ := keeps_commit h.core h.still hcandidate hexecution hcommit
      exact h.next_session hkeeps hfresh
  | publishing =>
    dsimp only
    split
    · exact h.next_session h.keeps (Unpublished.nonempty hpc)
    · rename_i c hpublish
      exact h.finishBatch (keeps_publish h.core h.still hpc hpublish) message .accepted
  | reporting =>
    refine h.next_session ⟨h.core.recordStopReason _, h.still, { BatchStep.refl _ with }⟩ ?_
    exact hpc
  | requesting => exact h.finishBatch (keeps_request h.core h.still hpc) message .notAccepting

theorem step (h : w.Sound) (label : Label K) : (w.step label).Sound := by
  unfold World.step
  cases label with
  | tick input observedPositions feedbackAgeMs =>
    dsimp only
    split
    · exact h
    · have hcore := h.core.bookkeeping w.controller.lastResult w.controller.lastSequence
        w.controller.epochSequence observedPositions feedbackAgeMs
      refine ⟨hcore, h.still, fun _ _ hnext => ?_, fun message pc hsession => ?_⟩
      · cases hnext
        exact fun hattempt => absurd hattempt (Nat.lt_irrefl 0)
      · refine (h.session message pc hsession).realtime ?_
        exact { RtStep.refl w.controller with
          reset := fun _ _ hreset hepoch => { hreset hepoch with }
          unpublished := fun _ hfresh => { hfresh with } }
  | realtime nowNs =>
    dsimp only
    split
    · exact h
    · rename_i input pc htick
      exact h.stepTick htick nowNs
  | deliver message nowNs =>
    dsimp only
    split
    · exact h
    · exact h.stepDeliver message nowNs
  | admission nowNs readable =>
    dsimp only
    split
    · exact h
    · rename_i message pc hsession
      exact h.stepSession hsession nowNs _

theorem run (h : w.Sound) (labels : List (Label K)) :
    (LabelledRun.run World.step w labels).Sound :=
  invariant_all (P := World.Sound) (fun _ label hsound => step hsound label) h labels

omit [FloorSemiring K] [IsStrictOrderedRing K] in
theorem activated (configuration : RuntimeConfiguration K) (sourceCommands : Axis → K)
    (actualPositions : Axis → Option K) (feedbackAgeMs : Option K) (activationEpoch : ℕ)
    {publicationSequence : ℕ} {unread : Option (RollingSnapshot K)}
    (h : ∀ snapshot ∈ unread, snapshot.publicationSequence ≤ publicationSequence) :
    (World.activated configuration sourceCommands actualPositions feedbackAgeMs activationEpoch
      publicationSequence unread).Sound where
  core :=
    { limitChecker := rfl
      stopChecker := rfl
      buffer := ⟨rfl, fun hnonempty => absurd rfl hnonempty, Nat.zero_le _⟩
      anchor := fun _ => rfl
      image := fun hnonempty => absurd rfl hnonempty
      epoch := le_rfl
      floor_pos := Nat.one_pos
      floor_le := Nat.succ_le_succ (Nat.zero_le _)
      consumed := Nat.zero_le _
      unread := h
      alive := SessionState.noConfusion
      primed := nofun
      running := nofun
      stopping := nofun }
  still _ := ⟨rfl, rfl⟩
  tick _ _ hnone := nomatch hnone
  session _ _ hnone := nomatch hnone

end World.Sound

end RobotDriver.Rolling
