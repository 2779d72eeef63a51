import RobotDriver.Rolling.TickInvariant

/-!
# What a run records

No tick writes the words of the batches, so every accepted answer is one publication, in the order
of the sequence numbers. What a tick writes to the interfaces it has checked.
-/

namespace RobotDriver.Rolling

open RollingTrajectoryController LabelledRun

variable {K : Type*} [Field K] [LinearOrder K]

namespace RollingTrajectoryController

variable {c c' : RollingTrajectoryController K}

/-- The words that no tick writes. -/
def words (c : RollingTrajectoryController K) : RuntimeConfiguration K × ℕ × ℕ :=
  (c.configuration, c.publicationSequence, c.epochSequence)

theorem words_consume (priming : Bool) :
    (c.consumeLatestRtTrajectory priming).1.words = c.words := by
  have hcases := consume_cases c priming
  generalize c.consumeLatestRtTrajectory priming = consumed at hcases
  cases hcases with
  | unchanged | invalid => rfl
  | accepted _ _ htakes =>
    rw [htakes.eq_taken]
    rfl

theorem words_resetRtEpoch {epoch : ℕ} (h : c.resetRtEpoch epoch = some c') :
    c'.words = c.words := by
  unfold resetRtEpoch at h
  grind [words]

theorem words_sampleActive (trajectory : TrajectoryImage K) (timeNs : ℕ) :
    (c.sampleActive trajectory timeNs).1.words = c.words := by
  unfold sampleActive
  split <;> rfl

theorem words_advanceRtFinal (trajectory : TrajectoryImage K) (periodNs : ℤ) :
    (c.advanceRtFinal trajectory periodNs).1.words = c.words := by
  unfold advanceRtFinal updateRtReplaceableBoundary recordStopReason
  grind [words, words_sampleActive]

theorem words_advanceRtStop (periodNs : ℤ) : (c.advanceRtStop periodNs).1.words = c.words := by
  unfold advanceRtStop
  grind [words]

variable [FloorSemiring K]

theorem words_beginRtStop (reason : StopReason) : (c.beginRtStop reason).1.words = c.words := by
  unfold beginRtStop beginStopTrajectory recordStopReason
  grind [words]

theorem words_advanceRunning (trajectory : TrajectoryImage K) (periodNs : ℤ) :
    (c.advanceRunning trajectory periodNs).1.words = c.words := by
  unfold advanceRunning updateRtReplaceableBoundary
  grind [words, words_sampleActive, words_beginRtStop]

theorem words_updateRunning (periodNs : ℤ) (nowNs : ℕ) :
    (c.updateRunning periodNs nowNs).1.words = c.words := by
  unfold updateRunning
  grind [words_beginRtStop, words_advanceRtFinal, words_advanceRunning]

theorem words_updateBody (busy : Bool) (state : SessionState) (periodNs : ℤ) (nowNs : ℕ) :
    (World.updateBody c busy state periodNs nowNs).1.words = c.words := by
  have hconsume := words_consume (c := c)
  unfold World.updateBody
  cases state with
  | priming =>
    specialize hconsume true
    grind [words_beginRtStop]
  | running =>
    specialize hconsume false
    grind [words_beginRtStop, words_updateRunning]
  | stopping => exact words_advanceRtStop _
  | _ => rfl

end RollingTrajectoryController

theorem publicResult_ne {code : RejectCode} (h : code ≠ .none) : publicResult code ≠ .accepted := by
  cases code <;> first | exact BatchResult.noConfusion | exact absurd rfl h

theorem RollingBuffer.prepare_ne [SquareRoot K] {buffer : RollingBuffer K} {batch : BatchView K}
    {context : AdmissionContext} {code : RejectCode}
    (h : buffer.prepare batch context = .error code) : code ≠ .none := by
  unfold prepare at h
  repeat' split at h
  all_goals cases h
  · exact RejectCode.noConfusion
  · grind [splice]
  all_goals first | assumption | exact RejectCode.noConfusion

theorem RollingBuffer.commit_ne {buffer : RollingBuffer K} {candidate : TrajectoryImage K}
    {context : AdmissionContext} {code : RejectCode}
    (h : buffer.commit candidate context = .error code) : code ≠ .none := by
  unfold commit at h
  grind

namespace World

/-- The sequence numbers of the accepted batches, newest first. -/
def accepted (w : World K) : List ℕ := (w.results.filter (·.2 = .accepted)).map Prod.fst

/-- With the batch that is being admitted. -/
def stream (w : World K) : List ℕ := (w.session.map (·.1.sequence)).toList ++ w.accepted

/-- Every accepted answer is one publication, and their sequence numbers increase. -/
def Publishes (start : ℕ) (w : World K) : Prop :=
  w.accepted.Pairwise (· > ·) ∧ w.controller.publicationSequence = start + w.accepted.length

/-- Every command was safe. -/
def CommandsSafely (configuration : RuntimeConfiguration K) (w : World K) : Prop :=
  ∀ p ∈ w.commanded, ∀ axis,
    (configuration.limitChecker.envelope axis).safeLower ≤ p axis ∧
      p axis ≤ (configuration.limitChecker.envelope axis).safeUpper

/-- What `w` records of a run from `start`. -/
structure Records (start w : World K) : Prop where
  configuration : w.controller.configuration = start.controller.configuration
  commands : w.CommandsSafely start.controller.configuration
  published : w.controller.publicationSequence =
    start.controller.publicationSequence + w.accepted.length
  increasing : w.stream.Pairwise (· > ·)
  begun : ∀ sequence ∈ w.stream, sequence ≤ w.controller.epochSequence

namespace Records

variable {start w next : World K}

theorem of_step (h : Records start w)
    (hfixed : (next.controller.configuration, next.commanded) =
      (w.controller.configuration, w.commanded))
    (hpublished : next.controller.publicationSequence + w.accepted.length =
      w.controller.publicationSequence + next.accepted.length)
    (hepoch : w.controller.epochSequence ≤ next.controller.epochSequence)
    (hstream : next.stream.Sublist w.stream) : Records start next := by
  simp only [Prod.mk.injEq] at hfixed
  obtain ⟨hconfiguration, hcommanded⟩ := hfixed
  refine ⟨hconfiguration.trans h.configuration, ?_, ?_, h.increasing.sublist hstream,
    fun sequence hsequence => (h.begun sequence (hstream.subset hsequence)).trans hepoch⟩
  · rw [CommandsSafely, hcommanded]
    exact h.commands
  · have hbefore := h.published
    omega

theorem tick (h : Records start w) {c : RollingTrajectoryController K}
    (hwords : c.words = w.controller.words) (tick : Option (TickInput × TickPc)) :
    Records start { w with controller := c, tick } := by
  simp only [words, Prod.mk.injEq] at hwords
  obtain ⟨hconfiguration, hpublication, hepoch⟩ := hwords
  refine h.of_step ?_ (congrArg (· + w.accepted.length) hpublication) hepoch.ge
    (List.Sublist.refl _)
  rw [hconfiguration]

theorem finishTick (h : Records start w) {updated : RollingTrajectoryController K × Bool}
    (hwords : updated.1.words = w.controller.words) : Records start (w.finishTick updated) := by
  have hkeep := h.tick hwords none
  unfold World.finishTick writeRtDesired
  split
  · by_cases hvalid : updated.1.desiredIsValid updated.1.rtDesired = true
    · rw [if_pos hvalid]
      refine { hkeep with commands := List.forall_mem_cons.2 ⟨fun axis => ?_, h.commands⟩ }
      have haxis := (LimitChecker.desiredIsValid_iff.1 hvalid axis).1
      rwa [show updated.1.configuration = _ from hkeep.configuration] at haxis
    · rw [if_neg hvalid]
      exact hkeep
  · exact hkeep

theorem refused (h : Records start w) (message : BatchMessage K) {epochSequence : ℕ}
    (hle : w.controller.epochSequence ≤ epochSequence) {result : BatchResult}
    (hresult : result ≠ .accepted) :
    Records start (w.finishBatch message { w.controller with epochSequence } result) := by
  have hsame : (w.finishBatch message { w.controller with epochSequence } result).accepted =
      w.accepted := by
    rw [accepted, finishBatch, List.filter_cons_of_neg (by simpa using hresult), accepted]
  refine h.of_step rfl ?_ hle ?_
  · rw [hsame]
    rfl
  · rw [stream, hsame]
    exact List.sublist_append_right _ _

theorem stepDeliver (h : Records start w) (hfree : w.session = none) (message : BatchMessage K)
    (nowNs : ℤ) : Records start (w.stepDeliver message nowNs) := by
  unfold World.stepDeliver
  split
  · exact h.refused message le_rfl BatchResult.noConfusion
  split
  · exact h.refused message le_rfl BatchResult.noConfusion
  rename_i hnew
  rw [not_le] at hnew
  have hbegun : ∀ pc, Records start { w with
      controller := { w.controller with epochSequence := message.sequence }
      session := some (message, pc) } := by
    have hbefore := h.begun
    have hincreasing := h.increasing
    rw [stream, hfree] at hbefore hincreasing
    refine fun pc => { h with
      increasing := List.pairwise_cons.2 ⟨fun sequence hsequence => ?_, hincreasing⟩
      begun := List.forall_mem_cons.2 ⟨le_rfl, fun sequence hsequence => ?_⟩ }
    · exact (hbefore sequence hsequence).trans_lt hnew
    · exact (hbefore sequence hsequence).trans hnew.le
  dsimp only
  split
  · rename_i hresult
    refine h.refused message hnew.le ?_
    unfold admission at hresult
    grind
  · exact h.of_step rfl rfl hnew.le (List.sublist_append_right _ _)
  · exact hbegun _
  · exact hbegun _

variable [FloorSemiring K] [SquareRoot K]

theorem stepSession (h : Records start w) {message : BatchMessage K} {pc : SessionPc K}
    (hsession : w.session = some (message, pc)) (nowNs : ℕ) (readable : Bool) :
    Records start (w.stepSession message nowNs readable pc) := by
  have hrefused : ∀ {result}, result ≠ .accepted →
      Records start (w.finishBatch message w.controller result) := h.refused message le_rfl
  obtain ⟨c, tick, session, commanded, results⟩ := w
  obtain rfl : session = _ := hsession
  have hnext : ∀ {c' : RollingTrajectoryController K} (pc : SessionPc K), c'.words = c.words →
      Records start ⟨c', tick, some (message, pc), commanded, results⟩ := by
    intro c' pc hwords
    exact (h.tick hwords tick).of_step rfl rfl le_rfl (List.Sublist.refl _)
  unfold World.stepSession
  cases pc with
  | starting startNs =>
    dsimp only
    unfold beginSession
    split <;> rename_i hbegin
    all_goals
      repeat' split at hbegin
      all_goals cases hbegin
    all_goals first | exact hnext _ rfl | exact hrefused BatchResult.noConfusion
  | storing store locals =>
    refine hnext _ ?_
    cases store <;> rfl
  | admitting offsetNs =>
    dsimp only
    unfold World.stepAdmitting
    split
    · exact h.of_step rfl rfl le_rfl (List.sublist_append_right _ _)
    · exact hrefused BatchResult.noConfusion
    split
    · exact hrefused BatchResult.noConfusion
    split
    · exact hrefused (publicResult_ne (RollingBuffer.prepare_ne ‹_›))
    · exact hnext _ rfl
  | prepared candidate =>
    dsimp only
    split
    · exact hrefused BatchResult.noConfusion
    · exact hnext _ rfl
  | committing candidate context =>
    dsimp only
    split
    · exact hrefused (publicResult_ne (RollingBuffer.commit_ne ‹_›))
    · exact hnext _ rfl
  | publishing =>
    dsimp only
    split
    · exact hnext _ rfl
    rename_i c hpublish
    unfold publish at hpublish
    split at hpublish <;> cases hpublish
    refine h.of_step rfl ?_ le_rfl (List.Sublist.refl _)
    exact (Nat.add_assoc _ _ _).trans (congrArg _ (Nat.add_comm _ _))
  | reporting => exact hnext _ rfl
  | requesting => exact { hrefused BatchResult.noConfusion with }

theorem step (h : Records start w) (label : Label K) : Records start (w.step label) := by
  unfold World.step
  cases label with
  | tick =>
    dsimp only
    split
    · exact h
    · exact (h.tick rfl _).of_step rfl rfl le_rfl (List.Sublist.refl _)
  | realtime nowNs =>
    dsimp only
    split
    · exact h
    rename_i input pc _
    have hchange := tickChange_stepTick w input nowNs pc
    generalize w.stepTick input nowNs pc = next at hchange
    cases hchange with
    | same => exact h.tick rfl _
    | reset hreset => exact h.tick (words_resetRtEpoch hreset) _
    | body state => exact h.finishTick (words_updateBody _ _ _ _)
    | stop => exact h.finishTick (words_beginRtStop _)
    | write => exact h.finishTick rfl
  | deliver message nowNs =>
    dsimp only
    split
    · exact h
    · exact h.stepDeliver ‹_› _ _
  | admission nowNs readable =>
    dsimp only
    split
    · exact h
    · exact h.stepSession ‹_› _ _

end Records

section Activated

variable [FloorSemiring K] [SquareRoot K] (configuration : RuntimeConfiguration K)
  (sourceCommands : Axis → K) (actualPositions : Axis → Option K) (feedbackAgeMs : Option K)
  (activationEpoch publicationSequence : ℕ) (unread : Option (RollingSnapshot K))
  (labels : List (Label K))

theorem records_activated : Records
    (activated configuration sourceCommands actualPositions feedbackAgeMs activationEpoch
      publicationSequence unread)
    (run World.step (activated configuration sourceCommands actualPositions feedbackAgeMs
      activationEpoch publicationSequence unread) labels) := by
  refine invariant_all (P := Records _) (fun _ label h => h.step label) ?_ labels
  exact ⟨rfl, List.forall_mem_nil _, rfl, .nil, List.forall_mem_nil _⟩

theorem accepted_published :
    (run World.step (activated configuration sourceCommands actualPositions feedbackAgeMs
      activationEpoch publicationSequence unread) labels).Publishes publicationSequence := by
  have h := records_activated configuration sourceCommands actualPositions feedbackAgeMs
    activationEpoch publicationSequence unread labels
  exact ⟨h.increasing.sublist (List.sublist_append_right _ _), h.published⟩

end Activated

end World

end RobotDriver.Rolling
