import RobotDriver.Rolling.SpliceContinuity

/-!
# Every call of `handleBatch` ends with a result

A call moves through its program counters downwards, and it ends with one result unless a time stamp
with negative seconds reaches its conversion. The call then ends without a result, and a session
that it has started stays.
-/

namespace RobotDriver.Rolling

open LabelledRun RollingTrajectoryController

/-- The steps that a call has left, at most. -/
def StartStore.rank (store : StartStore) : ℕ := 16 - store.index

section Conversion

variable {K : Type*}

def SessionPc.rank : SessionPc K → ℕ
  | .starting _ => 17
  | .storing store _ => store.rank
  | .admitting _ => 6
  | .prepared _ => 5
  | .committing _ _ => 4
  | .publishing => 3
  | .reporting => 2
  | .requesting => 1

theorem rank_of_store (store : StartStore) (locals : StartLocals) :
    (store.next.elim (.admitting 0) (.storing · locals) : SessionPc K).rank < store.rank := by
  cases store <;> simp [StartStore.next, SessionPc.rank, StartStore.rank, StartStore.index]

theorem Stamp.nanoseconds_eq_none {stamp : Stamp} : stamp.nanoseconds = none ↔ stamp.sec < 0 := by
  unfold nanoseconds
  split <;> simp [*]

theorem pointViews_eq_thrown {offsetNs : ℤ} (hoffset : 0 ≤ offsetNs)
    {points : List (MessagePoint K)} :
    pointViews offsetNs points = .thrown ↔ ∃ point ∈ points, point.timeFromStart.sec < 0 := by
  induction points with
  | nil => simp [pointViews]
  | cons point rest ih =>
    rw [pointViews]
    cases hstamp : point.timeFromStart.nanoseconds with
    | none => simp [Stamp.nanoseconds_eq_none.1 hstamp]
    | some durationNs =>
      have hsec : ¬point.timeFromStart.sec < 0 := fun hsec => by
        rw [Stamp.nanoseconds_eq_none.2 hsec] at hstamp
        cases hstamp
      have hduration : 0 ≤ durationNs := by
        unfold Stamp.nanoseconds at hstamp
        rw [if_neg hsec] at hstamp
        obtain rfl := Option.some.inj hstamp
        omega
      dsimp only
      rw [if_neg (by omega)]
      simp only [List.mem_cons, exists_eq_or_imp, hsec, false_or, ← ih]
      cases pointViews offsetNs rest <;> simp

end Conversion

variable {K : Type*} [Field K] [LinearOrder K]

namespace World

/-- The message of the call that a step works on. -/
def call (w : World K) : Label K → Option (BatchMessage K)
  | .deliver message _ => if w.session.isSome then none else some message
  | .admission _ _ => w.session.map (·.1)
  | _ => none

/-- The steps left of the call, before the step. -/
def callRank (w : World K) : ℕ := w.session.elim 18 (·.2.rank)

variable [FloorSemiring K] [SquareRoot K]

/-- A step of a call comes closer to its end, or it ends the call with one recorded result. -/
def Answers (w : World K) (label : Label K) : Prop :=
  ∀ message, w.call label = some message →
    (∃ pc, (w.step label).session = some (message, pc) ∧ (w.step label).results = w.results ∧
      pc.rank < w.callRank) ∨
    ∃ result, (w.step label).session = none ∧
      (w.step label).results = (message.sequence, result) :: w.results ∧
        (w.step label).controller.lastResult = result ∧
          (w.step label).controller.lastSequence = message.sequence

/-- No time stamp with negative seconds reaches its conversion. -/
def ConvertsTimes (w : World K) : Label K → Prop
  | .deliver message _ => w.session = none → message.epoch = w.controller.activationEpoch →
      w.controller.epochSequence < message.sequence → 0 < message.points.length →
        message.points.length ≤ transportMaxPoints → 0 ≤ message.replaceFrom.sec
  | .admission _ _ => ∀ message offsetNs, w.session = some (message, .admitting offsetNs) →
      ∀ point ∈ message.points, 0 ≤ point.timeFromStart.sec
  | _ => True

/-- The offset of a session is not negative. -/
def OffsetSound (w : World K) : Prop :=
  ∀ message offsetNs, w.session = some (message, .admitting offsetNs) → 0 ≤ offsetNs

variable {w : World K} {message : BatchMessage K}

omit [FloorSemiring K] [SquareRoot K] in
theorem finishBatch_answers (c : RollingTrajectoryController K) (result : BatchResult) :
    ∃ answer, (w.finishBatch message c result).session = none ∧
      (w.finishBatch message c result).results = (message.sequence, answer) :: w.results ∧
        (w.finishBatch message c result).controller.lastResult = answer ∧
          (w.finishBatch message c result).controller.lastSequence = message.sequence :=
  ⟨result, rfl, rfl, rfl, rfl⟩

omit [FloorSemiring K] [SquareRoot K] in
theorem admission_eq_thrown {c : RollingTrajectoryController K} {nowNs : ℤ} :
    c.admission message nowNs = .thrown ↔ 0 < message.points.length ∧
      message.points.length ≤ transportMaxPoints ∧ message.replaceFrom.sec < 0 := by
  unfold RollingTrajectoryController.admission
  by_cases hcount : message.points.length = 0 ∨ transportMaxPoints < message.points.length
  · rw [if_pos hcount]
    simp only [reduceCtorEq, false_iff]
    omega
  · rw [if_neg hcount]
    cases hstamp : message.replaceFrom.nanoseconds with
    | none =>
      have hsec := Stamp.nanoseconds_eq_none.1 hstamp
      simp only [true_iff]
      omega
    | some replaceFromNs =>
      have hsec : ¬message.replaceFrom.sec < 0 := fun hsec => by
        rw [Stamp.nanoseconds_eq_none.2 hsec] at hstamp
        cases hstamp
      simp only [hsec, and_false, iff_false]
      split_ifs <;> nofun

theorem answers_of_no_call {label : Label K} (h : w.call label = none) : w.Answers label := by
  intro message hcall
  rw [h] at hcall
  cases hcall

theorem answers_of_step {label : Label K} (hcall : w.call label = some message)
    (h : (∃ pc, (w.step label).session = some (message, pc) ∧ (w.step label).results = w.results ∧
        pc.rank < w.callRank) ∨
      ∃ result, (w.step label).session = none ∧
        (w.step label).results = (message.sequence, result) :: w.results ∧
          (w.step label).controller.lastResult = result ∧
            (w.step label).controller.lastSequence = message.sequence) : w.Answers label := by
  intro other hother
  obtain rfl : message = other := Option.some.inj (hcall.symm.trans hother)
  exact h

theorem not_answers_of_silent {label : Label K} (hcall : w.call label = some message)
    (hsession : (w.step label).session = none) (hresults : (w.step label).results = w.results) :
    ¬w.Answers label := by
  intro hanswers
  rcases hanswers message hcall with ⟨pc, hpc, -⟩ | ⟨result, -, hanswer, -⟩
  · rw [hsession] at hpc
    cases hpc
  · rw [hresults] at hanswer
    have hlength := congrArg List.length hanswer
    simp at hlength

omit [FloorSemiring K] [SquareRoot K] in
theorem converts_of_not_admitting {pc : SessionPc K} {nowNs : ℕ} {readable : Bool}
    (hsession : w.session = some (message, pc)) (hpc : ∀ offsetNs, pc ≠ .admitting offsetNs) :
    w.ConvertsTimes (.admission nowNs readable) := by
  intro other offsetNs hother
  rw [hsession] at hother
  cases hother
  exact absurd rfl (hpc offsetNs)

theorem answers_deliver (nowNs : ℤ) :
    w.Answers (.deliver message nowNs) ↔ w.ConvertsTimes (.deliver message nowNs) := by
  cases hsession : w.session with
  | some current =>
    have hnone : w.call (.deliver message nowNs) = none := by
      unfold call
      rw [hsession]
      rfl
    exact ⟨fun _ hfree => (by rw [hsession] at hfree; cases hfree), fun _ =>
      answers_of_no_call hnone⟩
  | none =>
    have hcall : w.call (.deliver message nowNs) = some message := by
      unfold call
      rw [hsession]
      rfl
    have hstep : w.step (.deliver message nowNs) = w.stepDeliver message nowNs := by
      unfold step
      rw [hsession]
    by_cases hepoch : message.epoch = w.controller.activationEpoch
    swap
    · refine ⟨fun _ _ h => absurd h hepoch, fun _ => answers_of_step hcall (.inr ?_)⟩
      rw [hstep, stepDeliver, if_pos hepoch]
      exact finishBatch_answers _ _
    by_cases hfresh : w.controller.epochSequence < message.sequence
    swap
    · refine ⟨fun _ _ _ h => absurd h hfresh, fun _ => answers_of_step hcall (.inr ?_)⟩
      rw [hstep, stepDeliver, if_neg (not_not.2 hepoch), if_pos (not_lt.1 hfresh)]
      exact finishBatch_answers _ _
    have hdeliver := hstep.trans
      ((if_neg (not_not.2 hepoch)).trans (if_neg (not_le.2 hfresh)))
    have hconverts : w.ConvertsTimes (.deliver message nowNs) ↔
        w.controller.admission message nowNs ≠ .thrown := by
      rw [Ne, admission_eq_thrown]
      constructor
      · intro h hthrown
        exact absurd (h hsession hepoch hfresh hthrown.1 hthrown.2.1) (not_le.2 hthrown.2.2)
      · intro h _ _ _ hpositive hle
        exact not_lt.1 fun hsec => h ⟨hpositive, hle, hsec⟩
    rw [hconverts]
    cases hadmission : w.controller.admission message nowNs with
    | result result =>
      refine ⟨fun _ => by rintro ⟨⟩, fun _ => answers_of_step hcall (.inr ?_)⟩
      rw [hdeliver, hadmission]
      exact finishBatch_answers _ _
    | thrown =>
      refine ⟨fun hanswers => absurd hanswers (not_answers_of_silent hcall ?_ ?_),
        fun h => absurd rfl h⟩
      · rw [hdeliver, hadmission]
      · rw [hdeliver, hadmission]
    | start startNs =>
      refine ⟨fun _ => by rintro ⟨⟩, fun _ => answers_of_step hcall (.inl ⟨.starting startNs, ?_⟩)⟩
      rw [hdeliver, hadmission, callRank, hsession]
      exact ⟨rfl, rfl, (by decide : 17 < 18)⟩
    | «continue» offsetNs =>
      refine ⟨fun _ => by rintro ⟨⟩,
        fun _ => answers_of_step hcall (.inl ⟨.admitting offsetNs, ?_⟩)⟩
      rw [hdeliver, hadmission, callRank, hsession]
      exact ⟨rfl, rfl, (by decide : 6 < 18)⟩


theorem answers_admission (hoffset : w.OffsetSound) (nowNs : ℕ) (readable : Bool) :
    w.Answers (.admission nowNs readable) ↔ w.ConvertsTimes (.admission nowNs readable) := by
  cases hsession : w.session with
  | none =>
    have hnone : w.call (.admission nowNs readable) = none := by
      unfold call
      rw [hsession]
      rfl
    refine ⟨fun _ message offsetNs hadmitting => ?_, fun _ => answers_of_no_call hnone⟩
    rw [hsession] at hadmitting
    cases hadmitting
  | some current =>
    obtain ⟨message, pc⟩ := current
    have hcall : w.call (.admission nowNs readable) = some message := by
      unfold call
      rw [hsession]
      rfl
    have hstep : w.step (.admission nowNs readable) =
        w.stepSession message nowNs (readable && w.tick.isNone) pc := by
      unfold step
      rw [hsession]
    have hrank : w.callRank = pc.rank := by
      rw [callRank, hsession]
      rfl
    cases pc with
    | admitting offsetNs =>
      have hstep' : w.step (.admission nowNs readable) =
          w.stepAdmitting message offsetNs (readable && w.tick.isNone) := hstep
      have hconverts : w.ConvertsTimes (.admission nowNs readable) ↔
          pointViews offsetNs message.points ≠ .thrown := by
        rw [Ne, pointViews_eq_thrown (hoffset _ _ hsession)]
        simp only [not_exists, not_and, not_lt]
        constructor
        · exact fun h => h _ _ hsession
        · intro h other otherNs hother
          rw [hsession] at hother
          cases hother
          exact h
      rw [hconverts]
      unfold stepAdmitting at hstep'
      cases hviews : pointViews offsetNs message.points with
      | thrown =>
        rw [hviews] at hstep'
        refine ⟨fun hanswers => absurd hanswers (not_answers_of_silent hcall ?_ ?_),
          fun h => absurd rfl h⟩
        · rw [hstep']
        · rw [hstep']
      | invalid =>
        rw [hviews] at hstep'
        refine ⟨fun _ => nofun, fun _ => answers_of_step hcall (.inr ?_)⟩
        rw [hstep']
        exact finishBatch_answers _ _
      | views points =>
        rw [hviews] at hstep'
        dsimp only at hstep'
        refine ⟨fun _ => nofun, fun _ => answers_of_step hcall ?_⟩
        rw [hstep', hrank]
        split
        · exact .inr (finishBatch_answers _ _)
        split
        · exact .inr (finishBatch_answers _ _)
        · exact .inl ⟨_, rfl, rfl, (by decide : 5 < 6)⟩
    | starting startNs | prepared candidate | committing candidate context =>
      refine ⟨fun _ => converts_of_not_admitting hsession nofun, fun _ => answers_of_step hcall ?_⟩
      rw [hstep, hrank, stepSession]
      split
      · exact .inr (finishBatch_answers _ _)
      · exact .inl ⟨_, rfl, rfl, Nat.lt_succ_self _⟩
    | storing store locals =>
      refine ⟨fun _ => converts_of_not_admitting hsession nofun, fun _ => answers_of_step hcall ?_⟩
      rw [hstep, hrank, stepSession]
      exact .inl ⟨_, rfl, rfl, rank_of_store store locals⟩
    | publishing =>
      refine ⟨fun _ => converts_of_not_admitting hsession nofun, fun _ => answers_of_step hcall ?_⟩
      rw [hstep, hrank, stepSession]
      split
      · exact .inl ⟨_, rfl, rfl, (by decide : 2 < 3)⟩
      · exact .inr (finishBatch_answers _ _)
    | reporting =>
      refine ⟨fun _ => converts_of_not_admitting hsession nofun, fun _ => answers_of_step hcall ?_⟩
      rw [hstep, hrank, stepSession]
      exact .inl ⟨_, rfl, rfl, (by decide : 1 < 2)⟩
    | requesting =>
      refine ⟨fun _ => converts_of_not_admitting hsession nofun, fun _ => answers_of_step hcall ?_⟩
      rw [hstep, stepSession]
      exact .inr (finishBatch_answers _ _)

omit [FloorSemiring K] [SquareRoot K] in
theorem session_finishTick (updated : RollingTrajectoryController K × Bool) :
    (w.finishTick updated).session = w.session := by
  unfold finishTick
  split
  · split
    · rfl
    · rfl
  · rfl

omit [SquareRoot K] in
theorem session_stepTick (input : TickInput) (nowNs : ℕ) (pc : TickPc) :
    (w.stepTick input nowNs pc).session = w.session := by
  cases pc with
  | epoch attempt | recheck attempt epoch state | stopRequest state | primeStart =>
    rw [stepTick]
    split_ifs <;> rfl
  | reset attempt epoch =>
    rw [stepTick]
    split <;> rfl
  | state attempt epoch => rfl
  | body state | stop | write => exact session_finishTick _

omit [FloorSemiring K] [SquareRoot K] in
theorem offset_of_admission {c : RollingTrajectoryController K} {nowNs offsetNs : ℤ}
    (h : c.admission message nowNs = .continue offsetNs) : 0 ≤ offsetNs := by
  unfold RollingTrajectoryController.admission at h
  split at h
  · cases h
  split at h
  · cases h
  split at h
  · cases h
  split at h
  · split at h
    · cases h
    · rename_i hoffset
      cases h
      exact not_lt.1 hoffset
  split at h
  · cases h
  split at h <;> cases h

omit [FloorSemiring K] [SquareRoot K] in
theorem offsetSound_stepDeliver (nowNs : ℤ) : (w.stepDeliver message nowNs).OffsetSound := by
  unfold World.stepDeliver
  intro other offsetNs hother
  split at hother
  · cases hother
  split at hother
  · cases hother
  dsimp only at hother
  split at hother
  · cases hother
  · cases hother
  · cases hother
  · rename_i hadmission
    cases hother
    exact offset_of_admission hadmission

theorem offsetSound_stepSession (pc : SessionPc K) (nowNs : ℕ) (readable : Bool) :
    (w.stepSession message nowNs readable pc).OffsetSound := by
  intro other offsetNs hother
  cases pc with
  | starting startNs | prepared candidate | committing candidate context | publishing =>
    rw [World.stepSession] at hother
    split at hother <;> cases hother
  | storing store locals =>
    rw [World.stepSession] at hother
    cases hnext : store.next with
    | none =>
      rw [hnext] at hother
      cases hother
      exact le_rfl
    | some next =>
      rw [hnext] at hother
      cases hother
  | admitting current =>
    rw [World.stepSession, stepAdmitting] at hother
    split at hother
    · cases hother
    · cases hother
    split at hother
    · cases hother
    split at hother <;> cases hother
  | reporting => cases hother
  | requesting => cases hother

theorem OffsetSound.step (h : w.OffsetSound) (label : Label K) : (w.step label).OffsetSound := by
  unfold World.step
  cases label with
  | tick input observedPositions feedbackAgeMs =>
    dsimp only
    split
    · exact h
    · exact h
  | realtime nowNs =>
    dsimp only
    split
    · exact h
    · intro message offsetNs hadmitting
      rw [session_stepTick] at hadmitting
      exact h message offsetNs hadmitting
  | deliver message nowNs =>
    dsimp only
    split
    · exact h
    · exact offsetSound_stepDeliver nowNs
  | admission nowNs readable =>
    dsimp only
    split
    · exact h
    · exact offsetSound_stepSession _ nowNs _

theorem answers_iff (h : w.OffsetSound) (label : Label K) :
    w.Answers label ↔ w.ConvertsTimes label := by
  cases label with
  | tick input observedPositions feedbackAgeMs | realtime nowNs =>
    exact ⟨fun _ => trivial, fun _ => answers_of_no_call rfl⟩
  | deliver message nowNs => exact answers_deliver nowNs
  | admission nowNs readable => exact answers_admission h nowNs readable

/-- Every call ends with one recorded result, and in at most eighteen steps, as long as no time
stamp with negative seconds reaches its conversion. -/
theorem admission_is_total (configuration : RuntimeConfiguration K) (sourceCommands : Axis → K)
    (actualPositions : Axis → Option K) (feedbackAgeMs : Option K)
    (activationEpoch publicationSequence : ℕ) (unread : Option (RollingSnapshot K))
    (labels : List (Label K)) :
    Along step Answers (activated configuration sourceCommands actualPositions feedbackAgeMs
        activationEpoch publicationSequence unread) labels ↔
      Along step ConvertsTimes (activated configuration sourceCommands actualPositions
        feedbackAgeMs activationEpoch publicationSequence unread) labels :=
  along_congr (along_of_invariant (P := OffsetSound) (fun _ label h => h.step label)
    (fun _ label h => answers_iff h label) (by rintro _ _ ⟨⟩) labels)

end World

namespace Standstill

/-- The second point of the first batch lies one second before its start. -/
def backwards : BatchMessage ℚ where
  epoch := 1
  sequence := 1
  replaceFrom := stamp (10 ^ 9)
  points := [⟨stamp 0, zeros, zeros⟩, ⟨⟨-1, 0⟩, zeros, zeros⟩]
  final := false

/-- The first batch is to replace from one second before the epoch of the clock. -/
def backdated : BatchMessage ℚ := { backwards with replaceFrom := ⟨-1, 0⟩ }

theorem not_answered {w : World ℚ} {label : Label ℚ} (hcall : (w.call label).isSome = true)
    (hends : (w.step label).session.isSome = false) (hresults : (w.step label).results = []) :
    ¬w.Answers label := by
  intro hanswers
  obtain ⟨message, hmessage⟩ := Option.isSome_iff_exists.1 hcall
  rcases hanswers message hmessage with ⟨next, hnext, -⟩ | ⟨result, -, hresult, -⟩
  · rw [hnext] at hends
    cases hends
  · rw [hresults] at hresult
    cases hresult

theorem backwards_is_not_answered :
    ¬Along World.step World.Answers initial (batch backdated (99 * 10 ^ 7) 0) ∧
      ¬Along World.step World.Answers initial
        (batch backwards (99 * 10 ^ 7) 11 ++ [.admission (99 * 10 ^ 7) true]) := by
  constructor
  · intro h
    exact not_answered (by decide +kernel) (by decide +kernel) (by decide +kernel) h.1
  · intro h
    have hlast := ((along_append _ _ _).1 h).2.1
    exact not_answered (by decide +kernel) (by decide +kernel) (by decide +kernel) hlast

example : (run World.step initial (batch backwards (99 * 10 ^ 7) 12)).controller.epochSequence = 1 ∧
    (run World.step initial (batch backwards (99 * 10 ^ 7) 12)).controller.lastSequence = 0 ∧
    (run World.step initial (batch backwards (99 * 10 ^ 7) 12)).controller.rtSessionState =
      .priming := by
  decide +kernel

end Standstill

end RobotDriver.Rolling
