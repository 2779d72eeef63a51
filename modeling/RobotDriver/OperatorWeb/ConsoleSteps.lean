import RobotDriver.OperatorWeb.ArmConsole

/-!
# What one step of the console does to its motion

`Acts` lists the changes that an event can make, with what the code has checked before each of them.
-/

namespace RobotDriver.OperatorWeb

variable {n : ℕ} {C P G K : Type*} [DecidableEq C] [DecidableEq P] [DecidableEq G] [Field K]
  [LinearOrder K]

omit [DecidableEq C] in
theorem ArmLease.expire_expire (arm : ArmLease C K) (now : K) :
    (arm.expire now).expire now = arm.expire now := by
  unfold expire
  cases hexpired : arm.expired now with
  | true =>
    rw [if_pos rfl]
    split <;> rfl
  | false => simp [hexpired]

namespace ArmConsole

/-- The checks that precede every move. -/
structure Admitted (config : ConsoleConfig n G K) (s : ArmConsole n C P G K) (session : C) :
    Prop where
  lease : s.holdsLease session = true
  ready : s.motionReady = none
  fresh : s.feedbackFresh config = true

/-- The planned move to the pose of the step takes no time. -/
def AlreadyReached (config : ConsoleConfig n G K) (s : ArmConsole n C P G K)
    (step : SequenceStep P G K) : Prop :=
  ∃ pose goal start, s.poses step.name = some pose ∧
    s.checkTarget config (poseTarget pose) = .ok goal ∧ s.measured config = .ok start ∧
    config.planDuration start (fun joint => goal.getD joint 0) step.gear ≤ 0

/-- What a step of `sequence` makes of the motion `m` it is taken from. -/
inductive Outcome (config : ConsoleConfig n G K) (s : ArmConsole n C P G K) (m : Motion C P G K)
    (sequence : Sequence C P G K) (accepted : Bool) : Motion C P G K → Prop
  | ended : Outcome config s m sequence accepted m.abort
  | reached (step : SequenceStep P G K) (found : sequence.steps[sequence.index]? = some step)
      (idle : m.execution = none) (arrived : s.AlreadyReached config step) :
      Outcome config s m sequence accepted
        (m.sequenceArrived s.now { sequence with dwellS := step.dwellS }
          (some (sequence.id, sequence.index)))
  | sent (step : SequenceStep P G K) (found : sequence.steps[sequence.index]? = some step)
      (idle : m.execution = none) (admitted : s.Admitted config sequence.session) :
      Outcome config s m sequence accepted
        ({ m with sequence := some { sequence with dwellS := step.dwellS } }.submit
          { sequence with dwellS := step.dwellS } accepted)

inductive Acts (config : ConsoleConfig n G K) (s : ArmConsole n C P G K) :
    ConsoleEvent n C P G K → Motion C P G K → Prop
  | keep (event : ConsoleEvent n C P G K) : Acts config s event s.toMotion
  | execute (session : C) (target : Target n K) (gear : G) (idle : s.execution = none)
      (free : s.sequence = none) :
      Acts config s (.execute session target gear) (s.record .move none).sendLater
  | send (execution : Execution) (pending : execution ∈ s.sends) :
      Acts config s (.send execution) (s.toMotion.send execution)
  | done (execution : Execution) (success : Bool)
      (handed : execution ∈ s.handed.map (·.execution)) :
      Acts config s (.done execution success) (s.toMotion.done s.now execution success)
  | stop : Acts config s .stop s.toMotion.stop
  | begin (session : C) (request : List (P × G × Double K)) (steps : List (SequenceStep P G K))
      (idle : s.execution = none) (free : s.sequence = none) :
      Acts config s (.runSequence session request) (s.begin session steps)
  | endStart (id : ℕ) (accepted : Bool)
      (other : ∀ sequence, s.sequence = some sequence → sequence.id ≠ id) :
      Acts config s (.startSequence id accepted) (s.endStart id)
  | start (id : ℕ) (accepted : Bool) (sequence : Sequence C P G K) (starting : id ∈ s.starts)
      (current : s.sequence = some sequence) (same : sequence.id = id) {m : Motion C P G K}
      (outcome : Outcome config s (s.endStart id) sequence accepted m) :
      Acts config s (.startSequence id accepted) m
  | endWorker (id : ℕ) (accepted : Bool)
      (idle : ∀ sequence, s.sequence = some sequence → sequence.id = id →
        sequence.waitUntil = none) :
      Acts config s (.work id accepted) (s.endWorker id)
  | lose (id : ℕ) (accepted : Bool) (sequence : Sequence C P G K) (working : id ∈ s.workers)
      (current : s.sequence = some sequence) (same : sequence.id = id) :
      Acts config s (.work id accepted) (s.endWorker id).abort
  | advance (id : ℕ) (accepted : Bool) (sequence : Sequence C P G K) (waitUntil : K)
      (working : id ∈ s.workers) (current : s.sequence = some sequence) (same : sequence.id = id)
      (waits : sequence.waitUntil = some waitUntil) (elapsed : waitUntil - s.now ≤ 0)
      {m : Motion C P G K}
      (outcome : Outcome config s (s.endWorker id)
        { sequence with index := sequence.index + 1, waitUntil := none } accepted m) :
      Acts config s (.work id accepted) m

variable {config : ConsoleConfig n G K} {s : ArmConsole n C P G K}

omit [DecidableEq C] [DecidableEq P] [DecidableEq G] in
theorem fresh_of_measured {positions : Fin n → K} (h : s.measured config = .ok positions) :
    s.feedbackFresh config = true := by
  unfold measured at h
  split at h
  · cases h
  · split at h
    · cases h
    · rename_i hfresh
      simpa using hfresh

omit [DecidableEq P] in
theorem idle_of_admitMove {session : C} {sequence : Option ℕ} {target : Target n K} {gear : G}
    {result : Except ErrorCode Unit}
    (h : s.admitMove config session sequence target gear = result)
    (hlease : result ≠ .error .leaseRequired) (hbusy : result ≠ .error .busy) :
    s.execution = none ∧ s.sequence.map (·.id) = sequence := by
  unfold admitMove at h
  split at h
  · exact absurd h.symm hlease
  split at h
  · exact absurd h.symm hbusy
  rename_i hfree
  simpa using hfree

omit [DecidableEq P] in
theorem admitted_of_admitMove {session : C} {sequence : Option ℕ} {target : Target n K} {gear : G}
    (h : s.admitMove config session sequence target gear = .ok ()) :
    s.Admitted config session := by
  unfold admitMove at h
  split at h
  · cases h
  rename_i hlease
  split at h
  · cases h
  split at h
  · cases h
  rename_i hready
  split at h
  · cases h
  split at h
  · cases h
  · cases h
  · rename_i hmeasured
    exact ⟨by simpa using hlease, by simpa using hready, fresh_of_measured hmeasured⟩

omit [DecidableEq C] [DecidableEq P] [DecidableEq G] in
theorem checkTarget_ne_noMotion (target : Target n K) :
    s.checkTarget config target ≠ .error .noMotion := by
  have hjoint : ∀ (bounds : K × K) (value : Option (Double K)),
      checkJoint config bounds value ≠ .error .noMotion := by
    intro bounds value
    cases value with
    | none => simp [checkJoint]
    | some value =>
      cases value with
      | finite x =>
        simp only [checkJoint]
        split <;> simp
      | _ => simp [checkJoint]
  cases target with
  | wrongJoints =>
    simp only [checkTarget]
    split <;> simp
  | values value =>
    simp only [checkTarget]
    split
    · simp
    · rename_i bounds _
      generalize List.finRange n = joints
      induction joints with
      | nil => exact nofun
      | cons joint joints ih =>
        rw [List.mapM_cons]
        cases hfirst : checkJoint config (bounds joint) (value joint) with
        | error code =>
          have hne := hjoint (bounds joint) (value joint)
          rw [hfirst] at hne
          intro h
          change Except.error code = Except.error ErrorCode.noMotion at h
          cases h
          exact hne rfl
        | ok first =>
          cases hrest : joints.mapM fun joint =>
              checkJoint config (bounds joint) (value joint) with
          | error code =>
            rw [hrest] at ih
            intro h
            change Except.error code = Except.error ErrorCode.noMotion at h
            cases h
            exact ih rfl
          | ok rest => exact nofun

omit [DecidableEq C] [DecidableEq P] [DecidableEq G] in
theorem measured_ne_noMotion : s.measured config ≠ .error .noMotion := by
  unfold measured
  split
  · simp
  · split
    · simp
    · split <;> simp

omit [DecidableEq P] in
theorem reached_of_admitMove {session : C} {sequence : Option ℕ} {target : Target n K} {gear : G}
    (h : s.admitMove config session sequence target gear = .error .noMotion) :
    ∃ goal start, s.checkTarget config target = .ok goal ∧ s.measured config = .ok start ∧
      config.planDuration start (fun joint => goal.getD joint 0) gear ≤ 0 := by
  unfold admitMove at h
  split at h
  · simp at h
  split at h
  · simp at h
  split at h
  · simp at h
  split at h
  · simp at h
  split at h
  · rename_i code htarget
    cases h
    exact absurd htarget (checkTarget_ne_noMotion target)
  · rename_i code _ hmeasured
    cases h
    exact absurd hmeasured measured_ne_noMotion
  · rename_i goal start hgoal hstart
    split at h
    · exact ⟨goal, start, hgoal, hstart, ‹_›⟩
    · cases h

omit [DecidableEq P] in
theorem admitMove_of_stepError {sequence : Sequence C P G K} {step : SequenceStep P G K}
    {result : Except ErrorCode Unit} (h : s.stepError config sequence step = result)
    (hmodel : result ≠ .error .modelUnavailable) (hpose : result ≠ .error .badPose) :
    ∃ pose, s.poses step.name = some pose ∧
      s.admitMove config sequence.session (some sequence.id) (poseTarget pose) step.gear =
        result := by
  unfold stepError at h
  split at h
  · exact absurd h.symm hmodel
  · split at h
    · exact absurd h.symm hpose
    · exact ⟨_, ‹_›, h⟩

variable (config s) in
omit [DecidableEq P] in
theorem outcome_sequenceStep (sequence : Sequence C P G K) (accepted : Bool) :
    Outcome config s s.toMotion sequence accepted
      (s.sequenceStep config sequence accepted).toMotion := by
  unfold sequenceStep
  split
  · exact .ended
  · rename_i step hstep
    dsimp only
    split
    · rename_i hok
      obtain ⟨pose, -, hadmit⟩ := admitMove_of_stepError hok (by simp) (by simp)
      have hidle := idle_of_admitMove hadmit (by simp) (by simp)
      obtain ⟨hlease, hready, hfresh⟩ := admitted_of_admitMove hadmit
      exact .sent step hstep hidle.1 ⟨hlease, hready, hfresh⟩
    · rename_i hreached
      obtain ⟨pose, hpose, hadmit⟩ := admitMove_of_stepError hreached (by simp) (by simp)
      have hidle := idle_of_admitMove hadmit (by simp) (by simp)
      obtain ⟨goal, start, hgoal, hstart, hduration⟩ := reached_of_admitMove hadmit
      exact .reached step hstep hidle.1 ⟨pose, goal, start, hpose, hgoal, hstart, hduration⟩
    · exact .ended
    · exact .ended
    · exact .ended

omit [DecidableEq P] [DecidableEq G] in
theorem Outcome.of_same {t : ArmConsole n C P G K} {m m' : Motion C P G K}
    {sequence : Sequence C P G K} {accepted : Bool}
    (h : Outcome config t m sequence accepted m') (hnow : t.now = s.now)
    (hadmitted : ∀ session, t.Admitted config session → s.Admitted config session)
    (hreached : ∀ step, t.AlreadyReached config step → s.AlreadyReached config step) :
    Outcome config s m sequence accepted m' := by
  cases h with
  | ended => exact .ended
  | reached step found idle arrived =>
    rw [hnow]
    exact .reached step found idle (hreached step arrived)
  | sent step found idle admitted => exact .sent step found idle (hadmitted _ admitted)

omit [DecidableEq P] [DecidableEq G] in
theorem Admitted.of_expireLease {m : Motion C P G K} {session : C}
    (h : Admitted config { s.expireLease with toMotion := m } session) :
    s.Admitted config session := by
  refine ⟨?_, h.ready, h.fresh⟩
  have hlease : ((s.arm.expire s.now).expire s.now).lease = some session := of_decide_eq_true h.lease
  rw [ArmLease.expire_expire] at hlease
  exact decide_eq_true hlease

variable (config s) in
theorem acts (event : ConsoleEvent n C P G K) :
    Acts config s event (s.step config event).toMotion := by
  cases event with
  | advance now =>
    simp only [step]
    split <;> exact .keep _
  | setModel bounds => exact .keep _
  | setPose name pose => exact .keep _
  | update robot => exact .keep _
  | touch session => exact .keep _
  | acquire session => exact .keep _
  | release session => exact .keep _
  | readLease => exact .keep _
  | beginEnable session =>
    simp only [step, beginEnable]
    split <;> exact .keep _
  | endEnable => exact .keep _
  | execute session target gear =>
    simp only [step, ArmConsole.execute]
    split
    · exact .keep _
    · rename_i hadmit
      have hidle := idle_of_admitMove hadmit (by simp) (by simp)
      exact .execute session target gear hidle.1 (by simpa using hidle.2)
  | send execution =>
    simp only [step]
    split
    · exact .send execution ‹_›
    · exact .keep _
  | done execution success =>
    simp only [step]
    split
    · exact .done execution success ‹_›
    · exact .keep _
  | stop => exact .stop
  | runSequence session steps =>
    simp only [step, ArmConsole.runSequence]
    split
    · exact .keep _
    · split
      · rename_i hfree
        simp only [Bool.and_eq_true, Option.isNone_iff_eq_none] at hfree
        exact .begin session steps _ hfree.1.1.1.1.2 hfree.1.1.1.2
      · exact .keep _
  | startSequence id accepted =>
    simp only [step, startSequence]
    split
    · rename_i hstarting
      split
      · rename_i sequence hsequence
        split
        · rename_i hsame
          refine .start id accepted sequence hstarting hsequence hsame ?_
          have houtcome := outcome_sequenceStep config
            { s with toMotion := s.endStart id } sequence accepted
          exact houtcome.of_same rfl (fun _ h => ⟨h.lease, h.ready, h.fresh⟩) fun _ h => h
        · rename_i hother
          refine .endStart id accepted fun other hcurrent => ?_
          rw [show s.sequence = some sequence from hsequence] at hcurrent
          cases hcurrent
          exact hother
      · rename_i hnone
        refine .endStart id accepted fun other hcurrent => ?_
        rw [show s.sequence = none from hnone] at hcurrent
        cases hcurrent
    · exact .keep _
  | work id accepted =>
    simp only [step, ArmConsole.work]
    split
    · rename_i hworking
      split
      · rename_i hnone
        refine .endWorker id accepted fun other hcurrent => ?_
        rw [hnone] at hcurrent
        cases hcurrent
      · rename_i sequence hsequence
        split
        · rename_i hother
          refine .endWorker id accepted fun other hcurrent hsame => ?_
          rw [hsequence] at hcurrent
          cases hcurrent
          exact absurd hsame hother
        · rename_i hsame
          rw [not_not] at hsame
          split
          · exact .lose id accepted sequence hworking hsequence hsame
          · split
            · rename_i hwait
              refine .endWorker id accepted fun other hcurrent _ => ?_
              rw [hsequence] at hcurrent
              cases hcurrent
              exact hwait
            · rename_i waitUntil hwait
              split
              · exact .keep _
              · rename_i helapsed
                refine .advance id accepted sequence waitUntil hworking hsequence hsame hwait
                  (not_lt.1 helapsed) ?_
                have houtcome := outcome_sequenceStep config
                  (ArmConsole.expireLease { s with toMotion := s.endWorker id })
                  { sequence with index := sequence.index + 1, waitUntil := none } accepted
                exact houtcome.of_same rfl (fun _ h => h.of_expireLease) fun _ h => h
    · exact .keep _

end ArmConsole

end RobotDriver.OperatorWeb
