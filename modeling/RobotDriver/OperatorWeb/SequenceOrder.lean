import RobotDriver.OperatorWeb.Sequences
import RobotDriver.OperatorWeb.StopOrder

/-!
# How sequences advance

The steps of a run are sent in order after an arrival, a dwell and the checks of every move, and a
thread of an ended run does nothing. A lost lease or enable ends a run only when it is seen: a loss
that is made good before the next check of the run goes unnoticed, and this is the only way in which
a step is sent after a loss.
-/

namespace RobotDriver.OperatorWeb

open LabelledRun

variable {n : ℕ} {C P G K : Type*}

def Motion.currentId (m : Motion C P G K) : Option ℕ := m.sequence.map (·.id)

theorem Motion.currentId_eq_some {m : Motion C P G K} {id : ℕ} :
    m.currentId = some id ↔ ∃ sequence, m.sequence = some sequence ∧ sequence.id = id := by
  simp [currentId]

/-- A run that has ended. -/
def Motion.Gone (m : Motion C P G K) (id : ℕ) : Prop :=
  m.currentId ≠ some id ∧ id < m.nextSequence

variable [DecidableEq C] [DecidableEq P] [DecidableEq G] [Field K] [LinearOrder K]

namespace ArmConsole

section Properties

variable (config : ConsoleConfig n G K)

def SendsStep (id k : ℕ) (s : ArmConsole n C P G K) (event : ConsoleEvent n C P G K) : Prop :=
  (s.step config event).sentSteps = s.sentSteps ++ [(id, k)]

/-- The run is current and passes every check, and of the dwell since the arrival at the step before
nothing remains. -/
def StepAllowed (id k : ℕ) (s : ArmConsole n C P G K) : Prop :=
  ∃ sequence, s.sequence = some sequence ∧ sequence.id = id ∧
    s.Admitted config sequence.session ∧ ∀ before, k = before + 1 → ∃ step time,
      sequence.steps[before]? = some step ∧ ⟨(id, before), time⟩ ∈ s.arrivals ∧
        time + step.dwellS - s.now ≤ 0

def Arrives (arrival : Arrival K) (s : ArmConsole n C P G K) (event : ConsoleEvent n C P G K) :
    Prop :=
  (s.step config event).arrivals = s.arrivals ++ [arrival]

/-- The step was just reported successful, or its pose was already reached. -/
def ArrivalSeen (arrival : Arrival K) (s : ArmConsole n C P G K) (event : ConsoleEvent n C P G K) :
    Prop :=
  arrival.time = s.now ∧
    ((∃ x, event = .done x true ∧ s.execution = some x ∧ x.origin = some arrival.step) ∨
      ∃ sequence step, s.sequence = some sequence ∧ arrival.step.1 = sequence.id ∧
        sequence.steps[arrival.step.2]? = some step ∧ s.AlreadyReached config step)

/-- A stop, a failed step or a driver that raises. -/
def EndsRun (id : ℕ) (s : ArmConsole n C P G K) (event : ConsoleEvent n C P G K) : Prop :=
  s.currentId = some id ∧ (event = .stop ∨
    (∃ x, event = .done x false ∧ x ∈ s.handed.map (·.execution) ∧ s.execution = some x) ∨
      ∃ k, SendsStep config id k s event ∧ (s.step config event).execution = none)

/-- The starting session does not hold the lease, or the arm is not enabled. -/
def Lost (id : ℕ) (s : ArmConsole n C P G K) : Prop :=
  ∃ sequence, s.sequence = some sequence ∧ sequence.id = id ∧
    (s.holdsLease sequence.session = false ∨ s.armEnabled = false)

/-- The loss is made good while the run stays current. -/
def Restores (id : ℕ) (s : ArmConsole n C P G K) (event : ConsoleEvent n C P G K) : Prop :=
  s.Lost id ∧ (s.step config event).currentId = some id ∧ ¬(s.step config event).Lost id

/-- Threads and callbacks change nothing unless the run they belong to is current. -/
structure Isolated (s : ArmConsole n C P G K) (event : ConsoleEvent n C P G K) : Prop where
  thread : ∀ id accepted, event = .work id accepted ∨ event = .startSequence id accepted →
    s.currentId ≠ some id → (s.step config event).execution = s.execution ∧
      (s.step config event).sequence = s.sequence ∧
      (s.step config event).sentSteps = s.sentSteps ∧
      (s.step config event).arrivals = s.arrivals
  callback : ∀ x success id k, event = .done x success → x.origin = some (id, k) →
    s.currentId ≠ some id → (s.step config event).toMotion = s.toMotion
  plain : ∀ x success, event = .done x success → x.origin = none →
    (s.step config event).sequence = s.sequence ∧ (s.step config event).arrivals = s.arrivals

structure SequencesAdvance (s : ArmConsole n C P G K) (events : List (ConsoleEvent n C P G K)) :
    Prop where
  inOrder : (run (step config) s events).sentSteps.Pairwise
    fun earlier later => earlier.1 = later.1 → earlier.2 < later.2
  allowed : Along (step config)
    (fun s event => ∀ id k, SendsStep config id k s event → StepAllowed config id k s) s events
  arrivals : Along (step config)
    (fun s event => ∀ arrival, Arrives config arrival s event →
      ArrivalSeen config arrival s event) s events
  ended : ∀ id, NeverAfter (step config) (EndsRun config id)
    (fun s event => ∃ k, SendsStep config id k s event) s events
  lost : ∀ id, NeverAfter (step config) (fun s _ => s.Lost id)
    (fun s event => ∃ k, SendsStep config id k s event) s events
  isolated : Along (step config) (Isolated config) s events
  single : Along (step config)
    (fun s event => ∀ x, (s.step config event).execution = some x →
      s.execution = some x ∨ s.execution = none ∨ event = .stop ∧ x.kind = .stop) s events

end Properties

variable {config : ConsoleConfig n G K} {s : ArmConsole n C P G K}

section Outcomes

variable {m m' : Motion C P G K} {sequence : Sequence C P G K} {accepted : Bool}

omit [DecidableEq P] [DecidableEq G]

theorem Outcome.sentSteps (h : Outcome config s m sequence accepted m') :
    m'.sentSteps = m.sentSteps ∨
      m'.sentSteps = m.sentSteps ++ [(sequence.id, sequence.index)] ∧
        s.Admitted config sequence.session := by
  cases h with
  | ended => exact .inl rfl
  | reached step found idle arrived => exact .inl rfl
  | sent step found idle admitted =>
    refine .inr ⟨?_, admitted⟩
    cases accepted <;> rfl

theorem Outcome.arrivals (h : Outcome config s m sequence accepted m') :
    m'.arrivals = m.arrivals ∨
      m'.arrivals = m.arrivals ++ [⟨(sequence.id, sequence.index), s.now⟩] ∧
        ∃ step, sequence.steps[sequence.index]? = some step ∧ s.AlreadyReached config step := by
  cases h with
  | ended => exact .inl rfl
  | reached step found idle arrived => exact .inr ⟨rfl, step, found, arrived⟩
  | sent step found idle admitted =>
    refine .inl ?_
    cases accepted <;> rfl

theorem Outcome.currentId (h : Outcome config s m sequence accepted m') :
    (m'.currentId = some sequence.id ∨ m'.currentId = none) ∧
      m'.nextSequence = m.nextSequence := by
  cases h with
  | ended => exact ⟨.inr rfl, rfl⟩
  | reached step found idle arrived => exact ⟨.inl rfl, rfl⟩
  | sent step found idle admitted =>
    cases accepted with
    | false => exact ⟨.inr rfl, rfl⟩
    | true => exact ⟨.inl rfl, rfl⟩

end Outcomes

theorem sequenced_run (h : s.toMotion.Sequenced) (events : List (ConsoleEvent n C P G K)) :
    (run (step config) s events).toMotion.Sequenced :=
  invariant_all (P := fun s : ArmConsole n C P G K => s.toMotion.Sequenced)
    (fun _ event h => sequenced_step h event) h events

theorem gone_step {id : ℕ} (h : s.toMotion.Gone id) (event : ConsoleEvent n C P G K) :
    (s.step config event).toMotion.Gone id := by
  have houtcome : ∀ {m m' : Motion C P G K} {sequence : Sequence C P G K} {accepted : Bool},
      Outcome config s m sequence accepted m' → s.sequence.map (·.id) = some sequence.id →
      m.nextSequence = s.nextSequence → m'.Gone id := by
    intro m m' sequence accepted outcome hcurrent hnext
    obtain ⟨hid, hsame⟩ := outcome.currentId
    refine ⟨fun heq => ?_, by rw [hsame, hnext]; exact h.2⟩
    rcases hid with hid | hid
    · exact h.1 (hcurrent.trans (hid.symm.trans heq))
    · rw [hid] at heq
      cases heq
  have hacts := acts config s event
  generalize (s.step config event).toMotion = m' at hacts
  cases hacts with
  | keep => exact h
  | execute session target gear idle free => exact h
  | send x pending => exact h
  | done x success handed =>
    unfold Motion.done
    split
    · exact h
    · split
      · rename_i sequence _ hsequence
        refine ⟨fun heq => h.1 ?_, h.2⟩
        rw [← heq, Motion.currentId, hsequence]
        rfl
      · exact ⟨nofun, h.2⟩
      · exact h
  | stop =>
    unfold Motion.stop
    split
    · exact ⟨nofun, h.2⟩
    · split <;> exact ⟨nofun, h.2⟩
  | begin session request steps idle free =>
    refine ⟨fun heq => ?_, h.2.trans (Nat.lt_succ_self _)⟩
    exact absurd h.2 (Option.some.inj heq ▸ lt_irrefl _)
  | endStart id' accepted other => exact h
  | start id' accepted sequence starting current same outcome
  | advance id' accepted sequence waitUntil working current same waits elapsed outcome =>
    exact houtcome outcome (by rw [current]; rfl) rfl
  | endWorker id' accepted idle => exact h
  | lose id' accepted sequence working current same => exact ⟨nofun, h.2⟩

variable (config) in
theorem gone_run {id : ℕ} (h : s.toMotion.Gone id) (events : List (ConsoleEvent n C P G K)) :
    (run (step config) s events).toMotion.Gone id :=
  invariant_all (P := fun s : ArmConsole n C P G K => s.toMotion.Gone id)
    (fun _ event h => gone_step h event) h events

theorem stepAllowed_of_sends (h : s.toMotion.Sequenced) {id k : ℕ}
    {event : ConsoleEvent n C P G K} (hsends : SendsStep config id k s event) :
    StepAllowed config id k s := by
  have hacts := acts config s event
  unfold SendsStep at hsends
  generalize (s.step config event).toMotion = m' at hacts hsends
  have hsame : m'.sentSteps ≠ s.sentSteps := by
    rw [hsends]
    simp
  cases hacts with
  | done x success handed =>
    refine absurd ?_ hsame
    unfold Motion.done
    split
    · rfl
    · split <;> rfl
  | stop =>
    refine absurd ?_ hsame
    unfold Motion.stop
    split
    · rfl
    · split <;> rfl
  | start id' accepted sequence starting current same outcome =>
    subst same
    rcases outcome.sentSteps with hrest | ⟨hsent, hadmitted⟩
    · exact absurd hrest hsame
    · rw [hsent] at hsends
      cases List.append_cancel_left hsends
      refine ⟨sequence, current, rfl, hadmitted, fun before hbefore => ?_⟩
      have hzero := (h.unstarted_of_start current starting).2
      omega
  | advance id' accepted sequence waitUntil working current same waits elapsed outcome =>
    subst same
    rcases outcome.sentSteps with hrest | ⟨hsent, hadmitted⟩
    · exact absurd hrest hsame
    · rw [hsent] at hsends
      cases List.append_cancel_left hsends
      refine ⟨sequence, current, rfl, hadmitted, fun before hbefore => ?_⟩
      obtain rfl : before = sequence.index := by
        dsimp only at hbefore
        omega
      obtain ⟨-, step, time, hfound, harrived, hwaits⟩ := h.unstarted_of_worker current working
      rw [hwaits, Option.some.injEq] at waits
      exact ⟨step, time, hfound, harrived, by rw [waits]; exact elapsed⟩
  | _ => exact absurd rfl hsame

theorem arrivalSeen_of_arrives (h : s.toMotion.Sequenced) {arrival : Arrival K}
    {event : ConsoleEvent n C P G K} (harrives : Arrives config arrival s event) :
    ArrivalSeen config arrival s event := by
  have hacts := acts config s event
  unfold Arrives at harrives
  generalize (s.step config event).toMotion = m' at hacts harrives
  have hsame : m'.arrivals ≠ s.arrivals := by
    rw [harrives]
    simp
  have houtcome : ∀ {m : Motion C P G K} {sequence : Sequence C P G K} {accepted : Bool},
      Outcome config s m sequence accepted m' → m.arrivals = s.arrivals →
      (∃ current, s.sequence = some current ∧ current.id = sequence.id ∧
        current.steps = sequence.steps) → ArrivalSeen config arrival s event := by
    rintro m sequence accepted outcome hrest ⟨current, hcurrent, hid, hsteps⟩
    rcases outcome.arrivals with hkept | ⟨hnew, step, hfound, hreached⟩
    · exact absurd (hkept.trans hrest) hsame
    · rw [hnew, hrest] at harrives
      cases List.append_cancel_left harrives
      exact ⟨rfl, .inr ⟨current, step, hcurrent, hid.symm, by rwa [hsteps], hreached⟩⟩
  cases hacts with
  | done x success handed =>
    unfold Motion.done at harrives hsame
    split at harrives
    · rename_i hother
      rw [if_pos hother] at hsame
      exact absurd rfl hsame
    · rename_i hcurrent
      rw [if_neg hcurrent] at hsame
      rw [not_not] at hcurrent
      split at harrives
      · rename_i sequence _ hsequence
        have horigin := (h.origin_of_current hsequence hcurrent).2
        simp only [Motion.sequenceArrived, horigin, Option.map_some, Option.toList_some] at harrives
        cases List.append_cancel_left harrives
        exact ⟨rfl, .inl ⟨x, rfl, hcurrent, horigin⟩⟩
      · simp at harrives
      · simp at harrives
  | stop =>
    refine absurd ?_ hsame
    unfold Motion.stop
    split
    · rfl
    · split <;> rfl
  | start id' accepted sequence starting current same outcome
  | advance id' accepted sequence waitUntil working current same waits elapsed outcome =>
    exact houtcome outcome rfl ⟨sequence, current, rfl, rfl⟩
  | _ => exact absurd rfl hsame

theorem isolated_of_sequenced (h : s.toMotion.Sequenced) (event : ConsoleEvent n C P G K) :
    Isolated config s event := by
  refine ⟨?_, ?_, ?_⟩
  · rintro id accepted hevent hother
    have hacts := acts config s event
    generalize (s.step config event).toMotion = m' at hacts
    cases hacts with
    | start id' accepted' sequence starting current same outcome
    | lose id' accepted' sequence working current same
    | advance id' accepted' sequence waitUntil working current same waits elapsed outcome =>
      rcases hevent with hevent | hevent <;> cases hevent
      exact absurd (Motion.currentId_eq_some.2 ⟨sequence, current, same⟩) hother
    | keep | endStart id' accepted' other | endWorker id' accepted' idle =>
      exact ⟨rfl, rfl, rfl, rfl⟩
    | _ => rcases hevent with hevent | hevent <;> cases hevent
  · rintro x success id k rfl horigin hother
    simp only [step]
    split
    · change s.toMotion.done s.now x success = s.toMotion
      unfold Motion.done
      refine if_pos fun hcurrent => hother ?_
      exact Motion.currentId_eq_some.2 (h.origin x id k hcurrent horigin)
    · rfl
  · rintro x success rfl horigin
    have hnone : s.execution = some x → s.sequence = none := by
      intro hcurrent
      cases hsequence : s.sequence with
      | none => rfl
      | some sequence =>
        have hset := (h.origin_of_current hsequence hcurrent).2
        rw [horigin] at hset
        cases hset
    simp only [step]
    split
    · change (s.toMotion.done s.now x success).sequence = s.sequence ∧
        (s.toMotion.done s.now x success).arrivals = s.arrivals
      unfold Motion.done
      split
      · exact ⟨rfl, rfl⟩
      · rename_i hcurrent
        rw [hnone (not_not.1 hcurrent)]
        cases x.kind <;> exact ⟨rfl, rfl⟩
    · exact ⟨rfl, rfl⟩

theorem single_step {event : ConsoleEvent n C P G K} {x : Execution}
    (hx : (s.step config event).execution = some x) :
    s.execution = some x ∨ s.execution = none ∨ event = .stop ∧ x.kind = .stop := by
  have horders := orders config s event
  generalize (s.step config event).toMotion = m' at horders hx
  cases horders with
  | quiet _ current next sends handed =>
    rcases current with hsame | ⟨hnone, -⟩
    · exact .inl (hsame.symm.trans hx)
    · rw [hnone] at hx
      cases hx
  | move _ idle current next sends handed => exact .inr (.inl idle)
  | stop y moving kind current next sends handed =>
    rw [current] at hx
    cases hx
    exact .inr (.inr ⟨rfl, rfl⟩)
  | send y pending current next sends handed => exact .inl (current.symm.trans hx)
  | submit _ y fresh idle current next sends handed => exact .inr (.inl idle)

variable (config) in
theorem nextSequence_step (event : ConsoleEvent n C P G K) :
    s.nextSequence ≤ (s.step config event).nextSequence := by
  have hacts := acts config s event
  generalize (s.step config event).toMotion = m' at hacts
  cases hacts with
  | done x success handed =>
    unfold Motion.done
    split
    · exact le_rfl
    · split <;> exact le_rfl
  | stop =>
    unfold Motion.stop
    split
    · exact le_rfl
    · split <;> exact le_rfl
  | begin session request steps idle free => exact Nat.le_succ _
  | start id accepted sequence starting current same outcome
  | advance id accepted sequence waitUntil working current same waits elapsed outcome =>
    exact outcome.currentId.2.ge
  | _ => exact le_rfl

omit [DecidableEq P] [DecidableEq G] in
theorem Outcome.currentId_of_rejected {m m' : Motion C P G K} {sequence : Sequence C P G K}
    {accepted : Bool} (h : Outcome config s m sequence accepted m')
    (hsent : m'.sentSteps ≠ m.sentSteps) (hidle : m'.execution = none) : m'.currentId = none := by
  cases h with
  | ended => rfl
  | reached step found idle arrived => exact absurd rfl hsent
  | sent step found idle admitted =>
    cases accepted with
    | false => rfl
    | true => cases hidle

theorem gone_of_endsRun (h : s.toMotion.Sequenced) {id : ℕ} {event : ConsoleEvent n C P G K}
    (hends : EndsRun config id s event) : (s.step config event).toMotion.Gone id := by
  obtain ⟨hcurrent, hcause⟩ := hends
  obtain ⟨sequence, hsequence, rfl⟩ := Motion.currentId_eq_some.1 hcurrent
  refine ⟨?_, (h.sequence sequence hsequence).trans_le (nextSequence_step config event)⟩
  have hnone : (s.step config event).currentId = none → (s.step config event).currentId ≠
      some sequence.id := by
    intro hnone
    rw [hnone]
    exact nofun
  refine hnone ?_
  rcases hcause with rfl | ⟨x, rfl, hhanded, hx⟩ | ⟨k, hsends, hidle⟩
  · change s.toMotion.stop.currentId = none
    unfold Motion.stop
    split
    · rfl
    · split <;> rfl
  · have hkind := (h.origin_of_current hsequence hx).1
    simp only [step, if_pos hhanded]
    change (s.toMotion.done s.now x false).currentId = none
    simp [Motion.done, hx, hkind, hsequence, Motion.currentId]
  · have hacts := acts config s event
    unfold SendsStep at hsends
    generalize (s.step config event).toMotion = m' at hacts hsends hidle
    have hchanged : m'.sentSteps ≠ s.sentSteps := by
      rw [hsends]
      simp
    cases hacts with
    | done x success handed =>
      refine absurd ?_ hchanged
      unfold Motion.done
      split
      · rfl
      · split <;> rfl
    | stop =>
      refine absurd ?_ hchanged
      unfold Motion.stop
      split
      · rfl
      · split <;> rfl
    | start id accepted sequence starting current same outcome
    | advance id accepted sequence waitUntil working current same waits elapsed outcome =>
      exact outcome.currentId_of_rejected hchanged hidle
    | _ => exact absurd rfl hchanged

omit [DecidableEq C] [DecidableEq P] [DecidableEq G] in
theorem armEnabled_of_motionReady (h : s.motionReady = none) : s.armEnabled = true := by
  unfold motionReady at h
  split at h
  · cases h
  split at h
  · cases h
  rename_i henabled
  simpa using henabled

omit [DecidableEq P] [DecidableEq G] in
theorem StepAllowed.not_lost {id k : ℕ} (h : StepAllowed config id k s) : ¬s.Lost id := by
  obtain ⟨sequence, hsequence, -, hadmitted, -⟩ := h
  rintro ⟨other, hother, -, hlost⟩
  rw [hsequence] at hother
  cases hother
  rcases hlost with hlease | henabled
  · rw [hadmitted.lease] at hlease
    cases hlease
  · rw [armEnabled_of_motionReady hadmitted.ready] at henabled
    cases henabled

omit [DecidableEq P] [DecidableEq G] in
theorem StepAllowed.not_gone {id k : ℕ} (h : StepAllowed config id k s) :
    ¬s.toMotion.Gone id := by
  obtain ⟨sequence, hsequence, hid, -⟩ := h
  exact fun hgone => hgone.1 (Motion.currentId_eq_some.2 ⟨sequence, hsequence, hid⟩)

theorem exists_restores (h : s.toMotion.Sequenced) {id k : ℕ} (hlost : s.Lost id)
    {events : List (ConsoleEvent n C P G K)}
    (hallowed : StepAllowed config id k (run (step config) s events)) :
    ∃ first entry rest, events = first ++ entry :: rest ∧
      Restores config id (run (step config) s first) entry := by
  obtain ⟨first, entry, rest, rfl, hfirst, hentered⟩ := exists_entry
    (P := fun s : ArmConsole n C P G K => ¬s.Lost id) (not_not_intro hlost) hallowed.not_lost
  have hrestored := hentered [] rest rfl
  rw [run_snoc] at hrestored
  rw [not_not] at hfirst
  refine ⟨first, entry, rest, rfl, hfirst, ?_, hrestored⟩
  by_contra hended
  obtain ⟨sequence, hsequence, hid, -⟩ := hfirst
  have hknown := ((sequenced_run h first).sequence sequence hsequence).trans_le
    (nextSequence_step config entry)
  rw [hid] at hknown
  have hgone := gone_run config ⟨hended, hknown⟩ rest
  rw [← run_cons, ← run_append] at hgone
  exact hallowed.not_gone hgone

/-- In every run the sequences advance as promised exactly if no step is sent after a loss was made
good unnoticed. -/
theorem sequences_advance_iff (now : K) (events : List (ConsoleEvent n C P G K)) :
    SequencesAdvance config ({ now := now } : ArmConsole n C P G K) events ↔
      ∀ id, NeverAfter (step config) (Restores config id)
        (fun s event => ∃ k, SendsStep config id k s event)
        ({ now := now } : ArmConsole n C P G K) events := by
  have hinitial : ({ now := now } : ArmConsole n C P G K).toMotion.Sequenced :=
    Motion.Sequenced.initial
  have halong : ∀ {ok : ArmConsole n C P G K → ConsoleEvent n C P G K → Prop},
      (∀ s event, s.toMotion.Sequenced → ok s event) →
      Along (step config) ok { now := now } events := fun hok =>
    along_of_invariant (P := fun s : ArmConsole n C P G K => s.toMotion.Sequenced)
      (fun _ event h => sequenced_step h event) hok hinitial events
  constructor
  · intro h id before event between later after heq hrestores
    exact h.lost id before event between later after heq hrestores.1
  · intro hnever
    refine ⟨(sequenced_run hinitial events).inOrder,
      halong fun s event h id k => stepAllowed_of_sends h,
      halong fun s event h arrival => arrivalSeen_of_arrives h, ?_, ?_,
      halong fun s event h => isolated_of_sequenced h event,
      halong fun s event _ x => single_step⟩
    · rintro id before event between later after rfl hends ⟨k, hsends⟩
      have hgone := gone_run config
        (gone_of_endsRun (sequenced_run hinitial before) hends) between
      rw [← run_cons, ← run_append] at hgone
      exact (stepAllowed_of_sends (sequenced_run hinitial _) hsends).not_gone hgone
    · rintro id before event between later after rfl hlost ⟨k, hsends⟩
      have hallowed := stepAllowed_of_sends (sequenced_run hinitial _) hsends
      rw [run_append] at hallowed
      obtain ⟨first, entry, rest, hsplit, hrestores⟩ :=
        exists_restores (sequenced_run hinitial before) hlost hallowed
      rw [← run_append] at hrestores
      have hprefix : before ++ event :: between = before ++ first ++ entry :: rest := by
        rw [hsplit, List.append_assoc]
      refine hnever id (before ++ first) entry rest later after ?_ hrestores ⟨k, ?_⟩
      · simpa using congrArg (· ++ later :: after) hprefix
      · rw [← hprefix]
        exact hsends

instance (id : ℕ) (s : ArmConsole n C P G K) : Decidable (s.Lost id) :=
  decidable_of_iff (s.sequence.any fun sequence =>
      sequence.id = id && (!s.holdsLease sequence.session || !s.armEnabled))
      (by simp [Lost, Option.any_eq_true])

end ArmConsole

namespace Bench

/-- The lease is released during the first step of a run, acquired again, and the run goes on. -/
def moving : List (ConsoleEvent 1 Unit Bool Unit ℚ) :=
  [.setModel fun _ => (-1, 1), .setPose false (some fun _ => 1 / 2),
    .setPose true (some fun _ => -1 / 2), .update .ready, .acquire (),
    .runSequence () [(false, (), .finite 0), (true, (), .finite 0)], .startSequence 0 true,
    .release ()]

end Bench

namespace ArmConsole

/-- The loss of the lease does not end the run. -/
theorem lost_lease_goes_unnoticed :
    ¬∀ events, SequencesAdvance Bench.config ({ now := 0 } : ArmConsole 1 Unit Bool Unit ℚ)
      events := by
  intro h
  refine (h (Bench.moving ++ .acquire () :: ([.done ⟨0, .move, some (0, 0)⟩ true] ++
    [.work 0 true]))).lost 0 Bench.moving (.acquire ()) [.done ⟨0, .move, some (0, 0)⟩ true]
      (.work 0 true) [] rfl ?_ ⟨1, ?_⟩
  · decide +kernel
  · unfold SendsStep
    decide +kernel

end ArmConsole

end RobotDriver.OperatorWeb
