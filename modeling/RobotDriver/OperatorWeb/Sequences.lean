import Mathlib.Data.List.Count
import RobotDriver.OperatorWeb.ConsoleSteps

/-!
# The phases of a sequence

A current sequence waits for its first step, moves, or dwells. Each phase says which thread can
advance it; a thread of any other sequence finds that its own is no longer current.
-/

namespace RobotDriver.OperatorWeb

open LabelledRun

variable {n : ℕ} {C P G K : Type*}

namespace Motion

inductive Phase [Add K] (m : Motion C P G K) (sequence : Sequence C P G K) : Prop
  | starting (idle : m.execution = none) (first : sequence.index = 0)
      (unsent : ∀ k, (sequence.id, k) ∉ m.sentSteps) (noWorker : sequence.id ∉ m.workers)
  | moving (step : SequenceStep P G K) (found : sequence.steps[sequence.index]? = some step)
      (dwell : sequence.dwellS = step.dwellS) (execution : Execution)
      (current : m.execution = some execution) (kind : execution.kind = .move)
      (origin : execution.origin = some (sequence.id, sequence.index))
      (sent : ∀ k, (sequence.id, k) ∈ m.sentSteps → k ≤ sequence.index)
      (noStart : sequence.id ∉ m.starts) (noWorker : sequence.id ∉ m.workers)
  | dwelling (step : SequenceStep P G K) (found : sequence.steps[sequence.index]? = some step)
      (idle : m.execution = none) (time : K)
      (arrived : ⟨(sequence.id, sequence.index), time⟩ ∈ m.arrivals)
      (waits : sequence.waitUntil = some (time + step.dwellS))
      (sent : ∀ k, (sequence.id, k) ∈ m.sentSteps → k ≤ sequence.index)
      (noStart : sequence.id ∉ m.starts) (worker : m.workers.count sequence.id = 1)

/-- Sequences are named once, and the steps of each are sent in order. -/
structure Threads (m : Motion C P G K) : Prop where
  sequence : ∀ sequence, m.sequence = some sequence → sequence.id < m.nextSequence
  starts : ∀ id ∈ m.starts, id < m.nextSequence
  nodup : m.starts.Nodup
  workers : ∀ id ∈ m.workers, id < m.nextSequence
  sent : ∀ step ∈ m.sentSteps, step.1 < m.nextSequence
  inOrder : m.sentSteps.Pairwise fun earlier later => earlier.1 = later.1 → earlier.2 < later.2

structure Sequenced [Add K] (m : Motion C P G K) : Prop extends Threads m where
  phase : ∀ sequence, m.sequence = some sequence → m.Phase sequence
  origin : ∀ execution id k, m.execution = some execution → execution.origin = some (id, k) →
    ∃ sequence, m.sequence = some sequence ∧ sequence.id = id
  stopping : ∀ execution, m.execution = some execution → execution.kind = .stop →
    execution.origin = none

variable {m m' : Motion C P G K}

theorem Threads.abort (h : m.Threads) : m.abort.Threads :=
  ⟨nofun, h.starts, h.nodup, h.workers, h.sent, h.inOrder⟩

theorem Threads.endStart (h : m.Threads) (id : ℕ) : (m.endStart id).Threads :=
  ⟨h.sequence, fun _ hmem => h.starts _ (List.mem_of_mem_erase hmem), h.nodup.erase id, h.workers,
    h.sent, h.inOrder⟩

theorem Threads.endWorker (h : m.Threads) (id : ℕ) : (m.endWorker id).Threads :=
  ⟨h.sequence, h.starts, h.nodup, fun _ hmem => h.workers _ (List.mem_of_mem_erase hmem), h.sent,
    h.inOrder⟩

section

variable [Add K]

theorem Sequenced.initial : ({} : Motion C P G K).Sequenced :=
  { sequence := nofun, starts := nofun, nodup := .nil, workers := nofun, sent := nofun,
    inOrder := .nil, phase := nofun, origin := nofun, stopping := nofun }

theorem Threads.sequenced (h : m.Threads) (hnone : m.sequence = none)
    (hplain : ∀ execution, m.execution = some execution → execution.origin = none) :
    m.Sequenced where
  toThreads := h
  phase sequence hsequence := by
    rw [hnone] at hsequence
    cases hsequence
  origin execution id k hcurrent horigin := by
    rw [hplain execution hcurrent] at horigin
    cases horigin
  stopping execution hcurrent _ := hplain execution hcurrent

theorem Sequenced.origin_of_current (h : m.Sequenced) {sequence : Sequence C P G K}
    {execution : Execution} (hsequence : m.sequence = some sequence)
    (hcurrent : m.execution = some execution) :
    execution.kind = .move ∧ execution.origin = some (sequence.id, sequence.index) := by
  cases h.phase sequence hsequence with
  | starting idle => simp [idle] at hcurrent
  | moving step found dwell x current kind origin =>
    rw [current] at hcurrent
    cases hcurrent
    exact ⟨kind, origin⟩
  | dwelling step found idle => simp [idle] at hcurrent

theorem Sequenced.send (h : m.Sequenced) (execution : Execution) :
    (m.send execution).Sequenced where
  toThreads := ⟨h.sequence, h.starts, h.nodup, h.workers, h.sent, h.inOrder⟩
  phase sequence hsequence := by
    cases h.phase sequence hsequence with
    | starting idle first unsent noWorker => exact .starting idle first unsent noWorker
    | moving step found dwell x current kind origin sent noStart noWorker =>
      exact .moving step found dwell x current kind origin sent noStart noWorker
    | dwelling step found idle time arrived waits sent noStart worker =>
      exact .dwelling step found idle time arrived waits sent noStart worker
  origin := h.origin
  stopping := h.stopping

/-- No thread can advance the sequence, and what was sent of it lies before its index. -/
structure Unstarted (m : Motion C P G K) (sequence : Sequence C P G K) : Prop where
  idle : m.execution = none
  sent : ∀ k, (sequence.id, k) ∈ m.sentSteps → k < sequence.index
  noStart : sequence.id ∉ m.starts
  noWorker : sequence.id ∉ m.workers
  known : sequence.id < m.nextSequence

theorem Sequenced.arrive (h : m.Threads) {sequence : Sequence C P G K} (now : K)
    {step : SequenceStep P G K} (hfound : sequence.steps[sequence.index]? = some step)
    (hidle : m.execution = none) (hdwell : sequence.dwellS = step.dwellS)
    (hsent : ∀ k, (sequence.id, k) ∈ m.sentSteps → k ≤ sequence.index)
    (hstart : sequence.id ∉ m.starts) (hworker : sequence.id ∉ m.workers)
    (hknown : sequence.id < m.nextSequence) :
    (m.sequenceArrived now sequence (some (sequence.id, sequence.index))).Sequenced where
  sequence other hother := by
    cases hother
    exact hknown
  starts := h.starts
  nodup := h.nodup
  workers id hmem := by
    rcases List.mem_cons.1 hmem with rfl | hold
    · exact hknown
    · exact h.workers id hold
  sent := h.sent
  inOrder := h.inOrder
  phase other hother := by
    cases hother
    refine .dwelling step hfound hidle now (List.mem_append_right _ (List.mem_singleton_self _))
      (by rw [hdwell]) hsent hstart ?_
    change (sequence.id :: m.workers).count sequence.id = 1
    rw [List.count_cons_self, List.count_eq_zero_of_not_mem hworker]
  origin execution id k hcurrent := by
    change m.execution = some execution at hcurrent
    rw [hidle] at hcurrent
    cases hcurrent
  stopping execution hcurrent := by
    change m.execution = some execution at hcurrent
    rw [hidle] at hcurrent
    cases hcurrent

omit [Add K] in
theorem Threads.submit (h : m.Threads) {sequence : Sequence C P G K} (hu : m.Unstarted sequence)
    (accepted : Bool) :
    ({ m with sequence := some sequence }.submit sequence accepted).Threads := by
  have hsent : ∀ step ∈ m.sentSteps ++ [(sequence.id, sequence.index)],
      step.1 < m.nextSequence := by
    intro step hmem
    rcases List.mem_append.1 hmem with hold | hnew
    · exact h.sent step hold
    · rw [List.mem_singleton.1 hnew]
      exact hu.known
  have hordered : (m.sentSteps ++ [(sequence.id, sequence.index)]).Pairwise
      fun earlier later => earlier.1 = later.1 → earlier.2 < later.2 := by
    refine List.pairwise_append.2 ⟨h.inOrder, List.pairwise_singleton _ _, ?_⟩
    rintro ⟨id, k⟩ hearlier later hlater heq
    rw [List.mem_singleton.1 hlater] at heq ⊢
    subst heq
    exact hu.sent k hearlier
  cases accepted with
  | false => exact ⟨nofun, h.starts, h.nodup, h.workers, hsent, hordered⟩
  | true =>
    refine ⟨fun other hother => ?_, h.starts, h.nodup, h.workers, hsent, hordered⟩
    cases hother
    exact hu.known

theorem Sequenced.submit (h : m.Threads) {sequence : Sequence C P G K}
    (hu : m.Unstarted sequence) {step : SequenceStep P G K}
    (hfound : sequence.steps[sequence.index]? = some step)
    (hdwell : sequence.dwellS = step.dwellS) (accepted : Bool) :
    ({ m with sequence := some sequence }.submit sequence accepted).Sequenced := by
  have hthreads := h.submit hu accepted
  cases accepted with
  | false => exact hthreads.sequenced rfl nofun
  | true =>
    refine ⟨hthreads, fun other hother => ?_, fun execution id k hcurrent horigin => ?_,
      fun execution hcurrent hkind => ?_⟩
    · cases hother
      refine .moving step hfound hdwell _ rfl rfl rfl (fun k hmem => ?_) hu.noStart hu.noWorker
      rcases List.mem_append.1 hmem with hold | hnew
      · exact (hu.sent k hold).le
      · cases List.mem_singleton.1 hnew
        exact le_rfl
    · cases hcurrent
      cases horigin
      exact ⟨sequence, rfl, rfl⟩
    · cases hcurrent
      cases hkind

theorem Sequenced.done (h : m.Sequenced) (now : K) (execution : Execution) (success : Bool) :
    (m.done now execution success).Sequenced := by
  have hidle : { m with execution := none }.Threads :=
    ⟨h.sequence, h.starts, h.nodup, h.workers, h.sent, h.inOrder⟩
  unfold Motion.done
  split
  · exact h
  · rename_i hcurrent
    rw [not_not] at hcurrent
    split
    · rename_i sequence _ hsequence
      have horigin := (h.origin_of_current hsequence hcurrent).2
      rw [horigin]
      cases h.phase sequence hsequence with
      | starting idle | dwelling step found idle => simp [idle] at hcurrent
      | moving step found dwell x current kind origin sent noStart noWorker =>
        exact Sequenced.arrive hidle now found rfl dwell sent noStart noWorker
          (h.sequence sequence hsequence)
    · exact hidle.abort.sequenced rfl nofun
    · rename_i flag _ _ _ hnot hnot'
      have hnone : m.sequence = none := by
        cases hsequence : m.sequence with
        | none => rfl
        | some sequence =>
          have hkind := (h.origin_of_current hsequence hcurrent).1
          cases hflag : flag with
          | true => exact (hnot sequence hkind hsequence hflag).elim
          | false => exact (hnot' sequence hkind hsequence hflag).elim
      exact hidle.sequenced hnone nofun

theorem Sequenced.stop (h : m.Sequenced) : m.stop.Sequenced := by
  unfold Motion.stop
  split
  · rename_i hidle
    refine h.toThreads.abort.sequenced rfl fun execution hcurrent => ?_
    change m.execution = some execution at hcurrent
    rw [hidle] at hcurrent
    cases hcurrent
  · rename_i x hcurrent
    split
    · rename_i hkind
      refine h.toThreads.abort.sequenced rfl fun execution hexecution => ?_
      change m.execution = some execution at hexecution
      rw [hcurrent] at hexecution
      cases hexecution
      exact h.stopping x hcurrent hkind
    · refine Threads.sequenced ⟨nofun, h.starts, h.nodup, h.workers, h.sent, h.inOrder⟩ rfl
        fun execution hexecution => ?_
      cases hexecution
      rfl

theorem Sequenced.begin [Zero K] (h : m.Sequenced) (hidle : m.execution = none) (session : C)
    (steps : List (SequenceStep P G K)) : (m.begin session steps).Sequenced := by
  refine ⟨⟨fun sequence hsequence => ?_, fun id hmem => ?_, ?_, fun id hmem => ?_,
    fun step hmem => ?_, h.inOrder⟩, fun sequence hsequence => ?_, fun execution id k hcurrent => ?_,
    fun execution hcurrent => ?_⟩
  · cases hsequence
    exact Nat.lt_succ_self _
  · rcases List.mem_cons.1 hmem with rfl | hold
    · exact Nat.lt_succ_self _
    · exact (h.starts id hold).trans (Nat.lt_succ_self _)
  · refine List.nodup_cons.2 ⟨fun hmem => ?_, h.nodup⟩
    exact absurd (h.starts _ hmem) (lt_irrefl _)
  · exact (h.workers id hmem).trans (Nat.lt_succ_self _)
  · exact (h.sent step hmem).trans (Nat.lt_succ_self _)
  · cases hsequence
    refine .starting hidle rfl (fun k hmem => ?_) fun hmem => ?_
    · exact absurd (h.sent _ hmem) (lt_irrefl _)
    · exact absurd (h.workers _ hmem) (lt_irrefl _)
  · change m.execution = some execution at hcurrent
    rw [hidle] at hcurrent
    cases hcurrent
  · change m.execution = some execution at hcurrent
    rw [hidle] at hcurrent
    cases hcurrent

theorem Sequenced.endStart (h : m.Sequenced) {id : ℕ} : (m.endStart id).Sequenced where
  toThreads := h.toThreads.endStart id
  phase sequence hsequence := by
    cases h.phase sequence hsequence with
    | starting idle first unsent noWorker => exact .starting idle first unsent noWorker
    | moving step found dwell x current kind origin sent noStart noWorker =>
      exact .moving step found dwell x current kind origin sent
        (fun hmem => noStart (List.mem_of_mem_erase hmem)) noWorker
    | dwelling step found idle time arrived waits sent noStart worker =>
      exact .dwelling step found idle time arrived waits sent
        (fun hmem => noStart (List.mem_of_mem_erase hmem)) worker
  origin := h.origin
  stopping := h.stopping

theorem Sequenced.endWorker (h : m.Sequenced) {id : ℕ}
    (hidle : ∀ sequence, m.sequence = some sequence → sequence.id = id →
      sequence.waitUntil = none) : (m.endWorker id).Sequenced where
  toThreads := h.toThreads.endWorker id
  phase sequence hsequence := by
    cases h.phase sequence hsequence with
    | starting idle first unsent noWorker =>
      exact .starting idle first unsent fun hmem => noWorker (List.mem_of_mem_erase hmem)
    | moving step found dwell x current kind origin sent noStart noWorker =>
      exact .moving step found dwell x current kind origin sent noStart
        fun hmem => noWorker (List.mem_of_mem_erase hmem)
    | dwelling step found idle time arrived waits sent noStart worker =>
      refine .dwelling step found idle time arrived waits sent noStart ?_
      have hother : sequence.id ≠ id := by
        intro heq
        rw [hidle sequence hsequence heq] at waits
        cases waits
      exact (List.count_erase_of_ne hother).trans worker
  origin := h.origin
  stopping := h.stopping

theorem Sequenced.unstarted_of_start (h : m.Sequenced) {sequence : Sequence C P G K}
    (hsequence : m.sequence = some sequence) (hstart : sequence.id ∈ m.starts) :
    (m.endStart sequence.id).Unstarted sequence ∧ sequence.index = 0 := by
  cases h.phase sequence hsequence with
  | starting idle first unsent noWorker =>
    refine ⟨⟨idle, fun k hmem => absurd hmem (unsent k), fun hmem => ?_, noWorker,
      h.sequence sequence hsequence⟩, first⟩
    exact (h.nodup.mem_erase_iff.1 hmem).1 rfl
  | moving step found dwell x current kind origin sent noStart noWorker
  | dwelling step found idle time arrived waits sent noStart worker =>
    exact absurd hstart noStart

theorem Sequenced.unstarted_of_worker (h : m.Sequenced) {sequence : Sequence C P G K}
    (hsequence : m.sequence = some sequence) (hworker : sequence.id ∈ m.workers) :
    (m.endWorker sequence.id).Unstarted
        { sequence with index := sequence.index + 1, waitUntil := none } ∧
      ∃ step time, sequence.steps[sequence.index]? = some step ∧
        ⟨(sequence.id, sequence.index), time⟩ ∈ m.arrivals ∧
        sequence.waitUntil = some (time + step.dwellS) := by
  cases h.phase sequence hsequence with
  | starting idle first unsent noWorker
  | moving step found dwell x current kind origin sent noStart noWorker =>
    exact absurd hworker noWorker
  | dwelling step found idle time arrived waits sent noStart worker =>
    refine ⟨⟨idle, fun k hmem => Nat.lt_succ_of_le (sent k hmem), noStart, fun hmem => ?_,
      h.sequence sequence hsequence⟩, step, time, found, arrived, waits⟩
    have hcount : (m.workers.erase sequence.id).count sequence.id = 0 := by
      rw [List.count_erase_self, worker]
    exact absurd hcount (List.count_pos_iff.2 hmem).ne'

end

end Motion

variable [DecidableEq C] [DecidableEq P] [DecidableEq G] [Field K] [LinearOrder K]

namespace ArmConsole

open Motion

variable {config : ConsoleConfig n G K} {s : ArmConsole n C P G K}

omit [DecidableEq P] [DecidableEq G] in
theorem Outcome.sequenced {m m' : Motion C P G K} {sequence : Sequence C P G K} {accepted : Bool}
    (h : Outcome config s m sequence accepted m') (hthreads : m.Threads)
    (hu : m.Unstarted sequence) : m'.Sequenced := by
  cases h with
  | ended =>
    refine hthreads.abort.sequenced rfl fun execution hcurrent => ?_
    change m.execution = some execution at hcurrent
    rw [hu.idle] at hcurrent
    cases hcurrent
  | reached step found idle arrived =>
    have hsent : ∀ k, (sequence.id, k) ∈ m.sentSteps →
        k ≤ ({ sequence with dwellS := step.dwellS } : Sequence C P G K).index :=
      fun k hmem => (hu.sent k hmem).le
    exact Sequenced.arrive hthreads s.now found idle rfl hsent hu.noStart hu.noWorker hu.known
  | sent step found idle admitted =>
    have hu' : m.Unstarted { sequence with dwellS := step.dwellS } :=
      ⟨hu.idle, hu.sent, hu.noStart, hu.noWorker, hu.known⟩
    exact Sequenced.submit hthreads hu' found rfl accepted

theorem sequenced_step (h : s.toMotion.Sequenced) (event : ConsoleEvent n C P G K) :
    (s.step config event).toMotion.Sequenced := by
  have hacts := acts config s event
  generalize (s.step config event).toMotion = m' at hacts
  cases hacts with
  | keep => exact h
  | execute session target gear idle free =>
    refine Threads.sequenced ⟨?_, h.starts, h.nodup, h.workers, h.sent, h.inOrder⟩ free
      fun execution hcurrent => ?_
    · exact h.sequence
    · cases hcurrent
      rfl
  | send x pending => exact h.send x
  | done x success handed => exact h.done s.now x success
  | stop => exact h.stop
  | begin session request steps idle free => exact h.begin idle session steps
  | endStart id accepted other => exact h.endStart
  | start id accepted sequence starting current same outcome =>
    subst same
    exact outcome.sequenced (h.toThreads.endStart _) (h.unstarted_of_start current starting).1
  | endWorker id accepted idle => exact h.endWorker idle
  | lose id accepted sequence working current same =>
    subst same
    have hidle : s.execution = none := (h.unstarted_of_worker current working).1.idle
    refine (h.toThreads.endWorker _).abort.sequenced rfl fun execution hcurrent => ?_
    exact absurd (hidle.symm.trans hcurrent) (by simp)
  | advance id accepted sequence waitUntil working current same waits elapsed outcome =>
    subst same
    exact outcome.sequenced (h.toThreads.endWorker _) (h.unstarted_of_worker current working).1

end ArmConsole

end RobotDriver.OperatorWeb
