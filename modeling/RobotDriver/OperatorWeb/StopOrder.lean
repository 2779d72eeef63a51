import RobotDriver.OperatorWeb.ConsoleSteps

/-!
# When a stop is overtaken by its move

The steps of a sequence are handed to the driver under the lock. A plain move is recorded first and
handed over later, so a stop that falls between the two is overtaken by the move it stops, and this
is the only way.
-/

namespace RobotDriver.OperatorWeb

open LabelledRun

variable {n : ℕ} {C P G K : Type*}

namespace Motion

variable {m m' : Motion C P G K}

/-- How a step changes the current execution and the hand-overs. -/
inductive Orders (m : Motion C P G K) : ConsoleEvent n C P G K → Motion C P G K → Prop
  | quiet (event : ConsoleEvent n C P G K) {m' : Motion C P G K}
      (current : m'.execution = m.execution ∨ m'.execution = none ∧
        ∀ x, m.execution = some x → x ∈ m.handed.map (·.execution))
      (next : m'.nextExecution = m.nextExecution) (sends : m'.sends = m.sends)
      (handed : m'.handed = m.handed) : Orders m event m'
  | move (event : ConsoleEvent n C P G K) {m' : Motion C P G K} (idle : m.execution = none)
      (current : m'.execution = some ⟨m.nextExecution, .move, none⟩)
      (next : m'.nextExecution = m.nextExecution + 1)
      (sends : m'.sends = ⟨m.nextExecution, .move, none⟩ :: m.sends)
      (handed : m'.handed = m.handed) : Orders m event m'
  | stop {m' : Motion C P G K} (x : Execution) (moving : m.execution = some x)
      (kind : x.kind = .move) (current : m'.execution = some ⟨m.nextExecution, .stop, none⟩)
      (next : m'.nextExecution = m.nextExecution + 1)
      (sends : m'.sends = ⟨m.nextExecution, .stop, none⟩ :: m.sends)
      (handed : m'.handed = m.handed) : Orders m .stop m'
  | send {m' : Motion C P G K} (x : Execution) (pending : x ∈ m.sends)
      (current : m'.execution = m.execution) (next : m'.nextExecution = m.nextExecution)
      (sends : m'.sends = m.sends.erase x)
      (handed : m'.handed = m.handed ++ [⟨x, m.execution⟩]) : Orders m (.send x) m'
  | submit (event : ConsoleEvent n C P G K) {m' : Motion C P G K} (x : Execution)
      (fresh : x.id = m.nextExecution) (idle : m.execution = none)
      (current : m'.execution = some x ∨ m'.execution = none)
      (next : m'.nextExecution = m.nextExecution + 1) (sends : m'.sends = m.sends)
      (handed : m'.handed = m.handed ++ [⟨x, some x⟩]) : Orders m event m'

theorem orders_done [Add K] (event : ConsoleEvent n C P G K) (now : K) {x : Execution}
    {success : Bool} (handed : x ∈ m.handed.map (·.execution)) :
    Orders m event (m.done now x success) := by
  unfold done
  split
  · exact .quiet event (.inl rfl) rfl rfl rfl
  · rename_i hcurrent
    have hnone : ∀ y, m.execution = some y → y ∈ m.handed.map (·.execution) := by
      intro y hy
      rw [not_not, hy] at hcurrent
      cases hcurrent
      exact handed
    split <;> exact .quiet event (.inr ⟨rfl, hnone⟩) rfl rfl rfl

theorem orders_stop : Orders m (.stop : ConsoleEvent n C P G K) m.stop := by
  unfold Motion.stop
  split
  · exact .quiet _ (.inl rfl) rfl rfl rfl
  · rename_i x hcurrent
    split
    · exact .quiet _ (.inl rfl) rfl rfl rfl
    · rename_i hkind
      have hmove : x.kind = .move := by
        cases h : x.kind with
        | move => rfl
        | stop => exact absurd h hkind
      exact .stop x hcurrent hmove rfl rfl rfl rfl

end Motion

variable [DecidableEq C] [DecidableEq P] [DecidableEq G] [Field K] [LinearOrder K]

namespace ArmConsole

variable {config : ConsoleConfig n G K} {s : ArmConsole n C P G K}

omit [DecidableEq P] [DecidableEq G] in
theorem Outcome.orders {m m' : Motion C P G K} {sequence : Sequence C P G K} {accepted : Bool}
    (h : Outcome config s m sequence accepted m') (event : ConsoleEvent n C P G K) :
    Motion.Orders m event m' := by
  cases h with
  | ended | reached step found idle arrived => exact .quiet event (.inl rfl) rfl rfl rfl
  | sent step found idle admitted =>
    cases accepted with
    | false => exact .submit event ⟨m.nextExecution, _, _⟩ rfl idle (.inr rfl) rfl rfl rfl
    | true => exact .submit event ⟨m.nextExecution, _, _⟩ rfl idle (.inl rfl) rfl rfl rfl

variable (config s) in
theorem orders (event : ConsoleEvent n C P G K) :
    Motion.Orders s.toMotion event (s.step config event).toMotion := by
  have hacts := acts config s event
  generalize (s.step config event).toMotion = m' at hacts
  cases hacts with
  | keep => exact .quiet event (.inl rfl) rfl rfl rfl
  | execute session target gear idle free => exact .move _ idle rfl rfl rfl rfl
  | send x pending => exact .send x pending rfl rfl rfl rfl
  | done x success handed => exact Motion.orders_done _ s.now handed
  | stop => exact Motion.orders_stop
  | begin session request steps idle free | endStart id accepted other
  | endWorker id accepted idle | lose id accepted sequence working current same =>
    exact .quiet _ (.inl rfl) rfl rfl rfl
  | start id accepted sequence starting current same outcome =>
    cases outcome.orders (.startSequence id accepted) with
    | quiet _ current next sends handed => exact .quiet _ current next sends handed
    | move _ idle current next sends handed => exact .move _ idle current next sends handed
    | submit _ x fresh idle current next sends handed =>
      exact .submit _ x fresh idle current next sends handed
  | advance id accepted sequence waitUntil working current same waits elapsed outcome =>
    cases outcome.orders (.work id accepted) with
    | quiet _ current next sends handed => exact .quiet _ current next sends handed
    | move _ idle current next sends handed => exact .move _ idle current next sends handed
    | submit _ x fresh idle current next sends handed =>
      exact .submit _ x fresh idle current next sends handed

end ArmConsole

namespace Motion

variable {m m' : Motion C P G K}

/-- Executions are recorded once, and an unsent one has not been handed over. -/
structure Tracked (m : Motion C P G K) : Prop where
  current : ∀ x, m.execution = some x → x.id < m.nextExecution
  pending : ∀ x ∈ m.sends, x.id < m.nextExecution
  handed : ∀ x ∈ m.handed.map (·.execution), x.id < m.nextExecution
  nodup : m.sends.Nodup
  unsent : ∀ x ∈ m.sends, x ∉ m.handed.map (·.execution)

/-- A recorded execution that is no longer current. -/
def Superseded (m : Motion C P G K) (x : Execution) : Prop :=
  m.execution ≠ some x ∧ x.id < m.nextExecution

omit [DecidableEq C] [DecidableEq P] [DecidableEq G] [Field K] [LinearOrder K]

theorem Tracked.record (h : m.Tracked) {x : Execution} (hfresh : x.id = m.nextExecution)
    (hcurrent : m'.execution = some x) (hnext : m'.nextExecution = m.nextExecution + 1)
    (hsends : m'.sends = x :: m.sends) (hhanded : m'.handed = m.handed) : m'.Tracked := by
  refine ⟨fun y hy => ?_, fun y hy => ?_, fun y hy => ?_, ?_, fun y hy => ?_⟩
  · rw [hcurrent] at hy
    cases hy
    omega
  · rw [hsends] at hy
    rcases List.mem_cons.1 hy with rfl | hold
    · omega
    · have := h.pending y hold
      omega
  · rw [hhanded] at hy
    have := h.handed y hy
    omega
  · rw [hsends, List.nodup_cons]
    refine ⟨fun hmem => ?_, h.nodup⟩
    have := h.pending x hmem
    omega
  · rw [hsends] at hy
    rw [hhanded]
    rcases List.mem_cons.1 hy with rfl | hold
    · intro hmem
      have := h.handed y hmem
      omega
    · exact h.unsent y hold

theorem Tracked.orders (h : m.Tracked) {event : ConsoleEvent n C P G K}
    (horders : Orders m event m') : m'.Tracked := by
  cases horders with
  | quiet _ current next sends handed =>
    refine ⟨fun y hy => ?_, ?_, ?_, by rw [sends]; exact h.nodup, ?_⟩
    · rw [next]
      rcases current with hsame | ⟨hnone, -⟩
      · exact h.current y (hsame ▸ hy)
      · rw [hnone] at hy
        cases hy
    · rw [sends, next]
      exact h.pending
    · rw [handed, next]
      exact h.handed
    · rw [sends, handed]
      exact h.unsent
  | move _ idle current next sends handed | stop x moving kind current next sends handed =>
    exact h.record rfl current next sends handed
  | send x pending current next sends handed =>
    refine ⟨?_, fun y hy => ?_, fun y hy => ?_, by rw [sends]; exact h.nodup.erase x,
      fun y hy => ?_⟩
    · rw [current, next]
      exact h.current
    · rw [sends] at hy
      rw [next]
      exact h.pending y (List.mem_of_mem_erase hy)
    · rw [handed, List.map_append, List.mem_append] at hy
      rw [next]
      rcases hy with hold | hnew
      · exact h.handed y hold
      · rw [List.mem_singleton.1 hnew]
        exact h.pending x pending
    · rw [sends, h.nodup.mem_erase_iff] at hy
      rw [handed, List.map_append, List.mem_append]
      rintro (hold | hnew)
      · exact h.unsent y hy.2 hold
      · exact hy.1 (List.mem_singleton.1 hnew)
  | submit _ x fresh idle current next sends handed =>
    refine ⟨fun y hy => ?_, fun y hy => ?_, fun y hy => ?_, by rw [sends]; exact h.nodup,
      fun y hy => ?_⟩
    · rcases current with hsame | hnone
      · rw [hsame] at hy
        cases hy
        omega
      · rw [hnone] at hy
        cases hy
    · rw [sends] at hy
      have := h.pending y hy
      omega
    · rw [handed, List.map_append, List.mem_append] at hy
      rcases hy with hold | hnew
      · have := h.handed y hold
        omega
      · rw [List.mem_singleton.1 hnew, fresh]
        omega
    · rw [sends] at hy
      rw [handed, List.map_append, List.mem_append]
      rintro (hold | hnew)
      · exact h.unsent y hy hold
      · have := h.pending y hy
        rw [List.mem_singleton.1 hnew] at this
        dsimp only at this
        omega

theorem Superseded.orders {x : Execution} (h : m.Superseded x) {event : ConsoleEvent n C P G K}
    (horders : Orders m event m') : m'.Superseded x := by
  have hfresh : ∀ y : Execution, y.id = m.nextExecution → some y ≠ some x := by
    rintro y hy heq
    cases heq
    exact absurd h.2 (by omega)
  cases horders with
  | quiet _ current next sends handed =>
    refine ⟨?_, by rw [next]; exact h.2⟩
    rcases current with hsame | ⟨hnone, -⟩
    · rw [hsame]
      exact h.1
    · rw [hnone]
      exact Option.some_ne_none x |>.symm
  | move _ idle current next sends handed | stop y moving kind current next sends handed =>
    exact ⟨by rw [current]; exact hfresh _ rfl, by have := h.2; omega⟩
  | send y pending current next sends handed =>
    exact ⟨by rw [current]; exact h.1, by rw [next]; exact h.2⟩
  | submit _ y fresh idle current next sends handed =>
    refine ⟨?_, by have := h.2; omega⟩
    rcases current with hsame | hnone
    · rw [hsame]
      exact hfresh y fresh
    · rw [hnone]
      exact Option.some_ne_none x |>.symm

theorem overtaken_orders (h : m.Tracked) {event : ConsoleEvent n C P G K}
    (horders : Orders m event m') {x : Execution} (hpending : x ∈ m'.sends)
    (hcurrent : m'.execution ≠ some x) :
    (x ∈ m.sends ∧ m.execution ≠ some x) ∨
      event = .stop ∧ x ∈ m.sends ∧ m.execution = some x ∧ x.kind = .move := by
  cases horders with
  | quiet _ current next sends handed =>
    rw [sends] at hpending
    refine .inl ⟨hpending, fun hx => ?_⟩
    rcases current with hsame | ⟨-, hhanded⟩
    · exact hcurrent (hsame.trans hx)
    · exact h.unsent x hpending (hhanded x hx)
  | move _ idle current next sends handed =>
    rw [sends] at hpending
    rcases List.mem_cons.1 hpending with rfl | hold
    · exact absurd current hcurrent
    · exact .inl ⟨hold, by simp [idle]⟩
  | stop y moving kind current next sends handed =>
    rw [sends] at hpending
    rcases List.mem_cons.1 hpending with rfl | hold
    · exact absurd current hcurrent
    · by_cases hx : m.execution = some x
      · rw [moving] at hx
        cases hx
        exact .inr ⟨rfl, hold, moving, kind⟩
      · exact .inl ⟨hold, hx⟩
  | send y pending current next sends handed =>
    rw [sends] at hpending
    exact .inl ⟨List.mem_of_mem_erase hpending, fun hx => hcurrent (current.trans hx)⟩
  | submit _ y fresh idle current next sends handed =>
    rw [sends] at hpending
    exact .inl ⟨hpending, by simp [idle]⟩

theorem handed_orders {event : ConsoleEvent n C P G K} (horders : Orders m event m')
    {handOver : HandOver} (h : handOver ∈ m'.handed) :
    handOver ∈ m.handed ∨ handOver.current = some handOver.execution ∨
      event = .send handOver.execution ∧ handOver.execution ∈ m.sends ∧
        handOver.current = m.execution := by
  cases horders with
  | quiet _ current next sends handed | move _ idle current next sends handed
  | stop y moving kind current next sends handed =>
    exact .inl (handed ▸ h)
  | send y pending current next sends handed =>
    rw [handed] at h
    rcases List.mem_append.1 h with hold | hnew
    · exact .inl hold
    · rw [List.mem_singleton.1 hnew]
      exact .inr (.inr ⟨rfl, pending, rfl⟩)
  | submit _ y fresh idle current next sends handed =>
    rw [handed] at h
    rcases List.mem_append.1 h with hold | hnew
    · exact .inl hold
    · rw [List.mem_singleton.1 hnew]
      exact .inr (.inl rfl)

theorem handed_subset_orders {event : ConsoleEvent n C P G K} (horders : Orders m event m') :
    m.handed ⊆ m'.handed := by
  cases horders with
  | quiet _ current next sends handed | move _ idle current next sends handed
  | stop y moving kind current next sends handed =>
    rw [handed]; exact List.Subset.refl _
  | send y pending current next sends handed | submit _ y fresh idle current next sends handed =>
    rw [handed]
    exact List.subset_append_left _ _

end Motion

namespace ArmConsole

variable (config : ConsoleConfig n G K)

/-- A stop finds `x` current and not yet handed over. -/
def StopsUnsent (x : Execution) (s : ArmConsole n C P G K) (event : ConsoleEvent n C P G K) : Prop :=
  event = .stop ∧ x ∈ s.sends ∧ s.execution = some x ∧ x.kind = .move

def SendsLater (x : Execution) (s : ArmConsole n C P G K) (event : ConsoleEvent n C P G K) : Prop :=
  event = .send x ∧ x ∈ s.sends

def SetsStopping (s : ArmConsole n C P G K) (event : ConsoleEvent n C P G K) : Prop :=
  event = .stop ∧ ∃ x, s.execution = some x ∧ x.kind = .move

def HandsOver (x : Execution) (s : ArmConsole n C P G K) (event : ConsoleEvent n C P G K) : Prop :=
  ∃ current, (s.step config event).handed = s.handed ++ [⟨x, current⟩]

/-- No earlier move is handed over after a stop, and every trajectory is handed over while its
execution is current. -/
structure StopHolds (s : ArmConsole n C P G K) (events : List (ConsoleEvent n C P G K)) :
    Prop where
  afterStop : ∀ x : Execution, x.kind = .move →
    NeverAfter (step config) (fun s event => s.SetsStopping event ∧ x.id < s.nextExecution)
      (HandsOver config x) s events
  lastSent : ∀ handOver ∈ (run (step config) s events).handed,
    handOver.current = some handOver.execution

/-- What is handed over later is still current. -/
def SendsCurrent (s : ArmConsole n C P G K) (event : ConsoleEvent n C P G K) : Prop :=
  ∀ x, SendsLater x s event → s.execution = some x

variable {config} {s : ArmConsole n C P G K}

theorem tracked_run (h : s.toMotion.Tracked) (events : List (ConsoleEvent n C P G K)) :
    (run (step config) s events).toMotion.Tracked :=
  invariant_all (P := fun s : ArmConsole n C P G K => s.toMotion.Tracked)
    (fun s event h => h.orders (orders config s event)) h events

variable (config) in
theorem superseded_run {x : Execution} (h : s.toMotion.Superseded x)
    (events : List (ConsoleEvent n C P G K)) :
    (run (step config) s events).toMotion.Superseded x :=
  invariant_all (P := fun s : ArmConsole n C P G K => s.toMotion.Superseded x)
    (fun s event h => h.orders (orders config s event)) h events

theorem handed_run {handOver : HandOver} (h : handOver ∈ s.handed)
    (events : List (ConsoleEvent n C P G K)) :
    handOver ∈ (run (step config) s events).handed :=
  invariant_all (P := fun s : ArmConsole n C P G K => handOver ∈ s.handed)
    (fun s event h => Motion.handed_subset_orders (orders config s event) h) h events

theorem lastSent_iff_along (h : s.handed = []) (events : List (ConsoleEvent n C P G K)) :
    (∀ handOver ∈ (run (step config) s events).handed,
        handOver.current = some handOver.execution) ↔
      Along (step config) SendsCurrent s events := by
  constructor
  · intro hlast
    rw [along_iff_split]
    rintro before event after rfl x ⟨rfl, hpending⟩
    have hsent : ⟨x, (run (step config) s before).execution⟩ ∈
        ((run (step config) s before).step config (.send x)).handed := by
      simp only [step, if_pos hpending, Motion.send, Motion.handOver]
      exact List.mem_append_right _ (List.mem_singleton_self _)
    rw [run_append, run_cons] at hlast
    exact hlast _ (handed_run hsent after)
  · intro halong
    refine invariant_run (P := fun s : ArmConsole n C P G K =>
      ∀ handOver ∈ s.handed, handOver.current = some handOver.execution) ?_ ?_ halong
    · intro s event hs hcurrent handOver hmem
      rcases Motion.handed_orders (orders config s event) hmem with
        hold | hnow | ⟨hevent, hpending, hlog⟩
      · exact hs handOver hold
      · exact hnow
      · rw [hlog]
        exact hcurrent handOver.execution ⟨hevent, hpending⟩
    · intro handOver hmem
      rw [h] at hmem
      cases hmem

variable (config) in
theorem superseded_of_stop {x : Execution} (hstop : s.SetsStopping .stop)
    (hknown : x.id < s.nextExecution) : (s.step config .stop).toMotion.Superseded x := by
  obtain ⟨-, y, hcurrent, hkind⟩ := hstop
  have hstep : (s.step config .stop).toMotion = (s.abort.record .stop none).sendLater := by
    simp [step, Motion.stop, hcurrent, hkind]
  rw [hstep]
  refine ⟨fun heq => ?_, hknown.trans (Nat.lt_succ_self _)⟩
  have hid := congrArg (Option.map (·.id)) heq
  simp only [Motion.sendLater, Motion.record, Motion.abort, Option.map_some,
    Option.some.injEq] at hid
  omega

theorem sendsLater_of_handsOver {x : Execution} {event : ConsoleEvent n C P G K}
    (h : HandsOver config x s event) (hknown : x.id < s.nextExecution) :
    SendsLater x s event := by
  obtain ⟨current, hhanded⟩ := h
  have horders := orders config s event
  generalize (s.step config event).toMotion = m' at horders hhanded
  cases horders with
  | quiet _ current next sends handed | move _ idle current next sends handed
  | stop y moving kind current next sends handed =>
    rw [handed] at hhanded
    exact absurd hhanded (by simp)
  | send y pending current next sends handed =>
    rw [handed, List.append_cancel_left_eq, List.singleton_inj, HandOver.mk.injEq] at hhanded
    rw [← hhanded.1]
    exact ⟨rfl, pending⟩
  | submit _ y fresh idle current next sends handed =>
    rw [handed, List.append_cancel_left_eq, List.singleton_inj, HandOver.mk.injEq] at hhanded
    rw [← hhanded.1] at hknown
    omega

theorem along_iff_neverAfter (htracked : s.toMotion.Tracked) (hsends : s.sends = [])
    (events : List (ConsoleEvent n C P G K)) :
    Along (step config) SendsCurrent s events ↔
      ∀ x, NeverAfter (step config) (StopsUnsent x) (SendsLater x) s events := by
  constructor
  · rintro halong x before event between later after rfl ⟨rfl, -, hcurrent, hkind⟩ hsend
    rw [along_iff_split] at halong
    have hsame := halong (before ++ .stop :: between) later after (by simp) x hsend
    have hknown := (tracked_run htracked before).current x hcurrent
    have hsuperseded := superseded_run config
      (superseded_of_stop config ⟨rfl, x, hcurrent, hkind⟩ hknown) between
    rw [run_append, run_cons] at hsame
    exact hsuperseded.1 hsame
  · intro hnever
    rw [along_iff_split]
    rintro before event after rfl x hsend
    by_contra hother
    have hstart : ¬(x ∈ s.sends ∧ s.execution ≠ some x) := by simp [hsends]
    obtain ⟨first, entry, rest, rfl, hfirst, hentered⟩ := exists_entry
      (P := fun s : ArmConsole n C P G K => x ∈ s.sends ∧ s.execution ≠ some x) hstart
      ⟨hsend.2, hother⟩
    have hnow := hentered [] rest rfl
    rw [run_snoc] at hnow
    rcases Motion.overtaken_orders (tracked_run htracked first) (orders config _ entry) hnow.1
      hnow.2 with
      hold | hstops
    · exact hfirst hold
    · exact hnever x first entry rest event after (by simp) hstops hsend

/-- In every run no stop is overtaken exactly if no stop falls between the recording of a plain move
and its hand-over. -/
theorem stop_holds_iff (now : K) (events : List (ConsoleEvent n C P G K)) :
    StopHolds config ({ now := now } : ArmConsole n C P G K) events ↔
      ∀ x, NeverAfter (step config) (StopsUnsent x) (SendsLater x)
        ({ now := now } : ArmConsole n C P G K) events := by
  have htracked : ({ now := now } : ArmConsole n C P G K).toMotion.Tracked :=
    ⟨nofun, nofun, nofun, .nil, nofun⟩
  rw [← along_iff_neverAfter htracked rfl]
  constructor
  · intro h
    exact (lastSent_iff_along rfl events).1 h.lastSent
  · intro halong
    refine ⟨?_, (lastSent_iff_along rfl events).2 halong⟩
    rintro x - before event between later after rfl ⟨⟨rfl, hstop⟩, hknown⟩ hhands
    rw [along_iff_split] at halong
    have hsuperseded := superseded_run config
      (superseded_of_stop config ⟨rfl, hstop⟩ hknown) between
    rw [← run_cons, ← run_append] at hsuperseded
    exact hsuperseded.1 (halong (before ++ .stop :: between) later after (by simp) x
      (sendsLater_of_handsOver hhands hsuperseded.2))

end ArmConsole

namespace Bench

def config : ConsoleConfig 1 Unit ℚ where
  gears := [()]
  limitMargin := 1 / 10
  maxFeedbackAge := 1 / 5
  planDuration start goal _ := if start 0 = goal 0 then 0 else 1

/-- The stop runs and is handed over before the points of the move are. -/
def overtaken : List (ConsoleEvent 1 Unit Unit Unit ℚ) :=
  [.setModel fun _ => (-1, 1), .update .ready, .acquire (),
    .execute () (.values fun _ => some (.finite (1 / 2))) (), .stop, .send ⟨1, .stop, none⟩,
    .send ⟨0, .move, none⟩]

end Bench

namespace ArmConsole

/-- The move is handed over after the stop that stopped it. -/
theorem stop_is_overtaken :
    ¬∀ events, StopHolds Bench.config ({ now := 0 } : ArmConsole 1 Unit Unit Unit ℚ) events := by
  intro h
  have hlast := (h Bench.overtaken).lastSent
  revert hlast
  decide +kernel

end ArmConsole

end RobotDriver.OperatorWeb
