import Mathlib.Data.Fintype.Basic
import RobotDriver.OperatorWeb.ArmPage

/-!
# When the arm stops with the socket of its operator

The handler stops the arm only if its connection still holds the lease. A connection that started
the motion in progress holds the lease, and loses it without a release only where a step looks at
a lease that has not been touched for longer than the lease timeout.
-/

namespace RobotDriver.OperatorWeb

open LabelledRun

variable {n : ℕ} {C P G K : Type*}

namespace ArmLease

variable [DecidableEq C] [Field K] [LinearOrder K] {arm : ArmLease C K} {now : K}

omit [DecidableEq C] in
theorem expire_of_not_expired (h : arm.expired now = false) : arm.expire now = arm := by
  rw [expire, h]
  rfl

theorem acquire_other {connection session : C} (hlease : arm.lease = some connection)
    (h : arm.expired now = false) (hne : connection ≠ session) :
    (arm.acquire session now).lease = some connection := by
  rw [acquire, expire_of_not_expired h, hlease]
  simp [hne, hlease]

theorem acquire_self {connection : C} (hlease : arm.lease = some connection) :
    (arm.acquire connection now).lease = some connection := by
  have hfree : (arm.expire now).lease = none ∨ (arm.expire now).lease = some connection := by
    unfold expire
    split
    · exact .inl rfl
    · exact .inr hlease
  rw [acquire, if_pos hfree]

omit [Field K] [LinearOrder K] in
theorem release_other {connection session : C} (hlease : arm.lease = some connection)
    (hne : session ≠ connection) : (arm.release session).lease = some connection := by
  rw [release, hlease, if_neg fun heq => hne (Option.some.inj heq).symm]
  exact hlease

end ArmLease

variable [DecidableEq C] [DecidableEq P] [DecidableEq G] [Field K] [LinearOrder K]

namespace ArmConsole

variable {config : ConsoleConfig n G K} {s : ArmConsole n C P G K}

omit [DecidableEq P] [DecidableEq G] in
theorem idle_of_acts {event : ConsoleEvent n C P G K} {m : Motion C P G K}
    (h : Acts config s event m) (hidle : s.idle = true)
    (hexecute : ∀ session target gear, event ≠ .execute session target gear)
    (hrun : ∀ session steps, event ≠ .runSequence session steps) : m.idle = true := by
  have hnone := hidle
  simp only [Motion.idle, Bool.and_eq_true, Option.isNone_iff_eq_none] at hnone
  cases h with
  | keep => exact hidle
  | execute session target gear => exact absurd rfl (hexecute session target gear)
  | send execution pending => exact hidle
  | done execution success handed =>
    have hother : s.toMotion.done s.now execution success = s.toMotion := by
      unfold Motion.done
      rw [if_pos]
      rw [hnone.1]
      exact (Option.some_ne_none _).symm
    rw [hother]
    exact hidle
  | stop =>
    rw [Motion.stop, hnone.1]
    simp [Motion.idle, Motion.abort, hnone.1]
  | begin session request steps => exact absurd rfl (hrun session request)
  | endStart id accepted other => exact hidle
  | start id accepted sequence starting current | lose id accepted sequence working current
  | advance id accepted sequence waitUntil working current =>
    rw [hnone.2] at current
    cases current
  | endWorker id accepted => exact hidle

theorem begins {event : ConsoleEvent n C P G K} (hidle : s.idle = true)
    (hmoves : (s.step config event).idle = false) :
    ∃ connection, event.session = some connection ∧
      (s.step config event).arm.lease = some connection := by
  by_cases hexecute : ∀ session target gear, event ≠ .execute session target gear
  · by_cases hrun : ∀ session steps, event ≠ .runSequence session steps
    · rw [idle_of_acts (acts config s event) hidle hexecute hrun] at hmoves
      cases hmoves
    · push Not at hrun
      obtain ⟨session, steps, rfl⟩ := hrun
      refine ⟨session, rfl, ?_⟩
      simp only [step, ArmConsole.runSequence] at hmoves ⊢
      split at hmoves
      · rw [hidle] at hmoves
        cases hmoves
      · split at hmoves
        · rename_i hfree
          rw [if_pos hfree]
          simp only [Bool.and_eq_true] at hfree
          exact of_decide_eq_true hfree.1.1.1.1.1
        · change s.idle = false at hmoves
          rw [hidle] at hmoves
          cases hmoves
  · push Not at hexecute
    obtain ⟨session, target, gear, rfl⟩ := hexecute
    refine ⟨session, rfl, ?_⟩
    simp only [step, ArmConsole.execute] at hmoves ⊢
    split at hmoves
    · change s.idle = false at hmoves
      rw [hidle] at hmoves
      cases hmoves
    · rename_i hadmit
      exact of_decide_eq_true (admitted_of_admitMove hadmit).lease

theorem lease_kept {event : ConsoleEvent n C P G K} {connection : C}
    (hlease : s.arm.lease = some connection)
    (hfresh : s.arm.expired s.now = true → s.looks config event = false)
    (hrelease : event ≠ .release connection) :
    (s.step config event).arm.lease = some connection := by
  have hleases := leases config s event
  generalize (s.step config event).arm = arm at hleases
  cases hleases with
  | keep => exact hlease
  | touch session => rw [ArmLease.touch_lease, hlease]
  | acquire session =>
    have hcurrent : s.arm.expired s.now = false := by
      by_contra hstale
      have := hfresh (by simpa using hstale)
      cases this
    by_cases hsame : connection = session
    · subst hsame
      exact ArmLease.acquire_self hlease
    · exact ArmLease.acquire_other hlease hcurrent hsame
  | release session =>
    exact ArmLease.release_other hlease fun hsame => hrelease (by rw [hsame])
  | look _ looks =>
    have hcurrent : s.arm.expired s.now = false := by
      by_contra hstale
      rw [hfresh (by simpa using hstale)] at looks
      cases looks
    rw [ArmLease.expire_of_not_expired hcurrent, hlease]

end ArmConsole

namespace ArmPage

variable {config : ConsoleConfig n G K} {s : ArmPage n C P G K}

/-- The handler of the connection owes a stop as long as the lease was not released. -/
def Owes (s : ArmPage n C P G K) (connection : C) : Prop :=
  (s.commander = some connection ∨ s.commanding connection = true) ∧
    s.released connection = false ∧ s.stopped connection = false

def Looks (config : ConsoleConfig n G K) (s : ArmPage n C P G K) :
    ArmPageEvent n C P G K → Prop
  | .console event => event.session.all s.serving = true ∧ s.console.looks config event = true
  | .readHolder connection => s.phase connection = .closing
  | _ => False

/-- A step looks at the lease of a connection that owes a stop after it was not touched for longer
than the lease timeout. -/
def Lapses (config : ConsoleConfig n G K) (s : ArmPage n C P G K)
    (event : ArmPageEvent n C P G K) : Prop :=
  ∃ connection, s.Owes connection ∧ s.console.arm.lease = some connection ∧
    s.console.arm.expired s.console.now = true ∧ Looks config s event

instance Looks.decidable (config : ConsoleConfig n G K) (s : ArmPage n C P G K) :
    ∀ event, Decidable (Looks config s event)
  | .console _ => inferInstanceAs (Decidable (_ ∧ _))
  | .readHolder _ => inferInstanceAs (Decidable (_ = _))
  | .connect _ | .lose _ | .detect _ | .callStop _ | .callRelease _ | .finish _ => .isFalse id

instance Lapses.decidable [Fintype C] (config : ConsoleConfig n G K) (s : ArmPage n C P G K)
    (event : ArmPageEvent n C P G K) : Decidable (Lapses config s event) :=
  inferInstanceAs (Decidable (∃ _, (_ ∧ _ ∧ _) ∧ _ ∧ _ ∧ _))

structure Kept (s : ArmPage n C P G K) : Prop where
  lease : ∀ connection, s.Owes connection → s.console.arm.lease = some connection
  releasing : ∀ connection, s.phase connection = .releasing → s.stopped connection = true
  ending : ∀ connection, s.phase connection = .ending ∨ s.phase connection = .ended →
    s.commanding connection = true → s.released connection = false → s.stopped connection = true

omit [DecidableEq P] [DecidableEq G] [Field K] [LinearOrder K] in
theorem owes_of_recordRelease {event : ConsoleEvent n C P G K} {connection : C}
    (h : (s.recordRelease event).Owes connection) :
    s.Owes connection ∧ event ≠ .release connection := by
  obtain ⟨hmotion, hreleased, hstopped⟩ := h
  cases event with
  | release session =>
    by_cases hsame : connection = session
    · subst hsame
      simp [recordRelease] at hreleased
    · have hother : (s.recordRelease (.release session)).released connection =
          s.released connection := Function.update_of_ne hsame _ _
      rw [hother] at hreleased
      refine ⟨⟨hmotion, hreleased, hstopped⟩, fun heq => ?_⟩
      cases heq
      exact hsame rfl
  | _ => exact ⟨⟨hmotion, hreleased, hstopped⟩, nofun⟩

theorem lease_consoleStep {event : ConsoleEvent n C P G K}
    (hlease : ∀ connection, s.Owes connection → s.console.arm.lease = some connection)
    (hfresh : ∀ connection, s.Owes connection → s.console.arm.expired s.console.now = true →
      s.console.looks config event = false)
    (hrelease : ∀ connection, s.Owes connection → event ≠ .release connection) (connection : C)
    (h : (s.consoleStep config event).Owes connection) :
    (s.consoleStep config event).console.arm.lease = some connection := by
  obtain ⟨hmotion, hreleased, hstopped⟩ := h
  have hkept (howes : s.commander = some connection ∨ s.commanding connection = true) :
      (s.console.step config event).arm.lease = some connection :=
    have howes : s.Owes connection := ⟨howes, hreleased, hstopped⟩
    ArmConsole.lease_kept (hlease connection howes) (hfresh connection howes)
      (hrelease connection howes)
  rcases hmotion with hcommander | hcommanding
  · simp only [consoleStep] at hcommander
    split_ifs at hcommander with hafter hbefore
    · obtain ⟨session, hsession, hheld⟩ := ArmConsole.begins hbefore (by simpa using hafter)
      rw [hsession] at hcommander
      cases hcommander
      exact hheld
    · exact hkept (.inl hcommander)
  · exact hkept (.inr hcommanding)

omit [DecidableEq P] [DecidableEq G] [Field K] [LinearOrder K] in
theorem Kept.recordMotion (h : s.Kept) (connection : C)
    (hphase : s.serving connection = true) : (s.recordMotion connection).Kept := by
  unfold ArmPage.recordMotion
  split_ifs with hcommander
  · refine ⟨fun other howes => ?_, h.releasing, fun other hother hcommanding => ?_⟩
    · obtain ⟨hmotion, hrest⟩ := howes
      refine h.lease other ⟨?_, hrest⟩
      rcases hmotion with hown | hlost
      · exact .inl hown
      · by_cases hsame : other = connection
        · rw [hsame]
          exact .inl hcommander
        · exact .inr ((Function.update_of_ne hsame _ _).symm.trans hlost)
    · have hsame : other ≠ connection := by
        rintro rfl
        rcases hother with heq | heq
        · simp [ArmPage.serving, show s.phase other = .ending from heq] at hphase
        · simp [ArmPage.serving, show s.phase other = .ended from heq] at hphase
      have hlost : s.commanding other = true :=
        (Function.update_of_ne hsame _ _).symm.trans hcommanding
      exact h.ending other hother hlost
  · exact h

omit [DecidableEq P] [DecidableEq G] [Field K] [LinearOrder K] in
theorem Kept.moveTo (h : s.Kept) (connection : C) {phase : SocketPhase}
    (hreleasing : phase = .releasing → s.stopped connection = true)
    (hending : phase = .ending ∨ phase = .ended → s.commanding connection = true →
      s.released connection = false → s.stopped connection = true) :
    (s.moveTo connection phase).Kept := by
  refine ⟨h.lease, fun other hother => ?_, fun other hother => ?_⟩
  · by_cases hsame : other = connection
    · subst hsame
      exact hreleasing ((Function.update_self _ _ _).symm.trans hother)
    · exact h.releasing other ((Function.update_of_ne hsame _ _).symm.trans hother)
  · by_cases hsame : other = connection
    · subst hsame
      simp only [ArmPage.moveTo, Function.update_self] at hother
      exact hending hother
    · simp only [ArmPage.moveTo, Function.update_of_ne hsame] at hother
      exact h.ending other hother

theorem Kept.consoleStep (h : s.Kept) {event : ConsoleEvent n C P G K}
    (hfresh : ∀ connection, s.Owes connection → s.console.arm.expired s.console.now = true →
      s.console.looks config event = false)
    (hrelease : ∀ connection, s.Owes connection → event ≠ .release connection) :
    (s.consoleStep config event).Kept :=
  ⟨lease_consoleStep h.lease hfresh hrelease, h.releasing, h.ending⟩

omit [DecidableEq P] [DecidableEq G] [Field K] [LinearOrder K] in
theorem Kept.recordRelease (h : s.Kept) (event : ConsoleEvent n C P G K) :
    (s.recordRelease event).Kept := by
  refine ⟨fun connection howes => ?_, ?_, ?_⟩
  · have hlease := h.lease connection (owes_of_recordRelease howes).1
    cases event <;> exact hlease
  · cases event <;> exact h.releasing
  · intro connection hphase hcommanding hreleased
    cases event with
    | release session =>
      refine h.ending connection hphase hcommanding ?_
      by_cases hsame : connection = session
      · subst hsame
        simp [ArmPage.recordRelease] at hreleased
      · exact (Function.update_of_ne hsame _ _).symm.trans hreleased
    | _ => exact h.ending connection hphase hcommanding hreleased

omit [DecidableEq P] [DecidableEq G] [Field K] [LinearOrder K] in
theorem Kept.recordStop (h : s.Kept) (connection : C) :
    Kept { s with stopped := Function.update s.stopped connection true } := by
  have hstopped (other : C) (hold : s.stopped other = true) :
      Function.update s.stopped connection true other = true := by
    by_cases hsame : other = connection
    · rw [hsame, Function.update_self]
    · rw [Function.update_of_ne hsame, hold]
  refine ⟨fun other howes => ?_, fun other hother => hstopped other (h.releasing other hother),
    fun other hother hcommanding hreleased => hstopped other
      (h.ending other hother hcommanding hreleased)⟩
  refine h.lease other ⟨howes.1, howes.2.1, ?_⟩
  by_contra hne
  exact absurd ((hstopped other (by simpa using hne)).symm.trans howes.2.2) (by decide)

omit [DecidableEq P] [DecidableEq G] [Field K] [LinearOrder K] in
theorem recordRelease_console (event : ConsoleEvent n C P G K) :
    (s.recordRelease event).console = s.console := by
  cases event <;> rfl

theorem Kept.handle (h : s.Kept) {event : ConsoleEvent n C P G K}
    (hlapses : ¬Lapses config s (.console event)) : (s.handle config event).Kept := by
  unfold ArmPage.handle
  split_ifs with hserved
  · refine (h.recordRelease event).consoleStep (fun connection howes hexpired => ?_)
      fun connection howes => (owes_of_recordRelease howes).2
    have howed := (owes_of_recordRelease howes).1
    rw [recordRelease_console] at hexpired ⊢
    by_contra hlooks
    exact hlapses ⟨connection, howed, h.lease connection howed, hexpired, hserved,
      by simpa using hlooks⟩
  · exact h

theorem Kept.readHolder (h : s.Kept) {connection : C} (hphase : s.phase connection = .closing)
    (hlapses : ¬Lapses config s (.readHolder connection)) :
    (s.readHolder config connection).Kept := by
  have hcurrent (other : C) (howes : s.Owes other) :
      s.console.arm.expired s.console.now = false := by
    by_contra hexpired
    exact hlapses ⟨other, howes, h.lease other howes, by simpa using hexpired, hphase⟩
  have hread : (s.consoleStep config .readLease).Kept := by
    refine h.consoleStep (fun other howes hexpired => ?_) fun _ _ => by rintro ⟨⟩
    rw [hcurrent other howes] at hexpired
    cases hexpired
  unfold ArmPage.readHolder
  split_ifs with hholds
  · exact hread.moveTo connection (by rintro ⟨⟩) (by rintro (h | h) <;> cases h)
  · refine hread.moveTo connection (by rintro ⟨⟩) fun _ hcommanding hreleased => ?_
    by_contra hstopped
    have howes : s.Owes connection := ⟨.inr hcommanding, hreleased, eq_false_of_ne_true hstopped⟩
    apply hholds
    rw [ArmConsole.holdsLease, ArmLease.expire_of_not_expired (hcurrent connection howes)]
    exact decide_eq_true (h.lease connection howes)

omit [DecidableEq C] [DecidableEq P] [DecidableEq G] [Field K] [LinearOrder K] in
theorem serving_of_phase {connection : C}
    (h : s.phase connection = .connected ∨ s.phase connection = .lost) :
    s.serving connection = true := by
  unfold ArmPage.serving
  simpa using h

theorem Kept.step (h : s.Kept) {event : ArmPageEvent n C P G K} (hlapses : ¬Lapses config s event) :
    (s.step config event).Kept := by
  cases event with
  | console event => exact h.handle hlapses
  | connect connection =>
    simp only [ArmPage.step]
    split
    · exact h.moveTo connection nofun nofun
    · exact h
  | lose connection =>
    simp only [ArmPage.step]
    split
    · rename_i hphase
      exact (h.recordMotion connection (serving_of_phase (.inl hphase))).moveTo connection nofun nofun
    · exact h
  | detect connection =>
    simp only [ArmPage.step]
    split
    · rename_i hphase
      exact (h.recordMotion connection (serving_of_phase (.inr hphase))).moveTo connection nofun nofun
    · exact h
  | readHolder connection =>
    simp only [ArmPage.step]
    split
    · exact h.readHolder ‹_› hlapses
    · exact h
  | callStop connection =>
    simp only [ArmPage.step]
    split
    · have hstop : (s.consoleStep config .stop).Kept :=
        h.consoleStep (fun _ _ _ => rfl) fun _ _ => nofun
      exact (hstop.recordStop connection).moveTo connection (fun _ => Function.update_self _ _ _) nofun
    · exact h
  | callRelease connection =>
    simp only [ArmPage.step]
    split
    · rename_i hphase
      have hdone := h.releasing connection hphase
      have hrelease : (s.consoleStep config (.release connection)).Kept := by
        refine h.consoleStep (fun _ _ _ => rfl) fun other howes heq => ?_
        cases heq
        rw [howes.2.2] at hdone
        cases hdone
      exact hrelease.moveTo connection nofun fun _ _ _ => hdone
    · exact h
  | finish connection =>
    simp only [ArmPage.step]
    split
    · rename_i hphase
      exact h.moveTo connection nofun fun _ => h.ending connection (.inl hphase)
    · exact h

omit [DecidableEq C] [DecidableEq P] [DecidableEq G] [Field K] [LinearOrder K] in
theorem Kept.initial (console : ArmConsole n C P G K) : ({ console } : ArmPage n C P G K).Kept := by
  refine ⟨fun connection howes => ?_, nofun, nofun⟩
  rcases howes.1 with hcommander | hcommanding
  · cases hcommander
  · cases hcommanding

/-- In every run without a lapse a connection whose socket closed during its own motion, and which
did not release the lease, has called `stop` when its handler has ended. -/
theorem socket_stops (console : ArmConsole n C P G K) (events : List (ArmPageEvent n C P G K))
    (h : Along (step config) (fun s event => ¬Lapses config s event) { console } events)
    (connection : C)
    (hended : (run (step config) { console } events).phase connection = .ended)
    (hcommanding : (run (step config) { console } events).commanding connection = true)
    (hreleased : (run (step config) { console } events).released connection = false) :
    (run (step config) { console } events).stopped connection = true :=
  (invariant_run (P := Kept) (fun _ _ hs hok => hs.step hok) (Kept.initial console) h).ending
    connection (.inr hended) hcommanding hreleased

end ArmPage

namespace SocketBench

def config : ConsoleConfig 1 Unit ℚ where
  gears := [()]
  limitMargin := 1 / 10
  maxFeedbackAge := 1 / 5
  planDuration _ _ _ := 5

/-- A move is started and the socket is lost; its pushes stall until the loss is seen. -/
def socketLost (stall : ℚ) : List (ArmPageEvent 1 Unit Unit Unit ℚ) :=
  [.connect (), .console (.setModel fun _ => (-1, 1)), .console (.update .ready),
    .console (.acquire ()), .console (.execute () (.values fun _ => some (.finite (1 / 2))) ()),
    .console (.send ⟨0, .move, none⟩), .lose (), .console (.advance stall), .detect (),
    .readHolder (), .callStop (), .callRelease (), .finish ()]

end SocketBench

namespace ArmPage

theorem socket_stops_promptly :
    (run (step SocketBench.config) ({ console := { now := 0 } } : ArmPage 1 Unit Unit Unit ℚ)
      (SocketBench.socketLost 2)).stopped () = true :=
  socket_stops _ _ (by decide +kernel) () (by decide +kernel) (by decide +kernel) (by decide +kernel)

/-- The pushes stall for longer than the lease timeout, and the handler ends without a stop. -/
theorem stalled_socket_does_not_stop :
    ¬∀ (events : List (ArmPageEvent 1 Unit Unit Unit ℚ)) (connection : Unit),
      (run (step SocketBench.config) { console := { now := 0 } } events).phase connection = .ended →
      (run (step SocketBench.config) { console := { now := 0 } } events).commanding connection =
        true →
      (run (step SocketBench.config) { console := { now := 0 } } events).released connection =
        false →
      (run (step SocketBench.config) { console := { now := 0 } } events).stopped connection =
        true := by
  intro h
  have hstalled := h (SocketBench.socketLost 4) ()
  revert hstalled
  decide +kernel

end ArmPage

end RobotDriver.OperatorWeb
