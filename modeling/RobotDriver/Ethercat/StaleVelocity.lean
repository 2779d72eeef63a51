import RobotDriver.Ethercat.CspPreseed
import RobotDriver.Ethercat.ErrorLatch

/-!
# Velocities that outlive the enabled drive

Only a drive that displays no mode when it is enabled has its velocity command discarded. Beside
the axis stand whether the velocity must still be zero, and whether the drive has come up since a
start hook last found it in a mode other than the position mode.
-/

namespace RobotDriver.Ethercat

open LabelledRun (Along run)

namespace KincoCyclicModeSlave

variable {K : Type*} [Field K] [LinearOrder K]

/-- The velocity command is kept or discarded, and a latched error stays. -/
structure Winds (s t : KincoCyclicModeSlave K) : Prop where
  config : t.config = s.config
  velocity : t.commands.velocity = s.commands.velocity ∨ t.commands.velocity = .nan
  latched : s.errorLatched = true → t.errorLatched = true

theorem Winds.refl (s : KincoCyclicModeSlave K) : s.Winds s := ⟨rfl, .inl rfl, id⟩

theorem Winds.trans {s t u : KincoCyclicModeSlave K} (h : s.Winds t) (h' : t.Winds u) :
    s.Winds u where
  config := h'.config.trans h.config
  velocity := by
    rcases h'.velocity with hkept | hgone
    · exact h.velocity.imp hkept.trans hkept.trans
    · exact .inr hgone
  latched := h'.latched ∘ h.latched

section Leaves

variable (s : KincoCyclicModeSlave K)

theorem winds_clearHandoff (error : Bool) : s.Winds (s.clearHandoff error) :=
  ⟨rfl, .inl rfl, fun h => by simp [clearHandoff, h]⟩

theorem winds_processInputs (inputs : List Input) : s.Winds (s.processInputs inputs) where
  config := congrArg Bookkeeping.config (s.bookkeeping_processInputs inputs)
  velocity := by
    left
    induction inputs generalizing s with
    | nil => rfl
    | cons input inputs ih =>
      refine (ih _).trans ?_
      unfold processInput countFeedback
      split_ifs <;> cases input <;> rfl
  latched h := s.errorLatched_processInputs h inputs

theorem winds_onPdoCycleSent : s.Winds s.onPdoCycleSent :=
  s.onPdoCycleSent_kept (p := s.Winds) (fun _ _ _ _ _ h => h.trans ⟨rfl, .inl rfl, id⟩)
    (fun _ h => h.trans ⟨rfl, .inl rfl, id⟩) (fun _ h => h.trans ⟨rfl, .inl rfl, id⟩)
    (fun _ h => h.trans ⟨rfl, .inl rfl, id⟩) (fun _ h => h.trans ⟨rfl, .inr rfl, id⟩) (.refl s)

theorem winds_readData (c : KincoCycle K) : s.Winds (s.readData c) := by
  unfold readData
  split
  · refine Winds.trans ?_ (winds_processInputs _ c.inputs)
    unfold onPdoCycleRead
    dsimp only
    split_ifs <;> exact ⟨rfl, .inl rfl, fun h => by simp [clearHandoff, h]⟩
  · exact .refl s

theorem processInputs_of_lost (hlost : s.cycleComplete = false) (inputs : List Input) :
    s.processInputs inputs = s := by
  induction inputs with
  | nil => rfl
  | cons input inputs ih =>
    have hskip : s.processInput input = s := if_pos (by simp [hlost])
    change (s.processInput input).processInputs inputs = s
    rw [hskip, ih]

theorem enabled_atStart_of_lost (c : KincoCycle K) (hlost : c.complete = false) :
    (s.atStart c).isOperationEnabled = s.isOperationEnabled := by
  change operationEnabled (s.readData c).statusWord = _
  unfold readData
  split
  · rw [hlost, processInputs_of_lost]
    all_goals
      simp only [onPdoCycleRead, Bool.false_eq_true, if_false]
      split_ifs <;> rfl
  · rfl

end Leaves

variable [FloorRing K] (s : KincoCyclicModeSlave K)

theorem winds_confirmStartupMode (now : ℤ) : s.Winds (s.confirmStartupMode now) := by
  have hwait : s.Winds (s.waitForStartupMode now) := by
    unfold waitForStartupMode
    split_ifs <;> exact ⟨rfl, .inl rfl, id⟩
  unfold confirmStartupMode
  dsimp only
  split_ifs
  · exact hwait.trans (winds_clearHandoff _ true)
  · exact ⟨hwait.config, .inr rfl, hwait.latched⟩

theorem winds_awaitMode (now : ℤ) : s.Winds (s.awaitMode now) := by
  unfold awaitMode awaitCsp
  dsimp only
  split_ifs
  · exact s.winds_clearHandoff true
  · exact ⟨rfl, .inl rfl, id⟩
  · exact ⟨rfl, .inl rfl, id⟩
  · exact ⟨rfl, .inr rfl, id⟩

theorem winds_requestMode (now : ℤ) : s.Winds (s.requestMode now) := by
  unfold requestMode requestCsp requestCsv
  split_ifs
  · exact .refl s
  · exact ⟨rfl, .inl rfl, id⟩
  · exact ⟨rfl, .inl rfl, id⟩
  · split
    · exact s.winds_clearHandoff true
    · exact ⟨rfl, .inr rfl, id⟩
  · exact s.winds_clearHandoff true

theorem winds_takePosition : s.Winds s.takePosition := by
  have hrefuse : s.Winds s.refuseTakeover :=
    (s.winds_clearHandoff true).trans ⟨rfl, .inl rfl, id⟩
  unfold takePosition
  split_ifs
  · exact hrefuse
  · exact .refl s
  · split
    · exact hrefuse
    · split_ifs
      · exact hrefuse
      · exact ⟨rfl, .inl rfl, id⟩

theorem winds_followVelocity : s.Winds s.followVelocity := by
  have hcoordinated : s.Winds s.coordinated := by
    unfold coordinated
    split_ifs <;> exact ⟨rfl, .inl rfl, id⟩
  refine hcoordinated.trans ?_
  unfold followVelocity takeVelocity
  split_ifs
  · exact ⟨rfl, .inr rfl, id⟩
  · split <;> exact ⟨rfl, .inl rfl, id⟩

theorem winds_operate (now : ℤ) : s.Winds (s.operate now) := by
  unfold operate
  split_ifs
  · exact s.winds_awaitMode now
  · exact s.winds_requestMode now
  · exact (⟨rfl, .inl rfl, id⟩ : s.Winds (s.modeReached.putPosition _)).trans
      (winds_takePosition _)
  · exact (⟨rfl, .inl rfl, id⟩ : s.Winds s.modeReached).trans (winds_followVelocity _)

theorem winds_seededCycle (now : ℤ) (henabled : s.isOperationEnabled = true) :
    s.Winds (s.seededCycle now) := by
  have htracked : s.tracked = s := if_neg (by simp [henabled])
  rw [seededCycle, htracked, unlatchedCycle]
  split_ifs
  · exact ⟨rfl, .inl rfl, id⟩
  · exact s.winds_clearHandoff true
  · simp_all
  · exact s.winds_confirmStartupMode now
  · exact (⟨rfl, .inl rfl, id⟩ : s.Winds s.enterEnabled).trans (winds_operate _ now)

theorem winds_onPdoCycleStart (complete : Bool) (now : ℤ)
    (henabled : s.isOperationEnabled = true) : s.Winds (s.onPdoCycleStart complete now) := by
  have hprepare : s.Winds (s.prepare complete now) := ⟨rfl, .inl rfl, id⟩
  have hlose : ∀ error, (s.prepare complete now).Winds ((s.prepare complete now).loseSeed error) :=
    fun error => ⟨rfl, .inl rfl, fun h => by simp [loseSeed, clearHandoff, h]⟩
  have hexit := s.startExit complete now
  generalize s.onPdoCycleStart complete now = next at hexit
  cases hexit with
  | rides ride => exact ⟨rfl, .inl rfl, id⟩
  | lost strict | stale operational inputs stale => exact hprepare.trans (hlose true)
  | incomplete down => exact hprepare.trans (hlose false)
  | seeds valid unseeded => exact ⟨rfl, .inr rfl, id⟩
  | seeded valid seeded =>
    exact (⟨rfl, .inl rfl, id⟩ : s.Winds (s.seen now)).trans (winds_seededCycle _ now henabled)

theorem winds_cycle (c : KincoCycle K) (henabled : (s.atStart c).isOperationEnabled = true) :
    (s.atStart c).Winds (s.cycle c) :=
  ((winds_onPdoCycleStart _ _ _ henabled).trans (winds_processInputs _ _)).trans
    (winds_onPdoCycleSent _)

/-! ### The velocity that is put out -/

/-- The cycle follows the velocity command of an enabled drive that displays the velocity mode. -/
structure Follows (velocity : ℤ) : Prop where
  unlatched : s.errorLatched = false
  enabled : s.isOperationEnabled = true
  displays : s.modeDisplay = kCsv
  commanded : s.validVelocityCommand = some velocity

theorem velocity_takePosition (hzero : s.output.velocity = 0) :
    s.takePosition.output.velocity = 0 := by
  unfold takePosition
  split_ifs
  · rfl
  · exact hzero
  · split
    · rfl
    · split_ifs
      · rfl
      · exact hzero

theorem velocity_followVelocity (hzero : s.output.velocity = 0) :
    s.followVelocity.output.velocity = 0 ∨
      s.validVelocityCommand = some s.followVelocity.output.velocity := by
  have hcoordinated : s.coordinated.output.velocity = 0 ∧
      s.coordinated.validVelocityCommand = s.validVelocityCommand := by
    unfold coordinated
    split_ifs <;> exact ⟨hzero, rfl⟩
  obtain ⟨hkept, hcommand⟩ := hcoordinated
  rw [← hcommand, followVelocity, takeVelocity]
  split_ifs
  · exact .inl hkept
  · split
    next velocity hvelocity => exact .inr hvelocity
    next => exact .inl hkept

theorem velocity_operate (now : ℤ) (hzero : s.output.velocity = 0)
    (hdesired : s.desiredMode = kCsp ∨ s.desiredMode = kCsv) :
    (s.operate now).output.velocity = 0 ∨
      s.modeDisplay = kCsv ∧ s.validVelocityCommand = some (s.operate now).output.velocity := by
  unfold operate
  split_ifs with hflight hmode hcsp
  · left
    unfold awaitMode awaitCsp
    dsimp only
    split_ifs
    · exact hzero
    · exact hzero
    · exact hzero
    · rfl
  · left
    unfold requestMode requestCsp requestCsv
    split_ifs
    · exact hzero
    · exact hzero
    · exact hzero
    · split
      · exact hzero
      · rfl
    · exact hzero
  · exact .inl (velocity_takePosition _ hzero)
  · refine (s.modeReached.velocity_followVelocity hzero).imp_right fun hvelocity => ⟨?_, hvelocity⟩
    exact (not_not.1 hmode).symm.trans (hdesired.resolve_left hcsp)

theorem velocity_seededCycle (now : ℤ) (hzero : s.output.velocity = 0) :
    (s.seededCycle now).output.velocity = 0 ∨ s.Follows (s.seededCycle now).output.velocity := by
  have htracked : s.tracked.output.velocity = 0 := by
    unfold tracked
    split_ifs <;> exact hzero
  unfold seededCycle unlatchedCycle
  split_ifs with hlatched hdesired hdisabled hdisplay
  · exact .inl rfl
  · exact .inl htracked
  · exact .inl htracked
  · left
    unfold confirmStartupMode waitForStartupMode
    dsimp only
    split_ifs <;> exact htracked
  · have henabled : s.isOperationEnabled = true := by
      unfold tracked at hdisabled
      split_ifs at hdisabled with h
      · exact absurd h hdisabled
      · simpa using h
    have hself : s.tracked = s := if_neg (by simp [henabled])
    rw [hself] at hlatched hdesired htracked ⊢
    rw [not_and_or, not_not, not_not] at hdesired
    refine (s.enterEnabled.velocity_operate now htracked hdesired).imp_right fun h => ?_
    exact ⟨Bool.eq_false_iff.2 hlatched, henabled, h.1, h.2⟩

theorem velocity_onPdoCycleStart (complete : Bool) (now : ℤ) :
    (s.onPdoCycleStart complete now).output.velocity = 0 ∨
      (complete = true ∧ s.Valid now ∧ s.startupSeedSent = true ∧
        s.Follows (s.onPdoCycleStart complete now).output.velocity) ∨
      (complete = false ∧ s.startupSeedSent = true ∧
        (s.onPdoCycleStart complete now).output.velocity = s.lastSentVelocityRaw) := by
  have hexit := s.startExit complete now
  generalize s.onPdoCycleStart complete now = next at hexit
  cases hexit with
  | rides ride =>
    simp only [rideThrough, Bool.and_eq_true] at ride
    exact .inr (.inr ⟨rfl, ride.1.2, rfl⟩)
  | lost strict => exact .inl rfl
  | incomplete down => exact .inl rfl
  | stale operational inputs stale => exact .inl rfl
  | seeds valid unseeded => exact .inl rfl
  | seeded valid seeded =>
    refine ((s.seen now).velocity_seededCycle now rfl).imp_right fun hfollows => .inl ?_
    exact ⟨rfl, valid, seeded,
      hfollows.unlatched, hfollows.enabled, hfollows.displays, hfollows.commanded⟩

/-! ### Commands that are left behind -/

/-- No valid velocity but zero is commanded. -/
def Still : Prop := ∀ velocity ∈ s.validVelocityCommand, velocity = 0

instance : Decidable s.Still := inferInstanceAs (Decidable (∀ velocity ∈ _, _))

theorem Still.of_nan {s : KincoCyclicModeSlave K} (h : s.commands.velocity = .nan) : s.Still := by
  intro velocity hvelocity
  simp [validVelocityCommand, h] at hvelocity

theorem Still.winds {s t : KincoCyclicModeSlave K} (h : s.Still) (hwinds : s.Winds t) :
    t.Still := by
  rcases hwinds.velocity with hkept | hgone
  · intro velocity hvelocity
    refine h velocity ?_
    simpa only [validVelocityCommand, hkept, hwinds.config] using hvelocity
  · exact .of_nan hgone

theorem Still.zero_of_follows {s : KincoCyclicModeSlave K} (h : s.Still) {velocity : ℤ}
    (hfollows : s.Follows velocity) : velocity = 0 :=
  h velocity hfollows.commanded

/-- The controllers write a valid velocity. -/
def writesVelocity (writes : List (CommandWrite K)) : Bool :=
  writes.any fun
    | .velocity value => (s.write [.velocity value]).validVelocityCommand.isSome
    | _ => false

theorem Still.write {s : KincoCyclicModeSlave K} (h : s.Still) (writes : List (CommandWrite K))
    (hnone : s.writesVelocity writes = false) : (s.write writes).Still := by
  induction writes generalizing s with
  | nil => exact h
  | cons w writes ih =>
    simp only [writesVelocity, List.any_cons, Bool.or_eq_false_iff] at hnone
    have hrest : (s.write [w]).writesVelocity writes = false := by
      rw [← hnone.2]
      cases w <;> rfl
    refine ih (s := s.write [w]) ?_ hrest
    cases w with
    | velocity value =>
      intro velocity hvelocity
      have hinvalid : (s.write [.velocity value]).validVelocityCommand = none := by
        simpa using hnone.1
      rw [hinvalid] at hvelocity
      exact nomatch hvelocity
    | _ => exact h

theorem still_atStart {s : KincoCyclicModeSlave K} (h : s.Still) (c : KincoCycle K)
    (hnone : s.writesVelocity c.writes = false) : (s.atStart c).Still := by
  have hread := s.winds_readData c
  refine (h.winds hread).write c.writes ?_
  rw [← hnone]
  simp only [writesVelocity, validVelocityCommand, write, hread.config]
  rfl

/-- The switch into the velocity mode is acknowledged by the cycle. -/
def AcknowledgesCsv (c : KincoCycle K) : Prop :=
  ((s.started c).processInputs c.inputs).cycleComplete = true ∧
    ((s.started c).processInputs c.inputs).isOperational = true ∧
    ((s.started c).processInputs c.inputs).csvZeroPending = true ∧
    (s.started c).output.velocity = 0 ∧ (s.started c).output.mode = kCsv

instance (c : KincoCycle K) : Decidable (s.AcknowledgesCsv c) :=
  inferInstanceAs (Decidable (_ ∧ _))

theorem cycle_of_lost (c : KincoCycle K) (hlost : c.complete = false) :
    s.cycle c = s.started c ∧
      ((s.started c).startupSeedSent = true → (s.atStart c).startupSeedSent = true) ∧
      (s.started c).isOperationEnabled = (s.atStart c).isOperationEnabled := by
  have hcomplete : (s.started c).cycleComplete = false :=
    (cycleComplete_start _ _ _).trans hlost
  have hexit := (s.atStart c).startExit c.complete c.startAt
  change (s.atStart c).StartExit _ _ (s.started c) at hexit
  refine ⟨?_, ?_⟩
  · rw [cycle, processInputs_of_lost _ hcomplete, onPdoCycleSent_of_silent _ (.inl hcomplete)]
  · rw [hlost] at hexit
    generalize s.started c = u at hexit
    cases hexit with
    | rides ride => exact ⟨id, rfl⟩
    | lost strict => exact ⟨nofun, rfl⟩

theorem still_of_acknowledges (c : KincoCycle K) (h : s.AcknowledgesCsv c) :
    (s.cycle c).Still := by
  obtain ⟨hcomplete, hoperational, hpending, hvelocity, hmode⟩ := h
  have hacknowledge : ∀ s : KincoCyclicModeSlave K,
      s.acknowledge.csvZeroPending = s.csvZeroPending ∧ s.acknowledge.output = s.output := by
    intro s
    unfold acknowledge
    dsimp only
    split_ifs <;> exact ⟨rfl, rfl⟩
  have hseed : ∀ s : KincoCyclicModeSlave K,
      s.confirmSeed.csvZeroPending = s.csvZeroPending ∧ s.confirmSeed.output = s.output := by
    intro s
    unfold confirmSeed
    dsimp only
    split_ifs <;> exact ⟨rfl, rfl⟩
  have hpreseed : ∀ s : KincoCyclicModeSlave K,
      s.confirmPreseed.csvZeroPending = s.csvZeroPending ∧ s.confirmPreseed.output = s.output := by
    intro s
    unfold confirmPreseed
    split_ifs <;> exact ⟨rfl, rfl⟩
  apply Still.of_nan
  unfold cycle onPdoCycleSent
  rw [if_neg (by simp [hcomplete, hoperational]), confirmCsv, if_pos]
  · rfl
  · simp only [hacknowledge, hseed, hpreseed, hpending, output_processInputs, hvelocity, hmode,
      decide_true, Bool.and_self]

theorem still_of_seeds (c : KincoCycle K) (hbefore : (s.atStart c).startupSeedSent = false)
    (hpending : s.startupSeedPending = false) (hafter : (s.cycle c).startupSeedSent = true) :
    (s.cycle c).Still ∧ (s.started c).output.velocity = 0 := by
  have hpended := (s.keeps_atStart c).pending.trans hpending
  have hlost : (s.started c).startupSeedSent = false →
      (s.started c).startupSeedPending = (s.atStart c).startupSeedPending → False := by
    intro hunseeded hkept
    have hlost := s.unseeded_cycle c hunseeded (hkept.trans hpended)
    exact ne_true_of_eq_false hlost.2 hafter
  have hwinds := (winds_processInputs (s.started c) c.inputs).trans (winds_onPdoCycleSent _)
  have hexit := (s.atStart c).startExit c.complete c.startAt
  change (s.atStart c).StartExit _ _ (s.started c) at hexit
  change (s.started c).Winds (s.cycle c) at hwinds
  generalize s.started c = u at hexit hlost hwinds ⊢
  generalize c.complete = complete at hexit
  cases hexit with
  | rides ride =>
    simp only [rideThrough, Bool.and_eq_true, hbefore, Bool.false_eq_true, and_false,
      false_and] at ride
  | lost strict | incomplete down | stale operational inputs stale => exact (hlost rfl rfl).elim
  | seeds valid unseeded => exact ⟨(Still.of_nan rfl).winds hwinds, rfl⟩
  | seeded valid seeded => exact absurd seeded (ne_true_of_eq_false hbefore)

theorem still_of_undisplayed (now : ℤ) (henabled : s.isOperationEnabled = true)
    (hdisplay : s.modeDisplay = 0) :
    (s.seededCycle now).errorLatched = true ∨ (s.seededCycle now).Still := by
  have hself : s.tracked = s := if_neg (by simp [henabled])
  have hlatches : ∀ t : KincoCyclicModeSlave K, (t.clearHandoff true).errorLatched = true :=
    fun t => Bool.or_true _
  rw [seededCycle, hself, unlatchedCycle, if_neg (by simp [henabled] : ¬(!_) = true),
    if_pos hdisplay]
  split_ifs with hlatched
  · exact .inl hlatched
  · exact .inl (hlatches s)
  · unfold confirmStartupMode
    dsimp only
    split_ifs
    · exact .inl (hlatches _)
    · exact .inr (.of_nan rfl)

end KincoCyclicModeSlave

/-- The axis beside whether its velocity must be zero and whether the drive has come up since a
start hook last found it outside the position mode. -/
structure QuietRun (K : Type*) [Field K] [LinearOrder K] where
  slave : KincoCyclicModeSlave K
  quiet : Bool := false
  risen : Bool := false

namespace QuietRun

variable {K : Type*} [Field K] [LinearOrder K] [FloorRing K] (r : QuietRun K)

/-- The read of the cycle shows the drive enabled for the first time. -/
def rises (c : KincoCycle K) : Bool :=
  !r.slave.isOperationEnabled && (r.slave.atStart c).isOperationEnabled

/-- The inputs taken up after the start hook show the drive enabled for the first time. -/
def risesAfter (c : KincoCycle K) : Bool :=
  !(r.slave.atStart c).isOperationEnabled && (r.slave.cycle c).isOperationEnabled

def reseeds (c : KincoCycle K) : Bool :=
  !(r.slave.atStart c).startupSeedSent && (r.slave.cycle c).startupSeedSent

/-- The drive came up, or a switch or a seed was sent, and no valid velocity was written since. -/
def mustRest (c : KincoCycle K) : Bool :=
  (r.quiet || r.rises c) && !r.slave.writesVelocity c.writes

def hasRisen (c : KincoCycle K) : Bool := r.risen || r.rises c

def step : KincoLabel K → QuietRun K
  | .cycle c =>
    { slave := r.slave.cycle c
      quiet := r.mustRest c || r.risesAfter c || r.reseeds c || r.slave.AcknowledgesCsv c
      risen := (r.hasRisen c && (!c.complete || (r.slave.atStart c).modeDisplay = kCsp)) ||
        r.risesAfter c }
  | .operational value => { r with slave := r.slave.setStateIsOperational value }

/-- No velocity is put out until a valid one is written. -/
def Rests : KincoLabel K → Prop
  | .cycle c => r.mustRest c = true → (r.slave.started c).output.velocity = 0
  | .operational _ => True

/-- A drive that came up does not display the velocity mode over a velocity left behind. -/
def RisesStill : KincoLabel K → Prop
  | .cycle c =>
    c.complete = true → (r.slave.atStart c).Valid c.startAt →
      (r.slave.atStart c).startupSeedSent = true → (r.slave.atStart c).errorLatched = false →
        (r.slave.atStart c).isOperationEnabled = true → r.hasRisen c = true →
          r.mustRest c = true → (r.slave.atStart c).modeDisplay = kCsv →
            (r.slave.atStart c).Still
  | .operational _ => True

structure Invariant (r : QuietRun K) : Prop where
  settled : r.slave.startupSeedPending = false
  known : r.slave.startupSeedSent = true → r.slave.holdKnown = true
  sent : r.quiet = true → r.slave.startupSeedSent = true → r.slave.lastSentVelocityRaw = 0
  still : r.quiet = true → r.slave.startupSeedSent = true → r.slave.errorLatched = false →
    r.slave.isOperationEnabled = true → r.risen = false → r.slave.Still

variable {r}

theorem Invariant.still_of_settled (h : r.Invariant) (c : KincoCycle K)
    (hrest : r.mustRest c = true) (hrisen : r.hasRisen c = false)
    (hseeded : (r.slave.atStart c).startupSeedSent = true)
    (hunlatched : (r.slave.atStart c).errorLatched = false)
    (henabled : (r.slave.atStart c).isOperationEnabled = true) : (r.slave.atStart c).Still := by
  simp only [mustRest, hasRisen, Bool.and_eq_true, Bool.or_eq_true, Bool.or_eq_false_iff,
    Bool.not_eq_true'] at hrest hrisen
  have hbefore : r.slave.isOperationEnabled = true := by
    simpa [rises, henabled] using hrisen.2
  refine KincoCyclicModeSlave.still_atStart ?_ c hrest.2
  refine h.still ?_ ((r.slave.keeps_atStart c).seeded hseeded) ?_ hbefore hrisen.1
  · exact hrest.1.resolve_right (by simp [hrisen.2])
  · exact Bool.eq_false_iff.2 fun hlatched => Bool.false_ne_true
      (hunlatched.symm.trans (r.slave.errorLatched_atStart hlatched c))

theorem Invariant.rests (h : r.Invariant) (label : KincoLabel K)
    (hrises : r.RisesStill label) : r.Rests label := by
  cases label with
  | operational => exact trivial
  | cycle c =>
    intro hrest
    have hvelocity := (r.slave.atStart c).velocity_onPdoCycleStart c.complete c.startAt
    rcases hvelocity with hzero | ⟨hcomplete, hvalid, hseeded, hfollows⟩ | ⟨hlost, hseeded, hlast⟩
    · exact hzero
    · refine KincoCyclicModeSlave.Still.zero_of_follows ?_ hfollows
      cases hrisen : r.hasRisen c with
      | true =>
        exact hrises hcomplete hvalid hseeded hfollows.unlatched hfollows.enabled hrisen hrest
          hfollows.displays
      | false => exact h.still_of_settled c hrest hrisen hseeded hfollows.unlatched hfollows.enabled
    · have hkeeps := r.slave.keeps_atStart c
      have hquiet : r.quiet = true := by
        have hlevel : r.rises c = false := by
          simp [rises, r.slave.enabled_atStart_of_lost c hlost]
        simp only [mustRest, hlevel, Bool.or_false, Bool.and_eq_true] at hrest
        exact hrest.1
      exact hlast.trans (hkeeps.velocity.trans (h.sent hquiet (hkeeps.seeded hseeded)))

theorem Invariant.velocity_sent (h : r.Invariant) (c : KincoCycle K) (hcomplete : c.complete = true)
    (hrises : r.RisesStill (.cycle c)) (hseeded : (r.slave.cycle c).startupSeedSent = true)
    (hquiet : (r.step (.cycle c)).quiet = true) : (r.slave.started c).output.velocity = 0 := by
  simp only [step, Bool.or_eq_true, decide_eq_true_eq] at hquiet
  rcases hquiet with ((hrest | hafter) | hreseeds) | hacknowledges
  · exact h.rests (.cycle c) hrises hrest
  · simp only [risesAfter, Bool.and_eq_true, Bool.not_eq_true'] at hafter
    have hvelocity := (r.slave.atStart c).velocity_onPdoCycleStart c.complete c.startAt
    rcases hvelocity with hzero | ⟨_, _, _, hfollows⟩ | ⟨hlost, _⟩
    · exact hzero
    · exact absurd hfollows.enabled (ne_true_of_eq_false hafter.1)
    · exact absurd hcomplete (ne_true_of_eq_false hlost)
  · simp only [reseeds, Bool.and_eq_true, Bool.not_eq_true'] at hreseeds
    exact (r.slave.still_of_seeds c hreseeds.1 h.settled hseeded).2
  · exact hacknowledges.2.2.2.1

theorem quiet_of_lost (c : KincoCycle K) (hlost : c.complete = false)
    (hseeded : (r.slave.cycle c).startupSeedSent = true)
    (hquiet : (r.step (.cycle c)).quiet = true) : r.quiet = true := by
  obtain ⟨hcycle, hkept, hlevel⟩ := r.slave.cycle_of_lost c hlost
  rw [hcycle] at hseeded
  simp only [step, mustRest, rises, risesAfter, reseeds, hcycle, hlevel, hkept hseeded,
    r.slave.enabled_atStart_of_lost c hlost, Bool.not_and_self, Bool.not_true, Bool.false_and,
    Bool.or_false, Bool.or_eq_true, Bool.and_eq_true, decide_eq_true_eq] at hquiet
  rcases hquiet with hrest | hacknowledges
  · exact hrest.1
  · have hcomplete : ((r.slave.started c).processInputs c.inputs).cycleComplete = c.complete :=
      (congrArg Bookkeeping.cycleComplete
        (KincoCyclicModeSlave.bookkeeping_processInputs _ c.inputs)).trans
        (KincoCyclicModeSlave.cycleComplete_start _ _ _)
    exact absurd (hcomplete.symm.trans hacknowledges.1) (ne_true_of_eq_false hlost)

theorem Invariant.still_step (h : r.Invariant) (c : KincoCycle K)
    (hrises : r.RisesStill (.cycle c)) (hseeded : (r.slave.cycle c).startupSeedSent = true)
    (hunlatched : (r.slave.cycle c).errorLatched = false)
    (henabled : (r.slave.cycle c).isOperationEnabled = true)
    (hquiet : (r.step (.cycle c)).quiet = true)
    (hrisen : (r.step (.cycle c)).risen = false) : (r.slave.cycle c).Still := by
  simp only [step, Bool.or_eq_true, decide_eq_true_eq, Bool.or_eq_false_iff] at hquiet hrisen
  obtain ⟨hrisen, hafter⟩ := hrisen
  have hup : (r.slave.atStart c).isOperationEnabled = true := by
    simpa [risesAfter, henabled] using hafter
  have hwinds := r.slave.winds_cycle c hup
  have hclear : (r.slave.atStart c).errorLatched = false :=
    Bool.eq_false_iff.2 fun hlatched =>
      ne_true_of_eq_false hunlatched (hwinds.latched hlatched)
  cases hbefore : (r.slave.atStart c).startupSeedSent with
  | false => exact (r.slave.still_of_seeds c hbefore h.settled hseeded).1
  | true =>
    rcases hquiet with ((hrest | hrose) | hreseeds) | hacknowledges
    · cases hup' : r.hasRisen c with
      | false => exact (h.still_of_settled c hrest hup' hbefore hclear hup).winds hwinds
      | true =>
        simp only [hup', Bool.true_and, Bool.or_eq_false_iff, Bool.not_eq_false',
          decide_eq_false_iff_not] at hrisen
        have hvalid := r.slave.valid_of_seeded c hrisen.1 h.settled hseeded
        have hdisplays := hvalid.displays
        simp only [KincoCyclicModeSlave.displaysMode, Bool.or_eq_true, decide_eq_true_eq,
          hrisen.2, or_false] at hdisplays
        rcases hdisplays with hzero | hcsv
        · have hstarted : r.slave.started c =
              ((r.slave.atStart c).seen c.startAt).seededCycle c.startAt := by
            rw [KincoCyclicModeSlave.started, hrisen.1]
            exact (r.slave.atStart c).start_of_valid c.startAt hvalid hbefore
          have hsent := (KincoCyclicModeSlave.winds_processInputs (r.slave.started c)
            c.inputs).trans (KincoCyclicModeSlave.winds_onPdoCycleSent _)
          change (r.slave.started c).Winds (r.slave.cycle c) at hsent
          have hcleared := ((r.slave.atStart c).seen c.startAt).still_of_undisplayed c.startAt
            hup hzero
          rw [← hstarted] at hcleared
          rcases hcleared with hlatched | hstill
          · exact absurd (hsent.latched hlatched) (ne_true_of_eq_false hunlatched)
          · exact hstill.winds hsent
        · exact (hrises hrisen.1 hvalid hbefore hclear hup hup' hrest hcsv).winds hwinds
    · exact absurd hrose (ne_true_of_eq_false hafter)
    · simp [reseeds, hbefore] at hreseeds
    · exact r.slave.still_of_acknowledges c hacknowledges

theorem Invariant.step (h : r.Invariant) (label : KincoLabel K) (hrises : r.RisesStill label) :
    (r.step label).Invariant := by
  cases label with
  | cycle c =>
    obtain ⟨hsettled, hseeded⟩ := r.slave.cycle_remembers c h.settled h.known
    refine ⟨hsettled, fun hseed => ?_, fun hquiet hseed => ?_, fun hquiet hseed hlatch hup hrisen =>
      h.still_step c hrises hseed hlatch hup hquiet hrisen⟩
    · have hremembers := hseeded hseed
      split_ifs at hremembers with hsends
      · exact hremembers.known
      · exact hremembers.known.trans (h.known (hremembers.seeded hseed))
    · have hremembers := hseeded hseed
      split_ifs at hremembers with hsends
      · rw [Bool.and_eq_true] at hsends
        exact hremembers.velocity.symm.trans (h.velocity_sent c hsends.1 hrises hseed hquiet)
      · have hlost : c.complete = false := by
          by_contra hcomplete
          rw [Bool.not_eq_false] at hcomplete
          have hvalid := r.slave.valid_of_seeded c hcomplete h.settled hseed
          have hup := (r.slave.keeps_atStart c).operational.symm.trans hvalid.operational
          exact hsends (by rw [hcomplete, hup]; rfl)
        exact hremembers.velocity.trans
          (h.sent (quiet_of_lost c hlost hseed hquiet) (hremembers.seeded hseed))
  | operational value =>
    cases value with
    | false =>
      have hunseeded : (r.step (.operational false)).slave.startupSeedSent = false := rfl
      exact ⟨rfl, fun hseed => absurd hseed (ne_true_of_eq_false hunseeded),
        fun _ hseed => absurd hseed (ne_true_of_eq_false hunseeded),
        fun _ hseed => absurd hseed (ne_true_of_eq_false hunseeded)⟩
    | true => exact ⟨h.settled, h.known, h.sent, h.still⟩

end QuietRun

/-- In a run in which the drive never comes up displaying the velocity mode over a velocity left
behind, it rests after every enable, acknowledged switch and seed until a velocity is written. -/
theorem rests_until_written {K : Type*} [Field K] [LinearOrder K] [FloorRing K]
    (config : KincoConfig K) (commands : KincoCommands K) (labels : List (KincoLabel K))
    (h : Along QuietRun.step (fun r => r.RisesStill) ⟨.start config commands, false, false⟩ labels) :
    Along QuietRun.step (fun r => r.Rests) ⟨.start config commands, false, false⟩ labels := by
  have hstart : QuietRun.Invariant ⟨.start config commands, false, false⟩ :=
    ⟨rfl, nofun,
      nofun, nofun⟩
  exact .of_invariant (fun _ label hr hrises => QuietRun.Invariant.step hr label hrises)
    (fun _ label hr hrises => hr.rests label hrises) hstart h

namespace Kinco

instance (r : QuietRun ℚ) : ∀ label, Decidable (r.Rests label)
  | .cycle _ => inferInstanceAs (Decidable (_ → _))
  | .operational _ => .isTrue trivial

instance (r : QuietRun ℚ) : ∀ label, Decidable (r.RisesStill label)
  | .cycle _ => inferInstanceAs (Decidable (_ → _ → _ → _ → _ → _ → _ → _ → _))
  | .operational _ => .isTrue trivial

/-- Driven in velocity mode, disabled, and enabled again with the given display meanwhile. -/
def enabledAgain (display : ℤ) : List (KincoLabel ℚ) :=
  [.operational true, observing 0x0021 350 display 1 [],
    observing 0x0027 350 display 2 [.controlWord (.finite 15)],
    observing 0x0027 350 kCsv 3 [.velocity (.finite 1)], observing 0x0021 350 display 4 [],
    observing 0x0027 350 display 5 [], observing 0x0027 350 kCsv 6 []]

theorem enabledAgain_rests :
    Along QuietRun.step (fun r => r.Rests)
      ⟨.start (configuration kCsv (.inr rfl)) commands, false, false⟩ (enabledAgain 0) :=
  rests_until_written _ _ (enabledAgain 0) (by decide +kernel)

theorem displayed_enable_replays :
    ¬∀ (config : KincoConfig ℚ) commands labels,
      Along QuietRun.step (fun r => r.Rests) ⟨.start config commands, false, false⟩ labels := by
  intro h
  have hrun := h (configuration kCsv (.inr rfl)) commands (enabledAgain kCsv)
  revert hrun
  decide +kernel

end Kinco

end RobotDriver.Ethercat
