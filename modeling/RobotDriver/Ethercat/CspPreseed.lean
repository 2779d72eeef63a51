import RobotDriver.Ethercat.RideThrough

/-!
# The seed before a request for the position mode

The flag that a seed was sent outlives the cycle after it. A request keeps the promise when it
follows the cycle of its seed; the other ways to write the position mode are the startup mode and
a request that was interrupted.
-/

namespace RobotDriver.Ethercat

open LabelledRun (Along run)

namespace KincoCyclicModeSlave

variable {K : Type*} [Field K] [LinearOrder K] [FloorRing K] (s : KincoCyclicModeSlave K)

/-- At standstill at the commanded position the axis is to leave the velocity mode. -/
def AsksCsp : Prop :=
  s.Operates ∧ s.modeRequestInFlight = false ∧ s.modeDisplay = kCsv ∧ s.desiredMode = kCsp ∧
    s.seedsCsp = true

instance : Decidable s.AsksCsp := inferInstanceAs (Decidable (_ ∧ _))

def Presends : Prop := s.AsksCsp ∧ s.cspPreseedSent = false

def RequestsCsp : Prop := s.AsksCsp ∧ s.cspPreseedSent = true

/-- A request for the position mode is in flight and stands. -/
def AwaitsCsp (now : ℤ) : Prop :=
  s.Operates ∧ s.modeRequestInFlight = true ∧ s.requestWithdrawn now = false ∧
    s.modeRequestTarget = kCsp

/-- A disabled drive is put back to the position mode as its startup mode. -/
def ReturnsToCsp : Prop :=
  s.config.startupMode = kCsp ∧ s.isOperationEnabled = false ∧ s.tracked.errorLatched = false ∧
    (s.desiredMode = kCsp ∨ s.desiredMode = kCsv)

instance : Decidable s.Presends := inferInstanceAs (Decidable (_ ∧ _))

instance : Decidable s.RequestsCsp := inferInstanceAs (Decidable (_ ∧ _))

instance (now : ℤ) : Decidable (s.AwaitsCsp now) := inferInstanceAs (Decidable (_ ∧ _))

instance : Decidable s.ReturnsToCsp := inferInstanceAs (Decidable (_ ∧ _))

theorem kCsp_ne_kCsv : kCsp ≠ kCsv := by decide

theorem seededCycle_of_operates (now : ℤ) (h : s.Operates) :
    s.seededCycle now = s.enterEnabled.operate now := by
  have htracked : s.tracked = s := if_neg (by simp [h.enabled])
  rw [seededCycle, htracked, unlatchedCycle, if_neg (by simp [h.unlatched]),
    if_neg (by rintro ⟨hcsp, hcsv⟩; exact h.desires.elim hcsp hcsv),
    if_neg (by simp [h.enabled]), if_neg h.displays]
  rfl

theorem operate_of_asksCsp (now : ℤ) (h : s.AsksCsp) :
    s.seededCycle now = s.enterEnabled.requestCsp now := by
  obtain ⟨hoperates, hidle, hdisplay, hdesired, _⟩ := h
  have hswitch : s.enterEnabled.desiredMode ≠ s.enterEnabled.modeDisplay := by
    change s.desiredMode ≠ s.modeDisplay
    rw [hdesired, hdisplay]
    exact kCsp_ne_kCsv
  rw [s.seededCycle_of_operates now hoperates, operate, if_neg (by simp [enterEnabled, hidle]),
    if_pos hswitch, requestMode, if_pos ⟨hdisplay, hdesired⟩]

theorem output_presends (now : ℤ) (h : s.Presends) :
    (s.seededCycle now).output = { s.output with position := s.actualPositionRaw } := by
  have hseeds : s.enterEnabled.seedsCsp = true := h.1.2.2.2.2
  have hunsent : s.enterEnabled.cspPreseedSent = false := h.2
  rw [s.operate_of_asksCsp now h.1, requestCsp]
  simp only [hseeds, hunsent, Bool.not_true, Bool.false_eq_true, Bool.not_false, if_true, if_false]
  rfl

theorem position_requestsCsp (now : ℤ) (h : s.RequestsCsp) :
    (s.seededCycle now).output.position = s.actualPositionRaw := by
  have hseeds : s.enterEnabled.seedsCsp = true := h.1.2.2.2.2
  have hsent : s.enterEnabled.cspPreseedSent = true := h.2
  rw [s.operate_of_asksCsp now h.1, requestCsp]
  simp only [hseeds, hsent, Bool.not_true, Bool.false_eq_true, if_false]
  rfl

theorem mode_followVelocity : s.followVelocity.output.mode = s.output.mode := by
  have hcoordinated : s.coordinated.output.mode = s.output.mode := by
    unfold coordinated
    split_ifs <;> rfl
  rw [← hcoordinated, followVelocity, takeVelocity]
  split_ifs
  · rfl
  · split <;> rfl

theorem mode_operate (now : ℤ) (hoperates : s.Operates) (hdisplay : s.modeDisplay = kCsv)
    (hmode : s.output.mode = kCsv) (hcsp : (s.enterEnabled.operate now).output.mode = kCsp) :
    s.AwaitsCsp now ∨ s.RequestsCsp := by
  have hstays : ∀ {t : KincoCyclicModeSlave K}, t.output.mode = kCsp →
      t.output.mode = s.output.mode → False := fun htarget hkept =>
    kCsp_ne_kCsv (htarget.symm.trans (hkept.trans hmode))
  have hshown : s.enterEnabled.modeDisplay = kCsv := hdisplay
  unfold operate at hcsp
  split_ifs at hcsp with hflight hswitch hdesired
  · left
    unfold awaitMode at hcsp
    split_ifs at hcsp with hwithdrawn htarget
    · exact (hstays hcsp rfl).elim
    · exact ⟨hoperates, hflight, Bool.eq_false_iff.2 hwithdrawn, htarget⟩
    · exact (htarget hcsp).elim
  · right
    unfold requestMode requestCsp at hcsp
    split_ifs at hcsp with hrequest hseeds hsent hleave
    · exact (hstays hcsp rfl).elim
    · exact (hstays hcsp rfl).elim
    · rw [Bool.not_eq_true, Bool.not_eq_false'] at hseeds hsent
      exact ⟨⟨hoperates, Bool.eq_false_iff.2 hflight, hdisplay, hrequest.2, hseeds⟩, hsent⟩
    · exact (kCsp_ne_kCsv (hleave.1.symm.trans hdisplay)).elim
    · exact (hstays hcsp rfl).elim
  · rw [not_not, hdesired, hshown] at hswitch
    exact (kCsp_ne_kCsv hswitch).elim
  · exact (hstays hcsp (mode_followVelocity _)).elim

theorem mode_seededCycle (now : ℤ) (hseeded : s.startupSeedSent = true)
    (hdisplay : s.modeDisplay = kCsv) (hmode : s.output.mode = kCsv)
    (hcsp : (s.seededCycle now).output.mode = kCsp) :
    s.ReturnsToCsp ∨ s.AwaitsCsp now ∨ s.RequestsCsp := by
  have htracked : s.tracked.output.mode = kCsv ∧ s.tracked.modeDisplay = kCsv ∧
      s.tracked.desiredMode = s.desiredMode ∧
      s.tracked.isOperationEnabled = s.isOperationEnabled ∧
      s.tracked.config = s.config := by
    unfold tracked
    split_ifs <;> exact ⟨hmode, hdisplay, rfl, rfl, rfl⟩
  obtain ⟨hmode', hdisplay', hdesired', henabled', hconfig'⟩ := htracked
  have hstays : ∀ {t : KincoCyclicModeSlave K}, t.output.mode = kCsp →
      t.output.mode = s.tracked.output.mode → False := fun htarget hkept =>
    kCsp_ne_kCsv (htarget.symm.trans (hkept.trans hmode'))
  unfold seededCycle unlatchedCycle at hcsp
  split_ifs at hcsp with hlatched hdesired hdisabled hzero
  · exact (hstays hcsp rfl).elim
  · exact (hstays hcsp rfl).elim
  · left
    rw [henabled', Bool.not_eq_true'] at hdisabled
    have hstartup : s.tracked.config.startupMode = kCsp := hcsp
    rw [hdesired', not_and_or, not_not, not_not] at hdesired
    exact ⟨hconfig' ▸ hstartup, hdisabled, Bool.eq_false_iff.2 hlatched, hdesired⟩
  · rw [hdisplay'] at hzero
    exact absurd hzero (by decide)
  · right
    rw [Bool.not_eq_true', Bool.not_eq_false, henabled'] at hdisabled
    have hself : s.tracked = s := if_neg (by simp [hdisabled])
    rw [hself] at hcsp hlatched hzero hdesired
    refine s.mode_operate now ⟨hseeded, Bool.eq_false_iff.2 hlatched, hdisabled, hzero, ?_⟩
      hdisplay hmode hcsp
    rwa [not_and_or, not_not, not_not] at hdesired

instance (now : ℤ) : Decidable (s.Valid now) :=
  decidable_of_iff (s.isOperational = true ∧ s.haveInputs = true ∧
    (s.prepare true now).feedbackFresh now = true ∧ s.displaysMode = true)
    ⟨fun ⟨h₁, h₂, h₃, h₄⟩ => ⟨h₁, h₂, h₃, h₄⟩, fun h => ⟨h.operational, h.inputs, h.fresh, h.displays⟩⟩

/-- The axis as a valid cycle of the seeded drive finds it. -/
def seen (now : ℤ) : KincoCyclicModeSlave K := (s.prepare true now).ageFeedback now

theorem start_of_valid (now : ℤ) (hvalid : s.Valid now) (hseeded : s.startupSeedSent = true) :
    s.onPdoCycleStart true now = (s.seen now).seededCycle now := by
  unfold onPdoCycleStart
  dsimp only
  have hinputs : (s.prepare true now).haveInputs = true := hvalid.inputs
  have hdisplays : (s.prepare true now).displaysMode = true := hvalid.displays
  have hoperational : (s.prepare true now).isOperational = true := hvalid.operational
  have hkept : (s.prepare true now).startupSeedSent = true := hseeded
  simp only [hinputs, hdisplays, hoperational, hkept, hvalid.fresh, Bool.not_true, Bool.or_false,
    Bool.false_eq_true, if_false]
  rfl

theorem valid_of_seeded (c : KincoCycle K) (hcomplete : c.complete = true)
    (hpending : s.startupSeedPending = false) (hseeded : (s.cycle c).startupSeedSent = true) :
    (s.atStart c).Valid c.startAt := by
  have hpended := (s.keeps_atStart c).pending.trans hpending
  have hexit := (s.atStart c).startExit c.complete c.startAt
  change (s.atStart c).StartExit _ _ (s.started c) at hexit
  have hlost : (s.started c).startupSeedSent = false →
      (s.started c).startupSeedPending = (s.atStart c).startupSeedPending → False := by
    intro hunseeded hkept
    have hlost := s.unseeded_cycle c hunseeded (hkept.trans hpended)
    exact ne_true_of_eq_false hlost.2 hseeded
  rw [hcomplete] at hexit
  generalize s.started c = u at hexit hlost
  cases hexit with
  | incomplete down | stale operational inputs stale => exact (hlost rfl rfl).elim
  | seeds valid unseeded => exact valid
  | seeded valid seeded => exact valid

theorem mode_onPdoCycleStart (complete : Bool) (now : ℤ) (hdisplay : s.modeDisplay = kCsv)
    (hcsp : (s.onPdoCycleStart complete now).output.mode = kCsp) :
    (s.rideThrough complete = true ∧ s.startupSeedSent = true ∧ s.lastSentMode = kCsp) ∨
      (s.haveMode = false ∧ s.rideThrough complete = false ∧ s.config.startupMode = kCsp) ∨
      (complete = true ∧ s.Valid now ∧ s.startupSeedSent = true ∧
        ((s.seen now).ReturnsToCsp ∨ (s.seen now).AwaitsCsp now ∨ (s.seen now).RequestsCsp) ∧
        s.onPdoCycleStart complete now = (s.seen now).seededCycle now) := by
  have hprepared : ∀ complete, (s.prepare complete now).output.mode =
      if s.haveMode = true then kCsv else s.config.startupMode := by
    intro complete
    simp only [prepare, hdisplay, decide_true, Bool.or_true, Bool.and_true]
  have hstartup : ∀ {complete}, s.rideThrough complete = false →
      (s.prepare complete now).output.mode = kCsp →
      s.haveMode = false ∧ s.rideThrough complete = false ∧ s.config.startupMode = kCsp := by
    intro complete hride hmode
    rw [hprepared] at hmode
    split_ifs at hmode with hhave
    · exact (kCsp_ne_kCsv hmode.symm).elim
    · exact ⟨Bool.eq_false_iff.2 hhave, hride, hmode⟩
  have hexit := s.startExit complete now
  generalize s.onPdoCycleStart complete now = next at hexit hcsp ⊢
  cases hexit with
  | rides ride =>
    have hride := ride
    simp only [rideThrough, Bool.and_eq_true] at hride
    exact .inl ⟨ride, hride.1.2, hcsp⟩
  | lost strict => exact .inr (.inl (hstartup strict hcsp))
  | incomplete down | stale operational inputs stale => exact .inr (.inl (hstartup rfl hcsp))
  | seeds valid unseeded =>
    have hmode : (((s.prepare true now).ageFeedback now).seed).output.mode = kCsv := by
      change (if s.modeDisplay = 0 then _ else s.modeDisplay) = _
      rw [hdisplay, if_neg (by decide)]
    exact (kCsp_ne_kCsv (hcsp.symm.trans hmode)).elim
  | seeded valid seeded =>
    have hinputs := valid.inputs
    simp only [haveInputs, Bool.and_eq_true] at hinputs
    have hmode : (s.seen now).output.mode = kCsv := (hprepared true).trans (if_pos hinputs.2)
    exact .inr (.inr ⟨rfl, valid, seeded,
      (s.seen now).mode_seededCycle now seeded hdisplay hmode hcsp, rfl⟩)

end KincoCyclicModeSlave

/-- The ridden axis beside the standstill and the seed of the cycle sent last. -/
structure PreseedRun (K : Type*) [Field K] [LinearOrder K] extends RideRun K where
  wasStationary : Bool := false
  seedSent : Option ℤ := none

namespace PreseedRun

variable {K : Type*} [Field K] [LinearOrder K] [FloorRing K] (r : PreseedRun K)

def seen (c : KincoCycle K) : KincoCyclicModeSlave K := (r.slave.atStart c).seen c.startAt

def step (label : KincoLabel K) : PreseedRun K :=
  match label with
  | .cycle c =>
    if c.complete && r.slave.isOperational then
      { toRideRun := r.toRideRun.step label
        wasStationary := (r.slave.atStart c).stationary
        seedSent := if (r.seen c).Presends then some (r.seen c).actualPositionRaw else none }
    else { r with toRideRun := r.toRideRun.step label }
  | .operational _ => { r with toRideRun := r.toRideRun.step label }

/-- No position mode was sent last. -/
def NotYet : Prop := ∀ o ∈ r.lastSent, o.mode ≠ kCsp

instance : Decidable r.NotYet := inferInstanceAs (Decidable (∀ o ∈ r.lastSent, _))

/-- The first cycle to write the position mode while the drive displays the velocity mode follows
one that sent the same position in velocity mode, both at standstill. -/
def Preseeded : KincoLabel K → Prop
  | .cycle c =>
    (r.slave.atStart c).modeDisplay = kCsv → (r.slave.started c).output.mode = kCsp → r.NotYet →
      ∃ o ∈ r.lastSent, o.mode = kCsv ∧ o.velocity = 0 ∧
        o.position = (r.slave.started c).output.position ∧ r.wasStationary = true ∧
        (r.slave.atStart c).stationary = true
  | .operational _ => True

/-- While the velocity mode is displayed and was sent last, the startup mode does not bring the
position mode back, no request is resumed, and a request follows the cycle that sent its seed. -/
def FollowsSeed : KincoLabel K → Prop
  | .cycle c =>
    (r.slave.atStart c).modeDisplay = kCsv → r.NotYet →
      ((r.slave.atStart c).config.startupMode = kCsp →
        (r.slave.atStart c).rideThrough c.complete = true ∨ (r.slave.atStart c).haveMode = true) ∧
      (c.complete = true → (r.slave.atStart c).Valid c.startAt →
        (r.slave.atStart c).startupSeedSent = true →
        ¬(r.seen c).ReturnsToCsp ∧ ¬(r.seen c).AwaitsCsp c.startAt ∧
          ((r.seen c).RequestsCsp → r.seedSent = some (r.seen c).actualPositionRaw))
  | .operational _ => True

structure Invariant (r : PreseedRun K) : Prop where
  ride : r.toRideRun.Invariant
  presends : r.slave.startupSeedSent = true → ∀ raw ∈ r.seedSent, ∃ o ∈ r.lastSent,
    o.mode = kCsv ∧ o.velocity = 0 ∧ o.position = raw ∧ r.wasStationary = true

variable {r}

omit [FloorRing K] in
theorem Invariant.remembers (h : r.Invariant) (hseeded : r.slave.startupSeedSent = true) :
    ∃ o ∈ r.lastSent, o.mode = r.slave.lastSentMode := by
  obtain ⟨o, ho, hremembers⟩ := h.ride.remembers hseeded
  exact ⟨o, ho, hremembers.mode⟩

theorem output_of_presends (c : KincoCycle K) (hcomplete : c.complete = true)
    (hpending : r.slave.startupSeedPending = false)
    (hseeded : (r.slave.cycle c).startupSeedSent = true) (hpresends : (r.seen c).Presends) :
    (r.slave.started c).output.mode = kCsv ∧ (r.slave.started c).output.velocity = 0 ∧
      (r.slave.started c).output.position = (r.seen c).actualPositionRaw ∧
      (r.slave.atStart c).stationary = true := by
  have hvalid := r.slave.valid_of_seeded c hcomplete hpending hseeded
  have hstarted : r.slave.started c = (r.seen c).seededCycle c.startAt := by
    rw [KincoCyclicModeSlave.started, hcomplete]
    exact (r.slave.atStart c).start_of_valid c.startAt hvalid hpresends.1.1.seeded
  obtain ⟨_, _, hdisplay, _, hseeds⟩ := hpresends.1
  have hinputs := hvalid.inputs
  simp only [KincoCyclicModeSlave.haveInputs, KincoCyclicModeSlave.seedsCsp,
    Bool.and_eq_true] at hinputs hseeds
  have hmode : (r.seen c).output.mode = kCsv :=
    (if_pos (by simp [hinputs.2, show (r.slave.atStart c).modeDisplay = kCsv from hdisplay])).trans
      hdisplay
  rw [hstarted, KincoCyclicModeSlave.output_presends _ _ hpresends]
  exact ⟨hmode, rfl, rfl, hseeds.2⟩

theorem Invariant.step (h : r.Invariant) (label : KincoLabel K) : (r.step label).Invariant := by
  have hride := h.ride.step label
  cases label with
  | cycle c =>
    simp only [PreseedRun.step]
    split_ifs with hsends hpresends
    · refine ⟨hride, fun hseeded raw hraw => ?_⟩
      obtain rfl : (r.seen c).actualPositionRaw = raw := Option.some_inj.1 hraw
      simp only [RideRun.step, hsends, if_true] at hseeded ⊢
      rw [Bool.and_eq_true] at hsends
      obtain ⟨hmode, hvelocity, hposition, hstationary⟩ :=
        output_of_presends c hsends.1 h.ride.settled hseeded hpresends
      exact ⟨_, rfl, hmode, hvelocity, hposition, hstationary⟩
    · exact ⟨hride, by rintro _ _ ⟨⟩⟩
    · refine ⟨hride, fun hseeded => ?_⟩
      simp only [RideRun.step, if_neg hsends] at hseeded ⊢
      refine h.presends ?_
      have hkeeps := (r.slave.cycle_remembers c h.ride.settled fun hseed => by
        obtain ⟨o, _, ho⟩ := h.ride.remembers hseed
        exact ho.known).2 hseeded
      rw [if_neg hsends] at hkeeps
      exact hkeeps.seeded hseeded
  | operational value =>
    refine ⟨hride, fun hseeded => h.presends ?_⟩
    cases value with
    | false => exact (Bool.false_ne_true hseeded).elim
    | true => exact hseeded

theorem Invariant.preseeded (h : r.Invariant) (label : KincoLabel K)
    (hfollows : r.FollowsSeed label) : r.Preseeded label := by
  cases label with
  | operational => exact trivial
  | cycle c =>
    intro hdisplay hcsp hnot
    obtain ⟨hstartup, hvalid⟩ := hfollows hdisplay hnot
    have hkeeps := r.slave.keeps_atStart c
    obtain ⟨hride, hseeded, hmode⟩ | ⟨hhave, hstrict, hmode⟩ |
        ⟨hcomplete, hproceeds, hseeded, hways, hstarted⟩ :=
      (r.slave.atStart c).mode_onPdoCycleStart c.complete c.startAt hdisplay hcsp
    · obtain ⟨o, ho, hlast⟩ := h.remembers (hkeeps.seeded hseeded)
      exact (hnot o ho (hlast.trans (hkeeps.mode.symm.trans hmode))).elim
    · rcases hstartup hmode with hride | hhad
      · exact absurd hride (ne_true_of_eq_false hstrict)
      · exact absurd hhad (ne_true_of_eq_false hhave)
    · obtain ⟨hreturns, hawaits, hrequests⟩ := hvalid hcomplete hproceeds hseeded
      have hrequest := (hways.resolve_left hreturns).resolve_left hawaits
      obtain ⟨o, ho, hmode, hvelocity, hposition, hwas⟩ :=
        h.presends (hkeeps.seeded hseeded) _ (hrequests hrequest)
      have hput : (r.slave.started c).output.position = (r.seen c).actualPositionRaw := by
        rw [KincoCyclicModeSlave.started, hstarted]
        exact KincoCyclicModeSlave.position_requestsCsp _ _ hrequest
      have hstationary := hrequest.1.2.2.2.2
      simp only [KincoCyclicModeSlave.seedsCsp, Bool.and_eq_true] at hstationary
      exact ⟨o, ho, hmode, hvelocity, hposition.trans hput.symm, hwas, hstationary.2⟩

/-- The set-up axis, with nothing sent. -/
def start (config : KincoConfig K) (commands : KincoCommands K) : PreseedRun K where
  slave := .start config commands

end PreseedRun

/-- In a run in which each request follows the cycle of its seed, the position mode is requested
only over a preseeded target. -/
theorem csp_over_preseeded_target {K : Type*} [Field K] [LinearOrder K] [FloorRing K]
    (config : KincoConfig K) (commands : KincoCommands K) (labels : List (KincoLabel K))
    (h : Along PreseedRun.step (fun r => r.FollowsSeed) (.start config commands) labels) :
    Along PreseedRun.step (fun r => r.Preseeded) (.start config commands) labels := by
  have hstart : PreseedRun.Invariant (.start config commands) :=
    ⟨RideRun.invariant_start config commands, nofun⟩
  exact .of_invariant (fun _ label hr _ => PreseedRun.Invariant.step hr label)
    (fun _ label hr => hr.preseeded label) hstart h

namespace Kinco

/-- The switch to the position mode, seeded and requested at 350 counts. -/
def seededSwitch : List (KincoLabel ℚ) :=
  [.operational true, observing 0x0021 350 kCsv 1 [],
    observing 0x0027 350 kCsv 2 [.controlWord (.finite 15)],
    observing 0x0027 350 kCsv 3 [.mode (.finite 8), .position (.finite (35 / 100))],
    observing 0x0027 350 kCsv 4 [], observing 0x0027 350 kCsp 5 []]

/-- The axis moves by a count after the seed was sent, and is asked for there. -/
def abandonedSeed : List (KincoLabel ℚ) :=
  [.operational true, observing 0x0021 350 kCsv 1 [],
    observing 0x0027 350 kCsv 2 [.controlWord (.finite 15)],
    observing 0x0027 350 kCsv 3 [.mode (.finite 8), .position (.finite (35 / 100))],
    observing 0x0027 351 kCsv 4 [],
    observing 0x0027 351 kCsv 5 [.position (.finite (351 / 1000))]]

instance (r : PreseedRun ℚ) : ∀ label, Decidable (r.Preseeded label)
  | .cycle _ => inferInstanceAs (Decidable (_ → _ → _ → _))
  | .operational _ => .isTrue trivial

instance (r : PreseedRun ℚ) : ∀ label, Decidable (r.FollowsSeed label)
  | .cycle _ => inferInstanceAs (Decidable (_ → _ → _ ∧ _))
  | .operational _ => .isTrue trivial

theorem seededSwitch_over_target :
    Along PreseedRun.step (fun r => r.Preseeded)
      (.start (configuration kCsv (.inr rfl)) commands) seededSwitch :=
  csp_over_preseeded_target _ _ seededSwitch (by decide +kernel)

theorem abandoned_seed_requests :
    ¬∀ (config : KincoConfig ℚ) commands labels, config.modeSwitching = true →
      Along PreseedRun.step (fun r => r.Preseeded) (.start config commands) labels := by
  intro h
  have hrun := h (configuration kCsv (.inr rfl)) commands abandonedSeed rfl
  revert hrun
  decide +kernel

end Kinco

end RobotDriver.Ethercat
