import RobotDriver.Ethercat.TriggerHandshake
import RobotDriver.Ethercat.ZeroErrPpSlave

/-!
# What the outcomes of a gripper motion mean

Beside the slave stand the word that was sent last, how many ticks in a row found the drive halted
and at rest, how far the handshake of the reported sequence went, and whether the slave has been in
fault since the last word that did not enable.
-/

namespace RobotDriver.Ethercat

open LabelledRun (Along run)

def haltBit (word : BitVec 16) : Bool := word.getLsbD 8

namespace PpGripper

variable {K : Type*} [Field K] [LinearOrder K]

/-- The output was sent, and the drive neither acknowledges nor moves. -/
def Rests (g : PpGripper K) (sent : Bool) (feedback : PpFeedback K) : Prop :=
  sent = true ∧ acknowledged feedback.statusWord = false ∧ g.stopped feedback.velocity = true

/-- From which states an update may come to the outcomes and to the steps before them. -/
structure Reaches (g : PpGripper K) (sent : Bool) (feedback : PpFeedback K)
    (next : PpGripper K) : Prop where
  halting : next.output.state = .halting → next.stoppedCount = 0 ∨
    g.output.state = .halting ∧ g.Rests sent feedback ∧ next.stoppedCount = g.stoppedCount + 1
  halted : next.output.state = .halted → next.output.sequence = g.output.sequence ∧
    (g.output.state = .halted ∨ g.output.state = .halting ∧ g.Rests sent feedback ∧
      g.config.stoppedCycles ≤ g.stoppedCount + 1)
  releasing : next.output.state = .releasingAck → next.output.sequence = g.output.sequence ∧
    (g.output.state = .releasingAck ∨
      g.output.state = .waitingAck ∧ sent = true ∧ acknowledged feedback.statusWord = true)
  moving : next.output.state = .moving → next.output.sequence = g.output.sequence ∧
    (g.output.state = .moving ∨
      g.output.state = .releasingAck ∧ sent = true ∧ acknowledged feedback.statusWord = false)
  reached : next.output.state = .reached → next.output.sequence = g.output.sequence ∧
    (g.output.state = .reached ∨ g.output.state = .moving)
  fault : g.output.state = .fault → next.output.state = .fault ∨ next.output.state = .unavailable

theorem Reaches.of_state {g next : PpGripper K} {sent : Bool} {feedback : PpFeedback K}
    (h : next.output.state = .fault ∨ next.output.state = .unavailable ∨
      next.output.state = .idle ∧ g.output.state ≠ .fault ∨
      next.output.state = .preparing ∧ g.output.state ≠ .fault ∨
      next.output.state = .waitingAck ∧ g.output.state ≠ .fault) :
    g.Reaches sent feedback next := by
  rcases h with h | h | ⟨h, hg⟩ | ⟨h, hg⟩ | ⟨h, hg⟩ <;>
    exact ⟨by simp [h], by simp [h], by simp [h], by simp [h], by simp [h], by simp_all⟩

theorem Reaches.same {g next : PpGripper K} {sent : Bool} {feedback : PpFeedback K}
    (houtput : next.output.state = g.output.state)
    (hsequence : next.output.sequence = g.output.sequence) (h : g.output.state ≠ .halting) :
    g.Reaches sent feedback next where
  halting hs := (h (houtput.symm.trans hs)).elim
  halted hs := ⟨hsequence, .inl (houtput.symm.trans hs)⟩
  releasing hs := ⟨hsequence, .inl (houtput.symm.trans hs)⟩
  moving hs := ⟨hsequence, .inl (houtput.symm.trans hs)⟩
  reached hs := ⟨hsequence, .inl (houtput.symm.trans hs)⟩
  fault hs := .inl (houtput.trans hs)

theorem reaches_handshake (g : PpGripper K) (sent : Bool) (feedback : PpFeedback K)
    (now : Double K) : g.Reaches sent feedback (g.handshake sent feedback now) := by
  unfold handshake
  dsimp only
  split
  case h_1 hidle => exact .same rfl rfl (by simp [hidle])
  case h_2 hpreparing =>
    split_ifs
    · exact .of_state (.inr (.inr (.inr (.inr ⟨rfl, by simp [hpreparing]⟩))))
    · exact .of_state (.inl rfl)
    · exact .same rfl rfl (by simp [hpreparing])
  case h_3 hwaiting =>
    split_ifs with hack
    · rw [Bool.and_eq_true] at hack
      refine ⟨nofun, nofun, fun _ => ⟨rfl, .inr ⟨hwaiting, hack⟩⟩, nofun, nofun, fun h => ?_⟩
      simp [hwaiting] at h
    · exact .of_state (.inl rfl)
    · exact .same rfl rfl (by simp [hwaiting])
  case h_4 hreleasing =>
    split_ifs with hack
    · rw [Bool.and_eq_true, Bool.not_eq_true'] at hack
      refine ⟨nofun, nofun, nofun, fun _ => ⟨rfl, .inr ⟨hreleasing, hack⟩⟩, nofun, fun h => ?_⟩
      simp [hreleasing] at h
    · exact .of_state (.inl rfl)
    · exact .same rfl rfl (by simp [hreleasing])
  case h_5 hmoving =>
    split_ifs
    · refine ⟨nofun, nofun, nofun, nofun, fun _ => ⟨rfl, .inr hmoving⟩, fun h => ?_⟩
      simp [hmoving] at h
    · exact .same rfl rfl (by simp [hmoving])
  case h_6 hhalting =>
    by_cases hrests : (sent && !acknowledged feedback.statusWord &&
        g.stopped feedback.velocity) = true
    · have hquiet : g.Rests sent feedback := by
        simp only [Bool.and_eq_true, Bool.not_eq_true'] at hrests
        exact ⟨hrests.1.1, hrests.1.2, hrests.2⟩
      simp only [if_pos hrests]
      split_ifs with hcount
      · refine ⟨nofun, fun _ => ⟨rfl, .inr ⟨hhalting, hquiet, hcount⟩⟩, nofun, nofun, nofun,
          fun h => ?_⟩
        simp [hhalting] at h
      · exact .of_state (.inl rfl)
      · refine ⟨fun _ => .inr ⟨hhalting, hquiet, rfl⟩, fun h => ?_, fun h => ?_, fun h => ?_,
          fun h => ?_, fun h => ?_⟩ <;> simp [hhalting] at h
    · simp only [if_neg hrests]
      split_ifs with hcount
      · exact absurd hcount (Nat.not_le.2 g.config.stoppedCycles_pos)
      · exact .of_state (.inl rfl)
      · refine ⟨fun _ => .inl rfl, fun h => ?_, fun h => ?_, fun h => ?_, fun h => ?_,
          fun h => ?_⟩ <;> simp [hhalting] at h
  all_goals
    next hstate => exact .same rfl rfl (by simp [hstate])

variable [FloorRing K]

theorem reaches_advance (g : PpGripper K) (sent : Bool) (request : PpRequest K)
    (feedback : PpFeedback K) (now : Double K) :
    g.Reaches sent feedback (g.advance sent request feedback now) := by
  unfold advance
  dsimp only
  split_ifs with hfresh hhalt
  · split
    · have hfault : g.output.state ≠ .fault := hfresh.2
      by_cases hhalt : request.halt = true
      · refine ⟨fun _ => .inl rfl, fun h => ?_, fun h => ?_, fun h => ?_, fun h => ?_,
          fun h => absurd h hfault⟩ <;> simp [accept, enter, inState, hhalt] at h
      · exact .of_state (.inr (.inr (.inr (.inl ⟨by simp [accept, enter, inState, hhalt],
          hfault⟩))))
    · exact .of_state (.inl rfl)
  · simp only [Bool.and_eq_true, decide_eq_true_eq] at hhalt
    exact ⟨fun _ => .inl rfl, by rintro ⟨⟩, by rintro ⟨⟩, by rintro ⟨⟩, by rintro ⟨⟩,
      fun h => absurd h hhalt.1.1.1.2⟩
  · exact g.reaches_handshake sent feedback now

omit [FloorRing K] in
theorem Reaches.of_checked {g next : PpGripper K} {sent : Bool} {feedback : PpFeedback K}
    {now : Double K} (h : (g.checked feedback now).Reaches sent feedback next) :
    g.Reaches sent feedback next := by
  have hstate : (g.checked feedback now).output.state = .fault ∨
      (g.checked feedback now).output.state = g.output.state ∨
      (g.checked feedback now).output.state = .idle := by
    simp only [checked, inState]
    split_ifs
    · exact .inl rfl
    · exact .inr (.inr rfl)
    · exact .inr (.inl rfl)
  have hback : ∀ {state : PpState}, state ≠ .fault ∧ state ≠ .idle →
      (g.checked feedback now).output.state = state → g.output.state = state := by
    rintro state ⟨hfault, hidle⟩ heq
    rcases hstate with hs | hs | hs
    · exact absurd (heq.symm.trans hs) hfault
    · exact hs.symm.trans heq
    · exact absurd (heq.symm.trans hs) hidle
  exact ⟨fun hs => (h.halting hs).imp id fun hh => ⟨hback (by decide) hh.1, hh.2⟩,
    fun hs => ⟨(h.halted hs).1, (h.halted hs).2.imp (hback (by decide))
      fun hh => ⟨hback (by decide) hh.1, hh.2⟩⟩,
    fun hs => ⟨(h.releasing hs).1, (h.releasing hs).2.imp (hback (by decide))
      fun hh => ⟨hback (by decide) hh.1, hh.2⟩⟩,
    fun hs => ⟨(h.moving hs).1, (h.moving hs).2.imp (hback (by decide))
      fun hh => ⟨hback (by decide) hh.1, hh.2⟩⟩,
    fun hs => ⟨(h.reached hs).1, (h.reached hs).2.imp (hback (by decide)) (hback (by decide))⟩,
    fun hs => h.fault (by simp [checked, inState, hs])⟩

theorem reaches_update (g : PpGripper K) (request : PpRequest K) (feedback : PpFeedback K)
    (now : Double K) :
    g.Reaches g.wasSent feedback (g.update request feedback now) ∧
      ((g.update request feedback now).output.state ≠ .unavailable →
        requestsEnable feedback.controlWord = true) ∧
      (g.output.state = .fault → (g.update request feedback now).output.state = .unavailable →
        feedback.operational = false ∨ requestsEnable feedback.controlWord = false) := by
  unfold update
  dsimp only
  split_ifs with hdown henabled hstatus
  · simp only [Bool.or_eq_true, Bool.not_eq_true'] at hdown
    exact ⟨.of_state (.inr (.inl rfl)), fun h => absurd rfl h, fun _ _ => hdown⟩
  · simp only [Bool.or_eq_true, Bool.not_eq_true'] at hdown
    exact ⟨.of_state (.inr (.inl rfl)), fun h => absurd rfl h, fun _ _ => hdown⟩
  · simp only [Bool.and_eq_true, decide_eq_true_eq] at hstatus
    exact ⟨.of_state (.inr (.inl rfl)), fun h => absurd rfl h, fun h => absurd h hstatus.2⟩
  · simp only [Bool.or_eq_true, Bool.not_eq_true', not_or, Bool.not_eq_false] at hdown
    let g' : PpGripper K :=
      { g with wasSent := false, output := { g.output with controlWord := feedback.controlWord } }
    have hreaches : g'.Reaches g.wasSent feedback
        ((g'.checked feedback now).advance g.wasSent request feedback now) :=
      .of_checked (reaches_advance _ _ _ _ _)
    refine ⟨⟨hreaches.halting, hreaches.halted, hreaches.releasing, hreaches.moving,
      hreaches.reached, hreaches.fault⟩, fun _ => hdown.2, fun hfault hnext => ?_⟩
    have hchecked : (g'.checked feedback now).output.state = .fault := by
      simp [g', checked, inState, hfault]
    have hkept : (g'.checked feedback now).advance g.wasSent request feedback now =
        g'.checked feedback now := by
      simp [advance, handshake, hchecked]
    change ((g'.checked feedback now).advance g.wasSent request feedback now).output.state = _
      at hnext
    rw [hkept, hchecked] at hnext
    cases hnext

end PpGripper

theorem haltBit_composed (state : PpState) (base : BitVec 16) :
    haltBit (PpGripper.composed state base) = !decide (state = .waitingAck ∨
      state = .releasingAck ∨ state = .moving ∨ state = .reached) := by
  cases state <;> simp [haltBit, PpGripper.composed]

namespace ZeroErrPpSlave

variable {K : Type*} [Field K] [LinearOrder K] [FloorRing K] (s : ZeroErrPpSlave K)

theorem gripper_started (c : ZeroErrCycle K) :
    (s.started c).gripper = s.gripper.update (s.atStart c).request
        ((s.atStart c).tickFeedback c.complete) (.finite c.startAt) ∧
      (s.started c).feedback = (s.atStart c).tickFeedback c.complete := by
  have hgripper : (s.atStart c).gripper = s.gripper := by
    unfold atStart onPdoCycleRead
    dsimp only
    split_ifs <;> rfl
  unfold started onPdoCycleStart
  rw [hgripper]
  exact ⟨rfl, rfl⟩

theorem gripper_cycle (c : ZeroErrCycle K) :
    (s.cycle c).gripper =
        (if ((s.started c).processData c.inputs).isSent then (s.started c).gripper.sent
        else (s.started c).gripper) ∧
      (s.cycle c).output = (s.started c).output ∧
      (s.cycle c).image.controlWord =
        if requestsEnable (s.atStart c).baseControlWord then (s.started c).output.controlWord
        else (s.atStart c).baseControlWord := by
  unfold cycle onPdoCycleSent
  by_cases hsent : ((s.started c).processData c.inputs).isSent = true
  · rw [if_pos hsent, if_pos hsent]
    exact ⟨rfl, rfl, rfl⟩
  · rw [if_neg hsent, if_neg hsent]
    exact ⟨rfl, rfl, rfl⟩

theorem word_cycle (c : ZeroErrCycle K) :
    (requestsEnable (s.started c).feedback.controlWord = true →
        (s.cycle c).image.controlWord = PpGripper.composed (s.started c).output.state
          (s.started c).feedback.controlWord) ∧
      (requestsEnable (s.started c).feedback.controlWord = false →
        requestsEnable (s.cycle c).image.controlWord = false) := by
  obtain ⟨hgripper, hfeedback⟩ := s.gripper_started c
  obtain ⟨-, -, himage⟩ := s.gripper_cycle c
  have houtput : (s.started c).output.controlWord =
      if requestsEnable (s.started c).feedback.controlWord = true then
        PpGripper.composed (s.started c).output.state (s.started c).feedback.controlWord
      else (s.started c).feedback.controlWord := by
    have hupdate := s.gripper.controlWord_update (s.atStart c).request
      ((s.atStart c).tickFeedback c.complete) (.finite c.startAt)
    rw [← hgripper, ← hfeedback] at hupdate
    exact hupdate
  have hbase : requestsEnable (s.started c).feedback.controlWord = true →
      requestsEnable (s.atStart c).baseControlWord = true := by
    rw [hfeedback]
    simp only [tickFeedback]
    split_ifs with hhidden
    · exact fun h => absurd h (by decide)
    · exact id
  rw [himage, houtput]
  refine ⟨fun henable => ?_, fun hdisable => ?_⟩
  · rw [if_pos (hbase henable), if_pos henable]
  · rw [if_neg (Bool.eq_false_iff.1 hdisable)]
    split_ifs with henable
    · exact hdisable
    · exact Bool.eq_false_iff.2 henable

/-- A preloaded slave is up. -/
def Preloads : Prop := s.preloaded = true → s.isOperational = true ∧ s.havePosition = true

theorem preloads_atStart (h : s.Preloads) (c : ZeroErrCycle K) : (s.atStart c).Preloads := by
  unfold atStart onPdoCycleRead
  dsimp only
  split_ifs
  · exact fun hloaded => ⟨(h hloaded).1, rfl⟩
  · exact nofun
  · exact h

theorem operational_of_enabled (h : s.Preloads) (c : ZeroErrCycle K)
    (henable : requestsEnable (s.started c).feedback.controlWord = true) :
    (s.started c).feedback.operational = true := by
  have hstart := s.preloads_atStart h c
  rw [(s.gripper_started c).2] at henable ⊢
  simp only [tickFeedback] at henable ⊢
  split_ifs at henable with hhidden
  · exact absurd henable (by decide)
  · simp only [henable, Bool.and_true, Bool.not_eq_true', Bool.not_eq_false,
      Bool.and_eq_true] at hhidden
    obtain ⟨hup, hposition⟩ := hstart hhidden.1
    rw [hhidden.2, hup, hposition]
    rfl

theorem preloads_step (h : s.Preloads) (label : ZeroErrLabel K) : (s.step label).Preloads := by
  cases label with
  | operational value =>
    cases value with
    | true => exact fun hloaded => ⟨rfl, (h hloaded).2⟩
    | false => exact nofun
  | cycle c =>
    have hstart := s.preloads_atStart h c
    change (s.cycle c).Preloads
    unfold cycle onPdoCycleSent
    split_ifs with hsent
    · simp only [isSent, Bool.and_eq_true] at hsent
      exact fun _ => ⟨hsent.1.2, hsent.2⟩
    · intro hloaded
      have hbefore : ((s.atStart c).preloaded && c.complete) = true := hloaded
      rw [Bool.and_eq_true] at hbefore
      exact ⟨(hstart hbefore.1).1, rfl⟩

end ZeroErrPpSlave

/-- The slave beside what was sent and found. -/
structure GripperRun (K : Type*) [Field K] [LinearOrder K] where
  slave : ZeroErrPpSlave K
  lastSent : Option (BitVec 16) := none
  quiet : ℕ := 0
  raised : Bool := false
  released : Bool := false
  faulted : Bool := false

namespace GripperRun

variable {K : Type*} [Field K] [LinearOrder K] [FloorRing K] (r : GripperRun K)

/-- The control word that the cycle writes. -/
def word (c : ZeroErrCycle K) : BitVec 16 := (r.slave.cycle c).image.controlWord

def ack (c : ZeroErrCycle K) : Bool := acknowledged (r.slave.started c).feedback.statusWord

/-- The tick follows a word sent with the halt bit, and finds the drive at rest. -/
def isQuiet (c : ZeroErrCycle K) : Bool :=
  r.lastSent.any haltBit && !r.ack c &&
    r.slave.gripper.stopped (r.slave.started c).feedback.velocity

def quietFor (c : ZeroErrCycle K) : ℕ := if r.isQuiet c then r.quiet + 1 else 0

def resumes (c : ZeroErrCycle K) : Bool :=
  (r.slave.started c).output.sequence ≠ r.slave.output.sequence

/-- The trigger of the reported sequence was sent and acknowledged. -/
def raisedBy (c : ZeroErrCycle K) : Bool :=
  !r.resumes c && (r.raised || r.lastSent.any newSetpoint && r.ack c)

/-- After that the trigger was sent low and the acknowledgement gone. -/
def releasedBy (c : ZeroErrCycle K) : Bool :=
  !r.resumes c && (r.released || r.raised && r.lastSent.any (!newSetpoint ·) && !r.ack c)

def inFault (c : ZeroErrCycle K) : Bool :=
  r.faulted || (r.slave.started c).output.state = .fault

def step : ZeroErrLabel K → GripperRun K
  | .cycle c =>
    { slave := r.slave.cycle c
      lastSent :=
        if ((r.slave.started c).processData c.inputs).isSent then some (r.word c) else none
      quiet := r.quietFor c
      raised := r.raisedBy c
      released := r.releasedBy c
      faulted := r.inFault c && requestsEnable (r.word c) }
  | .operational value => { r with slave := r.slave.setStateIsOperational value }

/-- What the reported outcomes say. -/
structure SoundCycle (c : ZeroErrCycle K) : Prop where
  halted : (r.slave.started c).states.ppState = .halted →
    r.slave.output.state = .halted ∧
        (r.slave.started c).states.ppSequence = r.slave.output.sequence ∨
      r.slave.gripper.config.stoppedCycles ≤ r.quietFor c
  reached : (r.slave.started c).states.ppState = .reached → r.releasedBy c = true
  fault : r.inFault c = true → requestsEnable (r.word c) = true →
    haltBit (r.word c) = true ∧ newSetpoint (r.word c) = false

def Sound : ZeroErrLabel K → Prop
  | .cycle c => r.SoundCycle c
  | .operational _ => True

structure Invariant (r : GripperRun K) : Prop where
  output : r.slave.output = r.slave.gripper.output
  preloads : r.slave.Preloads
  sent : r.slave.gripper.wasSent = true → ∃ word, r.lastSent = some word ∧
    (r.slave.output.state = .halting → haltBit word = true) ∧
    (r.slave.output.state = .waitingAck → newSetpoint word = true) ∧
    (r.slave.output.state = .releasingAck → newSetpoint word = false)
  quiet : r.slave.output.state = .halting → r.slave.gripper.stoppedCount ≤ r.quiet
  raised : r.slave.output.state = .releasingAck → r.raised = true
  released : r.slave.output.state = .moving ∨ r.slave.output.state = .reached → r.released = true
  faulted : r.faulted = true → r.slave.output.state = .fault

variable {r}

theorem reaches_cycle (c : ZeroErrCycle K) :
    r.slave.gripper.Reaches r.slave.gripper.wasSent (r.slave.started c).feedback
        (r.slave.started c).gripper ∧
      ((r.slave.started c).gripper.output.state ≠ .unavailable →
        requestsEnable (r.slave.started c).feedback.controlWord = true) ∧
      (r.slave.gripper.output.state = .fault →
        (r.slave.started c).gripper.output.state = .unavailable →
        (r.slave.started c).feedback.operational = false ∨
          requestsEnable (r.slave.started c).feedback.controlWord = false) := by
  obtain ⟨hgripper, hfeedback⟩ := r.slave.gripper_started c
  rw [hgripper, hfeedback]
  exact r.slave.gripper.reaches_update _ _ _

theorem word_composed (c : ZeroErrCycle K)
    (h : (r.slave.started c).output.state ≠ .unavailable) :
    ∃ base, r.word c = PpGripper.composed (r.slave.started c).output.state base :=
  ⟨_, (r.slave.word_cycle c).1 ((reaches_cycle c).2.1 h)⟩

theorem sent_cycle (c : ZeroErrCycle K) (hsent : (r.slave.cycle c).gripper.wasSent = true) :
    ∃ word, (r.step (.cycle c)).lastSent = some word ∧
      ((r.slave.started c).output.state = .halting → haltBit word = true) ∧
      ((r.slave.started c).output.state = .waitingAck → newSetpoint word = true) ∧
      ((r.slave.started c).output.state = .releasingAck → newSetpoint word = false) := by
  have hout : ((r.slave.started c).processData c.inputs).isSent = true := by
    by_contra hkept
    rw [(r.slave.gripper_cycle c).1, if_neg hkept, (r.slave.gripper_started c).1,
      (r.slave.gripper.kept_update _ _ _).2] at hsent
    cases hsent
  refine ⟨r.word c, if_pos hout, fun hstate => ?_, fun hstate => ?_, fun hstate => ?_⟩
  all_goals obtain ⟨base, hword⟩ := word_composed (r := r) c (by rw [hstate]; nofun)
  · rw [hword, haltBit_composed, hstate]
    rfl
  · rw [hword, PpGripper.newSetpoint_composed, hstate]
    rfl
  · rw [hword, PpGripper.newSetpoint_composed, hstate]
    rfl

namespace Invariant

variable (h : r.Invariant) (c : ZeroErrCycle K)
include h

theorem isQuiet_of_rests
    (hhalting : r.slave.gripper.output.state = .halting)
    (hrests : r.slave.gripper.Rests r.slave.gripper.wasSent (r.slave.started c).feedback) :
    r.isQuiet c = true := by
  obtain ⟨hsent, hack, hstopped⟩ := hrests
  obtain ⟨word, hlast, hhalt, -⟩ := h.sent hsent
  rw [h.output] at hhalt
  simp [isQuiet, ack, hlast, hhalt hhalting, hack, hstopped]

theorem counts
    (hhalting : r.slave.gripper.output.state = .halting)
    (hrests : r.slave.gripper.Rests r.slave.gripper.wasSent (r.slave.started c).feedback) :
    r.slave.gripper.stoppedCount + 1 ≤ r.quietFor c := by
  have hquiet := h.quiet (by rw [h.output]; exact hhalting)
  rw [quietFor, if_pos (h.isQuiet_of_rests c hhalting hrests)]
  exact Nat.succ_le_succ hquiet

theorem resumes_of_sequence
    (hsequence : (r.slave.started c).gripper.output.sequence = r.slave.gripper.output.sequence) :
    r.resumes c = false := by
  rw [resumes, h.output]
  exact decide_eq_false (not_not.2 hsequence)

theorem raisedBy_of_releasing (hstate : (r.slave.started c).output.state = .releasingAck) :
    r.raisedBy c = true := by
  obtain ⟨hsequence, hfrom⟩ := (reaches_cycle c).1.releasing hstate
  rw [raisedBy, h.resumes_of_sequence c hsequence]
  rcases hfrom with hfrom | ⟨hfrom, hsent, hack⟩
  · rw [← h.output] at hfrom
    simp [h.raised hfrom]
  · rw [← h.output] at hfrom
    obtain ⟨word, hlast, -, htrigger, -⟩ := h.sent hsent
    simp [ack, hlast, htrigger hfrom, hack]

theorem releasedBy_of_moved (hstate : (r.slave.started c).output.state = .moving ∨
    (r.slave.started c).output.state = .reached) : r.releasedBy c = true := by
  have hmoved : r.resumes c = false ∧ (r.released = true ∨
      r.slave.output.state = .releasingAck ∧ r.slave.gripper.wasSent = true ∧
        r.ack c = false) := by
    rcases hstate with hstate | hstate
    · obtain ⟨hsequence, hfrom⟩ := (reaches_cycle c).1.moving hstate
      rw [← h.output] at hfrom
      exact ⟨h.resumes_of_sequence c hsequence,
        hfrom.imp (fun hmoving => h.released (.inl hmoving)) id⟩
    · obtain ⟨hsequence, hfrom⟩ := (reaches_cycle c).1.reached hstate
      rw [← h.output] at hfrom
      exact ⟨h.resumes_of_sequence c hsequence, .inl (h.released hfrom.symm)⟩
  rw [releasedBy, hmoved.1]
  rcases hmoved.2 with hreleased | ⟨hreleasing, hsent, hack⟩
  · simp [hreleased]
  · obtain ⟨word, hlast, -, -, hlow⟩ := h.sent hsent
    simp [h.raised hreleasing, hlast, hlow hreleasing, hack]

theorem fault_of_enabled (hfault : r.inFault c = true)
    (henable : requestsEnable (r.word c) = true) :
    (r.slave.started c).output.state = .fault := by
  simp only [inFault, Bool.or_eq_true, decide_eq_true_eq] at hfault
  rcases hfault with hfault | hfault
  · have hbefore := h.faulted hfault
    rw [h.output] at hbefore
    obtain ⟨hreaches, -, hleft⟩ := reaches_cycle (r := r) c
    refine (hreaches.fault hbefore).resolve_right fun hgone => ?_
    have hseen : requestsEnable (r.slave.started c).feedback.controlWord = true := by
      by_contra hdisabled
      have hword := (r.slave.word_cycle c).2 (Bool.eq_false_iff.2 hdisabled)
      exact Bool.eq_false_iff.1 hword henable
    rcases hleft hbefore hgone with hdown | hdown
    · rw [r.slave.operational_of_enabled h.preloads c hseen] at hdown
      cases hdown
    · rw [hseen] at hdown
      cases hdown
  · exact hfault

theorem sound : r.SoundCycle c where
  halted hstate := by
    obtain ⟨hsequence, hfrom⟩ := (reaches_cycle c).1.halted hstate
    rw [← h.output] at hfrom hsequence
    refine hfrom.imp (fun hhalted => ⟨hhalted, hsequence⟩) fun ⟨hhalting, hrests, hcount⟩ => ?_
    rw [h.output] at hhalting
    exact hcount.trans (h.counts c hhalting hrests)
  reached hstate := h.releasedBy_of_moved c (.inr hstate)
  fault hfault henable := by
    have hstate := h.fault_of_enabled c hfault henable
    obtain ⟨base, hword⟩ := word_composed (r := r) c (by rw [hstate]; nofun)
    rw [hword, haltBit_composed, PpGripper.newSetpoint_composed, hstate]
    exact ⟨rfl, rfl⟩

theorem cycle : (r.step (.cycle c)).Invariant := by
  obtain ⟨hgripper, houtput, -⟩ := r.slave.gripper_cycle c
  have hnext : (r.slave.cycle c).gripper.output = (r.slave.started c).output ∧
      (r.slave.cycle c).gripper.stoppedCount = (r.slave.started c).gripper.stoppedCount := by
    rw [hgripper]
    split_ifs <;> exact ⟨rfl, rfl⟩
  have hstate : (r.step (.cycle c)).slave.output.state = (r.slave.started c).output.state :=
    congrArg PpOutput.state houtput
  constructor
  case output => exact houtput.trans hnext.1.symm
  case preloads => exact r.slave.preloads_step h.preloads (.cycle c)
  case sent =>
    rw [hstate]
    exact sent_cycle c
  case quiet =>
    rw [hstate]
    intro hhalting
    change (r.slave.cycle c).gripper.stoppedCount ≤ r.quietFor c
    rw [hnext.2]
    rcases (reaches_cycle c).1.halting hhalting with hzero | ⟨hbefore, hrests, hcount⟩
    · rw [hzero]
      exact Nat.zero_le _
    · rw [hcount]
      exact h.counts c hbefore hrests
  case raised =>
    rw [hstate]
    exact h.raisedBy_of_releasing c
  case released =>
    rw [hstate]
    exact h.releasedBy_of_moved c
  case faulted =>
    rw [hstate]
    intro hfaulted
    have hboth : (r.inFault c && requestsEnable (r.word c)) = true := hfaulted
    rw [Bool.and_eq_true] at hboth
    exact h.fault_of_enabled c hboth.1 hboth.2

theorem step (label : ZeroErrLabel K) : (r.step label).Invariant := by
  cases label with
  | cycle c => exact h.cycle c
  | operational value =>
    have hpreloads := r.slave.preloads_step h.preloads (.operational value)
    cases value with
    | true | false => exact ⟨h.output, hpreloads, h.sent, h.quiet, h.raised, h.released, h.faulted⟩

end Invariant

omit [FloorRing K] in
theorem invariant_start (config : PpConfig K) (velocityFactor effortFactor : K)
    (commands : ZeroErrCommands K) :
    ({ slave := .start config velocityFactor effortFactor commands } : GripperRun K).Invariant where
  output := rfl
  preloads := nofun
  sent := nofun
  quiet := nofun
  raised := nofun
  released := nofun
  faulted := nofun

/-- In every run the outcomes of a gripper motion mean what they say: halted is reported after the
configured number of ticks at rest with the halt sent, reached after the handshake of its sequence,
and a fault holds the drive until a word that does not enable. -/
theorem gripper_outcomes_sound (config : PpConfig K) (velocityFactor effortFactor : K)
    (commands : ZeroErrCommands K) (labels : List (ZeroErrLabel K)) :
    Along step Sound
      ({ slave := .start config velocityFactor effortFactor commands } : GripperRun K) labels := by
  refine LabelledRun.along_of_invariant (P := Invariant) (fun _ label h => h.step label)
    (fun r label h => ?_) (invariant_start config velocityFactor effortFactor commands) labels
  cases label with
  | cycle c => exact h.sound c
  | operational value => trivial

end GripperRun

end RobotDriver.Ethercat
