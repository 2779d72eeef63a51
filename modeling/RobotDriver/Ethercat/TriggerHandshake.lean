import Mathlib.Data.Rat.Floor
import RobotDriver.Ethercat.PpGripper
import RobotDriver.Lib.LabelledRun

/-!
# One trigger per gripper request

Beside the gripper stand the outputs that were reported sent, whether an accepted request still
has its trigger, and the request sequence that a tick without an enabled drive was given.
-/

namespace RobotDriver.Ethercat

open LabelledRun (Along run)

namespace PpGripper

variable {K : Type*} [Field K] [LinearOrder K] [FloorRing K]

/-- The drive takes part in the handshake. -/
structure Ready (feedback : PpFeedback K) : Prop where
  operational : feedback.operational = true
  requested : requestsEnable feedback.controlWord = true
  enabled : operationEnabled feedback.statusWord = true
  mode : feedback.mode = 1

/-- How the handshake may go on. -/
structure Follows (sent : Bool) (state next : PpState) : Prop where
  preparing : next = .preparing → state = .preparing
  waiting : next = .waitingAck → state = .waitingAck ∨ (state = .preparing ∧ sent = true)
  idle : state = .unavailable ∨ state = .idle → next = .idle

/-- What an update makes of the output. -/
inductive Outcome (g : PpGripper K) (sent : Bool) (request : PpRequest K)
    (feedback : PpFeedback K) : PpOutput → Prop
  | unavailable {output : PpOutput} (sequence : output.sequence = request.sequence)
      (state : output.state = .unavailable)
      (down : feedback.operational = false ∨ requestsEnable feedback.controlWord = false ∨
        operationEnabled feedback.statusWord = false) : Outcome g sent request feedback output
  | fault {output : PpOutput} (state : output.state = .fault) : Outcome g sent request feedback output
  | accepts {output : PpOutput} {position maxEffort : K} (ready : Ready feedback)
      (running : g.output.state ≠ .fault) (fresh : request.sequence ≠ g.output.sequence)
      (valid : g.validRequest request = some (position, maxEffort))
      (sequence : output.sequence = request.sequence)
      (state : output.state = .preparing ∨ output.state = .halting)
      (target : output.target =
        Double.llround (g.config.zeroCounts + position * g.config.countsPerMetre))
      (maxTorque : output.maxTorque = ⌊maxEffort * g.config.permillePerNewton⌋.toNat) :
      Outcome g sent request feedback output
  | continues {output : PpOutput} (ready : Ready feedback)
      (running : g.output.state ≠ .fault) (same : request.sequence = g.output.sequence)
      (sequence : output.sequence = g.output.sequence)
      (follows : Follows sent g.output.state output.state)
      (kept : output.state ≠ .idle →
        output.target = g.output.target ∧ output.maxTorque = g.output.maxTorque) :
      Outcome g sent request feedback output

variable (g : PpGripper K) (request : PpRequest K) (feedback : PpFeedback K) (now : Double K)

theorem newSetpoint_composed (state : PpState) (base : BitVec 16) :
    newSetpoint (composed state base) = decide (state = .waitingAck) := by
  cases state <;> simp [newSetpoint, composed]

theorem controlWord_update :
    (g.update request feedback now).output.controlWord =
      if requestsEnable feedback.controlWord = true then
        composed (g.update request feedback now).output.state feedback.controlWord
      else feedback.controlWord := by
  simp only [update]
  split_ifs <;> simp_all [compose, unavailable]

theorem Follows.refl {sent : Bool} {state : PpState} (h : state ≠ .unavailable) :
    Follows sent state state :=
  ⟨id, .inl, fun hs => hs.resolve_left h⟩

theorem Follows.of_ne {sent : Bool} {state next : PpState} (hpreparing : next ≠ .preparing)
    (hwaiting : next ≠ .waitingAck) (hstate : state ≠ .unavailable ∧ state ≠ .idle) :
    Follows sent state next :=
  ⟨fun h => absurd h hpreparing, fun h => absurd h hwaiting,
    fun h => (h.elim hstate.1 hstate.2).elim⟩

theorem handshake_outcome (sent : Bool) (hready : Ready feedback)
    (hfault : g.output.state ≠ .fault) (hsame : request.sequence = g.output.sequence)
    (hstate : g.output.state ≠ .unavailable) :
    Outcome g sent request feedback (g.handshake sent feedback now).output := by
  have hcontinue {next : PpState} (hfollows : Follows sent g.output.state next) :
      Outcome g sent request feedback { g.output with state := next } :=
    .continues hready hfault hsame rfl hfollows fun _ => ⟨rfl, rfl⟩
  have hkept : Outcome g sent request feedback g.output := hcontinue (.refl hstate)
  unfold handshake
  dsimp only
  split
  case h_1 hidle =>
    refine .continues hready hfault hsame rfl ?_ fun hne => absurd hidle hne
    exact .refl hstate
  case h_2 hpreparing =>
    split_ifs with hsent
    · rw [Bool.and_eq_true] at hsent
      exact hcontinue ⟨nofun, fun _ => .inr ⟨hpreparing, hsent.1⟩, by simp [hpreparing]⟩
    · exact .fault rfl
    · exact hkept
  case h_3 hwaiting =>
    split_ifs
    · exact hcontinue (.of_ne nofun nofun (by simp [hwaiting]))
    · exact .fault rfl
    · exact hkept
  case h_4 hreleasing =>
    split_ifs
    · exact hcontinue (.of_ne nofun nofun (by simp [hreleasing]))
    · exact .fault rfl
    · exact hkept
  case h_5 hmoving =>
    split_ifs
    · exact hcontinue (.of_ne nofun nofun (by simp [hmoving]))
    · exact hkept
  case h_6 hhalting =>
    split_ifs
    · exact hcontinue (.of_ne nofun nofun (by simp [hhalting]))
    · exact .fault rfl
    · exact hkept
    · exact hcontinue (.of_ne nofun nofun (by simp [hhalting]))
    · exact .fault rfl
    · exact hkept
  all_goals exact hkept

theorem advance_outcome (sent : Bool) (hstate : g.output.state ≠ .unavailable)
    (hready : g.output.state ≠ .fault → Ready feedback) :
    Outcome g sent request feedback (g.advance sent request feedback now).output := by
  by_cases hfault : g.output.state = .fault
  · have hadvance : g.advance sent request feedback now = g := by
      simp [advance, handshake, hfault]
    rw [hadvance]
    exact .fault hfault
  · unfold advance
    dsimp only
    split_ifs with hfresh hhalt
    · split
      case h_1 position maxEffort _ hvalid =>
        refine .accepts (hready hfault) hfault hfresh.1 hvalid rfl ?_ rfl rfl
        simp only [accept, enter, inState]
        split_ifs <;> simp
      case h_2 => exact .fault rfl
    · simp only [Bool.and_eq_true, decide_eq_true_eq] at hhalt
      refine .continues (hready hfault) hfault ?_ rfl (.of_ne nofun nofun ⟨hstate, ?_⟩)
        fun _ => ⟨rfl, rfl⟩
      · exact not_not.1 fun hne => hfresh ⟨hne, hfault⟩
      · exact hhalt.1.1.2
    · exact g.handshake_outcome request feedback now sent (hready hfault) hfault
        (not_not.1 fun hne => hfresh ⟨hne, hfault⟩) hstate

variable {g request feedback now}

theorem Outcome.of_checked {sent : Bool} {output : PpOutput}
    (hhealthy : g.healthy feedback now = true)
    (h : Outcome (g.checked feedback now) sent request feedback output) :
    Outcome g sent request feedback output := by
  have hstate : (g.checked feedback now).output.state =
      if g.output.state = .unavailable then .idle else g.output.state := by
    simp [checked, inState, hhealthy]
  cases h with
  | unavailable hsequence hstate hdown => exact .unavailable hsequence hstate hdown
  | fault hstate => exact .fault hstate
  | accepts hready hrunning hfresh hvalid hsequence hout htarget htorque =>
    refine .accepts hready (fun hfault => hrunning ?_) hfresh hvalid hsequence hout htarget htorque
    rw [hstate, hfault, if_neg nofun]
  | continues hready hrunning hsame hsequence hfollows hkept =>
    refine .continues hready (fun hfault => hrunning ?_) hsame hsequence ?_ hkept
    · rw [hstate, hfault, if_neg nofun]
    rw [hstate] at hfollows
    split_ifs at hfollows with hfresh
    · rw [hfresh]
      exact ⟨fun h => absurd (hfollows.preparing h) nofun,
        fun h => (hfollows.waiting h).elim nofun nofun, fun _ => hfollows.idle (.inr rfl)⟩
    · exact hfollows

omit [FloorRing K] in
theorem ready_of_healthy (hoperational : feedback.operational = true)
    (henabled : requestsEnable feedback.controlWord = true)
    (hhealthy : g.healthy feedback now = true) : Ready feedback := by
  simp only [healthy, Bool.and_eq_true, decide_eq_true_eq] at hhealthy
  exact ⟨hoperational, henabled, hhealthy.1.1.1.1.1, hhealthy.1.1.1.1.2⟩

theorem Outcome.compose {sent : Bool} {next : PpGripper K} (base : BitVec 16)
    (h : Outcome { g with wasSent := false, output := { g.output with controlWord := base } } sent
      request feedback next.output) :
    Outcome g sent request feedback (next.compose base).output := by
  cases h with
  | unavailable hsequence hstate hdown => exact .unavailable hsequence hstate hdown
  | fault hstate => exact .fault hstate
  | accepts hready hrunning hfresh hvalid hsequence hstate htarget htorque =>
    exact .accepts hready hrunning hfresh hvalid hsequence hstate htarget htorque
  | continues hready hrunning hsame hsequence hfollows hkept =>
    exact .continues hready hrunning hsame hsequence hfollows hkept

theorem update_outcome (g : PpGripper K) (request : PpRequest K) (feedback : PpFeedback K)
    (now : Double K) :
    Outcome g g.wasSent request feedback (g.update request feedback now).output := by
  unfold update
  dsimp only
  split_ifs with hdown henabled hstatus
  · simp only [Bool.or_eq_true, Bool.not_eq_true'] at hdown
    exact .unavailable rfl rfl (hdown.elim .inl fun h => .inr (.inl h))
  · exact .unavailable rfl rfl (.inr (.inl (Bool.eq_false_iff.2 henabled)))
  · simp only [Bool.and_eq_true, Bool.not_eq_true'] at hstatus
    exact .unavailable rfl rfl (.inr (.inr hstatus.1.2))
  · simp only [Bool.or_eq_true, Bool.not_eq_true', not_or, Bool.not_eq_false] at hdown
    let g' : PpGripper K :=
      { g with wasSent := false, output := { g.output with controlWord := feedback.controlWord } }
    have hchecked : Outcome g' g.wasSent request feedback
        ((g'.checked feedback now).advance g.wasSent request feedback now).output := by
      by_cases hhealthy : g'.healthy feedback now = true
      · refine Outcome.of_checked hhealthy (advance_outcome _ _ _ _ _ ?_ fun _ => ?_)
        · simp only [checked, inState, hhealthy, Bool.not_true, Bool.false_eq_true, if_false]
          split_ifs with hfresh
          · exact nofun
          · exact hfresh
        · exact ready_of_healthy hdown.1 hdown.2 hhealthy
      · refine .fault ?_
        simp [checked, inState, hhealthy, advance, handshake]
    exact Outcome.compose feedback.controlWord hchecked

omit [FloorRing K] in
theorem kept_handshake (g : PpGripper K) (sent : Bool) (feedback : PpFeedback K) (now : Double K) :
    (g.handshake sent feedback now).config = g.config ∧
      (g.handshake sent feedback now).wasSent = g.wasSent := by
  unfold handshake
  dsimp only
  split <;> (try split_ifs) <;> exact ⟨rfl, rfl⟩

theorem kept_advance (g : PpGripper K) (sent : Bool) (request : PpRequest K)
    (feedback : PpFeedback K) (now : Double K) :
    (g.advance sent request feedback now).config = g.config ∧
      (g.advance sent request feedback now).wasSent = g.wasSent := by
  unfold advance
  dsimp only
  split_ifs
  · split <;> exact ⟨rfl, rfl⟩
  · exact ⟨rfl, rfl⟩
  · exact g.kept_handshake sent feedback now

theorem kept_update (g : PpGripper K) (request : PpRequest K) (feedback : PpFeedback K)
    (now : Double K) :
    (g.update request feedback now).config = g.config ∧
      (g.update request feedback now).wasSent = false := by
  unfold update
  dsimp only
  split_ifs
  · exact ⟨rfl, rfl⟩
  · exact ⟨rfl, rfl⟩
  · exact ⟨rfl, rfl⟩
  · exact kept_advance _ _ _ _ _

end PpGripper

/-- A run of the gripper with what was reported and requested in it. -/
structure PpRun (K : Type*) [Field K] [LinearOrder K] where
  gripper : PpGripper K
  reported : List PpOutput := []
  armed : Bool := false
  blocked : Option ℕ := none

inductive PpLabel (K : Type*)
  | update (request : PpRequest K) (feedback : PpFeedback K) (now : Double K)
  | sent

namespace PpRun

variable {K : Type*} [Field K] [LinearOrder K] [FloorRing K]

def start (c : PpConfig K) : PpRun K where
  gripper := { config := c }

/-- The request sequence is taken over for a motion. -/
def Accepts (before after : PpOutput) : Prop :=
  after.sequence ≠ before.sequence ∧ (after.state = .preparing ∨ after.state = .halting)

instance (before after : PpOutput) : Decidable (Accepts before after) :=
  inferInstanceAs (Decidable (_ ∧ _))

/-- The trigger rises under an enabling base word. -/
def Rises (feedback : PpFeedback K) (before after : PpOutput) : Prop :=
  requestsEnable feedback.controlWord = true ∧ newSetpoint before.controlWord = false ∧
    newSetpoint after.controlWord = true

instance (feedback : PpFeedback K) (before after : PpOutput) :
    Decidable (Rises feedback before after) := inferInstanceAs (Decidable (_ ∧ _ ∧ _))

/-- The drive is not operational, not enabled or in fault. -/
def Down (feedback : PpFeedback K) (after : PpOutput) : Prop :=
  feedback.operational = false ∨ requestsEnable feedback.controlWord = false ∨
    operationEnabled feedback.statusWord = false ∨ after.state = .fault

instance (feedback : PpFeedback K) (after : PpOutput) : Decidable (Down feedback after) :=
  inferInstanceAs (Decidable (_ ∨ _ ∨ _ ∨ _))

variable (r : PpRun K)

def stillBlocked (request : PpRequest K) : Option ℕ :=
  if r.blocked = some request.sequence then r.blocked else none

def step : PpLabel K → PpRun K
  | .sent => { r with gripper := r.gripper.sent, reported := r.gripper.output :: r.reported }
  | .update request feedback now =>
    let before := r.gripper.output
    let gripper := r.gripper.update request feedback now
    { r with
      gripper
      armed :=
        if Accepts before gripper.output then true
        else if Rises feedback before gripper.output then false
        else r.armed
      blocked :=
        if Down feedback gripper.output then some request.sequence else r.stillBlocked request }

/-- What an update may put out. -/
structure SoundUpdate (c : PpConfig K) (request : PpRequest K) (feedback : PpFeedback K)
    (after : PpOutput) : Prop where
  trigger : newSetpoint after.controlWord = true → requestsEnable feedback.controlWord = true →
    PpGripper.Ready feedback ∧
      ∃ o ∈ r.reported, newSetpoint o.controlWord = false ∧ o.sequence = after.sequence ∧
        o.target = after.target ∧ o.maxTorque = after.maxTorque
  forwarded : requestsEnable feedback.controlWord = false →
    after.controlWord = feedback.controlWord
  once : Rises feedback r.gripper.output after → r.armed = true
  unblocked : Rises feedback r.gripper.output after → r.stillBlocked request = none
  accepted : Accepts r.gripper.output after → ∃ position maxEffort,
    request.position = .finite position ∧ request.maxEffort = .finite maxEffort ∧
    c.minPosition ≤ position ∧ position ≤ c.maxPosition ∧
    |(after.target : K) - (c.zeroCounts + position * c.countsPerMetre)| ≤ 1 / 2 ∧
    (after.maxTorque : K) ≤ maxEffort * c.permillePerNewton ∧
    after.maxTorque ≤ c.maxTorquePermille

def Sound (c : PpConfig K) : PpLabel K → Prop
  | .sent => True
  | .update request feedback now =>
    r.SoundUpdate c request feedback (r.gripper.update request feedback now).output

/-- What the run says of the state of the handshake. -/
structure Inv (c : PpConfig K) : Prop where
  config : r.gripper.config = c
  sent : r.gripper.wasSent = true → r.gripper.output ∈ r.reported
  preparing : r.gripper.output.state = .preparing →
    newSetpoint r.gripper.output.controlWord = false ∧ r.armed = true ∧ r.blocked = none
  waiting : r.gripper.output.state = .waitingAck →
    newSetpoint r.gripper.output.controlWord = true ∧ r.blocked = none ∧
      ∃ o ∈ r.reported, newSetpoint o.controlWord = false ∧
        o.sequence = r.gripper.output.sequence ∧ o.target = r.gripper.output.target ∧
        o.maxTorque = r.gripper.output.maxTorque
  blocked : ∀ sequence, r.blocked = some sequence → r.gripper.output.state = .fault ∨
    ((r.gripper.output.state = .unavailable ∨ r.gripper.output.state = .idle) ∧
      r.gripper.output.sequence = sequence)

omit [FloorRing K] in
theorem inv_start (c : PpConfig K) : (start c).Inv c :=
  ⟨rfl, nofun, nofun, nofun, nofun⟩

variable {r} {c : PpConfig K} {request : PpRequest K} {feedback : PpFeedback K} {now : Double K}

open PpGripper (Ready Outcome update_outcome)

theorem newSetpoint_update (g : PpGripper K) (henable : requestsEnable feedback.controlWord = true) :
    newSetpoint (g.update request feedback now).output.controlWord =
      decide ((g.update request feedback now).output.state = .waitingAck) := by
  rw [PpGripper.controlWord_update, if_pos henable, PpGripper.newSetpoint_composed]

theorem Inv.triggered (h : r.Inv c)
    (hwaiting : (r.gripper.update request feedback now).output.state = .waitingAck) :
    Ready feedback ∧ r.blocked = none ∧
      (newSetpoint r.gripper.output.controlWord = false → r.armed = true) ∧
      ∃ o ∈ r.reported, newSetpoint o.controlWord = false ∧
        o.sequence = (r.gripper.update request feedback now).output.sequence ∧
        o.target = (r.gripper.update request feedback now).output.target ∧
        o.maxTorque = (r.gripper.update request feedback now).output.maxTorque := by
  cases update_outcome r.gripper request feedback now with
  | unavailable _ hstate | fault hstate => exact absurd (hstate.symm.trans hwaiting) nofun
  | accepts _ _ _ _ _ hstate =>
    exact (hstate.elim (fun hs => nomatch hs.symm.trans hwaiting)
      fun hs => nomatch hs.symm.trans hwaiting)
  | continues hready _ _ hsequence hfollows hkept =>
    obtain ⟨htarget, htorque⟩ := hkept (hwaiting ▸ nofun)
    rw [hsequence, htarget, htorque]
    rcases hfollows.waiting hwaiting with hstate | ⟨hstate, hsent⟩
    · obtain ⟨hset, hblocked, ho⟩ := h.waiting hstate
      exact ⟨hready, hblocked, fun hclear => (nomatch hset.symm.trans hclear), ho⟩
    · obtain ⟨hclear, harmed, hblocked⟩ := h.preparing hstate
      exact ⟨hready, hblocked, fun _ => harmed, _, h.sent hsent, hclear, rfl, rfl, rfl⟩

omit [FloorRing K] in
theorem validRequest_eq_some {g : PpGripper K} {position maxEffort : K}
    (h : g.validRequest request = some (position, maxEffort)) :
    request.position = .finite position ∧ request.maxEffort = .finite maxEffort ∧
      g.config.minPosition ≤ position ∧ position ≤ g.config.maxPosition ∧
      maxEffort ≤ g.config.maxForce ∧ 1 ≤ maxEffort * g.config.permillePerNewton := by
  unfold PpGripper.validRequest at h
  split at h
  case h_1 position' maxEffort' hposition heffort =>
    split_ifs at h with hvalid
    cases h
    exact ⟨hposition, heffort, hvalid.2.1, hvalid.2.2.1, hvalid.2.2.2.2⟩
  case h_2 => cases h

theorem floor_toNat_le [IsStrictOrderedRing K] {x : K} {bound : ℕ} (hx : 1 ≤ x) (hbound : x ≤ bound) :
    ((⌊x⌋.toNat : ℕ) : K) ≤ x ∧ ⌊x⌋.toNat ≤ bound := by
  have hfloor : ((⌊x⌋.toNat : ℕ) : ℤ) = ⌊x⌋ :=
    Int.toNat_of_nonneg (Int.floor_nonneg.2 (zero_le_one.trans hx))
  have hle : ((⌊x⌋.toNat : ℕ) : K) ≤ x := by
    calc ((⌊x⌋.toNat : ℕ) : K) = ((⌊x⌋ : ℤ) : K) := by rw [← Int.cast_natCast, hfloor]
      _ ≤ x := Int.floor_le x
  exact ⟨hle, Nat.cast_le.1 (hle.trans hbound)⟩

theorem Inv.accepted [IsStrictOrderedRing K] (h : r.Inv c)
    (haccepts : Accepts r.gripper.output (r.gripper.update request feedback now).output) :
    ∃ position maxEffort, request.position = .finite position ∧
      request.maxEffort = .finite maxEffort ∧ c.minPosition ≤ position ∧
      position ≤ c.maxPosition ∧
      |((r.gripper.update request feedback now).output.target : K) -
        (c.zeroCounts + position * c.countsPerMetre)| ≤ 1 / 2 ∧
      ((r.gripper.update request feedback now).output.maxTorque : K) ≤
        maxEffort * c.permillePerNewton ∧
      (r.gripper.update request feedback now).output.maxTorque ≤ c.maxTorquePermille := by
  obtain ⟨hfresh, hstate⟩ := haccepts
  cases update_outcome r.gripper request feedback now with
  | unavailable _ hout | fault hout => rw [hout] at hstate; exact absurd hstate (by simp)
  | continues _ _ _ hsequence => exact absurd hsequence hfresh
  | @accepts position maxEffort _ _ _ hvalid _ _ htarget htorque =>
    rw [h.config] at htarget htorque
    obtain ⟨hposition, heffort, hmin, hmax, hforce, hone⟩ := validRequest_eq_some hvalid
    rw [h.config] at hmin hmax hforce hone
    have hbound : maxEffort * c.permillePerNewton ≤ c.maxTorquePermille :=
      (mul_le_mul_of_nonneg_right hforce c.permillePerNewton_pos.le).trans c.force_le
    obtain ⟨hle, hpermille⟩ := floor_toNat_le hone hbound
    rw [htarget, htorque]
    exact ⟨position, maxEffort, hposition, heffort, hmin, hmax, Double.abs_llround_sub_le _, hle,
      hpermille⟩

theorem Inv.sound [IsStrictOrderedRing K] (h : r.Inv c) (label : PpLabel K) : r.Sound c label := by
  cases label with
  | sent => trivial
  | update request feedback now =>
    have hrise (hrises : Rises feedback r.gripper.output
        (r.gripper.update request feedback now).output) :
        (r.gripper.update request feedback now).output.state = .waitingAck := by
      have hset := hrises.2.2
      rwa [newSetpoint_update _ hrises.1, decide_eq_true_eq] at hset
    refine ⟨fun hset henable => ?_, fun henable => ?_, fun hrises => ?_, fun hrises => ?_,
      fun haccepts => ?_⟩
    · rw [newSetpoint_update _ henable, decide_eq_true_eq] at hset
      obtain ⟨hready, _, _, ho⟩ := h.triggered hset
      exact ⟨hready, ho⟩
    · rw [PpGripper.controlWord_update, if_neg (by simp [henable])]
    · exact (h.triggered (hrise hrises)).2.2.1 hrises.2.1
    · rw [stillBlocked, (h.triggered (hrise hrises)).2.1]
      simp
    · exact h.accepted haccepts

theorem Inv.step (h : r.Inv c) (label : PpLabel K) : (r.step label).Inv c := by
  cases label with
  | sent =>
    refine ⟨h.config, fun _ => List.mem_cons_self, h.preparing, fun hw => ?_, h.blocked⟩
    obtain ⟨hset, hblocked, o, ho, hsame⟩ := h.waiting hw
    exact ⟨hset, hblocked, o, List.mem_cons_of_mem _ ho, hsame⟩
  | update request feedback now =>
    obtain ⟨hconfig, hsent⟩ := r.gripper.kept_update request feedback now
    have hupdated := update_outcome r.gripper request feedback now
    have hready : Ready feedback → (r.gripper.update request feedback now).output.state ≠ .fault →
        ¬Down feedback (r.gripper.update request feedback now).output := by
      rintro ⟨hoperational, hrequested, henabled, _⟩ hfault
      simp [Down, hoperational, hrequested, henabled, hfault]
    have hunblocked : r.blocked = none → r.stillBlocked request = none := by
      intro hnone
      simp [stillBlocked, hnone]
    refine ⟨hconfig.trans h.config, fun hs => (nomatch hsent.symm.trans hs), fun hp => ?_,
      fun hw => ?_, fun sequence hb => ?_⟩
    · have hp : (r.gripper.update request feedback now).output.state = .preparing := hp
      have hclear (henable : requestsEnable feedback.controlWord = true) :
          newSetpoint (r.gripper.update request feedback now).output.controlWord = false := by
        rw [newSetpoint_update _ henable, hp]
        rfl
      cases hupdated with
      | unavailable _ hstate | fault hstate => exact absurd (hstate.symm.trans hp) nofun
      | accepts ready hrunning hfresh _ hsequence =>
        have haccepts : Accepts r.gripper.output (r.gripper.update request feedback now).output :=
          ⟨fun heq => hfresh (hsequence.symm.trans heq), .inl hp⟩
        refine ⟨hclear ready.requested, if_pos haccepts, ?_⟩
        simp only [PpRun.step, if_neg (hready ready (hp ▸ nofun)), stillBlocked]
        refine if_neg fun hblocked => ?_
        rcases h.blocked _ hblocked with hfault | ⟨_, hseq⟩
        · exact hrunning hfault
        · exact hfresh hseq.symm
      | continues ready _ _ hsequence hfollows =>
        obtain ⟨_, harmed, hblocked⟩ := h.preparing (hfollows.preparing hp)
        refine ⟨hclear ready.requested, ?_, ?_⟩
        · simp only [PpRun.step]
          rw [if_neg fun ha => ha.1 hsequence,
            if_neg fun hr => ne_true_of_eq_false (hclear ready.requested) hr.2.2, harmed]
        · simp only [PpRun.step, if_neg (hready ready (hp ▸ nofun))]
          exact hunblocked hblocked
    · obtain ⟨ready, hblocked, _, ho⟩ := h.triggered hw
      refine ⟨?_, ?_, ho⟩
      · rw [PpRun.step, newSetpoint_update _ ready.requested]
        exact decide_eq_true hw
      · simp only [PpRun.step, if_neg (hready ready (hw ▸ nofun))]
        exact hunblocked hblocked
    · simp only [PpRun.step] at hb ⊢
      cases hupdated with
      | unavailable hsequence hstate down =>
        have hdown : Down feedback (r.gripper.update request feedback now).output :=
          down.elim .inl fun hd => .inr (hd.elim .inl fun hd => .inr (.inl hd))
        rw [if_pos hdown] at hb
        exact .inr ⟨.inl hstate, hsequence.trans (Option.some.inj hb)⟩
      | fault hstate => exact .inl hstate
      | accepts ready hrunning hfresh _ _ hstate =>
        rw [if_neg (hready ready (by rcases hstate with hs | hs <;> rw [hs] <;> nofun))] at hb
        unfold stillBlocked at hb
        split_ifs at hb with hblocked
        rcases h.blocked _ hblocked with hfault | ⟨_, hseq⟩
        · exact absurd hfault hrunning
        · exact absurd hseq.symm hfresh
      | continues ready hrunning hsame hsequence hfollows =>
        by_cases hfault : (r.gripper.update request feedback now).output.state = .fault
        · exact .inl hfault
        rw [if_neg (hready ready hfault)] at hb
        unfold stillBlocked at hb
        split_ifs at hb with hblocked
        rcases h.blocked _ hb with hstate | ⟨hstate, hseq⟩
        · exact absurd hstate hrunning
        · exact .inr ⟨.inr (hfollows.idle hstate), hsequence.trans hseq⟩

theorem Inv.along_sound [IsStrictOrderedRing K] (h : r.Inv c) (labels : List (PpLabel K)) :
    Along PpRun.step (fun r => r.Sound c) r labels := by
  induction labels generalizing r with
  | nil => exact LabelledRun.along_nil r
  | cons label labels ih => exact ⟨h.sound label, ih (h.step label)⟩

end PpRun

/-- One trigger for each gripper request, in every run. -/
theorem one_trigger_per_request {K : Type*} [Field K] [LinearOrder K] [IsStrictOrderedRing K]
    [FloorRing K] (c : PpConfig K) (labels : List (PpLabel K)) :
    Along PpRun.step (fun r => r.Sound c) (.start c) labels :=
  (PpRun.inv_start c).along_sound labels

namespace PpRun

/-- The raised trigger is the gripper's own. -/
def TriggersEnabled {K : Type*} [Field K] [LinearOrder K] [FloorRing K] (r : PpRun K) :
    PpLabel K → Prop
  | .sent => True
  | .update request feedback now =>
    newSetpoint (r.gripper.update request feedback now).output.controlWord = true →
      requestsEnable feedback.controlWord = true

/-- An accepted target is a position of the stroke. -/
def TargetsInStroke {K : Type*} [Field K] [LinearOrder K] [FloorRing K] (r : PpRun K) :
    PpLabel K → Prop
  | .sent => True
  | .update request feedback now =>
    let after := (r.gripper.update request feedback now).output
    Accepts r.gripper.output after →
      r.gripper.config.minPosition ≤ r.gripper.position after.target ∧
        r.gripper.position after.target ≤ r.gripper.config.maxPosition

instance (r : PpRun ℚ) : ∀ label, Decidable (r.TriggersEnabled label)
  | .sent => .isTrue trivial
  | .update _ _ _ => inferInstanceAs (Decidable (_ → _))

instance (r : PpRun ℚ) : ∀ label, Decidable (r.TargetsInStroke label)
  | .sent => .isTrue trivial
  | .update _ _ _ => inferInstanceAs (Decidable (_ → _))

/-- The stroke ends between two counts. -/
def calibration : PpConfig ℚ where
  countsPerMetre := 100000
  zeroCounts := 100
  minPosition := 0
  maxPosition := 40003 / 500000
  maxForce := 10
  permillePerNewton := 20
  maxTorquePermille := 200
  positionTolerance := 1 / 10000
  stoppedVelocity := 1 / 10000
  ackTimeout := 1 / 10
  haltTimeout := 1 / 5
  stoppedCycles := 2
  countsPerMetre_ne := by decide
  minPosition_nonneg := by decide
  minPosition_lt := by decide +kernel
  maxForce_pos := by decide
  permillePerNewton_pos := by decide
  maxTorquePermille_pos := by decide
  maxTorquePermille_lt := by decide
  force_le := by norm_num
  positionTolerance_pos := by norm_num
  stoppedVelocity_pos := by norm_num
  ackTimeout_pos := tenthSecond_pos
  haltTimeout_pos := by norm_num
  stoppedCycles_pos := Nat.two_pos
  low_valid := by norm_num [rawPositionValid]
  high_valid := by norm_num [rawPositionValid]

def enabledFeedback (word : BitVec 16) : PpFeedback ℚ where
  operational := true
  controlWord := word
  statusWord := 0x0027
  mode := 1
  actualPosition := 100
  velocity := .finite 0

def closing : PpRequest ℚ where
  sequence := 1
  position := .finite (40003 / 500000)
  maxEffort := .finite 5
  halt := false

def closeGripper : List (PpLabel ℚ) :=
  [.update { closing with sequence := 0 } (enabledFeedback 0x000f) (.finite 0),
    .update closing (enabledFeedback 0x000f) (.finite (1 / 250)), .sent,
    .update closing (enabledFeedback 0x000f) (.finite (2 / 250))]

theorem close_triggers_once :
    Along step (fun r => r.Sound calibration) (.start calibration) closeGripper :=
  one_trigger_per_request calibration closeGripper

/-- A base word that enables nothing is forwarded with its trigger bit, and a target is rounded to
a count beyond the stroke. -/
theorem forwarded_and_rounded :
    (¬∀ (c : PpConfig ℚ) labels, Along step TriggersEnabled (.start c) labels) ∧
      ¬∀ (c : PpConfig ℚ) labels, Along step TargetsInStroke (.start c) labels := by
  constructor
  · intro h
    have hrun := h calibration [.update closing (enabledFeedback 0x0010) (.finite 0)]
    revert hrun
    decide +kernel
  · intro h
    have hrun := h calibration closeGripper
    revert hrun
    decide +kernel

end PpRun

end RobotDriver.Ethercat
