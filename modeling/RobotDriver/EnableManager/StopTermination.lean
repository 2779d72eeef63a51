import Mathlib.Data.Int.ConditionallyCompleteOrder
import Mathlib.Order.ConditionallyCompleteLattice.Basic
import RobotDriver.EnableManager.System
import RobotDriver.Lib.Progress

/-!
# Every stop sequence ends

The measure of a stop sequence is the number of stage deadlines it can still spend: three in the
sequence itself, one in the quick stop and three in the emergency sequence. A tick never raises
it, and a tick at which an armed deadline has passed lowers it or ends the sequence, whatever the
drives and devices report.
-/

namespace RobotDriver.EnableManager.Controller

variable (cfg : Config) (c : Controller) (now : ℤ)

def atRest : Prop :=
  (c.protocol.phase = .idle ∨ c.protocol.phase = .failed) ∧ c.protocol.owner = .none

def stopping : Prop := stopPhase c.protocol.phase ∨ c.protocol.phase = .emergencyQuickStop

/-- The deadline of the running stage has passed. -/
def deadlineExpired : Prop := c.data.stageDeadlineNs ≠ 0 ∧ c.data.stageDeadlineNs ≤ now

/-- The stage that a tick works on: an unarmed deadline starts the sequence again. -/
def currentStage : ℕ := if c.data.stageDeadlineNs = 0 then 0 else c.data.downwardStage

def stopRank : ℕ :=
  match c.protocol.phase with
  | .startupSanitizing | .disabling | .rollback => 7 - min c.currentStage 2
  | .emergencyQuickStop => 4
  | .emergencyDisable | .resetDisabling => 3 - min c.currentStage 2
  | _ => 0

/-- The order in which the phases of a stop follow each other. -/
def phaseOrder : Phase → ℕ
  | .startupSanitizing | .disabling | .rollback | .resetDisabling => 0
  | .emergencyQuickStop => 1
  | .emergencyDisable => 2
  | _ => 3

/-- What one tick makes of a stop sequence. -/
inductive StopOutcome (c' : Controller) : Prop
  | finished (hrest : c'.atRest)
  | advanced (hstage : c.data.downwardStage < 2) (hphase : c'.protocol.phase = c.protocol.phase)
      (hnext : c'.data.downwardStage = c.data.downwardStage + 1)
      (hdeadline : c'.data.stageDeadlineNs = now + cfg.disableStageTimeoutNs)
  | escalated (hphase : c'.protocol.phase = .emergencyQuickStop)
      (hbefore : phaseOrder c.protocol.phase = 0) (hnoreset : c.protocol.phase ≠ .resetDisabling)
      (hdeadline : c'.data.stageDeadlineNs = now + cfg.disableStageTimeoutNs)
  | waiting (hphase : c'.protocol.phase = c.protocol.phase)
      (hstage : c'.data.downwardStage = c.data.downwardStage)
      (hdeadline : c'.data.stageDeadlineNs = c.data.stageDeadlineNs)
      (hopen : now < c.data.stageDeadlineNs)

theorem finishDownward_atRest (hphase : stopPhase c.protocol.phase) :
    (c.finishDownward cfg).atRest := by
  have hnext : ∀ b : Bool, (if b then Phase.failed else .idle) = .idle ∨
      (if b then Phase.failed else .idle) = .failed := by decide
  unfold finishDownward
  cases h : c.protocol.phase <;> simp only [h, stopPhase] at hphase
  case startupSanitizing =>
    refine ⟨?_, rfl⟩
    unfold finishStartup
    dsimp only
    repeat' split
    all_goals simp
  case disabling =>
    refine ⟨?_, rfl⟩
    unfold finishDisabling
    dsimp only
    repeat' split
    all_goals simp
  case rollback => exact ⟨hnext _, rfl⟩
  case resetDisabling =>
    refine ⟨?_, rfl⟩
    unfold finishReset
    dsimp only
    split <;> simp
  case emergencyDisable => exact ⟨hnext _, rfl⟩
  all_goals simp at hphase

theorem expireDownward_outcome (hphase : stopPhase c.protocol.phase) :
    StopOutcome cfg c now (c.expireDownward cfg now) := by
  unfold expireDownward
  by_cases hreset : c.protocol.phase = .resetDisabling
  · rw [if_pos hreset]
    exact .finished ⟨.inr rfl, rfl⟩
  rw [if_neg hreset]
  dsimp only
  rw [recordStopFailure_protocol]
  by_cases hemergency : c.protocol.phase = .emergencyDisable
  · rw [if_neg (not_not_intro hemergency)]
    exact .finished (finishDownward_atRest cfg _ (by simpa using hphase))
  · rw [if_pos hemergency]
    refine .escalated rfl ?_ hreset rfl
    revert hphase hreset hemergency
    cases c.protocol.phase <;> decide

theorem advanceStage_eq (hstage : c.data.downwardStage < 2) :
    c.advanceStage cfg now = c.onData fun d =>
      { d with
        downwardStage := d.downwardStage + 1
        stageDeadlineNs := now + cfg.disableStageTimeoutNs } := by
  unfold advanceStage
  refine if_neg fun h => ?_
  have hlate : 2 < c.data.downwardStage + 1 := of_decide_eq_true (Bool.and_eq_true_iff.1 h).1
  omega

theorem updateDownward_outcome (hphase : stopPhase c.protocol.phase) :
    StopOutcome cfg c now (c.updateDownward cfg now) := by
  unfold updateDownward
  dsimp only
  split
  · exact .finished (finishDownward_atRest cfg (c.commandDownward cfg) hphase)
  · split
    · rename_i hreached
      have hstage := stage_lt_of_stageReached cfg _ hreached
      rw [advanceStage_eq cfg _ now hstage]
      exact .advanced hstage rfl rfl rfl
    · split
      · cases expireDownward_outcome cfg (c.commandDownward cfg) now hphase with
        | finished hrest => exact .finished hrest
        | advanced hstage hphase hnext hdeadline => exact .advanced hstage hphase hnext hdeadline
        | escalated hphase hbefore hnoreset hdeadline =>
          exact .escalated hphase hbefore hnoreset hdeadline
        | waiting hphase hstage hdeadline hopen => exact .waiting hphase hstage hdeadline hopen
      · rename_i hopen
        exact .waiting rfl rfl rfl (Int.not_le.1 hopen)

/-- The relation between two states of a stop sequence that one tick apart are not at rest. -/
structure StopStep (c' : Controller) : Prop where
  stopping : c'.stopping
  rank_le : c'.stopRank ≤ c.stopRank
  rank_lt : c.deadlineExpired now → c'.stopRank < c.stopRank
  armed : 0 < c'.data.stageDeadlineNs
  deadline : c.data.stageDeadlineNs ≠ 0 → c'.stopRank = c.stopRank →
    c'.data.stageDeadlineNs = c.data.stageDeadlineNs
  order : c'.protocol.phase = c.protocol.phase ∨
    phaseOrder c.protocol.phase < phaseOrder c'.protocol.phase

variable {cfg c now} {c' : Controller}

theorem stopRank_eq_of_stage (hphase : c'.protocol.phase = c.protocol.phase)
    (hstage : c'.currentStage = c.currentStage) : c'.stopRank = c.stopRank := by
  unfold stopRank
  rw [hphase, hstage]

theorem stopRank_lt_of_stage (hstop : stopPhase c.protocol.phase)
    (hphase : c'.protocol.phase = c.protocol.phase) (hstage : c.currentStage < 2)
    (hnext : c'.currentStage = c.currentStage + 1) : c'.stopRank < c.stopRank := by
  unfold stopRank
  rw [hphase, hnext]
  cases h : c.protocol.phase <;> simp only [h, stopPhase] at hstop ⊢
  all_goals first | omega | simp at hstop

theorem currentStage_of_armed (h : c.data.stageDeadlineNs ≠ 0) :
    c.currentStage = c.data.downwardStage := if_neg h

theorem not_expired_of_open (h : now < c.data.stageDeadlineNs) : ¬c.deadlineExpired now :=
  fun hexpired => absurd hexpired.2 (Int.not_le.2 h)

theorem StopOutcome.step (h : StopOutcome cfg c now c') (hstop : stopPhase c.protocol.phase)
    (hnow : 0 ≤ now) (harmed : c.data.stageDeadlineNs ≠ 0) : c'.atRest ∨ c.StopStep now c' := by
  have htimeout := cfg.disableStageTimeout_pos
  cases h with
  | finished hrest => exact .inl hrest
  | advanced hstage hphase hnext hdeadline =>
    have harmed' : 0 < c'.data.stageDeadlineNs := by omega
    have hlt : c'.stopRank < c.stopRank := by
      refine stopRank_lt_of_stage hstop hphase ?_ ?_
      · rwa [currentStage_of_armed harmed]
      · rw [currentStage_of_armed harmed, currentStage_of_armed harmed'.ne', hnext]
    exact .inr
      { stopping := .inl (by rw [hphase]; exact hstop)
        rank_le := hlt.le
        rank_lt := fun _ => hlt
        armed := harmed'
        deadline := fun _ heq => absurd heq hlt.ne
        order := .inl hphase }
  | escalated hphase hbefore hnoreset hdeadline =>
    have hlt : c'.stopRank < c.stopRank := by
      unfold stopRank
      rw [hphase]
      revert hbefore hnoreset hstop
      cases c.protocol.phase <;> simp [phaseOrder, stopPhase] <;> omega
    exact .inr
      { stopping := .inr hphase
        rank_le := hlt.le
        rank_lt := fun _ => hlt
        armed := by omega
        deadline := fun _ heq => absurd heq hlt.ne
        order := .inr (by rw [hbefore, hphase]; decide) }
  | waiting hphase hstage hdeadline hopen =>
    have harmed' : 0 < c'.data.stageDeadlineNs := by omega
    have heq : c'.stopRank = c.stopRank := by
      refine stopRank_eq_of_stage hphase ?_
      rw [currentStage_of_armed harmed, currentStage_of_armed harmed'.ne', hstage]
    exact .inr
      { stopping := .inl (by rw [hphase]; exact hstop)
        rank_le := heq.le
        rank_lt := fun hexpired => absurd hexpired (not_expired_of_open hopen)
        armed := harmed'
        deadline := fun _ _ => hdeadline
        order := .inl hphase }

theorem continueDownward_step (hstop : stopPhase c.protocol.phase) (hnow : 0 ≤ now) :
    (c.continueDownward cfg now).atRest ∨ c.StopStep now (c.continueDownward cfg now) := by
  have htimeout := cfg.disableStageTimeout_pos
  unfold continueDownward
  by_cases harmed : c.data.stageDeadlineNs = 0
  · rw [if_pos harmed]
    set start := c.startDownward cfg c.protocol.phase now with hstart
    have hdeadline : start.data.stageDeadlineNs = now + cfg.disableStageTimeoutNs := rfl
    have hrank : start.stopRank = c.stopRank := by
      refine stopRank_eq_of_stage rfl ?_
      rw [currentStage_of_armed (by omega), currentStage, if_pos harmed]
      rfl
    refine ((updateDownward_outcome cfg start now hstop).step hstop hnow (by omega)).imp_right ?_
    intro h
    exact
      { stopping := h.stopping
        rank_le := hrank ▸ h.rank_le
        rank_lt := fun hexpired => absurd harmed hexpired.1
        armed := h.armed
        deadline := fun hne => absurd harmed hne
        order := h.order }
  · rw [if_neg harmed]
    exact (updateDownward_outcome cfg c now hstop).step hstop hnow harmed

theorem updateEmergencyQuickStop_step (hphase : c.protocol.phase = .emergencyQuickStop)
    (hnow : 0 ≤ now) : c.StopStep now (c.updateEmergencyQuickStop cfg now) := by
  have htimeout := cfg.disableStageTimeout_pos
  unfold updateEmergencyQuickStop
  dsimp only
  split
  · set d := (c.commandQuickStop cfg).startDownward cfg .emergencyDisable now with hd
    have hdeadline : d.data.stageDeadlineNs = now + cfg.disableStageTimeoutNs := rfl
    have hrank : d.stopRank = 3 - min d.data.downwardStage 2 := by
      rw [← currentStage_of_armed (by omega)]
      rfl
    have hlt : d.stopRank < c.stopRank := by
      rw [hrank, stopRank, hphase]
      dsimp only
      omega
    exact
      { stopping := .inl rfl
        rank_le := hlt.le
        rank_lt := fun _ => hlt
        armed := by omega
        deadline := fun _ heq => absurd heq hlt.ne
        order := .inr (by rw [hphase]; exact Nat.one_lt_two) }
  · rename_i hwait
    have hopen : now < c.data.stageDeadlineNs := by
      by_contra hexpired
      refine hwait (Bool.or_eq_true_iff.2 (.inr (decide_eq_true ?_)))
      exact Int.not_lt.1 hexpired
    exact
      { stopping := .inr hphase
        rank_le := le_rfl
        rank_lt := fun hexpired => absurd hexpired (not_expired_of_open hopen)
        armed := hnow.trans_lt hopen
        deadline := fun _ _ => rfl
        order := .inl rfl }

/-- Two states that agree on everything the measure of a stop reads. -/
structure SameStop (c d : Controller) : Prop where
  phase : d.protocol.phase = c.protocol.phase
  owner : d.protocol.owner = c.protocol.owner
  stage : d.data.downwardStage = c.data.downwardStage
  deadline : d.data.stageDeadlineNs = c.data.stageDeadlineNs

theorem SameStop.stopRank {d : Controller} (h : SameStop c d) : d.stopRank = c.stopRank := by
  refine stopRank_eq_of_stage h.phase ?_
  unfold currentStage
  rw [h.stage, h.deadline]

theorem SameStop.atRest {d : Controller} (h : SameStop c d) (hrest : c.atRest) : d.atRest := by
  unfold Controller.atRest
  rw [h.phase, h.owner]
  exact hrest

theorem SameStop.step {d d' : Controller} (h : SameStop c d) (h' : SameStop c' d')
    (hstep : c.StopStep now c') : d.StopStep now d' where
  stopping := by
    unfold Controller.stopping
    rw [h'.phase]
    exact hstep.stopping
  rank_le := by
    rw [h.stopRank, h'.stopRank]
    exact hstep.rank_le
  rank_lt := by
    unfold deadlineExpired
    rw [h.stopRank, h'.stopRank, h.deadline]
    exact hstep.rank_lt
  armed := by
    rw [h'.deadline]
    exact hstep.armed
  deadline := by
    rw [h.stopRank, h'.stopRank, h.deadline, h'.deadline]
    exact hstep.deadline
  order := by
    rw [h.phase, h'.phase]
    exact hstep.order

theorem sameStop_writeDriveModes (cfg : Config) (c : Controller) :
    SameStop c (c.writeDriveModes cfg) := by
  have hphase : (c.writeDriveModes cfg).protocol.phase = c.protocol.phase ∧
      (c.writeDriveModes cfg).protocol.owner = c.protocol.owner := by
    rw [writeDriveModes_protocol]
    exact ⟨rfl, rfl⟩
  have hdata : (c.writeDriveModes cfg).data.downwardStage = c.data.downwardStage ∧
      (c.writeDriveModes cfg).data.stageDeadlineNs = c.data.stageDeadlineNs := by
    unfold writeDriveModes clearDriveCsp
    split
    · exact ⟨rfl, rfl⟩
    · split <;> exact ⟨rfl, rfl⟩
  exact ⟨hphase.1, hphase.2, hdata.1, hdata.2⟩

theorem not_running_of_stopping (h : c.stopping) : runningPhase c.protocol.phase = false := by
  rcases h with h | h
  · exact not_running_of_stopPhase h
  · rw [h]
    rfl

theorem update_stopStep (sample : Sample) (hactive : c.protocol.active) (hstop : c.stopping)
    (hnow : 0 ≤ now) :
    (c.update cfg sample now).atRest ∨ c.StopStep now (c.update cfg sample now) := by
  have hupdate : c.update cfg sample now =
      (((c.refresh cfg sample).updatePhase cfg now).onData (·.writeDevices)).writeDriveModes cfg := by
    have hcheck : (c.refresh cfg sample).checkRunning cfg now = c.refresh cfg sample :=
      if_neg (by rw [show (c.refresh cfg sample).protocol.phase = c.protocol.phase from rfl,
        not_running_of_stopping hstop]; decide)
    unfold update
    rw [if_pos hactive, hcheck]
  set r := c.refresh cfg sample with hr
  have hphase : r.protocol.phase = c.protocol.phase := rfl
  have hstep : (r.updatePhase cfg now).atRest ∨ r.StopStep now (r.updatePhase cfg now) := by
    rcases hstop with hstop | hquick
    · have hdown : r.updatePhase cfg now = r.continueDownward cfg now := by
        unfold updatePhase
        rw [hphase]
        revert hstop
        cases c.protocol.phase <;> simp [stopPhase]
      rw [hdown]
      exact continueDownward_step (by rw [hphase]; exact hstop) hnow
    · have hdown : r.updatePhase cfg now = r.updateEmergencyQuickStop cfg now := by
        unfold updatePhase
        rw [hphase, hquick]
      rw [hdown]
      exact .inr (updateEmergencyQuickStop_step (hphase.trans hquick) hnow)
  have hwrite := sameStop_writeDriveModes cfg ((r.updatePhase cfg now).onData (·.writeDevices))
  rw [hupdate]
  refine hstep.imp (fun h => hwrite.atRest h) fun h => ?_
  have hlast : SameStop (r.updatePhase cfg now) _ :=
    ⟨hwrite.phase, hwrite.owner, hwrite.stage, hwrite.deadline⟩
  have hfirst : SameStop r c := ⟨rfl, rfl, rfl, rfl⟩
  exact hfirst.step hlast h

theorem active_update (sample : Sample) (hactive : c.protocol.active) :
    (c.update cfg sample now).protocol.active := by
  obtain ⟨q, hq, hupdate⟩ := update_protocol cfg c now sample hactive
  rw [hupdate]
  cases hq <;> exact hactive

section Run

open Progress

variable (cfg c)

/-- The states of a controller that only its updates change. -/
def ticks (samples : ℕ → Sample) (times : ℕ → ℤ) : ℕ → Controller
  | 0 => c
  | n + 1 => (ticks samples times n).update cfg (samples n) (times n)

instance (c : Controller) (now : ℤ) : Decidable (c.deadlineExpired now) :=
  inferInstanceAs (Decidable (_ ∧ _))

variable {cfg c} {samples : ℕ → Sample} {times : ℕ → ℤ}

theorem active_ticks (hactive : c.protocol.active) (n : ℕ) :
    (c.ticks cfg samples times n).protocol.active := by
  induction n with
  | zero => exact hactive
  | succ n ih => exact active_update (samples n) ih

theorem stopping_ticks (hactive : c.protocol.active) (hstop : c.stopping)
    (htimes : ∀ n, 0 ≤ times n) {n : ℕ} (hrest : ∀ k ≤ n, ¬(c.ticks cfg samples times k).atRest) :
    (c.ticks cfg samples times n).stopping := by
  induction n with
  | zero => exact hstop
  | succ n ih =>
    have hprev := ih fun k hk => hrest k (by omega)
    exact ((update_stopStep (samples n) (active_ticks hactive n) hprev (htimes n)).resolve_left
      (hrest (n + 1) le_rfl)).stopping

theorem stopStep_ticks (hactive : c.protocol.active) (hstop : c.stopping)
    (htimes : ∀ n, 0 ≤ times n) {n : ℕ}
    (hrest : ∀ k ≤ n + 1, ¬(c.ticks cfg samples times k).atRest) :
    (c.ticks cfg samples times n).StopStep (times n) (c.ticks cfg samples times (n + 1)) :=
  (update_stopStep (samples n) (active_ticks hactive n)
    (stopping_ticks hactive hstop htimes fun k hk => hrest k (by omega)) (htimes n)).resolve_left
    (hrest (n + 1) le_rfl)

theorem stopRank_pos (h : c.stopping) : 0 < c.stopRank := by
  unfold stopRank
  rcases h with h | h
  · cases hphase : c.protocol.phase <;> simp only [hphase, stopPhase] at h ⊢
    all_goals first | omega | simp at h
  · rw [h]
    exact Nat.succ_pos 3

theorem stopRank_le (c : Controller) : c.stopRank ≤ 7 := by
  unfold stopRank
  split <;> omega

theorem count_expired_lt (hactive : c.protocol.active) (hstop : c.stopping)
    (htimes : ∀ n, 0 ≤ times n) {n : ℕ} (hrest : ∀ k ≤ n, ¬(c.ticks cfg samples times k).atRest) :
    Nat.count (fun k => (c.ticks cfg samples times k).deadlineExpired (times k)) n < 7 := by
  have hstep : ∀ k < n, (c.ticks cfg samples times k).StopStep (times k)
      (c.ticks cfg samples times (k + 1)) := fun k hk =>
    stopStep_ticks hactive hstop htimes fun j hj => hrest j (by omega)
  have hcount := count_add_rank_le (fun k => (c.ticks cfg samples times k).stopRank)
    (fun k hk => (hstep k hk).rank_le) (fun k hk => (hstep k hk).rank_lt)
  have hpos := stopRank_pos (stopping_ticks hactive hstop htimes hrest)
  have hle : (c.ticks cfg samples times 0).stopRank ≤ 7 := stopRank_le c
  omega

theorem exists_later_of_armed (hactive : c.protocol.active) (hstop : c.stopping)
    (htimes : ∀ n, 0 ≤ times n) (hmono : Monotone times) (hlate : ∀ t, ∃ n, t ≤ times n) {i : ℕ}
    (hi : 0 < i) (hrest : ∀ k, ¬(c.ticks cfg samples times k).atRest) :
    ∃ j, i < j ∧ (c.ticks cfg samples times j).stopRank < (c.ticks cfg samples times i).stopRank := by
  have hstep : ∀ k, (c.ticks cfg samples times k).StopStep (times k)
      (c.ticks cfg samples times (k + 1)) := fun k =>
    stopStep_ticks hactive hstop htimes fun j _ => hrest j
  have harmed : ∀ k, 0 < k → 0 < (c.ticks cfg samples times k).data.stageDeadlineNs := by
    intro k hk
    obtain ⟨k, rfl⟩ := Nat.exists_eq_succ_of_ne_zero hk.ne'
    exact (hstep k).armed
  obtain ⟨m, hm⟩ := hlate (c.ticks cfg samples times i).data.stageDeadlineNs
  by_contra hnone
  have hsame : ∀ d, (c.ticks cfg samples times (i + d)).stopRank =
        (c.ticks cfg samples times i).stopRank ∧
      (c.ticks cfg samples times (i + d)).data.stageDeadlineNs =
        (c.ticks cfg samples times i).data.stageDeadlineNs := by
    intro d
    induction d with
    | zero => exact ⟨rfl, rfl⟩
    | succ d ih =>
      have hle := (hstep (i + d)).rank_le
      have hge : ¬(c.ticks cfg samples times (i + d + 1)).stopRank <
          (c.ticks cfg samples times i).stopRank := fun hlt =>
        hnone ⟨i + d + 1, by omega, hlt⟩
      have heq : (c.ticks cfg samples times (i + d + 1)).stopRank =
          (c.ticks cfg samples times (i + d)).stopRank := by omega
      exact ⟨heq.trans ih.1, ((hstep (i + d)).deadline (harmed _ (by omega)).ne' heq).trans ih.2⟩
  have hexpired : (c.ticks cfg samples times (i + m)).deadlineExpired (times (i + m)) := by
    refine ⟨(harmed _ (by omega)).ne', ?_⟩
    rw [(hsame m).2]
    exact hm.trans (hmono (by omega))
  have hlt := (hstep (i + m)).rank_lt hexpired
  have hnext := (hsame (m + 1)).1
  rw [← add_assoc] at hnext
  rw [hnext, (hsame m).1] at hlt
  exact lt_irrefl _ hlt

theorem exists_atRest (hactive : c.protocol.active) (hstop : c.stopping)
    (htimes : ∀ n, 0 ≤ times n) (hmono : Monotone times) (hlate : ∀ t, ∃ n, t ≤ times n) :
    ∃ n, (c.ticks cfg samples times n).atRest := by
  by_contra hnone
  have hrest : ∀ k, ¬(c.ticks cfg samples times k).atRest := fun k hk => hnone ⟨k, hk⟩
  obtain ⟨n, _, hn⟩ := eventually_of_rank (fun k => (c.ticks cfg samples times k).stopRank)
    (fun _ => False) 1 fun i hi _ => by
      obtain ⟨j, hij, hj⟩ := exists_later_of_armed hactive hstop htimes hmono hlate hi hrest
      exact ⟨j, hij, .inr hj⟩
  exact hn

theorem phase_order_ticks (hactive : c.protocol.active) (hstop : c.stopping)
    (htimes : ∀ n, 0 ≤ times n) {n : ℕ} (hrest : ∀ k ≤ n, ¬(c.ticks cfg samples times k).atRest)
    {i j : ℕ} (hij : i ≤ j) (hjn : j ≤ n) :
    (c.ticks cfg samples times j).protocol.phase = (c.ticks cfg samples times i).protocol.phase ∨
      phaseOrder (c.ticks cfg samples times i).protocol.phase <
        phaseOrder (c.ticks cfg samples times j).protocol.phase := by
  induction j, hij using Nat.le_induction with
  | base => exact .inl rfl
  | succ j hij ih =>
    have hstep := (stopStep_ticks hactive hstop htimes (n := j)
      fun k hk => hrest k (by omega)).order
    rcases ih (by omega) with h | h
    · rw [← h]
      exact hstep
    · rcases hstep with h' | h'
      · rw [h']
        exact .inr h
      · exact .inr (h.trans h')

/-- Every stop sequence ends. While it is not at rest fewer than seven deadlines have expired and
no phase is entered again after another one; once time passes every bound it comes to rest, in
idle or failed with no owner, after at most seven expired deadlines. -/
theorem stop_terminates (cfg : Config) (c : Controller) (samples : ℕ → Sample) (times : ℕ → ℤ)
    (hactive : c.protocol.active) (hstop : c.stopping) (hstart : 0 ≤ times 0)
    (hmono : Monotone times) :
    (∀ n, (∀ k ≤ n, ¬(c.ticks cfg samples times k).atRest) →
      (c.ticks cfg samples times n).stopping ∧
      Nat.count (fun k => (c.ticks cfg samples times k).deadlineExpired (times k)) n < 7 ∧
      ∀ i j, i ≤ j → j ≤ n →
        (c.ticks cfg samples times i).protocol.phase = (c.ticks cfg samples times n).protocol.phase →
        (c.ticks cfg samples times j).protocol.phase =
          (c.ticks cfg samples times i).protocol.phase) ∧
    ((∀ t, ∃ n, t ≤ times n) →
      ∃ n, (c.ticks cfg samples times n).atRest ∧
        (∀ k < n, (c.ticks cfg samples times k).stopping) ∧
        Nat.count (fun k => (c.ticks cfg samples times k).deadlineExpired (times k)) n ≤ 7) := by
  have htimes : ∀ n, 0 ≤ times n := fun n => hstart.trans (hmono (Nat.zero_le n))
  refine ⟨fun n hrest => ⟨stopping_ticks hactive hstop htimes hrest,
    count_expired_lt hactive hstop htimes hrest, fun i j hij hjn hphase => ?_⟩, fun hlate => ?_⟩
  · rcases phase_order_ticks hactive hstop htimes hrest hij hjn with h | h
    · exact h
    · rcases phase_order_ticks hactive hstop htimes hrest hjn le_rfl with h' | h'
      · exact h'.symm.trans hphase.symm
      · rw [hphase] at h
        exact absurd (h.trans h') (lt_irrefl _)
  · classical
    have hexists : ∃ n, (c.ticks cfg samples times n).atRest :=
      exists_atRest hactive hstop htimes hmono hlate
    have hfirst : ∀ k < Nat.find hexists, ¬(c.ticks cfg samples times k).atRest := fun k hk =>
      Nat.find_min hexists hk
    refine ⟨Nat.find hexists, Nat.find_spec hexists, fun k hk => stopping_ticks hactive hstop htimes
      fun j hj => hfirst j (by omega), ?_⟩
    rcases h : Nat.find hexists with _ | m
    · simp
    · have hbefore : Nat.count
          (fun k => (c.ticks cfg samples times k).deadlineExpired (times k)) m < 7 :=
        count_expired_lt hactive hstop htimes fun k hk => hfirst k (by omega)
      rw [Nat.count_succ]
      split <;> omega

/-- An enabled drive that ignores every command is given up after a bounded number of deadlines. -/
theorem stop_terminates_ignored_drive :
    ∃ n, (ticks chassis ⟨{ active := true, phase := .disabling }, {}⟩ (fun _ => .enabled)
      (fun n => 4000000000 * (n : ℤ)) n).atRest :=
  have h := (stop_terminates chassis ⟨{ active := true, phase := .disabling }, {}⟩
    (fun _ => .enabled) (fun n => 4000000000 * (n : ℤ)) rfl (.inl rfl) (by simp)
    (fun m n hmn => by simp only; omega)).2 fun t => ⟨t.toNat, by omega⟩
  h.imp fun _ hn => hn.1

end Run

end RobotDriver.EnableManager.Controller
