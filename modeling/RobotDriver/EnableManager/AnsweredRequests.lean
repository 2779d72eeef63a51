import RobotDriver.EnableManager.ActivationReport
import RobotDriver.EnableManager.StaleRequests
import RobotDriver.EnableManager.SuccessSoundness

/-!
# Answers to accepted requests

A raised request is owed one result on its own slot: its flag is still set, the update is in a phase
that works on it, or an emergency has interrupted its owner. Every update either keeps the debt and
the slot or publishes the one result and ends it. A new call of the service begins with a claim of
the owner or with the next raised flag.
-/

namespace RobotDriver.EnableManager

open LabelledRun

variable {cfg : Config}

section Owed

def Service.owner : Service → Owner
  | .enable => .enable
  | .disable => .disable
  | .reset => .reset

def Protocol.request (p : Protocol) : Service → Bool
  | .enable => p.enableRequest
  | .disable => p.disableRequest
  | .reset => p.resetRequest

/-- The update works on the service in this phase. -/
def Phase.serves : Phase → Service → Bool
  | .enabling, .enable => true
  | .interBatchDelay, .enable => true
  | .jtcActivating, .enable => true
  | .rollback, .enable => true
  | .disabling, .disable => true
  | .resetLow, .reset => true
  | .resetHigh, .reset => true
  | .resetDisabling, .reset => true
  | _, _ => false

def Protocol.Owes (p : Protocol) (service : Service) : Prop :=
  p.request service ∨ p.phase.serves service ∨
    p.phase.emergency ∧ service ≠ .reset ∧ p.interruptedOwner = service.owner

/-- A result of the service is owed, or one of its calls holds the group. -/
def Protocol.Serves (p : Protocol) (service : Service) : Prop :=
  p.Owes service ∨ p.owner = service.owner

def Protocol.published (p : Protocol) (service : Service) : ℕ := (p.slot service).published

instance (p : Protocol) (service : Service) : Decidable (p.Owes service) :=
  inferInstanceAs (Decidable (_ ∨ _ ∨ _ ∧ _ ∧ _))

/-- Requests apart from a pending motion fault, which no service waits for. -/
def Protocol.unfaulted (p : Protocol) : Protocol := { p with motionFaultPending := false }

/-- The owner of the group in the phases that serve a request. -/
structure AnswersKept (p : Protocol) : Prop where
  owned : RequestsOwned p.unfaulted
  serving : ∀ service, p.phase.serves service →
    p.owner = service.owner ∨ service = .disable ∧ p.owner = .mode
  startup : p.phase = .startupSanitizing → p.owner = .internal
  emergency : p.phase.emergency → p.owner ≠ .none ∧ p.owner ≠ .mode
  preempt : enablePhase p.phase → p.enablePreemptRequested → p.disableRequest
  inactive : p.active = false → p.phase = .inactive ∧ p.owner = .internal

variable {running stopped : Prop} {p q : Protocol} {service : Service}

theorem AnswersKept.request_owned (hk : AnswersKept p) (h : p.request service) :
    p.owner ≠ .none ∧ p.owner ≠ .internal := by
  cases service with
  | enable => rw [show p.owner = _ from (hk.owned.enable h).1]; decide
  | reset => rw [show p.owner = _ from (hk.owned.reset h).1]; decide
  | disable =>
    rcases hk.owned.disable h with ⟨howner, -⟩ | ⟨howner, -⟩ | ⟨howner, -⟩ | ⟨howner, -⟩ <;>
      (rw [show p.owner = _ from howner]; decide)

theorem AnswersKept.not_owes_of_none (hk : AnswersKept p) (h : p.owner = .none)
    (service : Service) : ¬p.Owes service := by
  rintro (hrequest | hphase | ⟨hphase, -⟩)
  · exact (hk.request_owned hrequest).1 h
  · rcases hk.serving service hphase with howner | ⟨-, howner⟩
    · cases service <;> exact absurd (h.symm.trans howner) (by decide)
    · exact absurd (h.symm.trans howner) (by decide)
  · exact (hk.emergency hphase).1 h

theorem AnswersKept.not_owes_of_inactive (hk : AnswersKept p) (h : p.active = false)
    (service : Service) : ¬p.Owes service := by
  obtain ⟨hphase, howner⟩ := hk.inactive h
  rintro (hrequest | hserves | ⟨hemergency, -⟩)
  · exact (hk.request_owned hrequest).2 howner
  · rw [hphase] at hserves
    cases hserves
  · rw [hphase] at hemergency
    cases hemergency

/-- What a step does for a service: it keeps what is owed, or publishes the one result that ends it,
and publishes nothing for a service that it does not serve. -/
structure Answers (quiet : Prop) (p q : Protocol) (service : Service) : Prop where
  owed : p.Owes service → q.Owes service ∧ q.published service = p.published service ∨
    ¬q.Serves service ∧ q.published service = p.published service + 1 ∧
      (service = .disable → q.owner = .none)
  closed : quiet → ¬p.Serves service →
    ¬q.Serves service ∧ q.published service = p.published service

variable {quiet : Prop}

theorem published_of_keepsSlots (h : p.keepsSlots q) (service : Service) :
    q.published service = p.published service :=
  congrArg ResultSlot.published (h service)

theorem Answers.of_silent (hslots : p.keepsSlots q) (howes : ∀ s, p.Owes s → q.Owes s)
    (hserves : ∀ s, q.Serves s → p.Serves s) : Answers quiet p q service where
  owed h := .inl ⟨howes service h, published_of_keepsSlots hslots service⟩
  closed _ h := ⟨fun hq => h (hserves service hq), published_of_keepsSlots hslots service⟩

theorem published_of_publishResult {answered : Service} {result : Result}
    (h : (p.publishResult answered result).keepsSlots q) (service : Service) :
    q.published service = p.published service + if answered = service then 1 else 0 := by
  rw [published_of_keepsSlots h]
  unfold Protocol.published
  rw [Protocol.slot_publishResult]
  split <;> rfl

theorem Answers.of_answer (answered : Service) (result : Result)
    (hslots : (p.publishResult answered result).keepsSlots q) (hq : ∀ s, ¬q.Serves s)
    (hreleased : q.owner = .none) (hp : ∀ s, p.Owes s ↔ s = answered) :
    Answers quiet p q service := by
  have hcount := published_of_publishResult hslots service
  by_cases heq : answered = service
  · rw [if_pos heq] at hcount
    exact ⟨fun _ => .inr ⟨hq service, hcount, fun _ => hreleased⟩,
      fun _ h => absurd (.inl ((hp service).2 heq.symm)) h⟩
  · rw [if_neg heq] at hcount
    exact ⟨fun h => absurd ((hp service).1 h).symm heq, fun _ _ => ⟨hq service, hcount⟩⟩

end Owed

section Updates

variable {running stopped : Prop} {p q : Protocol} {quiet : Prop} {service : Service}

theorem Phase.serves_emergency (phase : Phase) (h : phase.emergency) (service : Service) :
    phase.serves service = false := by
  cases phase with
  | emergencyQuickStop => rfl
  | emergencyDisable => rfl
  | _ => cases h

theorem Phase.serves_running (phase : Phase) (h : runningPhase phase ∨ enablePhase phase)
    (service : Service) :
    phase.emergency = false ∧ (phase.serves service → service = .enable) := by
  revert h
  cases phase <;> cases service <;> decide

/-- An emergency that starts from this state leaves no disable without its result. -/
def Protocol.emergencyAnswers (p : Protocol) : Prop :=
  p.disableRequest = false ∧ (p.phase = .disabling → p.owner = .disable)

theorem AnswersKept.request_false (hk : AnswersKept p) (h : p.phase.taken) (service : Service) :
    p.request service = false := by
  obtain ⟨henable, hdisable, hreset, -⟩ := hk.owned.clear h
  cases service
  exacts [henable, hdisable, hreset]

theorem AnswersKept.others (hk : AnswersKept p) (h : p.phase ≠ .idle ∧ p.phase ≠ .failed) :
    p.enableRequest = false ∧ p.resetRequest = false :=
  hk.owned.others h

theorem AnswersKept.serving_owner (hk : AnswersKept p) {service : Service}
    (h : p.phase.serves service) (hne : service ≠ .disable) : p.owner = service.owner :=
  (hk.serving service h).resolve_right fun h' => hne h'.1

theorem AnswersKept.emergency_answers (hk : AnswersKept p)
    (hkept : p.emergencyAnswers) (hp : runningPhase p.phase ∨ enablePhase p.phase)
    (hslots : p.keepsSlots q)
    (henable : q.enableRequest = p.enableRequest) (hdisable : q.disableRequest = false)
    (hreset : q.resetRequest = p.resetRequest) (howner : q.owner = .internal)
    (hinterrupted : q.interruptedOwner = p.owner) (hq : q.phase.emergency) :
    Answers quiet p q service := by
  obtain ⟨hnoenable, hnoreset⟩ := hk.others (by
    constructor <;> (intro hidle; rw [hidle] at hp; revert hp; decide))
  refine .of_silent hslots (fun s howes => ?_) fun s hserves => ?_
  · have hserving : p.phase.serves s := by
      rcases howes with hflag | hphase | ⟨hphase, -⟩
      · cases s
        exacts [absurd hflag (ne_true_of_eq_false hnoenable),
          absurd hflag (ne_true_of_eq_false hkept.1),
          absurd hflag (ne_true_of_eq_false hnoreset)]
      · exact hphase
      · exact absurd hphase (ne_true_of_eq_false (p.phase.serves_running hp s).1)
    obtain rfl := (p.phase.serves_running hp s).2 hserving
    exact .inr (.inr ⟨hq, by decide, hinterrupted.trans (hk.serving_owner hserving (by decide))⟩)
  · rcases hserves with (hflag | hphase | ⟨-, -, howns⟩) | howns
    · cases s
      exacts [absurd hflag (ne_true_of_eq_false (henable.trans hnoenable)),
        absurd hflag (ne_true_of_eq_false hdisable),
        absurd hflag (ne_true_of_eq_false (hreset.trans hnoreset))]
    · exact absurd hphase (ne_true_of_eq_false (q.phase.serves_emergency hq s))
    · exact .inr (hinterrupted.symm.trans howns)
    · cases s <;> exact absurd (howner.symm.trans howns) (by decide)

theorem Protocol.not_serves_of_released (hflags : ∀ s, p.request s = false)
    (hphase : p.phase = .failed ∨ p.phase = .idle ∨ p.phase = .enabled) (howner : p.owner = .none)
    (s : Service) : ¬p.Serves s := by
  rintro ((hflag | hserves | ⟨hemergency, -⟩) | howns)
  · exact absurd hflag (ne_true_of_eq_false (hflags s))
  · rcases hphase with h | h | h <;> (rw [h] at hserves; cases s <;> cases hserves)
  · rcases hphase with h | h | h <;> (rw [h] at hemergency; cases hemergency)
  · cases s <;> exact absurd (howner.symm.trans howns) (by decide)

theorem Protocol.owes_iff_serves (hflags : ∀ s, p.request s = false)
    (hphase : p.phase.emergency = false) (s : Service) : p.Owes s ↔ p.phase.serves s := by
  simp [Owes, hflags s, hphase]

theorem Protocol.owes_iff_request (hphase : p.phase = .idle ∨ p.phase = .failed) (s : Service) :
    p.Owes s ↔ p.request s := by
  rcases hphase with h | h <;> cases s <;> simp [Owes, h, Phase.serves, Phase.emergency]

theorem Protocol.request_congr (henable : q.enableRequest = p.enableRequest)
    (hdisable : q.disableRequest = p.disableRequest) (hreset : q.resetRequest = p.resetRequest) :
    ∀ s, q.request s = p.request s := by
  rintro (_ | _ | _)
  exacts [henable, hdisable, hreset]

theorem Protocol.request_none (henable : p.enableRequest = false)
    (hdisable : p.disableRequest = false) (hreset : p.resetRequest = false) :
    ∀ s, p.request s = false := by
  rintro (_ | _ | _)
  exacts [henable, hdisable, hreset]

theorem Answers.of_finish (answered : Service) (result : Result) (hnone : ∀ s, p.request s = false)
    (hcalm : p.phase.emergency = false) (hserves : ∀ s, p.phase.serves s ↔ s = answered)
    (hslots : (p.publishResult answered result).keepsSlots q)
    (hflags : ∀ s, q.request s = p.request s)
    (hphase : q.phase = .failed ∨ q.phase = .idle ∨ q.phase = .enabled) (howner : q.owner = .none) :
    Answers quiet p q service :=
  .of_answer answered result hslots
    (Protocol.not_serves_of_released (fun s => (hflags s).trans (hnone s)) hphase howner) howner
    fun s => (Protocol.owes_iff_serves hnone hcalm s).trans (hserves s)

theorem Answers.of_preempt (answered : Service) (result : Result)
    (hslots : (p.publishResult answered result).keepsSlots q) (hne : answered ≠ .disable)
    (hnone : ∀ s, q.request s = false) (hphase : q.phase = .disabling) (howner : q.owner = .disable)
    (hp : ∀ s, p.Owes s ↔ s = answered ∨ s = .disable) : Answers quiet p q service := by
  have hcount := published_of_publishResult hslots service
  have hq : ∀ s, q.Owes s ↔ s = .disable := fun s => by
    rw [Protocol.owes_iff_serves hnone (by rw [hphase]; rfl), hphase]
    cases s <;> decide
  have hserves : service ≠ .disable → ¬q.Serves service := by
    rintro hother (howes | hsame)
    · exact hother ((hq service).1 howes)
    · rw [howner] at hsame
      cases service <;> first | exact hother rfl | cases hsame
  by_cases heq : answered = service
  · subst heq
    rw [if_pos rfl] at hcount
    exact ⟨fun _ => .inr ⟨hserves hne, hcount, fun h => absurd h hne⟩,
      fun _ h => absurd (.inl ((hp answered).2 (.inl rfl))) h⟩
  · rw [if_neg heq] at hcount
    refine ⟨fun h => ?_, fun _ h => ⟨hserves fun hdisable => ?_, hcount⟩⟩
    · exact .inl ⟨(hq service).2 (((hp service).1 h).resolve_left fun h' => heq h'.symm), hcount⟩
    · exact h (.inl ((hp service).2 (.inr hdisable)))

theorem Answers.of_moved (hslots : p.keepsSlots q) (howner : q.owner = p.owner)
    (howes : ∀ s, q.Owes s ↔ p.Owes s) : Answers quiet p q service :=
  .of_silent hslots (fun s => (howes s).2)
    fun s h => h.imp (howes s).1 fun h' => howner.symm.trans h'

theorem TickStep.answers (h : TickStep cfg running stopped p q) (hk : AnswersKept p)
    (hemergency : q.phase.emergency → p.emergencyAnswers) : Answers quiet p q service := by
  cases h with
  | rest => exact .of_moved (fun _ => rfl) rfl fun _ => Iff.rfl
  | emergency offline next hphase hviolation hnext =>
    have hq : next.emergency := by rcases hnext with rfl | rfl <;> rfl
    obtain ⟨hdisable, hdisabling⟩ := hemergency hq
    exact hk.emergency_answers ⟨hdisable, hdisabling⟩ (.inl hphase)
      (Protocol.keepsSlots_of_eq rfl rfl rfl) rfl hdisable rfl rfl rfl hq
  | enableEmergency next hphase hnext =>
    have hq : next.emergency := by rcases hnext with rfl | rfl <;> rfl
    exact hk.emergency_answers (hemergency hq)
      (.inr (by rcases hphase with h | h <;> (rw [h]; rfl)))
      (Protocol.keepsSlots_of_eq rfl rfl rfl) rfl rfl rfl rfl rfl hq
  | quickStopped hphase | hardwareReady hphase hpreempted
  | activateFailed hphase hrunning hrequest =>
    refine .of_moved (Protocol.keepsSlots_of_eq rfl rfl rfl) rfl fun s => ?_
    cases s <;> simp [Protocol.Owes, Protocol.request, Phase.serves, Phase.emergency, hphase]
  | startEnable hphase hrequest | disableFailed hphase hrequest =>
    refine .of_moved (Protocol.keepsSlots_of_eq rfl rfl rfl) rfl fun s => ?_
    cases s <;>
      simp [Protocol.Owes, Protocol.request, Phase.serves, Phase.emergency, hphase, hrequest]
  | startReset hphase hrequest =>
    refine .of_moved (Protocol.keepsSlots_of_eq rfl rfl rfl) rfl fun s => ?_
    rcases hphase with ⟨hphase, -⟩ | ⟨hphase, -⟩ <;>
      (cases s <;>
        simp [Protocol.Owes, Protocol.request, Phase.serves, Phase.emergency, hphase, hrequest])
  | enabling next hphase hnext =>
    refine .of_moved (Protocol.keepsSlots_of_eq rfl rfl rfl) rfl fun s => ?_
    rcases hphase with hphase | hphase <;> rcases hnext with rfl | rfl <;> cases s <;>
      simp [Protocol.Owes, Protocol.request, Phase.serves, Phase.emergency, hphase]
  | failEnable hphase hpreempted =>
    refine .of_moved (Protocol.keepsSlots_of_eq rfl rfl rfl) rfl fun s => ?_
    rcases hphase with hphase | hphase <;> cases s <;>
      simp [Protocol.Owes, Protocol.request, Phase.serves, Phase.emergency, hphase]
  | startDisabling hphase hrunning hrequest =>
    refine .of_moved (Protocol.keepsSlots_of_eq rfl rfl rfl) rfl fun s => ?_
    rcases hphase with hphase | hphase <;> cases s <;>
      simp [Protocol.Owes, Protocol.request, Phase.serves, Phase.emergency, hphase, hrequest]
  | resetting next hphase hrequest =>
    refine .of_moved (Protocol.keepsSlots_of_eq rfl rfl rfl) rfl fun s => ?_
    rcases hphase with ⟨hphase, rfl⟩ | ⟨hphase, rfl⟩ <;> cases s <;>
      simp [Protocol.Owes, Protocol.request, Phase.serves, Phase.emergency, hphase]
  | finishDisabling result next hphase hnext | finishRollback result next hphase hnext
  | finishReset result next hphase hnext =>
    have hslots (service : Service) :
        (p.publishResult service result).keepsSlots
          { p.publishResult service result with phase := next, owner := .none } :=
      Protocol.keepsSlots_of_eq rfl rfl rfl
    refine .of_finish _ result (hk.request_false (by rw [hphase]; rfl)) (by rw [hphase]; rfl)
      (fun s => ?_) (hslots _) (Protocol.request_congr rfl rfl rfl) (hnext.imp_right .inl) rfl
    rw [hphase]
    cases s <;> decide
  | activated hphase =>
    refine .of_finish .enable (.immediate true .success) (hk.request_false (by rw [hphase]; rfl))
      (by rw [hphase]; rfl) (fun s => ?_) (Protocol.keepsSlots_of_eq rfl rfl rfl)
      (Protocol.request_congr rfl rfl rfl) (.inr (.inr rfl)) rfl
    rw [hphase]
    cases s <;> decide
  | finishStartup next hphase hnext =>
    have hnone := hk.request_false (by rw [hphase]; rfl)
    have hserves := Protocol.not_serves_of_released (p := { p with
        currentControlMode := .disabled, phase := next, owner := .none })
      (Protocol.request_none (hnone .enable) (hnone .disable) (hnone .reset))
      (hnext.imp_right .inl) rfl
    refine .of_silent (Protocol.keepsSlots_of_eq rfl rfl rfl) (fun s howes => ?_)
      fun s h => absurd h (hserves s)
    have hphase' := (Protocol.owes_iff_serves hnone (by rw [hphase]; rfl) s).1 howes
    rw [hphase] at hphase'
    cases s <;> cases hphase'
  | escalate hphase =>
    have hnone := hk.request_false (by rcases hphase with h | h | h <;> (rw [h]; rfl))
    have hcalm : p.phase.emergency = false := by rcases hphase with h | h | h <;> (rw [h]; rfl)
    refine .of_silent (Protocol.keepsSlots_of_eq rfl rfl rfl) (fun s howes => ?_) fun s h => ?_
    · have hserves := (Protocol.owes_iff_serves hnone hcalm s).1 howes
      refine .inr (.inr ⟨rfl, ?_⟩)
      rcases hphase with h | h | h
      · rw [h] at hserves
        cases s <;> cases hserves
      · rw [h] at hserves
        cases s with
        | disable => exact ⟨by decide, (hemergency rfl).2 h⟩
        | _ => cases hserves
      · cases s with
        | enable => exact ⟨by decide, hk.serving_owner hserves (by decide)⟩
        | _ => rw [h] at hserves; cases hserves
    · rcases h with (hflag | hserves | ⟨-, -, howns⟩) | howns
      · cases s
        exacts [absurd hflag (ne_true_of_eq_false (hnone .enable)),
          absurd hflag (ne_true_of_eq_false (hnone .disable)),
          absurd hflag (ne_true_of_eq_false (hnone .reset))]
      · cases s <;> cases hserves
      · exact .inr howns
      · exact .inr howns
  | finishEmergency result next hphase hnext =>
    have hnone := hk.request_false (by rw [hphase]; rfl)
    have hserves := Protocol.not_serves_of_released (p := { p.publishInterrupted result with
        currentControlMode := if p.restartRequired then .restartRequired else .disabled
        phase := next
        owner := .none }) (Protocol.request_none (hnone .enable) (hnone .disable) (hnone .reset))
      (hnext.imp_right .inl) rfl service
    have howes : p.Owes service ↔ service ≠ .reset ∧ p.interruptedOwner = service.owner := by
      cases service <;> simp [Protocol.Owes, hnone, hphase, Phase.serves, Phase.emergency]
    refine ⟨fun h => .inr ⟨hserves, ?_, fun _ => rfl⟩, fun _ h => ⟨hserves, ?_⟩⟩
    · obtain ⟨hne, howner⟩ := howes.1 h
      cases service with
      | enable | disable => exact congrArg ResultSlot.published (if_pos howner)
      | reset => exact absurd rfl hne
    · have hother : service = .reset ∨ p.interruptedOwner ≠ service.owner :=
        or_iff_not_imp_left.2 fun hne howner => h (.inl (howes.2 ⟨hne, howner⟩))
      cases service with
      | enable | disable =>
        exact congrArg ResultSlot.published (if_neg (hother.resolve_left (by rintro ⟨⟩)))
      | reset => rfl
  | expireReset result hphase =>
    have hserves : ∀ s, p.phase.serves s ↔ s = .reset := fun s => by
      rcases hphase with ⟨h, -⟩ | h <;> (rw [h]; cases s <;> decide)
    refine .of_finish .reset result ?_ (by rcases hphase with ⟨h, -⟩ | h <;> (rw [h]; rfl)) hserves
      (Protocol.keepsSlots_of_eq rfl rfl rfl) (Protocol.request_congr rfl rfl rfl) (.inl rfl) rfl
    rcases hphase with ⟨h, hdisable⟩ | h
    · obtain ⟨henable, hreset⟩ := hk.others (by rw [h]; decide)
      exact Protocol.request_none henable hdisable hreset
    · exact hk.request_false (by rw [h]; rfl)
  | rejectEnable result hphase hrequest =>
    obtain ⟨hdisable, hreset, -⟩ := hk.owned.enable_alone hrequest
    have hnone := Protocol.request_none (p := { p with enableRequest := false }) rfl hdisable hreset
    refine .of_answer .enable result (Protocol.keepsSlots_of_eq rfl rfl rfl)
      (Protocol.not_serves_of_released hnone (.inr (.inl hphase)) rfl) rfl fun s => ?_
    rw [Protocol.owes_iff_request (.inl hphase)]
    cases s with
    | enable => exact iff_of_true hrequest rfl
    | disable => exact iff_of_false (ne_true_of_eq_false hdisable) (by rintro ⟨⟩)
    | reset => exact iff_of_false (ne_true_of_eq_false hreset) (by rintro ⟨⟩)
  | answerReset result next hphase hrequest =>
    obtain ⟨hdisable, henable, -⟩ := hk.owned.reset_alone hrequest
    have hnone := Protocol.request_none (p := { p with resetRequest := false }) henable hdisable rfl
    have hidle : p.phase = .idle ∨ p.phase = .failed := hphase.imp (·.1) (·.1)
    have hnext : next = .failed ∨ next = .idle := hphase.elim (fun h => .inr h.2.1) (·.2.1)
    refine .of_answer .reset result (Protocol.keepsSlots_of_eq rfl rfl rfl)
      (Protocol.not_serves_of_released hnone (hnext.imp_right .inl) rfl) rfl fun s => ?_
    rw [Protocol.owes_iff_request hidle]
    cases s with
    | enable => exact iff_of_false (ne_true_of_eq_false henable) (by rintro ⟨⟩)
    | disable => exact iff_of_false (ne_true_of_eq_false hdisable) (by rintro ⟨⟩)
    | reset => exact iff_of_true hrequest rfl
  | answerDisable result hphase henable hreset hrequest =>
    have hnone := Protocol.request_none (p := { p with disableRequest := false }) henable rfl hreset
    refine .of_answer .disable result (Protocol.keepsSlots_of_eq rfl rfl rfl)
      (Protocol.not_serves_of_released hnone (.inr (.inl hphase)) rfl) rfl fun s => ?_
    rw [Protocol.owes_iff_request (.inl hphase)]
    cases s with
    | enable => exact iff_of_false (ne_true_of_eq_false henable) (by rintro ⟨⟩)
    | disable => exact iff_of_true hrequest rfl
    | reset => exact iff_of_false (ne_true_of_eq_false hreset) (by rintro ⟨⟩)
  | preemptEnable result hphase hpreempted =>
    obtain ⟨henable, hreset⟩ := hk.others (by rcases hphase with h | h <;> simp [h])
    have hdisable : p.disableRequest :=
      (Bool.or_eq_true_iff.1 hpreempted).elim id
        (hk.preempt (by rcases hphase with h | h <;> (rw [h]; rfl)))
    refine .of_preempt .enable result (Protocol.keepsSlots_of_eq rfl rfl rfl) (by decide)
      (Protocol.request_none henable rfl hreset) rfl rfl fun s => ?_
    rcases hphase with h | h <;> cases s <;>
      simp [Protocol.Owes, Protocol.request, Phase.serves, Phase.emergency, h, hreset, hdisable]
  | preemptReset result hphase hrequest =>
    obtain ⟨henable, hreset⟩ := hk.others (by rcases hphase with h | h <;> simp [h])
    refine .of_preempt .reset result (Protocol.keepsSlots_of_eq rfl rfl rfl) (by decide)
      (Protocol.request_none henable rfl hreset) rfl rfl fun s => ?_
    rcases hphase with h | h <;> cases s <;>
      simp [Protocol.Owes, Protocol.request, Phase.serves, Phase.emergency, h, henable, hrequest]

theorem TickStep.unfaulted (h : TickStep cfg running stopped p q) :
    TickStep cfg running stopped p.unfaulted q.unfaulted := by
  cases h with
  | rest hrunning => exact .rest hrunning
  | emergency offline next hphase hviolation hnext =>
    exact .emergency offline next hphase hviolation hnext
  | enableEmergency next hphase hnext => exact .enableEmergency next hphase hnext
  | quickStopped hphase => exact .quickStopped hphase
  | escalate hphase => exact .escalate hphase
  | finishStartup next hphase hnext => exact .finishStartup next hphase hnext
  | finishDisabling result next hphase hnext hok hidle =>
    exact .finishDisabling result next hphase hnext hok hidle
  | finishRollback result next hphase hnext hok hrestart =>
    exact .finishRollback result next hphase hnext hok hrestart
  | finishReset result next hphase hnext hok => exact .finishReset result next hphase hnext hok
  | expireReset result hphase hok => exact .expireReset result hphase hok
  | finishEmergency result next hphase hnext hok hrestart =>
    exact .finishEmergency result next hphase hnext hok hrestart
  | rejectEnable result hphase hrequest hok => exact .rejectEnable result hphase hrequest hok
  | startEnable hphase hrequest => exact .startEnable hphase hrequest
  | answerReset result next hphase hrequest hstage =>
    exact .answerReset result next hphase hrequest hstage
  | startReset hphase hrequest => exact .startReset hphase hrequest
  | answerDisable result hphase henable hreset hrequest hstage =>
    exact .answerDisable result hphase henable hreset hrequest hstage
  | disableFailed hphase hrequest => exact .disableFailed hphase hrequest
  | enabling next hphase hnext => exact .enabling next hphase hnext
  | hardwareReady hphase hpreempted => exact .hardwareReady hphase hpreempted
  | preemptEnable result hphase hpreempted hok => exact .preemptEnable result hphase hpreempted hok
  | failEnable hphase hpreempted => exact .failEnable hphase hpreempted
  | activateFailed hphase hrunning hrequest => exact .activateFailed hphase hrunning hrequest
  | activated hphase hrunning hfailed hrequest =>
    exact .activated hphase hrunning hfailed hrequest
  | startDisabling hphase hrunning hrequest => exact .startDisabling hphase hrunning hrequest
  | preemptReset result hphase hrequest hok => exact .preemptReset result hphase hrequest hok
  | resetting next hphase hrequest => exact .resetting next hphase hrequest

theorem Phase.not_serves_of_rests {phase : Phase} (h : phase = .failed ∨ phase = .idle)
    {service : Service} : ¬phase.serves service := by
  rcases h with rfl | rfl <;> cases service <;> nofun

theorem AnswersKept.disable_owner (hk : AnswersKept p) (h : p.disableRequest)
    (hphase : enablePhase p.phase = false) (hreset : ¬p.phase.serves .reset) :
    p.owner = .disable ∨ p.owner = .mode := by
  rcases hk.owned.disable h with ⟨howner, -⟩ | ⟨-, henable⟩ | ⟨-, hlow⟩ | ⟨howner, -⟩
  · exact .inl howner
  · exact absurd henable (ne_true_of_eq_false hphase)
  · rcases hlow with hlow | hlow <;> exact absurd (by rw [show p.phase = _ from hlow]; rfl) hreset
  · exact .inr howner

theorem TickStep.serving (h : TickStep cfg running stopped p q) (hk : AnswersKept p)
    (hs : q.phase.serves service) :
    q.owner = service.owner ∨ service = .disable ∧ q.owner = .mode := by
  cases h with
  | rest => exact hk.serving service hs
  | emergency offline next hphase hviolation hnext | enableEmergency next hphase hnext =>
    rcases hnext with rfl | rfl <;> cases service <;> cases hs
  | quickStopped hphase | escalate hphase | activated hphase => cases service <;> cases hs
  | finishStartup next hphase hnext | finishDisabling result next hphase hnext
  | finishRollback result next hphase hnext | finishReset result next hphase hnext
  | finishEmergency result next hphase hnext =>
    exact absurd hs (Phase.not_serves_of_rests hnext)
  | expireReset result hphase => exact absurd hs (Phase.not_serves_of_rests (.inl rfl))
  | rejectEnable result hphase | answerDisable result hphase =>
    exact absurd hs (Phase.not_serves_of_rests (.inr hphase))
  | answerReset result next hphase =>
    exact absurd hs (Phase.not_serves_of_rests
      (hphase.elim (fun h => .inr h.2.1) (·.2.1)))
  | startEnable hphase hrequest =>
    cases service with
    | enable => exact .inl (hk.owned.enable hrequest).1
    | _ => cases hs
  | startReset hphase hrequest =>
    cases service with
    | reset => exact .inl (hk.owned.reset hrequest).1
    | _ => cases hs
  | disableFailed hphase hrequest =>
    cases service with
    | disable =>
      exact (hk.disable_owner hrequest (by rw [hphase]; rfl) (by rw [hphase]; nofun)).imp_right
        fun h => ⟨rfl, h⟩
    | _ => cases hs
  | startDisabling hphase hrunning hrequest =>
    cases service with
    | disable =>
      refine (hk.disable_owner hrequest ?_ ?_).imp_right fun h => ⟨rfl, h⟩
      · rcases hphase with h | h <;> (rw [h]; rfl)
      · rcases hphase with h | h <;> (rw [h]; nofun)
    | _ => cases hs
  | enabling next hphase hnext =>
    have hserves : p.phase.serves .enable := by rcases hphase with h | h <;> (rw [h]; rfl)
    cases service with
    | enable => exact .inl (hk.serving_owner hserves (by decide))
    | _ => rcases hnext with rfl | rfl <;> cases hs
  | hardwareReady hphase | activateFailed hphase =>
    cases service with
    | enable => exact .inl (hk.serving_owner (by rw [hphase]; rfl) (by decide))
    | _ => cases hs
  | failEnable hphase =>
    have hserves : p.phase.serves .enable := by rcases hphase with h | h <;> (rw [h]; rfl)
    cases service with
    | enable => exact .inl (hk.serving_owner hserves (by decide))
    | _ => cases hs
  | preemptEnable result hphase | preemptReset result hphase =>
    cases service with
    | disable => exact .inl rfl
    | _ => cases hs
  | resetting next hphase =>
    have hserves : p.phase.serves .reset := by
      rcases hphase with ⟨h, -⟩ | ⟨h, -⟩ <;> (rw [h]; rfl)
    cases service with
    | reset => exact .inl (hk.serving_owner hserves (by decide))
    | _ => rcases hphase with ⟨-, rfl⟩ | ⟨-, rfl⟩ <;> cases hs

theorem TickStep.eq_of_startup (h : TickStep cfg running stopped p q)
    (hq : q.phase = .startupSanitizing) : q = p := by
  cases h with
  | rest => rfl
  | _ => simp_all

theorem TickStep.emergency_owner (h : TickStep cfg running stopped p q) (hk : AnswersKept p)
    (hkept : p.emergencyAnswers) (hq : q.phase.emergency) : q.owner ≠ .none ∧ q.owner ≠ .mode := by
  cases h with
  | rest => exact hk.emergency hq
  | emergency => exact ⟨nofun, nofun⟩
  | enableEmergency => exact ⟨nofun, nofun⟩
  | quickStopped hphase => exact hk.emergency (by rw [hphase]; rfl)
  | escalate hphase =>
    rcases hphase with h | h | h
    · rw [hk.startup h]
      exact ⟨nofun, nofun⟩
    · rw [hkept.2 h]
      exact ⟨nofun, nofun⟩
    · have howner : p.owner = Service.owner .enable :=
        hk.serving_owner (by rw [h]; rfl) (by decide)
      rw [howner]
      exact ⟨nofun, nofun⟩
  | _ => simp_all [Phase.emergency] <;> grind

theorem TickStep.preempt_request (h : TickStep cfg running stopped p q) (hk : AnswersKept p)
    (hq : enablePhase q.phase) (hpreempt : q.enablePreemptRequested) : q.disableRequest := by
  cases h with
  | rest => exact hk.preempt hq hpreempt
  | startEnable => cases hpreempt
  | enabling next hphase hnext =>
    exact (Bool.or_eq_true_iff.1 hpreempt).elim id
      (hk.preempt (by rcases hphase with h | h <;> (rw [h]; rfl)))
  | _ => simp_all [enablePhase] <;> grind

theorem TickStep.answersKept (h : TickStep cfg running stopped p q) (hk : AnswersKept p)
    (hactive : p.active) (hemergency : q.phase.emergency → p.emergencyAnswers) :
    AnswersKept q where
  owned := h.unfaulted.requestsOwned hk.owned fun hq _ => ⟨(hemergency hq).1, rfl⟩
  serving _ hs := h.serving hk hs
  startup hq := by
    obtain rfl := h.eq_of_startup hq
    exact hk.startup hq
  emergency hq := h.emergency_owner hk (hemergency hq) hq
  preempt hq hpreempt := h.preempt_request hk hq hpreempt
  inactive hq := absurd ((h.active.trans hactive).symm.trans hq) (by decide)

end Updates

section Threads

variable {p : Protocol} {service : Service} {quiet : Prop}

/-- An access that loses no answer: a request is raised under the owner and in the phase in which
the update takes it, phase and owner are stored over those of an enabled group, and the ownership of
a mode switch is not released while a disable is owed its result. -/
def Access.keepsAnswers (p : Protocol) : Access → Prop
  | .raise service => (Access.raise service).timely p
  | .storePhase phase => (Access.storePhase phase).timely p
  | .storeOwner owner => (Access.storeOwner owner).timely p
  | .releaseModeOwnership => p.owner = .mode → ¬p.Owes .disable
  | _ => True

instance (p : Protocol) : ∀ a : Access, Decidable (a.keepsAnswers p)
  | .raise service => inferInstanceAs (Decidable ((Access.raise service).timely p))
  | .storePhase phase => inferInstanceAs (Decidable ((Access.storePhase phase).timely p))
  | .storeOwner owner => inferInstanceAs (Decidable ((Access.storeOwner owner).timely p))
  | .releaseModeOwnership => inferInstanceAs (Decidable (_ → _))
  | .load | .claimOwner _ | .claimSwitch | .releaseSwitch | .clearResult _ | .clearHardwareReady
  | .raiseOutcome _ | .storeMode _ | .storeRestartRequired _ | .storeDeactivationRequired _
  | .storeDeactivateFailed _ | .storeDriveCsp _ | .storeModeAbort _ | .storeMotionFaultRequest _
  | .pendMotionFault | .requestEmergencyDeactivation | .takeEmergencyDeactivation
  | .recordDeactivateFailure | .switchControllers _ => .isTrue trivial

/-- A call of the service takes the group, or raises its request. -/
def Access.begins (service : Service) : Access → Bool
  | .claimOwner owner => owner = service.owner
  | .storeOwner owner => owner = service.owner
  | .raise raised => raised = service
  | _ => false

theorem Access.timely_of_keepsAnswers {a : Access} (h : a.keepsAnswers p)
    (hfault : a ≠ .pendMotionFault) : a.timely p.unfaulted := by
  cases a with
  | pendMotionFault => exact absurd rfl hfault
  | releaseModeOwnership =>
    exact fun hmode => eq_false_of_ne_true fun hflag => h hmode (.inl hflag)
  | raise raised => cases raised <;> exact h
  | storePhase => exact h
  | storeOwner => exact h
  | _ => trivial

theorem AnswersKept.apply {a : Access} (hk : AnswersKept p) (howns : System.threadOwns a)
    (h : a.keepsAnswers p) : AnswersKept (a.apply p) := by
  have howned : RequestsOwned (a.apply p).unfaulted := by
    by_cases hfault : a = .pendMotionFault
    · subst hfault
      exact hk.owned
    · have hsame : (a.apply p).unfaulted = a.apply p.unfaulted := by
        cases a <;> first | rfl | exact absurd rfl hfault
      rw [hsame]
      exact hk.owned.apply howns (Access.timely_of_keepsAnswers h hfault)
  obtain ⟨-, hserving, hstartup, hemergency, hpreempt, hinactive⟩ := id hk
  cases a with
  | claimOwner owner =>
    by_cases hnone : p.owner = .none
    · have hnot : ∀ s, ¬p.phase.serves s := fun s hs => hk.not_owes_of_none hnone s (.inr (.inl hs))
      exact ⟨howned, fun s hs => absurd hs (hnot s),
        fun hphase => absurd (hnone.symm.trans (hstartup hphase)) (by decide),
        fun hphase => absurd hnone (hemergency hphase).1, hpreempt,
        fun h' => absurd (hnone.symm.trans (hinactive h').2) (by decide)⟩
    · have hsame : (Access.claimOwner owner).apply p = p := by
        simp [Access.apply, hnone]
      rw [hsame]
      exact hk
  | releaseModeOwnership =>
    by_cases hmode : p.owner = .mode
    · refine ⟨howned, fun s hs => ?_,
        fun hphase => absurd (hmode.symm.trans (hstartup hphase)) (by decide),
        fun hphase => absurd hmode (hemergency hphase).2, hpreempt,
        fun h' => absurd (hmode.symm.trans (hinactive h').2) (by decide)⟩
      rcases hserving s hs with howner | ⟨rfl, -⟩
      · cases s <;> exact absurd (hmode.symm.trans howner) (by decide)
      · exact absurd (.inr (.inl hs)) (h hmode)
    · have hsame : Access.releaseModeOwnership.apply p = p := by
        simp [Access.apply, hmode]
      rw [hsame]
      exact hk
  | storePhase phase =>
    obtain rfl := System.storePhase_of_threadOwns howns
    obtain ⟨-, henabled⟩ := h
    exact ⟨howned, fun s hs => (by cases s <;> cases hs), by rintro ⟨⟩, by rintro ⟨⟩,
      by rintro ⟨⟩, fun h' => absurd (henabled.symm.trans (hinactive h').1) (by decide)⟩
  | storeOwner owner =>
    obtain rfl := System.storeOwner_of_threadOwns howns
    obtain ⟨-, henabled⟩ := h
    refine ⟨howned, fun s hs => ?_, fun hphase => absurd (henabled.symm.trans hphase) (by decide),
      fun _ => ⟨by rintro ⟨⟩, by rintro ⟨⟩⟩, hpreempt,
      fun h' => absurd (henabled.symm.trans (hinactive h').1) (by decide)⟩
    change p.phase.serves s at hs
    rw [henabled] at hs
    cases s <;> cases hs
  | raise raised =>
    exact ⟨howned, hserving, hstartup, hemergency,
      fun hphase h' => Bool.or_eq_true_iff.2 (.inl (hpreempt hphase h')), hinactive⟩
  | _ => exact ⟨howned, hserving, hstartup, hemergency, hpreempt, hinactive⟩

theorem Access.published_apply (a : Access) :
    (a.apply p).published service = p.published service := by
  cases a with
  | clearResult cleared => cases cleared <;> cases service <;> rfl
  | _ => cases service <;> rfl

theorem Access.owes_apply {a : Access} (h : a.keepsAnswers p) (howes : p.Owes service) :
    (a.apply p).Owes service := by
  cases a with
  | storePhase phase =>
    obtain ⟨-, henabled⟩ := h
    rcases howes with hflag | hserves | ⟨hphase, -⟩
    · exact .inl (by cases service <;> exact hflag)
    · rw [henabled] at hserves
      cases service <;> cases hserves
    · rw [henabled] at hphase
      cases hphase
  | raise raised =>
    refine howes.imp_left fun hflag => ?_
    cases service <;> exact Bool.or_eq_true_iff.2 (.inl hflag)
  | _ => exact howes.imp_left fun hflag => by cases service <;> exact hflag

theorem Access.serves_apply {a : Access} (howns : System.threadOwns a) (h : a.keepsAnswers p)
    (hclosed : ¬p.Serves service)
    (hbegins : a.begins service = false ∨ service ≠ .disable ∧ p.owner ≠ .none) :
    ¬(a.apply p).Serves service := by
  rintro (howes | howner)
  · refine hclosed ?_
    cases a with
    | storePhase phase =>
      obtain rfl := System.storePhase_of_threadOwns howns
      rcases howes with hflag | hserves | ⟨hphase, -⟩
      · exact .inl (.inl (by cases service <;> exact hflag))
      · cases service <;> cases hserves
      · cases hphase
    | raise raised =>
      rcases howes with hflag | hother
      · by_cases hsame : raised = service
        · subst hsame
          rcases hbegins with hbegins | ⟨hne, -⟩
          · exact absurd hbegins (by simp [begins])
          · cases raised with
            | enable => exact .inr h.1
            | disable => exact absurd rfl hne
            | reset => exact .inr h.1
        · refine .inl (.inl ?_)
          cases service <;> cases raised <;>
            first | exact absurd rfl hsame | simpa [Access.apply, Protocol.request] using hflag
      · exact .inl (.inr hother)
    | _ => exact .inl (howes.imp_left fun hflag => by cases service <;> exact hflag)
  · cases a with
    | claimOwner owner =>
      by_cases hnone : p.owner = .none
      · rcases hbegins with hbegins | ⟨-, hne⟩
        · exact absurd ((if_pos hnone).symm.trans howner) (of_decide_eq_false hbegins)
        · exact hne hnone
      · exact hclosed (.inr ((if_neg hnone).symm.trans howner))
    | releaseModeOwnership =>
      by_cases hmode : p.owner = .mode
      · have hnone := (if_pos hmode).symm.trans howner
        cases service <;> cases hnone
      · exact hclosed (.inr ((if_neg hmode).symm.trans howner))
    | storeOwner owner =>
      obtain rfl := System.storeOwner_of_threadOwns howns
      rcases hbegins with hbegins | ⟨hne, -⟩
      · exact absurd howner (of_decide_eq_false hbegins)
      · cases service with
        | disable => exact hne rfl
        | _ => cases howner
    | _ => exact hclosed (.inr howner)

end Threads

namespace System

variable {service : Service}

/-- No emergency starts over a disable that it would leave unanswered, no deactivation drops a
request that is owed its result, and every access keeps the answers. -/
def answerGuard (cfg : Config) (s : System) : Label → Prop
  | .tick sample now =>
    (s.step cfg (.tick sample now)).protocol.phase.emergency → s.protocol.emergencyAnswers
  | .activate _ => True
  | .deactivate => ∀ service, ¬s.protocol.Owes service
  | l => ∀ a ∈ s.nextAccess cfg l, a.keepsAnswers s.protocol

/-- The step begins no call of the service. -/
def beginsNone (cfg : Config) (service : Service) (s : System) (l : Label) : Prop :=
  ∀ a ∈ s.nextAccess cfg l, a.begins service = false

/-- Every raised request is answered once on its own slot: by the time the owner is released there
has been exactly one result, and no second one comes before the next call of the service. -/
def AnsweredOnce (cfg : Config) (s : System) (labels : List Label) : Prop :=
  ∀ before l held rest after service, labels = before ++ l :: (held ++ (rest ++ after)) →
    (runFrom cfg s before).nextAccess cfg l = some (.raise service) →
    Along (step cfg) (fun s _ => s.protocol.owner ≠ .none) (runFrom cfg s (before ++ [l])) held →
    Along (step cfg) (beginsNone cfg service) (runFrom cfg s (before ++ l :: held)) rest →
    let raised := (runFrom cfg s (before ++ [l])).protocol
    let last := (runFrom cfg s (before ++ l :: (held ++ rest))).protocol
    last.published service ≤ raised.published service + 1 ∧
      (last.owner = .none → last.published service = raised.published service + 1)

theorem answerGuard_access {s : System} {l : Label} (h : s.answerGuard cfg l) {a : Access}
    (ha : s.nextAccess cfg l = some a) : a.keepsAnswers s.protocol := by
  cases l with
  | tick => cases ha
  | activate => cases ha
  | deactivate => cases ha
  | _ => exact h a ha

theorem answers_step {s : System} {l : Label} (hk : AnswersKept s.protocol)
    (hguard : s.answerGuard cfg l) (service : Service) :
    AnswersKept (s.step cfg l).protocol ∧
      Answers (s.beginsNone cfg service l ∨ service ≠ .disable ∧ s.protocol.owner ≠ .none)
        s.protocol (s.step cfg l).protocol service := by
  refine protocol_step (P := fun p => AnswersKept p ∧ Answers _ s.protocol p service) cfg s l
    ⟨hk, .of_moved (fun _ => rfl) rfl fun _ => Iff.rfl⟩
    (fun running stopped q hstep hlabel hactive hstate => ?_)
    (fun a ha howns => ?_) (fun sample hl hinactive => ?_) (fun hl hactive => ?_)
  · obtain ⟨sample, now, rfl⟩ := hlabel
    have hemergency : q.phase.emergency → s.protocol.emergencyAnswers := fun hq =>
      hguard (by rw [hstate]; exact hq)
    obtain ⟨⟨h₁, h₂, h₃, h₄⟩, hserving, hstartup, hquick, hpreempt, hoff⟩ :=
      hstep.answersKept hk hactive hemergency
    have hanswers : Answers (s.beginsNone cfg service (.tick sample now) ∨
        service ≠ .disable ∧ s.protocol.owner ≠ .none) s.protocol q service :=
      hstep.answers hk hemergency
    obtain ⟨howed, hclosed⟩ := hanswers
    exact ⟨⟨⟨h₁, h₂, h₃, h₄⟩, hserving, hstartup, hquick, hpreempt, hoff⟩, howed, hclosed⟩
  · have hkeeps := answerGuard_access hguard ha
    refine ⟨hk.apply howns hkeeps,
      fun h => .inl ⟨Access.owes_apply hkeeps h, a.published_apply⟩,
      fun hquiet h => ⟨Access.serves_apply howns hkeeps h ?_, a.published_apply⟩⟩
    exact hquiet.imp_left fun hnone => hnone a ha
  · have hclosed : ¬s.protocol.activated.Serves service := by
      rintro ((hflag | hserves | ⟨hphase, -⟩) | howner)
      · cases service <;> cases hflag
      · cases service <;> cases hserves
      · cases hphase
      · cases service <;> cases howner
    have hslots : s.protocol.activated.published service = s.protocol.published service := by
      cases service <;> rfl
    exact ⟨⟨.of_clear ⟨rfl, rfl, rfl, rfl⟩, fun s hs => (by cases s <;> cases hs), fun _ => rfl,
      nofun, nofun, nofun⟩, fun h => absurd h (hk.not_owes_of_inactive hinactive service),
      fun _ _ => ⟨hclosed, hslots⟩⟩
  · subst hl
    have hnone : ∀ s', s.protocol.request s' = false := fun s' =>
      eq_false_of_ne_true fun hflag => hguard s' (.inl hflag)
    have hclosed : ¬s.protocol.deactivated.Serves service := by
      rintro ((hflag | hserves | ⟨hphase, -⟩) | howner)
      · exact hguard service (.inl (by cases service <;> exact hflag))
      · cases service <;> cases hserves
      · cases hphase
      · cases service <;> cases howner
    have hslots : s.protocol.deactivated.published service = s.protocol.published service := by
      cases service <;> rfl
    exact ⟨⟨.of_clear ⟨hnone .enable, hnone .disable, hnone .reset, rfl⟩,
      fun s hs => (by cases s <;> cases hs), nofun, nofun, nofun, fun _ => ⟨rfl, rfl⟩⟩,
      fun h => absurd h (hguard service), fun _ _ => ⟨hclosed, hslots⟩⟩

theorem answersKept_initial (controllers : List ControllerState) :
    AnswersKept (initial controllers).protocol :=
  ⟨.of_clear ⟨rfl, rfl, rfl, rfl⟩, fun s hs => (by cases s <;> cases hs), nofun, nofun, nofun,
    fun _ => ⟨rfl, rfl⟩⟩

/-- The request is owed its result, or closed by the one that it got since it was raised. -/
def Settles (service : Service) (raised : ℕ) (p : Protocol) : Prop :=
  p.Owes service ∧ p.published service = raised ∨
    ¬p.Serves service ∧ p.published service = raised + 1

theorem settles_step {s : System} {l : Label} {raised : ℕ} (hk : AnswersKept s.protocol)
    (hguard : s.answerGuard cfg l)
    (hquiet : s.beginsNone cfg service l ∨ service ≠ .disable ∧ s.protocol.owner ≠ .none)
    (h : Settles service raised s.protocol) : Settles service raised (s.step cfg l).protocol := by
  obtain ⟨howed, hclosed⟩ := (answers_step hk hguard service).2
  rcases h with ⟨howes, hcount⟩ | ⟨hserves, hcount⟩
  · rcases howed howes with ⟨hkept, hsame⟩ | ⟨hended, hanswer, -⟩
    · exact .inl ⟨hkept, hsame.trans hcount⟩
    · exact .inr ⟨hended, hanswer.trans (congrArg (· + 1) hcount)⟩
  · obtain ⟨hended, hsame⟩ := hclosed hquiet hserves
    exact .inr ⟨hended, hsame.trans hcount⟩

/-- While the owner is held, a disable stays owed its result until the owner is released. -/
def HeldOpen (service : Service) (raised : ℕ) (p : Protocol) : Prop :=
  Settles service raised p ∧ (service = .disable → p.owner ≠ .none → p.Owes service)

theorem heldOpen_step {s : System} {l : Label} {raised : ℕ} (hk : AnswersKept s.protocol)
    (hguard : s.answerGuard cfg l) (howner : s.protocol.owner ≠ .none)
    (h : HeldOpen service raised s.protocol) :
    HeldOpen service raised (s.step cfg l).protocol := by
  obtain ⟨hsettles, hdisable⟩ := h
  by_cases hservice : service = .disable
  · obtain ⟨howed, -⟩ := (answers_step hk hguard service).2
    have howes := hdisable hservice howner
    have hcount : s.protocol.published service = raised :=
      hsettles.elim (·.2) fun h' => absurd (.inl howes) h'.1
    rcases howed howes with ⟨hkept, hsame⟩ | ⟨hended, hanswer, hreleased⟩
    · exact ⟨.inl ⟨hkept, hsame.trans hcount⟩, fun _ _ => hkept⟩
    · exact ⟨.inr ⟨hended, hanswer.trans (congrArg (· + 1) hcount)⟩,
        fun h' hne => absurd (hreleased h') hne⟩
  · exact ⟨settles_step hk hguard (.inr ⟨hservice, howner⟩) hsettles, fun h' => absurd h' hservice⟩

/-- In every run along which no access, emergency or deactivation loses an answer, every raised
request is answered once. -/
theorem answered_once (cfg : Config) (controllers : List ControllerState) (labels : List Label)
    (h : Along (step cfg) (answerGuard cfg) (initial controllers) labels) :
    AnsweredOnce cfg (initial controllers) labels := by
  rintro before l held rest after service rfl hraise hheld hrest
  rw [along_append, along_cons, along_append, along_append] at h
  obtain ⟨hbefore, hl, hguardHeld, hguardRest, -⟩ := h
  have hk : AnswersKept (runFrom cfg (initial controllers) before).protocol :=
    invariant_run (P := fun s : System => AnswersKept s.protocol)
      (fun s a hk hguard => (answers_step hk hguard .enable).1) (answersKept_initial controllers)
      hbefore
  have hkl := (answers_step hk hl service).1
  rw [runFrom, run_snoc] at hheld
  rw [runFrom, run_append, run_cons] at hrest
  simp only [runFrom, run_append, run_cons, run_nil]
  set s := run (step cfg) (initial controllers) before with hs
  have howes : (s.step cfg l).protocol.Owes service := by
    have hworld := (step_of_nextAccess cfg hraise).1
    refine .inl ?_
    unfold protocol
    rw [hworld]
    cases service <;> exact Bool.or_true _
  have hopen : HeldOpen service ((s.step cfg l).protocol.published service)
      (s.step cfg l).protocol := ⟨.inl ⟨howes, rfl⟩, fun _ _ => howes⟩
  obtain ⟨hkh, hsettles, -⟩ : AnswersKept (run (step cfg) (s.step cfg l) held).protocol ∧
      HeldOpen service ((s.step cfg l).protocol.published service)
        (run (step cfg) (s.step cfg l) held).protocol :=
    invariant_run (P := fun s' : System => AnswersKept s'.protocol ∧ HeldOpen service _ s'.protocol)
      (fun s' a hs' hok => ⟨(answers_step hs'.1 hok.1 service).1,
        heldOpen_step hs'.1 hok.1 hok.2 hs'.2⟩)
      ⟨hkl, hopen⟩ (hguardHeld.and hheld)
  obtain ⟨hkr, hlast⟩ : AnswersKept
      (run (step cfg) (run (step cfg) (s.step cfg l) held) rest).protocol ∧
      Settles service ((s.step cfg l).protocol.published service)
        (run (step cfg) (run (step cfg) (s.step cfg l) held) rest).protocol :=
    invariant_run (P := fun s' : System => AnswersKept s'.protocol ∧ Settles service _ s'.protocol)
      (fun s' a hs' hok => ⟨(answers_step hs'.1 hok.1 service).1,
        settles_step hs'.1 hok.1 (.inl hok.2) hs'.2⟩)
      ⟨hkh, hsettles⟩ (hguardRest.and hrest)
  rcases hlast with ⟨howed, hcount⟩ | ⟨-, hcount⟩
  · refine ⟨hcount.le.trans (Nat.le_succ _), fun hnone => ?_⟩
    exact absurd howed (hkr.not_owes_of_none hnone service)
  · exact ⟨hcount.le, fun _ => hcount⟩

section PreemptedEnable

instance (s : System) : ∀ l, Decidable (s.answerGuard cfg l)
  | .tick _ _ => inferInstanceAs (Decidable (_ → _ ∧ (_ → _)))
  | .activate _ => .isTrue trivial
  | .deactivate =>
    decidable_of_iff
      (¬s.protocol.Owes .enable ∧ ¬s.protocol.Owes .disable ∧ ¬s.protocol.Owes .reset)
      ⟨by rintro ⟨henable, hdisable, hreset⟩ (_ | _ | _); exacts [henable, hdisable, hreset],
        fun h => ⟨h _, h _, h _⟩⟩
  | .enable _ | .disable _ | .reset _ | .worker _ | .mode _ | .fault =>
    inferInstanceAs (Decidable (∀ a ∈ s.nextAccess cfg _, _))

/-- A disable call on an enable in progress, up to the store that raises its request. -/
def disableCall : List Label :=
  startUp ++ List.replicate 8 (.enable {}) ++ [.tick .disabled 4] ++ List.replicate 5 (.disable {})

/-- The disable preempts the enable, and both get their results. -/
theorem answered_once_preempted : AnsweredOnce chassis (initial chassisControllers)
    (disableCall ++ .disable {} :: [.tick .enabled 5, .tick .disabled 6, .tick .disabled 7,
      .tick .disabled 8]) :=
  answered_once chassis chassisControllers _ (by decide +kernel)

/-- The drive faults in the update that follows the disable request: the emergency answers the
enable, takes the disable request back and releases the owner. -/
theorem disable_unanswered : ¬∀ (cfg : Config) (controllers : List ControllerState)
    (labels : List Label), AnsweredOnce cfg (initial controllers) labels := by
  intro h
  have hanswered := h chassis chassisControllers
    (disableCall ++ .disable {} :: ([.tick .faulted 5, .tick .faulted 6, .tick .faulted 7,
      .tick .faulted 8] ++ ([] ++ []))) disableCall (.disable {}) _ [] [] .disable rfl
    (by decide +kernel) (by decide +kernel) trivial
  exact absurd (hanswered.2 (by decide +kernel)) (by decide +kernel)

end PreemptedEnable

end System

end RobotDriver.EnableManager
