import Mathlib.Data.Rat.Floor
import RobotDriver.ForceTorque.ForceTorqueBroadcaster
import RobotDriver.Lib.LabelledRun

/-!
# An invalidated calibration

Runs of the lifecycle callbacks and `update` in any order. A wrench is published only from a
measured sample under valid metadata. The latch of the controller belongs to the startup id it
holds now: a configuration that stores another id clears it, and the first id can then come back.
-/

namespace RobotDriver.ForceTorque

open LabelledRun

inductive LifecycleEvent (K : Type)
  | configure (p : Parameters K) (created : Bool)
  | activate (stateInterfaces : List String)
  | update (cycle : Cycle K)
  | deactivate
  | cleanup
  | error

namespace ForceTorqueBroadcaster

variable {K : Type} [Field K] [LinearOrder K] [FloorRing K] [Scaling K]

def step (s : ForceTorqueBroadcaster K) : LifecycleEvent K → ForceTorqueBroadcaster K
  | .configure p created => (s.onConfigure p created).1
  | .activate stateInterfaces => (s.onActivate stateInterfaces).1
  | .update cycle => s.update cycle
  | .deactivate => s.onDeactivate.1
  | .cleanup => s.onCleanup.1
  | .error => s.onError.1

section Observations

variable (id : String)

def operation (s : ForceTorqueBroadcaster K) (cycle : Cycle K) : Bool :=
  ForceTorqueProcessor.inOperation (s.linkUp cycle) (s.alState cycle)

/-- An update under the startup id that finds the sensor in operation, or out of it. -/
def Sees (operation : Bool) (s : ForceTorqueBroadcaster K) : LifecycleEvent K → Prop
  | .update cycle => s.startupId = id ∧ (s.reading cycle).isSome = true ∧
      s.operation cycle = operation
  | _ => False

instance (operation : Bool) (s : ForceTorqueBroadcaster K) :
    ∀ event, Decidable (Sees id operation s event)
  | .update _ => inferInstanceAs (Decidable (_ ∧ _ ∧ _))
  | .configure .. | .activate _ | .deactivate | .cleanup | .error => .isFalse nofun

def PublishesWrench (s : ForceTorqueBroadcaster K) : LifecycleEvent K → Prop
  | .update cycle => (s.publications cycle).wrench.isSome = true
  | _ => False

/-- A configuration that gets as far as storing the startup id in place of another one. -/
def Returns (s : ForceTorqueBroadcaster K) : LifecycleEvent K → Prop
  | .configure p _ => s.active = false ∧ s.startupId ≠ p.startupId ∧ p.startupId = id ∧
      ∃ accepted, p.candidate = .ok accepted
  | _ => False

instance (s : ForceTorqueBroadcaster K) : ∀ event, Decidable (Returns id s event)
  | .configure p _ =>
    match h : p.candidate with
    | .ok accepted =>
      decidable_of_iff (s.active = false ∧ s.startupId ≠ p.startupId ∧ p.startupId = id)
        ⟨fun hreturns => ⟨hreturns.1, hreturns.2.1, hreturns.2.2, accepted, h⟩,
          fun hreturns => ⟨hreturns.1, hreturns.2.1, hreturns.2.2.1⟩⟩
    | .error _ => .isFalse fun hreturns => nomatch h.symm.trans hreturns.2.2.2.choose_spec
  | .update _ | .activate _ | .deactivate | .cleanup | .error => .isFalse nofun

def Reconfigures (s : ForceTorqueBroadcaster K) : LifecycleEvent K → Prop
  | .configure p created => (s.onConfigure p created).2 = .success
  | _ => False

end Observations

end ForceTorqueBroadcaster

/-- The metadata of a valid calibration. -/
structure ValidMetadata {K : Type} [Field K] [LinearOrder K] (snapshotSource : String)
    (decimals unitCodes : List ℤ) (scaleFactors : Fin 6 → Double K) : Prop where
  source : snapshotSource = "preop_sdo" ∨ snapshotSource = "fixed_protocol"
  lengths : decimals.length = kAxisCount ∧ unitCodes.length = kAxisCount
  units : ∀ i : Fin 6, 0 ≤ decimals.getD i 0 ∧ decimals.getD i 0 ≤ 10 ∧
    unitCodes.getD i 0 = Parameters.unitCode i
  scales : ∀ i : Fin 6, Parameters.ScaleMatches (scaleFactors i) (decimals.getD i 0)

namespace Parameters

variable {K : Type} [Field K] [LinearOrder K] {p : Parameters K}

theorem validMetadata_of_checkMetadata (h : p.checkMetadata = .ok ())
    (hvalid : p.calibrationValid = true) :
    ValidMetadata p.snapshotSource p.decimals p.unitCodes p.scale := by
  unfold checkMetadata at h
  rw [if_pos hvalid] at h
  simp only [bind_eq_ok_iff, require_eq_ok_iff] at h
  obtain ⟨_, hsource, _, hlengths, hloop⟩ := h
  have haxis (i : Fin 6) : (0 ≤ p.decimals.getD i 0 ∧ p.decimals.getD i 0 ≤ 10 ∧
      p.unitCodes.getD i 0 = unitCode i) ∧ ScaleMatches (p.scale i) (p.decimals.getD i 0) := by
    have hi := forM_eq_ok_iff.1 hloop i (List.mem_finRange i)
    simp only [bind_eq_ok_iff, require_eq_ok_iff] at hi
    obtain ⟨_, hunits, hscale⟩ := hi
    exact ⟨hunits, hscale⟩
  exact ⟨hsource, hlengths, fun i => (haxis i).1, fun i => (haxis i).2⟩

theorem candidate_spec {sensor : ForceTorqueSensor} {config : ForceTorqueProcessorConfig K}
    (h : p.candidate = .ok (sensor, config)) :
    p.checkMetadata = .ok () ∧ config.scaleFactors = p.scale := by
  simp only [candidate, bind_eq_ok_iff, pure, Except.pure, Except.ok.injEq, Prod.mk.injEq] at h
  obtain ⟨_, _, _, _, _, _, _, _, _, _, _, _, _, _, _, _, _, _, _, hmetadata, -, rfl⟩ := h
  exact ⟨hmetadata, rfl⟩

end Parameters

namespace ForceTorqueBroadcaster

variable {K : Type} [Field K] [LinearOrder K] [FloorRing K] [Scaling K]
  {s : ForceTorqueBroadcaster K}

/-- A cycle that may publish a wrench. -/
def Measured (s : ForceTorqueBroadcaster K) : LifecycleEvent K → Prop
  | .update cycle => ∃ processor sample, s.reading cycle = some (processor, sample) ∧
      processor.Measures sample (s.linkUp cycle) (s.alState cycle) ∧
      ValidMetadata s.snapshotSource s.decimals s.unitCodes processor.config.scaleFactors
  | _ => False

/-- The latch of the processor and the latch of the controller agree on a calibration in use. -/
structure Calibrated (s : ForceTorqueBroadcaster K) : Prop where
  latched : ∀ p, s.processor = some p → p.runtimeInvalidated = true → s.startupInvalidated = true
  blocked : ∀ p, s.processor = some p → s.startupInvalidated = true →
    p.config.calibrationValid = true → p.runtimeInvalidated = true
  metadata : ∀ p, s.processor = some p → p.config.calibrationValid = true →
    ValidMetadata s.snapshotSource s.decimals s.unitCodes p.config.scaleFactors

omit [FloorRing K] [Scaling K] in
theorem calibrated_of_none (h : s.processor = none) : s.Calibrated := by
  constructor <;> intro p hp <;> rw [h] at hp <;> cases hp

section Frames

omit [FloorRing K] [Scaling K]

omit [LinearOrder K] in
theorem bindInterfaces_frame (names : List String) (s : ForceTorqueBroadcaster K) :
    ∃ sensor link al, (bindInterfaces names s).1 =
      { s with sensor := sensor, linkInterface := link, alStateInterface := al } := by
  induction names generalizing s with
  | nil => exact ⟨_, _, _, rfl⟩
  | cons name names ih =>
    unfold bindInterfaces
    dsimp only
    split_ifs
    all_goals first
      | exact ⟨_, _, _, rfl⟩
      | obtain ⟨sensor, link, al, h⟩ := ih _
        exact ⟨sensor, link, al, h⟩

omit [LinearOrder K] in
theorem onActivate_frame (names : List String) :
    ∃ sensor link al active, (s.onActivate names).1 =
      { s with sensor := sensor, linkInterface := link, alStateInterface := al, active := active }
    := by
  unfold onActivate
  split
  · split_ifs
    · exact ⟨_, _, _, _, rfl⟩
    · split
      · exact ⟨_, _, _, _, rfl⟩
      · rename_i bound _
        obtain ⟨sensor, link, al, h⟩ := bindInterfaces_frame names { s with sensor := some bound }
        dsimp only
        split_ifs <;> rw [h] <;> exact ⟨_, _, _, _, rfl⟩
  · exact ⟨_, _, _, _, rfl⟩

omit [LinearOrder K] in
theorem storeStartupId_cases (id : String) :
    s.storeStartupId id = s ∧ s.startupId = id ∨
      s.storeStartupId id = { s with startupId := id, startupInvalidated := false } ∧
        s.startupId ≠ id := by
  unfold storeStartupId
  split_ifs with h
  · exact .inr ⟨rfl, h⟩
  · exact .inl ⟨rfl, not_not.1 h⟩

theorem onConfigure_cases (p : Parameters K) (created : Bool) :
    s.onConfigure p created = (s, .error) ∨
    s.active = false ∧ (s.onConfigure p created = (s.clearRuntimeResources, .error) ∨
      ∃ sensor config, p.candidate = .ok (sensor, config) ∧
        (s.onConfigure p created =
            ((s.clearRuntimeResources.storeStartupId p.startupId).clearRuntimeResources, .error) ∨
          ∃ processor, processor.config = { config with
              calibrationValid := p.calibrationValid &&
                !(s.clearRuntimeResources.storeStartupId p.startupId).startupInvalidated } ∧
            processor.runtimeInvalidated = false ∧
            s.onConfigure p created = ({ s.clearRuntimeResources.storeStartupId p.startupId with
              sensor := some sensor
              processor := some processor
              linkInterfaceName := p.linkInterface
              alStateInterfaceName := p.alStateInterface
              snapshotSource := p.snapshotSource
              decimals := p.decimals
              unitCodes := p.unitCodes
              calibrationValid := p.calibrationValid &&
                !(s.clearRuntimeResources.storeStartupId p.startupId).startupInvalidated
              sensorStatePublisher := p.sensorStateTopic ≠ "" }, .success))) := by
  unfold onConfigure
  split
  · exact .inl rfl
  · rename_i hactive
    refine .inr ⟨by simpa using hactive, ?_⟩
    dsimp only
    split
    · exact .inl rfl
    · rename_i sensor config hcandidate
      refine .inr ⟨sensor, config, hcandidate, ?_⟩
      split
      · exact .inl rfl
      · rename_i processor hprocessor
        obtain ⟨hconfig, -, hcurrent⟩ := ForceTorqueProcessor.of_create hprocessor
        split_ifs
        · exact .inr ⟨processor, hconfig, hcurrent, rfl⟩
        · exact .inl rfl

theorem onConfigure_startup (p : Parameters K) (created : Bool) :
    (s.onConfigure p created).1.startupId = s.startupId ∧
        (s.onConfigure p created).1.startupInvalidated = s.startupInvalidated ∨
      Returns p.startupId s (.configure p created) ∧
        (s.onConfigure p created).1.startupId = p.startupId := by
  rcases s.onConfigure_cases p created with
    h | ⟨hactive, h | ⟨sensor, config, hcandidate, hstored⟩⟩
  · rw [h]
    exact .inl ⟨rfl, rfl⟩
  · rw [h]
    exact .inl ⟨rfl, rfl⟩
  · rcases s.clearRuntimeResources.storeStartupId_cases p.startupId with ⟨hid, -⟩ | ⟨hid, hne⟩
    · left
      rcases hstored with h | ⟨processor, -, -, h⟩ <;> rw [h, hid] <;> exact ⟨rfl, rfl⟩
    · refine .inr ⟨⟨hactive, hne, rfl, _, hcandidate⟩, ?_⟩
      rcases hstored with h | ⟨processor, -, -, h⟩
      · rw [h, hid]
        rfl
      · rw [h, hid]

theorem Calibrated.onConfigure (h : s.Calibrated) (p : Parameters K) (created : Bool) :
    (s.onConfigure p created).1.Calibrated := by
  rcases s.onConfigure_cases p created with
    heq | ⟨-, heq | ⟨sensor, config, hcandidate, heq | ⟨processor, hconfig, hcurrent, heq⟩⟩⟩
  · rw [heq]
    exact h
  · rw [heq]
    exact calibrated_of_none rfl
  · rw [heq]
    exact calibrated_of_none rfl
  · rw [heq]
    obtain ⟨hmetadata, hscales⟩ := Parameters.candidate_spec hcandidate
    constructor
    · intro q hq hinvalidated
      cases hq
      rw [hcurrent] at hinvalidated
      cases hinvalidated
    · intro q hq hstartup hvalid
      cases hq
      rw [hconfig] at hvalid
      simp only [Bool.and_eq_true, Bool.not_eq_true'] at hvalid
      exact absurd hstartup (ne_true_of_eq_false hvalid.2)
    · intro q hq hvalid
      cases hq
      rw [hconfig] at hvalid ⊢
      dsimp only
      rw [hscales]
      simp only [Bool.and_eq_true] at hvalid
      exact Parameters.validMetadata_of_checkMetadata hmetadata hvalid.1

end Frames

section Update

variable {cycle : Cycle K} {processor : ForceTorqueProcessor K} {sample : ForceTorqueSample K}

omit [LinearOrder K] [FloorRing K] [Scaling K] in
theorem processor_of_reading (h : s.reading cycle = some (processor, sample)) :
    s.processor = some processor := by
  obtain ⟨⟨sensor, q⟩, hready, hread⟩ := Option.bind_eq_some_iff.1 h
  obtain ⟨_, _, hpair⟩ := Option.map_eq_some_iff.1 hread
  rw [Prod.mk.injEq] at hpair
  unfold ready at hready
  split at hready
  · rename_i hsensor hprocessor
    split_ifs at hready
    cases hready
    rw [hprocessor, hpair.1]
  · cases hready

theorem update_of_reading (h : s.reading cycle = some (processor, sample)) :
    s.update cycle = { s with
      processor := some (processor.observe (s.operation cycle))
      startupInvalidated := s.startupInvalidated ||
        processor.invalidatedThisCycle (s.operation cycle) } := by
  simp only [update, outcome, h, Option.map_some]
  rfl

theorem update_of_not_reading (h : s.reading cycle = none) : s.update cycle = s := by
  simp only [update, outcome, h, Option.map_none]

theorem Calibrated.update (h : s.Calibrated) (cycle : Cycle K) : (s.update cycle).Calibrated := by
  cases hreading : s.reading cycle with
  | none => rwa [update_of_not_reading hreading]
  | some pair =>
    obtain ⟨processor, sample⟩ := pair
    have hprocessor := processor_of_reading hreading
    rw [update_of_reading hreading]
    constructor
    · intro q hq hinvalidated
      cases hq
      rw [ForceTorqueProcessor.observe_runtimeInvalidated, Bool.or_eq_true] at hinvalidated
      rw [Bool.or_eq_true]
      exact hinvalidated.imp_left (h.latched _ hprocessor)
    · intro q hq hstartup hvalid
      cases hq
      rw [ForceTorqueProcessor.observe_config] at hvalid
      rw [ForceTorqueProcessor.observe_runtimeInvalidated, Bool.or_eq_true]
      exact (Bool.or_eq_true _ _ ▸ hstartup).imp_left fun hs =>
        h.blocked _ hprocessor hs hvalid
    · intro q hq hvalid
      cases hq
      rw [ForceTorqueProcessor.observe_config] at hvalid ⊢
      exact h.metadata _ hprocessor hvalid

end Update

theorem Calibrated.step (h : s.Calibrated) (event : LifecycleEvent K) :
    (s.step event).Calibrated := by
  cases event with
  | configure p created => exact h.onConfigure p created
  | activate names =>
    obtain ⟨sensor, link, al, active, heq⟩ := s.onActivate_frame names
    change (s.onActivate names).1.Calibrated
    rw [heq]
    exact ⟨h.latched, h.blocked, h.metadata⟩
  | update cycle => exact h.update cycle
  | deactivate => exact ⟨h.latched, h.blocked, h.metadata⟩
  | cleanup | error => exact calibrated_of_none rfl

theorem measures_of_publishes [IsStrictOrderedRing K] {cycle : Cycle K}
    (h : PublishesWrench s (.update cycle)) : ∃ processor sample,
      s.reading cycle = some (processor, sample) ∧
        processor.Measures sample (s.linkUp cycle) (s.alState cycle) := by
  cases hreading : s.reading cycle with
  | none => simp [PublishesWrench, publications, hreading] at h
  | some pair =>
    obtain ⟨processor, sample⟩ := pair
    simp only [PublishesWrench, publications, outcome, hreading, Option.map_some] at h
    split_ifs at h
    · exact ⟨processor, sample, rfl, (ForceTorqueProcessor.measures_of_wrench h).of_observe⟩
    · cases h

theorem measured_of_publishes [IsStrictOrderedRing K] (hs : s.Calibrated)
    {event : LifecycleEvent K} (h : PublishesWrench s event) : Measured s event := by
  cases event with
  | update cycle =>
    obtain ⟨processor, sample, hreading, hmeasures⟩ := measures_of_publishes h
    exact ⟨processor, sample, hreading, hmeasures,
      hs.metadata _ (processor_of_reading hreading) hmeasures.calibrated⟩
  | _ => exact h.elim

theorem not_publishes_of_invalidated [IsStrictOrderedRing K] (hs : s.Calibrated)
    (hinvalidated : s.startupInvalidated = true) (event : LifecycleEvent K) :
    ¬PublishesWrench s event := by
  cases event with
  | update cycle =>
    intro h
    obtain ⟨processor, sample, hreading, hmeasures⟩ := measures_of_publishes h
    have hlatched := hs.blocked _ (processor_of_reading hreading) hinvalidated hmeasures.calibrated
    exact absurd hlatched (ne_true_of_eq_false hmeasures.current)
  | _ => exact id

section Runs

variable {id : String} {within : ForceTorqueBroadcaster K → LifecycleEvent K → Prop}
  {events : List (LifecycleEvent K)}

/-- An update saw the sensor leave operation under the startup id. -/
def SeenLeaving (id : String) (within : ForceTorqueBroadcaster K → LifecycleEvent K → Prop) :
    ForceTorqueBroadcaster K → List (LifecycleEvent K) → Prop :=
  Followed step (Sees id true) (Sees id false) within

def NeverUsedAgain (id : String) (within : ForceTorqueBroadcaster K → LifecycleEvent K → Prop)
    (s : ForceTorqueBroadcaster K) (events : List (LifecycleEvent K)) : Prop :=
  ∀ before event after, events = before ++ event :: after → SeenLeaving id within s before →
    (run step s before).startupId = id → ¬PublishesWrench (run step s before) event

/-- No configuration brings a startup id back under which the sensor was seen to leave. -/
def Remembers (id : String) (within : ForceTorqueBroadcaster K → LifecycleEvent K → Prop)
    (s : ForceTorqueBroadcaster K) (events : List (LifecycleEvent K)) : Prop :=
  ∀ before event after, events = before ++ event :: after → Returns id (run step s before) event →
    ¬SeenLeaving id within s before

def LeavingNoticed (s : ForceTorqueBroadcaster K) : Prop :=
  s.startupInvalidated = true ∨ ∃ p, s.processor = some p ∧ p.seenOperation = true

instance (s : ForceTorqueBroadcaster K) : Decidable s.LeavingNoticed :=
  decidable_of_iff (s.startupInvalidated = true ∨ s.processor.any (·.seenOperation) = true)
    (or_congr_right (Option.any_eq_true ..))

/-- Every departure is met by a processor that has seen the operation, or is latched already. -/
def Notices (id : String) (within : ForceTorqueBroadcaster K → LifecycleEvent K → Prop)
    (s : ForceTorqueBroadcaster K) (events : List (LifecycleEvent K)) : Prop :=
  ∀ before a between b after, events = before ++ a :: (between ++ b :: after) →
    Sees id true (run step s before) a → Along step within (run step s (before ++ [a])) between →
    Sees id false (run step s (before ++ a :: between)) b →
    LeavingNoticed (run step s (before ++ a :: between))

theorem startupInvalidated_step (event : LifecycleEvent K)
    (hs : s.startupId = id → s.startupInvalidated = true) (hreturns : ¬Returns id s event)
    (hid : (s.step event).startupId = id) : (s.step event).startupInvalidated = true := by
  cases event with
  | configure p created =>
    rcases s.onConfigure_startup p created with ⟨hsame, hlatch⟩ | ⟨hreturn, hstored⟩
    · exact hlatch.trans (hs (hsame.symm.trans hid))
    · rw [hstored.symm.trans hid] at hreturn
      exact absurd hreturn hreturns
  | activate names =>
    obtain ⟨sensor, link, al, active, heq⟩ := s.onActivate_frame names
    have hstep : s.step (.activate names) = _ := heq
    rw [hstep] at hid ⊢
    exact hs hid
  | update cycle =>
    simp only [step] at hid ⊢
    cases hreading : s.reading cycle with
    | none =>
      rw [update_of_not_reading hreading] at hid ⊢
      exact hs hid
    | some pair =>
      rw [update_of_reading hreading] at hid ⊢
      rw [Bool.or_eq_true]
      exact .inl (hs hid)
  | deactivate => exact hs hid
  | cleanup => exact hs hid
  | error => exact hs hid

theorem startupInvalidated_of_sees (hs : s.Calibrated) {event : LifecycleEvent K}
    (hsees : Sees id false s event) (hnoticed : LeavingNoticed s) :
    (s.step event).startupInvalidated = true := by
  cases event with
  | update cycle =>
    obtain ⟨-, hreading, hout⟩ := hsees
    obtain ⟨⟨processor, sample⟩, hreading⟩ := Option.isSome_iff_exists.1 hreading
    have hprocessor := processor_of_reading hreading
    simp only [step, update_of_reading hreading, hout, Bool.or_eq_true,
      ForceTorqueProcessor.invalidatedThisCycle, Bool.not_false, Bool.true_and, Bool.and_eq_true,
      Bool.not_eq_true']
    rcases hnoticed with hinvalidated | ⟨p, hp, hseen⟩
    · exact .inl hinvalidated
    · cases hprocessor.symm.trans hp
      cases hruntime : processor.runtimeInvalidated with
      | true => exact .inl (hs.latched _ hprocessor hruntime)
      | false => exact .inr ⟨hseen, rfl⟩
  | _ => exact hsees.elim

theorem startupInvalidated_of_seenLeaving (hs : s.Calibrated)
    (hremembers : Remembers id within s events)
    (hnotices : Notices id within s events) (hleaving : SeenLeaving id within s events)
    (hid : (run step s events).startupId = id) : (run step s events).startupInvalidated = true := by
  induction events using List.reverseRecOn with
  | nil => exact absurd hleaving not_followed_nil
  | append_singleton events event ih =>
    rw [run_snoc] at hid ⊢
    rcases hleaving.of_snoc with hbefore | ⟨hsecond, before, a, between, rfl, hfirst, hwithin⟩
    · refine startupInvalidated_step event (fun hsame => ih ?_ ?_ hbefore hsame) ?_ hid
      · intro before e after heq
        exact hremembers before e (after ++ [event]) (by simp [heq])
      · intro before a between b after heq
        exact hnotices before a between b (after ++ [event]) (by simp [heq])
      · intro hreturns
        exact hremembers events event [] rfl hreturns hbefore
    · have hcalibrated := invariant_all (fun _ a h => h.step a) hs (before ++ a :: between)
      exact startupInvalidated_of_sees hcalibrated hsecond
        (hnotices before a between event [] (by simp) hfirst hwithin hsecond)

theorem neverUsedAgain [IsStrictOrderedRing K] (hs : s.Calibrated)
    (hremembers : Remembers id within s events) (hnotices : Notices id within s events) :
    NeverUsedAgain id within s events := by
  rintro before event after rfl hleaving hid
  have hcalibrated := invariant_all (fun _ a h => h.step a) hs before
  refine not_publishes_of_invalidated hcalibrated (startupInvalidated_of_seenLeaving hs ?_ ?_
    hleaving hid) event
  · intro first e rest heq
    exact hremembers first e (rest ++ event :: after) (by simp [heq])
  · intro first a between b rest heq
    exact hnotices first a between b (rest ++ event :: after) (by simp [heq])

/-- The processor, if any, has seen the sensor in operation. -/
def Operated (s : ForceTorqueBroadcaster K) : Prop :=
  ∀ p, s.processor = some p → p.seenOperation = true

def SameConfiguration (s : ForceTorqueBroadcaster K) (event : LifecycleEvent K) : Prop :=
  ¬Reconfigures s event

theorem operated_of_sees {event : LifecycleEvent K} (h : Sees id true s event) :
    (s.step event).Operated := by
  cases event with
  | update cycle =>
    obtain ⟨-, hreading, hin⟩ := h
    obtain ⟨⟨processor, sample⟩, hreading⟩ := Option.isSome_iff_exists.1 hreading
    intro p hp
    simp only [step, update_of_reading hreading, hin, Option.some.injEq] at hp
    rw [← hp, ForceTorqueProcessor.observe_seenOperation]
    rfl
  | _ => exact h.elim

theorem Operated.step (h : s.Operated) (event : LifecycleEvent K)
    (hsame : SameConfiguration s event) : (s.step event).Operated := by
  cases event with
  | configure p created =>
    change (s.onConfigure p created).1.Operated
    rcases s.onConfigure_cases p created with
      heq | ⟨-, heq | ⟨sensor, config, -, heq | ⟨processor, -, -, heq⟩⟩⟩
    · rwa [heq]
    · rw [heq]
      exact nofun
    · rw [heq]
      exact nofun
    · exact absurd (congrArg Prod.snd heq) hsame
  | activate names =>
    obtain ⟨sensor, link, al, active, heq⟩ := s.onActivate_frame names
    change (s.onActivate names).1.Operated
    rw [heq]
    exact h
  | update cycle =>
    change (s.update cycle).Operated
    cases hreading : s.reading cycle with
    | none => rwa [update_of_not_reading hreading]
    | some pair =>
      rw [update_of_reading hreading]
      intro p hp
      cases hp
      rw [ForceTorqueProcessor.observe_seenOperation, h _ (processor_of_reading hreading)]
      exact Bool.or_true _
  | deactivate => exact h
  | cleanup => exact nofun
  | error => exact nofun

theorem notices_sameConfiguration : Notices id SameConfiguration s events := by
  rintro before a between b after rfl hfirst hwithin hsecond
  have hoperated : (run step s (before ++ a :: between)).Operated := by
    rw [← List.singleton_append, ← List.append_assoc, run_append]
    refine invariant_run (fun _ e h hsame => h.step e hsame) ?_ hwithin
    rw [run_snoc]
    exact operated_of_sees hfirst
  cases b with
  | update cycle =>
    obtain ⟨⟨processor, sample⟩, hreading⟩ := Option.isSome_iff_exists.1 hsecond.2.1
    have hprocessor := processor_of_reading hreading
    exact .inr ⟨processor, hprocessor, hoperated _ hprocessor⟩
  | _ => exact hsecond.elim

end Runs

/-- Wrenches are published from measured cycles only. A calibration invalidated under a startup
id stays unused unless a configuration brings the id back; where the configuration may change
between the operation and the departure, the departure must also be noticed. -/
theorem wrenches_of_run [IsStrictOrderedRing K] (id : String) (events : List (LifecycleEvent K)) :
    Along step (fun s event => PublishesWrench s event → Measured s event) {} events ∧
      (Remembers id SameConfiguration {} events → NeverUsedAgain id SameConfiguration {} events) ∧
      (Remembers id (fun _ _ => True) {} events → Notices id (fun _ _ => True) {} events →
        NeverUsedAgain id (fun _ _ => True) {} events) := by
  have hinitial : ({} : ForceTorqueBroadcaster K).Calibrated := calibrated_of_none rfl
  refine ⟨?_, fun hremembers => ?_, fun hremembers hnotices => ?_⟩
  · exact along_of_invariant (P := Calibrated) (fun _ e h => h.step e)
      (fun _ _ h => measured_of_publishes h) hinitial events
  · exact neverUsedAgain hinitial hremembers notices_sameConfiguration
  · exact neverUsedAgain hinitial hremembers hnotices

section ReturningId

instance : Scaling ℚ where
  scaled raw
    | .finite scale => .finite (raw * scale)
    | _ => .nan

def wristParameters (startupId : String) : Parameters ℚ where
  sensorName := "wrist"
  frameId := "wrist_link"
  wrenchTopic := "/wrench"
  rawTopic := "/raw"
  sensorStateTopic := ""
  calibrationTopic := "/calibration"
  diagnosticName := "wrist calibration"
  linkInterface := "bus/link"
  alStateInterface := "slave/al"
  validityPolicy := "all_exact_in_range"
  snapshotSource := "preop_sdo"
  startupId
  valueInterfaces := ["wrist/1", "wrist/2", "wrist/3", "wrist/4", "wrist/5", "wrist/6"]
  auxiliaryInterfaces := ["wrist/code"]
  scaleFactors := List.replicate 6 (.finite (1 / 10))
  decimals := List.replicate 6 1
  unitCodes := [5, 5, 5, 7, 7, 7]
  minimumAuxiliaryValue := 0
  maximumAuxiliaryValue := 1000
  calibrationValid := true

def wristInterfaces : List String :=
  ["wrist/1", "wrist/2", "wrist/3", "wrist/4", "wrist/5", "wrist/6", "wrist/code", "bus/link",
    "slave/al"]

def wristCycle (alState : ℚ) : Cycle ℚ where
  values name :=
    if name = "bus/link" then .finite 1
    else if name = "slave/al" then .finite alState
    else .finite 100

/-- The sensor is in operation, leaves it and comes back. -/
def departure : List (LifecycleEvent ℚ) :=
  [.configure (wristParameters "run-1") true, .activate wristInterfaces, .update (wristCycle 8),
    .update (wristCycle 2), .update (wristCycle 8)]

/-- Before that it was in operation until a reconfiguration under the same id. -/
def reconfigured : List (LifecycleEvent ℚ) := departure.take 3 ++ .deactivate :: departure

theorem remembers_of_along {within : ForceTorqueBroadcaster ℚ → LifecycleEvent ℚ → Prop}
    {event : LifecycleEvent ℚ} {events : List (LifecycleEvent ℚ)}
    (h : Along step (fun s e => ¬Returns "run-1" s e) (step {} event) events) :
    Remembers "run-1" within {} (event :: events) := by
  rintro (_ | ⟨first, before⟩) next after heq hreturns
  · exact not_followed_nil
  · obtain ⟨rfl, rfl⟩ := List.cons.inj heq
    exact absurd hreturns ((along_iff_split _ _).1 h before next after rfl)

theorem wrenches_of_run_departure :
    NeverUsedAgain "run-1" SameConfiguration {} departure ∧
      NeverUsedAgain "run-1" (fun _ _ => True) {} reconfigured := by
  refine ⟨(wrenches_of_run "run-1" departure).2.1 (remembers_of_along (by decide +kernel)),
    (wrenches_of_run "run-1" reconfigured).2.2 (remembers_of_along (by decide +kernel)) ?_⟩
  have hnoticed : Along step (fun s e => Sees "run-1" false s e → s.LeavingNoticed) {}
      reconfigured := by decide +kernel
  intro before a between b after heq _ _ hsees
  exact (along_iff_split _ _).1 hnoticed (before ++ a :: between) b after (by simp [heq]) hsees

/-- A rejected configuration with another id in between brings the calibration back. -/
def returning : List (LifecycleEvent ℚ) :=
  departure ++ [.deactivate, .configure (wristParameters "run-2") false,
    .configure (wristParameters "run-1") true, .activate wristInterfaces]

theorem invalidated_calibration_used_again :
    ¬NeverUsedAgain "run-1" SameConfiguration {} (returning ++ [.update (wristCycle 8)]) := by
  intro h
  have hleaving : SeenLeaving "run-1" SameConfiguration {} returning := by
    refine ⟨[.configure (wristParameters "run-1") true, .activate wristInterfaces],
      .update (wristCycle 8), [], .update (wristCycle 2), _, rfl, ⟨?_, ?_, ?_⟩, trivial,
      ⟨?_, ?_, ?_⟩⟩ <;> decide +kernel
  have hpublishes :
      ((run step {} returning).publications (wristCycle 8)).wrench.isSome = true := by
    decide +kernel
  exact h returning _ [] rfl hleaving (by decide +kernel) hpublishes

end ReturningId

end ForceTorqueBroadcaster

end RobotDriver.ForceTorque
