import RobotDriver.Composer.EnableGroups
import RobotDriver.Lib.Dictionary

/-!
# The enable parameters of the enable manager

The binding of the enable manager takes five parameter sources from the resolved enable policy,
overlaid with the view of the runtime mode: the named settings, the managed joints with the
partition check, the batches flattened, the batch lengths, and the expected modes, which no
overlay touches. A key given by two sources is rejected.
-/

namespace RobotDriver.Composer

open EnableManager Dictionary

def PolicySettings.entry (settings : PolicySettings) : String → Option ℚ
  | "batch_timeout" => some settings.batchTimeout
  | "disable_stage_timeout" => some settings.disableStageTimeout
  | "fault_reset_timeout" => some settings.faultResetTimeout
  | "inter_batch_delay" => some settings.interBatchDelay
  | "controller_switch_timeout" => some settings.controllerSwitchTimeout
  | "service_result_timeout_ms" => some settings.serviceResultTimeoutMs
  | "ready_hold_time" => settings.readyHoldTime
  | _ => none

namespace ResolvedPolicy

variable (policy : ResolvedPolicy)

def runtimeView (mode : String) : Except ComposeError RuntimeView :=
  match policy.runtimeViews.lookup mode with
  | none => .error (.valueError "Missing parameter source path: runtime_views.\x7bmode\x7d")
  | some view => .ok view

def viewedJoints (view : RuntimeView) : List String :=
  view.managedJoints.getD policy.managedJoints

def viewedBatches (view : RuntimeView) : List (List String) :=
  view.enableBatches.getD policy.enableBatches

/-- The policy as a dictionary, with the entries of the view over its own. -/
def entry (view : RuntimeView) : String → Option ParameterValue
  | "parameter_names" => some (.names view.parameterNames)
  | "managed_joints" => some (.names (policy.viewedJoints view))
  | "enable_batches" => some (.nested (policy.viewedBatches view))
  | "expected_modes" => policy.expectedModes.map .modes
  | "disable_terminal_policy" => some (.text policy.disableTerminalPolicy)
  | "ready_to_switch_on_disable_terminal_joints" =>
    some (.names policy.readyToSwitchOnDisableTerminalJoints)
  | "runtime_views" => some (.mapping (policy.runtimeViews.map Prod.fst))
  | key => (policy.settings.entry key).map .number

end ResolvedPolicy

def SameElements (xs ys : List String) : Prop := (∀ x ∈ xs, x ∈ ys) ∧ ∀ y ∈ ys, y ∈ xs

instance (xs ys : List String) : Decidable (SameElements xs ys) :=
  inferInstanceAs (Decidable (_ ∧ _))

def checkPolicy (label : String) (value managedJoints : List String)
    (batches : List (List String)) : Except ComposeError Unit :=
  if ¬ value.Nodup then .error (.valueError ("Duplicate entries in " ++ label))
  else if ¬ SameElements value managedJoints then
    .error (.valueError (label ++ " must cover exactly the current managed joints"))
  else if ¬ batches.flatten.Nodup then
    .error (.valueError ("Duplicate entries in " ++ label ++ " partition"))
  else if [] ∈ batches ∨ ¬ SameElements batches.flatten value then
    .error (.valueError (label ++ " partition must cover exactly its value"))
  else .ok ()

def selectKeys (entry : String → Option ParameterValue) :
    List String → Except ComposeError Parameters
  | [] => .ok []
  | key :: keys =>
    match entry key with
    | none => .error (.keyError key)
    | some value => do
      let rest ← selectKeys entry keys
      return (key, value) :: rest

def listText (names : List String) : String :=
  "[" ++ ", ".intercalate (names.map fun name => "'" ++ name ++ "'") ++ "]"

/-- The loop of `controller_parameters` over evaluated sources, none of them deferred. A source that
resolves to nothing contributes no parameter. -/
def mergedParameters (name : String) :
    List (Except ComposeError (Option Parameters)) → Parameters → Except ComposeError Parameters
  | [], result => .ok result
  | source :: sources, result => do
    match ← source with
    | none => mergedParameters name sources result
    | some value =>
      if duplicateKeys result value = [] then mergedParameters name sources (result ++ value)
      else .error (.valueError ("Duplicate parameter source for " ++ name ++ ": " ++
        listText ((duplicateKeys result value).mergeSort fun first second => first ≤ second)))

section Sources

variable (env : Composition) (policy : ResolvedPolicy) (mode : String)

def settingsSource : Except ComposeError (Option Parameters) := do
  let view ← policy.runtimeView mode
  let value ← selectKeys (policy.entry view) view.parameterNames
  return some value

def managedJointsSource : Except ComposeError (Option Parameters) := do
  let view ← policy.runtimeView mode
  checkPolicy "enable_manager:enable" (policy.viewedJoints view) env.managedJoints
    (policy.viewedBatches view)
  return some [("managed_joints", .names (policy.viewedJoints view))]

def batchJointNamesSource : Except ComposeError (Option Parameters) := do
  let view ← policy.runtimeView mode
  return some [("enable_batch_joint_names", .names (policy.viewedBatches view).flatten)]

def batchSizesSource : Except ComposeError (Option Parameters) := do
  let view ← policy.runtimeView mode
  return some [("enable_batch_sizes",
    .integers ((policy.viewedBatches view).map fun batch => (batch.length : ℤ)))]

def expectedModesSource : Except ComposeError (Option Parameters) :=
  .ok (policy.expectedModes.map fun modes => [("expected_modes", .modes modes)])

def enableSources : List (Except ComposeError (Option Parameters)) :=
  [settingsSource policy mode, managedJointsSource env policy mode,
    batchJointNamesSource policy mode, batchSizesSource policy mode, expectedModesSource policy]

end Sources

def enableManagerParameters (env : Composition) (policy : EnablePolicy) (mode : String) :
    Except ComposeError Parameters := do
  let resolved ← resolveEnableGroups env policy
  mergedParameters "enable_manager" (enableSources env resolved mode) []

theorem checkPolicy_ok_iff {label : String} {value managedJoints : List String}
    {batches : List (List String)} :
    checkPolicy label value managedJoints batches = .ok () ↔
      value.Nodup ∧ SameElements value managedJoints ∧ Partitions batches value := by
  have hcover : SameElements batches.flatten value ↔ ∀ x, x ∈ batches.flatten ↔ x ∈ value :=
    ⟨fun h x => ⟨h.1 x, h.2 x⟩, fun h => ⟨fun x => (h x).1, fun x => (h x).2⟩⟩
  have hnonempty : [] ∉ batches ↔ ∀ batch ∈ batches, batch ≠ [] :=
    ⟨fun h batch hb he => h (he ▸ hb), fun h he => h [] he rfl⟩
  rw [Partitions.iff_and, ← hcover, ← hnonempty]
  unfold checkPolicy
  by_cases hvalue : value.Nodup
  · by_cases hsame : SameElements value managedJoints
    · by_cases hflat : batches.flatten.Nodup
      · by_cases hbad : [] ∈ batches ∨ ¬ SameElements batches.flatten value
        · simp only [hvalue, hsame, hflat, hbad, not_true_eq_false, if_false, if_true, reduceCtorEq,
            true_and, false_iff]
          tauto
        · simp only [hvalue, hsame, hflat, hbad, not_true_eq_false, if_false, true_and, true_iff]
          tauto
      · simp [hvalue, hsame, hflat]
    · simp [hvalue, hsame]
  · simp [hvalue]

theorem selectKeys_ok_iff {entry : String → Option ParameterValue} {keys : List String} :
    (∃ parameters, selectKeys entry keys = .ok parameters) ↔ ∀ key ∈ keys, (entry key).isSome := by
  induction keys with
  | nil => simp [selectKeys]
  | cons key keys ih =>
    cases hentry : entry key with
    | none => simp [selectKeys, hentry]
    | some value =>
      simp only [selectKeys, hentry, bind_eq_ok_iff, List.forall_mem_cons, Option.isSome_some,
        true_and, ← ih]
      constructor
      · rintro ⟨parameters, rest, hrest, -⟩
        exact ⟨rest, hrest⟩
      · rintro ⟨rest, hrest⟩
        exact ⟨_, rest, hrest, rfl⟩

theorem selectKeys_lookup {entry : String → Option ParameterValue} {keys : List String}
    {parameters : Parameters} (h : selectKeys entry keys = .ok parameters) (key : String) :
    parameters.lookup key = if key ∈ keys then entry key else none := by
  induction keys generalizing parameters with
  | nil =>
    cases h
    simp
  | cons first keys ih =>
    cases hentry : entry first with
    | none => simp [selectKeys, hentry] at h
    | some value =>
      simp only [selectKeys, hentry, bind_eq_ok_iff] at h
      obtain ⟨rest, hrest, h⟩ := h
      cases h
      rw [List.lookup_cons, ih hrest]
      by_cases hkey : key = first
      · subst hkey
        simp [hentry]
      · rw [beq_eq_false_iff_ne.2 hkey]
        simp [hkey]

section Merge

variable {name : String} {sources : List (Except ComposeError (Option Parameters))}
  {result parameters : Parameters}

theorem mergedParameters_cons_ok {source : Except ComposeError (Option Parameters)} :
    mergedParameters name (source :: sources) result = .ok parameters ↔
      (source = .ok none ∧ mergedParameters name sources result = .ok parameters) ∨
      ∃ value, source = .ok (some value) ∧ duplicateKeys result value = [] ∧
        mergedParameters name sources (result ++ value) = .ok parameters := by
  rw [mergedParameters, bind_eq_ok_iff]
  constructor
  · rintro ⟨_ | value, hsource, h⟩
    · exact .inl ⟨hsource, h⟩
    · dsimp only at h
      split_ifs at h with hfree
      exact .inr ⟨value, hsource, hfree, h⟩
  · rintro (⟨hsource, h⟩ | ⟨value, hsource, hfree, h⟩)
    · exact ⟨none, hsource, h⟩
    · exact ⟨some value, hsource, (if_pos hfree).trans h⟩

theorem mergedParameters_keeps
    (h : mergedParameters name sources result = .ok parameters) {key : String}
    {value : ParameterValue} (hkey : result.lookup key = some value) :
    parameters.lookup key = some value := by
  induction sources generalizing result with
  | nil =>
    cases h
    exact hkey
  | cons source sources ih =>
    rcases mergedParameters_cons_ok.1 h with ⟨-, h⟩ | ⟨given, -, -, h⟩
    · exact ih h hkey
    · exact ih h (by rw [List.lookup_append, hkey]; rfl)

theorem mergedParameters_lookup
    (h : mergedParameters name sources result = .ok parameters) {given : Parameters}
    (hgiven : .ok (some given) ∈ sources) {key : String} {value : ParameterValue}
    (hkey : given.lookup key = some value) : parameters.lookup key = some value := by
  induction sources generalizing result with
  | nil => cases hgiven
  | cons source sources ih =>
    rcases mergedParameters_cons_ok.1 h with ⟨rfl, h⟩ | ⟨first, rfl, hfree, h⟩
    · exact ih h (by simpa using hgiven)
    · rcases List.mem_cons.1 hgiven with heq | hrest
      · cases heq
        have hnew : result.lookup key = none := by
          by_contra hne
          rw [duplicateKeys_eq_nil_iff.1 hfree key (Option.isSome_iff_ne_none.2 hne)] at hkey
          cases hkey
        apply mergedParameters_keeps h
        rw [List.lookup_append, hnew, hkey]
        rfl
      · exact ih h hrest

theorem mergedParameters_evaluated
    (h : mergedParameters name sources result = .ok parameters) :
    ∀ source ∈ sources, ∃ value, source = .ok value := by
  induction sources generalizing result with
  | nil => simp
  | cons source sources ih =>
    rw [List.forall_mem_cons]
    rcases mergedParameters_cons_ok.1 h with ⟨rfl, h⟩ | ⟨first, rfl, -, h⟩
    · exact ⟨⟨_, rfl⟩, ih h⟩
    · exact ⟨⟨_, rfl⟩, ih h⟩

end Merge

end RobotDriver.Composer
