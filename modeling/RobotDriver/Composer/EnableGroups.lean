import RobotDriver.EnableManager.Topology

/-!
# Expanding the enable groups of a policy

The composer expands each enable group of a policy, a mode group of a rendered module, into the
joints the module rendered for it, cuts them into batches, and remembers the fixed mode of each
joint. A joint belongs to one group.
-/

namespace RobotDriver.Composer

open EnableManager

inductive ComposeError where
  | valueError (text : String)
  | keyError (key : String)
deriving DecidableEq

structure ModeGroup where
  name : String
  modeOfOperation : ModeOfOperation
deriving DecidableEq

/-- What the composer knows when it expands a policy: the mode groups of the manifest's modules,
the actuator groups of the rendered modules, and the managed joints in hardware order. -/
structure Composition where
  modules : String → Option (List ModeGroup)
  renderedModules : String → Option (String → Option (List String))
  managedJoints : List String

structure EnableGroup where
  module : String
  modeGroup : String
  batchSize : ℤ
deriving DecidableEq

structure RuntimeView where
  parameterNames : List String
  managedJoints : Option (List String)
  enableBatches : Option (List (List String))

structure PolicySettings where
  batchTimeout : ℚ
  disableStageTimeout : ℚ
  faultResetTimeout : ℚ
  interBatchDelay : ℚ
  controllerSwitchTimeout : ℚ
  serviceResultTimeoutMs : ℚ
  readyHoldTime : Option ℚ

structure EnablePolicy where
  disableTerminalPolicy : String
  readyToSwitchOnDisableTerminalJoints : List String
  settings : PolicySettings
  enableGroups : List EnableGroup
  modeConfirmation : Option String
  runtimeViews : List (String × RuntimeView)

structure ResolvedPolicy where
  disableTerminalPolicy : String
  readyToSwitchOnDisableTerminalJoints : List String
  settings : PolicySettings
  runtimeViews : List (String × RuntimeView)
  managedJoints : List String
  enableBatches : List (List String)
  expectedModes : Option (List ModeOfOperation)

structure Expansion where
  batches : List (List String)
  modes : List (String × ModeOfOperation)

/-- The dictionary of the mode groups by name: of two entries of one name the last is kept. -/
def modeGroupNamed (entries : List ModeGroup) (name : String) : Option ModeGroup :=
  entries.reverse.find? fun entry => entry.name = name

/-- A range of step zero is an error and a range of negative step is empty. -/
def groupBatches (joints : List String) (size : ℤ) : Except ComposeError (List (List String)) :=
  if size = 0 then .error (.valueError "range() arg 3 must not be zero")
  else if 0 < size then .ok (chunks size.toNat joints)
  else .ok []

def addModes (mode : ModeOfOperation) :
    List String → List (String × ModeOfOperation) →
      Except ComposeError (List (String × ModeOfOperation))
  | [], modes => .ok modes
  | joint :: joints, modes =>
    if (modes.lookup joint).isSome then
      .error (.valueError ("Joint appears in two enable groups: " ++ joint))
    else addModes mode joints (modes ++ [(joint, mode)])

section Resolve

variable (env : Composition)

def groupEntry (group : EnableGroup) : Except ComposeError ModeGroup :=
  match env.modules group.module with
  | none => .error (.keyError group.module)
  | some entries =>
    match modeGroupNamed entries group.modeGroup with
    | none => .error (.valueError
        ("Unknown enable mode group: " ++ group.module ++ "." ++ group.modeGroup))
    | some entry => .ok entry

def groupJoints (actuatorGroups : String → Option (List String)) (group : EnableGroup) :
    Except ComposeError (List String) :=
  match actuatorGroups group.modeGroup with
  | none => .error (.keyError group.modeGroup)
  | some joints =>
    if joints = [] then .error (.valueError
      ("Empty enable group: " ++ group.module ++ "." ++ group.modeGroup))
    else .ok joints

def expandGroup (expansion : Expansion) (group : EnableGroup) : Except ComposeError Expansion :=
  match env.renderedModules group.module with
  | none => .error (.valueError
      ("Enable group references an unselected module: " ++ group.module))
  | some actuatorGroups => do
    let entry ← groupEntry env group
    let joints ← groupJoints actuatorGroups group
    let batches ← groupBatches joints group.batchSize
    let modes ← addModes entry.modeOfOperation joints expansion.modes
    return ⟨expansion.batches ++ batches, modes⟩

def expandGroups : List EnableGroup → Expansion → Except ComposeError Expansion
  | [], expansion => .ok expansion
  | group :: groups, expansion => do
    let next ← expandGroup env expansion group
    expandGroups groups next

/-- Managed joints follow the hardware order, batches the policy order. -/
def resolveEnableGroups (policy : EnablePolicy) : Except ComposeError ResolvedPolicy := do
  let expansion ← expandGroups env policy.enableGroups ⟨[], []⟩
  let managedJoints := env.managedJoints.filter fun name => (expansion.modes.lookup name).isSome
  return {
    disableTerminalPolicy := policy.disableTerminalPolicy
    readyToSwitchOnDisableTerminalJoints := policy.readyToSwitchOnDisableTerminalJoints
    settings := policy.settings
    runtimeViews := policy.runtimeViews
    managedJoints
    enableBatches := expansion.batches
    expectedModes :=
      if policy.modeConfirmation.getD "none" = "startup" then
        some (managedJoints.filterMap fun name => expansion.modes.lookup name)
      else none }

end Resolve

/-- What one group stands for: the fixed mode of its joints, the joints, and their batches. -/
structure Member where
  mode : ModeOfOperation
  joints : List String
  batches : List (List String)

def Member.modes (member : Member) : List (String × ModeOfOperation) :=
  member.joints.map fun joint => (joint, member.mode)

structure Expands (env : Composition) (group : EnableGroup) (member : Member) : Prop where
  rendered : ∃ actuatorGroups, env.renderedModules group.module = some actuatorGroups ∧
    actuatorGroups group.modeGroup = some member.joints
  known : ∃ entries entry, env.modules group.module = some entries ∧
    modeGroupNamed entries group.modeGroup = some entry ∧ entry.modeOfOperation = member.mode
  nonempty : member.joints ≠ []
  cut : groupBatches member.joints group.batchSize = .ok member.batches

theorem lookup_eq_some_iff_mem {modes : List (String × ModeOfOperation)}
    (hn : (modes.map Prod.fst).Nodup) {joint : String} {mode : ModeOfOperation} :
    modes.lookup joint = some mode ↔ (joint, mode) ∈ modes := by
  induction modes with
  | nil => simp
  | cons entry modes ih =>
    obtain ⟨name, value⟩ := entry
    rw [List.map_cons, List.nodup_cons] at hn
    rw [List.lookup_cons, List.mem_cons, Prod.mk.injEq]
    by_cases hname : joint = name
    · subst hname
      have hout : (joint, mode) ∉ modes := fun hmem =>
        hn.1 (List.mem_map.2 ⟨(joint, mode), hmem, rfl⟩)
      simp [hout, eq_comm]
    · rw [beq_eq_false_iff_ne.2 hname]
      simp [hname, ih hn.2]

theorem addModes_ok_iff {mode : ModeOfOperation} {joints : List String}
    {modes next : List (String × ModeOfOperation)} (hn : (modes.map Prod.fst).Nodup) :
    addModes mode joints modes = .ok next ↔
      next = modes ++ joints.map (fun joint => (joint, mode)) ∧ (next.map Prod.fst).Nodup := by
  induction joints generalizing modes with
  | nil =>
    simp only [addModes, Except.ok.injEq, List.map_nil, List.append_nil]
    constructor
    · rintro rfl
      exact ⟨rfl, hn⟩
    · rintro ⟨rfl, -⟩
      rfl
  | cons joint joints ih =>
    rw [addModes]
    split_ifs with hused
    · simp only [false_iff, not_and]
      rintro rfl hnodup
      rw [List.lookup_isSome_iff] at hused
      obtain ⟨entry, hentry, hname⟩ := hused
      simp only [List.map_append, List.map_cons, List.nodup_append] at hnodup
      exact hnodup.2.2 entry.1 (List.mem_map_of_mem hentry) joint (by simp)
        (beq_iff_eq.1 hname).symm
    · have hfresh : joint ∉ modes.map Prod.fst := by
        intro hmem
        obtain ⟨entry, hentry, rfl⟩ := List.mem_map.1 hmem
        exact hused (List.lookup_isSome_iff.2 ⟨entry, hentry, by simp⟩)
      have hnext : ((modes ++ [(joint, mode)]).map Prod.fst).Nodup := by
        rw [List.map_append, List.nodup_append]
        refine ⟨hn, by simp, ?_⟩
        simp only [List.map_cons, List.map_nil, List.mem_singleton]
        rintro a ha _ rfl rfl
        exact hfresh ha
      rw [ih hnext, List.append_assoc]
      rfl

theorem groupEntry_ok_iff {env : Composition} {group : EnableGroup} {entry : ModeGroup} :
    groupEntry env group = .ok entry ↔ ∃ entries, env.modules group.module = some entries ∧
      modeGroupNamed entries group.modeGroup = some entry := by
  unfold groupEntry
  split
  next hnone => simp [hnone]
  next entries hsome =>
    split
    next hnone => simp [hsome, hnone]
    next found hfound => simp [hsome, hfound]

theorem groupJoints_ok_iff {actuatorGroups : String → Option (List String)} {group : EnableGroup}
    {joints : List String} : groupJoints actuatorGroups group = .ok joints ↔
      actuatorGroups group.modeGroup = some joints ∧ joints ≠ [] := by
  unfold groupJoints
  split
  next hnone => simp [hnone]
  next found hsome =>
    split_ifs with hempty
    · simp only [hsome, Option.some.injEq, false_iff, not_and, not_not]
      rintro rfl
      exact hempty
    · simp only [Except.ok.injEq, hsome, Option.some.injEq, iff_self_and]
      rintro rfl
      exact hempty

theorem expandGroup_ok_iff {env : Composition} {expansion next : Expansion} {group : EnableGroup}
    (hn : (expansion.modes.map Prod.fst).Nodup) :
    expandGroup env expansion group = .ok next ↔ ∃ member, Expands env group member ∧
      next = ⟨expansion.batches ++ member.batches, expansion.modes ++ member.modes⟩ ∧
      (next.modes.map Prod.fst).Nodup := by
  unfold expandGroup
  split
  next hnone =>
    simp only [reduceCtorEq, false_iff, not_exists, not_and]
    intro member hmember
    obtain ⟨actuatorGroups, hsome, -⟩ := hmember.rendered
    rw [hnone] at hsome
    cases hsome
  next actuatorGroups hrendered =>
    simp only [bind_eq_ok_iff, groupEntry_ok_iff, groupJoints_ok_iff]
    constructor
    · rintro ⟨entry, ⟨entries, hentries, hentry⟩, joints, ⟨hjoints, hne⟩, batches, hbatches, modes,
        hmodes, hnext⟩
      rw [addModes_ok_iff hn] at hmodes
      cases hnext
      exact ⟨⟨entry.modeOfOperation, joints, batches⟩, ⟨⟨_, hrendered, hjoints⟩,
        ⟨entries, entry, hentries, hentry, rfl⟩, hne, hbatches⟩, by rw [hmodes.1]; rfl, hmodes.2⟩
    · rintro ⟨⟨mode, joints, batches⟩, hmember, rfl, hnodup⟩
      obtain ⟨actuatorGroups', hsome, hjoints⟩ := hmember.rendered
      obtain ⟨entries, entry, hentries, hentry, rfl⟩ := hmember.known
      cases hrendered.symm.trans hsome
      exact ⟨entry, ⟨entries, hentries, hentry⟩, joints, ⟨hjoints, hmember.nonempty⟩, batches,
        hmember.cut, _, (addModes_ok_iff hn).2 ⟨rfl, hnodup⟩, rfl⟩

theorem expandGroups_ok_iff {env : Composition} {groups : List EnableGroup}
    {expansion next : Expansion} (hn : (expansion.modes.map Prod.fst).Nodup) :
    expandGroups env groups expansion = .ok next ↔
      ∃ members, List.Forall₂ (Expands env) groups members ∧
        next = ⟨expansion.batches ++ members.flatMap Member.batches,
          expansion.modes ++ members.flatMap Member.modes⟩ ∧
        (next.modes.map Prod.fst).Nodup := by
  induction groups generalizing expansion with
  | nil =>
    simp only [expandGroups, Except.ok.injEq, List.forall₂_nil_left_iff, exists_eq_left,
      List.flatMap_nil, List.append_nil]
    constructor
    · rintro rfl
      exact ⟨rfl, hn⟩
    · rintro ⟨rfl, -⟩
      rfl
  | cons group groups ih =>
    rw [expandGroups, bind_eq_ok_iff]
    constructor
    · rintro ⟨middle, hfirst, hrest⟩
      obtain ⟨member, hmember, rfl, hmiddle⟩ := (expandGroup_ok_iff hn).1 hfirst
      obtain ⟨members, hmembers, rfl, hnext⟩ := (ih hmiddle).1 hrest
      refine ⟨member :: members, .cons hmember hmembers, ?_, hnext⟩
      simp only [List.flatMap_cons, List.append_assoc]
    · rintro ⟨_, hmembers, rfl, hnext⟩
      cases hmembers with
      | cons hmember hmembers =>
        rename_i member members
        rw [List.flatMap_cons, List.flatMap_cons, ← List.append_assoc, ← List.append_assoc] at *
        have hmiddle : ((expansion.modes ++ member.modes).map Prod.fst).Nodup := by
          rw [List.map_append] at hnext
          exact (List.nodup_append.1 hnext).1
        exact ⟨_, (expandGroup_ok_iff hn).2 ⟨member, hmember, rfl, hmiddle⟩,
          (ih hmiddle).2 ⟨members, hmembers, rfl, hnext⟩⟩

end RobotDriver.Composer
