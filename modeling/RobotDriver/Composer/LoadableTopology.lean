import RobotDriver.Composer.ParameterSources

/-!
# What the composer emits, the enable manager loads

An accepted policy emits the managed joints and batches that partition them. The enable manager
then never reads past the flat list or meets a name without an axis; it loads the topology
whenever its own bound on the counts and its terminal policy are met, and each axis is in one
batch and expects the mode of the one group that lists its joint.
-/

namespace RobotDriver.Composer

open EnableManager Dictionary

theorem keys_modes (members : List Member) :
    (members.flatMap Member.modes).map Prod.fst = members.flatMap Member.joints := by
  induction members with
  | nil => rfl
  | cons member members ih =>
    rw [List.flatMap_cons, List.map_append, ih, List.flatMap_cons, Member.modes, List.map_map]
    simp [Function.comp_def]

def resolvedWith (env : Composition) (policy : EnablePolicy) (members : List Member) :
    ResolvedPolicy where
  disableTerminalPolicy := policy.disableTerminalPolicy
  readyToSwitchOnDisableTerminalJoints := policy.readyToSwitchOnDisableTerminalJoints
  settings := policy.settings
  runtimeViews := policy.runtimeViews
  managedJoints := env.managedJoints.filter
    fun name => ((members.flatMap Member.modes).lookup name).isSome
  enableBatches := members.flatMap Member.batches
  expectedModes :=
    if policy.modeConfirmation.getD "none" = "startup" then
      some ((env.managedJoints.filter
        fun name => ((members.flatMap Member.modes).lookup name).isSome).filterMap
          fun name => (members.flatMap Member.modes).lookup name)
    else none

theorem expandGroups_nil_ok_iff {env : Composition} {groups : List EnableGroup}
    {next : Expansion} : expandGroups env groups ⟨[], []⟩ = .ok next ↔
      ∃ members, List.Forall₂ (Expands env) groups members ∧
        next = ⟨members.flatMap Member.batches, members.flatMap Member.modes⟩ ∧
        (members.flatMap Member.joints).Nodup := by
  have hnil : ((⟨[], []⟩ : Expansion).modes.map Prod.fst).Nodup := List.nodup_nil
  rw [expandGroups_ok_iff hnil]
  refine exists_congr fun members => and_congr_right fun _ => and_congr_right fun hnext => ?_
  subst hnext
  rw [← keys_modes]
  rfl

theorem resolveEnableGroups_ok_iff {env : Composition} {policy : EnablePolicy}
    {resolved : ResolvedPolicy} : resolveEnableGroups env policy = .ok resolved ↔
      ∃ members, List.Forall₂ (Expands env) policy.enableGroups members ∧
        (members.flatMap Member.joints).Nodup ∧ resolved = resolvedWith env policy members := by
  rw [resolveEnableGroups, bind_eq_ok_iff]
  constructor
  · rintro ⟨expansion, hexpand, h⟩
    obtain ⟨members, hmembers, rfl, hnodup⟩ := expandGroups_nil_ok_iff.1 hexpand
    cases h
    exact ⟨members, hmembers, hnodup, rfl⟩
  · rintro ⟨members, hmembers, hnodup, rfl⟩
    exact ⟨_, expandGroups_nil_ok_iff.2 ⟨members, hmembers, rfl, hnodup⟩, rfl⟩

theorem runtimeView_ok_iff {policy : ResolvedPolicy} {mode : String} {view : RuntimeView} :
    policy.runtimeView mode = .ok view ↔ policy.runtimeViews.lookup mode = some view := by
  unfold ResolvedPolicy.runtimeView
  split
  next hnone => simp [hnone]
  next found hsome => simp [hsome]

section Emitted

variable {env : Composition} {resolved : ResolvedPolicy} {mode : String} {view : RuntimeView}
  {parameters : Parameters}

theorem managedJointsSource_ok (hview : resolved.runtimeView mode = .ok view)
    {given : Option Parameters} (h : managedJointsSource env resolved mode = .ok given) :
    (resolved.viewedJoints view).Nodup ∧
      SameElements (resolved.viewedJoints view) env.managedJoints ∧
      Partitions (resolved.viewedBatches view) (resolved.viewedJoints view) ∧
      given = some [("managed_joints", .names (resolved.viewedJoints view))] := by
  rw [managedJointsSource, hview, bind_eq_ok_iff] at h
  obtain ⟨found, hfound, h⟩ := h
  cases hfound
  obtain ⟨_, hcheck, h⟩ := bind_eq_ok_iff.1 h
  cases h
  obtain ⟨hnodup, hsame, hpartitions⟩ := checkPolicy_ok_iff.1 hcheck
  exact ⟨hnodup, hsame, hpartitions, rfl⟩

theorem batchJointNamesSource_ok (hview : resolved.runtimeView mode = .ok view) :
    batchJointNamesSource resolved mode =
      .ok (some [("enable_batch_joint_names", .names (resolved.viewedBatches view).flatten)]) := by
  rw [batchJointNamesSource, hview]
  rfl

theorem batchSizesSource_ok (hview : resolved.runtimeView mode = .ok view) :
    batchSizesSource resolved mode = .ok (some [("enable_batch_sizes",
      .integers ((resolved.viewedBatches view).map fun batch => (batch.length : ℤ)))]) := by
  rw [batchSizesSource, hview]
  rfl

theorem describes_of_ok (hview : resolved.runtimeView mode = .ok view)
    (h : mergedParameters "enable_manager" (enableSources env resolved mode) [] =
      .ok parameters) :
    Describes parameters (resolved.viewedJoints view) (resolved.viewedBatches view) ∧
      SameElements (resolved.viewedJoints view) env.managedJoints := by
  have hmanaged : managedJointsSource env resolved mode ∈ enableSources env resolved mode := by
    simp [enableSources]
  have hflatmem : batchJointNamesSource resolved mode ∈ enableSources env resolved mode := by
    simp [enableSources]
  have hsizesmem : batchSizesSource resolved mode ∈ enableSources env resolved mode := by
    simp [enableSources]
  obtain ⟨given, hgiven⟩ := mergedParameters_evaluated h _ hmanaged
  obtain ⟨hnodup, hsame, hpartitions, rfl⟩ := managedJointsSource_ok hview hgiven
  rw [hgiven] at hmanaged
  rw [batchJointNamesSource_ok hview] at hflatmem
  rw [batchSizesSource_ok hview] at hsizesmem
  exact ⟨⟨mergedParameters_lookup h hmanaged List.lookup_cons_self,
    mergedParameters_lookup h hflatmem List.lookup_cons_self,
    mergedParameters_lookup h hsizesmem List.lookup_cons_self, hnodup, hpartitions⟩, hsame⟩

theorem expectedModes_of_ok
    (h : mergedParameters "enable_manager" (enableSources env resolved mode) [] =
      .ok parameters) {modes : List ModeOfOperation} (hmodes : resolved.expectedModes = some modes) :
    parameters.lookup "expected_modes" = some (.modes modes) := by
  have hmem : expectedModesSource resolved ∈ enableSources env resolved mode := by
    simp [enableSources]
  rw [expectedModesSource, hmodes] at hmem
  exact mergedParameters_lookup h hmem List.lookup_cons_self

theorem settings_of_ok (hview : resolved.runtimeView mode = .ok view)
    (h : mergedParameters "enable_manager" (enableSources env resolved mode) [] =
      .ok parameters) :
    ∃ settings, selectKeys (resolved.entry view) view.parameterNames = .ok settings ∧
      settingsSource resolved mode = .ok (some settings) := by
  obtain ⟨given, hgiven⟩ := mergedParameters_evaluated h (settingsSource resolved mode)
    (by simp [enableSources])
  rw [settingsSource, hview, bind_eq_ok_iff] at hgiven
  obtain ⟨found, hfound, hgiven⟩ := hgiven
  cases hfound
  obtain ⟨settings, hsettings, hgiven⟩ := bind_eq_ok_iff.1 hgiven
  refine ⟨settings, hsettings, ?_⟩
  rw [settingsSource, hview]
  simp only [bind, Except.bind, hsettings, pure, Except.pure]

def emittedNames : List String :=
  ["managed_joints", "enable_batch_joint_names", "enable_batch_sizes", "expected_modes"]

theorem mergedParameters_single_ok {name key : String} {value : ParameterValue}
    {sources : List (Except ComposeError (Option Parameters))} {result : Parameters} :
    mergedParameters name (.ok (some [(key, value)]) :: sources) result = .ok parameters ↔
      result.lookup key = none ∧
        mergedParameters name sources (result ++ [(key, value)]) = .ok parameters := by
  have hfree : duplicateKeys result [(key, value)] = [] ↔ result.lookup key = none := by
    rw [duplicateKeys_eq_nil_iff]
    constructor
    · intro h
      by_contra hne
      have := h key (Option.isSome_iff_ne_none.2 hne)
      simp at this
    · intro h other hother
      have hne : other ≠ key := by
        rintro rfl
        rw [h] at hother
        cases hother
      rw [List.lookup_cons, beq_eq_false_iff_ne.2 hne]
      rfl
  rw [mergedParameters_cons_ok]
  simp [hfree]

theorem mergedParameters_none_ok {name : String}
    {sources : List (Except ComposeError (Option Parameters))} {result : Parameters} :
    mergedParameters name (.ok none :: sources) result = .ok parameters ↔
      mergedParameters name sources result = .ok parameters := by
  rw [mergedParameters_cons_ok]
  simp

theorem mergedParameters_nil_ok {name : String} {result : Parameters} :
    mergedParameters name [] result = .ok parameters ↔ parameters = result :=
  ⟨fun h => (Except.ok.inj h).symm, fun h => h ▸ rfl⟩

theorem enableSources_merge (hview : resolved.runtimeView mode = .ok view) {settings : Parameters}
    (hsettings : settingsSource resolved mode = .ok (some settings))
    (hmanaged : managedJointsSource env resolved mode =
      .ok (some [("managed_joints", .names (resolved.viewedJoints view))])) :
    mergedParameters "enable_manager" (enableSources env resolved mode) [] = .ok parameters ↔
      settings.lookup "managed_joints" = none ∧
        settings.lookup "enable_batch_joint_names" = none ∧
        settings.lookup "enable_batch_sizes" = none ∧
        (resolved.expectedModes.isSome → settings.lookup "expected_modes" = none) ∧
        parameters = settings ++ [("managed_joints", .names (resolved.viewedJoints view))] ++
          [("enable_batch_joint_names", .names (resolved.viewedBatches view).flatten)] ++
          [("enable_batch_sizes",
            .integers ((resolved.viewedBatches view).map fun batch => (batch.length : ℤ)))] ++
          (resolved.expectedModes.map fun modes => ("expected_modes", .modes modes)).toList := by
  have hfirst (sources : List (Except ComposeError (Option Parameters))) :
      mergedParameters "enable_manager" (.ok (some settings) :: sources) [] = .ok parameters ↔
        mergedParameters "enable_manager" sources settings = .ok parameters := by
    rw [mergedParameters_cons_ok]
    simp [duplicateKeys]
  rw [enableSources, hsettings, hmanaged, batchJointNamesSource_ok hview,
    batchSizesSource_ok hview, expectedModesSource, hfirst, mergedParameters_single_ok,
    mergedParameters_single_ok, mergedParameters_single_ok]
  cases resolved.expectedModes with
  | none =>
    rw [Option.map_none, mergedParameters_none_ok, mergedParameters_nil_ok]
    simp [List.lookup_append, List.lookup_cons]
  | some modes =>
    rw [Option.map_some, mergedParameters_single_ok, mergedParameters_nil_ok]
    simp [List.lookup_append, List.lookup_cons]

theorem enableSources_ok_iff (hview : resolved.runtimeView mode = .ok view) :
    (∃ parameters, mergedParameters "enable_manager" (enableSources env resolved mode) [] =
      .ok parameters) ↔
      (∀ key ∈ view.parameterNames, (resolved.entry view key).isSome ∧ key ∉ emittedNames) ∧
        (resolved.viewedJoints view).Nodup ∧
        SameElements (resolved.viewedJoints view) env.managedJoints ∧
        Partitions (resolved.viewedBatches view) (resolved.viewedJoints view) := by
  constructor
  · rintro ⟨parameters, h⟩
    obtain ⟨hdescribes, hsame⟩ := describes_of_ok hview h
    obtain ⟨settings, hselect, hsettings⟩ := settings_of_ok hview h
    obtain ⟨given, hgiven⟩ := mergedParameters_evaluated h
      (managedJointsSource env resolved mode) (by simp [enableSources])
    obtain ⟨-, -, -, rfl⟩ := managedJointsSource_ok hview hgiven
    obtain ⟨hm, hf, hs, hmodes, -⟩ := (enableSources_merge hview hsettings hgiven).1 h
    refine ⟨fun key hkey => ?_, hdescribes.nodup, hsame, hdescribes.partitions⟩
    have hsome := selectKeys_ok_iff.1 ⟨_, hselect⟩ key hkey
    have hlookup := selectKeys_lookup hselect key
    rw [if_pos hkey] at hlookup
    refine ⟨hsome, fun hemitted => ?_⟩
    rw [← hlookup] at hsome
    simp only [emittedNames, List.mem_cons, List.not_mem_nil, or_false] at hemitted
    rcases hemitted with rfl | rfl | rfl | rfl
    · simp [hm] at hsome
    · simp [hf] at hsome
    · simp [hs] at hsome
    · have hexpected : resolved.expectedModes.isSome := by
        rw [hlookup] at hsome
        simpa [ResolvedPolicy.entry] using hsome
      simp [hmodes hexpected] at hsome
  · rintro ⟨hkeys, hnodup, hsame, hpartitions⟩
    obtain ⟨settings, hselect⟩ := selectKeys_ok_iff.2 fun key hkey => (hkeys key hkey).1
    have hsettings : settingsSource resolved mode = .ok (some settings) := by
      rw [settingsSource, hview]
      simp only [bind, Except.bind, hselect, pure, Except.pure]
    have hmanaged : managedJointsSource env resolved mode =
        .ok (some [("managed_joints", .names (resolved.viewedJoints view))]) := by
      rw [managedJointsSource, hview]
      simp only [bind, Except.bind, checkPolicy_ok_iff.2 ⟨hnodup, hsame, hpartitions⟩, pure,
        Except.pure]
    have hfree {key : String} (hemitted : key ∈ emittedNames) : settings.lookup key = none := by
      rw [selectKeys_lookup hselect, if_neg fun hkey => (hkeys key hkey).2 hemitted]
    exact ⟨_, (enableSources_merge hview hsettings hmanaged).2 ⟨hfree (by simp [emittedNames]),
      hfree (by simp [emittedNames]), hfree (by simp [emittedNames]),
      fun _ => hfree (by simp [emittedNames]), rfl⟩⟩

theorem settings_lookup (hview : resolved.runtimeView mode = .ok view)
    (h : mergedParameters "enable_manager" (enableSources env resolved mode) [] =
      .ok parameters) {key : String} (hkey : key ∉ emittedNames) :
    parameters.lookup key = if key ∈ view.parameterNames then resolved.entry view key else none := by
  obtain ⟨settings, hselect, hsettings⟩ := settings_of_ok hview h
  obtain ⟨given, hgiven⟩ := mergedParameters_evaluated h
    (managedJointsSource env resolved mode) (by simp [enableSources])
  obtain ⟨-, -, -, rfl⟩ := managedJointsSource_ok hview hgiven
  obtain ⟨-, -, -, -, rfl⟩ := (enableSources_merge hview hsettings hgiven).1 h
  simp only [emittedNames, List.mem_cons, List.not_mem_nil, or_false, not_or] at hkey
  obtain ⟨hm, hf, hs, he⟩ := hkey
  have hmodes : (resolved.expectedModes.map fun modes =>
      ("expected_modes", ParameterValue.modes modes)).toList.lookup key = none := by
    cases resolved.expectedModes with
    | none => rfl
    | some modes => simp [List.lookup_cons, beq_eq_false_iff_ne.2 he]
  rw [← selectKeys_lookup hselect]
  simp [List.lookup_append, List.lookup_cons, beq_eq_false_iff_ne.2 hm, beq_eq_false_iff_ne.2 hf,
    beq_eq_false_iff_ne.2 hs, hmodes]

end Emitted

theorem Expands.unique {env : Composition} {group : EnableGroup} {first second : Member}
    (hf : Expands env group first) (hs : Expands env group second) : first = second := by
  obtain ⟨actuatorGroups, hactuator, hjoints⟩ := hf.rendered
  obtain ⟨actuatorGroups', hactuator', hjoints'⟩ := hs.rendered
  cases hactuator.symm.trans hactuator'
  have heq : first.joints = second.joints := Option.some.inj (hjoints.symm.trans hjoints')
  obtain ⟨entries, entry, hentries, hentry, hmode⟩ := hf.known
  obtain ⟨entries', entry', hentries', hentry', hmode'⟩ := hs.known
  cases hentries.symm.trans hentries'
  cases hentry.symm.trans hentry'
  have hcut := hf.cut
  rw [heq, hs.cut] at hcut
  have hbatches := Except.ok.inj hcut
  cases first
  cases second
  simp_all

/-- A group of the policy lists the joint, with this fixed mode. -/
def ModeOf (env : Composition) (policy : EnablePolicy) (joint : String)
    (mode : ModeOfOperation) : Prop :=
  ∃ group ∈ policy.enableGroups, ∃ member, Expands env group member ∧ joint ∈ member.joints ∧
    member.mode = mode

theorem exists_group_iff {env : Composition} {groups : List EnableGroup} {members : List Member}
    (h : List.Forall₂ (Expands env) groups members) {P : Member → Prop} :
    (∃ group ∈ groups, ∃ member, Expands env group member ∧ P member) ↔
      ∃ member ∈ members, P member := by
  induction h with
  | nil => simp
  | @cons group member groups members hmember _ ih =>
    rw [List.exists_mem_cons_iff, List.exists_mem_cons_iff, ih]
    refine or_congr ⟨?_, fun hp => ⟨member, hmember, hp⟩⟩ Iff.rfl
    rintro ⟨other, hother, hp⟩
    rwa [hmember.unique hother]

theorem modeOf_iff {env : Composition} {policy : EnablePolicy} {members : List Member}
    (h : List.Forall₂ (Expands env) policy.enableGroups members) {joint : String}
    {mode : ModeOfOperation} :
    ModeOf env policy joint mode ↔ (joint, mode) ∈ members.flatMap Member.modes := by
  rw [ModeOf, exists_group_iff h (P := fun member => joint ∈ member.joints ∧ member.mode = mode),
    List.mem_flatMap]
  refine exists_congr fun member => and_congr_right fun _ => ?_
  simp [Member.modes]

theorem modeOf_iff_lookup {env : Composition} {policy : EnablePolicy} {members : List Member}
    (h : List.Forall₂ (Expands env) policy.enableGroups members)
    (hn : (members.flatMap Member.joints).Nodup) {joint : String} {mode : ModeOfOperation} :
    ModeOf env policy joint mode ↔
      (members.flatMap Member.modes).lookup joint = some mode := by
  rw [modeOf_iff h, lookup_eq_some_iff_mem]
  rwa [keys_modes]

theorem getElem?_filterMap_of_isSome {α β : Type*} {xs : List α} {f : α → Option β}
    (h : ∀ x ∈ xs, (f x).isSome) (i : ℕ) : (xs.filterMap f)[i]? = xs[i]?.bind f := by
  induction xs generalizing i with
  | nil => simp
  | cons x xs ih =>
    rw [List.forall_mem_cons] at h
    obtain ⟨y, hy⟩ := Option.isSome_iff_exists.1 h.1
    rw [List.filterMap_cons, hy]
    cases i with
    | zero => simp [hy]
    | succ i => simpa using ih h.2 i

/-- One mode for each managed joint, that of the group which lists the joint. -/
def ExpectsOwnModes (env : Composition) (policy : EnablePolicy) (managedJoints : List String)
    (modes : List ModeOfOperation) : Prop :=
  modes.length = managedJoints.length ∧
    ∀ (axis : ℕ) (joint : String), managedJoints[axis]? = some joint →
      ∃ expected, modes[axis]? = some expected ∧
        ∀ mode, ModeOf env policy joint mode ↔ mode = expected

theorem resolvedWith_expectsOwnModes {env : Composition} {policy : EnablePolicy}
    {members : List Member} (h : List.Forall₂ (Expands env) policy.enableGroups members)
    (hn : (members.flatMap Member.joints).Nodup)
    (hstartup : policy.modeConfirmation = some "startup") :
    ∃ modes, (resolvedWith env policy members).expectedModes = some modes ∧
      ExpectsOwnModes env policy (resolvedWith env policy members).managedJoints modes := by
  have hsome : ∀ name ∈ (resolvedWith env policy members).managedJoints,
      ((members.flatMap Member.modes).lookup name).isSome := by
    intro name hname
    exact (List.mem_filter.1 hname).2
  refine ⟨_, by simp only [resolvedWith, hstartup]; rfl, ?_, ?_⟩
  · exact List.length_filterMap_eq_countP.trans (List.countP_eq_length.2 hsome)
  · intro axis joint haxis
    have hjoint := hsome joint (List.mem_of_getElem? haxis)
    obtain ⟨expected, hexpected⟩ := Option.isSome_iff_exists.1 hjoint
    refine ⟨expected, ?_, fun mode => ?_⟩
    · have hget := getElem?_filterMap_of_isSome hsome axis
      rw [haxis] at hget
      exact hget.trans hexpected
    · rw [modeOf_iff_lookup h hn, hexpected, Option.some.injEq, eq_comm]

theorem Expands.batches_spec {env : Composition} {group : EnableGroup} {member : Member}
    (h : Expands env group member) (hpos : 0 < group.batchSize) :
    member.batches.flatten = member.joints ∧ ∀ batch ∈ member.batches, batch ≠ [] := by
  have hcut := h.cut
  rw [groupBatches, if_neg hpos.ne', if_pos hpos, Except.ok.injEq] at hcut
  have hsize : 0 < group.batchSize.toNat := by omega
  rw [← hcut]
  exact ⟨flatten_chunks hsize _, chunks_ne_nil hsize _⟩

theorem batches_spec {env : Composition} {groups : List EnableGroup} {members : List Member}
    (h : List.Forall₂ (Expands env) groups members) (hpos : ∀ group ∈ groups, 0 < group.batchSize) :
    (members.flatMap Member.batches).flatten = members.flatMap Member.joints ∧
      ∀ batch ∈ members.flatMap Member.batches, batch ≠ [] := by
  induction h with
  | nil => simp
  | @cons group member groups members hmember _ ih =>
    rw [List.forall_mem_cons] at hpos
    obtain ⟨hflat, hne⟩ := hmember.batches_spec hpos.1
    obtain ⟨ihflat, ihne⟩ := ih hpos.2
    rw [List.flatMap_cons, List.flatten_append, hflat, ihflat, List.flatMap_cons]
    refine ⟨rfl, fun batch hb => ?_⟩
    rcases List.mem_append.1 hb with hb | hb
    · exact hne batch hb
    · exact ihne batch hb

/-- The groups of the policy partition the managed joints. -/
def GroupsPartition (env : Composition) (policy : EnablePolicy) : Prop :=
  env.managedJoints.Nodup ∧ ∃ members, List.Forall₂ (Expands env) policy.enableGroups members ∧
    (members.flatMap Member.joints).Nodup ∧
    SameElements (members.flatMap Member.joints) env.managedJoints

theorem resolvedWith_managedJoints (env : Composition) (policy : EnablePolicy)
    (members : List Member) : (resolvedWith env policy members).managedJoints =
      env.managedJoints.filter (· ∈ members.flatMap Member.joints) := by
  apply List.filter_congr
  intro name _
  rw [Bool.eq_iff_iff, decide_eq_true_iff, ← keys_modes, List.lookup_isSome_iff, List.mem_map]
  exact exists_congr fun entry => and_congr_right fun _ => by rw [beq_iff_eq, eq_comm]

theorem managedPartition_iff {env : Composition} {policy : EnablePolicy} {members : List Member}
    (hn : (members.flatMap Member.joints).Nodup)
    (hflat : (members.flatMap Member.batches).flatten = members.flatMap Member.joints)
    (hne : ∀ batch ∈ members.flatMap Member.batches, batch ≠ []) :
    ((resolvedWith env policy members).managedJoints.Nodup ∧
      SameElements (resolvedWith env policy members).managedJoints env.managedJoints ∧
      Partitions (members.flatMap Member.batches) (resolvedWith env policy members).managedJoints) ↔
    (env.managedJoints.Nodup ∧ SameElements (members.flatMap Member.joints) env.managedJoints) := by
  rw [resolvedWith_managedJoints, Partitions.iff_and, hflat]
  constructor
  · rintro ⟨hnodup, hsame, -, -, hcovers⟩
    have hall : ∀ name ∈ env.managedJoints, name ∈ members.flatMap Member.joints := fun name hname =>
      (hcovers name).2 (hsame.2 name hname)
    rw [List.filter_eq_self.2 (by simpa using hall)] at hnodup hcovers
    exact ⟨hnodup, fun name hname => (hcovers name).1 hname, hall⟩
  · rintro ⟨hnodup, hsame⟩
    rw [List.filter_eq_self.2 (by simpa using hsame.2)]
    exact ⟨hnodup, ⟨fun _ h => h, fun _ h => h⟩, hn, hne, fun name => ⟨hsame.1 name, hsame.2 name⟩⟩

def policyKeys : List String :=
  ["parameter_names", "enable_batches", "disable_terminal_policy",
    "ready_to_switch_on_disable_terminal_joints", "runtime_views"]

/-- A name a view may select: an entry of the policy that no other source emits. -/
def Selectable (policy : EnablePolicy) (key : String) : Prop :=
  key ∈ policyKeys ∨ (policy.settings.entry key).isSome

theorem entry_isSome_iff {env : Composition} {policy : EnablePolicy} {members : List Member}
    {view : RuntimeView} {key : String} :
    (((resolvedWith env policy members).entry view key).isSome ∧ key ∉ emittedNames) ↔
      Selectable policy key := by
  unfold ResolvedPolicy.entry Selectable
  split
  all_goals simp_all [policyKeys, emittedNames, PolicySettings.entry, resolvedWith]
  intro h
  constructor
  all_goals
    rintro rfl
    simp at h

theorem enableManagerParameters_ok_iff {env : Composition} {policy : EnablePolicy} {mode : String}
    {view : RuntimeView} (hview : policy.runtimeViews.lookup mode = some view)
    (hjoints : view.managedJoints = none) (hbatches : view.enableBatches = none)
    (hpos : ∀ group ∈ policy.enableGroups, 0 < group.batchSize) :
    (∃ parameters, enableManagerParameters env policy mode = .ok parameters) ↔
      (∀ key ∈ view.parameterNames, Selectable policy key) ∧ GroupsPartition env policy := by
  have hviewed (members : List Member) :
      (resolvedWith env policy members).runtimeView mode = .ok view := runtimeView_ok_iff.2 hview
  have hmerge (members : List Member) (hmembers : List.Forall₂ (Expands env) policy.enableGroups
      members) (hn : (members.flatMap Member.joints).Nodup) :
      (∃ parameters, mergedParameters "enable_manager"
        (enableSources env (resolvedWith env policy members) mode) [] = .ok parameters) ↔
      (∀ key ∈ view.parameterNames, Selectable policy key) ∧ env.managedJoints.Nodup ∧
        SameElements (members.flatMap Member.joints) env.managedJoints := by
    obtain ⟨hflat, hne⟩ := batches_spec hmembers hpos
    rw [enableSources_ok_iff (hviewed members),
      ← @managedPartition_iff env policy members hn hflat hne]
    simp only [entry_isSome_iff, ResolvedPolicy.viewedJoints, ResolvedPolicy.viewedBatches, hjoints,
      hbatches, Option.getD_none]
    rfl
  simp only [enableManagerParameters, bind_eq_ok_iff, resolveEnableGroups_ok_iff]
  constructor
  · rintro ⟨parameters, _, ⟨members, hmembers, hn, rfl⟩, h⟩
    obtain ⟨hkeys, hnodup, hsame⟩ := (hmerge members hmembers hn).1 ⟨parameters, h⟩
    exact ⟨hkeys, hnodup, members, hmembers, hn, hsame⟩
  · rintro ⟨hkeys, hnodup, members, hmembers, hn, hsame⟩
    obtain ⟨parameters, h⟩ := (hmerge members hmembers hn).2 ⟨hkeys, hnodup, hsame⟩
    exact ⟨parameters, _, ⟨members, hmembers, hn, rfl⟩, h⟩

/-- The view of the mode takes the managed joints and the batches from the groups. -/
def GroupedView (policy : EnablePolicy) (mode : String) : Prop :=
  ∃ view, policy.runtimeViews.lookup mode = some view ∧ view.managedJoints = none ∧
    view.enableBatches = none

/-- The view emits the terminal policy `switch_on_disabled` and no joint exceptions. -/
def SwitchesOnDisabled (policy : EnablePolicy) (mode : String) : Prop :=
  policy.disableTerminalPolicy = "switch_on_disabled" ∧
    ∃ view, policy.runtimeViews.lookup mode = some view ∧
      "disable_terminal_policy" ∈ view.parameterNames ∧
      "ready_to_switch_on_disable_terminal_joints" ∉ view.parameterNames

theorem accepted_cases {env : Composition} {policy : EnablePolicy} {mode : String}
    {parameters : Parameters} (h : enableManagerParameters env policy mode = .ok parameters) :
    ∃ members view, List.Forall₂ (Expands env) policy.enableGroups members ∧
      (members.flatMap Member.joints).Nodup ∧ policy.runtimeViews.lookup mode = some view ∧
      mergedParameters "enable_manager"
        (enableSources env (resolvedWith env policy members) mode) [] = .ok parameters := by
  rw [enableManagerParameters, bind_eq_ok_iff] at h
  obtain ⟨_, hresolved, h⟩ := h
  obtain ⟨members, hmembers, hn, rfl⟩ := resolveEnableGroups_ok_iff.1 hresolved
  obtain ⟨given, hgiven⟩ := mergedParameters_evaluated h
    (settingsSource (resolvedWith env policy members) mode) (by simp [enableSources])
  rw [settingsSource, bind_eq_ok_iff] at hgiven
  obtain ⟨view, hview, -⟩ := hgiven
  exact ⟨members, view, hmembers, hn, runtimeView_ok_iff.1 hview, h⟩

theorem loads_of_accepted {env : Composition} {policy : EnablePolicy} {members : List Member}
    {mode : String} {view : RuntimeView} {parameters : Parameters}
    (hview : policy.runtimeViews.lookup mode = some view)
    (h : mergedParameters "enable_manager"
      (enableSources env (resolvedWith env policy members) mode) [] = .ok parameters)
    (hterminal : SwitchesOnDisabled policy mode)
    (hcount : Counted ((resolvedWith env policy members).viewedJoints view).length) :
    ∃ topology, configureTopology parameters = .ok topology := by
  have hviewed : (resolvedWith env policy members).runtimeView mode = .ok view :=
    runtimeView_ok_iff.2 hview
  obtain ⟨hpolicy, found, hfound, hselected, hexceptions⟩ := hterminal
  cases hview.symm.trans hfound
  apply (describes_of_ok hviewed h).1.loads hcount
  · rw [settings_lookup hviewed h (by decide)]
    split_ifs
    · rfl
    · rfl
  · rw [settings_lookup hviewed h (by decide), if_pos hselected, ← hpolicy]
    rfl
  · rw [settings_lookup hviewed h (by decide), if_neg hexceptions]

/-- Accepted policies load, up to the bound of the controller on the counts and its terminal
policy, and a policy whose groups do not partition the managed joints is rejected. -/
theorem composed_topology_loads (env : Composition) (policy : EnablePolicy) (mode : String) :
    (∀ parameters, enableManagerParameters env policy mode = .ok parameters →
      FailsOnly Declined (configureTopology parameters) ∧
      ∃ managedJoints batches, Describes parameters managedJoints batches ∧
        SameElements managedJoints env.managedJoints ∧
        (SwitchesOnDisabled policy mode → Counted managedJoints.length →
          ∃ topology, configureTopology parameters = .ok topology) ∧
        (∀ topology, configureTopology parameters = .ok topology →
          topology.Sound managedJoints batches ∧
          ∀ axis < topology.jointNames.length,
            ∃! i : ℕ, ∃ batch, topology.enableBatches[i]? = some batch ∧ axis ∈ batch) ∧
        (policy.modeConfirmation = some "startup" → GroupedView policy mode →
          ∃ modes, parameters.lookup "expected_modes" = some (.modes modes) ∧
            ExpectsOwnModes env policy managedJoints modes)) ∧
    ((∀ group ∈ policy.enableGroups, 0 < group.batchSize) → GroupedView policy mode →
      ¬ GroupsPartition env policy →
      ∃ failure, enableManagerParameters env policy mode = .error failure) := by
  refine ⟨fun parameters h => ?_, fun hpos hgrouped hnot => ?_⟩
  · obtain ⟨members, view, hmembers, hn, hview, hmerged⟩ := accepted_cases h
    obtain ⟨hdescribes, hsame⟩ := describes_of_ok (runtimeView_ok_iff.2 hview) hmerged
    refine ⟨hdescribes.configureTopology_failsOnly, _, _, hdescribes, hsame,
      loads_of_accepted hview hmerged, fun topology ht => ?_, fun hstartup hgrouped => ?_⟩
    · have hsound := (hdescribes.configureTopology_ok ht).2
      exact ⟨hsound, fun axis haxis => hsound.axes.existsUnique (List.mem_range.2 haxis)⟩
    · obtain ⟨found, hfound, hjoints, -⟩ := hgrouped
      cases hview.symm.trans hfound
      obtain ⟨modes, hmodes, hown⟩ := resolvedWith_expectsOwnModes hmembers hn hstartup
      refine ⟨modes, expectedModes_of_ok hmerged hmodes, ?_⟩
      rw [ResolvedPolicy.viewedJoints, hjoints, Option.getD_none]
      exact hown
  · obtain ⟨view, hview, hjoints, hbatches⟩ := hgrouped
    cases hresult : enableManagerParameters env policy mode with
    | error failure => exact ⟨failure, rfl⟩
    | ok parameters =>
      have haccepted := (enableManagerParameters_ok_iff hview hjoints hbatches hpos).1
        ⟨parameters, hresult⟩
      exact absurd haccepted.2 hnot

/-- One rendered module whose CSP group holds the joints. -/
def arms (joints : List String) : Composition where
  modules module := if module = "arms" then some [⟨"csp", .mode 8⟩] else none
  renderedModules module := if module = "arms" then
    some fun group => if group = "csp" then some joints else none else none
  managedJoints := joints

def armPolicy : EnablePolicy where
  disableTerminalPolicy := "switch_on_disabled"
  readyToSwitchOnDisableTerminalJoints := []
  settings := ⟨4, 4, 4, 1 / 5, 4, 90000, none⟩
  enableGroups := [⟨"arms", "csp", 2⟩]
  modeConfirmation := some "startup"
  runtimeViews := [("normal", ⟨["disable_terminal_policy", "batch_timeout"], none, none⟩)]

def armParameters : Parameters :=
  [("disable_terminal_policy", .text "switch_on_disabled"), ("batch_timeout", .number 4),
    ("managed_joints", .names ["left_joint1", "left_joint2", "left_joint3"]),
    ("enable_batch_joint_names", .names ["left_joint1", "left_joint2", "left_joint3"]),
    ("enable_batch_sizes", .integers [2, 1]),
    ("expected_modes", .modes [.mode 8, .mode 8, .mode 8])]

theorem composed_topology_loads_arms :
    FailsOnly Declined (configureTopology armParameters) ∧
      ∃ topology, configureTopology armParameters = .ok topology ∧
        topology.enableBatches = [[0, 1], [2]] := by
  have haccepted : enableManagerParameters (arms ["left_joint1", "left_joint2", "left_joint3"])
      armPolicy "normal" = .ok armParameters := by decide +kernel
  obtain ⟨hdeclined, managedJoints, batches, hdescribes, -, hloads, hsound, -⟩ :=
    (composed_topology_loads (arms ["left_joint1", "left_joint2", "left_joint3"]) armPolicy
      "normal").1 armParameters haccepted
  have hmanaged := hdescribes.managed
  cases hmanaged
  obtain ⟨topology, ht⟩ := hloads ⟨rfl, _, rfl, by decide, by decide⟩ ⟨by decide, by decide⟩
  refine ⟨hdeclined, topology, ht, ?_⟩
  have hrun : (configureTopology armParameters).map Topology.enableBatches = .ok [[0, 1], [2]] := by
    decide +kernel
  rw [ht] at hrun
  exact Except.ok.inj hrun

def numberedJoints (count : ℕ) : List String :=
  (List.range count).map fun n => String.ofList (List.replicate n 'j')

theorem numberedJoints_nodup (count : ℕ) : (numberedJoints count).Nodup := by
  refine List.Nodup.map (fun n m h => ?_) List.nodup_range
  have hlist : List.replicate n 'j' = List.replicate m 'j' := String.ofList_injective h
  simpa using congrArg List.length hlist

theorem arms_expands (joints : List String) (hne : joints ≠ []) :
    Expands (arms joints) ⟨"arms", "csp", 2⟩ ⟨.mode 8, joints, chunks 2 joints⟩ :=
  ⟨⟨_, rfl, rfl⟩, ⟨_, _, rfl, rfl, rfl⟩, hne, rfl⟩

/-- An accepted policy of more joints than the controller indexes. -/
theorem long_topology_refused :
    ∃ parameters, enableManagerParameters (arms (numberedJoints 128)) armPolicy "normal" =
      .ok parameters ∧ ∀ topology, configureTopology parameters ≠ .ok topology := by
  have hne : numberedJoints 128 ≠ [] := by
    apply List.ne_nil_of_length_pos
    simp [numberedJoints]
  have hpartition : GroupsPartition (arms (numberedJoints 128)) armPolicy := by
    refine ⟨numberedJoints_nodup 128, _, .cons (arms_expands _ hne) .nil, ?_, ?_⟩
    · simpa using numberedJoints_nodup 128
    · simpa using ⟨fun _ h => h, fun _ h => h⟩
  obtain ⟨parameters, h⟩ := (@enableManagerParameters_ok_iff (arms (numberedJoints 128)) armPolicy
    "normal" _ rfl rfl rfl (by decide)).2
    ⟨by simp [Selectable, policyKeys, PolicySettings.entry], hpartition⟩
  refine ⟨parameters, h, fun topology ht => ?_⟩
  obtain ⟨members, view, -, -, hview, hmerged⟩ := accepted_cases h
  obtain ⟨hdescribes, hsame⟩ := describes_of_ok (runtimeView_ok_iff.2 hview) hmerged
  have hcount := (hdescribes.configureTopology_ok ht).1
  have hperm := (List.perm_ext_iff_of_nodup hdescribes.nodup (numberedJoints_nodup 128)).2
    fun name => ⟨hsame.1 name, hsame.2 name⟩
  rw [hperm.length_eq] at hcount
  simp [numberedJoints, Counted, maximumIndexedCount] at hcount

end RobotDriver.Composer
