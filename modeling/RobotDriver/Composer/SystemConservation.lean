import RobotDriver.Composer.MergedRows

/-!
# Merging systems conserves what they have

`mergeSystems` raises exactly for rows that cannot be merged. Otherwise each system has what its
modules have, each part once, and the modules are what they were.
-/

namespace RobotDriver.Composer.Merge

open Dictionary

variable {J : Type}

section Mergeable

variable {name : J → String} {rows : List (Row J)}

/-- Nothing stands twice where it must not, and the modules of a system do not contradict each
other. -/
structure Mergeable (name : J → String) (rows : List (Row J)) : Prop where
  names : (rows.flatMap fun r => r.2.elementNames name).Nodup
  claims : ∀ identifier, (gathered identifier rows (.key .resourceClaims)).Nodup
  managed : ∀ identifier, (gathered identifier rows (.key .managedJoints)).Nodup
  files : ∀ identifier,
    (((sharing identifier rows).flatMap fun r => r.2.runtimeFiles).map Prod.fst).Nodup
  hardware : ∀ r ∈ rows, ∀ r' ∈ rows, r.2.hardwareSystemId = r'.2.hardwareSystemId →
    r.1 = r'.1 ∧ r.2.hardwarePlugin = r'.2.hardwarePlugin ∧
      r.2.hardwareParams = r'.2.hardwareParams
  topology : ∀ r ∈ rows, ∀ r' ∈ rows, r.2.hardwareSystemId = r'.2.hardwareSystemId →
    ∀ key value value', r.2.expectedTopology.lookup key = some (.scalar value) →
      r'.2.expectedTopology.lookup key = some (.scalar value') → value = value'

theorem pairwise_forall_iff {α : Type} {R : α → α → Prop} {l : List α} (hrefl : ∀ x ∈ l, R x x)
    (hsymm : ∀ x y, R x y → R y x) : l.Pairwise R ↔ ∀ x ∈ l, ∀ y ∈ l, R x y := by
  constructor
  · intro h x hx y hy
    exact h.forall_of_forall_of_flip hrefl (h.imp fun {a b} hab => hsymm a b hab) hx hy
  · exact fun h => List.pairwise_of_forall_mem_list h

theorem disjointKeys_iff {files others : List (String × String)} :
    DisjointKeys files others ↔ (files.map Prod.fst).Disjoint (others.map Prod.fst) := by
  simp only [DisjointKeys, isSome_lookup_iff, ← Option.not_isSome_iff_eq_none, List.Disjoint]

theorem files_iff (hkeys : ∀ r ∈ rows, r.2.KeysNodup) :
    (∀ identifier,
      (((sharing identifier rows).flatMap fun r => r.2.runtimeFiles).map Prod.fst).Nodup) ↔
      rows.Pairwise fun r r' => r.2.hardwareSystemId = r'.2.hardwareSystemId →
        DisjointKeys r.2.runtimeFiles r'.2.runtimeFiles := by
  simp only [List.map_flatMap, List.nodup_flatMap, disjointKeys_iff, sharing]
  constructor
  · intro h
    refine List.pairwise_iff_forall_sublist.2 fun {r r'} hsub hsame => ?_
    have hpairwise := List.pairwise_filter.1 (h r.2.hardwareSystemId).2
    exact List.pairwise_iff_forall_sublist.1 hpairwise hsub (decide_eq_true rfl)
      (decide_eq_true hsame.symm)
  · refine fun h identifier => ⟨fun r hr => (hkeys r (List.mem_of_mem_filter hr)).files, ?_⟩
    refine List.pairwise_filter.2 (h.imp fun {r r'} hdisjoint hr hr' => ?_)
    exact hdisjoint ((of_decide_eq_true hr).trans (of_decide_eq_true hr').symm)

def SameHardware (r r' : Row J) : Prop :=
  r.1 = r'.1 ∧ r.2.hardwarePlugin = r'.2.hardwarePlugin ∧ r.2.hardwareParams = r'.2.hardwareParams

def SameScalars (r r' : Row J) : Prop :=
  ∀ key value value', r.2.expectedTopology.lookup key = some (.scalar value) →
    r'.2.expectedTopology.lookup key = some (.scalar value') → value = value'

theorem topologyFits_iff_sameScalars {r r' : Row J} (hkinds : SameKinds r.2 r'.2) :
    TopologyFits r.2.expectedTopology r'.2.expectedTopology ↔ SameScalars r r' := by
  constructor
  · intro h key value value' hvalue hvalue'
    exact h key _ _ hvalue hvalue'
  · intro h key previous value hprevious hvalue
    have hkind := hkinds key previous value hprevious hvalue
    cases previous with
    | scalar previous =>
      cases value with
      | scalar value => exact h key previous value hprevious hvalue
      | list items => cases hkind
    | list previous =>
      cases value with
      | scalar value => cases hkind
      | list items => trivial

theorem agree_iff {r r' : Row J} (hkinds : SameKinds r.2 r'.2) :
    Agree r r' ↔ DisjointKeys r.2.runtimeFiles r'.2.runtimeFiles ∧ SameHardware r r' ∧
      SameScalars r r' := by
  rw [← topologyFits_iff_sameScalars hkinds]
  constructor
  · exact fun h => ⟨h.files, ⟨h.owner, h.plugin, h.params⟩, h.topology⟩
  · rintro ⟨hfiles, ⟨howner, hplugin, hparams⟩, htopology⟩
    exact ⟨howner, hplugin, hparams, hfiles, htopology⟩

theorem SameHardware.symm {r r' : Row J} (h : SameHardware r r') : SameHardware r' r :=
  ⟨h.1.symm, h.2.1.symm, h.2.2.symm⟩

theorem SameScalars.symm {r r' : Row J} (h : SameScalars r r') : SameScalars r' r :=
  fun key value value' hvalue hvalue' => (h key value' value hvalue' hvalue).symm

theorem sameScalars_refl (r : Row J) : SameScalars r r := by
  intro key value value' hvalue hvalue'
  rw [hvalue] at hvalue'
  cases hvalue'
  rfl

theorem allAgree_iff (hkeys : ∀ r ∈ rows, r.2.KeysNodup) (hkinds : ListsInAllOrNone rows) :
    AllAgree rows ↔
      (∀ identifier,
        (((sharing identifier rows).flatMap fun r => r.2.runtimeFiles).map Prod.fst).Nodup) ∧
      (∀ r ∈ rows, ∀ r' ∈ rows,
        r.2.hardwareSystemId = r'.2.hardwareSystemId → SameHardware r r') ∧
      ∀ r ∈ rows, ∀ r' ∈ rows,
        r.2.hardwareSystemId = r'.2.hardwareSystemId → SameScalars r r' := by
  have hparts : AllAgree rows ↔ rows.Pairwise fun r r' =>
      (r.2.hardwareSystemId = r'.2.hardwareSystemId →
        DisjointKeys r.2.runtimeFiles r'.2.runtimeFiles) ∧
      (r.2.hardwareSystemId = r'.2.hardwareSystemId → SameHardware r r') ∧
      (r.2.hardwareSystemId = r'.2.hardwareSystemId → SameScalars r r') := by
    refine List.Pairwise.iff_of_mem fun {r r'} hr hr' => ?_
    simp only [← forall_and]
    exact forall_congr' fun hsame => agree_iff (hkinds r hr r' hr' hsame)
  rw [hparts, List.pairwise_and_iff, List.pairwise_and_iff, files_iff hkeys]
  refine and_congr_right fun _ => and_congr ?_ ?_
  · exact pairwise_forall_iff (fun r _ _ => ⟨rfl, rfl, rfl⟩)
      fun r r' h hsame => (h hsame.symm).symm
  · exact pairwise_forall_iff (fun r _ _ => sameScalars_refl r)
      fun r r' h hsame => (h hsame.symm).symm

theorem unambiguous_iff (hkeys : ∀ r ∈ rows, r.2.KeysNodup) (hkinds : ListsInAllOrNone rows) :
    Unambiguous name rows ↔ Mergeable name rows := by
  constructor
  · intro h
    obtain ⟨hfiles, hhardware, htopology⟩ := (allAgree_iff hkeys hkinds).1 h.agree
    exact ⟨h.names, fun identifier => (h.unique identifier).1,
      fun identifier => (h.unique identifier).2, hfiles, hhardware, htopology⟩
  · intro h
    exact ⟨(allAgree_iff hkeys hkinds).2 ⟨h.files, h.hardware, h.topology⟩,
      fun identifier => ⟨h.claims identifier, h.managed identifier⟩, h.names⟩

theorem Mergeable.perm {rows' : List (Row J)} (h : Mergeable name rows)
    (hperm : rows.Perm rows') : Mergeable name rows' where
  names := (hperm.flatMap_right _).nodup_iff.1 h.names
  claims identifier := ((hperm.filter _).flatMap_right _).nodup_iff.1 (h.claims identifier)
  managed identifier := ((hperm.filter _).flatMap_right _).nodup_iff.1 (h.managed identifier)
  files identifier :=
    (((hperm.filter _).flatMap_right _).map Prod.fst).nodup_iff.1 (h.files identifier)
  hardware r hr r' hr' := h.hardware r (hperm.mem_iff.2 hr) r' (hperm.mem_iff.2 hr')
  topology r hr r' hr' := h.topology r (hperm.mem_iff.2 hr) r' (hperm.mem_iff.2 hr')

end Mergeable

section Reading

theorem Store.Holds.read {s : Store J} {present : Owner → Option (Result J)}
    (h : s.Holds present) {owner : Owner} {c : Result J} (hc : present owner = some c)
    (hkeys : c.KeysNodup) : s.read owner = some c := by
  have hlists := h.lists owner c hc
  have hkey : (fun key => ((c.lists key).map fun _ => (owner, Path.key key)).map s.lists) =
      c.lists := by
    funext key
    cases hlist : c.lists key with
    | none => rfl
    | some items => exact congrArg some (hlists (.key key) items hlist)
  have htopology : (c.expectedTopology.map fun e =>
      (e.1, (e.2.map fun _ => (owner, Path.topology e.1)).map s.lists)) = c.expectedTopology := by
    refine (List.map_congr_left fun e he => ?_).trans (List.map_id _)
    obtain ⟨key, entry⟩ := e
    cases entry with
    | scalar value => rfl
    | list items =>
      have hat : c.at (.topology key) = some items := by
        rw [Content.at, lookup_of_mem hkeys.topology he]
        rfl
      dsimp only [Entry.map]
      rw [hlists _ _ hat]
      rfl
  have hgroups : (c.actuatorGroups.map fun e => (e.1, s.lists (owner, Path.group e.1))) =
      c.actuatorGroups := by
    refine (List.map_congr_left fun e he => ?_).trans (List.map_id _)
    rw [hlists (.group e.1) e.2 (lookup_of_mem hkeys.groups he)]
    rfl
  rw [Store.read, h.result, hc]
  simp only [Option.map_some, named, Content.mapPath, List.map_map, Function.comp_def]
  rw [hkey, htopology, hgroups]

end Reading

section Order

variable {first second : List (Row J)} {owner owner' : String} {c c' : Result J}

/-- The results differ in the order of their entries, and in what is not merged. -/
structure Reordered (c c' : Result J) : Prop where
  hardwareSystemId : c.hardwareSystemId = c'.hardwareSystemId
  hardwarePlugin : c.hardwarePlugin = c'.hardwarePlugin
  hardwareParams : c.hardwareParams = c'.hardwareParams
  lists : ∀ path, ((c.at path).getD []).Perm ((c'.at path).getD [])
  present : ∀ path, (c.at path).isSome = (c'.at path).isSome
  scalars : ∀ key value, c.expectedTopology.lookup key = some (.scalar value) ↔
    c'.expectedTopology.lookup key = some (.scalar value)
  files : c.runtimeFiles.Perm c'.runtimeFiles
  preflight : c.preflightRequired = c'.preflightRequired

theorem merge_or_rightComm (a b d : Option Bool) :
    Option.merge (· || ·) (Option.merge (· || ·) a b) d =
      Option.merge (· || ·) (Option.merge (· || ·) a d) b := by
  cases a with
  | none => cases b <;> cases d <;> simp [Bool.or_comm]
  | some a =>
    cases b with
    | none => cases d <;> rfl
    | some b =>
      cases d with
      | none => rfl
      | some d => exact congrArg some (Bool.or_right_comm a b d)

theorem Gathers.reordered (h : Gathers first owner c) (h' : Gathers second owner' c')
    (hperm : first.Perm second) {identifier : String}
    (hsame : ∀ r ∈ first, r.2.hardwareSystemId = identifier) :
    owner = owner' ∧ Reordered c c' := by
  have hsame' : ∀ r ∈ second, r.2.hardwareSystemId = identifier :=
    fun r hr => hsame r (hperm.mem_iff.2 hr)
  have hmem : ∀ {P : Row J → Prop}, (∃ r ∈ first, P r) ↔ ∃ r ∈ second, P r := by
    intro P
    simp only [hperm.mem_iff]
  obtain ⟨r, hr, -, hidentifier⟩ := h.unmerged
  obtain ⟨r', hr', -, hidentifier'⟩ := h'.unmerged
  have hfirst := List.mem_of_mem_head? hr
  obtain ⟨howner, hplugin, hparams⟩ := h.head r hfirst
  obtain ⟨howner', hplugin', hparams'⟩ := h'.head r (hperm.mem_iff.1 hfirst)
  have hpresent : ∀ {x y : Bool}, (x = true ↔ y = true) → x = y := fun h => Bool.eq_iff_iff.2 h
  refine ⟨howner.symm.trans howner', ?_, hplugin.symm.trans hplugin', hparams.symm.trans hparams',
    fun path => ?_, fun path => ?_, fun key value => ?_, ?_, ?_⟩
  · rw [hidentifier, hidentifier', hsame r hfirst, hsame' r' (List.mem_of_mem_head? hr')]
  · rw [h.lists, h'.lists]
    exact hperm.flatMap_right _
  · cases path with
    | key key =>
      refine hpresent ((h.keys key).trans (Iff.trans ?_ (h'.keys key).symm))
      rw [hperm.length_eq, hmem]
    | topology key => exact hpresent ((h.topology key).trans (hmem.trans (h'.topology key).symm))
    | group key => exact hpresent ((h.groups key).trans (hmem.trans (h'.groups key).symm))
  · exact (h.scalars key value).trans (hmem.trans (h'.scalars key value).symm)
  · rw [h.files, h'.files]
    exact hperm.flatMap_right _
  · rw [h.preflight, h'.preflight]
    exact (hperm.map _).foldl_eq' (fun a _ b _ z => merge_or_rightComm z a b) none

end Order

theorem ListsInAllOrNone.perm {first second : List (Row J)} (h : ListsInAllOrNone first)
    (hperm : first.Perm second) : ListsInAllOrNone second :=
  fun r hr r' hr' => h r (hperm.mem_iff.2 hr) r' (hperm.mem_iff.2 hr')

section Conservation

variable {name : J → String} {modules : ℕ → Module J}

/-- The systems of the rows, each once and with what its rows hold. -/
structure Conserved (rows : List (Row J)) (systems : List (String × String)) (s : Store J) :
    Prop where
  nodup : (systems.map Prod.fst).Nodup
  identifiers : ∀ identifier, identifier ∈ systems.map Prod.fst ↔
    ∃ r ∈ rows, r.2.hardwareSystemId = identifier
  holds : ∀ system ∈ systems, ∃ c, s.read (.system system.1) = some c ∧
    Gathers (sharing system.1 rows) system.2 c

/-- The modules are what they were before. -/
def Unmodified (modules : ℕ → Module J) (s : Store J) : Prop :=
  ∀ index, s.read (.module index) = some (modules index).toContent

theorem Kept.unmodified {s : Store J} (h : Kept modules s) : Unmodified modules s := by
  obtain ⟨merged, hholds⟩ := h
  exact fun index => hholds.read rfl (modules index).keysNodup

theorem Stands.conserved {rows : List (Row J)} {merged : Merged J} {progress : Progress}
    {s : Store J} (h : Stands modules merged progress s) (hmerges : Merges name rows merged) :
    Conserved rows progress.systems s := by
  have hkeys : progress.systems.map Prod.fst = merged.systems.map Prod.fst := by
    rw [h.systems, List.map_map]
    rfl
  refine ⟨hkeys ▸ hmerges.nodup, fun identifier => ?_, fun system hsystem => ?_⟩
  · rw [hkeys, ← isSome_lookup_iff]
    constructor
    · intro hsome
      obtain ⟨⟨owner, c⟩, hlookup⟩ := Option.isSome_iff_exists.1 hsome
      obtain ⟨first, hfirst, -⟩ := (hmerges.gathers _ _ _ hlookup).unmerged
      exact ⟨first, mem_sharing.1 (List.mem_of_mem_head? hfirst)⟩
    · rintro ⟨r, hr⟩
      by_contra hnone
      have hmem := mem_sharing.2 hr
      rw [hmerges.missing _ (Option.not_isSome_iff_eq_none.1 hnone)] at hmem
      cases hmem
  · rw [h.systems] at hsystem
    obtain ⟨⟨identifier, owner, c⟩, hmem, rfl⟩ := List.mem_map.1 hsystem
    have hlookup := lookup_of_mem hmerges.nodup hmem
    have hgathers := hmerges.gathers _ _ _ hlookup
    refine ⟨c, h.holds.read ?_ hgathers.keysNodup, hgathers⟩
    rw [present, hlookup]
    rfl

/-- Two runs end with the same systems, up to order and what is not merged. -/
structure SameSystems (systems : List (String × String)) (s : Store J)
    (systems' : List (String × String)) (s' : Store J) : Prop where
  order : systems.Perm systems'
  results : ∀ system ∈ systems, ∃ c c', s.read (.system system.1) = some c ∧
    s'.read (.system system.1) = some c' ∧ Reordered c c'

section Perm

variable {first second : List (Row J)} {systems systems' : List (String × String)}
  {s s' : Store J}

theorem Conserved.other (h : Conserved first systems s) (h' : Conserved second systems' s')
    (hperm : first.Perm second) {system : String × String} (hsystem : system ∈ systems) :
    system ∈ systems' ∧ ∃ c c', s.read (.system system.1) = some c ∧
      s'.read (.system system.1) = some c' ∧ Reordered c c' := by
  obtain ⟨r, hr, hidentifier⟩ := (h.identifiers system.1).1 (List.mem_map_of_mem hsystem)
  obtain ⟨system', hsystem', hsame⟩ := List.mem_map.1
    ((h'.identifiers system.1).2 ⟨r, hperm.mem_iff.1 hr, hidentifier⟩)
  obtain ⟨c, hread, hgathers⟩ := h.holds system hsystem
  obtain ⟨c', hread', hgathers'⟩ := h'.holds system' hsystem'
  rw [hsame] at hread' hgathers'
  obtain ⟨howner, hreordered⟩ := hgathers.reordered hgathers' (hperm.filter _)
    fun x hx => (mem_sharing.1 hx).2
  have heq : system = system' := Prod.ext hsame.symm howner
  exact ⟨heq ▸ hsystem', c, c', hread, hread', hreordered⟩

theorem Conserved.sameSystems (h : Conserved first systems s)
    (h' : Conserved second systems' s') (hperm : first.Perm second) :
    SameSystems systems s systems' s' := by
  refine ⟨?_, fun system hsystem => (h.other h' hperm hsystem).2⟩
  refine (List.perm_ext_iff_of_nodup (List.Nodup.of_map _ h.nodup)
    (List.Nodup.of_map _ h'.nodup)).2 fun system => ?_
  exact ⟨fun hsystem => (h.other h' hperm hsystem).1,
    fun hsystem => (h'.other h hperm.symm hsystem).1⟩

end Perm

variable [DecidableEq J]

variable (name) in
/-- A run merges the rows, or raises because they cannot be merged. -/
theorem mergeSystems_cases (rendered : List (String × ℕ))
    (hkinds : ListsInAllOrNone (rows modules rendered)) :
    Mergeable name (rows modules rendered) ∧
        (∃ systems s, mergeSystems name rendered (Store.initial modules) = (.ok systems, s) ∧
          Conserved (rows modules rendered) systems s ∧ Unmodified modules s) ∨
      ¬Mergeable name (rows modules rendered) ∧
        ∃ message s, mergeSystems name rendered (Store.initial modules) =
          (.error (.valueError message), s) ∧ Unmodified modules s := by
  have hkeys : ∀ r ∈ rows modules rendered, r.2.KeysNodup := by
    intro r hr
    obtain ⟨entry, -, rfl⟩ := List.mem_map.1 hr
    exact (modules entry.2).keysNodup
  have hiff : Unambiguous name (rows modules rendered) ↔ Mergeable name (rows modules rendered) :=
    unambiguous_iff hkeys hkinds
  obtain ⟨hok, herror⟩ := mergeSystems_simulates modules name rendered () _ rfl
  rcases mergeValues_cases name rendered hkinds with
    ⟨hunambiguous, merged, hvalues, hmerges⟩ | ⟨hambiguous, message, hvalues⟩
  · obtain ⟨systems, s, hrun, hstands⟩ := hok merged hvalues
    exact .inl ⟨hiff.1 hunambiguous, systems, s, hrun, hstands.conserved hmerges,
      hstands.kept.unmodified⟩
  · obtain ⟨s, hrun, hkept⟩ := herror _ hvalues
    exact .inr ⟨mt hiff.2 hambiguous, message, s, hrun, hkept.unmodified⟩

theorem conserved_of_run {rendered : List (String × ℕ)}
    (hkinds : ListsInAllOrNone (rows modules rendered)) {systems : List (String × String)}
    {s : Store J} (hrun : mergeSystems name rendered (Store.initial modules) = (.ok systems, s)) :
    Conserved (rows modules rendered) systems s := by
  rcases mergeSystems_cases name rendered hkinds with
    ⟨-, systems', s', hrun', hconserved, -⟩ | ⟨-, message, s', hrun', -⟩
  · rw [hrun] at hrun'
    cases hrun'
    exact hconserved
  · rw [hrun] at hrun'
    cases hrun'

/-- Merging raises exactly for modules that cannot be merged, conserves what they have and does not
depend on their order, up to the order of the entries and to what is not merged. -/
theorem mergeSystems_conserves (name : J → String) (modules : ℕ → Module J)
    (rendered : List (String × ℕ)) (hkinds : ListsInAllOrNone (rows modules rendered)) :
    (Mergeable name (rows modules rendered) ∧
        (∃ systems s, mergeSystems name rendered (Store.initial modules) = (.ok systems, s) ∧
          Conserved (rows modules rendered) systems s ∧ Unmodified modules s) ∨
      ¬Mergeable name (rows modules rendered) ∧
        ∃ message s, mergeSystems name rendered (Store.initial modules) =
          (.error (.valueError message), s) ∧ Unmodified modules s) ∧
    ∀ permuted : List (String × ℕ), rendered.Perm permuted →
      (Mergeable name (rows modules rendered) ↔ Mergeable name (rows modules permuted)) ∧
      ∀ systems s systems' s',
        mergeSystems name rendered (Store.initial modules) = (.ok systems, s) →
        mergeSystems name permuted (Store.initial modules) = (.ok systems', s') →
        SameSystems systems s systems' s' := by
  refine ⟨mergeSystems_cases name rendered hkinds, fun permuted hpermuted => ?_⟩
  have hperm : (rows modules rendered).Perm (rows modules permuted) := hpermuted.map _
  refine ⟨⟨fun h => h.perm hperm, fun h => h.perm hperm.symm⟩, ?_⟩
  intro systems s systems' s' hrun hrun'
  exact (conserved_of_run hkinds hrun).sameSystems
    (conserved_of_run (hkinds.perm hperm) hrun') hperm

/-- A sensor and a drive on one bus. -/
def sharedBus : ℕ → Module ℕ
  | 0 => {
      hardwareSystemId := "igh"
      hardwarePlugin := 0
      hardwareParams := 0
      lists := fun key => if key = .sensors then some [7] else
        if key = .managedJoints then some [] else none
      runtimeFiles := [("sensor.yaml", "")]
      preflightRequired := none
      expectedTopology := [("slaves", .list [1])]
      actuatorGroups := []
      unmerged := 1
      managed := rfl
      files_nodup := List.nodup_singleton _
      topology_nodup := List.nodup_singleton _
      groups_nodup := List.nodup_nil }
  | _ => {
      hardwareSystemId := "igh"
      hardwarePlugin := 0
      hardwareParams := 0
      lists := fun key => if key = .sensors ∨ key = .gpios then none else some [8]
      runtimeFiles := [("drive.yaml", "")]
      preflightRequired := some true
      expectedTopology := [("slaves", .list [2])]
      actuatorGroups := [("arm", [8])]
      unmerged := 2
      managed := rfl
      files_nodup := List.nodup_singleton _
      topology_nodup := List.nodup_singleton _
      groups_nodup := List.nodup_singleton _ }

def sharedBusName (element : ℕ) : String := if element = 7 then "sensor" else "joint"

theorem isList_of_lookup {items : List ℕ} {key : String} {entry : Entry ℕ (List ℕ)}
    (h : [("slaves", Entry.list items)].lookup key = some entry) : entry.isList = true := by
  rw [lookup_cons] at h
  by_cases heq : key = "slaves"
  · rw [if_pos heq] at h
    cases h
    rfl
  · rw [if_neg heq] at h
    cases h

theorem sharedBus_kinds : ListsInAllOrNone (rows sharedBus [("ethercat", 0), ("ethercat", 1)]) := by
  have hlist : ∀ r ∈ rows sharedBus [("ethercat", 0), ("ethercat", 1)], ∀ key entry,
      r.2.expectedTopology.lookup key = some entry → entry.isList = true := by
    intro r hr key entry hentry
    rcases List.mem_cons.1 hr with rfl | hr
    · exact isList_of_lookup hentry
    · rcases List.mem_singleton.1 hr with rfl
      exact isList_of_lookup hentry
  intro r hr r' hr' _ key previous value hprevious hvalue
  rw [hlist r hr key previous hprevious, hlist r' hr' key value hvalue]

theorem run_of_toOption {modules : ℕ → Module ℕ} {rendered : List (String × ℕ)}
    {systems : List (String × String)}
    (h : (mergeSystems sharedBusName rendered (Store.initial modules)).1.toOption = some systems) :
    ∃ s, mergeSystems sharedBusName rendered (Store.initial modules) = (.ok systems, s) := by
  refine ⟨(mergeSystems sharedBusName rendered (Store.initial modules)).2, Prod.ext ?_ rfl⟩
  cases hresult : (mergeSystems sharedBusName rendered (Store.initial modules)).1 with
  | error e =>
    rw [hresult] at h
    cases h
  | ok value =>
    rw [hresult] at h
    exact congrArg Except.ok (Option.some.inj h)

theorem sharedBus_run : ∃ s, mergeSystems sharedBusName [("ethercat", 0), ("ethercat", 1)]
    (Store.initial sharedBus) = (.ok [("igh", "ethercat")], s) :=
  run_of_toOption (by decide +kernel)

theorem sharedBus_run_permuted : ∃ s, mergeSystems sharedBusName [("ethercat", 1), ("ethercat", 0)]
    (Store.initial sharedBus) = (.ok [("igh", "ethercat")], s) :=
  run_of_toOption (by decide +kernel)

theorem mergeSystems_conserves_sharedBus :
    Mergeable sharedBusName (rows sharedBus [("ethercat", 0), ("ethercat", 1)]) ∧
      ∃ systems s, mergeSystems sharedBusName [("ethercat", 0), ("ethercat", 1)]
          (Store.initial sharedBus) = (.ok systems, s) ∧
        Conserved (rows sharedBus [("ethercat", 0), ("ethercat", 1)]) systems s ∧
        Unmodified sharedBus s := by
  obtain ⟨s, hrun⟩ := sharedBus_run
  refine (mergeSystems_conserves sharedBusName sharedBus _ sharedBus_kinds).1.resolve_right ?_
  rintro ⟨-, message, s', hrun', -⟩
  rw [hrun] at hrun'
  cases hrun'

/-- What is not merged is what the first module of the system has. -/
theorem unmerged_depends_on_order : ¬∀ (modules : ℕ → Module ℕ) (name : ℕ → String)
    (rendered permuted : List (String × ℕ)), ListsInAllOrNone (rows modules rendered) →
    rendered.Perm permuted → ∀ systems s systems' s',
      mergeSystems name rendered (Store.initial modules) = (.ok systems, s) →
      mergeSystems name permuted (Store.initial modules) = (.ok systems', s') →
      ∀ system ∈ systems, (s.read (.system system.1)).map (·.unmerged) =
        (s'.read (.system system.1)).map (·.unmerged) := by
  intro h
  obtain ⟨s, hrun⟩ := sharedBus_run
  obtain ⟨s', hrun'⟩ := sharedBus_run_permuted
  have hfirst : ((mergeSystems sharedBusName [("ethercat", 0), ("ethercat", 1)]
      (Store.initial sharedBus)).2.read (.system "igh")).map (·.unmerged) = some 1 := by
    decide +kernel
  have hsecond : ((mergeSystems sharedBusName [("ethercat", 1), ("ethercat", 0)]
      (Store.initial sharedBus)).2.read (.system "igh")).map (·.unmerged) = some 2 := by
    decide +kernel
  have hsame := h sharedBus sharedBusName _ _ sharedBus_kinds (List.Perm.swap _ _ _) _ _ _ _ hrun
    hrun' ("igh", "ethercat") List.mem_cons_self
  rw [hrun] at hfirst
  rw [hrun'] at hsecond
  rw [hfirst, hsecond] at hsame
  cases hsame

end Conservation

end RobotDriver.Composer.Merge
