import RobotDriver.Composer.MergedContent
import RobotDriver.Lib.Fallible

/-!
# When results merge

The parts of a merge on values, each with the condition under which it does not raise, and the
merge of a whole row of results of one system.
-/

namespace RobotDriver.Composer.Merge

open Dictionary

variable {J : Type}

/-- Values of one kind, and equal where they are compared. -/
def Entry.Fits : Entry J (List J) → Entry J (List J) → Prop
  | .list _, .list _ => True
  | .scalar previous, .scalar value => previous = value
  | _, _ => False

def Entry.isList : Entry J (List J) → Bool
  | .list _ => true
  | .scalar _ => false

theorem Entry.conflict_eq_none_iff [DecidableEq J] (identifier : String)
    (previous value : Entry J (List J)) :
    conflict identifier previous value = none ↔ previous.Fits value := by
  cases previous with
  | list items =>
    cases value with
    | list items => exact iff_of_true rfl trivial
    | scalar value => exact iff_of_false (by simp [conflict]) id
  | scalar previous =>
    cases value with
    | list items => exact iff_of_false (by simp [conflict]) id
    | scalar value => simp [conflict, Fits]

theorem Entry.conflict_valueError [DecidableEq J] {identifier : String}
    {previous value : Entry J (List J)}
    (hkind : previous.isList = value.isList) {e : MergeError}
    (h : conflict identifier previous value = some e) : ∃ message, e = .valueError message := by
  cases previous with
  | list items =>
    cases value with
    | list items => cases h
    | scalar value => cases hkind
  | scalar previous =>
    cases value with
    | list items => cases hkind
    | scalar value =>
      rw [conflict] at h
      split_ifs at h
      cases h
      exact ⟨_, rfl⟩

section Parts

variable (c m : Result J)

/-- The topologies do not contradict each other. -/
def TopologyFits (topology other : List (String × Entry J (List J))) : Prop :=
  ∀ key previous value, topology.lookup key = some previous → other.lookup key = some value →
    previous.Fits value

/-- The five lists have grown. -/
def Content.extended : Result J :=
  { c with lists := fun key => some ((c.lists key).getD [] ++ (m.lists key).getD []) }

/-- The files and the flag have been merged as well. -/
def Content.filed : Result J :=
  { c.extended m with
    runtimeFiles := c.runtimeFiles ++ m.runtimeFiles
    preflightRequired := Option.merge (· || ·) c.preflightRequired m.preflightRequired }

theorem withPreflight_eq : Content.withPreflight m
    { c.extended m with runtimeFiles := (c.extended m).runtimeFiles ++ m.runtimeFiles } =
      .ok (c.filed m) := rfl

theorem foldlM_withKey : ListKey.all.foldlM (Content.withKey m) c = .ok (c.extended m) := by
  refine (rfl : _ = Except.ok _).trans (congrArg Except.ok ?_)
  simp only [Content.extended, Content.mk.injEq, true_and, and_true]
  funext key
  cases key <;> rfl

theorem disjointKeys_cons {files rest : List (String × String)} {file : String × String}
    (hnew : files.lookup file.1 = none) (hrest : rest.lookup file.1 = none) :
    DisjointKeys (files ++ [file]) rest ↔ DisjointKeys files (file :: rest) := by
  simp only [DisjointKeys, List.lookup_append, lookup_cons, List.lookup_nil]
  refine forall_congr' fun key => ?_
  by_cases heq : key = file.1
  · subst heq
    rw [hnew, hrest]
    simp
  · rw [if_neg heq, if_neg heq, Option.or_none]

theorem foldlM_withFile_ok {files : List (String × String)} (hnodup : (files.map Prod.fst).Nodup)
    (h : DisjointKeys c.runtimeFiles files) :
    files.foldlM Content.withFile c = .ok { c with runtimeFiles := c.runtimeFiles ++ files } := by
  induction files generalizing c with
  | nil => rw [List.append_nil]; rfl
  | cons file rest ih =>
    obtain ⟨hnotMem, hrest⟩ := List.nodup_cons.1 hnodup
    have hnew : c.runtimeFiles.lookup file.1 = none := by
      by_contra hsome
      have hnone := h file.1 (Option.isSome_iff_ne_none.2 hsome)
      rw [lookup_cons, if_pos rfl] at hnone
      cases hnone
    have hlater : rest.lookup file.1 = none := by
      rw [← Option.not_isSome_iff_eq_none, isSome_lookup_iff]
      exact hnotMem
    have hstep : Content.withFile c file =
        .ok { c with runtimeFiles := c.runtimeFiles ++ [file] } := by
      rw [Content.withFile, hnew, assign_of_lookup_none hnew]
      rfl
    rw [List.foldlM_cons, hstep]
    refine (ih _ hrest ((disjointKeys_cons hnew hlater).2 h)).trans ?_
    rw [List.append_assoc, List.singleton_append]

theorem foldlM_withFile_error {files : List (String × String)}
    (hnodup : (files.map Prod.fst).Nodup) (h : ¬DisjointKeys c.runtimeFiles files) :
    ∃ message, files.foldlM Content.withFile c = .error (.valueError message) := by
  induction files generalizing c with
  | nil => exact absurd (fun key _ => rfl) h
  | cons file rest ih =>
    obtain ⟨hnotMem, hrest⟩ := List.nodup_cons.1 hnodup
    have hlater : rest.lookup file.1 = none := by
      rw [← Option.not_isSome_iff_eq_none, isSome_lookup_iff]
      exact hnotMem
    rw [List.foldlM_cons, Content.withFile]
    by_cases hsome : (c.runtimeFiles.lookup file.1).isSome = true
    · rw [if_pos hsome]
      exact ⟨_, rfl⟩
    · have hnew := Option.not_isSome_iff_eq_none.1 hsome
      rw [if_neg hsome, assign_of_lookup_none hnew]
      exact ih _ hrest fun hdisjoint => h ((disjointKeys_cons hnew hlater).1 hdisjoint)

theorem forall_assign_topology {P : Entry J (List J) → Entry J (List J) → Prop} {key : String}
    {value merged : Entry J (List J)} {topology rest : List (String × Entry J (List J))}
    (hnotMem : key ∉ rest.map Prod.fst) :
    (∀ other previous next, (assign key merged topology).lookup other = some previous →
        rest.lookup other = some next → P previous next) ∧
        (∀ previous, topology.lookup key = some previous → P previous value) ↔
      ∀ other previous next, topology.lookup other = some previous →
        ((key, value) :: rest).lookup other = some next → P previous next := by
  have hlater : rest.lookup key = none := by
    rw [← Option.not_isSome_iff_eq_none, isSome_lookup_iff]
    exact hnotMem
  constructor
  · rintro ⟨hrest, hkey⟩ other previous next hprevious hnext
    rw [lookup_cons] at hnext
    by_cases heq : other = key
    · rw [if_pos heq] at hnext
      rw [heq] at hprevious
      exact Option.some.inj hnext ▸ hkey previous hprevious
    · rw [if_neg heq] at hnext
      refine hrest other previous next ?_ hnext
      rw [lookup_assign, if_neg heq]
      exact hprevious
  · refine fun h => ⟨fun other previous next hprevious hnext => ?_, fun previous hprevious => ?_⟩
    · have hne : other ≠ key := by
        rintro rfl
        rw [hlater] at hnext
        cases hnext
      rw [lookup_assign, if_neg hne] at hprevious
      refine h other previous next hprevious ?_
      rw [lookup_cons, if_neg hne]
      exact hnext
    · refine h key previous value hprevious ?_
      rw [lookup_cons, if_pos rfl]

theorem foldlM_withGroup (groups : List (String × List J)) :
    groups.foldlM Content.withGroup c =
      .ok { c with actuatorGroups := joinWith (· ++ ·) c.actuatorGroups groups } := by
  induction groups generalizing c with
  | nil => rfl
  | cons group rest ih =>
    rw [List.foldlM_cons]
    exact ih _

variable [DecidableEq J]

theorem withTopology_ok (identifier : String) {entry : String × Entry J (List J)}
    (h : ∀ previous, c.expectedTopology.lookup entry.1 = some previous → previous.Fits entry.2) :
    Content.withTopology identifier c entry = .ok { c with
      expectedTopology := assign entry.1
        (((c.expectedTopology.lookup entry.1).map (Entry.append · entry.2)).getD entry.2)
        c.expectedTopology } := by
  have hnone : (c.expectedTopology.lookup entry.1).bind
      (Entry.conflict identifier · entry.2) = none := by
    cases hlookup : c.expectedTopology.lookup entry.1 with
    | none => rfl
    | some previous => exact (Entry.conflict_eq_none_iff _ _ _).2 (h previous hlookup)
  rw [Content.withTopology, hnone]

theorem foldlM_withTopology_ok (identifier : String) {topology : List (String × Entry J (List J))}
    (hnodup : (topology.map Prod.fst).Nodup) (h : TopologyFits c.expectedTopology topology) :
    topology.foldlM (Content.withTopology identifier) c =
      .ok { c with expectedTopology := joinWith Entry.append c.expectedTopology topology } := by
  induction topology generalizing c with
  | nil => rfl
  | cons entry rest ih =>
    obtain ⟨hnotMem, hrest⟩ := List.nodup_cons.1 hnodup
    obtain ⟨hlater, hentry⟩ := (forall_assign_topology (P := Entry.Fits) hnotMem).2 h
    rw [List.foldlM_cons, withTopology_ok c identifier hentry]
    exact ih _ hrest hlater

theorem foldlM_withTopology_error (identifier : String)
    {topology : List (String × Entry J (List J))} (hnodup : (topology.map Prod.fst).Nodup)
    (hkinds : ∀ key previous value, c.expectedTopology.lookup key = some previous →
      topology.lookup key = some value → previous.isList = value.isList)
    (h : ¬TopologyFits c.expectedTopology topology) :
    ∃ message, topology.foldlM (Content.withTopology identifier) c =
      .error (.valueError message) := by
  induction topology generalizing c with
  | nil => exact absurd (fun key previous value _ hvalue => by cases hvalue) h
  | cons entry rest ih =>
    obtain ⟨hnotMem, hrest⟩ := List.nodup_cons.1 hnodup
    rw [List.foldlM_cons]
    by_cases hentry : ∀ previous, c.expectedTopology.lookup entry.1 = some previous →
        previous.Fits entry.2
    · rw [withTopology_ok c identifier hentry]
      refine ih _ hrest ((forall_assign_topology
        (P := fun previous value => previous.isList = value.isList) hnotMem).2 hkinds).1
        fun hfits => h ?_
      exact (forall_assign_topology (P := Entry.Fits) hnotMem).1 ⟨hfits, hentry⟩
    · push Not at hentry
      obtain ⟨previous, hprevious, hconflict⟩ := hentry
      obtain ⟨e, he⟩ := Option.ne_none_iff_exists'.1 fun hnone =>
        hconflict ((Entry.conflict_eq_none_iff identifier previous entry.2).1 hnone)
      have hkind : previous.isList = entry.2.isList := by
        refine hkinds entry.1 previous entry.2 hprevious ?_
        rw [lookup_cons, if_pos rfl]
      obtain ⟨message, rfl⟩ := Entry.conflict_valueError hkind he
      refine ⟨message, ?_⟩
      rw [Content.withTopology, hprevious, Option.bind_some, he]
      rfl

end Parts

/-- The dictionaries of a result have no key twice. -/
structure Content.KeysNodup (c : Result J) : Prop where
  files : (c.runtimeFiles.map Prod.fst).Nodup
  topology : (c.expectedTopology.map Prod.fst).Nodup
  groups : (c.actuatorGroups.map Prod.fst).Nodup

theorem Module.keysNodup (m : Module J) : m.toContent.KeysNodup :=
  ⟨m.files_nodup, m.topology_nodup, m.groups_nodup⟩

section Merge

variable [DecidableEq J] {identifier owner other : String} {c m : Result J}

/-- Nothing raises when `m` is merged into `c`. -/
structure Content.Fits (owner other : String) (c m : Result J) : Prop where
  owner : owner = other
  plugin : c.hardwarePlugin = m.hardwarePlugin
  params : c.hardwareParams = m.hardwareParams
  files : DisjointKeys c.runtimeFiles m.runtimeFiles
  topology : TopologyFits c.expectedTopology m.expectedTopology

def SameKinds (c m : Result J) : Prop :=
  ∀ key previous value, c.expectedTopology.lookup key = some previous →
    m.expectedTopology.lookup key = some value → previous.isList = value.isList

theorem merge_ok (hm : m.KeysNodup) (h : c.Fits owner other m) :
    Content.merge identifier owner other m c = .ok (c.join m) := by
  have hsame : Content.sameHardware identifier owner other m c = .ok c := by
    refine if_neg ?_
    simp only [not_or, not_not]
    exact ⟨h.owner, h.plugin, h.params⟩
  have hfiles := foldlM_withFile_ok (c.extended m) hm.files h.files
  have htopology := foldlM_withTopology_ok (c.filed m) identifier hm.topology h.topology
  rw [Content.merge, hsame, ok_bind, foldlM_withKey, ok_bind, hfiles, ok_bind, withPreflight_eq,
    ok_bind, htopology, ok_bind, foldlM_withGroup]
  rfl

theorem merge_error (hm : m.KeysNodup) (hkinds : SameKinds c m) (h : ¬c.Fits owner other m) :
    ∃ message, Content.merge identifier owner other m c = .error (.valueError message) := by
  by_cases hsame : owner ≠ other ∨ c.hardwarePlugin ≠ m.hardwarePlugin ∨
      c.hardwareParams ≠ m.hardwareParams
  · rw [Content.merge, Content.sameHardware, if_pos hsame]
    exact ⟨_, rfl⟩
  · rw [Content.merge, Content.sameHardware, if_neg hsame, ok_bind, foldlM_withKey, ok_bind]
    simp only [not_or, not_not] at hsame
    by_cases hfiles : DisjointKeys c.runtimeFiles m.runtimeFiles
    · rw [foldlM_withFile_ok (c.extended m) hm.files hfiles, ok_bind, withPreflight_eq, ok_bind]
      have htopology : ¬TopologyFits c.expectedTopology m.expectedTopology := fun htopology =>
        h ⟨hsame.1, hsame.2.1, hsame.2.2, hfiles, htopology⟩
      obtain ⟨message, hmessage⟩ := foldlM_withTopology_error (c.filed m) identifier hm.topology
        hkinds htopology
      rw [hmessage]
      exact ⟨message, rfl⟩
    · obtain ⟨message, hmessage⟩ := foldlM_withFile_error (c.extended m) hm.files hfiles
      rw [hmessage]
      exact ⟨message, rfl⟩

end Merge

end RobotDriver.Composer.Merge
