import RobotDriver.Composer.MergedContent

/-!
# Merging objects is merging values

The lists of the results that there are belong to one place each. So a step of `mergeInto` on the
store is the step on the value of the merged result, and touches no other result.
-/

namespace RobotDriver.Composer.Merge

variable {J : Type}

/-- The store has these results, each with lists of its own. -/
structure Store.Holds (s : Store J) (present : Owner → Option (Result J)) : Prop where
  result : ∀ owner, s.results owner = (present owner).map (named owner)
  lists : ∀ owner c, present owner = some c → ∀ path items, c.at path = some items →
    s.lists (owner, path) = items

theorem Store.Holds.update {s s' : Store J} {present : Owner → Option (Result J)}
    (h : s.Holds present) {owner : Owner} {c : Result J}
    (hresult : s'.results owner = some (named owner c))
    (hlists : ∀ path items, c.at path = some items → s'.lists (owner, path) = items)
    (hother : ∀ other ≠ owner, s'.results other = s.results other ∧
      ∀ path, s'.lists (other, path) = s.lists (other, path)) :
    s'.Holds (Function.update present owner (some c)) := by
  constructor
  · intro other
    by_cases heq : other = owner
    · subst heq
      rw [hresult, Function.update_self]
      rfl
    · rw [(hother other heq).1, Function.update_of_ne heq, h.result]
  · intro other d hd path items hitems
    by_cases heq : other = owner
    · subst heq
      rw [Function.update_self] at hd
      cases hd
      exact hlists path items hitems
    · rw [Function.update_of_ne heq] at hd
      rw [(hother other heq).2, h.lists other d hd path items hitems]

theorem named_at {L : Type} (owner : Owner) (c : Content J L) (path : Path) :
    (named owner c).at path = (c.at path).map fun _ => (owner, path) := by
  cases path with
  | key key => rfl
  | topology key =>
    have hmap := Dictionary.lookup_map (fun key (entry : Entry J L) =>
      entry.map fun _ => (owner, Path.topology key)) c.expectedTopology key
    simp only [named, Content.mapPath, Content.at, hmap]
    cases c.expectedTopology.lookup key with
    | none => rfl
    | some entry => cases entry <;> rfl
  | group key =>
    exact Dictionary.lookup_map (fun key _ => (owner, Path.group key)) c.actuatorGroups key

theorem named_named {L : Type} (owner other : Owner) (c : Content J L) :
    named owner (named other c) = named owner c := by
  have hentry : ∀ (e : Entry J L) (f : L → Ref) (g : Ref → Ref) (k : L → Ref),
      (∀ items, g (f items) = k items) → (e.map f).map g = e.map k := by
    intro e f g k h
    cases e with
    | scalar value => rfl
    | list items => exact congrArg Entry.list (h items)
  simp only [named, Content.mapPath, List.map_map, Option.map_map, Function.comp_def]
  congr 1
  refine List.map_congr_left fun e _ => ?_
  rw [hentry _ _ _ _ fun _ => rfl]

theorem Store.Holds.items {s : Store J} {before : Owner → Option (Result J)} (h : s.Holds before)
    {owner : Owner} {c : Result J} (hc : before owner = some c) (key : ListKey) :
    (((named owner c).lists key).map s.lists).getD [] = (c.lists key).getD [] := by
  have hat := named_at owner c (.key key)
  simp only [Content.at] at hat
  rw [hat]
  cases hlist : c.lists key with
  | none => rfl
  | some items =>
    rw [Option.map_some, Option.map_some, Option.getD_some, Option.getD_some]
    exact h.lists owner c hc (.key key) items hlist

section Writes

variable {s : Store J} {before : Owner → Option (Result J)} {owner : Owner} {c c' : Result J}

theorem Store.Holds.extend (h : s.Holds before) (hc : before owner = some c) {path : Path}
    {previous : List J} (items : List J) (hprevious : c.at path = some previous)
    (hnamed : named owner c' = named owner c)
    (hat : ∀ p, c'.at p = if p = path then some (previous ++ items) else c.at p) :
    (s.extend (owner, path) items).Holds (Function.update before owner (some c')) := by
  have hfield : s.lists (owner, path) = previous := h.lists owner c hc path previous hprevious
  refine h.update ?_ ?_ ?_
  · exact (h.result owner).trans (by rw [hc, hnamed]; rfl)
  · intro p read hread
    rw [hat] at hread
    by_cases heq : p = path
    · rw [if_pos heq] at hread
      rw [Store.extend_lists, heq, Function.update_self, hfield, Option.some.inj hread]
    · rw [if_neg heq] at hread
      rw [Store.extend_lists, Function.update_of_ne (by simpa using heq)]
      exact h.lists owner c hc p read hread
  · intro other hother
    refine ⟨rfl, fun p => ?_⟩
    rw [Store.extend_lists, Function.update_of_ne (by simp [hother])]

variable {identifier : String}

theorem Store.Holds.allocate (h : s.Holds before) (hc : before (.system identifier) = some c)
    {path : Path} {items : List J}
    (hat : ∀ p, c'.at p = if p = path then some items else c.at p) :
    ((s.allocate (.system identifier, path) items).write identifier
      (named (.system identifier) c')).Holds
      (Function.update before (.system identifier) (some c')) := by
  refine h.update ?_ ?_ ?_
  · rw [Store.write_results, Function.update_self]
  · intro p read hread
    rw [hat] at hread
    by_cases heq : p = path
    · rw [if_pos heq] at hread
      rw [Store.write_lists, Store.allocate_lists, heq, Function.update_self, Option.some.inj hread]
    · rw [if_neg heq] at hread
      rw [Store.write_lists, Store.allocate_lists, Function.update_of_ne (by simpa using heq)]
      exact h.lists _ c hc p read hread
  · intro other hother
    refine ⟨?_, fun p => ?_⟩
    · rw [Store.write_results, Function.update_of_ne hother, Store.allocate_results]
    · rw [Store.write_lists, Store.allocate_lists, Function.update_of_ne (by simp [hother])]

theorem Store.Holds.write (h : s.Holds before) (hc : before (.system identifier) = some c)
    (hat : ∀ p, c'.at p = c.at p) :
    (s.write identifier (named (.system identifier) c')).Holds
      (Function.update before (.system identifier) (some c')) := by
  refine h.update ?_ ?_ ?_
  · rw [Store.write_results, Function.update_self]
  · intro p read hread
    rw [hat] at hread
    exact h.lists _ c hc p read hread
  · intro other hother
    exact ⟨by rw [Store.write_results, Function.update_of_ne hother], fun p => rfl⟩

theorem Store.Holds.deepcopy (h : s.Holds before) (hc : before owner = some c) :
    (s.deepcopy (named owner c) identifier).Holds
      (Function.update before (.system identifier) (some c)) := by
  refine h.update ?_ ?_ ?_
  · exact (Function.update_self _ _ _).trans (congrArg some (named_named _ _ c))
  · intro p read hread
    rw [Store.deepcopy]
    dsimp only
    rw [if_pos rfl, named_at, hread, Option.map_some, Option.map_some, Option.getD_some]
    exact h.lists owner c hc p read hread
  · intro other hother
    refine ⟨?_, fun p => ?_⟩
    · exact Function.update_of_ne hother _ _
    · exact if_neg hother

end Writes

section Owned

variable (modules : ℕ → Module J) (merged : String → Option (Result J))

/-- The modules and the merged results of the systems. -/
def present : Owner → Option (Result J)
  | .module index => some (modules index).toContent
  | .system identifier => merged identifier

theorem present_update (identifier : String) (c : Result J) :
    present modules (Function.update merged identifier (some c)) =
      Function.update (present modules merged) (.system identifier) (some c) := by
  funext owner
  cases owner with
  | module index => rw [Function.update_of_ne (by simp), present, present]
  | system other =>
    by_cases heq : other = identifier
    · subst heq
      rw [Function.update_self, present, Function.update_self]
    · rw [Function.update_of_ne (by simpa using heq), present, Function.update_of_ne heq, present]

end Owned

section Steps

variable {modules : ℕ → Module J} {merged : String → Option (Result J)}
  {identifier : String}

/-- The merged result of the system is `c`. -/
def Standing (modules : ℕ → Module J) (merged : String → Option (Result J)) (identifier : String)
    (c : Result J) (s : Store J) : Prop :=
  s.Holds (present modules (Function.update merged identifier (some c)))

/-- The modules are as they were rendered. -/
def Kept (modules : ℕ → Module J) (s : Store J) : Prop := ∃ merged, s.Holds (present modules merged)

theorem Standing.kept {c : Result J} {s : Store J} (h : Standing modules merged identifier c s) :
    Kept modules s :=
  ⟨_, h⟩

theorem Standing.system {c : Result J} {s : Store J} (_ : Standing modules merged identifier c s) :
    present modules (Function.update merged identifier (some c)) (.system identifier) = some c :=
  Function.update_self _ _ _

theorem Standing.of_holds {c c' : Result J} {s' : Store J} (h : s'.Holds (Function.update
      (present modules (Function.update merged identifier (some c))) (.system identifier)
      (some c'))) : Standing modules merged identifier c' s' := by
  rw [← present_update, Function.update_idem] at h
  exact h

theorem Standing.extend {c c' : Result J} {s : Store J}
    (h : Standing modules merged identifier c s) {path : Path} {previous items : List J}
    (hprevious : c.at path = some previous)
    (hnamed : named (.system identifier) c' = named (.system identifier) c)
    (hat : ∀ p, c'.at p = if p = path then some (previous ++ items) else c.at p) :
    Standing modules merged identifier c' (s.extend (.system identifier, path) items) :=
  Standing.of_holds (Store.Holds.extend h h.system items hprevious hnamed hat)

theorem Standing.allocate {c c' : Result J} {s : Store J}
    (h : Standing modules merged identifier c s) {path : Path} {items : List J}
    {merged' : Content J Ref} (hnamed : merged' = named (.system identifier) c')
    (hat : ∀ p, c'.at p = if p = path then some items else c.at p) :
    Standing modules merged identifier c'
      ((s.allocate (.system identifier, path) items).write identifier merged') := by
  subst hnamed
  exact Standing.of_holds (Store.Holds.allocate h h.system hat)

theorem Standing.write {c c' : Result J} {s : Store J}
    (h : Standing modules merged identifier c s) {merged' : Content J Ref}
    (hnamed : merged' = named (.system identifier) c') (hat : ∀ p, c'.at p = c.at p) :
    Standing modules merged identifier c' (s.write identifier merged') := by
  subst hnamed
  exact Standing.of_holds (Store.Holds.write h h.system hat)

theorem Standing.onMerged {c : Result J} {s : Store J}
    (h : Standing modules merged identifier c s) (f : Content J Ref → MergeM J Unit) :
    onMerged identifier f s = f (named (.system identifier) c) s := by
  have hresult : s.results (.system identifier) = some (named (.system identifier) c) := by
    rw [h.result, h.system]
    rfl
  rw [Merge.onMerged, hresult]

theorem Standing.items {c : Result J} {s : Store J} (h : Standing modules merged identifier c s)
    (index : ℕ) (key : ListKey) :
    (((named (.module index) (modules index).toContent).lists key).map s.lists).getD [] =
      ((modules index).lists key).getD [] :=
  Store.Holds.items h rfl key

theorem at_update_key (c : Result J) (key : ListKey) (items : List J) (p : Path) :
    ({ c with lists := Function.update c.lists key (some items) } : Result J).at p =
      if p = .key key then some items else c.at p := by
  cases p with
  | key other =>
    by_cases heq : other = key
    · subst heq
      rw [if_pos rfl]
      exact Function.update_self _ _ _
    · rw [if_neg (by simpa using heq)]
      exact Function.update_of_ne heq _ _
  | topology other => rfl
  | group other => rfl

theorem named_update_key (owner : Owner) (c : Result J) (key : ListKey) (items : List J) :
    named owner { c with lists := Function.update c.lists key (some items) } =
      { named owner c with
        lists := Function.update (named owner c).lists key (some (owner, .key key)) } := by
  simp only [named, Content.mapPath, Content.mk.injEq, true_and, and_true]
  funext other
  by_cases heq : other = key
  · subst heq
    rw [Function.update_self, Function.update_self]
    rfl
  · rw [Function.update_of_ne heq, Function.update_of_ne heq]

theorem extendKey_simulates (index : ℕ) (key : ListKey) :
    Simulates (Standing modules merged identifier)
      (fun c _ s => Standing modules merged identifier c s) (Kept modules)
      (extendKey identifier (named (.module index) (modules index).toContent) key)
      (fun c => Content.withKey (modules index).toContent c key) := by
  refine Simulates.of_ok fun c s h => ?_
  rw [extendKey, h.onMerged, Triple.run_modify, h.items]
  refine ⟨_, _, rfl, ?_⟩
  have hnamed : (named (.system identifier) c).lists key =
      (c.lists key).map fun _ => (.system identifier, .key key) := rfl
  cases hlist : c.lists key with
  | some previous =>
    rw [hlist, Option.map_some] at hnamed
    rw [hnamed]
    refine h.extend hlist ?_ fun p => at_update_key c key _ p
    rw [named_update_key, ← hnamed, Function.update_eq_self]
  | none =>
    rw [hlist, Option.map_none] at hnamed
    rw [hnamed]
    exact h.allocate (named_update_key _ _ _ _).symm fun p => at_update_key c key _ p

theorem mergeFile_simulates (file : String × String) :
    Simulates (Standing modules merged identifier)
      (fun c _ s => Standing modules merged identifier c s) (Kept modules)
      (mergeFile identifier file) (fun c => Content.withFile c file) := by
  refine Simulates.of_cases fun c s h => ?_
  rw [mergeFile, h.onMerged, Content.withFile]
  rw [named_runtimeFiles]
  by_cases hduplicate : (c.runtimeFiles.lookup file.1).isSome = true
  · rw [if_pos hduplicate, if_pos hduplicate]
    exact .inr ⟨_, s, rfl, rfl, h.kept⟩
  · rw [if_neg hduplicate, if_neg hduplicate, Triple.run_modify]
    exact .inl ⟨_, _, _, rfl, rfl, h.write rfl fun p => by cases p <;> rfl⟩

theorem mergePreflight_simulates (index : ℕ) :
    Simulates (Standing modules merged identifier)
      (fun c _ s => Standing modules merged identifier c s) (Kept modules)
      (mergePreflight identifier (named (.module index) (modules index).toContent))
      (fun c => Content.withPreflight (modules index).toContent c) := by
  refine Simulates.of_ok fun c s h => ?_
  rw [mergePreflight, h.onMerged]
  rw [named_preflightRequired]
  cases hvalue : (modules index).preflightRequired with
  | none =>
    refine ⟨(), s, rfl, ?_⟩
    rw [Option.merge_none_right]
    exact h
  | some value =>
    refine ⟨(), _, rfl, h.write ?_ fun p => by cases p <;> rfl⟩
    have hmerge : Option.merge (· || ·) c.preflightRequired (some value) =
        some ((c.preflightRequired.getD false) || value) := by
      cases c.preflightRequired <;> rfl
    rw [hmerge]
    rfl

section Dictionaries

variable (c : Result J) (owner : Owner) (key : String)

theorem named_assign_topology (entry : Entry J (List J)) :
    named owner { c with expectedTopology := Dictionary.assign key entry c.expectedTopology } =
      { named owner c with
        expectedTopology := Dictionary.assign key (entry.map fun _ => (owner, .topology key))
          (named owner c).expectedTopology } := by
  simp only [named, Content.mapPath, Content.mk.injEq, true_and, and_true]
  exact Dictionary.map_assign (fun key (entry : Entry J (List J)) =>
    entry.map fun _ => (owner, Path.topology key)) key entry c.expectedTopology

theorem at_assign_topology (entry : Entry J (List J)) (p : Path) :
    ({ c with
      expectedTopology := Dictionary.assign key entry c.expectedTopology } : Result J).at p =
      if p = .topology key then entry.items else c.at p := by
  cases p with
  | key other => rfl
  | topology other =>
    simp only [Content.at, Dictionary.lookup_assign, Path.topology.injEq]
    split_ifs
    · rfl
    · rfl
  | group other => rfl

theorem named_assign_group (items : List J) :
    named owner { c with actuatorGroups := Dictionary.assign key items c.actuatorGroups } =
      { named owner c with
        actuatorGroups := Dictionary.assign key (owner, .group key)
          (named owner c).actuatorGroups } := by
  simp only [named, Content.mapPath, Content.mk.injEq, true_and, and_true]
  exact Dictionary.map_assign (fun key (_ : List J) => (owner, Path.group key)) key items
    c.actuatorGroups

theorem at_assign_group (items : List J) (p : Path) :
    ({ c with actuatorGroups := Dictionary.assign key items c.actuatorGroups } : Result J).at p =
      if p = .group key then some items else c.at p := by
  cases p with
  | key other => rfl
  | topology other => rfl
  | group other =>
    simp only [Content.at, Dictionary.lookup_assign, Path.group.injEq]

theorem named_lookup_topology :
    (named owner c).expectedTopology.lookup key =
      (c.expectedTopology.lookup key).map fun entry => entry.map fun _ => (owner, .topology key) :=
  Dictionary.lookup_map (fun key (entry : Entry J (List J)) =>
    entry.map fun _ => (owner, Path.topology key)) c.expectedTopology key

theorem named_lookup_group :
    (named owner c).actuatorGroups.lookup key =
      (c.actuatorGroups.lookup key).map fun _ => (owner, .group key) :=
  Dictionary.lookup_map (fun key (_ : List J) => (owner, Path.group key)) c.actuatorGroups key

end Dictionaries

theorem mergeTopology_simulates [DecidableEq J] (index : ℕ) {key : String}
    {entry : Entry J (List J)} (hmem : (key, entry) ∈ (modules index).expectedTopology) :
    Simulates (Standing modules merged identifier)
      (fun c _ s => Standing modules merged identifier c s) (Kept modules)
      (mergeTopology identifier (key, entry.map fun _ => (.module index, .topology key)))
      (fun c => Content.withTopology identifier c (key, entry)) := by
  refine Simulates.of_cases fun c s h => ?_
  have hsource : (modules index).expectedTopology.lookup key = some entry :=
    Dictionary.lookup_of_mem (modules index).topology_nodup hmem
  have hread : ∀ items, entry = .list items →
      s.lists (.module index, .topology key) = items := by
    rintro items rfl
    refine h.lists (.module index) _ rfl (.topology key) items ?_
    simp only [Content.at, hsource, Option.bind_some, Entry.items]
  have hnamed := named_lookup_topology c (.system identifier) key
  rw [mergeTopology, h.onMerged, Content.withTopology]
  dsimp only
  cases hlookup : c.expectedTopology.lookup key with
  | none =>
    rw [hlookup, Option.map_none] at hnamed
    rw [hnamed]
    cases entry with
    | scalar value =>
      refine .inl ⟨_, _, _, rfl, rfl,
        h.write (named_assign_topology c _ key (.scalar value)).symm fun p => ?_⟩
      rw [at_assign_topology]
      split_ifs with hp
      · rw [hp, Content.at, hlookup]
        rfl
      · rfl
    | list items =>
      refine .inl ⟨_, _, _, rfl, rfl, ?_⟩
      dsimp only
      rw [hread items rfl]
      exact h.allocate (named_assign_topology c _ key (.list items)).symm fun p =>
        at_assign_topology c key (.list items) p
  | some previous =>
    rw [hlookup, Option.map_some] at hnamed
    rw [hnamed]
    have hsame : ∀ value, value = previous →
        Standing modules merged identifier
          { c with expectedTopology := Dictionary.assign key value c.expectedTopology } s := by
      rintro value rfl
      rw [Dictionary.assign_lookup hlookup]
      exact h
    cases previous with
    | scalar previous =>
      cases entry with
      | list items => exact .inr ⟨_, s, rfl, rfl, h.kept⟩
      | scalar value =>
        by_cases hne : previous ≠ value
        · simp only [Option.bind_some, Entry.conflict, Entry.map, if_pos hne]
          exact .inr ⟨_, s, rfl, rfl, h.kept⟩
        · simp only [Option.bind_some, Entry.conflict, Entry.map, if_neg hne]
          exact .inl ⟨_, (), s, rfl, rfl, hsame _ rfl⟩
    | list previous =>
      cases entry with
      | scalar value => exact .inr ⟨_, s, rfl, rfl, h.kept⟩
      | list items =>
        refine .inl ⟨_, _, _, rfl, rfl, ?_⟩
        dsimp only
        rw [hread items rfl]
        have hprevious : c.at (.topology key) = some previous := by
          simp only [Content.at, hlookup, Option.bind_some, Entry.items]
        refine h.extend hprevious ?_ fun p =>
          at_assign_topology c key (.list (previous ++ items)) p
        · refine (named_assign_topology c _ key (.list (previous ++ items))).trans ?_
          simp only [Entry.map] at hnamed ⊢
          rw [Dictionary.assign_lookup hnamed]

theorem mergeGroup_simulates (index : ℕ) {key : String} {names : List J}
    (hmem : (key, names) ∈ (modules index).actuatorGroups) :
    Simulates (Standing modules merged identifier)
      (fun c _ s => Standing modules merged identifier c s) (Kept modules)
      (mergeGroup identifier (key, (.module index, .group key)))
      (fun c => Content.withGroup c (key, names)) := by
  refine Simulates.of_ok fun c s h => ?_
  have hread : s.lists (.module index, .group key) = names :=
    h.lists (.module index) _ rfl (.group key) names
      (Dictionary.lookup_of_mem (modules index).groups_nodup hmem)
  have hnamed := named_lookup_group c (.system identifier) key
  rw [mergeGroup, h.onMerged]
  dsimp only
  cases hlookup : c.actuatorGroups.lookup key with
  | none =>
    rw [hlookup, Option.map_none] at hnamed
    rw [hnamed]
    refine ⟨_, _, rfl, ?_⟩
    dsimp only
    rw [hread]
    exact h.allocate (named_assign_group c _ key names).symm fun p => at_assign_group c key names p
  | some previous =>
    rw [hlookup, Option.map_some] at hnamed
    rw [hnamed]
    refine ⟨_, _, rfl, ?_⟩
    dsimp only
    rw [hread]
    have hprevious : c.at (.group key) = some previous := hlookup
    refine h.extend hprevious ?_ fun p => at_assign_group c key (previous ++ names) p
    refine (named_assign_group c _ key (previous ++ names)).trans ?_
    rw [Dictionary.assign_lookup hnamed]

theorem checkOwner_simulates [DecidableEq J] (index : ℕ) (owner other : String) :
    Simulates (Standing modules merged identifier)
      (fun c _ s => Standing modules merged identifier c s) (Kept modules)
      (checkOwner identifier (named (.module index) (modules index).toContent) owner other)
      (fun c => Content.sameHardware identifier owner other (modules index).toContent c) := by
  refine Simulates.of_cases fun c s h => ?_
  rw [checkOwner, h.onMerged, Content.sameHardware]
  by_cases hconflict : owner ≠ other ∨ c.hardwarePlugin ≠ (modules index).hardwarePlugin ∨
      c.hardwareParams ≠ (modules index).hardwareParams
  · exact .inr ⟨_, s, if_pos hconflict, congrFun (if_pos hconflict) s, h.kept⟩
  · exact .inl ⟨_, (), s, if_neg hconflict, congrFun (if_neg hconflict) s, h⟩

theorem mergeInto_simulates [DecidableEq J] (index : ℕ) (owner other : String) :
    Simulates (Standing modules merged identifier)
      (fun c _ s => Standing modules merged identifier c s) (Kept modules)
      (mergeInto identifier (named (.module index) (modules index).toContent) owner other)
      (fun c => Content.merge identifier owner other (modules index).toContent c) := by
  have htopology : Simulates (Standing modules merged identifier)
      (fun c _ s => Standing modules merged identifier c s) (Kept modules)
      ((named (.module index) (modules index).toContent).expectedTopology.forM
        (mergeTopology identifier))
      (fun c => (modules index).expectedTopology.foldlM (Content.withTopology identifier) c) :=
    Simulates.forM_map _ _ fun entry hentry => mergeTopology_simulates index hentry
  have hgroups : Simulates (Standing modules merged identifier)
      (fun c _ s => Standing modules merged identifier c s) (Kept modules)
      ((named (.module index) (modules index).toContent).actuatorGroups.forM
        (mergeGroup identifier))
      (fun c => (modules index).actuatorGroups.foldlM Content.withGroup c) :=
    Simulates.forM_map _ _ fun group hgroup => mergeGroup_simulates index hgroup
  refine (checkOwner_simulates index owner other).bind fun _ => ?_
  refine (Simulates.forM _ fun key _ => extendKey_simulates index key).bind fun _ => ?_
  refine (Simulates.forM _ fun file _ => mergeFile_simulates file).bind fun _ => ?_
  exact (mergePreflight_simulates index).bind fun _ => htopology.bind fun _ => hgroups

end Steps

section Systems

variable {modules : ℕ → Module J} {name : J → String}

/-- The store and the progress stand for the merged systems. -/
structure Stands (modules : ℕ → Module J) (merged : Merged J) (progress : Progress)
    (s : Store J) : Prop where
  holds : s.Holds (present modules fun identifier =>
    (merged.systems.lookup identifier).map Prod.snd)
  systems : progress.systems = merged.systems.map fun e => (e.1, e.2.1)
  allNames : progress.allNames = merged.allNames
  nodup : (merged.systems.map Prod.fst).Nodup

theorem Stands.initial : Stands modules {} {} (Store.initial modules) := by
  refine ⟨⟨fun owner => ?_, fun owner c hc path items hitems => ?_⟩, rfl, rfl, List.nodup_nil⟩
  · cases owner with
    | module index => rfl
    | system identifier => rfl
  · cases owner with
    | module index =>
      cases hc
      exact congrArg (·.getD []) hitems
    | system identifier => cases hc

theorem Stands.kept {merged : Merged J} {progress : Progress} {s : Store J}
    (h : Stands modules merged progress s) : Kept modules s :=
  ⟨_, h.holds⟩

theorem Stands.elementNames {merged : Merged J} {progress : Progress} {s : Store J}
    (h : Stands modules merged progress s) (index : ℕ) :
    elementNames name s (named (.module index) (modules index).toContent) =
      (modules index).toContent.elementNames name := by
  unfold Merge.elementNames Content.elementNames
  have hmodule : present modules (fun identifier =>
      (merged.systems.lookup identifier).map Prod.snd) (.module index) =
        some (modules index).toContent := rfl
  simp only [h.holds.items hmodule]

theorem Stands.lookup {merged : Merged J} {progress : Progress} {s : Store J}
    (h : Stands modules merged progress s) (identifier : String) :
    progress.systems.lookup identifier = (merged.systems.lookup identifier).map Prod.fst := by
  rw [h.systems]
  exact Dictionary.lookup_map (fun _ (e : String × Result J) => e.1) merged.systems identifier

theorem lookup_assign_content (systems : List (String × String × Result J)) (identifier : String)
    (value : String × Result J) :
    (fun other => ((Dictionary.assign identifier value systems).lookup other).map Prod.snd) =
      Function.update (fun other => (systems.lookup other).map Prod.snd) identifier
        (some value.2) := by
  funext other
  rw [Dictionary.lookup_assign]
  by_cases heq : other = identifier
  · rw [if_pos heq, heq, Function.update_self]
    rfl
  · rw [if_neg heq, Function.update_of_ne heq]

theorem Stands.copied {merged : Merged J} {progress : Progress} {s : Store J}
    (h : Stands modules merged progress s) (owner : String) (index : ℕ) (allNames : List String)
    (hnew : merged.systems.lookup (modules index).hardwareSystemId = none) :
    Stands modules
      ⟨merged.systems ++ [((modules index).hardwareSystemId, owner, (modules index).toContent)],
        allNames⟩
      ⟨progress.systems ++ [((modules index).hardwareSystemId, owner)], allNames⟩
      (s.deepcopy (named (.module index) (modules index).toContent)
        (modules index).hardwareSystemId) := by
  rw [← Dictionary.assign_of_lookup_none hnew]
  refine ⟨?_, ?_, rfl, Dictionary.nodup_assign h.nodup⟩
  · dsimp only
    rw [lookup_assign_content, present_update]
    exact h.holds.deepcopy rfl
  · rw [h.systems, Dictionary.assign_of_lookup_none hnew, List.map_append]
    rfl

theorem Stands.merged {merged : Merged J} {progress : Progress} {s s' : Store J}
    (h : Stands modules merged progress s) {identifier owner : String} {c c' : Result J}
    (allNames : List String) (hlookup : merged.systems.lookup identifier = some (owner, c))
    (hstanding : Standing modules
      (fun other => (merged.systems.lookup other).map Prod.snd) identifier c' s') :
    Stands modules ⟨Dictionary.assign identifier (owner, c') merged.systems, allNames⟩
      ⟨progress.systems, allNames⟩ s' := by
  refine ⟨?_, ?_, rfl, Dictionary.nodup_assign h.nodup⟩
  · dsimp only
    rw [lookup_assign_content]
    exact hstanding
  · have hmap := Dictionary.map_assign (fun _ (e : String × Result J) => e.1) identifier (owner, c')
      merged.systems
    dsimp only at hmap ⊢
    rw [hmap, h.systems, Dictionary.assign_lookup]
    rw [Dictionary.lookup_map (fun _ (e : String × Result J) => e.1), hlookup]
    rfl

variable [DecidableEq J]

theorem mergeModule_simulates (entry : String × ℕ) (progress : Progress) :
    Simulates (fun merged s => Stands modules merged progress s) (Stands modules) (Kept modules)
      (mergeModule name progress entry) (fun merged => merged.add name modules entry) := by
  refine Simulates.of_cases fun merged s h => ?_
  have hresult : s.results (.module entry.2) =
      some (named (.module entry.2) (modules entry.2).toContent) := h.holds.result _
  unfold mergeModule Merged.add
  rw [hresult]
  dsimp only
  rw [named_hardwareSystemId, h.lookup, h.elementNames, h.allNames]
  cases hlookup : merged.systems.lookup (modules entry.2).hardwareSystemId with
  | none => exact .inl ⟨_, _, _, rfl, rfl, h.copied entry.1 entry.2 _ hlookup⟩
  | some system =>
    obtain ⟨owner, c⟩ := system
    have hstanding : Standing modules
        (fun other => (merged.systems.lookup other).map Prod.snd)
        (modules entry.2).hardwareSystemId c s := by
      have hsame : (fun other => (merged.systems.lookup other).map Prod.snd)
          (modules entry.2).hardwareSystemId = some c := by
        dsimp only
        rw [hlookup]
        rfl
      unfold Standing
      rw [← hsame, Function.update_eq_self]
      exact h.holds
    obtain ⟨hok, herror⟩ := mergeInto_simulates entry.2 owner entry.1 c s hstanding
    dsimp only at hok herror
    rw [Option.map_some]
    dsimp only
    cases hmerge : Content.merge (modules entry.2).hardwareSystemId owner entry.1
      (modules entry.2).toContent c with
    | error e =>
      obtain ⟨s', hrun, hkept⟩ := herror e hmerge
      exact .inr ⟨e, s', rfl, Triple.run_bind_error hrun, hkept⟩
    | ok c' =>
      obtain ⟨done, s', hrun, hs'⟩ := hok c' hmerge
      exact .inl ⟨_, _, s', rfl, Triple.run_bind_ok hrun, h.merged _ hlookup hs'⟩

theorem checkSystem_run {merged : Merged J} {progress : Progress} {s : Store J}
    (h : Stands modules merged progress s) {system : String × String × Result J}
    (hmem : system ∈ merged.systems) :
    checkSystem (system.1, system.2.1) s = (system.2.2.check, s) := by
  have hpresent : present modules (fun identifier =>
      (merged.systems.lookup identifier).map Prod.snd) (.system system.1) = some system.2.2 := by
    rw [present, Dictionary.lookup_of_mem h.nodup hmem]
    rfl
  have hresult : s.results (.system system.1) = some (named (.system system.1) system.2.2) := by
    rw [h.holds.result, hpresent]
    rfl
  have hclaims := h.holds.items hpresent .resourceClaims
  have hmanaged : (named (.system system.1) system.2.2).lists .managedJoints =
      (system.2.2.lists .managedJoints).map fun _ => (.system system.1, .key .managedJoints) := rfl
  unfold checkSystem Content.check
  rw [hresult]
  dsimp only
  rw [hmanaged, hclaims]
  cases hlist : system.2.2.lists .managedJoints with
  | none => rfl
  | some managed =>
    have hread : s.lists (.system system.1, .key .managedJoints) = managed :=
      h.holds.lists _ _ hpresent (.key .managedJoints) managed hlist
    dsimp only [Option.map_some]
    rw [hread]
    unfold requireUnique unique
    by_cases hunique : ((system.2.2.lists .resourceClaims).getD []).Nodup
    · rw [if_pos hunique, if_pos hunique]
      by_cases hjoints : managed.Nodup
      · rw [if_pos hjoints, if_pos hjoints]
        rfl
      · rw [if_neg hjoints, if_neg hjoints]
        rfl
    · rw [if_neg hunique, if_neg hunique]
      rfl

variable (name modules) in
/-- `mergeSystems` on objects is `mergeSystems` on values; the modules stay as they are. -/
theorem mergeSystems_simulates (rendered : List (String × ℕ)) :
    Simulates (fun (_ : Unit) s => s = Store.initial modules)
      (fun merged systems s => Stands modules merged ⟨systems, merged.allNames⟩ s) (Kept modules)
      (mergeSystems name rendered) (fun _ => mergeValues name modules rendered) := by
  have hloop : Simulates (fun (_ : Unit) s => s = Store.initial modules) (Stands modules)
      (Kept modules) (rendered.foldlM (mergeModule name) {})
      (fun _ => rendered.foldlM (Merged.add name modules) {}) := by
    rintro ⟨⟩ s rfl
    exact Simulates.foldlM rendered (fun entry _ progress => mergeModule_simulates entry progress)
      {} {} _ Stands.initial
  refine hloop.bind fun progress => Simulates.of_cases fun merged s h => ?_
  have hchecks : (progress.systems.forM checkSystem) s =
      (merged.systems.forM fun system => system.2.2.check, s) := by
    rw [h.systems]
    exact Simulates.run_forM_map _ _ fun system hsystem => checkSystem_run h hsystem
  cases hcheck : merged.systems.forM fun system => system.2.2.check with
  | error e =>
    rw [hcheck] at hchecks
    exact .inr ⟨e, s, rfl, Triple.run_bind_error hchecks, h.kept⟩
  | ok done =>
    rw [hcheck] at hchecks
    rw [Triple.run_bind_ok hchecks, requireUnique, h.allNames]
    dsimp only [unique]
    by_cases hunique : merged.allNames.Nodup
    · rw [if_pos hunique, if_pos hunique]
      refine .inl ⟨merged, progress.systems, s, rfl, rfl, ?_⟩
      rw [← h.allNames]
      exact h
    · rw [if_neg hunique, if_neg hunique]
      exact .inr ⟨_, s, rfl, rfl, h.kept⟩

end Systems

end RobotDriver.Composer.Merge
