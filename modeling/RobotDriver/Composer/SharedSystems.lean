import RobotDriver.Composer.MergeLaws
import RobotDriver.Composer.MergeRefinement

/-!
# What the modules of a system come to

The results of one system, merged one after another, gather what each of them has under each key.
From there, which lists of modules merge at all and what their systems hold.
-/

namespace RobotDriver.Composer.Merge

open Dictionary

variable {J : Type}

/-- An owner and its result. -/
abbrev Row (J : Type) := String × Result J

/-- The second row can be merged into the first. -/
def Agree (r r' : Row J) : Prop := r.2.Fits r.1 r'.1 r'.2

/-- What the rows hold, each list of a key as one and in the order of the rows. -/
structure Gathers (rows : List (Row J)) (owner : String) (c : Result J) : Prop where
  head : ∀ r ∈ rows, r.1 = owner ∧ r.2.hardwarePlugin = c.hardwarePlugin ∧
    r.2.hardwareParams = c.hardwareParams
  lists : ∀ path, (c.at path).getD [] = rows.flatMap fun r => (r.2.at path).getD []
  keys : ∀ key, (c.lists key).isSome = true ↔
    2 ≤ rows.length ∨ ∃ r ∈ rows, (r.2.lists key).isSome = true
  topology : ∀ key, (c.at (.topology key)).isSome = true ↔
    ∃ r ∈ rows, (r.2.at (.topology key)).isSome = true
  groups : ∀ key, (c.at (.group key)).isSome = true ↔
    ∃ r ∈ rows, (r.2.at (.group key)).isSome = true
  scalars : ∀ key value, c.expectedTopology.lookup key = some (.scalar value) ↔
    ∃ r ∈ rows, r.2.expectedTopology.lookup key = some (.scalar value)
  files : c.runtimeFiles = rows.flatMap fun r => r.2.runtimeFiles
  preflight : c.preflightRequired =
    (rows.map fun r => r.2.preflightRequired).foldl (Option.merge (· || ·)) none
  unmerged : ∃ first, rows.head? = some first ∧ c.unmerged = first.2.unmerged ∧
    c.hardwareSystemId = first.2.hardwareSystemId
  keysNodup : c.KeysNodup

section Join

variable {c m : Result J}

theorem join_at_topology (hm : m.KeysNodup)
    (hfits : TopologyFits c.expectedTopology m.expectedTopology) (key : String) :
    (c.join m).at (.topology key) =
      Option.merge (· ++ ·) (c.at (.topology key)) (m.at (.topology key)) := by
  simp only [Content.at, Content.join, lookup_joinWith _ _ hm.topology]
  cases hc : c.expectedTopology.lookup key with
  | none =>
    cases hm : m.expectedTopology.lookup key with
    | none => rfl
    | some value => cases value <;> rfl
  | some previous =>
    cases hm : m.expectedTopology.lookup key with
    | none => cases previous <;> rfl
    | some value =>
      have hpair := hfits key previous value hc hm
      cases previous with
      | scalar previous =>
        cases value with
        | scalar value => rfl
        | list items => cases hpair
      | list previous =>
        cases value with
        | scalar value => cases hpair
        | list items => rfl

theorem join_at_group (hm : m.KeysNodup) (key : String) :
    (c.join m).at (.group key) = Option.merge (· ++ ·) (c.at (.group key)) (m.at (.group key)) :=
  lookup_joinWith _ _ hm.groups key

theorem getD_merge_append (xs ys : Option (List J)) :
    (Option.merge (· ++ ·) xs ys).getD [] = xs.getD [] ++ ys.getD [] := by
  cases xs with
  | none => cases ys <;> rfl
  | some xs =>
    cases ys with
    | none => exact (List.append_nil xs).symm
    | some ys => rfl

theorem isSome_merge {α : Type} (f : α → α → α) (x y : Option α) :
    (Option.merge f x y).isSome = true ↔ x.isSome = true ∨ y.isSome = true := by
  cases x <;> cases y <;> simp

theorem join_at (hm : m.KeysNodup)
    (hfits : TopologyFits c.expectedTopology m.expectedTopology) (path : Path) :
    ((c.join m).at path).getD [] = (c.at path).getD [] ++ (m.at path).getD [] := by
  cases path with
  | key key => rfl
  | topology key => rw [join_at_topology hm hfits, getD_merge_append]
  | group key => rw [join_at_group hm, getD_merge_append]

theorem join_scalar_iff (hm : m.KeysNodup)
    (hfits : TopologyFits c.expectedTopology m.expectedTopology) (key : String) (value : J) :
    (c.join m).expectedTopology.lookup key = some (.scalar value) ↔
      c.expectedTopology.lookup key = some (.scalar value) ∨
        m.expectedTopology.lookup key = some (.scalar value) := by
  simp only [Content.join, lookup_joinWith _ _ hm.topology]
  cases hc : c.expectedTopology.lookup key with
  | none => simp
  | some previous =>
    cases hm : m.expectedTopology.lookup key with
    | none => simp
    | some next =>
      have hpair := hfits key previous next hc hm
      cases previous with
      | scalar previous =>
        cases next with
        | scalar next =>
          cases hpair
          simp [Option.merge, Entry.append]
        | list items => cases hpair
      | list previous =>
        cases next with
        | scalar next => cases hpair
        | list items => simp [Option.merge, Entry.append]

end Join

section Gathering

variable {rows : List (Row J)} {owner : String} {c : Result J} {r : Row J}

theorem gathers_single (hr : r.2.KeysNodup) : Gathers [r] r.1 r.2 where
  head x hx := by
    rw [List.mem_singleton.1 hx]
    exact ⟨rfl, rfl, rfl⟩
  lists path := by simp
  keys key := by simp
  topology key := by simp
  groups key := by simp
  scalars key value := by simp
  files := by simp
  preflight := by
    cases h : r.2.preflightRequired <;> simp [h]
  unmerged := ⟨r, rfl, rfl, rfl⟩
  keysNodup := hr

theorem exists_mem_snoc {P : Row J → Prop} :
    (∃ x ∈ rows ++ [r], P x) ↔ (∃ x ∈ rows, P x) ∨ P r := by
  simp only [List.mem_append, List.mem_singleton, or_and_right, exists_or, exists_eq_left]

theorem keysNodup_join (hc : c.KeysNodup) (hr : r.2.KeysNodup)
    (hfiles : DisjointKeys c.runtimeFiles r.2.runtimeFiles) : (c.join r.2).KeysNodup := by
  refine ⟨?_, nodup_joinWith _ hc.topology _, nodup_joinWith _ hc.groups _⟩
  rw [Content.join, List.map_append, List.nodup_append]
  refine ⟨hc.files, hr.files, fun key hkey other hother heq => ?_⟩
  have hnone := hfiles key (isSome_lookup_iff.2 hkey)
  rw [heq, ← Option.not_isSome_iff_eq_none, isSome_lookup_iff] at hnone
  exact hnone hother

theorem Gathers.join (h : Gathers rows owner c) (hr : r.2.KeysNodup)
    (hfits : c.Fits owner r.1 r.2) :
    Gathers (rows ++ [r]) owner (c.join r.2) where
  head x hx := by
    rcases List.mem_append.1 hx with hx | hx
    · exact h.head x hx
    · rw [List.mem_singleton.1 hx]
      exact ⟨hfits.owner.symm, hfits.plugin.symm, hfits.params.symm⟩
  lists path := by
    rw [join_at hr hfits.topology, h.lists, List.flatMap_append, List.flatMap_singleton]
  keys key := by
    have hpos : 1 ≤ rows.length := by
      obtain ⟨first, hfirst, -⟩ := h.unmerged
      rw [Nat.one_le_iff_ne_zero, Ne, List.length_eq_zero_iff]
      rintro rfl
      cases hfirst
    refine iff_of_true rfl (.inl ?_)
    rw [List.length_append, List.length_singleton]
    omega
  topology key := by
    rw [join_at_topology hr hfits.topology, isSome_merge, h.topology, exists_mem_snoc]
  groups key := by
    rw [join_at_group hr, isSome_merge, h.groups, exists_mem_snoc]
  scalars key value := by
    rw [join_scalar_iff hr hfits.topology, h.scalars, exists_mem_snoc]
  files := by
    rw [List.flatMap_append, List.flatMap_singleton, ← h.files]
    rfl
  preflight := by
    rw [List.map_append, List.foldl_append, ← h.preflight]
    rfl
  unmerged := by
    obtain ⟨first, hfirst, hunmerged, hidentifier⟩ := h.unmerged
    refine ⟨first, ?_, hunmerged, hidentifier⟩
    rw [List.head?_append, hfirst]
    rfl
  keysNodup := keysNodup_join h.keysNodup hr hfits.files

/-- What an entry is compared by: its value, or that it is a list. -/
def Entry.shape : Entry J (List J) → Option J
  | .scalar value => some value
  | .list _ => none

theorem Entry.fits_iff (previous value : Entry J (List J)) :
    previous.Fits value ↔ previous.shape = value.shape := by
  cases previous with
  | scalar previous | list previous => cases value <;> simp [Fits, shape]

theorem topologyFits_iff_shape {topology other : List (String × Entry J (List J))} :
    TopologyFits topology other ↔ ∀ key shape shape',
      (topology.lookup key).map Entry.shape = some shape →
        (other.lookup key).map Entry.shape = some shape' → shape = shape' := by
  constructor
  · intro h key shape shape' hshape hshape'
    obtain ⟨previous, hprevious, rfl⟩ := Option.map_eq_some_iff.1 hshape
    obtain ⟨value, hvalue, rfl⟩ := Option.map_eq_some_iff.1 hshape'
    exact (Entry.fits_iff previous value).1 (h key previous value hprevious hvalue)
  · intro h key previous value hprevious hvalue
    refine (Entry.fits_iff previous value).2 (h key _ _ ?_ ?_)
    · rw [hprevious, Option.map_some]
    · rw [hvalue, Option.map_some]

theorem scalar_iff_shape (m : Result J) (key : String) (value : J) :
    m.expectedTopology.lookup key = some (.scalar value) ↔
      (m.expectedTopology.lookup key).map Entry.shape = some (some value) := by
  cases m.expectedTopology.lookup key with
  | none => simp
  | some entry => cases entry <;> simp [Entry.shape]

theorem isSome_topology_iff_shape (m : Result J) (key : String) :
    (m.at (.topology key)).isSome = true ↔
      (m.expectedTopology.lookup key).map Entry.shape = some none := by
  rw [Content.at]
  cases m.expectedTopology.lookup key with
  | none => simp
  | some entry => cases entry <;> simp [Entry.shape, Entry.items]

theorem Gathers.shape_iff (h : Gathers rows owner c) (key : String) (shape : Option J) :
    (c.expectedTopology.lookup key).map Entry.shape = some shape ↔
      ∃ x ∈ rows, (x.2.expectedTopology.lookup key).map Entry.shape = some shape := by
  cases shape with
  | none =>
    simp only [← isSome_topology_iff_shape]
    exact h.topology key
  | some value =>
    simp only [← scalar_iff_shape]
    exact h.scalars key value

theorem Gathers.topologyFits_iff {topology : List (String × Entry J (List J))}
    (h : Gathers rows owner c) : TopologyFits c.expectedTopology topology ↔
      ∀ x ∈ rows, TopologyFits x.2.expectedTopology topology := by
  simp only [topologyFits_iff_shape, h.shape_iff]
  constructor
  · exact fun hfits x hx key shape shape' hshape => hfits key shape shape' ⟨x, hx, hshape⟩
  · rintro hfits key shape shape' ⟨x, hx, hshape⟩
    exact hfits x hx key shape shape' hshape

theorem Gathers.disjoint_iff {files : List (String × String)} (h : Gathers rows owner c) :
    DisjointKeys c.runtimeFiles files ↔ ∀ x ∈ rows, DisjointKeys x.2.runtimeFiles files := by
  have hflatten : c.runtimeFiles = (rows.map fun x => x.2.runtimeFiles).flatten := h.files
  constructor
  · intro hdisjoint x hx
    rw [hflatten] at hdisjoint
    exact (disjointKeys_flatten.1 hdisjoint.symm _ (List.mem_map_of_mem hx)).symm
  · intro hall
    rw [hflatten]
    refine (disjointKeys_flatten.2 fun other hother => ?_).symm
    obtain ⟨x, hx, rfl⟩ := List.mem_map.1 hother
    exact (hall x hx).symm

theorem Gathers.fits_iff (h : Gathers rows owner c) (r : Row J) :
    c.Fits owner r.1 r.2 ↔ ∀ x ∈ rows, Agree x r := by
  constructor
  · intro hfits x hx
    obtain ⟨howner, hplugin, hparams⟩ := h.head x hx
    exact ⟨howner.trans hfits.owner, hplugin.trans hfits.plugin, hparams.trans hfits.params,
      h.disjoint_iff.1 hfits.files x hx, h.topologyFits_iff.1 hfits.topology x hx⟩
  · intro hagree
    obtain ⟨first, hfirst, -⟩ := h.unmerged
    have hmem : first ∈ rows := List.mem_of_mem_head? hfirst
    obtain ⟨howner, hplugin, hparams⟩ := h.head first hmem
    have hrow := hagree first hmem
    exact ⟨howner.symm.trans hrow.owner, hplugin.symm.trans hrow.plugin,
      hparams.symm.trans hrow.params, h.disjoint_iff.2 fun x hx => (hagree x hx).files,
      h.topologyFits_iff.2 fun x hx => (hagree x hx).topology⟩

theorem Gathers.sameKinds {m : Result J} (h : Gathers rows owner c)
    (hkinds : ∀ x ∈ rows, SameKinds x.2 m) : SameKinds c m := by
  intro key previous value hprevious hvalue
  have hshape : (c.expectedTopology.lookup key).map Entry.shape = some previous.shape := by
    rw [hprevious, Option.map_some]
  obtain ⟨x, hx, hfound⟩ := (h.shape_iff key previous.shape).1 hshape
  obtain ⟨entry, hentry, hsame⟩ := Option.map_eq_some_iff.1 hfound
  rw [← hkinds x hx key entry value hentry hvalue]
  cases previous with
  | scalar previous =>
    cases entry with
    | scalar entry => rfl
    | list entry => cases hsame
  | list previous =>
    cases entry with
    | scalar entry => cases hsame
    | list entry => rfl

end Gathering

end RobotDriver.Composer.Merge
