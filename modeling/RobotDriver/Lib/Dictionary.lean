import Mathlib.Data.List.Dedup
import Mathlib.Data.List.Nodup

/-!
# Dictionaries as lists of entries

`assign` gives a key a value at the place the key has, or at the end. Dictionaries without a common
key can be joined in any order.
-/

namespace Dictionary

variable {α β : Type*} [DecidableEq α]

def assign (key : α) (value : β) : List (α × β) → List (α × β)
  | [] => [(key, value)]
  | entry :: rest =>
    if entry.1 = key then (key, value) :: rest else entry :: assign key value rest

theorem lookup_cons (entry : α × β) (rest : List (α × β)) (key : α) :
    (entry :: rest).lookup key = if key = entry.1 then some entry.2 else rest.lookup key := by
  rw [List.lookup_cons]
  by_cases h : key = entry.1
  · rw [if_pos h, beq_iff_eq.2 h]
  · rw [if_neg h, beq_eq_false_iff_ne.2 h]

theorem lookup_assign (key : α) (value : β) (entries : List (α × β)) (other : α) :
    (assign key value entries).lookup other =
      if other = key then some value else entries.lookup other := by
  induction entries with
  | nil => rw [assign, lookup_cons]
  | cons entry rest ih =>
    rw [assign]
    by_cases hentry : entry.1 = key
    · rw [if_pos hentry, lookup_cons, lookup_cons, hentry]
      by_cases h : other = key
      · rw [if_pos h, if_pos h]
      · rw [if_neg h, if_neg h, if_neg h]
    · rw [if_neg hentry, lookup_cons, lookup_cons, ih]
      by_cases h : other = entry.1
      · have hne : other ≠ key := fun heq => hentry (h.symm.trans heq)
        rw [if_pos h, if_neg hne, if_pos h]
      · rw [if_neg h, if_neg h]

def DisjointKeys (first second : List (α × β)) : Prop :=
  ∀ key, (first.lookup key).isSome = true → second.lookup key = none

theorem DisjointKeys.symm {first second : List (α × β)} (h : DisjointKeys first second) :
    DisjointKeys second first := by
  intro key hkey
  by_contra hne
  rw [h key (Option.isSome_iff_ne_none.2 hne)] at hkey
  cases hkey

theorem disjointKeys_append {first second third : List (α × β)} :
    DisjointKeys (first ++ second) third ↔
      DisjointKeys first third ∧ DisjointKeys second third := by
  simp only [DisjointKeys, List.lookup_append, Option.isSome_or, Bool.or_eq_true]
  constructor
  · intro h
    exact ⟨fun key hkey => h key (.inl hkey), fun key hkey => h key (.inr hkey)⟩
  · rintro ⟨hfirst, hsecond⟩ key (hkey | hkey)
    · exact hfirst key hkey
    · exact hsecond key hkey

theorem disjointKeys_flatten {dictionary : List (α × β)} {dictionaries : List (List (α × β))} :
    DisjointKeys dictionary dictionaries.flatten ↔
      ∀ other ∈ dictionaries, DisjointKeys dictionary other := by
  induction dictionaries with
  | nil => simp [DisjointKeys]
  | cons first rest ih =>
    rw [List.flatten_cons, List.forall_mem_cons, ← ih]
    constructor
    · intro h
      obtain ⟨hfirst, hrest⟩ := disjointKeys_append.1 h.symm
      exact ⟨hfirst.symm, hrest.symm⟩
    · rintro ⟨hfirst, hrest⟩
      exact (disjointKeys_append.2 ⟨hfirst.symm, hrest.symm⟩).symm

theorem pairwise_append_iff {first second : List (α × β)} {rest : List (List (α × β))} :
    DisjointKeys first second ∧ ((first ++ second) :: rest).Pairwise DisjointKeys ↔
      (first :: second :: rest).Pairwise DisjointKeys := by
  simp only [List.pairwise_cons, List.forall_mem_cons, disjointKeys_append]
  constructor
  · rintro ⟨hdisjoint, hrest, hpairwise⟩
    exact ⟨⟨hdisjoint, fun other hmem => (hrest other hmem).1⟩,
      fun other hmem => (hrest other hmem).2, hpairwise⟩
  · rintro ⟨⟨hdisjoint, hfirst⟩, hsecond, hpairwise⟩
    exact ⟨hdisjoint, fun other hmem => ⟨hfirst other hmem, hsecond other hmem⟩, hpairwise⟩

theorem lookup_flatten_isSome {dictionaries : List (List (α × β))} {key : α} :
    (dictionaries.flatten.lookup key).isSome = true ↔
      ∃ dictionary ∈ dictionaries, (dictionary.lookup key).isSome = true := by
  induction dictionaries with
  | nil => simp
  | cons first rest ih =>
    rw [List.flatten_cons, List.lookup_append, Option.isSome_or, Bool.or_eq_true, ih,
      List.exists_mem_cons_iff]

theorem lookup_flatten_of_mem {dictionaries : List (List (α × β))}
    (hdisjoint : dictionaries.Pairwise DisjointKeys) {dictionary : List (α × β)}
    (hmem : dictionary ∈ dictionaries) {key : α} {value : β}
    (hvalue : dictionary.lookup key = some value) :
    dictionaries.flatten.lookup key = some value := by
  induction dictionaries with
  | nil => cases hmem
  | cons first rest ih =>
    obtain ⟨hfirst, hrest⟩ := List.pairwise_cons.1 hdisjoint
    rw [List.flatten_cons, List.lookup_append]
    rcases List.mem_cons.1 hmem with rfl | hmem
    · rw [hvalue, Option.some_or]
    · have hnone := (hfirst dictionary hmem).symm key (by rw [hvalue]; rfl)
      rw [hnone, Option.none_or, ih hrest hmem]

theorem lookup_flatten_perm {dictionaries dictionaries' : List (List (α × β))}
    (hperm : dictionaries.Perm dictionaries') (hdisjoint : dictionaries.Pairwise DisjointKeys)
    (key : α) : dictionaries.flatten.lookup key = dictionaries'.flatten.lookup key := by
  have hdisjoint' : dictionaries'.Pairwise DisjointKeys :=
    hperm.pairwise hdisjoint fun h => h.symm
  rcases hlookup : dictionaries.flatten.lookup key with - | value
  · by_contra hne
    obtain ⟨dictionary, hmem, hsome⟩ :=
      lookup_flatten_isSome.1 (Option.isSome_iff_ne_none.2 (Ne.symm hne))
    have hsome' := lookup_flatten_isSome.2 ⟨dictionary, hperm.mem_iff.2 hmem, hsome⟩
    rw [hlookup] at hsome'
    cases hsome'
  · obtain ⟨dictionary, hmem, hsome⟩ :=
      lookup_flatten_isSome.1 (by rw [hlookup]; rfl : (dictionaries.flatten.lookup key).isSome)
    obtain ⟨given, hgiven⟩ := Option.isSome_iff_exists.1 hsome
    have heq := lookup_flatten_of_mem hdisjoint hmem hgiven
    rw [hlookup] at heq
    cases heq
    exact (lookup_flatten_of_mem hdisjoint' (hperm.mem_iff.1 hmem) hgiven).symm

theorem lookup_perm {entries entries' : List (α × β)} (hperm : entries.Perm entries')
    (hnodup : (entries.map Prod.fst).Nodup) (key : α) :
    entries.lookup key = entries'.lookup key := by
  have hsingle (list : List (α × β)) : (list.map fun entry => [entry]).flatten = list := by
    induction list with
    | nil => rfl
    | cons entry rest ih => rw [List.map_cons, List.flatten_cons, ih, List.singleton_append]
  rw [← hsingle entries, ← hsingle entries']
  refine lookup_flatten_perm (hperm.map _) ?_ key
  rw [List.pairwise_map]
  refine (List.pairwise_map.1 hnodup).imp fun {first second} hne => ?_
  intro key hkey
  rw [lookup_cons] at hkey ⊢
  by_cases h : key = first.1
  · rw [if_neg (h.trans_ne hne), List.lookup_nil]
  · rw [if_neg h] at hkey
    cases hkey

def assignAll (entries dictionary : List (α × β)) : List (α × β) :=
  entries.foldl (fun result entry => assign entry.1 entry.2 result) dictionary

theorem lookup_assignAll (entries dictionary : List (α × β)) (key : α) :
    (assignAll entries dictionary).lookup key =
      (entries.reverse.lookup key).or (dictionary.lookup key) := by
  induction entries generalizing dictionary with
  | nil => rfl
  | cons entry rest ih =>
    rw [assignAll, List.foldl_cons, ← assignAll, ih, lookup_assign, List.reverse_cons,
      List.lookup_append, lookup_cons, List.lookup_nil]
    by_cases h : key = entry.1
    · rw [if_pos h, if_pos h, Option.or_assoc, Option.some_or]
    · rw [if_neg h, if_neg h, Option.or_none]

theorem isSome_lookup_iff {entries : List (α × β)} {key : α} :
    (entries.lookup key).isSome = true ↔ key ∈ entries.map Prod.fst := by
  induction entries with
  | nil => simp
  | cons entry rest ih =>
    rw [lookup_cons, List.map_cons, List.mem_cons, ← ih]
    by_cases h : key = entry.1
    · simp [h]
    · simp [h]

def duplicateKeys (first second : List (α × β)) : List α :=
  ((first.map Prod.fst).filter fun key => (second.lookup key).isSome).dedup

theorem duplicateKeys_eq_nil_iff {first second : List (α × β)} :
    duplicateKeys first second = [] ↔ DisjointKeys first second := by
  rw [duplicateKeys, List.dedup_eq_nil, List.filter_eq_nil_iff]
  refine forall_congr' fun key => ?_
  rw [← isSome_lookup_iff, Bool.not_eq_true, Option.isSome_eq_false_iff, Option.isNone_iff_eq_none]

theorem isSome_lookup_assignAll {entries : List (α × β)} {key : α} :
    ((assignAll entries []).lookup key).isSome = true ↔ key ∈ entries.map Prod.fst := by
  rw [lookup_assignAll, List.lookup_nil, Option.or_none, isSome_lookup_iff, List.map_reverse,
    List.mem_reverse]

theorem lookup_assignAll_perm {entries entries' : List (α × β)} (hperm : entries.Perm entries')
    (hnodup : (entries.map Prod.fst).Nodup) (key : α) :
    (assignAll entries []).lookup key = (assignAll entries' []).lookup key := by
  rw [lookup_assignAll, lookup_assignAll, List.lookup_nil, Option.or_none, Option.or_none]
  refine lookup_perm ?_ (by rwa [List.map_reverse, List.nodup_reverse]) key
  exact (List.reverse_perm entries).trans (hperm.trans (List.reverse_perm entries').symm)

theorem lookup_map {γ : Type*} (f : α → β → γ) (entries : List (α × β)) (key : α) :
    (entries.map fun e => (e.1, f e.1 e.2)).lookup key = (entries.lookup key).map (f key) := by
  induction entries with
  | nil => rfl
  | cons entry rest ih =>
    rw [List.map_cons, lookup_cons, lookup_cons, ih]
    by_cases heq : key = entry.1
    · rw [if_pos heq, if_pos heq, heq]
      rfl
    · rw [if_neg heq, if_neg heq]

theorem map_assign {γ : Type*} (f : α → β → γ) (key : α) (value : β) (entries : List (α × β)) :
    (assign key value entries).map (fun e => (e.1, f e.1 e.2)) =
      assign key (f key value) (entries.map fun e => (e.1, f e.1 e.2)) := by
  induction entries with
  | nil => rfl
  | cons entry rest ih =>
    rw [assign, List.map_cons, assign]
    by_cases heq : entry.1 = key
    · rw [if_pos heq, if_pos heq, List.map_cons]
    · rw [if_neg heq, if_neg heq, List.map_cons, ih]

theorem assign_lookup {key : α} {value : β} {entries : List (α × β)}
    (h : entries.lookup key = some value) : assign key value entries = entries := by
  induction entries with
  | nil => cases h
  | cons entry rest ih =>
    rw [lookup_cons] at h
    rw [assign]
    by_cases heq : key = entry.1
    · rw [if_pos heq] at h
      rw [if_pos heq.symm, heq, ← Option.some.inj h]
    · rw [if_neg heq] at h
      rw [if_neg (Ne.symm heq), ih h]

theorem lookup_of_mem {entries : List (α × β)} (hnodup : (entries.map Prod.fst).Nodup)
    {entry : α × β} (hmem : entry ∈ entries) : entries.lookup entry.1 = some entry.2 := by
  induction entries with
  | nil => cases hmem
  | cons first rest ih =>
    obtain ⟨hnotMem, hrest⟩ := List.nodup_cons.1 hnodup
    rw [lookup_cons]
    rcases List.mem_cons.1 hmem with rfl | hmem
    · rw [if_pos rfl]
    · have hne : entry.1 ≠ first.1 := fun heq => hnotMem (heq ▸ List.mem_map_of_mem hmem)
      rw [if_neg hne, ih hrest hmem]

theorem assign_of_lookup_none {key : α} {value : β} {entries : List (α × β)}
    (h : entries.lookup key = none) : assign key value entries = entries ++ [(key, value)] := by
  induction entries with
  | nil => rfl
  | cons entry rest ih =>
    rw [lookup_cons] at h
    by_cases hentry : key = entry.1
    · rw [if_pos hentry] at h
      cases h
    · rw [if_neg hentry] at h
      rw [assign, if_neg (Ne.symm hentry), ih h, List.cons_append]

theorem nodup_assign {key : α} {value : β} {entries : List (α × β)}
    (h : (entries.map Prod.fst).Nodup) : ((assign key value entries).map Prod.fst).Nodup := by
  induction entries with
  | nil => exact List.nodup_singleton _
  | cons entry rest ih =>
    obtain ⟨hnotMem, hrest⟩ := List.nodup_cons.1 h
    rw [assign]
    by_cases hentry : entry.1 = key
    · rw [if_pos hentry, List.map_cons, List.nodup_cons]
      exact ⟨hentry ▸ hnotMem, hrest⟩
    · rw [if_neg hentry, List.map_cons, List.nodup_cons]
      refine ⟨fun hmem => ?_, ih hrest⟩
      rw [← isSome_lookup_iff, lookup_assign, if_neg hentry, isSome_lookup_iff] at hmem
      exact hnotMem hmem

/-- The entries of `other` are put in one by one; a key that is there already gets both values. -/
def joinWith (f : β → β → β) (dictionary other : List (α × β)) : List (α × β) :=
  other.foldl (fun result entry =>
    assign entry.1 (((result.lookup entry.1).map (f · entry.2)).getD entry.2) result) dictionary

theorem nodup_joinWith (f : β → β → β) {dictionary : List (α × β)}
    (h : (dictionary.map Prod.fst).Nodup) (other : List (α × β)) :
    ((joinWith f dictionary other).map Prod.fst).Nodup := by
  induction other generalizing dictionary with
  | nil => exact h
  | cons entry rest ih => exact ih (nodup_assign h)

theorem lookup_joinWith (f : β → β → β) (dictionary : List (α × β)) {other : List (α × β)}
    (hnodup : (other.map Prod.fst).Nodup) (key : α) :
    (joinWith f dictionary other).lookup key =
      Option.merge f (dictionary.lookup key) (other.lookup key) := by
  induction other generalizing dictionary with
  | nil => simp [joinWith]
  | cons entry rest ih =>
    obtain ⟨hnotMem, hrest⟩ := List.nodup_cons.1 hnodup
    rw [joinWith, List.foldl_cons, ← joinWith, ih _ hrest, lookup_assign, lookup_cons]
    by_cases h : key = entry.1
    · have hnone : rest.lookup key = none := by
        rw [← Option.not_isSome_iff_eq_none, isSome_lookup_iff, h]
        exact hnotMem
      rw [if_pos h, if_pos h, hnone, h]
      cases dictionary.lookup entry.1 with
      | none => rfl
      | some value => rfl
    · rw [if_neg h, if_neg h]

end Dictionary
