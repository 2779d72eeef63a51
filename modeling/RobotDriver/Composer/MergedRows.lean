import RobotDriver.Composer.SharedSystems

/-!
# Merging all rows

The loop over the rendered modules goes through when the rows of each system agree with each other,
and the checks after it when the names and the claims are unique. What a system then holds is what
its rows hold.
-/

namespace RobotDriver.Composer.Merge

open Dictionary

variable {J : Type}

def rows (modules : ℕ → Module J) (rendered : List (String × ℕ)) : List (Row J) :=
  rendered.map fun entry => (entry.1, (modules entry.2).toContent)

/-- The rows of one system. -/
def sharing (identifier : String) (rows : List (Row J)) : List (Row J) :=
  rows.filter fun r => r.2.hardwareSystemId = identifier

/-- What the modules of a system have in the lists at a path. -/
def gathered (identifier : String) (rows : List (Row J)) (path : Path) : List J :=
  (sharing identifier rows).flatMap fun r => (r.2.at path).getD []

def AllAgree (rows : List (Row J)) : Prop :=
  rows.Pairwise fun r r' => r.2.hardwareSystemId = r'.2.hardwareSystemId → Agree r r'

/-- A topology value is a list for all modules of a system, or for none. -/
def ListsInAllOrNone (rows : List (Row J)) : Prop :=
  ∀ r ∈ rows, ∀ r' ∈ rows, r.2.hardwareSystemId = r'.2.hardwareSystemId → SameKinds r.2 r'.2

theorem mem_sharing {identifier : String} {rows : List (Row J)} {r : Row J} :
    r ∈ sharing identifier rows ↔ r ∈ rows ∧ r.2.hardwareSystemId = identifier := by
  rw [sharing, List.mem_filter, decide_eq_true_iff]

theorem sharing_snoc (identifier : String) (rows : List (Row J)) (r : Row J) :
    sharing identifier (rows ++ [r]) =
      sharing identifier rows ++ if r.2.hardwareSystemId = identifier then [r] else [] := by
  rw [sharing, List.filter_append, List.filter_singleton]
  by_cases heq : r.2.hardwareSystemId = identifier
  · rw [if_pos heq, decide_eq_true heq]
    rfl
  · rw [if_neg heq, decide_eq_false heq]
    rfl

theorem allAgree_snoc {rows : List (Row J)} {r : Row J} :
    AllAgree (rows ++ [r]) ↔
      AllAgree rows ∧ ∀ x ∈ sharing r.2.hardwareSystemId rows, Agree x r := by
  rw [AllAgree, List.pairwise_append, ← AllAgree]
  simp only [List.pairwise_singleton, List.forall_mem_singleton, true_and, mem_sharing, and_imp]

section Loop

variable (name : J → String)

/-- The systems so far hold what the rows so far hold. -/
structure Merges (rows : List (Row J)) (merged : Merged J) : Prop where
  nodup : (merged.systems.map Prod.fst).Nodup
  gathers : ∀ identifier owner c, merged.systems.lookup identifier = some (owner, c) →
    Gathers (sharing identifier rows) owner c
  missing : ∀ identifier, merged.systems.lookup identifier = none → sharing identifier rows = []
  allNames : merged.allNames = rows.flatMap fun r => r.2.elementNames name
  agree : AllAgree rows

theorem merges_nil : Merges name ([] : List (Row J)) {} where
  nodup := List.nodup_nil
  gathers _ _ _ h := by cases h
  missing _ _ := rfl
  allNames := rfl
  agree := List.Pairwise.nil

variable {name} {done : List (Row J)} {merged : Merged J}

theorem Merges.snoc (h : Merges name done merged) {r : Row J} {owner : String} {c : Result J}
    (hgathers : Gathers (sharing r.2.hardwareSystemId done ++ [r]) owner c)
    (hagree : ∀ x ∈ sharing r.2.hardwareSystemId done, Agree x r) :
    Merges name (done ++ [r]) ⟨assign r.2.hardwareSystemId (owner, c) merged.systems,
      merged.allNames ++ r.2.elementNames name⟩ where
  nodup := nodup_assign h.nodup
  gathers identifier owner' c' hlookup := by
    rw [sharing_snoc]
    rw [lookup_assign] at hlookup
    by_cases heq : identifier = r.2.hardwareSystemId
    · rw [if_pos heq] at hlookup
      cases hlookup
      rw [if_pos heq.symm, heq]
      exact hgathers
    · rw [if_neg heq] at hlookup
      rw [if_neg (Ne.symm heq), List.append_nil]
      exact h.gathers identifier owner' c' hlookup
  missing identifier hlookup := by
    rw [lookup_assign] at hlookup
    by_cases heq : identifier = r.2.hardwareSystemId
    · rw [if_pos heq] at hlookup
      cases hlookup
    · rw [if_neg heq] at hlookup
      rw [sharing_snoc, if_neg (Ne.symm heq), List.append_nil]
      exact h.missing identifier hlookup
  allNames := by
    rw [List.flatMap_append, List.flatMap_singleton, h.allNames]
  agree := allAgree_snoc.2 ⟨h.agree, hagree⟩

theorem Merges.new (h : Merges name done merged) {r : Row J} (hr : r.2.KeysNodup)
    (hnew : merged.systems.lookup r.2.hardwareSystemId = none) :
    Merges name (done ++ [r])
      ⟨merged.systems ++ [(r.2.hardwareSystemId, r)],
        merged.allNames ++ r.2.elementNames name⟩ := by
  have hnone := h.missing _ hnew
  rw [← assign_of_lookup_none hnew]
  refine h.snoc ?_ ?_
  · rw [hnone]
    exact gathers_single hr
  · rw [hnone]
    exact nofun

theorem Merges.join (h : Merges name done merged) {r : Row J} (hr : r.2.KeysNodup)
    {owner : String} {c : Result J}
    (hsystem : merged.systems.lookup r.2.hardwareSystemId = some (owner, c))
    (hagree : ∀ x ∈ sharing r.2.hardwareSystemId done, Agree x r) :
    Merges name (done ++ [r])
      ⟨assign r.2.hardwareSystemId (owner, c.join r.2) merged.systems,
        merged.allNames ++ r.2.elementNames name⟩ := by
  have hgathers := h.gathers _ _ _ hsystem
  exact h.snoc (hgathers.join hr ((hgathers.fits_iff r).2 hagree)) hagree

variable [DecidableEq J] {modules : ℕ → Module J}

theorem Merges.add_ok (h : Merges name done merged) (entry : String × ℕ)
    (hagree : ∀ x ∈ sharing (modules entry.2).hardwareSystemId done,
      Agree x (entry.1, (modules entry.2).toContent)) :
    ∃ merged', merged.add name modules entry = .ok merged' ∧
      Merges name (done ++ [(entry.1, (modules entry.2).toContent)]) merged' := by
  have hr := (modules entry.2).keysNodup
  rw [Merged.add]
  cases hlookup : merged.systems.lookup (modules entry.2).hardwareSystemId with
  | none => exact ⟨_, rfl, h.new (r := (entry.1, _)) hr hlookup⟩
  | some system =>
    obtain ⟨owner, c⟩ := system
    have hfits := ((h.gathers _ owner c hlookup).fits_iff (entry.1, _)).2 hagree
    dsimp only
    rw [merge_ok hr hfits, ok_bind]
    exact ⟨_, rfl, h.join (r := (entry.1, _)) hr hlookup hagree⟩

theorem Merges.add_error (h : Merges name done merged) (entry : String × ℕ)
    (hkinds : ∀ x ∈ sharing (modules entry.2).hardwareSystemId done,
      SameKinds x.2 (modules entry.2).toContent)
    (hagree : ¬∀ x ∈ sharing (modules entry.2).hardwareSystemId done,
      Agree x (entry.1, (modules entry.2).toContent)) :
    ∃ message, merged.add name modules entry = .error (.valueError message) := by
  have hr := (modules entry.2).keysNodup
  rw [Merged.add]
  cases hlookup : merged.systems.lookup (modules entry.2).hardwareSystemId with
  | none =>
    refine absurd (fun x hx => ?_) hagree
    rw [h.missing _ hlookup] at hx
    cases hx
  | some system =>
    obtain ⟨owner, c⟩ := system
    have hgathers := h.gathers _ owner c hlookup
    have hfits := mt (hgathers.fits_iff (entry.1, (modules entry.2).toContent)).1 hagree
    obtain ⟨message, hmessage⟩ : ∃ message, Content.merge (modules entry.2).hardwareSystemId owner
        entry.1 (modules entry.2).toContent c = .error (.valueError message) :=
      merge_error hr (hgathers.sameKinds hkinds) hfits
    dsimp only
    rw [hmessage]
    exact ⟨message, rfl⟩

theorem Merges.foldlM (rendered : List (String × ℕ)) {done : List (Row J)} {merged : Merged J}
    (h : Merges name done merged) (hkinds : ListsInAllOrNone (done ++ rows modules rendered)) :
    (AllAgree (done ++ rows modules rendered) →
      ∃ merged', rendered.foldlM (Merged.add name modules) merged = .ok merged' ∧
        Merges name (done ++ rows modules rendered) merged') ∧
    (¬AllAgree (done ++ rows modules rendered) →
      ∃ message, rendered.foldlM (Merged.add name modules) merged =
        .error (.valueError message)) := by
  induction rendered generalizing done merged with
  | nil =>
    have hrows : rows modules [] = [] := rfl
    rw [hrows, List.append_nil]
    exact ⟨fun _ => ⟨merged, rfl, h⟩, fun hagree => absurd h.agree hagree⟩
  | cons entry rest ih =>
    have hrows : done ++ rows modules (entry :: rest) =
        done ++ [(entry.1, (modules entry.2).toContent)] ++ rows modules rest := by
      rw [List.append_assoc]
      rfl
    rw [hrows] at hkinds ⊢
    rw [List.foldlM_cons]
    by_cases hagree : ∀ x ∈ sharing (modules entry.2).hardwareSystemId done,
        Agree x (entry.1, (modules entry.2).toContent)
    · obtain ⟨merged', hadd, hmerges⟩ := h.add_ok entry hagree
      rw [hadd]
      exact ih hmerges hkinds
    · have hentry : ∀ x ∈ sharing (modules entry.2).hardwareSystemId done,
          SameKinds x.2 (modules entry.2).toContent := by
        intro x hx
        obtain ⟨hmem, hsame⟩ := mem_sharing.1 hx
        refine hkinds x ?_ (entry.1, (modules entry.2).toContent) ?_ hsame
        · simp [hmem]
        · simp
      obtain ⟨message, hmessage⟩ := h.add_error entry hentry hagree
      rw [hmessage]
      refine ⟨fun hall => absurd ?_ hagree, fun _ => ⟨message, rfl⟩⟩
      exact (allAgree_snoc.1 (List.pairwise_append.1 hall).1).2

end Loop

section Checks

variable [DecidableEq J]

theorem unique_cases {α : Type} [DecidableEq α] (values : List α) (context : String) :
    values.Nodup ∧ unique values context = .ok () ∨
      ¬values.Nodup ∧ ∃ message, unique values context = .error (.valueError message) := by
  rw [unique]
  by_cases hnodup : values.Nodup
  · exact .inl ⟨hnodup, if_pos hnodup⟩
  · exact .inr ⟨hnodup, _, if_neg hnodup⟩

/-- No claim and no managed joint stands twice in the result. -/
def Content.Unique (c : Result J) : Prop :=
  ((c.at (.key .resourceClaims)).getD []).Nodup ∧ ((c.at (.key .managedJoints)).getD []).Nodup

theorem check_cases {c : Result J} (hmanaged : (c.lists .managedJoints).isSome = true) :
    c.Unique ∧ c.check = .ok () ∨
      ¬c.Unique ∧ ∃ message, c.check = .error (.valueError message) := by
  obtain ⟨managed, hlist⟩ := Option.isSome_iff_exists.1 hmanaged
  rw [Content.check, Content.Unique, Content.at, Content.at, hlist, Option.getD_some]
  dsimp only
  rcases unique_cases ((c.lists .resourceClaims).getD []) "physical resource claim" with
    ⟨hclaims, hrun⟩ | ⟨hclaims, message, hrun⟩
  · rw [hrun, ok_bind]
    rcases unique_cases managed "managed joint" with ⟨hjoints, hrun⟩ | ⟨hjoints, hrun⟩
    · exact .inl ⟨⟨hclaims, hjoints⟩, hrun⟩
    · exact .inr ⟨fun hunique => hjoints hunique.2, hrun⟩
  · rw [hrun]
    exact .inr ⟨fun hunique => hclaims hunique.1, message, rfl⟩

theorem forM_check_cases {systems : List (String × String × Result J)}
    (hmanaged : ∀ system ∈ systems, (system.2.2.lists .managedJoints).isSome = true) :
    (∀ system ∈ systems, system.2.2.Unique) ∧
        (systems.forM fun system => system.2.2.check) = .ok () ∨
      ¬(∀ system ∈ systems, system.2.2.Unique) ∧
        ∃ message, (systems.forM fun system => system.2.2.check) =
          .error (.valueError message) := by
  induction systems with
  | nil => exact .inl ⟨List.forall_mem_nil _, rfl⟩
  | cons system rest ih =>
    obtain ⟨hfirst, hrest⟩ := List.forall_mem_cons.1 hmanaged
    have hrun : ((system :: rest).forM fun system => system.2.2.check) =
        (system.2.2.check >>= fun _ => rest.forM fun system => system.2.2.check) := rfl
    rw [hrun, List.forall_mem_cons]
    rcases check_cases hfirst with ⟨hunique, hcheck⟩ | ⟨hunique, message, hcheck⟩
    · rw [hcheck, ok_bind]
      rcases ih hrest with ⟨hall, hlater⟩ | ⟨hall, hlater⟩
      · exact .inl ⟨⟨hunique, hall⟩, hlater⟩
      · exact .inr ⟨fun h => hall h.2, hlater⟩
    · rw [hcheck]
      exact .inr ⟨fun h => hunique h.1, message, rfl⟩

end Checks

section Values

variable {name : J → String} {done : List (Row J)} {merged : Merged J}

theorem Merges.managed (h : Merges name done merged)
    (hmanaged : ∀ r ∈ done, (r.2.lists .managedJoints).isSome = true) :
    ∀ system ∈ merged.systems, (system.2.2.lists .managedJoints).isSome = true := by
  intro system hsystem
  have hgathers := h.gathers _ _ _ (lookup_of_mem h.nodup hsystem)
  obtain ⟨first, hfirst, -⟩ := hgathers.unmerged
  have hmem := List.mem_of_mem_head? hfirst
  exact (hgathers.keys _).2 (.inr ⟨first, hmem, hmanaged first (mem_sharing.1 hmem).1⟩)

theorem Merges.unique_iff (h : Merges name done merged) :
    (∀ system ∈ merged.systems, system.2.2.Unique) ↔ ∀ identifier,
      (gathered identifier done (.key .resourceClaims)).Nodup ∧
        (gathered identifier done (.key .managedJoints)).Nodup := by
  have hlists : ∀ identifier owner c, merged.systems.lookup identifier = some (owner, c) →
      (c.Unique ↔ (gathered identifier done (.key .resourceClaims)).Nodup ∧
        (gathered identifier done (.key .managedJoints)).Nodup) := by
    intro identifier owner c hlookup
    rw [Content.Unique, (h.gathers _ _ _ hlookup).lists, (h.gathers _ _ _ hlookup).lists]
    rfl
  constructor
  · intro hall identifier
    cases hlookup : merged.systems.lookup identifier with
    | none =>
      rw [gathered, gathered, h.missing identifier hlookup]
      exact ⟨List.nodup_nil, List.nodup_nil⟩
    | some system =>
      obtain ⟨owner, c⟩ := system
      obtain ⟨before, after, hsystems, -⟩ := List.lookup_eq_some_iff.1 hlookup
      refine (hlists identifier owner c hlookup).1 (hall (identifier, owner, c) ?_)
      rw [hsystems]
      exact List.mem_append_right _ List.mem_cons_self
  · intro hall system hsystem
    exact (hlists _ _ _ (lookup_of_mem h.nodup hsystem)).2 (hall system.1)

variable [DecidableEq J] {modules : ℕ → Module J}

/-- The rows agree, and nothing that has to be unique stands twice. -/
structure Unambiguous (name : J → String) (rows : List (Row J)) : Prop where
  agree : AllAgree rows
  unique : ∀ identifier, (gathered identifier rows (.key .resourceClaims)).Nodup ∧
    (gathered identifier rows (.key .managedJoints)).Nodup
  names : (rows.flatMap fun r => r.2.elementNames name).Nodup

variable (name) in
theorem mergeValues_cases (rendered : List (String × ℕ))
    (hkinds : ListsInAllOrNone (rows modules rendered)) :
    Unambiguous name (rows modules rendered) ∧
        (∃ merged, mergeValues name modules rendered = .ok merged ∧
          Merges name (rows modules rendered) merged) ∨
      ¬Unambiguous name (rows modules rendered) ∧
        ∃ message, mergeValues name modules rendered = .error (.valueError message) := by
  have hstart : Merges name ([] : List (Row J)) {} := merges_nil name
  obtain ⟨hok, herror⟩ := hstart.foldlM rendered (List.nil_append (rows modules rendered) ▸ hkinds)
  simp only [List.nil_append] at hok herror
  rw [mergeValues]
  by_cases hagree : AllAgree (rows modules rendered)
  · obtain ⟨merged, hloop, hmerges⟩ := hok hagree
    have hmanaged := hmerges.managed fun r hr => by
      obtain ⟨entry, -, rfl⟩ := List.mem_map.1 hr
      exact (modules entry.2).managed
    rw [hloop, ok_bind]
    rcases forM_check_cases hmanaged with ⟨hunique, hcheck⟩ | ⟨hunique, message, hcheck⟩
    · rw [hcheck, ok_bind]
      rcases unique_cases merged.allNames "hardware resource name" with
        ⟨hnames, hlast⟩ | ⟨hnames, message, hlast⟩
      · rw [hlast]
        rw [hmerges.allNames] at hnames
        exact .inl ⟨⟨hagree, hmerges.unique_iff.1 hunique, hnames⟩, merged, rfl, hmerges⟩
      · rw [hlast]
        rw [hmerges.allNames] at hnames
        exact .inr ⟨fun h => hnames h.names, message, rfl⟩
    · rw [hcheck]
      exact .inr ⟨fun h => hunique (hmerges.unique_iff.2 h.unique), message, rfl⟩
  · obtain ⟨message, hmessage⟩ := herror hagree
    rw [hmessage]
    exact .inr ⟨fun h => hagree h.agree, message, rfl⟩

end Values

end RobotDriver.Composer.Merge
