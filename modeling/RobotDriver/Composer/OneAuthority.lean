import RobotDriver.Composer.BoundParameters

/-!
# One authority for each parameter

A source contributes nothing, the entries it composes, or a deferred key. The merge compares the
composed entries with each other, and the bound references with the merged entries; nothing is
compared with the deferred targets. A composition therefore has one authority for each parameter
exactly when no deferred target is given a second time.
-/

namespace RobotDriver.Composer.Sources

open Dictionary

inductive Contribution where
  | nothing
  | deferred (target key : String)
  | composed (entries : Entries)

namespace Contribution

def entries : Contribution → Entries
  | composed entries => entries
  | _ => []

def deferral : Contribution → Option (String × String)
  | deferred target key => some (target, key)
  | _ => none

def gives (key : String) : Contribution → Bool
  | nothing => false
  | deferred target _ => target = key
  | composed entries => (entries.lookup key).isSome

end Contribution

section Merge

variable (env : Environment) (name : String) (binding : ControllerBinding)

def contribution (source : ParameterSource) : Except Raised Contribution :=
  match source.entries with
  | [entry] =>
    if selectedSource env source = false then .ok .nothing
    else do
      checkSelectedPolicy env name entry.kind
      match deferredKey env entry.kind, entry.target with
      | some key, some target => return .deferred target key
      | some _, none => throw (.keyError "as")
      | none, _ =>
        match ← evaluateSelected env name binding entry.kind with
        | none => return .nothing
        | some value => return .composed (← entriesOf name entry value)
  | _ => .error (.valueError ("Parameter source for " ++ name ++ " needs exactly one kind"))

def given (source : ParameterSource) : Contribution :=
  match contribution env name binding source with
  | .ok c => c
  | .error _ => .nothing

variable {env name binding}

theorem given_eq {source : ParameterSource} {c : Contribution}
    (h : contribution env name binding source = .ok c) : given env name binding source = c := by
  rw [given, h]

theorem mergeSource_eq (source : ParameterSource) (result : Entries)
    (runtime : RuntimeParameters) :
    mergeSource env name binding source result runtime =
      contribution env name binding source >>= fun c =>
        if duplicateKeys result c.entries = [] then
          .ok (result ++ c.entries, assignAll c.deferral.toList runtime)
        else .error (duplicateSource env name result c.entries) := by
  have hnil : duplicateKeys result [] = [] := duplicateKeys_eq_nil_iff.2 fun _ _ => rfl
  rw [mergeSource, contribution]
  rcases source.entries with - | ⟨entry, - | ⟨second, rest⟩⟩
  · rfl
  · dsimp only
    by_cases hselected : selectedSource env source = false
    · rw [if_pos hselected, if_pos hselected]
      simp [bind, Except.bind, Contribution.entries, Contribution.deferral, hnil, assignAll]
    · rw [if_neg hselected, if_neg hselected, bind_assoc]
      refine bind_congr fun _ => ?_
      unfold evaluate
      rcases hdeferred : deferredKey env entry.kind with - | key
      · rcases hvalue : evaluateSelected env name binding entry.kind with e | value
        · rfl
        · rcases value with - | value
          · simp [bind, Except.bind, pure, Except.pure, Contribution.entries,
              Contribution.deferral, hnil, assignAll]
          · rcases hentries : entriesOf name entry value with e | entries
            · simp [bind, Except.bind, pure, Except.pure, hentries]
            · simp [bind, Except.bind, pure, Except.pure, hentries, Contribution.entries,
                Contribution.deferral, assignAll, throw, throwThe, MonadExceptOf.throw]
              rfl
      · rcases htarget : entry.target with - | target
        · rfl
        · simp [bind, Except.bind, pure, Except.pure, Contribution.entries,
            Contribution.deferral, hnil, assignAll]
  · rfl

theorem controllerParametersFrom_ok_iff {sources : List ParameterSource} {result : Entries}
    {runtime : RuntimeParameters} {out : Entries × RuntimeParameters} :
    controllerParametersFrom env name binding sources result runtime = .ok out ↔
      (∀ source ∈ sources, ∃ c, contribution env name binding source = .ok c) ∧
        (result :: sources.map fun source =>
          (given env name binding source).entries).Pairwise DisjointKeys ∧
        out = (result ++ (sources.map fun source =>
            (given env name binding source).entries).flatten,
          assignAll (sources.filterMap fun source =>
            (given env name binding source).deferral) runtime) := by
  induction sources generalizing result runtime with
  | nil =>
    simp [controllerParametersFrom, assignAll, eq_comm]
  | cons source sources ih =>
    have hdeferral : assignAll ((source :: sources).filterMap fun source =>
        (given env name binding source).deferral) runtime =
          assignAll (sources.filterMap fun source => (given env name binding source).deferral)
            (assignAll (given env name binding source).deferral.toList runtime) := by
      rw [List.filterMap_cons]
      rcases (given env name binding source).deferral with - | deferral <;> rfl
    rw [controllerParametersFrom, mergeSource_eq, bind_assoc, bind_eq_ok_iff,
      List.forall_mem_cons, List.map_cons, List.flatten_cons, hdeferral, ← List.append_assoc]
    constructor
    · rintro ⟨c, hc, h⟩
      by_cases hfree : duplicateKeys result c.entries = []
      · rw [if_pos hfree] at h
        obtain ⟨hrest, hpairwise, hout⟩ := ih.1 h
        rw [given_eq hc]
        refine ⟨⟨⟨c, hc⟩, hrest⟩, ?_, hout⟩
        exact pairwise_append_iff.1 ⟨duplicateKeys_eq_nil_iff.1 hfree, hpairwise⟩
      · rw [if_neg hfree] at h
        cases h
    · rintro ⟨⟨⟨c, hc⟩, hrest⟩, hpairwise, hout⟩
      rw [given_eq hc] at hpairwise hout
      obtain ⟨hfree, hpairwise⟩ := pairwise_append_iff.2 hpairwise
      refine ⟨c, hc, ?_⟩
      rw [if_pos (duplicateKeys_eq_nil_iff.2 hfree)]
      exact ih.2 ⟨hrest, hpairwise, hout⟩

theorem controllerParameters_ok_iff {sources : List ParameterSource}
    {out : Entries × RuntimeParameters} :
    controllerParameters env name binding sources = .ok out ↔
      (∀ source ∈ sources, ∃ c, contribution env name binding source = .ok c) ∧
        (sources.map fun source => (given env name binding source).entries).Pairwise DisjointKeys ∧
        out = ((sources.map fun source => (given env name binding source).entries).flatten,
          assignAll (sources.filterMap fun source => (given env name binding source).deferral)
            []) := by
  rw [controllerParameters, controllerParametersFrom_ok_iff, List.pairwise_cons, List.nil_append]
  refine and_congr_right fun _ => and_congr_left fun _ => and_iff_right ?_
  intro other _ key hkey
  rw [List.lookup_nil] at hkey
  cases hkey

end Merge

section Bind

variable {modules : List (String × RenderedModule)} {mock : Bool} {order : List String}
  {references : List (String × Reference)} {result out : Entries}

theorem bindFrom_ok (hnodup : (references.map Prod.fst).Nodup)
    (h : bindFrom modules mock order references result = .ok out) :
    (∀ name reference, (name, reference) ∈ references → ∃ value,
        boundValue modules mock order name reference (result.lookup name) = .ok value ∧
          out.lookup name = some value) ∧
      ∀ name, name ∉ references.map Prod.fst → out.lookup name = result.lookup name := by
  induction references generalizing result with
  | nil =>
    cases h
    exact ⟨fun _ _ hmem => absurd hmem List.not_mem_nil, fun _ _ => rfl⟩
  | cons entry rest ih =>
    obtain ⟨first, reference⟩ := entry
    obtain ⟨hfirst, hrest⟩ := List.nodup_cons.1 hnodup
    rw [bindFrom, bind_eq_ok_iff] at h
    obtain ⟨value, hvalue, h⟩ := h
    obtain ⟨hbound, hkept⟩ := ih hrest h
    refine ⟨fun name other hmem => ?_, fun name hname => ?_⟩
    · rcases List.mem_cons.1 hmem with heq | hmem
      · cases heq
        refine ⟨value, hvalue, ?_⟩
        rw [hkept first hfirst, lookup_assign, if_pos rfl]
      · have hne : name ≠ first := fun heq => hfirst (List.mem_map.2 ⟨(name, other), hmem, heq⟩)
        obtain ⟨given, hgiven, hout⟩ := hbound name other hmem
        rw [lookup_assign, if_neg hne] at hgiven
        exact ⟨given, hgiven, hout⟩
    · rw [List.map_cons, List.mem_cons, not_or] at hname
      rw [hkept name hname.2, lookup_assign, if_neg hname.1]

theorem bindFrom_total (result : Entries) (hnodup : (references.map Prod.fst).Nodup)
    (h : ∀ name reference, (name, reference) ∈ references → ∃ value,
      boundValue modules mock order name reference (result.lookup name) = .ok value) :
    ∃ out, bindFrom modules mock order references result = .ok out := by
  induction references generalizing result with
  | nil => exact ⟨result, rfl⟩
  | cons entry rest ih =>
    obtain ⟨first, reference⟩ := entry
    obtain ⟨hfirst, hrest⟩ := List.nodup_cons.1 hnodup
    obtain ⟨value, hvalue⟩ := h first reference List.mem_cons_self
    obtain ⟨out, hout⟩ := ih (assign first value result) hrest
      fun name other hmem => by
        have hne : name ≠ first := fun heq => hfirst (List.mem_map.2 ⟨(name, other), hmem, heq⟩)
        rw [lookup_assign, if_neg hne]
        exact h name other (List.mem_cons_of_mem _ hmem)
    refine ⟨out, ?_⟩
    rw [bindFrom, bind_eq_ok_iff]
    exact ⟨value, hvalue, hout⟩

theorem bindFrom_congr (hnodup : (references.map Prod.fst).Nodup) (result' : Entries)
    (hresult : ∀ key, result'.lookup key = result.lookup key)
    (h : bindFrom modules mock order references result = .ok out) :
    ∃ out', bindFrom modules mock order references result' = .ok out' ∧
      ∀ key, out'.lookup key = out.lookup key := by
  obtain ⟨hbound, hkept⟩ := bindFrom_ok hnodup h
  obtain ⟨out', hout'⟩ := bindFrom_total result' hnodup fun name reference hmem => by
    obtain ⟨value, hvalue, -⟩ := hbound name reference hmem
    rw [hresult]
    exact ⟨value, hvalue⟩
  obtain ⟨hbound', hkept'⟩ := bindFrom_ok hnodup hout'
  refine ⟨out', hout', fun key => ?_⟩
  by_cases hkey : key ∈ references.map Prod.fst
  · obtain ⟨⟨name, reference⟩, hmem, rfl⟩ := List.mem_map.1 hkey
    obtain ⟨value, hvalue, hlookup⟩ := hbound name reference hmem
    obtain ⟨value', hvalue', hlookup'⟩ := hbound' name reference hmem
    rw [hresult, hvalue] at hvalue'
    cases hvalue'
    rw [hlookup, hlookup']
  · rw [hkept key hkey, hkept' key hkey, hresult]

theorem current_of_boundValue {name : String} {reference : Reference} {current : Option Value}
    {value : Value} (h : boundValue modules mock order name reference current = .ok value) :
    current.isSome = reference.append := by
  unfold boundValue at h
  split at h
  · cases h
  split at h
  · cases h
  simp only [bind_eq_ok_iff] at h
  obtain ⟨value', -, -, -, -, -, -, -, h⟩ := h
  rw [placeValue] at h
  cases happend : reference.append
  · rw [happend, if_neg Bool.false_ne_true] at h
    split_ifs at h with hsome
    simpa using hsome
  · rw [happend, if_pos rfl] at h
    rcases current with - | current
    · cases h
    · rfl

end Bind

section Authority

variable (env : Environment) (name : String) (binding : ControllerBinding)
  (bindings : ParameterBindings) (mock : Bool) (sources : List ParameterSource)

def deferrals : List (String × String) :=
  sources.filterMap fun source => (given env name binding source).deferral

def merged : Entries := (sources.map fun source => (given env name binding source).entries).flatten

/-- The sources that give a key and the reference that binds it; appending extends a list only. -/
def owners (key : String) : ℕ :=
  (sources.countP fun source => (given env name binding source).gives key) +
    bindings.parameters.countP fun entry => entry.1 = key && !entry.2.append

structure OneAuthority (outcome : Entries × RuntimeParameters) : Prop where
  composed : ∀ key, (outcome.1.lookup key).isSome = true →
    owners env name binding bindings sources key = 1
  runtime : ∀ key, (outcome.2.lookup key).isSome = true →
    owners env name binding bindings sources key = 1
  apart : ∀ key, (outcome.1.lookup key).isSome = true → outcome.2.lookup key = none
  writers : ((deferrals env name binding sources).map Prod.fst).Nodup
  order : ∀ sources', sources'.Perm sources → ∃ outcome',
    composeParameters env name binding bindings mock sources' = .ok outcome' ∧
      (∀ key, outcome'.1.lookup key = outcome.1.lookup key) ∧
        ∀ key, outcome'.2.lookup key = outcome.2.lookup key

/-- What the sources and the references are checked for. -/
structure Admitted : Prop where
  evaluated : ∀ source ∈ sources, ∃ c, contribution env name binding source = .ok c
  disjoint : (sources.map fun source => (given env name binding source).entries).Pairwise
    DisjointKeys
  bound : ∀ parameter reference, (parameter, reference) ∈ bindings.parameters → ∃ value,
    boundValue env.renderedModules mock bindings.instanceOrder parameter reference
      ((merged env name binding sources).lookup parameter) = .ok value

/-- No deferred target is deferred twice, composed or bound. -/
structure DeferredOnce : Prop where
  nodup : ((deferrals env name binding sources).map Prod.fst).Nodup
  composed : ∀ target ∈ (deferrals env name binding sources).map Prod.fst,
    (merged env name binding sources).lookup target = none
  bound : ∀ target ∈ (deferrals env name binding sources).map Prod.fst,
    ∀ reference, (target, reference) ∈ bindings.parameters → reference.append = true

variable {env name binding bindings mock sources}

theorem composeParameters_ok_iff {outcome : Entries × RuntimeParameters} :
    composeParameters env name binding bindings mock sources = .ok outcome ↔
      (∀ source ∈ sources, ∃ c, contribution env name binding source = .ok c) ∧
        (sources.map fun source => (given env name binding source).entries).Pairwise DisjointKeys ∧
        bindFrom env.renderedModules mock bindings.instanceOrder bindings.parameters
          (merged env name binding sources) = .ok outcome.1 ∧
        outcome.2 = assignAll (deferrals env name binding sources) [] := by
  simp only [composeParameters, bind_eq_ok_iff, controllerParameters_ok_iff, bindParameters]
  constructor
  · rintro ⟨_, ⟨hevaluated, hdisjoint, rfl⟩, out, hbind, hout⟩
    cases hout
    exact ⟨hevaluated, hdisjoint, hbind, rfl⟩
  · rintro ⟨hevaluated, hdisjoint, hbind, hruntime⟩
    exact ⟨_, ⟨hevaluated, hdisjoint, rfl⟩, outcome.1, hbind, by rw [← deferrals, ← hruntime]; rfl⟩

theorem admitted_iff :
    Admitted env name binding bindings mock sources ↔
      ∃ outcome, composeParameters env name binding bindings mock sources = .ok outcome := by
  constructor
  · rintro ⟨hevaluated, hdisjoint, hbound⟩
    obtain ⟨out, hout⟩ := bindFrom_total _ bindings.nodup hbound
    exact ⟨(out, _), composeParameters_ok_iff.2 ⟨hevaluated, hdisjoint, hout, rfl⟩⟩
  · rintro ⟨outcome, h⟩
    obtain ⟨hevaluated, hdisjoint, hbind, -⟩ := composeParameters_ok_iff.1 h
    refine ⟨hevaluated, hdisjoint, fun parameter reference hmem => ?_⟩
    obtain ⟨value, hvalue, -⟩ := (bindFrom_ok bindings.nodup hbind).1 parameter reference hmem
    exact ⟨value, hvalue⟩

omit env name binding bindings mock sources in
theorem countP_eq_one {α : Type*} {p : α → Bool} {list : List α}
    (hpairwise : list.Pairwise fun a b => p a = true → p b = false)
    (hexists : ∃ a ∈ list, p a = true) : list.countP p = 1 := by
  induction list with
  | nil =>
    obtain ⟨a, hmem, -⟩ := hexists
    cases hmem
  | cons a rest ih =>
    obtain ⟨hfirst, hrest⟩ := List.pairwise_cons.1 hpairwise
    by_cases ha : p a = true
    · have hnone : rest.countP p = 0 :=
        List.countP_eq_zero.2 fun b hb => by rw [hfirst b hb ha]; exact Bool.false_ne_true
      rw [List.countP_cons_of_pos ha, hnone]
    · rw [List.countP_cons_of_neg ha]
      refine ih hrest ?_
      obtain ⟨b, hb, hpb⟩ := hexists
      rcases List.mem_cons.1 hb with rfl | hb
      · exact absurd hpb ha
      · exact ⟨b, hb, hpb⟩

omit env name binding bindings mock sources in
theorem Contribution.gives_eq (c : Contribution) (key : String) :
    c.gives key = true ↔ (c.entries.lookup key).isSome = true ∨
      ∃ deferral, c.deferral = some deferral ∧ deferral.1 = key := by
  cases c with
  | nothing | deferred target given => simp [gives, entries, deferral]
  | composed entries => simp [gives, Contribution.entries, deferral]

theorem mem_deferrals {target : String} :
    target ∈ (deferrals env name binding sources).map Prod.fst ↔ ∃ source ∈ sources,
      ∃ deferral, (given env name binding source).deferral = some deferral ∧
        deferral.1 = target := by
  simp only [deferrals, List.mem_map, List.mem_filterMap]
  constructor
  · rintro ⟨deferral, ⟨source, hmem, hdeferral⟩, htarget⟩
    exact ⟨source, hmem, deferral, hdeferral, htarget⟩
  · rintro ⟨source, hmem, deferral, hdeferral, htarget⟩
    exact ⟨deferral, ⟨source, hmem, hdeferral⟩, htarget⟩

theorem merged_isSome {key : String} :
    ((merged env name binding sources).lookup key).isSome = true ↔ ∃ source ∈ sources,
      ((given env name binding source).entries.lookup key).isSome = true := by
  rw [merged, lookup_flatten_isSome]
  constructor
  · rintro ⟨_, hmem, hsome⟩
    obtain ⟨source, hsource, rfl⟩ := List.mem_map.1 hmem
    exact ⟨source, hsource, hsome⟩
  · rintro ⟨source, hsource, hsome⟩
    exact ⟨_, List.mem_map_of_mem hsource, hsome⟩

theorem gives_pairwise (hdisjoint : (sources.map fun source =>
      (given env name binding source).entries).Pairwise DisjointKeys)
    (honce : DeferredOnce env name binding bindings sources) (key : String) :
    sources.Pairwise fun a b => (given env name binding a).gives key = true →
      (given env name binding b).gives key = false := by
  have hnodup := honce.nodup
  rw [deferrals, List.Nodup, List.pairwise_map, List.pairwise_filterMap] at hnodup
  rw [List.pairwise_map] at hdisjoint
  have hboth := hdisjoint.and hnodup
  refine hboth.imp_of_mem fun {a b} ha hb hpair hgives => ?_
  obtain ⟨hapart, hother⟩ := hpair
  have hnot {source other : ParameterSource} (hsource : source ∈ sources) (hmem : other ∈ sources)
      {deferral : String × String}
      (hdeferral : (given env name binding source).deferral = some deferral)
      (hsome : ((given env name binding other).entries.lookup deferral.1).isSome = true) :
      False := by
    have hnone := honce.composed _ (mem_deferrals.2 ⟨source, hsource, deferral, hdeferral, rfl⟩)
    have hmerged := merged_isSome.2 ⟨other, hmem, hsome⟩
    rw [hnone] at hmerged
    cases hmerged
  by_contra hgives'
  rw [Bool.not_eq_false] at hgives'
  rcases (Contribution.gives_eq _ key).1 hgives with hsome | ⟨deferral, hdeferral, rfl⟩
  · rcases (Contribution.gives_eq _ key).1 hgives' with hsome' | ⟨deferral', hdeferral', rfl⟩
    · rw [hapart key hsome] at hsome'
      cases hsome'
    · exact hnot hb ha hdeferral' hsome
  · rcases (Contribution.gives_eq _ _).1 hgives' with hsome' | ⟨deferral', hdeferral', heq⟩
    · exact hnot ha hb hdeferral hsome'
    · exact hother deferral hdeferral deferral' hdeferral' heq.symm

theorem references_eq_zero {key : String}
    (h : ∀ reference, (key, reference) ∈ bindings.parameters → reference.append = true) :
    bindings.parameters.countP (fun entry => entry.1 = key && !entry.2.append) = 0 := by
  rw [List.countP_eq_zero]
  rintro ⟨parameter, reference⟩ hmem hbinds
  simp only [Bool.and_eq_true, decide_eq_true_eq, Bool.not_eq_true'] at hbinds
  obtain ⟨rfl, happend⟩ := hbinds
  rw [h reference hmem] at happend
  cases happend

theorem references_eq_one {key : String} {reference : Reference}
    (hmem : (key, reference) ∈ bindings.parameters) (happend : reference.append = false) :
    bindings.parameters.countP (fun entry => entry.1 = key && !entry.2.append) = 1 := by
  refine countP_eq_one ?_ ⟨(key, reference), hmem, by simp [happend]⟩
  refine (List.pairwise_map.1 bindings.nodup).imp fun {first second} hne hfirst => ?_
  simp only [Bool.and_eq_true, decide_eq_true_eq] at hfirst
  have hne' : second.1 ≠ key := fun heq => hne (hfirst.1.trans heq.symm)
  simp [hne']

theorem reference_unique {key : String} {reference other : Reference}
    (hmem : (key, reference) ∈ bindings.parameters) (hother : (key, other) ∈ bindings.parameters) :
    reference = other :=
  congrArg Prod.snd (List.inj_on_of_nodup_map bindings.nodup hmem hother rfl)

section Accepted

variable {outcome : Entries × RuntimeParameters}
  (h : composeParameters env name binding bindings mock sources = .ok outcome)

include h

theorem runtime_isSome {key : String} :
    (outcome.2.lookup key).isSome = true ↔
      key ∈ (deferrals env name binding sources).map Prod.fst := by
  rw [(composeParameters_ok_iff.1 h).2.2.2, isSome_lookup_assignAll]

theorem composed_isSome {key : String} :
    (outcome.1.lookup key).isSome = true ↔
      ((merged env name binding sources).lookup key).isSome = true ∧
          (∀ reference, (key, reference) ∈ bindings.parameters → reference.append = true) ∨
        (merged env name binding sources).lookup key = none ∧
          ∃ reference, (key, reference) ∈ bindings.parameters ∧ reference.append = false := by
  obtain ⟨-, -, hbind, -⟩ := composeParameters_ok_iff.1 h
  obtain ⟨hbound, hkept⟩ := bindFrom_ok bindings.nodup hbind
  by_cases hkey : key ∈ bindings.parameters.map Prod.fst
  · obtain ⟨⟨_, reference⟩, hmem, rfl⟩ := List.mem_map.1 hkey
    obtain ⟨value, hvalue, hlookup⟩ := hbound _ reference hmem
    have hcurrent := current_of_boundValue hvalue
    rw [hlookup]
    simp only [Option.isSome_some, true_iff]
    cases happend : reference.append
    · rw [happend, Option.isSome_eq_false_iff, Option.isNone_iff_eq_none] at hcurrent
      exact .inr ⟨hcurrent, reference, hmem, happend⟩
    · refine .inl ⟨hcurrent.trans happend, fun other hother => ?_⟩
      rw [← reference_unique hmem hother, happend]
  · have hnone (reference : Reference) : (key, reference) ∉ bindings.parameters :=
      fun hmem => hkey (List.mem_map_of_mem hmem)
    rw [hkept key hkey]
    constructor
    · exact fun hsome => .inl ⟨hsome, fun reference hmem => absurd hmem (hnone reference)⟩
    · rintro (⟨hsome, -⟩ | ⟨-, reference, hmem, -⟩)
      · exact hsome
      · exact absurd hmem (hnone reference)

theorem owners_eq_one_of_given {key : String}
    (honce : DeferredOnce env name binding bindings sources)
    (hgiven : ∃ source ∈ sources, (given env name binding source).gives key = true)
    (hbound : ∀ reference, (key, reference) ∈ bindings.parameters → reference.append = true) :
    owners env name binding bindings sources key = 1 := by
  obtain ⟨-, hdisjoint, -⟩ := composeParameters_ok_iff.1 h
  rw [owners, references_eq_zero hbound, add_zero]
  exact countP_eq_one (gives_pairwise hdisjoint honce key) hgiven

theorem owners_of_composed (honce : DeferredOnce env name binding bindings sources) {key : String}
    (hkey : (outcome.1.lookup key).isSome = true) :
    owners env name binding bindings sources key = 1 := by
  rcases (composed_isSome h).1 hkey with ⟨hmerged, hbound⟩ | ⟨hnone, reference, hmem, happend⟩
  · obtain ⟨source, hmem, hsome⟩ := merged_isSome.1 hmerged
    exact owners_eq_one_of_given h honce
      ⟨source, hmem, (Contribution.gives_eq _ key).2 (.inl hsome)⟩ hbound
  · have hsources : sources.countP (fun source => (given env name binding source).gives key) = 0 := by
      rw [List.countP_eq_zero]
      intro source hsource hgives
      rcases (Contribution.gives_eq _ key).1 hgives with hsome | ⟨deferral, hdeferral, rfl⟩
      · have hmerged := merged_isSome.2 ⟨source, hsource, hsome⟩
        rw [hnone] at hmerged
        cases hmerged
      · have hdeferred := mem_deferrals.2 ⟨source, hsource, deferral, hdeferral, rfl⟩
        rw [honce.bound _ hdeferred reference hmem] at happend
        cases happend
    rw [owners, hsources, references_eq_one hmem happend]

theorem owners_of_deferred (honce : DeferredOnce env name binding bindings sources) {key : String}
    (hkey : (outcome.2.lookup key).isSome = true) :
    owners env name binding bindings sources key = 1 := by
  have hdeferred := (runtime_isSome h).1 hkey
  obtain ⟨source, hmem, hdeferral⟩ := mem_deferrals.1 hdeferred
  exact owners_eq_one_of_given h honce
    ⟨source, hmem, (Contribution.gives_eq _ key).2 (.inr hdeferral)⟩ (honce.bound key hdeferred)

theorem composeParameters_perm (honce : DeferredOnce env name binding bindings sources)
    {sources' : List ParameterSource} (hperm : sources'.Perm sources) :
    ∃ outcome', composeParameters env name binding bindings mock sources' = .ok outcome' ∧
      (∀ key, outcome'.1.lookup key = outcome.1.lookup key) ∧
        ∀ key, outcome'.2.lookup key = outcome.2.lookup key := by
  obtain ⟨hevaluated, hdisjoint, hbind, hruntime⟩ := composeParameters_ok_iff.1 h
  have hentries := hperm.map fun source => (given env name binding source).entries
  have hdisjoint' := hentries.symm.pairwise hdisjoint fun h => h.symm
  obtain ⟨out, hout, hlookup⟩ := bindFrom_congr bindings.nodup (merged env name binding sources')
    (fun key => lookup_flatten_perm hentries hdisjoint' key) hbind
  refine ⟨(out, assignAll (deferrals env name binding sources') []), ?_, hlookup, fun key => ?_⟩
  · refine composeParameters_ok_iff.2 ⟨fun source hmem => ?_, hdisjoint', hout, rfl⟩
    exact hevaluated source (hperm.mem_iff.1 hmem)
  · rw [hruntime]
    exact (lookup_assignAll_perm (hperm.filterMap _).symm honce.nodup key).symm

theorem oneAuthority_of_once (honce : DeferredOnce env name binding bindings sources) :
    OneAuthority env name binding bindings mock sources outcome := by
  refine ⟨fun key => owners_of_composed h honce, fun key => owners_of_deferred h honce,
    fun key hkey => ?_, honce.nodup, fun sources' => composeParameters_perm h honce⟩
  by_contra hne
  have hdeferred := (runtime_isSome h).1 (Option.isSome_iff_ne_none.2 hne)
  rcases (composed_isSome h).1 hkey with ⟨hmerged, -⟩ | ⟨-, reference, hmem, happend⟩
  · rw [honce.composed key hdeferred] at hmerged
    cases hmerged
  · rw [honce.bound key hdeferred reference hmem] at happend
    cases happend

theorem once_of_oneAuthority
    (hauthority : OneAuthority env name binding bindings mock sources outcome) :
    DeferredOnce env name binding bindings sources := by
  have hnone {target : String}
      (htarget : target ∈ (deferrals env name binding sources).map Prod.fst) :
      ¬(outcome.1.lookup target).isSome = true := by
    intro hsome
    have hruntime := (runtime_isSome h).2 htarget
    rw [hauthority.apart target hsome] at hruntime
    cases hruntime
  obtain ⟨-, -, hbind, -⟩ := composeParameters_ok_iff.1 h
  obtain ⟨hbound, hkept⟩ := bindFrom_ok bindings.nodup hbind
  have hbound (target : String) (htarget : target ∈ (deferrals env name binding sources).map Prod.fst)
      (reference : Reference) : (target, reference) ∉ bindings.parameters := by
    intro hmem
    obtain ⟨value, -, hlookup⟩ := hbound target reference hmem
    exact hnone htarget (by rw [hlookup]; rfl)
  refine ⟨hauthority.writers, fun target htarget => ?_, fun target htarget reference hmem => ?_⟩
  · have hfree : target ∉ bindings.parameters.map Prod.fst := by
      intro hparameter
      obtain ⟨⟨_, reference⟩, hmem, rfl⟩ := List.mem_map.1 hparameter
      exact hbound _ htarget reference hmem
    by_contra hne
    refine hnone htarget ?_
    rw [hkept target hfree]
    exact Option.isSome_iff_ne_none.2 hne
  · exact absurd hmem (hbound target htarget reference)

end Accepted

/-- For every binding: the composition is rejected or gives each parameter one authority, exactly
when an admitted binding defers no parameter that is given a second time. -/
theorem one_authority_iff (env : Environment) (name : String) (binding : ControllerBinding)
    (bindings : ParameterBindings) (mock : Bool) (sources : List ParameterSource) :
    (∀ outcome, composeParameters env name binding bindings mock sources = .ok outcome →
        OneAuthority env name binding bindings mock sources outcome) ↔
      (Admitted env name binding bindings mock sources →
        DeferredOnce env name binding bindings sources) := by
  constructor
  · intro hauthority hadmitted
    obtain ⟨outcome, h⟩ := admitted_iff.1 hadmitted
    exact once_of_oneAuthority h (hauthority outcome h)
  · intro honce outcome h
    exact oneAuthority_of_once h (honce (admitted_iff.2 ⟨outcome, h⟩))

end Authority

/-- One selected controller flag and one value known at start-up, under the same name. -/
def sharedSources : List ParameterSource :=
  [{ entries := [{ kind := .controllers { tag := "rolling", select := "any" },
                   target := some "startup_id" }] },
    { entries := [{ kind := .runtime "startup_id", target := some "startup_id" }] }]

def bareEnvironment : Environment where
  context := []
  policies := []
  loadYaml := fun _ _ => .error .typeError
  formatText := fun text _ => .ok text
  repr := fun _ => ""
  renderedModules := []
  selected := []
  tags := []
  naming := []
  runtimeValues := []
  managedJoints := []
  modelLimits := []
  stateReady := []

theorem shared_parameter_accepted :
    ∃ outcome, composeParameters bareEnvironment "enable_manager" { module := "arms" } {} false
        sharedSources = .ok outcome ∧
      (outcome.1.lookup "startup_id").isSome = true ∧
        (outcome.2.lookup "startup_id").isSome = true ∧
          ¬OneAuthority bareEnvironment "enable_manager" { module := "arms" } {} false
            sharedSources outcome := by
  refine ⟨([("startup_id", .bool false)], [("startup_id", "startup_id")]), rfl, rfl, rfl, ?_⟩
  intro h
  have hapart := h.apart "startup_id" rfl
  cases hapart

end RobotDriver.Composer.Sources
