import RobotDriver.Imu.Assembly

/-!
# Samples of one set

Every sample is put together from one PDO of each kind, received within the assembly timeout of the
first of them. When a PDO of another set never meets a young assembly, they are of one set, and a
set that arrives whole is published whole.
-/

namespace RobotDriver.Imu

open LabelledRun

namespace LpmsNode

/-- What no event changes. -/
def fixed (node : LpmsNode) : ℕ × ℤ × Bool :=
  (node.decoder.nodeId, node.assemblyTimeout, node.convertToRos)

variable {node node' : LpmsNode}

theorem fixed_of_core (h : node'.core = node.core) : node'.fixed = node.fixed :=
  congrArg (fun core => (core.1.nodeId, core.2.2.2.1, core.2.2.2.2)) h

theorem fixed_dropStale (node : LpmsNode) (frame : CanFrame) (receiveTime : ℤ) :
    (node.dropStale frame receiveTime).fixed = node.fixed := by
  unfold dropStale
  split_ifs <;> rfl

end LpmsNode

namespace Traced

variable {t : Traced} {a : Arrival}

theorem carries_dropStale :
    Decoder.carries (t.node.dropStale a.frame a.time).decoder.nodeId a.frame = t.carries a := by
  rw [LpmsNode.dropStale_nodeId]
  rfl

theorem young_of_kept {pdo : Pdo} (h : Assembling t.node t.assembly)
    (hpdo : t.carries a = some pdo) (hkept : t.kept a ≠ []) :
    t.kept a = t.assembly ∧ t.node.dropStale a.frame a.time = t.node ∧
      a.time - t.node.assemblyStartedTime ≤ t.node.assemblyTimeout := by
  unfold kept LpmsNode.dropStale at *
  by_cases hstale : t.node.stale a.frame a.time = true
  · rw [if_pos hstale] at hkept
    exact absurd rfl hkept
  · rw [if_neg hstale] at hkept ⊢
    rw [if_neg hstale]
    refine ⟨rfl, rfl, not_lt.1 fun hlate => hstale ?_⟩
    rw [LpmsNode.stale, LpmsNode.isPdo_of_carries hpdo, h.begun, decide_eq_true hlate]
    simpa using hkept

/-- What a frame leaves behind, whether or not it completes the assembly. -/
structure Outcome (t : Traced) (a : Arrival) (after : Traced) : Prop where
  assembling : Assembling after.node after.assembly
  fixed : after.node.fixed = t.node.fixed
  waits : t.published a = none → after.assembly = t.frames a
  publishes : ∀ sample, t.published a = some sample →
    (t.carries a).isSome = true ∧ after.assembly = [] ∧ Gathered after.node (t.frames a) ∧
      sample = convertToRosConvention after.node.decoder.sample after.node.convertToRos ∧
      ∀ pdo, seen after.node.decoder.nodeId (t.frames a) pdo = true

theorem outcome_waits (hfixed : (t.node.receive a.frame a.time).2.fixed = t.node.fixed)
    (hpublished : t.published a = none)
    (hafter : Assembling (t.node.receive a.frame a.time).2 (t.frames a)) :
    Outcome t a (t.step (.frame a)) := by
  have hassembly : (t.step (.frame a)).assembly = t.frames a := by
    rw [step]
    dsimp only
    rw [hafter.begun]
    rcases t.frames a with - | ⟨b, rest⟩ <;> rfl
  refine ⟨hassembly ▸ hafter, hfixed, fun _ => hassembly, fun sample hsome => ?_⟩
  exact absurd (hpublished.symm.trans hsome) (Option.some_ne_none sample).symm

theorem outcome_frame (h : Assembling t.node t.assembly) (a : Arrival) :
    Outcome t a (t.step (.frame a)) := by
  have hkept : Assembling (t.node.dropStale a.frame a.time) (t.kept a) := h.dropStale a
  have hfixed := t.node.fixed_dropStale a.frame a.time
  rcases hpdo : t.carries a with - | pdo
  · obtain ⟨hpublished, hcore⟩ :=
      LpmsNode.assemble_other a.time (carries_dropStale.trans hpdo)
    have hframes : t.frames a = t.kept a := by
      rw [frames, hpdo]
      rfl
    refine outcome_waits ((LpmsNode.fixed_of_core hcore).trans hfixed) hpublished ?_
    rw [hframes]
    exact hkept.congr hcore
  have hframes : t.frames a = a :: t.kept a := by
    rw [frames, hpdo]
    rfl
  have hcarries := carries_dropStale.trans hpdo
  have hyoung (hne : t.kept a ≠ []) : a.time -
      (t.node.dropStale a.frame a.time).assemblyStartedTime ≤
        (t.node.dropStale a.frame a.time).assemblyTimeout := by
    obtain ⟨-, hsame, hle⟩ := young_of_kept h hpdo hne
    rwa [hsame]
  by_cases hall : (t.node.dropStale a.frame a.time).decoder.pendingMask ||| pdo.bit =
      kAllPdosReceived
  · obtain ⟨hpublished, hcore⟩ :=
      LpmsNode.assemble_complete a.time hcarries hall
    have hgathered := hkept.joined hcarries hyoung hcore
    have hparts := hcore
    simp only [LpmsNode.core, Prod.mk.injEq] at hparts
    obtain ⟨hdecoder, hpending, -, htimeout, hconvert⟩ := hparts
    have hassembly : (t.step (.frame a)).assembly = [] := by
      rw [step]
      exact if_neg (by rw [LpmsNode.receive, hpending]; simp)
    refine ⟨?_, ?_, fun hnone => ?_, fun sample hsome => ⟨?_, hassembly, ?_, ?_, fun kind => ?_⟩⟩
    · rw [hassembly]
      exact .empty hgathered.timeout hpending (congrArg Decoder.pendingMask hdecoder)
    · refine Eq.trans ?_ hfixed
      exact congrArg (fun core => (core.1.nodeId, core.2.2.2.1, core.2.2.2.2)) hcore
    · exact absurd (hpublished.symm.trans hnone) (Option.some_ne_none _)
    · rw [hpdo]
      rfl
    · rw [hframes]
      exact hgathered
    · refine Option.some.inj (hsome.symm.trans (hpublished.trans ?_))
      rw [← hconvert]
      exact congrArg (fun decoder => some (convertToRosConvention decoder.sample _)) hdecoder.symm
    · have hnode : (t.step (.frame a)).node.decoder.nodeId =
          (t.node.dropStale a.frame a.time).decoder.nodeId :=
        congrArg (fun decoder => decoder.nodeId) hdecoder
      rw [hkept.mask, maskOf_or, maskOf_eq_all] at hall
      rw [hframes, hnode, seen_cons _ hcarries]
      exact hall kind
  · obtain ⟨hpublished, hcore⟩ :=
      LpmsNode.assemble_pending a.time hcarries hall
    refine outcome_waits (Eq.trans ?_ hfixed) hpublished ?_
    · exact congrArg (fun core => (core.1.nodeId, core.2.2.2.1, core.2.2.2.2)) hcore
    · rw [hframes]
      exact hkept.pending hcarries hyoung hall hcore

end Traced

/-- The PDOs a sample was put together from, all received within the timeout of a first one. -/
structure Composed (settings : NodeSettings) (received : List Event) (sample : ImuSample)
    (parts : Pdo → Arrival) : Prop where
  carries : ∀ pdo, Decoder.carries settings.nodeId (parts pdo).frame = some pdo
  values : ∃ raw : ImuSample, sample = convertToRosConvention raw settings.convertToRos ∧
    ∀ pdo, raw.values pdo = decoded (parts pdo).frame.data pdo
  window : ∃ before first after, received = before ++ .frame first :: after ∧
    (Decoder.carries settings.nodeId first.frame).isSome = true ∧
    ∀ pdo, .frame (parts pdo) ∈ Event.frame first :: after ∧
      (parts pdo).time - first.time ≤ settings.assemblyTimeout

def start (settings : NodeSettings) : Traced := { node := LpmsNode.new settings }

/-- A PDO of another set than the one the assembly began with arrives when that has timed out. -/
def Separated (t : Traced) : Event → Prop
  | .frame a => (t.carries a).isSome = true → ∀ first ∈ t.assembly.getLast?, first.set ≠ a.set →
      t.node.assemblyTimeout < a.time - first.time
  | _ => True

instance (t : Traced) : (event : Event) → Decidable (Separated t event)
  | .frame a => inferInstanceAs (Decidable ((t.carries a).isSome = true →
      ∀ first ∈ t.assembly.getLast?, first.set ≠ a.set →
        t.node.assemblyTimeout < a.time - first.time))
  | .readError | .disconnected => inferInstanceAs (Decidable True)

/-- What the run up to here has left pending. -/
structure Running (settings : NodeSettings) (received : List Event) (t : Traced) : Prop where
  assembling : Assembling t.node t.assembly
  fixed : t.node.fixed = (settings.nodeId, settings.assemblyTimeout, settings.convertToRos)
  order : (t.assembly.reverse.map Event.frame).Sublist received

theorem running_start (settings : NodeSettings) : Running settings [] (start settings) :=
  ⟨.empty settings.assemblyTimeout_pos rfl rfl, rfl, .slnil⟩

section Running

variable {settings : NodeSettings} {received : List Event} {t : Traced} {a : Arrival}

theorem Running.order_frames (h : Running settings received t) (a : Arrival) :
    ((t.frames a).reverse.map Event.frame).Sublist (received ++ [.frame a]) := by
  have hkept : ((t.kept a).reverse.map Event.frame).Sublist received := by
    unfold Traced.kept
    split_ifs
    · exact List.nil_sublist received
    · exact h.order
  unfold Traced.frames
  split_ifs
  · rw [List.reverse_cons, List.map_append]
    exact hkept.append (.refl _)
  · exact hkept.trans (List.sublist_append_left received _)

theorem Running.nodeId (h : Running settings received t) :
    t.node.decoder.nodeId = settings.nodeId :=
  congrArg Prod.fst h.fixed

theorem Running.step (h : Running settings received t) (event : Event) :
    Running settings (received ++ [event]) (t.step event) := by
  cases event with
  | frame a =>
    obtain ⟨hassembling, hfixed, hwaits, hpublishes⟩ := Traced.outcome_frame h.assembling a
    refine ⟨hassembling, hfixed.trans h.fixed, ?_⟩
    rcases hpublished : t.published a with - | sample
    · rw [hwaits hpublished]
      exact h.order_frames a
    · rw [(hpublishes sample hpublished).2.1]
      exact List.nil_sublist _
  | readError =>
    exact ⟨h.assembling.congr rfl, h.fixed, h.order.trans (List.sublist_append_left received _)⟩
  | disconnected =>
    exact ⟨.empty h.assembling.timeout rfl rfl, h.fixed, List.nil_sublist _⟩

theorem running (settings : NodeSettings) (events : List Event) :
    Running settings events (run Traced.step (start settings) events) := by
  induction events using List.reverseRecOn with
  | nil => exact running_start settings
  | append_singleton events event ih =>
    rw [run_snoc]
    exact ih.step event

theorem composed_of_published (h : Running settings received t) {sample : ImuSample}
    (hsome : t.published a = some sample) :
    ∃ parts : Pdo → Arrival, Composed settings (received ++ [.frame a]) sample parts ∧
      ∀ pdo, parts pdo ∈ t.frames a := by
  obtain ⟨-, hfixed, -, hpublishes⟩ := Traced.outcome_frame h.assembling a
  obtain ⟨-, -, hgathered, hsample, hall⟩ := hpublishes sample hsome
  have hnode := hfixed.trans h.fixed
  simp only [LpmsNode.fixed, Prod.mk.injEq] at hnode
  obtain ⟨hnodeId, htimeout, hconvert⟩ := hnode
  have hlatest (pdo : Pdo) : ∃ part, latest settings.nodeId (t.frames a) pdo = some part := by
    rw [← Option.isSome_iff_exists, latest_isSome, ← hnodeId]
    exact hall pdo
  choose parts hparts using hlatest
  have hmem (pdo : Pdo) : parts pdo ∈ t.frames a := (latest_eq_some (hparts pdo)).1
  refine ⟨parts, ⟨fun pdo => (latest_eq_some (hparts pdo)).2,
    ⟨(t.step (.frame a)).node.decoder.sample, ?_, fun pdo => ?_⟩, ?_⟩, hmem⟩
  · rw [hsample, hconvert]
  · exact hgathered.values pdo (parts pdo) (by rw [hnodeId]; exact hparts pdo)
  · have horder := h.order_frames a
    rcases hframes : (t.frames a).reverse with - | ⟨first, rest⟩
    · rw [List.reverse_eq_nil_iff.1 hframes] at hmem
      exact absurd (hmem .pdo1) List.not_mem_nil
    have hfirst : t.frames a = rest.reverse ++ [first] := by
      rw [← List.reverse_cons, ← hframes, List.reverse_reverse]
    rw [hframes, List.map_cons, List.cons_sublist_iff] at horder
    obtain ⟨early, late, hreceived, hearly, hrest⟩ := horder
    obtain ⟨before, between, rfl⟩ := List.append_of_mem hearly
    refine ⟨before, first, between ++ late, by rw [hreceived]; simp, ?_, fun pdo => ⟨?_, ?_⟩⟩
    · rw [← hnodeId]
      exact hgathered.carries first (by simp [hfirst])
    · have hpart : parts pdo ∈ first :: rest := by
        rw [← hframes, List.mem_reverse]
        exact hmem pdo
      rcases List.mem_cons.1 hpart with heq | hpart
      · rw [heq]
        exact List.mem_cons_self
      · exact List.mem_cons_of_mem _ (List.mem_append_right between
          (hrest.subset (List.mem_map_of_mem hpart)))
    · rw [hgathered.first _ first hfirst, ← htimeout]
      exact hgathered.window _ (hmem pdo)

theorem began_with_set (h : Assembling t.node t.assembly) (hpdo : (t.carries a).isSome = true)
    (hseparated : Separated t (.frame a)) (hkept : t.kept a ≠ []) :
    t.kept a = t.assembly ∧ ∃ first ∈ t.assembly, first.set = a.set := by
  obtain ⟨pdo, hpdo'⟩ := Option.isSome_iff_exists.1 hpdo
  obtain ⟨hsame, -, hyoung⟩ := Traced.young_of_kept h hpdo' hkept
  refine ⟨hsame, ?_⟩
  rw [hsame] at hkept
  obtain ⟨more, first, hfirst⟩ := List.eq_nil_or_concat t.assembly |>.resolve_left hkept
  rw [List.concat_eq_append] at hfirst
  refine ⟨first, by simp [hfirst], ?_⟩
  by_contra hne
  have hlate := hseparated hpdo first (by simp [hfirst]) hne
  rw [h.first more first hfirst] at hlate
  exact absurd hyoung (not_le.2 hlate)

def OfOneSet (assembly : List Arrival) : Prop :=
  ∀ b ∈ assembly, ∀ c ∈ assembly, b.set = c.set

theorem frames_of_one_set (h : Assembling t.node t.assembly) (hset : OfOneSet t.assembly)
    (hpdo : (t.carries a).isSome = true) (hseparated : Separated t (.frame a)) :
    ∀ b ∈ t.frames a, b.set = a.set := by
  rw [Traced.frames, if_pos hpdo, List.forall_mem_cons]
  refine ⟨rfl, fun b hb => ?_⟩
  obtain ⟨hkept, first, hfirst, heq⟩ :=
    began_with_set h hpdo hseparated (List.ne_nil_of_mem hb)
  rw [hkept] at hb
  exact (hset b hb first hfirst).trans heq

theorem ofOneSet_step (h : Assembling t.node t.assembly) (hset : OfOneSet t.assembly)
    {event : Event} (hseparated : Separated t event) : OfOneSet (t.step event).assembly := by
  cases event with
  | frame a =>
    obtain ⟨-, -, hwaits, hpublishes⟩ := Traced.outcome_frame h a
    rcases hpublished : t.published a with - | sample
    · rw [hwaits hpublished]
      by_cases hpdo : (t.carries a).isSome = true
      · have hsame := frames_of_one_set h hset hpdo hseparated
        exact fun b hb c hc => (hsame b hb).trans (hsame c hc).symm
      · rw [Traced.frames, if_neg hpdo, Traced.kept]
        split_ifs
        · exact fun b hb => absurd hb List.not_mem_nil
        · exact hset
    · rw [(hpublishes sample hpublished).2.1]
      exact fun b hb => absurd hb List.not_mem_nil
  | readError => exact hset
  | disconnected => exact fun b hb => absurd hb List.not_mem_nil

theorem ofOneSet_run (settings : NodeSettings) (events : List Event)
    (h : Along Traced.step Separated (start settings) events) :
    OfOneSet (run Traced.step (start settings) events).assembly := by
  induction events using List.reverseRecOn with
  | nil => exact fun b hb => absurd hb List.not_mem_nil
  | append_singleton events event ih =>
    rw [along_append, along_cons] at h
    rw [run_snoc]
    exact ofOneSet_step (running settings events).assembling (ih h.1) h.2.1

theorem one_set_of_published {events : List Event} {sample : ImuSample}
    (hsome : (run Traced.step (start settings) events).published a = some sample) :
    ∃ parts : Pdo → Arrival, Composed settings (events ++ [.frame a]) sample parts ∧
      (Along Traced.step Separated (start settings) (events ++ [.frame a]) →
        ∀ pdo, (parts pdo).set = a.set) := by
  have hrunning := running settings events
  obtain ⟨parts, hcomposed, hmem⟩ := composed_of_published hrunning hsome
  refine ⟨parts, hcomposed, fun h pdo => ?_⟩
  rw [along_append, along_cons] at h
  have hpdo := ((Traced.outcome_frame hrunning.assembling a).publishes sample hsome).1
  exact frames_of_one_set hrunning.assembling (ofOneSet_run settings events h.1) hpdo h.2.1 _
    (hmem pdo)

end Running

/-- A set that arrives whole: from its first PDO to a time where every kind has arrived, and all of
them before the assembly times out. -/
structure WholeSet (settings : NodeSettings) (t : Traced) (first : Arrival) (rest : List Event) :
    Prop where
  begins : (Decoder.carries settings.nodeId first.frame).isSome = true
  unseen : ∀ b ∈ t.assembly, b.set ≠ first.set
  connected : .disconnected ∉ rest
  ofSet : ∀ a, .frame a ∈ rest → (Decoder.carries settings.nodeId a.frame).isSome = true →
    a.set = first.set
  soon : ∀ a, .frame a ∈ rest → (Decoder.pdoOf settings.nodeId a.frame.id).isSome = true →
    a.time - first.time ≤ settings.assemblyTimeout
  complete : ∀ pdo, ∃ a, .frame a ∈ Event.frame first :: rest ∧
    Decoder.carries settings.nodeId a.frame = some pdo

section Whole

variable {settings : NodeSettings} {received rest : List Event} {t : Traced} {first a : Arrival}

theorem kept_eq_assembly (h : Running settings received t) {more : List Arrival}
    (hfirst : t.assembly = more ++ [first])
    (hsoon : (Decoder.pdoOf settings.nodeId a.frame.id).isSome = true →
      a.time - first.time ≤ settings.assemblyTimeout) : t.kept a = t.assembly := by
  have hfixed := h.fixed
  simp only [LpmsNode.fixed, Prod.mk.injEq] at hfixed
  obtain ⟨hnodeId, htimeout, -⟩ := hfixed
  refine if_neg fun hstale => ?_
  rw [LpmsNode.stale, Bool.and_eq_true, Bool.and_eq_true, LpmsNode.isPdo, hnodeId,
    ← h.assembling.first more first hfirst, htimeout, decide_eq_true_eq] at hstale
  exact absurd (hsoon hstale.1.1) (not_le.2 hstale.2)

theorem published_of_complete (h : Running settings received t)
    (hfirst : ∃ more, t.assembly = more ++ [first]) (hconnected : .disconnected ∉ rest)
    (hsoon : ∀ a, .frame a ∈ rest → (Decoder.pdoOf settings.nodeId a.frame.id).isSome = true →
      a.time - first.time ≤ settings.assemblyTimeout)
    (hcomplete : ∀ pdo, seen settings.nodeId t.assembly pdo = true ∨
      ∃ a, .frame a ∈ rest ∧ Decoder.carries settings.nodeId a.frame = some pdo) :
    ∃ early a late sample, rest = early ++ .frame a :: late ∧
      (run Traced.step t early).published a = some sample := by
  have hnodeId := h.nodeId
  induction rest generalizing t received with
  | nil =>
    obtain ⟨pdo, hmissing⟩ := h.assembling.missing
    rcases hcomplete pdo with hseen | ⟨a, hmem, -⟩
    · rw [← hnodeId, hmissing] at hseen
      cases hseen
    · exact absurd hmem List.not_mem_nil
  | cons event rest ih =>
    rw [List.mem_cons, not_or] at hconnected
    have hlater : ∀ a, .frame a ∈ rest → _ := fun a hmem => hsoon a (List.mem_cons_of_mem event hmem)
    suffices hnext : (∀ a sample, event = .frame a → t.published a ≠ some sample) →
        (∃ more, (t.step event).assembly = more ++ [first]) ∧
          ∀ pdo, seen settings.nodeId (t.step event).assembly pdo = true ∨
            ∃ a, .frame a ∈ rest ∧ Decoder.carries settings.nodeId a.frame = some pdo by
      by_cases hnow : ∀ a sample, event = .frame a → t.published a ≠ some sample
      · have hrunning := h.step event
        obtain ⟨hfirst, hcomplete⟩ := hnext hnow
        obtain ⟨early, a, late, sample, rfl, hsome⟩ := ih hrunning hfirst hconnected.2 hlater
          hcomplete hrunning.nodeId
        exact ⟨event :: early, a, late, sample, rfl, hsome⟩
      · push Not at hnow
        obtain ⟨a, sample, rfl, hsome⟩ := hnow
        exact ⟨[], a, rest, sample, rfl, hsome⟩
    intro hnow
    cases event with
    | frame a =>
      obtain ⟨more, hlast⟩ := hfirst
      have hkept := kept_eq_assembly h hlast (hsoon a List.mem_cons_self)
      have hnone : t.published a = none := Option.eq_none_iff_forall_ne_some.2 fun sample =>
        hnow a sample rfl
      rw [(Traced.outcome_frame h.assembling a).waits hnone, Traced.frames, hkept]
      rcases hpdo : t.carries a with - | pdo
      · refine ⟨⟨more, hlast⟩, fun kind => (hcomplete kind).imp id ?_⟩
        rintro ⟨b, hmem, hkind⟩
        rcases List.mem_cons.1 hmem with heq | hmem
        · cases heq
          rw [Traced.carries, hnodeId, hkind] at hpdo
          cases hpdo
        · exact ⟨b, hmem, hkind⟩
      · have hseen := seen_cons t.assembly hpdo
        rw [hnodeId] at hseen
        refine ⟨⟨a :: more, congrArg (List.cons a) hlast⟩, fun kind => ?_⟩
        rw [if_pos (Option.isSome_some), hseen, Bool.or_eq_true, decide_eq_true_eq]
        rcases hcomplete kind with hkind | ⟨b, hmem, hkind⟩
        · exact .inl (.inl hkind)
        · rcases List.mem_cons.1 hmem with heq | hmem
          · cases heq
            rw [Traced.carries, hnodeId, hkind] at hpdo
            exact .inl (.inr (Option.some.inj hpdo))
          · exact .inr ⟨b, hmem, hkind⟩
    | readError =>
      refine ⟨hfirst, fun pdo => (hcomplete pdo).imp id ?_⟩
      rintro ⟨b, hmem, hkind⟩
      exact ⟨b, List.mem_of_ne_of_mem Event.noConfusion hmem, hkind⟩
    | disconnected => exact absurd rfl hconnected.1

theorem published_of_whole (h : Running settings received t)
    (hwhole : WholeSet settings t first rest) (hseparated : Separated t (.frame first)) :
    ∃ early a late sample, Event.frame first :: rest = early ++ .frame a :: late ∧
      (run Traced.step t early).published a = some sample := by
  rcases hnow : t.published first with - | sample
  · have hpdo : (t.carries first).isSome = true := by
      rw [Traced.carries, h.nodeId]
      exact hwhole.begins
    have hkept : t.kept first = [] := by
      by_contra hne
      obtain ⟨-, b, hb, heq⟩ := began_with_set h.assembling hpdo hseparated hne
      exact hwhole.unseen b hb heq
    have hassembly : (t.step (.frame first)).assembly = [first] := by
      rw [(Traced.outcome_frame h.assembling first).waits hnow, Traced.frames, hkept, if_pos hpdo]
    have hcomplete (pdo : Pdo) :
        seen settings.nodeId (t.step (.frame first)).assembly pdo = true ∨
          ∃ a, .frame a ∈ rest ∧ Decoder.carries settings.nodeId a.frame = some pdo := by
      obtain ⟨a, hmem, hkind⟩ := hwhole.complete pdo
      rcases List.mem_cons.1 hmem with heq | hmem
      · cases heq
        left
        rw [hassembly, seen, List.any_cons, hkind]
        simp
      · exact .inr ⟨a, hmem, hkind⟩
    obtain ⟨early, a, late, sample, heq, hsome⟩ := published_of_complete
      (h.step (.frame first)) ⟨[], hassembly⟩ hwhole.connected hwhole.soon hcomplete
    exact ⟨.frame first :: early, a, late, sample, congrArg (List.cons _) heq, hsome⟩
  · exact ⟨[], first, rest, sample, rfl, hnow⟩

end Whole

/-- Every sample, and every set that arrives whole. -/
theorem imu_assembly (settings : NodeSettings) (events : List Event) :
    (∀ a sample, (run Traced.step (start settings) events).published a = some sample →
      ∃ parts : Pdo → Arrival, Composed settings (events ++ [.frame a]) sample parts ∧
        (Along Traced.step Separated (start settings) (events ++ [.frame a]) →
          ∀ pdo, (parts pdo).set = a.set)) ∧
      ∀ first rest, WholeSet settings (run Traced.step (start settings) events) first rest →
        Along Traced.step Separated (start settings) (events ++ .frame first :: rest) →
        ∃ early a late sample parts, Event.frame first :: rest = early ++ .frame a :: late ∧
          (run Traced.step (start settings) (events ++ early)).published a = some sample ∧
          Composed settings (events ++ early ++ [.frame a]) sample parts ∧
          ∀ pdo, (parts pdo).set = first.set := by
  refine ⟨fun a sample hsome => one_set_of_published hsome, fun first rest hwhole hseparated => ?_⟩
  have hrunning := running settings events
  have hnow := ((along_append _ _ _).1 hseparated).2.1
  obtain ⟨early, a, late, sample, heq, hsome⟩ := published_of_whole hrunning hwhole hnow
  rw [← run_append] at hsome
  obtain ⟨parts, hcomposed, hset⟩ := one_set_of_published hsome
  refine ⟨early, a, late, sample, parts, heq, hsome, hcomposed, fun pdo => ?_⟩
  have hrun := running settings (events ++ early)
  have hpdo := ((Traced.outcome_frame hrun.assembling a).publishes sample hsome).1
  rw [Traced.carries, hrun.nodeId] at hpdo
  have hsplit : events ++ .frame first :: rest = (events ++ early ++ [.frame a]) ++ late := by
    rw [heq]
    simp
  rw [hsplit, along_append] at hseparated
  refine (hset hseparated.1 pdo).trans ?_
  have hmem : Event.frame a ∈ Event.frame first :: rest := by
    rw [heq]
    simp
  rcases List.mem_cons.1 hmem with hfirst | hmem
  · cases hfirst
    rfl
  · exact hwhole.ofSet a hmem hpdo

section Loss

def hundredHertz : NodeSettings where
  nodeId := 1
  assemblyTimeout := 50
  convertToRos := false
  nodeId_pos := Nat.one_pos
  nodeId_le := Numeral.one_le_sevenBits
  assemblyTimeout_pos := by decide

/-- All bytes of a set are its number. -/
def sent (set : ℕ) (pdo : Pdo) (time : ℤ) : Arrival where
  frame := { id := pdo.base + 1, dlc := 8, data := fun _ => UInt8.ofNat set }
  time
  set

/-- The second PDO of the first set is lost. -/
def lossy : List Event := [.frame (sent 1 .pdo1 0), .frame (sent 1 .pdo3 2), .frame (sent 1 .pdo4 3)]

/-- The next set comes after a pause. -/
theorem imu_assembly_after_pause :
    ∃ early a late sample parts, [Event.frame (sent 2 .pdo1 60), .frame (sent 2 .pdo2 61),
        .frame (sent 2 .pdo3 62), .frame (sent 2 .pdo4 63)] = early ++ .frame a :: late ∧
      (run Traced.step (start hundredHertz) (lossy ++ early)).published a = some sample ∧
      Composed hundredHertz (lossy ++ early ++ [.frame a]) sample parts ∧
      ∀ pdo, (parts pdo).set = 2 := by
  refine (imu_assembly hundredHertz lossy).2 (sent 2 .pdo1 60) [.frame (sent 2 .pdo2 61),
    .frame (sent 2 .pdo3 62), .frame (sent 2 .pdo4 63)] ⟨?_, ?_, ?_, ?_, ?_, ?_⟩ ?_
  · decide +kernel
  · decide +kernel
  · simp
  · intro a hmem _
    simp only [List.mem_cons, Event.frame.injEq, List.not_mem_nil, or_false] at hmem
    rcases hmem with rfl | rfl | rfl <;> rfl
  · intro a hmem _
    simp only [List.mem_cons, Event.frame.injEq, List.not_mem_nil, or_false] at hmem
    rcases hmem with rfl | rfl | rfl <;> decide +kernel
  · intro pdo
    cases pdo
    · exact ⟨sent 2 .pdo1 60, by simp, by decide +kernel⟩
    · exact ⟨sent 2 .pdo2 61, by simp, by decide +kernel⟩
    · exact ⟨sent 2 .pdo3 62, by simp, by decide +kernel⟩
    · exact ⟨sent 2 .pdo4 63, by simp, by decide +kernel⟩
  · decide +kernel

/-- Without one the first two PDOs of the second set complete what is left of the first, and its
last two wait for the third. -/
theorem mixed_sets :
    ((run Traced.step (start hundredHertz) (lossy ++ [.frame (sent 2 .pdo1 10)])).published
        (sent 2 .pdo2 11)).map (fun sample =>
          (sample.linearAccelerationMps2 0, sample.orientationWxyz 0)) =
        some (scaledValue (sent 2 .pdo1 10).frame.data 0 accelerationScale,
          scaledValue (sent 1 .pdo4 3).frame.data 0 quaternionScale) ∧
      ((run Traced.step (start hundredHertz) (lossy ++ [.frame (sent 2 .pdo1 10),
        .frame (sent 2 .pdo2 11), .frame (sent 2 .pdo3 12), .frame (sent 2 .pdo4 13),
        .frame (sent 3 .pdo1 20)])).published (sent 3 .pdo2 21)).map (fun sample =>
          (sample.linearAccelerationMps2 0, sample.orientationWxyz 0)) =
        some (scaledValue (sent 3 .pdo1 20).frame.data 0 accelerationScale,
          scaledValue (sent 2 .pdo4 13).frame.data 0 quaternionScale) ∧
      ([1, 2, 3].map fun set =>
        scaledValue (sent set .pdo1 0).frame.data 0 accelerationScale).Nodup ∧
      ([1, 2, 3].map fun set =>
        scaledValue (sent set .pdo4 0).frame.data 0 quaternionScale).Nodup := by
  decide +kernel

end Loss

end RobotDriver.Imu
