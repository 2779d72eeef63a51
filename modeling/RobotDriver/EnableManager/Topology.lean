import RobotDriver.Lib.Batches
import RobotDriver.Lib.Fallible
import Mathlib.Data.List.Dedup
import Mathlib.Algebra.Order.Ring.Rat

/-!
# Loading the enable topology

`EnableManagerController::configureTopology` reads the parameters that the composer emitted. It
trusts the flat list of batch joints: the position in that list is not checked against its
length, and the axis of a name is taken with `at`. A read past the list and a name without an
axis are therefore outcomes of their own here, beside the refusals the controller logs.
-/

namespace RobotDriver.EnableManager

inductive ModeOfOperation where
  | mode (value : ℤ)
  | TBD
deriving DecidableEq

inductive ParameterValue where
  | text (value : String)
  | number (value : ℚ)
  | names (values : List String)
  | integers (values : List ℤ)
  | modes (values : List ModeOfOperation)
  | nested (values : List (List String))
  | mapping (keys : List String)
deriving DecidableEq

abbrev Parameters := List (String × ParameterValue)

inductive TopologyFailure where
  | refused (message : String)
  | wrongType (parameter : String)
  | lengthError (size : ℤ)
  | readPast (index : ℕ)
  | missingAxis (name : String)
deriving DecidableEq

def stringArray (parameters : Parameters) (name : String) : Except TopologyFailure (List String) :=
  match parameters.lookup name with
  | none => .ok []
  | some (.names values) => .ok values
  | some _ => .error (.wrongType name)

def integerArray (parameters : Parameters) (name : String) : Except TopologyFailure (List ℤ) :=
  match parameters.lookup name with
  | none => .ok []
  | some (.integers values) => .ok values
  | some _ => .error (.wrongType name)

def stringParameter (parameters : Parameters) (name preset : String) :
    Except TopologyFailure String :=
  match parameters.lookup name with
  | none => .ok preset
  | some (.text value) => .ok value
  | some _ => .error (.wrongType name)

def topologyParameterNames : List String :=
  ["managed_joints", "enable_batch_joint_names", "enable_batch_sizes",
    "ready_to_switch_on_disable_terminal_joints"]

def topologyParameterBit (index : ℕ) : ℕ := 1 <<< index

def allTopologyParametersMask : ℕ := 1 <<< topologyParameterNames.length - 1

def explicitMask (parameters : Parameters) : ℕ :=
  (topologyParameterNames.zipIdx.filter fun entry => (parameters.lookup entry.1).isSome).foldl
    (fun mask entry => mask ||| topologyParameterBit entry.2) 0

def maximumIndexedCount : ℕ := 127

/-- The map filled with `emplace`: of two axes of one name the first is kept. -/
def axisByName (managedJoints : List String) (name : String) : Option ℕ :=
  managedJoints.idxOf? name

/-- `reserve` throws above the largest vector of 64-bit words, and a negative size is above it. -/
def maximumVectorSize : ℤ := 2 ^ 60 - 1

section Batches

variable (managedJoints flatBatchJoints : List String)

def readBatch : ℕ → ℕ → Except TopologyFailure (List ℕ × ℕ)
  | 0, flatIndex => .ok ([], flatIndex)
  | items + 1, flatIndex =>
    match flatBatchJoints[flatIndex]? with
    | none => .error (.readPast flatIndex)
    | some joint =>
      match axisByName managedJoints joint with
      | none => .error (.missingAxis joint)
      | some axis => do
        let (batch, next) ← readBatch items (flatIndex + 1)
        return (axis :: batch, next)

def readBatches : List ℤ → ℕ → Except TopologyFailure (List (List ℕ))
  | [], _ => .ok []
  | batchSize :: batchSizes, flatIndex =>
    if batchSize < 0 ∨ maximumVectorSize < batchSize then .error (.lengthError batchSize)
    else do
      let (batch, next) ← readBatch managedJoints flatBatchJoints batchSize.toNat flatIndex
      let batches ← readBatches batchSizes next
      return batch :: batches

end Batches

def markReadyTerminal (managedJoints : List String) :
    List String → List Bool → Except TopologyFailure (List Bool)
  | [], flags => .ok flags
  | joint :: joints, flags =>
    match axisByName managedJoints joint with
    | none => .error (.refused
        "ready_to_switch_on_disable_terminal_joints must be a unique managed-joint subset")
    | some axis =>
      if flags.getD axis false then .error (.refused
        "ready_to_switch_on_disable_terminal_joints must be a unique managed-joint subset")
      else markReadyTerminal managedJoints joints (flags.set axis true)

structure Topology where
  handshakeDevices : List String
  jointNames : List String
  enableBatches : List (List ℕ)
  readyToSwitchOnDisableTerminal : List Bool
  statusWords : List ℕ
  resetTargets : List ℕ
  cia402Axes : List String
deriving DecidableEq

def loadJoints (parameters : Parameters) (handshakeDevices : List String) :
    Except TopologyFailure Topology := do
  let managedJoints ← stringArray parameters "managed_joints"
  let flatBatchJoints ← stringArray parameters "enable_batch_joint_names"
  let batchSizes ← integerArray parameters "enable_batch_sizes"
  let readyTerminalJoints ←
    stringArray parameters "ready_to_switch_on_disable_terminal_joints"
  if managedJoints = [] ∨ maximumIndexedCount < managedJoints.length ∨ batchSizes = [] ∨
      maximumIndexedCount < batchSizes.length then
    .error (.refused "managed_joints and enable_batch_sizes must each contain 1..127 entries")
  else do
    let enableBatches ← readBatches managedJoints flatBatchJoints batchSizes 0
    let readyTerminal ← markReadyTerminal managedJoints readyTerminalJoints
      (List.replicate managedJoints.length false)
    return {
      handshakeDevices
      jointNames := managedJoints
      enableBatches
      readyToSwitchOnDisableTerminal := readyTerminal
      statusWords := List.replicate managedJoints.length 0
      resetTargets := List.replicate managedJoints.length 0
      cia402Axes := managedJoints }

/-- The bits of the explicit parameters once the terminal policy is accepted. -/
def terminalMask (parameters : Parameters) : Except TopologyFailure ℕ := do
  let terminalPolicy ← stringParameter parameters "disable_terminal_policy" "joint_list"
  if terminalPolicy = "switch_on_disabled" then
    let exceptions ← stringArray parameters "ready_to_switch_on_disable_terminal_joints"
    if exceptions ≠ [] then
      .error (.refused "Explicit disabled-terminal policy conflicts with joint exceptions")
    else .ok (explicitMask parameters ||| topologyParameterBit 3)
  else if terminalPolicy ≠ "joint_list" then
    .error (.refused "Unknown disable_terminal_policy")
  else .ok (explicitMask parameters)

def configureTopology (parameters : Parameters) : Except TopologyFailure Topology := do
  let deviceNames ← stringArray parameters "handshake_devices"
  if deviceNames ≠ [] ∧ explicitMask parameters = 0 then
    return {
      handshakeDevices := deviceNames
      jointNames := []
      enableBatches := []
      readyToSwitchOnDisableTerminal := []
      statusWords := []
      resetTargets := []
      cia402Axes := [] }
  else do
    let mask ← terminalMask parameters
    if mask ≠ allTopologyParametersMask then
      .error (.refused
        ("managed_joints, enable_batch_joint_names, enable_batch_sizes, and " ++
          "ready_to_switch_on_disable_terminal_joints must all be explicitly configured"))
    else loadJoints parameters deviceNames

theorem axisByName_of_mem {managedJoints : List String} {name : String}
    (h : name ∈ managedJoints) : axisByName managedJoints name = some (managedJoints.idxOf name) := by
  obtain ⟨axis, haxis⟩ := Option.isSome_iff_exists.1 (List.isSome_idxOf?.2 h)
  rw [axisByName, List.idxOf_eq_getD_idxOf?, haxis, Option.getD_some]

theorem readBatch_eq (managedJoints : List String) {flatBatchJoints : List String}
    (batch rest : List String)
    (flatIndex : ℕ) (hflat : flatBatchJoints.drop flatIndex = batch ++ rest)
    (hmem : ∀ joint ∈ batch, joint ∈ managedJoints) :
    readBatch managedJoints flatBatchJoints batch.length flatIndex =
      .ok (batch.map managedJoints.idxOf, flatIndex + batch.length) := by
  induction batch generalizing flatIndex with
  | nil => rfl
  | cons joint batch ih =>
    have hhead : flatBatchJoints[flatIndex]? = some joint := by
      rw [← List.head?_drop, hflat]
      rfl
    have htail : flatBatchJoints.drop (flatIndex + 1) = batch ++ rest := by
      rw [← List.tail_drop, hflat]
      rfl
    have hrest := ih (flatIndex + 1) htail fun j hj => hmem j (List.mem_cons_of_mem _ hj)
    simp only [List.length_cons, readBatch, hhead, axisByName_of_mem (hmem joint (by simp)), hrest]
    simp only [bind, Except.bind, pure, Except.pure, List.map_cons, Except.ok.injEq,
      Prod.mk.injEq, true_and]
    omega

theorem readBatches_eq {managedJoints flatBatchJoints : List String} (batches : List (List String))
    (flatIndex : ℕ) (hflat : flatBatchJoints.drop flatIndex = batches.flatten)
    (hmem : ∀ joint ∈ batches.flatten, joint ∈ managedJoints)
    (hsize : ∀ batch ∈ batches, (batch.length : ℤ) ≤ maximumVectorSize) :
    readBatches managedJoints flatBatchJoints (batches.map fun batch => (batch.length : ℤ))
      flatIndex = .ok (batches.map (List.map managedJoints.idxOf)) := by
  induction batches generalizing flatIndex with
  | nil => rfl
  | cons batch batches ih =>
    rw [List.flatten_cons] at hflat hmem
    have hread := readBatch_eq managedJoints batch batches.flatten flatIndex
      hflat fun j hj => hmem j (List.mem_append_left _ hj)
    have htail : flatBatchJoints.drop (flatIndex + batch.length) = batches.flatten := by
      rw [← List.drop_drop, hflat, List.drop_left]
    have hrest := ih (flatIndex + batch.length) htail
      (fun j hj => hmem j (List.mem_append_right _ hj))
      fun b hb => hsize b (List.mem_cons_of_mem _ hb)
    have hfits : ¬ ((batch.length : ℤ) < 0 ∨ maximumVectorSize < batch.length) := by
      have := hsize batch (by simp)
      omega
    simp only [List.map_cons, readBatches, if_neg hfits, Int.toNat_natCast, hread]
    simp only [bind, Except.bind, hrest, pure, Except.pure]

/-- The parameters name the managed joints and the batches of a partition of them. -/
structure Describes (parameters : Parameters) (managedJoints : List String)
    (batches : List (List String)) : Prop where
  managed : parameters.lookup "managed_joints" = some (.names managedJoints)
  flat : parameters.lookup "enable_batch_joint_names" = some (.names batches.flatten)
  sizes : parameters.lookup "enable_batch_sizes" =
    some (.integers (batches.map fun batch => (batch.length : ℤ)))
  nodup : managedJoints.Nodup
  partitions : Partitions batches managedJoints

/-- The topology holds the managed joints in their order, and every axis is in one batch. -/
structure Topology.Sound (topology : Topology) (managedJoints : List String)
    (batches : List (List String)) : Prop where
  jointNames : topology.jointNames = managedJoints
  enableBatches : topology.enableBatches = batches.map (List.map managedJoints.idxOf)
  axes : Partitions topology.enableBatches (List.range topology.jointNames.length)

theorem explicitMask_of_isSome {parameters : Parameters}
    (hm : (parameters.lookup "managed_joints").isSome)
    (hf : (parameters.lookup "enable_batch_joint_names").isSome)
    (hs : (parameters.lookup "enable_batch_sizes").isSome) :
    explicitMask parameters ≠ 0 ∧
      explicitMask parameters ||| topologyParameterBit 3 = allTopologyParametersMask := by
  unfold explicitMask topologyParameterNames
  cases hr : (parameters.lookup "ready_to_switch_on_disable_terminal_joints").isSome
  all_goals
    simp only [List.zipIdx_cons, List.zipIdx_nil, List.filter_cons, List.filter_nil, hm, hf, hs, hr]
    decide

def Counted (count : ℕ) : Prop := 0 < count ∧ count ≤ maximumIndexedCount

namespace Describes

variable {parameters : Parameters} {managedJoints : List String} {batches : List (List String)}

theorem explicit (h : Describes parameters managedJoints batches) :
    explicitMask parameters ≠ 0 ∧
      explicitMask parameters ||| topologyParameterBit 3 = allTopologyParametersMask :=
  explicitMask_of_isSome (by rw [h.managed]; rfl) (by rw [h.flat]; rfl) (by rw [h.sizes]; rfl)

theorem batch_fits (h : Describes parameters managedJoints batches)
    (hc : Counted managedJoints.length) :
    ∀ batch ∈ batches, (batch.length : ℤ) ≤ maximumVectorSize := by
  intro batch hb
  have hle : batch.length ≤ batches.flatten.length := (List.sublist_flatten_of_mem hb).length_le
  have hlen := (h.partitions.perm h.nodup).length_eq
  have hmax := hc.2
  unfold maximumIndexedCount at hmax
  unfold maximumVectorSize
  omega

theorem reads_managed (h : Describes parameters managedJoints batches) :
    stringArray parameters "managed_joints" = .ok managedJoints := by
  rw [stringArray, h.managed]

theorem reads_flat (h : Describes parameters managedJoints batches) :
    stringArray parameters "enable_batch_joint_names" = .ok batches.flatten := by
  rw [stringArray, h.flat]

theorem reads_sizes (h : Describes parameters managedJoints batches) :
    integerArray parameters "enable_batch_sizes" =
      .ok (batches.map fun batch => (batch.length : ℤ)) := by
  rw [integerArray, h.sizes]

theorem reads_batches (h : Describes parameters managedJoints batches)
    (hc : Counted managedJoints.length) :
    readBatches managedJoints batches.flatten (batches.map fun batch => (batch.length : ℤ)) 0 =
      .ok (batches.map (List.map managedJoints.idxOf)) :=
  readBatches_eq batches 0 rfl (fun joint hj => (h.partitions.covers joint).1 hj) (h.batch_fits hc)

theorem count_guard (h : Describes parameters managedJoints batches) :
    (managedJoints = [] ∨ maximumIndexedCount < managedJoints.length ∨
      (batches.map fun batch => (batch.length : ℤ)) = [] ∨
      maximumIndexedCount < (batches.map fun batch => (batch.length : ℤ)).length) ↔
        ¬ Counted managedJoints.length := by
  have hcount := h.partitions.length_le h.nodup
  have hempty : batches = [] → managedJoints = [] := by
    intro hb
    by_contra hne
    exact h.partitions.ne_nil hne hb
  simp only [List.length_map, Counted, ← List.length_eq_zero_iff] at hempty ⊢
  omega

theorem loadJoints_eq (h : Describes parameters managedJoints batches)
    (hc : Counted managedJoints.length) {readyTerminalJoints : List String}
    (hready : stringArray parameters "ready_to_switch_on_disable_terminal_joints" =
      .ok readyTerminalJoints) (handshakeDevices : List String) :
    loadJoints parameters handshakeDevices = do
      let readyTerminal ← markReadyTerminal managedJoints readyTerminalJoints
        (List.replicate managedJoints.length false)
      return {
        handshakeDevices
        jointNames := managedJoints
        enableBatches := batches.map (List.map managedJoints.idxOf)
        readyToSwitchOnDisableTerminal := readyTerminal
        statusWords := List.replicate managedJoints.length 0
        resetTargets := List.replicate managedJoints.length 0
        cia402Axes := managedJoints } := by
  rw [loadJoints, h.reads_managed, h.reads_flat, h.reads_sizes, hready]
  simp only [bind, Except.bind, if_neg (h.count_guard.not_left.2 hc), h.reads_batches hc]

theorem loadJoints_refused (h : Describes parameters managedJoints batches)
    (hc : ¬ Counted managedJoints.length) {readyTerminalJoints : List String}
    (hready : stringArray parameters "ready_to_switch_on_disable_terminal_joints" =
      .ok readyTerminalJoints) (handshakeDevices : List String) :
    loadJoints parameters handshakeDevices = .error
      (.refused "managed_joints and enable_batch_sizes must each contain 1..127 entries") := by
  rw [loadJoints, h.reads_managed, h.reads_flat, h.reads_sizes, hready]
  simp only [bind, Except.bind, if_pos (h.count_guard.2 hc)]

end Describes

/-- A refusal that the controller logs, or a parameter of a type it does not declare. -/
def Declined : TopologyFailure → Prop
  | .refused _ | .wrongType _ => True
  | .lengthError _ | .readPast _ | .missingAxis _ => False

theorem stringArray_failsOnly (parameters : Parameters) (name : String) :
    FailsOnly Declined (stringArray parameters name) := by
  unfold stringArray
  split
  · exact .ok _
  · exact .ok _
  · exact .error trivial

theorem stringParameter_failsOnly (parameters : Parameters) (name preset : String) :
    FailsOnly Declined (stringParameter parameters name preset) := by
  unfold stringParameter
  split
  · exact .ok _
  · exact .ok _
  · exact .error trivial

theorem markReadyTerminal_failsOnly (managedJoints joints : List String) (flags : List Bool) :
    FailsOnly Declined (markReadyTerminal managedJoints joints flags) := by
  induction joints generalizing flags with
  | nil => exact .ok _
  | cons joint joints ih =>
    unfold markReadyTerminal
    split
    · exact .error trivial
    · exact .ite (fun _ => .error trivial) fun _ => ih _

theorem terminalMask_failsOnly (parameters : Parameters) :
    FailsOnly Declined (terminalMask parameters) := by
  apply (stringParameter_failsOnly _ _ _).bind
  intro terminalPolicy _
  refine .ite (fun _ => ?_) fun _ => .ite (fun _ => .error trivial) fun _ => .ok _
  apply (stringArray_failsOnly _ _).bind
  intro exceptions _
  exact .ite (fun _ => .error trivial) fun _ => .ok _

namespace Describes

variable {parameters : Parameters} {managedJoints : List String} {batches : List (List String)}

theorem loadJoints_failsOnly (h : Describes parameters managedJoints batches)
    (handshakeDevices : List String) :
    FailsOnly Declined (loadJoints parameters handshakeDevices) := by
  cases hready : stringArray parameters "ready_to_switch_on_disable_terminal_joints" with
  | error failure =>
    rw [loadJoints, h.reads_managed, h.reads_flat, h.reads_sizes, hready]
    exact .error (stringArray_failsOnly _ _ _ hready)
  | ok readyTerminalJoints =>
    by_cases hc : Counted managedJoints.length
    · rw [h.loadJoints_eq hc hready]
      exact (markReadyTerminal_failsOnly _ _ _).bind fun _ _ => .pure _
    · rw [h.loadJoints_refused hc hready]
      exact .error trivial

theorem configureTopology_failsOnly (h : Describes parameters managedJoints batches) :
    FailsOnly Declined (configureTopology parameters) := by
  apply (stringArray_failsOnly _ _).bind
  intro deviceNames _
  refine .ite (fun _ => .pure _) fun _ => ?_
  apply (terminalMask_failsOnly _).bind
  intro mask _
  exact .ite (fun _ => .error trivial) fun _ => h.loadJoints_failsOnly _

theorem loadJoints_ok (h : Describes parameters managedJoints batches)
    {handshakeDevices : List String} {topology : Topology}
    (ht : loadJoints parameters handshakeDevices = .ok topology) :
    Counted managedJoints.length ∧ topology.Sound managedJoints batches := by
  cases hready : stringArray parameters "ready_to_switch_on_disable_terminal_joints" with
  | error failure =>
    rw [loadJoints, h.reads_managed, h.reads_flat, h.reads_sizes, hready] at ht
    cases ht
  | ok readyTerminalJoints =>
    by_cases hc : Counted managedJoints.length
    · rw [h.loadJoints_eq hc hready, bind_eq_ok_iff] at ht
      obtain ⟨readyTerminal, -, ht⟩ := ht
      cases ht
      exact ⟨hc, rfl, rfl, h.partitions.axes h.nodup⟩
    · rw [h.loadJoints_refused hc hready] at ht
      cases ht

theorem configureTopology_ok (h : Describes parameters managedJoints batches) {topology : Topology}
    (ht : configureTopology parameters = .ok topology) :
    Counted managedJoints.length ∧ topology.Sound managedJoints batches := by
  unfold configureTopology at ht
  rw [bind_eq_ok_iff] at ht
  obtain ⟨deviceNames, -, ht⟩ := ht
  rw [if_neg fun hd => h.explicit.1 hd.2, bind_eq_ok_iff] at ht
  obtain ⟨mask, -, ht⟩ := ht
  split_ifs at ht
  exact h.loadJoints_ok ht

theorem loads (h : Describes parameters managedJoints batches)
    (hc : Counted managedJoints.length)
    (hdevices : parameters.lookup "handshake_devices" = none)
    (hpolicy : parameters.lookup "disable_terminal_policy" = some (.text "switch_on_disabled"))
    (hready : parameters.lookup "ready_to_switch_on_disable_terminal_joints" = none) :
    ∃ topology, configureTopology parameters = .ok topology := by
  have hdevice : stringArray parameters "handshake_devices" = .ok [] := by
    rw [stringArray, hdevices]
  have hterminal : stringArray parameters "ready_to_switch_on_disable_terminal_joints" = .ok [] := by
    rw [stringArray, hready]
  have hmask : terminalMask parameters = .ok allTopologyParametersMask := by
    rw [terminalMask, stringParameter, hpolicy]
    simp only [bind, Except.bind, if_true, hterminal, ne_eq, not_true_eq_false, if_false,
      h.explicit.2]
  obtain ⟨topology, ht⟩ : ∃ topology, loadJoints parameters [] = .ok topology :=
    ⟨_, (h.loadJoints_eq hc hterminal []).trans rfl⟩
  refine ⟨topology, ?_⟩
  rw [configureTopology, hdevice]
  simp only [bind, Except.bind, ne_eq, not_true_eq_false, false_and, if_false, hmask, ht]

end Describes

end RobotDriver.EnableManager
