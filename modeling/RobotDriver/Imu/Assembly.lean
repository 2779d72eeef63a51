import Mathlib.Algebra.Order.Ring.Int
import RobotDriver.Imu.LpmsNode
import RobotDriver.Lib.LabelledRun

/-!
# What a sample is assembled from

Beside the node runs the list of the PDOs of its pending assembly, the newest first. A sample takes
the newest PDO of each kind from that list, and all of them arrived within the assembly timeout of
the first. They are of one set when a PDO of another set never meets a pending assembly that is
still young; then a complete set is always published.
-/

namespace RobotDriver.Imu

open LabelledRun

/-- A frame as the sensor sent it in a set, which the node cannot tell. -/
structure Arrival where
  frame : CanFrame
  time : ℤ
  set : ℕ

inductive Event
  | frame (arrival : Arrival)
  | readError
  | disconnected

structure Traced where
  node : LpmsNode
  assembly : List Arrival := []

namespace Traced

variable (t : Traced) (a : Arrival)

def carries : Option Pdo := Decoder.carries t.node.decoder.nodeId a.frame

/-- The assembly the arrival finds. -/
def kept : List Arrival := if t.node.stale a.frame a.time then [] else t.assembly

/-- The assembly with the arrival. -/
def frames : List Arrival := if (t.carries a).isSome then a :: t.kept a else t.kept a

def published : Option ImuSample := (t.node.receive a.frame a.time).1

def step (t : Traced) : Event → Traced
  | .frame a =>
    let node := (t.node.receive a.frame a.time).2
    { node, assembly := if node.hasPartialAssembly then t.frames a else [] }
  | .readError => { t with node := t.node.countMalformed }
  | .disconnected => { node := t.node.disconnect }

end Traced

namespace LpmsNode

/-- What the assembly depends on. -/
def core (node : LpmsNode) : Decoder × Bool × ℤ × ℤ × Bool :=
  (node.decoder, node.hasPartialAssembly, node.assemblyStartedTime, node.assemblyTimeout,
    node.convertToRos)

variable {node : LpmsNode} {frame : CanFrame} {receiveTime : ℤ}

theorem dropStale_nodeId : (node.dropStale frame receiveTime).decoder.nodeId =
    node.decoder.nodeId := by
  unfold dropStale
  split_ifs <;> rfl

theorem assemble_other (receiveTime : ℤ)
    (h : Decoder.carries node.decoder.nodeId frame = none) :
    (node.assemble frame receiveTime).1 = none ∧
      (node.assemble frame receiveTime).2.core = node.core := by
  obtain ⟨hdecoder, hsample, hpdo⟩ := Decoder.consume_of_not_carries h
  unfold assemble
  rcases hresult : node.decoder.consume frame with ⟨result, decoder⟩
  rw [hresult] at hdecoder hsample hpdo
  dsimp only at hdecoder hsample hpdo ⊢
  subst hdecoder
  by_cases hrecognized : result.recognized = false
  · rw [if_pos hrecognized]
    exact ⟨rfl, rfl⟩
  rw [if_neg hrecognized]
  by_cases hmalformed : result.malformed = true
  · rw [if_pos hmalformed]
    exact ⟨rfl, rfl⟩
  rw [if_neg hmalformed, hsample]
  have hnone : Decoder.pdoOf node.decoder.nodeId frame.id = none := by
    by_contra hne
    exact (hpdo hne).elim hrecognized hmalformed
  have hbegin (other : LpmsNode) (hother : other.decoder = node.decoder) :
      other.beginAssembly frame receiveTime = other := by
    rw [beginAssembly, isPdo, hother, hnone]
    rfl
  rw [hbegin]
  · rcases result.heartbeatState with - | state <;> exact ⟨rfl, rfl⟩
  · rfl

/-- When an assembly that takes a frame at the time began. -/
def startedTime (node : LpmsNode) (receiveTime : ℤ) : ℤ :=
  if node.hasPartialAssembly then node.assemblyStartedTime else receiveTime

theorem isPdo_of_carries {pdo : Pdo}
    (h : Decoder.carries node.decoder.nodeId frame = some pdo) : node.isPdo frame = true := by
  unfold Decoder.carries at h
  split_ifs at h
  rw [isPdo, h]
  rfl

theorem beginAssembly_core (h : node.isPdo frame = true) :
    (node.beginAssembly frame receiveTime).core =
      (node.decoder, true, node.startedTime receiveTime, node.assemblyTimeout,
        node.convertToRos) := by
  unfold beginAssembly startedTime core
  rw [h]
  rcases hpending : node.hasPartialAssembly with - | -
  · rfl
  · simp only [Bool.not_true, Bool.and_false, Bool.false_eq_true, if_false, if_true, hpending]

theorem assemble_complete (receiveTime : ℤ) {pdo : Pdo}
    (h : Decoder.carries node.decoder.nodeId frame = some pdo)
    (hall : node.decoder.pendingMask ||| pdo.bit = kAllPdosReceived) :
    (node.assemble frame receiveTime).1 =
        some (convertToRosConvention (node.decoder.sample.write frame.data pdo)
          node.convertToRos) ∧
      (node.assemble frame receiveTime).2.core =
        ({ node.decoder with
            pendingMask := 0, sample := node.decoder.sample.write frame.data pdo },
          false, node.startedTime receiveTime, node.assemblyTimeout, node.convertToRos) := by
  let sample := node.decoder.sample.write frame.data pdo
  let taken : LpmsNode :=
    { node with
      decoder := { node.decoder with pendingMask := 0, sample }
      recognizedFrameCount := node.recognizedFrameCount + 1 }
  have hbegin : (taken.beginAssembly frame receiveTime).core = _ :=
    beginAssembly_core (isPdo_of_carries h)
  rw [assemble, Decoder.consume_of_carries h, Decoder.consumePdo]
  dsimp only
  rw [if_pos hall]
  constructor
  · exact congrArg (fun core => some (convertToRosConvention sample core.2.2.2.2)) hbegin
  · exact congrArg (fun core => (core.1, false, core.2.2)) hbegin

theorem assemble_pending (receiveTime : ℤ) {pdo : Pdo}
    (h : Decoder.carries node.decoder.nodeId frame = some pdo)
    (hall : node.decoder.pendingMask ||| pdo.bit ≠ kAllPdosReceived) :
    (node.assemble frame receiveTime).1 = none ∧
      (node.assemble frame receiveTime).2.core =
        ({ node.decoder with
            pendingMask := node.decoder.pendingMask ||| pdo.bit,
            sample := node.decoder.sample.write frame.data pdo },
          true, node.startedTime receiveTime, node.assemblyTimeout, node.convertToRos) := by
  let taken : LpmsNode :=
    { node with
      decoder := { node.decoder with
        pendingMask := node.decoder.pendingMask ||| pdo.bit
        sample := node.decoder.sample.write frame.data pdo }
      recognizedFrameCount := node.recognizedFrameCount + 1 }
  have hbegin : (taken.beginAssembly frame receiveTime).core = _ :=
    beginAssembly_core (isPdo_of_carries h)
  rw [assemble, Decoder.consume_of_carries h, Decoder.consumePdo]
  dsimp only
  rw [if_neg hall]
  exact ⟨rfl, hbegin⟩

end LpmsNode

section Mask

def seen (nodeId : ℕ) (arrivals : List Arrival) (pdo : Pdo) : Bool :=
  arrivals.any fun a => Decoder.carries nodeId a.frame = some pdo

def latest (nodeId : ℕ) (arrivals : List Arrival) (pdo : Pdo) : Option Arrival :=
  arrivals.find? fun a => Decoder.carries nodeId a.frame = some pdo

def maskOfBits (first second third fourth : Bool) : UInt8 :=
  (if first then Pdo.pdo1.bit else 0) ||| (if second then Pdo.pdo2.bit else 0) |||
    (if third then Pdo.pdo3.bit else 0) ||| (if fourth then Pdo.pdo4.bit else 0)

def maskOf (kinds : Pdo → Bool) : UInt8 :=
  maskOfBits (kinds .pdo1) (kinds .pdo2) (kinds .pdo3) (kinds .pdo4)

theorem maskOf_none : maskOf (fun _ => false) = 0 := by decide

theorem maskOf_or (kinds : Pdo → Bool) (pdo : Pdo) :
    maskOf kinds ||| pdo.bit = maskOf fun kind => kinds kind || kind = pdo := by
  have hbits : ∀ first second third fourth : Bool,
      maskOfBits first second third fourth ||| pdo.bit =
        maskOfBits (first || Pdo.pdo1 = pdo) (second || Pdo.pdo2 = pdo) (third || Pdo.pdo3 = pdo)
          (fourth || Pdo.pdo4 = pdo) := by
    cases pdo <;> decide
  exact hbits _ _ _ _

theorem maskOf_eq_all {kinds : Pdo → Bool} :
    maskOf kinds = kAllPdosReceived ↔ ∀ pdo, kinds pdo = true := by
  have hbits : ∀ first second third fourth : Bool,
      maskOfBits first second third fourth = kAllPdosReceived ↔
        first = true ∧ second = true ∧ third = true ∧ fourth = true := by
    decide
  rw [maskOf, hbits]
  constructor
  · intro h pdo
    cases pdo
    exacts [h.1, h.2.1, h.2.2.1, h.2.2.2]
  · exact fun h => ⟨h _, h _, h _, h _⟩

variable {nodeId : ℕ} {a : Arrival} {arrivals : List Arrival} {pdo : Pdo}

theorem seen_cons (arrivals : List Arrival) (h : Decoder.carries nodeId a.frame = some pdo) :
    seen nodeId (a :: arrivals) = fun kind => seen nodeId arrivals kind || kind = pdo := by
  funext kind
  rw [seen, List.any_cons, h, Bool.or_comm, seen]
  congr 1
  simp only [Option.some.injEq, eq_comm]

theorem latest_cons (h : Decoder.carries nodeId a.frame = some pdo) (kind : Pdo) :
    latest nodeId (a :: arrivals) kind =
      if kind = pdo then some a else latest nodeId arrivals kind := by
  rw [latest, List.find?_cons, h]
  by_cases hkind : kind = pdo
  · simp [hkind]
  · simp [hkind, Ne.symm hkind, latest]

theorem latest_isSome (kind : Pdo) :
    (latest nodeId arrivals kind).isSome = seen nodeId arrivals kind := by
  rw [latest, seen, List.isSome_find?]

theorem latest_eq_some {kind : Pdo} (h : latest nodeId arrivals kind = some a) :
    a ∈ arrivals ∧ Decoder.carries nodeId a.frame = some kind :=
  have hcarries := List.find?_some h
  ⟨List.mem_of_find?_eq_some h, of_decide_eq_true hcarries⟩

end Mask

/-- What the node holds of the PDOs it has taken. -/
structure Gathered (node : LpmsNode) (assembly : List Arrival) : Prop where
  timeout : 0 < node.assemblyTimeout
  carries : ∀ a ∈ assembly, (Decoder.carries node.decoder.nodeId a.frame).isSome = true
  values : ∀ pdo a, latest node.decoder.nodeId assembly pdo = some a →
    node.decoder.sample.values pdo = decoded a.frame.data pdo
  window : ∀ a ∈ assembly, a.time - node.assemblyStartedTime ≤ node.assemblyTimeout
  first : ∀ rest a, assembly = rest ++ [a] → a.time = node.assemblyStartedTime

/-- The node between two frames. -/
structure Assembling (node : LpmsNode) (assembly : List Arrival) : Prop
    extends Gathered node assembly where
  begun : node.hasPartialAssembly = !assembly.isEmpty
  mask : node.decoder.pendingMask = maskOf (seen node.decoder.nodeId assembly)
  missing : ∃ pdo, seen node.decoder.nodeId assembly pdo = false

namespace Assembling

variable {node node' : LpmsNode} {assembly : List Arrival}

theorem congr (h : Assembling node assembly) (hcore : node'.core = node.core) :
    Assembling node' assembly := by
  simp only [LpmsNode.core, Prod.mk.injEq] at hcore
  obtain ⟨hdecoder, hpending, hstarted, htimeout, -⟩ := hcore
  obtain ⟨⟨timeout, carries, values, window, first⟩, begun, mask, missing⟩ := h
  rw [← htimeout] at timeout
  rw [← hpending] at begun
  rw [← hstarted] at first
  rw [← hstarted, ← htimeout] at window
  rw [← hdecoder] at carries mask values missing
  exact ⟨⟨timeout, carries, values, window, first⟩, begun, mask, missing⟩

theorem empty (htimeout : 0 < node.assemblyTimeout) (hpending : node.hasPartialAssembly = false)
    (hmask : node.decoder.pendingMask = 0) : Assembling node [] :=
  ⟨⟨htimeout, fun _ h => absurd h List.not_mem_nil, fun _ _ h => absurd h.symm (Option.some_ne_none _),
    fun _ h => absurd h List.not_mem_nil, fun _ _ h => by simp at h⟩, hpending,
    hmask.trans maskOf_none.symm, .pdo1, rfl⟩

theorem dropStale (h : Assembling node assembly) (a : Arrival) :
    Assembling (node.dropStale a.frame a.time)
      (if node.stale a.frame a.time then [] else assembly) := by
  unfold LpmsNode.dropStale
  by_cases hstale : node.stale a.frame a.time = true
  · rw [if_pos hstale, if_pos hstale]
    exact empty h.timeout rfl rfl
  · rw [if_neg hstale, if_neg hstale]
    exact h

theorem startedTime (h : Assembling node assembly) (receiveTime : ℤ) :
    (assembly = [] → node.startedTime receiveTime = receiveTime) ∧
      (assembly ≠ [] → node.startedTime receiveTime = node.assemblyStartedTime) := by
  unfold LpmsNode.startedTime
  rw [h.begun]
  constructor
  · rintro rfl
    exact if_neg (by simp)
  · intro hne
    exact if_pos (by simpa using hne)

variable {a : Arrival} {pdo : Pdo}

theorem joined (h : Assembling node assembly)
    (hpdo : Decoder.carries node.decoder.nodeId a.frame = some pdo)
    (hyoung : assembly ≠ [] → a.time - node.assemblyStartedTime ≤ node.assemblyTimeout)
    {mask : UInt8} {begun : Bool}
    (hcore : node'.core = ({ node.decoder with
        pendingMask := mask
        sample := node.decoder.sample.write a.frame.data pdo },
      begun, node.startedTime a.time, node.assemblyTimeout, node.convertToRos)) :
    Gathered node' (a :: assembly) := by
  simp only [LpmsNode.core, Prod.mk.injEq] at hcore
  obtain ⟨hdecoder, -, hstarted, htimeout, -⟩ := hcore
  have hnode : node'.decoder.nodeId = node.decoder.nodeId := by rw [hdecoder]
  obtain ⟨hbegins, hkeeps⟩ := h.startedTime a.time
  refine ⟨htimeout ▸ h.timeout, ?_, ?_, ?_, ?_⟩
  · rw [hnode, List.forall_mem_cons]
    exact ⟨by rw [hpdo]; rfl, h.carries⟩
  · intro kind b hb
    rw [hnode, latest_cons hpdo] at hb
    rw [hdecoder]
    dsimp only
    by_cases hkind : kind = pdo
    · rw [if_pos hkind] at hb
      cases hb
      rw [hkind, values_write_self]
    · rw [if_neg hkind] at hb
      rw [values_write_of_ne _ _ hkind, h.values kind b hb]
  · rw [List.forall_mem_cons, hstarted, htimeout]
    by_cases hempty : assembly = []
    · rw [hbegins hempty, sub_self, hempty]
      exact ⟨h.timeout.le, fun _ hmem => absurd hmem List.not_mem_nil⟩
    · rw [hkeeps hempty]
      exact ⟨hyoung hempty, h.window⟩
  · intro rest b hcons
    rw [hstarted]
    rcases rest with - | ⟨c, rest⟩
    · rw [List.nil_append, List.cons.injEq] at hcons
      rw [hbegins hcons.2, hcons.1]
    · rw [List.cons_append, List.cons.injEq] at hcons
      have hempty : assembly ≠ [] := by simp [hcons.2]
      rw [hkeeps hempty]
      exact h.first rest b hcons.2

theorem pending (h : Assembling node assembly)
    (hpdo : Decoder.carries node.decoder.nodeId a.frame = some pdo)
    (hyoung : assembly ≠ [] → a.time - node.assemblyStartedTime ≤ node.assemblyTimeout)
    (hall : node.decoder.pendingMask ||| pdo.bit ≠ kAllPdosReceived)
    (hcore : node'.core = ({ node.decoder with
        pendingMask := node.decoder.pendingMask ||| pdo.bit
        sample := node.decoder.sample.write a.frame.data pdo },
      true, node.startedTime a.time, node.assemblyTimeout, node.convertToRos)) :
    Assembling node' (a :: assembly) := by
  refine ⟨h.joined hpdo hyoung hcore, ?_, ?_, ?_⟩ <;>
    simp only [LpmsNode.core, Prod.mk.injEq] at hcore
  · exact hcore.2.1
  · rw [hcore.1, seen_cons _ hpdo, ← maskOf_or, h.mask]
  · by_contra hseen
    refine hall ?_
    rw [h.mask, maskOf_or, ← seen_cons _ hpdo, maskOf_eq_all]
    intro kind
    rw [hcore.1] at hseen
    exact Bool.not_eq_false _ ▸ fun hfalse => hseen ⟨kind, hfalse⟩

end Assembling

end RobotDriver.Imu
