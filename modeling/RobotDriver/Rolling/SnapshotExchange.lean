import RobotDriver.Lib.LabelledRun
import RobotDriver.Rolling.LimitChecker

/-!
# The snapshot exchange

`RollingSnapshotExchange` with its two threads. The producer stores the members of its slot one
after the other and then exchanges the middle word; the consumer loads the middle word and
exchanges it when the dirty bit is set. The fields `completed` and `acquired` record the
publications and the acquired snapshots of a run in order.
-/

namespace RobotDriver.Rolling

open LabelledRun

variable {K : Type*}

structure RollingSnapshot (K : Type*) where
  sessionEpoch : ℕ := 0
  trajectory : TrajectoryImage K := {}
  arrivalTimeNs : ℕ := 0
  publicationSequence : ℕ := 0

namespace RollingSnapshot

/-- The copy loop of `copyTrajectoryImageEffective`. A store behind the old `point_count` shows
only when the new count is stored. -/
def storePoints (snapshot : RollingSnapshot K) : List (RollingSnapshot K → RollingSnapshot K) :=
  snapshot.trajectory.points.mapIdx fun index point slot =>
    { slot with trajectory.points := slot.trajectory.points.set index point }

/-- The stores of `publish` into its slot, in order. -/
def stores (snapshot : RollingSnapshot K) : List (RollingSnapshot K → RollingSnapshot K) :=
  [fun slot => { slot with sessionEpoch := snapshot.sessionEpoch }] ++ snapshot.storePoints ++
    [fun slot => { slot with trajectory.generation := snapshot.trajectory.generation },
      fun slot =>
        { slot with trajectory.earliestChangedNs := snapshot.trajectory.earliestChangedNs },
      fun slot => { slot with trajectory.final := snapshot.trajectory.final },
      fun slot => { slot with trajectory.points := snapshot.trajectory.points },
      fun slot => { slot with arrivalTimeNs := snapshot.arrivalTimeNs },
      fun slot => { slot with publicationSequence := snapshot.publicationSequence }]

/-- The slot after the first `count` stores. -/
def afterStores (snapshot : RollingSnapshot K) (count : ℕ) (slot : RollingSnapshot K) :
    RollingSnapshot K :=
  (snapshot.stores.take count).foldl (fun slot store => store slot) slot

theorem foldl_storePoints_sessionEpoch (snapshot slot : RollingSnapshot K) :
    (snapshot.storePoints.foldl (fun slot store => store slot) slot).sessionEpoch =
      slot.sessionEpoch := by
  unfold storePoints
  generalize snapshot.trajectory.points = points
  induction points using List.reverseRecOn with
  | nil => rfl
  | append_singleton points point ih =>
    rw [List.mapIdx_append, List.foldl_append]
    simpa using ih

theorem afterStores_all (snapshot slot : RollingSnapshot K) :
    snapshot.afterStores snapshot.stores.length slot = snapshot := by
  unfold afterStores stores
  rw [List.take_length, List.foldl_append, List.foldl_append]
  simp [foldl_storePoints_sessionEpoch]

end RollingSnapshot

def dirty : ℕ := 4

def indexMask : ℕ := 3

structure SnapshotExchange (K : Type*) where
  slots : ℕ → RollingSnapshot K := fun _ => {}
  middle : ℕ := 1
  writing : ℕ := 2
  reading : ℕ := 0
  publicationSequence : ℕ := 0

inductive PublishPc (K : Type*)
  | idle
  | storing (snapshot : RollingSnapshot K) (count : ℕ)

inductive AcquirePc
  | idle
  | exchange
  deriving DecidableEq, Repr

structure ExchangeRun (K : Type*) where
  exchange : SnapshotExchange K := {}
  publish : PublishPc K := .idle
  acquire : AcquirePc := .idle
  completed : List (RollingSnapshot K) := []
  acquired : List (RollingSnapshot K) := []

/-- A producer label carries the arguments that a call starting there receives. -/
inductive ExchangeLabel (K : Type*)
  | publish (sessionEpoch : ℕ) (trajectory : TrajectoryImage K) (arrivalTimeNs : ℕ)
  | acquire

namespace SnapshotExchange

variable (x : SnapshotExchange K)

def middleIndex : ℕ := x.middle &&& indexMask

def isDirty : Bool := x.middle &&& dirty ≠ 0

/-- One store into the slot of the producer; the last one also counts the publication. -/
def store (snapshot : RollingSnapshot K) (count : ℕ) : SnapshotExchange K :=
  { x with
    slots := Function.update x.slots x.writing
      ((snapshot.stores[count]?.getD id) (x.slots x.writing))
    publicationSequence :=
      if count + 1 = snapshot.stores.length then snapshot.publicationSequence
      else x.publicationSequence }

def exchangeWriting : SnapshotExchange K :=
  { x with writing := x.middleIndex, middle := x.writing ||| dirty }

def exchangeReading : SnapshotExchange K :=
  { x with reading := x.middleIndex, middle := x.reading }

end SnapshotExchange

namespace ExchangeRun

variable (s : ExchangeRun K)

def stepPublish (sessionEpoch : ℕ) (trajectory : TrajectoryImage K) (arrivalTimeNs : ℕ) :
    ExchangeRun K :=
  match s.publish with
  | .idle =>
    if s.exchange.publicationSequence = maxUint64 then s
    else { s with publish := .storing ⟨sessionEpoch, trajectory, arrivalTimeNs,
      s.exchange.publicationSequence + 1⟩ 0 }
  | .storing snapshot count =>
    if count < snapshot.stores.length then
      { s with exchange := s.exchange.store snapshot count, publish := .storing snapshot (count + 1) }
    else
      { s with
        exchange := s.exchange.exchangeWriting
        publish := .idle
        completed := s.completed ++ [snapshot] }

def stepAcquire : ExchangeRun K :=
  match s.acquire with
  | .idle => if s.exchange.isDirty then { s with acquire := .exchange } else s
  | .exchange =>
    { s with
      exchange := s.exchange.exchangeReading
      acquire := .idle
      acquired := s.acquired ++ [s.exchange.slots s.exchange.middleIndex] }

def step (s : ExchangeRun K) : ExchangeLabel K → ExchangeRun K
  | .publish sessionEpoch trajectory arrivalTimeNs =>
    s.stepPublish sessionEpoch trajectory arrivalTimeNs
  | .acquire => s.stepAcquire

end ExchangeRun

end RobotDriver.Rolling
