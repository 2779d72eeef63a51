import Mathlib.Data.Fintype.Sum
import Mathlib.Tactic.DeriveFintype
import RobotDriver.Lib.LabelledRun

/-!
# The shared-memory ring

One writer marks its slot busy, stores the words of the cycle, stores the cycle number and then the
head. A reader loads the head, picks a published cycle, loads the number of its slot, copies the
words and loads the number again. Every store and every load is one step; `payload` and `committed`
record what the writer has stored.
-/

namespace RobotDriver.ShmRing

open LabelledRun

/-- Cycle numbers are unsigned and have 64 bits. -/
def numberBound : ℕ := 2 ^ 64

def busy : ℕ := numberBound - 1

inductive Word (fields : ℕ)
  | timeNs
  | periodNs
  | value (index : Fin fields)
  deriving DecidableEq, Fintype

abbrev Payload (W : Type*) (fields : ℕ) := Word fields → W

inductive WriterPc
  | idle
  | filling
  | timeStored
  | periodStored
  | seqStored
  deriving DecidableEq, Repr

inductive ReaderPc (W : Type*) (fields : ℕ)
  | idle
  | headLoaded (head : ℕ)
  | copying (expected first : ℕ) (copied : Word fields → Option W)

structure RingState (W : Type*) (fields : ℕ) where
  head : ℕ
  seq : ℕ → ℕ
  slots : ℕ → Payload W fields
  next : ℕ
  writer : WriterPc
  payload : Payload W fields
  committed : List (Payload W fields)
  reader : ReaderPc W fields
  accepted : List (ℕ × Payload W fields)

inductive Event (W : Type*) (fields : ℕ)
  | beginCycle
  | setField (index : Fin fields) (value : W)
  | storeTime (value : W)
  | storePeriod (value : W)
  | storeSeq
  | storeHead
  | loadHead
  | loadSeq (expected : ℕ)
  | copyWord (word : Word fields)
  | reloadSeq

namespace RingState

variable {W : Type*} {fields : ℕ}

/-- The zeroed segment after `create`. -/
def created (zero : W) : RingState W fields where
  head := 0
  seq _ := 0
  slots _ _ := zero
  next := 1
  writer := .idle
  payload _ := zero
  committed := []
  reader := .idle
  accepted := []

variable (slotCount : ℕ) (s : RingState W fields)

def current : ℕ := s.next % slotCount

def storeWord (word : Word fields) (value : W) : RingState W fields :=
  { s with
    slots := Function.update s.slots (s.current slotCount)
      (Function.update (s.slots (s.current slotCount)) word value)
    payload := Function.update s.payload word value }

def beginCycle : RingState W fields :=
  { s with
    seq := Function.update s.seq (s.current slotCount) busy
    payload := s.slots (s.current slotCount)
    writer := .filling }

def storeSeq : RingState W fields :=
  { s with
    seq := Function.update s.seq (s.current slotCount) s.next
    committed := s.committed ++ [s.payload]
    writer := .seqStored }

def storeHead : RingState W fields :=
  { s with head := s.next, next := (s.next + 1) % numberBound, writer := .idle }

/-- The copy is accepted when both loads have seen the expected number. -/
def finishRead (expected first : ℕ) (copied : Word fields → Option W) : RingState W fields :=
  { s with
    reader := .idle
    accepted :=
      if h : (∀ word, (copied word).isSome = true) ∧ first = expected ∧
          s.seq (expected % slotCount) = expected then
        s.accepted ++ [(expected, fun word => (copied word).get (h.1 word))]
      else s.accepted }

def stepWriter : Event W fields → RingState W fields
  | .beginCycle => if s.writer = .idle then s.beginCycle slotCount else s
  | .setField index value =>
    if s.writer = .filling then s.storeWord slotCount (.value index) value else s
  | .storeTime value =>
    if s.writer = .filling then
      { s.storeWord slotCount .timeNs value with writer := .timeStored }
    else s
  | .storePeriod value =>
    if s.writer = .timeStored then
      { s.storeWord slotCount .periodNs value with writer := .periodStored }
    else s
  | .storeSeq => if s.writer = .periodStored then s.storeSeq slotCount else s
  | .storeHead => if s.writer = .seqStored then s.storeHead else s
  | _ => s

def stepReader : Event W fields → RingState W fields
  | .loadHead => { s with reader := .headLoaded s.head }
  | .loadSeq expected =>
    match s.reader with
    | .headLoaded head =>
      if 0 < expected ∧ expected ≤ head then
        { s with reader := .copying expected (s.seq (expected % slotCount)) fun _ => none }
      else s
    | _ => s
  | .copyWord word =>
    match s.reader with
    | .copying expected first copied =>
      { s with
        reader := .copying expected first
          (Function.update copied word (some (s.slots (expected % slotCount) word))) }
    | _ => s
  | .reloadSeq =>
    match s.reader with
    | .copying expected first copied => s.finishRead slotCount expected first copied
    | _ => s
  | _ => s

def step (event : Event W fields) : RingState W fields :=
  (s.stepWriter slotCount event).stepReader slotCount event

end RingState

end RobotDriver.ShmRing
