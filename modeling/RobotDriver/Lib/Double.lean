import Mathlib.Algebra.Order.Floor.Ring
import RobotDriver.Lib.Numerals

/-!
# Doubles over an ordered field

A finite value, one of the two infinities or no number. Finite values are exact; a comparison with
`nan` fails, and the invalid differences are `nan`.
-/

inductive Double (K : Type*)
  | nan
  | negInf
  | finite (x : K)
  | posInf
  deriving DecidableEq, Repr

namespace Double

variable {K : Type*}

def isFinite : Double K → Bool
  | finite _ => true
  | _ => false

def isNan : Double K → Bool
  | nan => true
  | _ => false

def toFinite : Double K → Option K
  | finite x => some x
  | _ => none

theorem exists_of_isFinite {value : Double K} (h : value.isFinite = true) :
    ∃ x, value = finite x := by
  cases value with
  | finite x => exact ⟨x, rfl⟩
  | _ => simp [isFinite] at h

def Le [LE K] : Double K → Double K → Prop
  | nan, _ | _, nan => False
  | negInf, _ | _, posInf => True
  | _, negInf | posInf, _ => False
  | finite x, finite y => x ≤ y

instance [LE K] [DecidableLE K] : ∀ a b : Double K, Decidable (Le a b)
  | nan, b => .isFalse (by cases b <;> exact id)
  | negInf, nan | finite _, nan | posInf, nan => .isFalse id
  | negInf, negInf | negInf, finite _ | negInf, posInf => .isTrue trivial
  | finite _, posInf | posInf, posInf => .isTrue trivial
  | finite _, negInf | posInf, negInf | posInf, finite _ => .isFalse id
  | finite x, finite y => inferInstanceAs (Decidable (x ≤ y))

@[simp] theorem le_finite [LE K] (x y : K) : Le (finite x) (finite y) ↔ x ≤ y := Iff.rfl

def Lt [LE K] (a b : Double K) : Prop := Le a b ∧ ¬Le b a

instance [LE K] [DecidableLE K] (a b : Double K) : Decidable (Lt a b) :=
  inferInstanceAs (Decidable (_ ∧ _))

@[simp] theorem lt_finite [LinearOrder K] (x y : K) : Lt (finite x) (finite y) ↔ x < y :=
  (lt_iff_le_not_ge (a := x) (b := y)).symm

def abs [Lattice K] [AddGroup K] : Double K → Double K
  | nan => nan
  | finite x => finite |x|
  | _ => posInf

@[simp] theorem abs_finite [Lattice K] [AddGroup K] (x : K) : abs (finite x) = finite |x| := rfl

def sub [Sub K] : Double K → Double K → Double K
  | nan, _ | _, nan => nan
  | posInf, posInf | negInf, negInf => nan
  | posInf, _ | _, negInf => posInf
  | negInf, _ | _, posInf => negInf
  | finite x, finite y => finite (x - y)

@[simp] theorem sub_finite [Sub K] (x y : K) : sub (finite x) (finite y) = finite (x - y) := rfl

/-- The nearest integer, halves away from zero. -/
def llround [Field K] [LinearOrder K] [FloorRing K] (x : K) : ℤ :=
  if 0 ≤ x then ⌊x + 1 / 2⌋ else ⌈x - 1 / 2⌉

theorem abs_llround_sub_le [Field K] [LinearOrder K] [IsStrictOrderedRing K] [FloorRing K] (x : K) :
    |(llround x : K) - x| ≤ 1 / 2 := by
  unfold llround
  rw [abs_le]
  split_ifs
  · have hle := Int.floor_le (x + 1 / 2)
    have hlt := Int.lt_floor_add_one (x + 1 / 2)
    constructor <;> linarith
  · have hle := Int.le_ceil (x - 1 / 2)
    have hlt := Int.ceil_lt_add_one (x - 1 / 2)
    constructor <;> linarith

/-- The nearest integer, halves to the even one. -/
def rint [Field K] [LinearOrder K] [FloorRing K] (x : K) : ℤ :=
  if x - ⌊x⌋ < 1 / 2 ∨ (x - ⌊x⌋ = 1 / 2 ∧ ⌊x⌋ % 2 = 0) then ⌊x⌋ else ⌊x⌋ + 1

def remainder [Field K] [LinearOrder K] [FloorRing K] (x y : K) : K := x - rint (x / y) * y

end Double
