import Mathlib.Algebra.GroupWithZero.Nat
import Mathlib.Data.Nat.Init

/-!
# Numerals

Names for the side conditions of numerals in ordered fields and of literals in `Fin`.
-/

namespace RobotDriver.Numeral

instance atLeastTwo_two : Nat.AtLeastTwo 2 := inferInstance

instance atLeastTwo_three : Nat.AtLeastTwo 3 := inferInstance

instance atLeastTwo_four : Nat.AtLeastTwo 4 := inferInstance

instance atLeastTwo_five : Nat.AtLeastTwo 5 := inferInstance

instance atLeastTwo_six : Nat.AtLeastTwo 6 := inferInstance

instance atLeastTwo_seven : Nat.AtLeastTwo 7 := inferInstance

instance atLeastTwo_eight : Nat.AtLeastTwo 8 := inferInstance

instance atLeastTwo_ten : Nat.AtLeastTwo 10 := inferInstance

instance atLeastTwo_twelve : Nat.AtLeastTwo 12 := inferInstance

instance atLeastTwo_hundred : Nat.AtLeastTwo 100 := inferInstance

instance atLeastTwo_fiveHundred : Nat.AtLeastTwo 500 := inferInstance

instance atLeastTwo_thousand : Nat.AtLeastTwo 1000 := inferInstance

instance atLeastTwo_twoThousand : Nat.AtLeastTwo 2000 := inferInstance

instance atLeastTwo_sixteenBits : Nat.AtLeastTwo 65535 := inferInstance

instance atLeastTwo_doublePrecision : Nat.AtLeastTwo 9007199254740991 := inferInstance

instance neZero_one : NeZero 1 := inferInstance

instance neZero_two : NeZero 2 := inferInstance

instance neZero_three : NeZero 3 := inferInstance

instance neZero_four : NeZero 4 := inferInstance

instance neZero_eight : NeZero 8 := inferInstance

instance neZero_byte : NeZero 256 := inferInstance

theorem one_le_sevenBits : 1 ≤ 127 := by decide

end RobotDriver.Numeral
