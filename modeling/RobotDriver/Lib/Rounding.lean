import Mathlib.Algebra.Order.Field.Power
import Mathlib.Data.Int.Log
import Mathlib.Data.Rat.Floor
import RobotDriver.Lib.Double

/-!
# Rounding to a binary format

A number becomes the nearest multiple of the last place, halfway cases the even one. A format has a
number of digits, a least exponent and a limit that no finite value reaches; what is rounded to the
limit overflows, and that is everything from half a last place below it.
-/

namespace Double

def roundHalfEven (r : ℚ) : ℤ :=
  if r - ⌊r⌋ < 1 / 2 ∨ r - ⌊r⌋ = 1 / 2 ∧ Even ⌊r⌋ then ⌊r⌋ else ⌊r⌋ + 1

section Rounded

variable {r : ℚ} {k : ℤ}

theorem roundHalfEven_lt (h : r < k - 1 / 2) : roundHalfEven r < k := by
  have hfloor := Int.floor_le r
  unfold roundHalfEven
  split_ifs with hdown
  · have hlt : (⌊r⌋ : ℚ) < k := by linarith
    exact_mod_cast hlt
  · have hup : 1 / 2 ≤ r - ⌊r⌋ := not_lt.1 (not_or.1 hdown).1
    have hlt : ((⌊r⌋ + 1 : ℤ) : ℚ) < k := by
      push_cast
      linarith
    exact_mod_cast hlt

theorem roundHalfEven_le (h : r < k) : roundHalfEven r ≤ k := by
  have hfloor : ⌊r⌋ < k := Int.floor_lt.2 h
  unfold roundHalfEven
  split_ifs <;> omega

theorem le_roundHalfEven (h : k ≤ r) : k ≤ roundHalfEven r := by
  have hfloor : k ≤ ⌊r⌋ := Int.le_floor.2 h
  unfold roundHalfEven
  split_ifs <;> omega

theorem le_roundHalfEven_of_even (heven : Even k) (h : k - 1 / 2 ≤ r) : k ≤ roundHalfEven r := by
  rcases le_or_gt (k : ℚ) r with hle | hlt
  · exact le_roundHalfEven hle
  · have hfloor : ⌊r⌋ = k - 1 := by
      rw [Int.floor_eq_iff]
      push_cast
      constructor <;> linarith
    have hodd : ¬Even (k - 1) := by
      rw [Int.even_sub_one, not_not]
      exact heven
    unfold roundHalfEven
    rw [hfloor, if_neg]
    · omega
    · push_cast
      rintro (hdown | ⟨-, hboth⟩)
      · linarith
      · exact hodd hboth

end Rounded

section Format

variable (digits : ℕ) (low high : ℤ)

/-- The exponent of the last place of `q`. -/
def lastPlace (q : ℚ) : ℤ := max (Int.log 2 q + 1 - digits) low

def roundMagnitude (q : ℚ) : ℚ :=
  roundHalfEven (q / 2 ^ lastPlace digits low q) * 2 ^ lastPlace digits low q

def ofMagnitude (q : ℚ) : Double ℚ :=
  if roundMagnitude digits low q < 2 ^ high then .finite (roundMagnitude digits low q) else .posInf

def ofRat (q : ℚ) : Double ℚ :=
  if q < 0 then sub (.finite 0) (ofMagnitude digits low high (-q))
  else ofMagnitude digits low high q

variable {digits low high}

theorem roundMagnitude_zero : roundMagnitude digits low 0 = 0 := by
  simp [roundMagnitude, roundHalfEven]

theorem two_zpow_eq (e : ℤ) : (2 : ℚ) ^ (e + digits) = ((2 ^ digits : ℤ) : ℚ) * 2 ^ e := by
  rw [zpow_add₀ two_ne_zero, zpow_natCast, mul_comm]
  push_cast
  rfl

section Magnitude

variable {q : ℚ}

theorem roundMagnitude_lt_of_log (hlow : low + digits < high) (hlog : Int.log 2 q + 1 < high) :
    roundMagnitude digits low q < 2 ^ high := by
  have hplace : (0 : ℚ) < 2 ^ lastPlace digits low q := by positivity
  have hceil : q < 2 ^ (lastPlace digits low q + digits) := by
    have hbelow : q < 2 ^ (Int.log 2 q + 1) := by
      exact_mod_cast Int.lt_zpow_succ_log_self one_lt_two q
    refine hbelow.trans_le (zpow_le_zpow_right₀ one_le_two ?_)
    unfold lastPlace
    omega
  have hround : roundHalfEven (q / 2 ^ lastPlace digits low q) ≤ 2 ^ digits := by
    refine roundHalfEven_le ?_
    rwa [div_lt_iff₀ hplace, ← two_zpow_eq]
  have hscaled : roundMagnitude digits low q ≤ 2 ^ (lastPlace digits low q + digits) := by
    rw [two_zpow_eq]
    exact mul_le_mul_of_nonneg_right (by exact_mod_cast hround) hplace.le
  refine hscaled.trans_lt (zpow_lt_zpow_right₀ one_lt_two ?_)
  unfold lastPlace
  omega

theorem le_roundMagnitude_of_log (hq : 0 < q) (hdigits : 0 < digits) (hlow : low + digits < high)
    (hlog : high ≤ Int.log 2 q) : 2 ^ high ≤ roundMagnitude digits low q := by
  have hplace : (0 : ℚ) < 2 ^ lastPlace digits low q := by positivity
  have hlast : lastPlace digits low q + (digits - 1 : ℕ) = Int.log 2 q := by
    unfold lastPlace
    omega
  have hfloor : 2 ^ (lastPlace digits low q + (digits - 1 : ℕ)) ≤ q := by
    rw [hlast]
    exact_mod_cast Int.zpow_log_le_self one_lt_two hq
  have hround : 2 ^ (digits - 1) ≤ roundHalfEven (q / 2 ^ lastPlace digits low q) := by
    refine le_roundHalfEven ?_
    rwa [le_div_iff₀ hplace, ← two_zpow_eq]
  have hscaled : 2 ^ (lastPlace digits low q + (digits - 1 : ℕ)) ≤ roundMagnitude digits low q := by
    rw [two_zpow_eq]
    exact mul_le_mul_of_nonneg_right (by exact_mod_cast hround) hplace.le
  refine le_trans (zpow_le_zpow_right₀ one_le_two ?_) hscaled
  rw [hlast]
  exact hlog

theorem roundMagnitude_lt_iff_of_log (hdigits : 0 < digits) (hlow : low + digits < high)
    (hlog : Int.log 2 q + 1 = high) :
    roundMagnitude digits low q < 2 ^ high ↔ q < 2 ^ high - 2 ^ (high - digits - 1) := by
  have hlast : high = lastPlace digits low q + digits := by
    unfold lastPlace
    omega
  have hplace : (0 : ℚ) < 2 ^ lastPlace digits low q := by positivity
  have hhalf : (2 : ℚ) ^ high - 2 ^ (high - digits - 1) =
      (((2 ^ digits : ℤ) : ℚ) - 1 / 2) * 2 ^ lastPlace digits low q := by
    have hplace' : high - digits - 1 = lastPlace digits low q - 1 := by omega
    rw [hplace', zpow_sub_one₀ two_ne_zero, sub_mul, ← two_zpow_eq, ← hlast]
    ring
  have heven : Even ((2 : ℤ) ^ digits) := (even_two).pow_of_ne_zero hdigits.ne'
  rw [hhalf, ← div_lt_iff₀ hplace]
  have hscaled : roundMagnitude digits low q < 2 ^ high ↔
      roundHalfEven (q / 2 ^ lastPlace digits low q) < 2 ^ digits := by
    rw [hlast, two_zpow_eq, roundMagnitude, mul_lt_mul_iff_left₀ hplace]
    exact Int.cast_lt
  rw [hscaled]
  constructor
  · intro hlt
    by_contra hle
    exact absurd (le_roundHalfEven_of_even heven (not_lt.1 hle)) (not_le.2 hlt)
  · exact roundHalfEven_lt

end Magnitude

theorem roundMagnitude_lt_iff {q : ℚ} (hq : 0 ≤ q) (hdigits : 0 < digits)
    (hlow : low + digits < high) :
    roundMagnitude digits low q < 2 ^ high ↔ q < 2 ^ high - 2 ^ (high - digits - 1) := by
  have hhalf : (2 : ℚ) ^ (high - digits - 1) < 2 ^ (high - 1) :=
    zpow_lt_zpow_right₀ one_lt_two (by omega)
  have htwice : (2 : ℚ) ^ high = 2 * 2 ^ (high - 1) := by
    rw [zpow_sub_one₀ two_ne_zero]
    ring
  rcases hq.eq_or_lt with rfl | hpos
  · rw [roundMagnitude_zero]
    exact iff_of_true (by positivity) (by linarith [zpow_pos (zero_lt_two' ℚ) (high - 1)])
  rcases lt_trichotomy (Int.log 2 q + 1) high with hlog | hlog | hlog
  · refine iff_of_true (roundMagnitude_lt_of_log hlow hlog) ?_
    have hbelow : q < 2 ^ (Int.log 2 q + 1) := by
      exact_mod_cast Int.lt_zpow_succ_log_self one_lt_two q
    have hle : (2 : ℚ) ^ (Int.log 2 q + 1) ≤ 2 ^ (high - 1) :=
      zpow_le_zpow_right₀ one_le_two (by omega)
    linarith
  · exact roundMagnitude_lt_iff_of_log hdigits hlow hlog
  · have hlog' : high ≤ Int.log 2 q := by omega
    refine iff_of_false (not_lt.2 (le_roundMagnitude_of_log hpos hdigits hlow hlog')) ?_
    have hle : (2 : ℚ) ^ high ≤ 2 ^ Int.log 2 q := zpow_le_zpow_right₀ one_le_two hlog'
    have habove : (2 : ℚ) ^ Int.log 2 q ≤ q := by
      exact_mod_cast Int.zpow_log_le_self one_lt_two hpos
    have hsmall : (0 : ℚ) < 2 ^ (high - digits - 1) := by positivity
    linarith

theorem isFinite_ofRat_iff (q : ℚ) (hdigits : 0 < digits) (hlow : low + digits < high) :
    (ofRat digits low high q).isFinite = true ↔ |q| < 2 ^ high - 2 ^ (high - digits - 1) := by
  have hmagnitude : ∀ q : ℚ, 0 ≤ q → ((ofMagnitude digits low high q).isFinite = true ↔
      q < 2 ^ high - 2 ^ (high - digits - 1)) := by
    intro q hq
    rw [← roundMagnitude_lt_iff hq hdigits hlow, ofMagnitude]
    split_ifs with hlt
    · exact iff_of_true rfl hlt
    · exact iff_of_false Bool.false_ne_true hlt
  unfold ofRat
  split_ifs with hneg
  · rw [abs_of_neg hneg, ← hmagnitude (-q) (neg_pos.2 hneg).le]
    cases ofMagnitude digits low high (-q) <;> exact Iff.rfl
  · rw [abs_of_nonneg (not_lt.1 hneg), hmagnitude q (not_lt.1 hneg)]

end Format

/-- The double nearest to a number. -/
def binary64 (q : ℚ) : Double ℚ := ofRat 53 (-1074) 1024 q

/-- The number of single precision nearest to a number. -/
def binary32 (q : ℚ) : Double ℚ := ofRat 24 (-149) 128 q

theorem isFinite_binary64_iff (q : ℚ) :
    (binary64 q).isFinite = true ↔ |q| < 2 ^ 1024 - 2 ^ 970 :=
  isFinite_ofRat_iff q (by decide) (by decide)

end Double
