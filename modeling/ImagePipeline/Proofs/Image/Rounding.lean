import ImagePipeline.Image.Arithmetic
import Mathlib.Data.Int.Log
import Mathlib.Data.Rat.Floor
import Mathlib.Tactic.FieldSimp
import Mathlib.Tactic.Linarith
import Mathlib.Tactic.NormNum
import Mathlib.Tactic.Ring
/-!
# Rationals with rounded operations

`Arithmetic.rounded` reckons with rationals and rounds the result of every operation. All that is asked
of a `Rounding` is that it is monotone and that its relative error is at most `2 ^ -53`. Leaving every
number as it is is one (`Rounding.exact`), and keeping 53 binary digits, as doubles do within their
range, is another (`Rounding.significant`).
-/

namespace ImagePipeline

/-! ## The nearest integer -/

def nearestEven (x : ℚ) : ℤ :=
  if 2 * Int.fract x < 1 then ⌊x⌋
  else if 1 < 2 * Int.fract x then ⌊x⌋ + 1
  else if ⌊x⌋ % 2 = 0 then ⌊x⌋ else ⌊x⌋ + 1

variable {x y : ℚ} {n : ℤ}

theorem abs_nearestEven_sub_le (x : ℚ) : |(nearestEven x : ℚ) - x| ≤ 1 / 2 := by
  have below := Int.fract_nonneg x
  have above := Int.fract_lt_one x
  have split_ := Int.floor_add_fract x
  unfold nearestEven
  rw [abs_le]
  split
  · constructor <;> linarith
  · split
    · push_cast
      constructor <;> linarith
    · split
      · constructor <;> linarith
      · push_cast
        constructor <;> linarith

theorem nearestEven_bounds (x : ℚ) :
    x - 1 / 2 ≤ nearestEven x ∧ (nearestEven x : ℚ) ≤ x + 1 / 2 := by
  obtain ⟨below, above⟩ := abs_le.mp (abs_nearestEven_sub_le x)
  constructor <;> linarith

theorem nearestEven_le (small : x < n + 1 / 2) : nearestEven x ≤ n := by
  have bound := (nearestEven_bounds x).2
  have close : (nearestEven x : ℚ) < n + 1 := by linarith
  exact Int.lt_add_one_iff.mp (by exact_mod_cast close)

theorem le_nearestEven (large : (n : ℚ) - 1 / 2 < x) : n ≤ nearestEven x := by
  have bound := (nearestEven_bounds x).1
  have close : (n : ℚ) < nearestEven x + 1 := by linarith
  exact Int.lt_add_one_iff.mp (by exact_mod_cast close)

theorem nearestEven_mono (le : x ≤ y) : nearestEven x ≤ nearestEven y := by
  rcases le.eq_or_lt with rfl | less
  · exact le_refl _
  · have low := (nearestEven_bounds x).2
    have high := (nearestEven_bounds y).1
    have close : (nearestEven x : ℚ) < nearestEven y + 1 := by linarith
    exact Int.lt_add_one_iff.mp (by exact_mod_cast close)

theorem nearestEven_intCast (n : ℤ) : nearestEven n = n := by
  simp [nearestEven]

theorem nearestEven_neg (x : ℚ) : nearestEven (-x) = -nearestEven x := by
  by_cases whole : Int.fract x = 0
  · obtain ⟨n, rfl⟩ := Int.fract_eq_zero_iff.mp whole
    rw [← Int.cast_neg, nearestEven_intCast, nearestEven_intCast]
  · have rest := Int.fract_neg whole
    have low : ⌊-x⌋ = -⌊x⌋ - 1 := by
      have here := Int.floor_add_fract x
      have there := Int.floor_add_fract (-x)
      rw [rest] at there
      have cast : (⌊-x⌋ : ℚ) = -⌊x⌋ - 1 := by linarith
      exact_mod_cast cast
    unfold nearestEven
    rw [rest, low]
    split_ifs <;> first | omega | (exfalso; linarith)

/-! ## Roundings -/

/-- A way to round rationals that keeps their order and changes none by more than one part in
`2 ^ 53`. -/
structure Rounding where
  round : ℚ → ℚ
  monotone : Monotone round
  close : ∀ x, |round x - x| ≤ |x| / 2 ^ 53

namespace Rounding

theorem bounds (rounding : Rounding) (nonneg : 0 ≤ x) :
    (1 - 1 / 2 ^ 53) * x ≤ rounding.round x ∧ rounding.round x ≤ (1 + 1 / 2 ^ 53) * x := by
  have close := rounding.close x
  rw [abs_of_nonneg nonneg] at close
  obtain ⟨below, above⟩ := abs_le.mp close
  constructor <;> linarith

theorem round_pos (rounding : Rounding) (pos : 0 < x) : 0 < rounding.round x := by
  have low := (rounding.bounds pos.le).1
  have scaled : 0 < (1 - 1 / 2 ^ 53) * x := mul_pos (by norm_num) pos
  exact scaled.trans_le low

def exact : Rounding where
  round := id
  monotone := monotone_id
  close x := by
    rw [id_eq, sub_self, abs_zero]
    positivity

def digit (x : ℚ) : ℚ := 2 ^ (Int.log 2 |x| - 52)

theorem digit_pos (x : ℚ) : 0 < digit x := zpow_pos (by norm_num) _

theorem digit_neg (x : ℚ) : digit (-x) = digit x := by
  rw [digit, abs_neg, digit]

def toSignificant (x : ℚ) : ℚ := nearestEven (x / digit x) * digit x

theorem toSignificant_neg (x : ℚ) : toSignificant (-x) = -toSignificant x := by
  rw [toSignificant, digit_neg, neg_div, nearestEven_neg, toSignificant]
  push_cast
  ring

theorem digit_eq (x : ℚ) : 2 ^ 52 * digit x = 2 ^ Int.log 2 |x| := by
  rw [digit, zpow_sub₀ (by norm_num)]
  norm_num
  ring

theorem digit_le (pos : 0 < x) : 2 ^ 52 * digit x ≤ x := by
  have low := Int.zpow_log_le_self (R := ℚ) (b := 2) (by norm_num) (abs_pos.mpr pos.ne')
  rw [digit_eq]
  rw [abs_of_pos pos] at low ⊢
  exact_mod_cast low

theorem lt_digit (pos : 0 < x) : x < 2 ^ 53 * digit x := by
  have high := Int.lt_zpow_succ_log_self (R := ℚ) (b := 2) (by norm_num) x
  have double : (2 : ℚ) ^ 53 * digit x = 2 ^ (Int.log 2 x + 1) := by
    have first := digit_eq x
    rw [abs_of_pos pos] at first
    rw [zpow_add_one₀ (by norm_num), ← first]
    ring
  rw [double]
  exact_mod_cast high

theorem abs_toSignificant_sub_le (x : ℚ) : |toSignificant x - x| ≤ |x| / 2 ^ 53 := by
  have pos := digit_pos x
  rcases eq_or_ne x 0 with rfl | nonzero
  · simp [toSignificant, nearestEven]
  · have same : toSignificant x - x = (nearestEven (x / digit x) - x / digit x) * digit x := by
      rw [toSignificant]
      field_simp
    have near := abs_nearestEven_sub_le (x / digit x)
    have small : 2 ^ 52 * digit x ≤ |x| := by
      have low := digit_le (abs_pos.mpr nonzero)
      rwa [digit, abs_abs, ← digit] at low
    rw [same, abs_mul, abs_of_pos pos]
    have scaled := mul_le_mul_of_nonneg_right near pos.le
    linarith

theorem toSignificant_mono_of_pos (pos : 0 < x) (le : x ≤ y) : toSignificant x ≤ toSignificant y := by
  have pos' : 0 < y := pos.trans_le le
  have logs : Int.log 2 |x| ≤ Int.log 2 |y| := by
    rw [abs_of_pos pos, abs_of_pos pos']
    exact Int.log_mono_right pos le
  rcases logs.eq_or_lt with same | less
  · have unit : digit y = digit x := by rw [digit, digit, same]
    have scaled : x / digit x ≤ y / digit x := div_le_div_of_nonneg_right le (digit_pos x).le
    rw [toSignificant, toSignificant, unit]
    exact mul_le_mul_of_nonneg_right (by exact_mod_cast nearestEven_mono scaled) (digit_pos x).le
  · -- a power of two lies between the two
    have upper : toSignificant x ≤ 2 ^ 53 * digit x := by
      have small : x / digit x < ((2 ^ 53 : ℤ) : ℚ) + 1 / 2 := by
        have inside := (div_lt_iff₀ (digit_pos x)).mpr (lt_digit pos)
        push_cast
        linarith
      exact mul_le_mul_of_nonneg_right (by exact_mod_cast nearestEven_le small) (digit_pos x).le
    have lower : 2 ^ 52 * digit y ≤ toSignificant y := by
      have large : ((2 ^ 52 : ℤ) : ℚ) - 1 / 2 < y / digit y := by
        have inside := (le_div_iff₀ (digit_pos y)).mpr (digit_le pos')
        push_cast
        linarith
      exact mul_le_mul_of_nonneg_right (by exact_mod_cast le_nearestEven large) (digit_pos y).le
    have between : (2 : ℚ) ^ 53 * digit x ≤ 2 ^ 52 * digit y := by
      have power : (2 : ℚ) ^ (Int.log 2 |x| + 1) ≤ 2 ^ Int.log 2 |y| :=
        zpow_le_zpow_right₀ (by norm_num) less
      rw [zpow_add_one₀ (by norm_num), ← digit_eq, ← digit_eq] at power
      linarith
    exact upper.trans (between.trans lower)

theorem toSignificant_nonneg (nonneg : 0 ≤ x) : 0 ≤ toSignificant x := by
  have scaled : 0 ≤ x / digit x := div_nonneg nonneg (digit_pos x).le
  have whole : (0 : ℤ) ≤ nearestEven (x / digit x) := by
    have mono := nearestEven_mono scaled
    rwa [← Int.cast_zero, nearestEven_intCast] at mono
  exact mul_nonneg (by exact_mod_cast whole) (digit_pos x).le

theorem toSignificant_mono : Monotone toSignificant := by
  intro x y le
  rcases lt_trichotomy x 0 with neg | rfl | pos
  · rcases lt_or_ge y 0 with neg' | nonneg
    · have mirrored := toSignificant_mono_of_pos (neg_pos.mpr neg') (neg_le_neg le)
      rw [toSignificant_neg, toSignificant_neg] at mirrored
      exact neg_le_neg_iff.mp mirrored
    · have mirrored := toSignificant_nonneg (neg_nonneg.mpr neg.le)
      rw [toSignificant_neg] at mirrored
      exact (neg_nonneg.mp mirrored).trans (toSignificant_nonneg nonneg)
  · have zero : toSignificant 0 = 0 := by simp [toSignificant, nearestEven]
    rw [zero]
    exact toSignificant_nonneg le
  · exact toSignificant_mono_of_pos pos le

def significant : Rounding where
  round := toSignificant
  monotone := toSignificant_mono
  close := abs_toSignificant_sub_le

end Rounding

namespace Arithmetic

/-- Rationals, with the result of every operation rounded; the diagonal is left open. -/
def rounded (rounding : Rounding) (hypot : ℚ → ℚ → ℚ) : Arithmetic ℚ where
  ofInt n := n
  add a b := rounding.round (a + b)
  mul a b := rounding.round (a * b)
  div a b := rounding.round (a / b)
  lt a b := decide (a < b)
  hypot := hypot
  round := nearestEven
  truncate x := if x < 0 then ⌈x⌉ else ⌊x⌋

end Arithmetic

end ImagePipeline
