import ImagePipeline.Image.Watermark
import Mathlib.Analysis.Complex.Norm
import Mathlib.Tactic.FieldSimp
import Mathlib.Tactic.Linarith
import Mathlib.Tactic.Positivity
import Mathlib.Tactic.Ring

namespace ImagePipeline

namespace Arithmetic

noncomputable def real (round : ℝ → ℤ) : Arithmetic ℝ where
  ofInt n := n
  add a b := a + b
  mul a b := a * b
  div a b := a / b
  lt a b := decide (a < b)
  hypot a b := √(a ^ 2 + b ^ 2)
  round := round
  truncate x := if x < 0 then ⌈x⌉ else ⌊x⌋

end Arithmetic

namespace Watermark

variable (toPixels : ℝ → ℤ) {base mark : Size}

theorem step_real (width : ℕ) : step (.real toPixels) width = width / 2 + 20 := by
  have wide : ¬(width / 2 + 20 : ℝ) < 10 := by
    have nonneg : (0 : ℝ) ≤ width / 2 := by positivity
    linarith
  simp [step, larger, Arithmetic.ratio, Arithmetic.real, wide]

theorem step_real_pos (width : ℕ) : 0 < step (.real toPixels) width := by
  rw [step_real]
  positivity

theorem truncate_real {x : ℝ} (nonneg : 0 ≤ x) : (Arithmetic.real toPixels).truncate x = ⌊x⌋ :=
  if_neg (not_lt.mpr nonneg)

theorem diagonal_real (width height : ℕ) :
    (Arithmetic.real toPixels).hypot ((Arithmetic.real toPixels).ofInt width)
      ((Arithmetic.real toPixels).ofInt height) = √(width ^ 2 + height ^ 2) := by
  simp [Arithmetic.real]

theorem reach_nonneg (base mark : Size) :
    0 ≤ (√(base.width ^ 2 + base.height ^ 2) + mark.width) / step (.real toPixels) mark.width := by
  have positive := step_real_pos toPixels mark.width
  positivity

theorem steps_real (base mark : Size) :
    steps (.real toPixels) base mark =
      ⌊(√(base.width ^ 2 + base.height ^ 2) + mark.width) / step (.real toPixels) mark.width⌋ + 2 := by
  rw [← truncate_real toPixels (reach_nonneg toPixels base mark), ← diagonal_real toPixels]
  rfl

theorem exists_steps_real (base mark : Size) :
    ∃ count : ℕ, steps (.real toPixels) base mark = count ∧ 0 < count ∧
      √(base.width ^ 2 + base.height ^ 2) + mark.width + step (.real toPixels) mark.width <
        count * step (.real toPixels) mark.width := by
  have nonneg := reach_nonneg toPixels base mark
  obtain ⟨whole, floored⟩ := Int.eq_ofNat_of_zero_le (Int.floor_nonneg.mpr nonneg)
  refine ⟨whole + 2, by rw [steps_real, floored]; rfl, by omega, ?_⟩
  have above := Int.lt_floor_add_one
    ((√(base.width ^ 2 + base.height ^ 2) + mark.width) / step (.real toPixels) mark.width)
  rw [floored, div_lt_iff₀ (step_real_pos toPixels _)] at above
  push_cast at above ⊢
  linarith

/-- Where a mark begins after a number of steps out of all, before it is brought to pixels. -/
noncomputable def placeAt (base mark : Size) (count i : ℕ) : ℝ × ℝ :=
  (-mark.width + i / count * (base.width + mark.width),
    -mark.height + i / count * (base.height + mark.height))

noncomputable def distance (p q : ℝ × ℝ) : ℝ := √((q.1 - p.1) ^ 2 + (q.2 - p.2) ^ 2)

noncomputable def way (base mark : Size) : ℝ :=
  √((base.width + mark.width) ^ 2 + (base.height + mark.height) ^ 2)

theorem corners_real {count : ℕ} (counted : steps (.real toPixels) base mark = count) :
    (plan (.real toPixels) base mark).corners = (List.range (count + 1)).map fun i =>
      (toPixels (placeAt base mark count i).1, toPixels (placeAt base mark count i).2) := by
  unfold plan positions
  rw [counted]
  simp [position, Arithmetic.ratio, Arithmetic.real, placeAt]

theorem distance_placeAt (base mark : Size) {count : ℕ} (positive : 0 < count) (i : ℕ) :
    distance (placeAt base mark count i) (placeAt base mark count (i + 1)) =
      way base mark / count := by
  have scale : (0 : ℝ) < count := by exact_mod_cast positive
  have square : ((placeAt base mark count (i + 1)).1 - (placeAt base mark count i).1) ^ 2 +
      ((placeAt base mark count (i + 1)).2 - (placeAt base mark count i).2) ^ 2 =
      ((base.width + mark.width) ^ 2 + (base.height + mark.height) ^ 2) / (count : ℝ) ^ 2 := by
    unfold placeAt
    push_cast
    field_simp
    ring
  rw [distance, square, Real.sqrt_div' _ (by positivity), Real.sqrt_sq scale.le, way]

theorem sqrt_add_sq_le (a b c d : ℝ) :
    √((a + c) ^ 2 + (b + d) ^ 2) ≤ √(a ^ 2 + b ^ 2) + √(c ^ 2 + d ^ 2) := by
  have triangle := norm_add_le (⟨a, b⟩ : ℂ) ⟨c, d⟩
  simpa [Complex.norm_eq_sqrt_sq_add_sq] using triangle

theorem diagonal_le_of_square (square : |(mark.width : ℤ) - mark.height| ≤ 2) :
    √(mark.width ^ 2 + mark.height ^ 2) ≤ mark.width + step (.real toPixels) mark.width := by
  have flat : mark.height ≤ mark.width + 2 := by
    have bounds := abs_le.mp square
    omega
  have flat : (mark.height : ℝ) ≤ mark.width + 2 := by exact_mod_cast flat
  have wide : (0 : ℝ) ≤ mark.width := by positivity
  have high : (mark.height : ℝ) ^ 2 ≤ (mark.width + 2) ^ 2 := by gcongr
  rw [step_real]
  apply Real.sqrt_le_iff.mpr
  constructor
  · positivity
  · nlinarith

theorem way_le (square : |(mark.width : ℤ) - mark.height| ≤ 2) :
    way base mark ≤ √(base.width ^ 2 + base.height ^ 2) + mark.width +
      step (.real toPixels) mark.width := by
  have detour := sqrt_add_sq_le base.width base.height mark.width mark.height
  have short := diagonal_le_of_square toPixels square
  unfold way
  linarith

/-- Neighbouring marks of a nearly square size are at most a step apart, wherever they are brought to
pixels afterwards. -/
theorem gapless (base : Size) (square : |(mark.width : ℤ) - mark.height| ≤ 2) :
    ∃ count : ℕ, steps (.real toPixels) base mark = count ∧ 0 < count ∧
      ((plan (.real toPixels) base mark).corners = (List.range (count + 1)).map fun i =>
        (toPixels (placeAt base mark count i).1, toPixels (placeAt base mark count i).2)) ∧
      (∀ i, distance (placeAt base mark count i) (placeAt base mark count (i + 1)) =
        √((base.width + mark.width) ^ 2 + (base.height + mark.height) ^ 2) / count) ∧
      √((base.width + mark.width) ^ 2 + (base.height + mark.height) ^ 2) / count <
        step (.real toPixels) mark.width := by
  obtain ⟨count, counted, positive, reached⟩ := exists_steps_real toPixels base mark
  refine ⟨count, counted, positive, corners_real toPixels counted, distance_placeAt base mark positive, ?_⟩
  rw [div_lt_iff₀ (by exact_mod_cast positive), mul_comm]
  exact (way_le toPixels square).trans_lt reached

theorem threeByFour_gapless :
    |((⟨53, 55⟩ : Size).width : ℤ) - (⟨53, 55⟩ : Size).height| ≤ 2 ∧
    steps (.real round) ⟨300, 400⟩ ⟨53, 55⟩ = 13 ∧ √(353 ^ 2 + 455 ^ 2) / 13 < (46.5 : ℝ) := by
  have square : |((⟨53, 55⟩ : Size).width : ℤ) - (⟨53, 55⟩ : Size).height| ≤ 2 := by decide
  have thirteen : steps (.real round) ⟨300, 400⟩ ⟨53, 55⟩ = 13 := by
    have diagonal : √((300 : ℝ) ^ 2 + 400 ^ 2) = 500 := by
      rw [show (300 : ℝ) ^ 2 + 400 ^ 2 = 500 ^ 2 by norm_num, Real.sqrt_sq (by norm_num)]
    have eleven : ⌊((500 : ℝ) + 53) / (53 / 2 + 20)⌋ = 11 := by
      rw [Int.floor_eq_iff]
      norm_num
    rw [steps_real, step_real]
    push_cast
    rw [diagonal, eleven]
    rfl
  obtain ⟨count, counted, -, -, -, apart⟩ := gapless round ⟨300, 400⟩ square
  obtain rfl : count = 13 := by omega
  rw [step_real] at apart
  refine ⟨square, thirteen, ?_⟩
  norm_num at apart ⊢
  exact apart

end Watermark

end ImagePipeline
