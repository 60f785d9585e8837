import ImagePipeline.Processor
import ImagePipeline.Proofs.Image.Rounding

namespace ImagePipeline

namespace Resample

theorem size_smooth {α : Type} [Pixel α] (r : Raster α) (size : Size) :
    (smooth r size).width = size.width ∧ (smooth r size).height = size.height := by
  have across_ (r : Raster α) (width : Nat) :
      (across r width).width = width ∧ (across r width).height = r.height := by
    unfold across
    split
    · next same => exact ⟨same.symm, rfl⟩
    · exact ⟨rfl, rfl⟩
  have down_ (r : Raster α) (height : Nat) :
      (down r height).width = r.width ∧ (down r height).height = height := by
    unfold down
    split
    · next same => exact ⟨rfl, same.symm⟩
    · exact ⟨rfl, rfl⟩
  unfold smooth
  split
  · exact ⟨(across_ _ _).1, (across_ _ _).2.trans (down_ _ _).2⟩
  · exact ⟨(down_ _ _).1.trans (across_ _ _).1, (down_ _ _).2⟩

theorem size_resizeCells (size : Size) (cells : Cells) :
    (resizeCells size cells).width = size.width ∧ (resizeCells size cells).height = size.height := by
  cases cells with
  | indexed => exact ⟨rfl, rfl⟩
  | _ => exact size_smooth _ size

theorem exists_resize {p : Picture} (columns : p.width ≠ 0) (size : Size) :
    ∃ q, resize p size = .ok q ∧ q.width = size.width ∧ q.height = size.height := by
  unfold resize
  split
  · next same => exact ⟨p, rfl, same⟩
  · exact ⟨_, rfl, size_resizeCells size p.cells⟩

end Resample

def roundedSide (x : ℚ) : ℕ := (max (nearestEven x) 1).toNat

variable {x y : ℚ} {n : ℕ}

theorem roundedSide_pos (y : ℚ) : 1 ≤ roundedSide y := by
  unfold roundedSide
  omega

theorem roundedSide_le (positive : 1 ≤ n) (small : y < n + 1 / 2) : roundedSide y ≤ n := by
  have whole : nearestEven y ≤ n := nearestEven_le (by exact_mod_cast small)
  unfold roundedSide
  omega

theorem abs_roundedSide_sub_lt (positive : 0 < x) (near : |y - x| < 1 / 2) :
    |(roundedSide y : ℚ) - x| < 1 := by
  obtain ⟨below, above⟩ := abs_lt.mp near
  obtain ⟨low, high⟩ := nearestEven_bounds y
  have cast : (roundedSide y : ℚ) = max (nearestEven y : ℚ) 1 := by
    have whole : (roundedSide y : ℤ) = max (nearestEven y) 1 := Int.toNat_of_nonneg (by omega)
    exact_mod_cast congrArg (Int.cast (R := ℚ)) whole
  rw [cast, abs_lt]
  rcases le_total (nearestEven y : ℚ) 1 with small | large
  · rw [max_eq_right small]
    constructor <;> linarith
  · rw [max_eq_left large]
    constructor <;> linarith

namespace Rounding

variable (rounding : Rounding) {k s : ℚ}

theorem close_div (pos : 0 < s) (pos' : 0 < k) :
    |rounding.round (k / rounding.round s) - k / s| ≤ 3 / 2 ^ 53 * (k / s) := by
  have inner := rounding.round_pos pos
  obtain ⟨low, high⟩ := rounding.bounds pos.le
  obtain ⟨below, above⟩ := rounding.bounds (div_pos pos' inner).le
  have quotient : 0 < k / s := div_pos pos' pos
  have less : (1 - 1 / 2 ^ 53) * (k / rounding.round s) ≤ k / s := by
    rw [mul_div_assoc', div_le_div_iff₀ inner pos]
    have scaled := mul_le_mul_of_nonneg_left low pos'.le
    linarith
  have more : k / s ≤ (1 + 1 / 2 ^ 53) * (k / rounding.round s) := by
    rw [mul_div_assoc', div_le_div_iff₀ pos inner]
    have scaled := mul_le_mul_of_nonneg_left high pos'.le
    linarith
  rw [abs_le]
  constructor <;> linarith

theorem close_mul (pos : 0 < s) (pos' : 0 < k) :
    |rounding.round (k * rounding.round s) - k * s| ≤ 3 / 2 ^ 53 * (k * s) := by
  have inner := rounding.round_pos pos
  obtain ⟨low, high⟩ := rounding.bounds pos.le
  obtain ⟨below, above⟩ := rounding.bounds (mul_pos pos' inner).le
  have product : 0 < k * s := mul_pos pos' pos
  have less := mul_le_mul_of_nonneg_left low pos'.le
  have more := mul_le_mul_of_nonneg_left high pos'.le
  rw [abs_le]
  constructor <;> linarith

end Rounding

theorem lt_half_of_close (close : |y - x| ≤ 3 / 2 ^ 53 * x) (bound : x ≤ 2 ^ 32) : |y - x| < 1 / 2 := by
  linarith

/-- The size has a side in common with the box, the other one is what the proportions of the source ask
for but for less than one, and it is not larger than the box or than the source. -/
structure Proportional (source box new : Size) : Prop where
  positive : 1 ≤ new.width ∧ 1 ≤ new.height
  inBox : new.width ≤ box.width ∧ new.height ≤ box.height
  notEnlarged : new.width ≤ source.width ∧ new.height ≤ source.height
  shaped : new.width = box.width ∧ |(new.height : ℚ) - box.width * source.height / source.width| < 1 ∨
    new.height = box.height ∧ |(new.width : ℚ) - box.height * source.width / source.height| < 1

structure Usual (size : Size) : Prop where
  width : 1 ≤ size.width ∧ size.width ≤ 2 ^ 31
  height : 1 ≤ size.height ∧ size.height ≤ 2 ^ 31

theorem Usual.pos {size : Size} (usual : Usual size) :
    (0 : ℚ) < size.width ∧ (0 : ℚ) < size.height := by
  obtain ⟨⟨columns, -⟩, rows, -⟩ := usual
  exact ⟨by exact_mod_cast columns, by exact_mod_cast rows⟩

variable (rounding : Rounding) (hypot : ℚ → ℚ → ℚ) {source box : Size}

theorem proportional_of_wider (usual : Usual source) (usual' : Usual box)
    (outside : ¬ (source.width ≤ box.width ∧ source.height ≤ box.height))
    (wider : rounding.round (box.width / box.height) < rounding.round (source.width / source.height)) :
    Proportional source box ⟨box.width,
      roundedSide (rounding.round (box.width / rounding.round (source.width / source.height)))⟩ := by
  obtain ⟨pos, pos'⟩ := usual.pos
  obtain ⟨posBox, posBox'⟩ := usual'.pos
  have rows := usual.height.1
  obtain ⟨⟨columns', -⟩, rows', short⟩ := usual'
  have aspects : (box.width : ℚ) / box.height < source.width / source.height :=
    rounding.monotone.reflect_lt wider
  have crossed : (box.width : ℚ) * source.height < source.width * box.height :=
    (div_lt_div_iff₀ posBox' pos').mp aspects
  have narrower : box.width < source.width := by
    by_contra fits
    have taller : box.height < source.height := not_le.mp fun low => outside ⟨not_lt.mp fits, low⟩
    have reversed := Nat.mul_le_mul (not_lt.mp fits) taller.le
    have exact_ : box.width * source.height < source.width * box.height := by exact_mod_cast crossed
    omega
  have asked : (box.width : ℚ) * source.height / source.width < box.height := by
    rw [div_lt_iff₀ pos]
    linarith
  have asked' : (box.width : ℚ) * source.height / source.width ≤ source.height := by
    rw [div_le_iff₀ pos, mul_comm (source.height : ℚ)]
    have less : (box.width : ℚ) ≤ source.width := by exact_mod_cast narrower.le
    exact mul_le_mul_of_nonneg_right less pos'.le
  have same : (box.width : ℚ) / (source.width / source.height) =
      box.width * source.height / source.width := div_div_eq_mul_div ..
  have near := rounding.close_div (div_pos pos pos') posBox
  rw [same] at near
  have bound : (box.width : ℚ) * source.height / source.width < 2 ^ 31 :=
    asked.trans_le (by exact_mod_cast short)
  have half := lt_half_of_close near (by linarith)
  have above := (abs_lt.mp half).2
  have positive : 0 < (box.width : ℚ) * source.height / source.width := by positivity
  refine ⟨⟨columns', roundedSide_pos _⟩, ⟨le_refl _, ?_⟩, ⟨narrower.le, ?_⟩, .inl ⟨rfl, ?_⟩⟩
  · exact roundedSide_le rows' (by linarith)
  · exact roundedSide_le rows (by linarith)
  · exact abs_roundedSide_sub_lt positive half

theorem proportional_of_taller (usual : Usual source) (usual' : Usual box)
    (outside : ¬ (source.width ≤ box.width ∧ source.height ≤ box.height))
    (taller : ¬ rounding.round (box.width / box.height) < rounding.round (source.width / source.height)) :
    Proportional source box
      ⟨roundedSide (rounding.round (box.height * rounding.round (source.width / source.height))),
        box.height⟩ := by
  obtain ⟨pos, pos'⟩ := usual.pos
  obtain ⟨posBox, posBox'⟩ := usual'.pos
  have columns := usual.width.1
  obtain ⟨⟨columns', narrow⟩, rows', -⟩ := usual'
  have narrow_ : (box.width : ℚ) ≤ 2 ^ 31 := by exact_mod_cast narrow
  -- the aspects may be in the other order, but only by as much as they are rounded
  have aspects : (1 - 1 / 2 ^ 53) * (source.width / source.height : ℚ) ≤
      (1 + 1 / 2 ^ 53) * (box.width / box.height) :=
    ((rounding.bounds (div_pos pos pos').le).1.trans (not_lt.mp taller)).trans
      (rounding.bounds (div_pos posBox posBox').le).2
  have crossed : (1 - 1 / 2 ^ 53) * (source.width * box.height : ℚ) ≤
      (1 + 1 / 2 ^ 53) * (box.width * source.height) := by
    rw [mul_div_assoc', mul_div_assoc', div_le_div_iff₀ pos' posBox'] at aspects
    linarith
  have lower : box.height ≤ source.height := by
    by_contra fits
    have wider : box.width < source.width := not_le.mp fun low => outside ⟨low, (not_le.mp fits).le⟩
    have products : (box.width + 1) * (source.height + 1) ≤ source.width * box.height :=
      Nat.mul_le_mul wider (not_le.mp fits)
    have products_ : ((box.width : ℚ) + 1) * (source.height + 1) ≤ source.width * box.height := by
      exact_mod_cast products
    have area : (box.width : ℚ) * source.height ≤ 2 ^ 31 * source.height :=
      mul_le_mul_of_nonneg_right narrow_ pos'.le
    linarith
  have asked : (box.height : ℚ) * (source.width / source.height) ≤ (1 + 3 / 2 ^ 53) * box.width := by
    rw [mul_div_assoc', div_le_iff₀ pos']
    have area : 0 < (box.width : ℚ) * source.height := mul_pos posBox pos'
    linarith
  have asked' : (box.height : ℚ) * (source.width / source.height) ≤ source.width := by
    rw [mul_div_assoc', div_le_iff₀ pos', mul_comm (source.width : ℚ)]
    have less : (box.height : ℚ) ≤ source.height := by exact_mod_cast lower
    exact mul_le_mul_of_nonneg_right less pos.le
  have near := rounding.close_mul (div_pos pos pos') posBox'
  have half := lt_half_of_close near (by linarith)
  obtain ⟨-, above⟩ := abs_le.mp near
  obtain ⟨-, above'⟩ := abs_lt.mp half
  have positive : 0 < (box.height : ℚ) * (source.width / source.height) := by positivity
  refine ⟨⟨roundedSide_pos _, rows'⟩, ⟨?_, le_refl _⟩, ⟨?_, lower⟩, .inr ⟨rfl, ?_⟩⟩
  · exact roundedSide_le columns' (by linarith)
  · exact roundedSide_le columns (by linarith)
  · rw [mul_div_assoc]
    exact abs_roundedSide_sub_lt positive half

theorem fit_outside (usual : Usual source) (usual' : Usual box)
    (outside : ¬ (source.width ≤ box.width ∧ source.height ≤ box.height)) :
    ∃ new, fit (.rounded rounding hypot) source box.width box.height = .ok (.scaled new) ∧
      Proportional source box new := by
  have columns := usual'.width.1
  have rows := usual'.height.1
  have rows' := usual.height.1
  have ready : fit (.rounded rounding hypot) source box.width box.height =
      if rounding.round (box.width / box.height) < rounding.round (source.width / source.height) then
        .ok (.scaled ⟨box.width,
          roundedSide (rounding.round (box.width / rounding.round (source.width / source.height)))⟩)
      else
        .ok (.scaled ⟨roundedSide
          (rounding.round (box.height * rounding.round (source.width / source.height))), box.height⟩) := by
    unfold fit
    rw [if_neg (by omega), if_neg (by omega), if_neg (by omega)]
    simp only [Arithmetic.ratio, Arithmetic.rounded, Int.cast_natCast, Int.toNat_natCast,
      decide_eq_true_eq, roundedSide]
  rw [ready]
  split
  · next wider => exact ⟨_, rfl, proportional_of_wider rounding usual usual' outside wider⟩
  · next taller => exact ⟨_, rfl, proportional_of_taller rounding usual usual' outside taller⟩

theorem fit_inside (source : Size) (usual' : Usual box)
    (inside : source.width ≤ box.width ∧ source.height ≤ box.height) :
    fit (.rounded rounding hypot) source box.width box.height = .ok .inside := by
  have columns := usual'.width.1
  have rows := usual'.height.1
  unfold fit
  rw [if_neg (by omega), if_pos (by omega)]

theorem fitPicture?_inside {p : Picture} (usual' : Usual box)
    (inside : p.width ≤ box.width ∧ p.height ≤ box.height) :
    fitPicture? (.rounded rounding hypot) p box.width box.height = .ok (some p) := by
  rw [fitPicture?, fit_inside rounding hypot ⟨p.width, p.height⟩ usual' inside]
  rfl

/-- A picture that lies in the box keeps its size; any other is scaled to a proportional one. Fitting
once more changes nothing. -/
theorem fitted_proportionally (p : Picture) (usual : Usual ⟨p.width, p.height⟩)
    (usual' : Usual box) :
    ∃ q, fitPicture? (.rounded rounding hypot) p box.width box.height = .ok (some q) ∧
      (p.width ≤ box.width ∧ p.height ≤ box.height → q = p) ∧
      (¬ (p.width ≤ box.width ∧ p.height ≤ box.height) →
        Proportional ⟨p.width, p.height⟩ box ⟨q.width, q.height⟩) ∧
      fitPicture? (.rounded rounding hypot) q box.width box.height = .ok (some q) := by
  by_cases inside : p.width ≤ box.width ∧ p.height ≤ box.height
  · have kept := fitPicture?_inside rounding hypot usual' inside
    exact ⟨p, kept, fun _ => rfl, fun outside => absurd inside outside, kept⟩
  · obtain ⟨new, scaled, shape⟩ := fit_outside rounding hypot usual usual' inside
    obtain ⟨q, resized, width, height⟩ :=
      Resample.exists_resize (Nat.one_le_iff_ne_zero.mp usual.width.1) new
    have same : (⟨q.width, q.height⟩ : Size) = new := by rw [width, height]
    refine ⟨q, ?_, fun fits => absurd fits inside, fun _ => same ▸ shape, ?_⟩
    · rw [fitPicture?, scaled]
      change (Resample.resize p new).map some = _
      rw [resized]
      rfl
    · refine fitPicture?_inside rounding hypot usual' ?_
      rw [width, height]
      exact shape.inBox

theorem goldenRatios_fitted :
    (701408733 : ℚ) / 433494437 < 1134903170 / 701408733 ∧
    Rounding.significant.round (701408733 / 433494437) =
      Rounding.significant.round (1134903170 / 701408733) ∧
    ∃ q, fitPicture? (.rounded .significant fun _ _ => 0)
        (.ofRgb (.uniform 1134903170 701408733 default)) 701408733 433494437 = .ok (some q) ∧
      Proportional ⟨1134903170, 701408733⟩ ⟨701408733, 433494437⟩ ⟨q.width, q.height⟩ ∧
      fitPicture? (.rounded .significant fun _ _ => 0) q 701408733 433494437 = .ok (some q) := by
  have usual : Usual ⟨1134903170, 701408733⟩ := ⟨by norm_num, by norm_num⟩
  have usual' : Usual ⟨701408733, 433494437⟩ := ⟨by norm_num, by norm_num⟩
  obtain ⟨q, fitted, -, shape, again⟩ := fitted_proportionally .significant (fun _ _ => 0)
    (.ofRgb (.uniform 1134903170 701408733 default)) usual usual'
  refine ⟨by norm_num, by decide +kernel, q, fitted, shape ?_, again⟩
  exact fun inside => absurd inside.1 (by decide)

end ImagePipeline
