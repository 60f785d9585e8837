import ImagePipeline.Image.Watermark
/-!
# Laying a raster over another one

Cutting off what sticks out of the base and skipping what does not meet it comes to the same as laying
the whole overlay on an unbounded plane and looking at the base's part of it (`layClipped_plane`).
-/

namespace ImagePipeline

namespace Raster

variable {α : Type}

/-! ## Cells of a changed rectangle -/

theorem within_run_iff {width columns : Nat} (fits : columns ≤ width) (start row i : Nat) :
    (start + row * width ≤ i ∧ i < start + row * width + columns) ↔
      start ≤ i ∧ (i - start) % width < columns ∧ (i - start) / width = row := by
  have parts : width * ((i - start) / width) + (i - start) % width = i - start :=
    Nat.div_add_mod ..
  constructor
  · rintro ⟨above, below⟩
    have positive : 0 < width := by omega
    have quotient : (i - start) / width = row := by
      refine Nat.div_eq_of_lt_le ?_ ?_
      · omega
      · rw [Nat.succ_mul]
        omega
    rw [quotient, Nat.mul_comm] at parts
    exact ⟨by omega, by omega, quotient⟩
  · rintro ⟨above, column, quotient⟩
    rw [quotient, Nat.mul_comm] at parts
    constructor <;> omega

theorem column_of_within_run {width columns start row i : Nat} (fits : columns ≤ width)
    (within : start + row * width ≤ i ∧ i < start + row * width + columns) :
    (i - start) % width = i - (start + row * width) := by
  obtain ⟨-, -, quotient⟩ := (within_run_iff fits start row i).mp within
  have parts : width * ((i - start) / width) + (i - start) % width = i - start :=
    Nat.div_add_mod ..
  rw [quotient, Nat.mul_comm] at parts
  omega

theorem getElem?_modifyRows {width columns : Nat} (fits : columns ≤ width) (cells : Array α)
    (start : Nat) (change : Nat → Nat → α → α) (rows i : Nat) :
    (modifyRows width cells start columns change rows)[i]? =
      if start ≤ i ∧ (i - start) % width < columns ∧ (i - start) / width < rows then
        cells[i]?.map (change ((i - start) % width) ((i - start) / width))
      else cells[i]? := by
  induction rows generalizing cells with
  | zero => simp [modifyRows]
  | succ rows ih =>
    rw [modifyRows, ih, getElem?_modifyRun]
    have last := within_run_iff fits start rows i
    by_cases within : start + rows * width ≤ i ∧ i < start + rows * width + columns
    · have column := column_of_within_run fits within
      obtain ⟨above, left, quotient⟩ := last.mp within
      rw [if_neg (by omega), if_pos within, if_pos (by omega), quotient, column]
    · rw [if_neg within]
      by_cases before : start ≤ i ∧ (i - start) % width < columns ∧ (i - start) / width < rows
      · rw [if_pos before, if_pos (by omega)]
      · rw [if_neg before, if_neg (by omega)]

theorem index_div {width x : Nat} (y : Nat) (left : x < width) : (y * width + x) / width = y := by
  rw [Nat.mul_comm, Nat.mul_add_div (by omega), Nat.div_eq_of_lt left, Nat.add_zero]

theorem index_mod {width x : Nat} (y : Nat) (left : x < width) : (y * width + x) % width = x := by
  rw [Nat.mul_comm, Nat.mul_add_mod, Nat.mod_eq_of_lt left]

theorem get?_eq_none (r : Raster α) {px py : Nat} (outside : r.width ≤ px ∨ r.height ≤ py) :
    r.get? px py = none := by
  unfold get?
  split
  · apply Array.getElem?_eq_none
    rw [r.size_cells, Nat.mul_comm]
    exact Nat.le_trans (Nat.mul_le_mul_right _ (by omega : r.height ≤ py)) (Nat.le_add_right ..)
  · rfl

theorem get?_modifyRect (r : Raster α) (x y columns rows : Nat) (change : Nat → Nat → α → α)
    (px py : Nat) : (r.modifyRect x y columns rows change).get? px py =
      if x ≤ px ∧ px < x + columns ∧ y ≤ py ∧ py < y + rows then
        (r.get? px py).map (change (px - x) (py - y))
      else r.get? px py := by
  by_cases inside : px < r.width ∧ py < r.height
  · obtain ⟨left, above⟩ := inside
    have fits : min columns (r.width - x) ≤ r.width := by omega
    simp only [get?, modifyRect, if_pos left, getElem?_modifyRows fits]
    by_cases within : x ≤ px ∧ px < x + columns ∧ y ≤ py ∧ py < y + rows
    · have distance : py * r.width + px - (y * r.width + x) = (py - y) * r.width + (px - x) := by
        have rows_apart : (py - y) * r.width + y * r.width = py * r.width := by
          rw [← Nat.add_mul, Nat.sub_add_cancel within.2.2.1]
        omega
      have started : y * r.width + x ≤ py * r.width + px :=
        Nat.add_le_add (Nat.mul_le_mul_right _ within.2.2.1) within.1
      rw [distance, index_div _ (by omega), index_mod _ (by omega), if_pos (by omega),
        if_pos within]
    · rw [if_neg within, if_neg]
      rintro ⟨started, column, row⟩
      have parts := Nat.div_add_mod (py * r.width + px - (y * r.width + x)) r.width
      generalize (py * r.width + px - (y * r.width + x)) / r.width = down at parts row
      generalize (py * r.width + px - (y * r.width + x)) % r.width = along at parts column
      -- a cell of the run is one of the rectangle, since the run ends where the row does
      have place : py * r.width + px = (y + down) * r.width + (x + along) := by
        rw [Nat.mul_comm] at parts
        rw [Nat.add_mul]
        omega
      have same_row := congrArg (· / r.width) place
      have same_column := congrArg (· % r.width) place
      simp only [index_div _ left, index_mod _ left] at same_row same_column
      rw [index_div _ (by omega)] at same_row
      rw [index_mod _ (by omega)] at same_column
      omega
  · have outside : r.width ≤ px ∨ r.height ≤ py := by omega
    rw [get?_eq_none r outside, get?_eq_none (r.modifyRect x y columns rows change) outside]
    simp

theorem ext_cells {r s : Raster α} (width : r.width = s.width) (height : r.height = s.height)
    (cells : r.cells = s.cells) : r = s := by
  cases r
  cases s
  simp_all

theorem ext_get? {r s : Raster α} (width : r.width = s.width) (height : r.height = s.height)
    (cells : ∀ px py, r.get? px py = s.get? px py) : r = s := by
  refine ext_cells width height (Array.ext ?_ fun i inside inside' => ?_)
  · rw [r.size_cells, s.size_cells, width, height]
  · have positive : 0 < r.width := by
      refine Nat.pos_of_ne_zero fun none_left => ?_
      simp [r.size_cells, none_left] at inside
    have cell := cells (i % r.width) (i / r.width)
    have column := Nat.mod_lt i positive
    rw [get?, get?, ← width, if_pos column, if_pos column, Nat.mul_comm, Nat.div_add_mod,
      Array.getElem?_eq_getElem inside, Array.getElem?_eq_getElem inside'] at cell
    exact Option.some.inj cell

end Raster

namespace Watermark

/-! ## The plane -/

/-- What is seen at a place of the plane where an overlay with its corner at (`x`, `y`) lies over some
ground. -/
def seenAt (overlay : Raster Rgba) (x y : Int) (px py : Nat) (ground : Rgba) : Rgba :=
  if 0 ≤ px - x ∧ px - x < overlay.width ∧ 0 ≤ py - y ∧ py - y < overlay.height then
    (overlay.get (px - x).toNat (py - y).toNat).laidOver ground
  else ground

theorem overlap?_eq_some_iff {base overlay : Size} {x y : Int} {o : Overlap} :
    overlap? base overlay x y = some o ↔
      o = ⟨x.toNat, y.toNat, (-x).toNat, (-y).toNat⟩ ∧
        (o.dstX < base.width ∧ o.dstY < base.height) ∧
        o.srcX < overlay.width ∧ o.srcY < overlay.height := by
  simp only [overlap?]
  split
  · simp only [reduceCtorEq, false_iff]
    rintro ⟨rfl, inside⟩
    dsimp only at inside
    omega
  · split
    · simp only [reduceCtorEq, false_iff]
      rintro ⟨rfl, inside⟩
      dsimp only at inside
      omega
    · simp only [Option.some.injEq]
      constructor
      · rintro rfl
        dsimp only
        exact ⟨rfl, by omega, by omega⟩
      · rintro ⟨rfl, -⟩
        rfl

theorem overlap?_eq_none_iff {base overlay : Size} {x y : Int} :
    overlap? base overlay x y = none ↔
      (overlay.width ≤ (-x).toNat ∨ overlay.height ≤ (-y).toNat) ∨
        base.width ≤ x.toNat ∨ base.height ≤ y.toNat := by
  simp only [overlap?]
  grind

variable (base overlay : Raster Rgba) (x y : Int)

theorem seenAt_beyond {px py : Nat}
    (beyond : ¬(0 ≤ px - x ∧ px - x < overlay.width ∧ 0 ≤ py - y ∧ py - y < overlay.height)) :
    seenAt overlay x y px py = id := by
  funext ground
  rw [seenAt, if_neg beyond, id]

theorem get?_layOver {o : Overlap}
    (meeting : overlap? ⟨base.width, base.height⟩ ⟨overlay.width, overlay.height⟩ x y = some o)
    (px py : Nat) :
    (layOver base overlay o).get? px py = (base.get? px py).map (seenAt overlay x y px py) := by
  obtain ⟨rfl, -, source⟩ := overlap?_eq_some_iff.mp meeting
  rw [layOver, Raster.get?_modifyRect]
  dsimp only at source ⊢
  by_cases within : 0 ≤ px - x ∧ px - x < overlay.width ∧ 0 ≤ py - y ∧ py - y < overlay.height
  · have column : (-x).toNat + (px - x.toNat) = (px - x).toNat := by omega
    have row : (-y).toNat + (py - y.toNat) = (py - y).toNat := by omega
    rw [if_pos (by omega)]
    congr 1
    funext ground
    rw [seenAt, if_pos within, column, row]
  · rw [if_neg (by omega), seenAt_beyond overlay x y within, Option.map_id, id]

theorem get?_of_apart
    (apart : overlap? ⟨base.width, base.height⟩ ⟨overlay.width, overlay.height⟩ x y = none)
    (px py : Nat) : base.get? px py = (base.get? px py).map (seenAt overlay x y px py) := by
  have sides := overlap?_eq_none_iff.mp apart
  dsimp only at sides
  by_cases inside : px < base.width ∧ py < base.height
  · rw [seenAt_beyond overlay x y (by omega), Option.map_id, id]
  · rw [Raster.get?_eq_none base (by omega), Option.map_none]

theorem get?_layClipped (px py : Nat) : (layClipped base overlay x y).get? px py =
    (base.get? px py).map (seenAt overlay x y px py) := by
  unfold layClipped
  cases meeting : overlap? ⟨base.width, base.height⟩ ⟨overlay.width, overlay.height⟩ x y with
  | none => exact get?_of_apart base overlay x y meeting px py
  | some o => exact get?_layOver base overlay x y meeting px py

@[simp] theorem layClipped_width : (layClipped base overlay x y).width = base.width := by
  unfold layClipped
  split <;> rfl

@[simp] theorem layClipped_height : (layClipped base overlay x y).height = base.height := by
  unfold layClipped
  split <;> rfl

/-- The base keeps its size, and each of its cells is seen through the overlay's cell over it, if there
is one. What is laid over the base begins inside the base, and with a cell of the overlay. -/
theorem layClipped_plane :
    (layClipped base overlay x y).width = base.width ∧
    (layClipped base overlay x y).height = base.height ∧
    (∀ px py, (layClipped base overlay x y).get? px py =
      (base.get? px py).map (seenAt overlay x y px py)) ∧
    match overlap? ⟨base.width, base.height⟩ ⟨overlay.width, overlay.height⟩ x y with
    | none => layClipped base overlay x y = base
    | some o => layClipped base overlay x y = layOver base overlay o ∧
        (o.dstX < base.width ∧ o.dstY < base.height) ∧
        o.srcX < overlay.width ∧ o.srcY < overlay.height := by
  refine ⟨layClipped_width .., layClipped_height .., get?_layClipped base overlay x y, ?_⟩
  cases meeting : overlap? ⟨base.width, base.height⟩ ⟨overlay.width, overlay.height⟩ x y with
  | none => simp only [layClipped, meeting]
  | some o =>
    obtain ⟨-, inside⟩ := overlap?_eq_some_iff.mp meeting
    exact ⟨by simp only [layClipped, meeting], inside⟩

end Watermark
end ImagePipeline
