namespace ImagePipeline

structure Size where
  width : Nat
  height : Nat
  deriving DecidableEq, Inhabited

namespace Size

def isEmpty (s : Size) : Bool := s.width == 0 || s.height == 0

def maxCells : Nat := 178956970

def isTooLarge (s : Size) : Bool := decide (maxCells < s.width * s.height)

end Size

/-- A rectangle of cells; the cell in column `x` of row `y` is number `y * width + x`. -/
structure Raster (α : Type) where
  width : Nat
  height : Nat
  cells : Array α
  size_cells : cells.size = width * height

namespace Raster

variable {α β : Type}

instance : Inhabited (Raster α) := ⟨⟨0, 0, #[], rfl⟩⟩

def generate (width height : Nat) (cell : Nat → Nat → α) : Raster α where
  width := width
  height := height
  cells := Array.ofFn fun i : Fin (width * height) => cell (i.val % width) (i.val / width)
  size_cells := Array.size_ofFn

def uniform (width height : Nat) (cell : α) : Raster α where
  width := width
  height := height
  cells := Array.replicate (width * height) cell
  size_cells := Array.size_replicate

def get? (r : Raster α) (x y : Nat) : Option α :=
  if x < r.width then r.cells[y * r.width + x]? else none

def get [Inhabited α] (r : Raster α) (x y : Nat) : α := r.cells.getD (y * r.width + x) default

def map (f : α → β) (r : Raster α) : Raster β where
  width := r.width
  height := r.height
  cells := r.cells.map f
  size_cells := Array.size_map.trans r.size_cells

def isEmpty (r : Raster α) : Bool := r.width == 0 || r.height == 0

def modifyRun (cells : Array α) (start : Nat) (change : Nat → α → α) : Nat → Array α
  | 0 => cells
  | count + 1 =>
    modifyRun (cells.modify (start + count) (change count)) start change count

theorem size_modifyRun (cells : Array α) (start : Nat) (change : Nat → α → α) (count : Nat) :
    (modifyRun cells start change count).size = cells.size := by
  induction count generalizing cells with
  | zero => rfl
  | succ count ih => simp [modifyRun, ih]

def modifyRows (width : Nat) (cells : Array α) (start columns : Nat)
    (change : Nat → Nat → α → α) : Nat → Array α
  | 0 => cells
  | rows + 1 =>
    modifyRows width
      (modifyRun cells (start + rows * width) (fun column => change column rows) columns)
      start columns change rows

theorem size_modifyRows (width : Nat) (cells : Array α) (start columns : Nat)
    (change : Nat → Nat → α → α) (rows : Nat) :
    (modifyRows width cells start columns change rows).size = cells.size := by
  induction rows generalizing cells with
  | zero => rfl
  | succ rows ih => rw [modifyRows, ih, size_modifyRun]

def modifyRect (r : Raster α) (x y columns rows : Nat) (change : Nat → Nat → α → α) : Raster α where
  width := r.width
  height := r.height
  cells := modifyRows r.width r.cells (y * r.width + x) (min columns (r.width - x)) change
    (min rows (r.height - y))
  size_cells := (size_modifyRows ..).trans r.size_cells

theorem get?_eq_some_get [Inhabited α] (r : Raster α) {x y : Nat} (hx : x < r.width)
    (hy : y < r.height) : r.get? x y = some (r.get x y) := by
  have inside : y * r.width + x < r.cells.size := by
    rw [r.size_cells]
    calc y * r.width + x < y * r.width + r.width := by omega
      _ = (y + 1) * r.width := by rw [Nat.succ_mul]
      _ ≤ r.height * r.width := Nat.mul_le_mul_right _ hy
      _ = r.width * r.height := Nat.mul_comm ..
  simp [get?, get, hx, inside]

@[simp] theorem get?_map (f : α → β) (r : Raster α) (x y : Nat) :
    (r.map f).get? x y = (r.get? x y).map f := by
  unfold get? map
  split <;> simp_all

theorem getElem?_modifyRun (cells : Array α) (start : Nat) (change : Nat → α → α) (count i : Nat) :
    (modifyRun cells start change count)[i]? =
      if start ≤ i ∧ i < start + count then cells[i]?.map (change (i - start)) else cells[i]? := by
  induction count generalizing cells with
  | zero => rw [modifyRun, if_neg (by omega)]
  | succ count ih =>
    rw [modifyRun, ih, Array.getElem?_modify]
    by_cases last : start + count = i
    · subst last
      simp
    · rw [if_neg last]
      by_cases within : start ≤ i ∧ i < start + count
      · rw [if_pos within, if_pos (by omega)]
      · rw [if_neg within, if_neg (by omega)]

end Raster

end ImagePipeline
