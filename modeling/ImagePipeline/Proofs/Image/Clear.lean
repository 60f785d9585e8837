import ImagePipeline.Image.Turn

namespace ImagePipeline

open Float.Model

/-- A zero, or no number at all: what comes out where nothing but zeros is put in. -/
inductive Void : UnpackedFloat → Prop
  | zero (sign : UnpackedFloat.Sign) : Void (.zero sign)
  | undefined : Void .notANumber

namespace Void

variable {format : Format} {u v : UnpackedFloat}

theorem packed (void : Void u) : Void (Float.Model.pack u).unpack := by
  cases void with
  | zero sign => cases sign <;> exact zero _
  | undefined => exact undefined

theorem neg (void : Void u) : Void u.neg := by
  cases void <;> constructor

theorem add (left : Void u) (right : Void v) : Void (UnpackedFloat.add format u v) := by
  cases left with
  | undefined => exact undefined
  | zero sign =>
    cases right with
    | undefined => exact undefined
    | zero sign' => cases sign <;> cases sign' <;> exact zero _

theorem sub (left : Void u) (right : Void v) : Void (UnpackedFloat.sub format u v) := by
  cases left with
  | undefined => exact undefined
  | zero sign =>
    cases right with
    | undefined => exact undefined
    | zero sign' => cases sign <;> cases sign' <;> exact zero _

theorem mul (u : UnpackedFloat) (right : Void v) : Void (UnpackedFloat.mul format u v) := by
  cases right <;> cases u <;> constructor

theorem roundHalfEven (void : Void u) :
    Decimal.roundHalfEven (.ofModel (.pack u)) = 0 := by
  cases void with
  | zero sign => cases sign <;> decide +kernel
  | undefined => decide +kernel

end Void

theorem le_iff_unpacked (x y : Float) : x ≤ y ↔ x.toModel.unpack.le y.toModel.unpack = true :=
  decide_eq_true_iff

theorem lt_iff_unpacked (x y : Float) : x < y ↔ x.toModel.unpack.lt y.toModel.unpack = true :=
  decide_eq_true_iff

theorem zero_of_nonpositive {x : Float} (faint : x ≤ 0) (least : ¬x < 0) :
    ∃ sign, x.toModel.unpack = .zero sign := by
  rw [le_iff_unpacked] at faint
  rw [lt_iff_unpacked] at least
  generalize x.toModel.unpack = u at faint least
  cases u with
  | infinity sign => cases sign <;> first | exact absurd rfl least | cases faint
  | notANumber => cases faint
  | zero sign => exact ⟨sign, rfl⟩
  | finite sign => cases sign <;> first | exact absurd rfl least | cases faint

def Vanishing (x : Float) : Prop := Void x.toModel.unpack

namespace Vanishing

variable {x y : Float}

theorem neg (left : Vanishing x) : Vanishing (-x) := (Void.neg left).packed

theorem add (left : Vanishing x) (right : Vanishing y) : Vanishing (x + y) :=
  (Void.add left right).packed

theorem sub (left : Vanishing x) (right : Vanishing y) : Vanishing (x - y) :=
  (Void.sub left right).packed

theorem mul (x : Float) (right : Vanishing y) : Vanishing (x * y) := (Void.mul _ right).packed

theorem cubic {v₁ v₂ v₃ v₄ : Float} (d : Float) (first : Vanishing v₁) (second : Vanishing v₂)
    (third : Vanishing v₃) (fourth : Vanishing v₄) : Vanishing (Turn.cubic v₁ v₂ v₃ v₄ d) := by
  unfold Turn.cubic
  have p₂ := first.neg.add third
  have p₃ := ((mul 2 (first.sub second)).add third).sub fourth
  have p₄ := ((first.neg.add second).sub third).add fourth
  exact second.add (mul d (p₂.add (mul d (p₃.add (mul d p₄)))))

theorem toChannel (vanishing : Vanishing x) : Turn.toChannel x = 0 := by
  have value : x.toUInt8 = x.toModel.unpack.toUInt8 := rfl
  unfold Vanishing at vanishing
  simp only [Turn.toChannel, value, le_iff_unpacked]
  generalize x.toModel.unpack = u at vanishing ⊢
  cases vanishing with
  | zero sign => cases sign <;> rfl
  | undefined => rfl

end Vanishing

def Raster.Clear (r : Raster Rgba) : Prop := ∀ p ∈ r.cells, p.alpha = 0

namespace Raster.Clear

variable {r : Raster Rgba}

theorem get (clear : r.Clear) (x y : Nat) : (r.get x y).alpha = 0 := by
  unfold Raster.get
  rw [Array.getD_eq_getD_getElem?]
  cases cell : r.cells[y * r.width + x]? with
  | none => rfl
  | some p => exact clear p (Array.mem_of_getElem? cell)

theorem map {f : Rgba → Rgba} (clear : r.Clear) (keeps : ∀ p : Rgba, (f p).alpha = p.alpha) :
    (r.map f).Clear := by
  intro p member
  obtain ⟨before, stored, rfl⟩ := Array.mem_map.mp member
  rw [keeps, clear before stored]

theorem generate {width height : Nat} {cell : Nat → Nat → Rgba}
    (clear : ∀ x y, (cell x y).alpha = 0) : (Raster.generate width height cell).Clear := by
  intro p member
  obtain ⟨i, rfl⟩ := Array.mem_ofFn.mp member
  exact clear _ _

theorem interpolate (clear : r.Clear) (x y : Float) : Turn.interpolate r x y 3 = 0 := by
  have value (column row : Nat) : Vanishing (Pixel.channel (r.get column row) 3).toNat.toFloat := by
    have nothing : Pixel.channel (r.get column row) 3 = 0 := clear.get column row
    rw [nothing]
    exact Void.zero .positive
  have next {condition : Prop} [Decidable condition] {along before : Float}
      (first : Vanishing along) (second : Vanishing before) :
      Vanishing (if condition then along else before) := by
    split
    · exact first
    · exact second
  have along (row c₁ c₂ c₃ c₄ : Nat) (d : Float) :=
    Vanishing.cubic d (value c₁ row) (value c₂ row) (value c₃ row) (value c₄ row)
  refine Vanishing.toChannel (Vanishing.cubic _ ?_ ?_ ?_ ?_)
  · exact along ..
  · exact next (along ..) (along ..)
  · exact next (along ..) (next (along ..) (along ..))
  · exact next (along ..) (next (along ..) (next (along ..) (along ..)))

theorem sample (clear : r.Clear) (x y : Float) : (Turn.sample r x y).alpha = 0 := by
  unfold Turn.sample
  split
  · exact clear.interpolate x y
  · rfl

theorem turned (clear : r.Clear) : (Turn.turned r).Clear := by
  have source : (r.map Rgba.premultiply).Clear := clear.map fun _ => rfl
  exact generate fun _ _ => source.sample _ _

end Raster.Clear

end ImagePipeline
