import ImagePipeline.Image.Arithmetic
import ImagePipeline.Image.Picture

namespace ImagePipeline.Turn

/-- The map that takes (`x`, `y`) to (`xx x + xy y + x₀`, `yx x + yy y + y₀`). -/
structure Affine where
  xx : Float
  xy : Float
  x₀ : Float
  yx : Float
  yy : Float
  y₀ : Float
  deriving Inhabited

namespace Affine

def apply (m : Affine) (x y : Float) : Float × Float :=
  (m.xx * x + m.xy * y + m.x₀, m.yx * x + m.yy * y + m.y₀)

def through (m : Affine) (origin : Float × Float) : Affine :=
  { m with x₀ := origin.1, y₀ := origin.2 }

def eighth : Affine :=
  ⟨0.707106781186547, 0.707106781186548, 0, -0.707106781186548, 0.707106781186547, 0⟩

def about (size : Size) : Affine :=
  let halfWidth := size.width.toFloat / 2
  let halfHeight := size.height.toFloat / 2
  let (x, y) := eighth.apply (-halfWidth) (-halfHeight)
  eighth.through (x + halfWidth, y + halfHeight)

def corners (m : Affine) (size : Size) : List (Float × Float) :=
  let w := size.width.toFloat
  let h := size.height.toFloat
  [m.apply 0 0, m.apply w 0, m.apply w h, m.apply 0 h]

end Affine

def extent (values : List Float) : Nat :=
  let first := values.headD 0
  let greatest := values.foldl (fun a b => if a < b then b else a) first
  let least := values.foldl (fun a b => if b < a then b else a) first
  (Decimal.truncate greatest.ceil - Decimal.truncate least.floor).toNat

def turnedSize (size : Size) : Size :=
  let corners := (Affine.about size).corners size
  ⟨extent (corners.map (·.1)), extent (corners.map (·.2))⟩

def inverseMap (size : Size) : Affine :=
  let m := Affine.about size
  let new := turnedSize size
  let shift (new old : Nat) : Float := -(new.toFloat - old.toFloat) / 2
  m.through (m.apply (shift new.width size.width) (shift new.height size.height))

def cubic (v₁ v₂ v₃ v₄ d : Float) : Float :=
  let p₁ := v₂
  let p₂ := -v₁ + v₃
  let p₃ := 2 * (v₁ - v₂) + v₃ - v₄
  let p₄ := -v₁ + v₂ - v₃ + v₄
  p₁ + d * (p₂ + d * (p₃ + d * p₄))

def toChannel (v : Float) : UInt8 := if v ≤ 0 then 0 else if 255 ≤ v then 255 else v.toUInt8

def clampIndex (i : Int) (n : Nat) : Nat := min i.toNat (n - 1)

def interpolate (r : Raster Rgba) (x y : Float) (channel : Nat) : UInt8 :=
  let x := x - 0.5
  let y := y - 0.5
  let column := Decimal.truncate x.floor
  let row := Decimal.truncate y.floor
  let dx := x - x.floor
  let dy := y - y.floor
  let value (column row : Int) : Float :=
    let p := r.get (clampIndex column r.width) (clampIndex row r.height)
    (Pixel.channel p channel).toNat.toFloat
  let along (row : Int) : Float :=
    cubic (value (column - 1) row) (value column row) (value (column + 1) row)
      (value (column + 2) row) dx
  let v₁ := along (row - 1)
  let next (row : Int) (before : Float) : Float :=
    if 0 ≤ row ∧ row < r.height then along row else before
  let v₂ := next row v₁
  let v₃ := next (row + 1) v₂
  let v₄ := next (row + 2) v₃
  toChannel (cubic v₁ v₂ v₃ v₄ dy)

def sample (r : Raster Rgba) (x y : Float) : Rgba :=
  if 0 ≤ x && x < r.width.toFloat && 0 ≤ y && y < r.height.toFloat then
    Pixel.ofChannels (interpolate r x y)
  else ⟨0, 0, 0, 0⟩

def turned (r : Raster Rgba) : Raster Rgba :=
  let size : Size := ⟨r.width, r.height⟩
  let new := turnedSize size
  let m := inverseMap size
  let source := r.map Rgba.premultiply
  .generate new.width new.height fun x y =>
    let (sx, sy) := m.apply (x.toFloat + 0.5) (y.toFloat + 0.5)
    (sample source sx sy).unmultiply

end ImagePipeline.Turn
