import ImagePipeline.Decimal.Binary
import ImagePipeline.Image.Raster

namespace ImagePipeline

structure Arithmetic (κ : Type) where
  ofInt : Int → κ
  add : κ → κ → κ
  mul : κ → κ → κ
  div : κ → κ → κ
  lt : κ → κ → Bool
  hypot : κ → κ → κ
  round : κ → Int
  truncate : κ → Int

namespace Arithmetic

def double : Arithmetic Float where
  ofInt := Decimal.ofInt
  add := (· + ·)
  mul := (· * ·)
  div := (· / ·)
  lt := fun a b => decide (a < b)
  hypot := fun a b => (a * a + b * b).sqrt
  round := Decimal.roundHalfEven
  truncate := Decimal.truncate

variable {κ : Type}

def ratio (ar : Arithmetic κ) (a b : Int) : κ := ar.div (ar.ofInt a) (ar.ofInt b)

end Arithmetic

end ImagePipeline
