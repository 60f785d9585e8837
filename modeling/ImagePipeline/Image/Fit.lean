import ImagePipeline.Image.Arithmetic
import ImagePipeline.Failure

namespace ImagePipeline

inductive Fitted where
  /-- The box is not positive, so the picture is left alone. -/
  | untouched
  | inside
  | scaled (size : Size)
  deriving DecidableEq, Inhabited

namespace Fitted

def size (source : Size) : Fitted → Size
  | scaled size => size
  | _ => source

end Fitted

/-- Fits a picture into a box. A picture without height that is too wide has no proportions. -/
def fit {κ : Type} (ar : Arithmetic κ) (source : Size) (width height : Int) :
    Except Failure Fitted :=
  if width ≤ 0 ∨ height ≤ 0 then .ok .untouched
  else if (source.width : Int) ≤ width ∧ (source.height : Int) ≤ height then .ok .inside
  else if source.height = 0 then .error .divisionByZero
  else
    let aspect := ar.ratio source.width source.height
    if ar.lt (ar.ratio width height) aspect then
      .ok (.scaled ⟨width.toNat, (max (ar.round (ar.div (ar.ofInt width) aspect)) 1).toNat⟩)
    else
      .ok (.scaled ⟨(max (ar.round (ar.mul (ar.ofInt height) aspect)) 1).toNat, height.toNat⟩)

end ImagePipeline
