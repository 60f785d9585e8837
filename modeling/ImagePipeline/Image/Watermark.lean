import ImagePipeline.Image.Resample
import ImagePipeline.Image.Turn

namespace ImagePipeline.Watermark

variable {κ : Type}

def markWidth (width : Nat) : Nat := max (width / 4) 10

def markSize (ar : Arithmetic κ) (width : Nat) (mark : Size) : Except Failure Size :=
  if mark.width = 0 then .error .divisionByZero
  else
    let newWidth := markWidth width
    let height := ar.round (ar.ratio (mark.height * newWidth : Nat) mark.width)
    .ok ⟨newWidth, (max height 1).toNat⟩

def larger (ar : Arithmetic κ) (a b : κ) : κ := if ar.lt a b then b else a

/-- The distance between two neighbouring marks, for a turned mark of the given width. -/
def step (ar : Arithmetic κ) (markWidth : Nat) : κ :=
  larger ar (ar.add (ar.ratio markWidth 2) (ar.ofInt 20)) (ar.ofInt 10)

def steps (ar : Arithmetic κ) (base mark : Size) : Int :=
  let diagonal :=
    ar.add (ar.hypot (ar.ofInt base.width) (ar.ofInt base.height)) (ar.ofInt mark.width)
  ar.truncate (ar.div diagonal (step ar mark.width)) + 2

def position (ar : Arithmetic κ) (base mark : Nat) (way : κ) : Int :=
  ar.round (ar.add (ar.ofInt (-(mark : Int))) (ar.mul way (ar.ofInt (base + mark : Nat))))

def positions (ar : Arithmetic κ) (base mark : Size) : List (Int × Int) :=
  let count := steps ar base mark
  (List.range (count + 1).toNat).map fun (i : Nat) =>
    let way := ar.ratio i count
    (position ar base.width mark.width way, position ar base.height mark.height way)

/-- The part of an overlay that lies on the base: from (`srcX`, `srcY`) of the overlay on, at
(`dstX`, `dstY`) of the base. -/
structure Overlap where
  dstX : Nat
  dstY : Nat
  srcX : Nat
  srcY : Nat
  deriving DecidableEq, Inhabited

def overlap? (base overlay : Size) (x y : Int) : Option Overlap :=
  let o : Overlap := ⟨x.toNat, y.toNat, (-x).toNat, (-y).toNat⟩
  if overlay.width ≤ o.srcX ∨ overlay.height ≤ o.srcY then none
  else if base.width ≤ o.dstX ∨ base.height ≤ o.dstY then none
  else some o

structure Plan where
  mark : Size
  corners : List (Int × Int)
  deriving Inhabited

namespace Plan

def overlaps (plan : Plan) (base : Size) : List Overlap :=
  plan.corners.filterMap fun (x, y) => overlap? base plan.mark x y

end Plan

def plan (ar : Arithmetic κ) (base mark : Size) : Plan := ⟨mark, positions ar base mark⟩

def layOver (base overlay : Raster Rgba) (o : Overlap) : Raster Rgba :=
  base.modifyRect o.dstX o.dstY (overlay.width - o.srcX) (overlay.height - o.srcY)
    fun x y ground => (overlay.get (o.srcX + x) (o.srcY + y)).laidOver ground

def layClipped (base overlay : Raster Rgba) (x y : Int) : Raster Rgba :=
  match overlap? ⟨base.width, base.height⟩ ⟨overlay.width, overlay.height⟩ x y with
  | some o => layOver base overlay o
  | none => base

def clampOpacity (ar : Arithmetic κ) (opacity : κ) : κ :=
  let atLeastZero := if ar.lt opacity (ar.ofInt 0) then ar.ofInt 0 else opacity
  if ar.lt (ar.ofInt 1) atLeastZero then ar.ofInt 1 else atLeastZero

def fadedAlpha (ar : Arithmetic κ) (opacity : κ) (alpha : UInt8) : UInt8 :=
  clampChannel (ar.round (ar.mul (ar.ofInt alpha.toNat) opacity))

def fade (ar : Arithmetic κ) (opacity : κ) (r : Raster Rgba) : Raster Rgba :=
  if ar.lt opacity (ar.ofInt 1) then
    let table := Array.ofFn fun a : Fin 256 => fadedAlpha ar opacity a.val.toUInt8
    r.map fun p => { p with alpha := table.getD p.alpha.toNat 0 }
  else r

def scaledMark (ar : Arithmetic κ) (width : Nat) (mark : Picture) (opacity : κ) :
    Except Failure (Raster Rgba) := do
  let size ← markSize ar width ⟨mark.width, mark.height⟩
  let scaled ← Resample.resize (.ofRgba mark.toRgba) size
  return fade ar (clampOpacity ar opacity) scaled.toRgba

/-- Stamps a mark all over a picture. A picture with opacities keeps them, any other becomes one of
plain colours. -/
def stamp (ar : Arithmetic κ) (p mark : Picture) (opacity : κ) : Except Failure Picture := do
  let turned := Turn.turned (← scaledMark ar p.width mark opacity)
  let corners := (plan ar ⟨p.width, p.height⟩ ⟨turned.width, turned.height⟩).corners
  let stamped := corners.foldl (fun base (x, y) => layClipped base turned x y) p.toRgba
  match p.cells with
  | .rgba _ => return { p with cells := .rgba stamped }
  | _ => return .ofRgb (stamped.map Rgba.opaqueColour)

end ImagePipeline.Watermark
