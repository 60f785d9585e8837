import ImagePipeline.Image.Decode
import ImagePipeline.Image.Formats
import ImagePipeline.Proofs.Image.Clear
import ImagePipeline.Proofs.Image.Fitting
import ImagePipeline.Proofs.Image.Flattening

namespace ImagePipeline

open Float.Model (UnpackedFloat)

namespace Watermark

theorem clampOpacity_of_nonpositive {opacity : Float} (faint : opacity ≤ 0) :
    ∃ sign, (clampOpacity .double opacity).toModel.unpack = .zero sign := by
  have nil : Decimal.ofInt 0 = (0 : Float) := by decide +kernel
  simp only [clampOpacity, Arithmetic.double, decide_eq_true_eq, nil]
  by_cases below : opacity < 0
  · rw [if_pos below, if_neg (by decide +kernel)]
    exact ⟨.positive, rfl⟩
  · obtain ⟨sign, zero⟩ := zero_of_nonpositive faint below
    have small : ¬Decimal.ofInt 1 < opacity := by
      rw [lt_iff_unpacked, zero]
      cases sign <;> decide +kernel
    rw [if_neg below, if_neg small]
    exact ⟨sign, zero⟩

theorem fadedAlpha_of_zero {opacity : Float} {sign : UnpackedFloat.Sign}
    (nothing : opacity.toModel.unpack = .zero sign) (alpha : UInt8) :
    fadedAlpha .double opacity alpha = 0 := by
  have vanishing : Void opacity.toModel.unpack := by
    rw [nothing]
    exact .zero sign
  have product : Decimal.roundHalfEven (Decimal.ofInt alpha.toNat * opacity) = 0 :=
    (vanishing.mul _).roundHalfEven
  show clampChannel (Decimal.roundHalfEven (Decimal.ofInt alpha.toNat * opacity)) = 0
  rw [product]
  rfl

theorem fade_clear {opacity : Float} {sign : UnpackedFloat.Sign}
    (nothing : opacity.toModel.unpack = .zero sign) (r : Raster Rgba) :
    (fade .double opacity r).Clear := by
  have translucent : Arithmetic.double.lt opacity (Arithmetic.double.ofInt 1) = true := by
    refine decide_eq_true ?_
    rw [lt_iff_unpacked, nothing]
    cases sign <;> decide +kernel
  unfold fade
  rw [if_pos translucent]
  intro p member
  obtain ⟨before, -, rfl⟩ := Array.mem_map.mp member
  simp only [fadedAlpha_of_zero nothing, Array.getD_eq_getD_getElem?, Array.getElem?_ofFn]
  split <;> rfl

theorem markSize_ok (mark : Size) (wide : 0 < mark.width) (width : Nat) :
    ∃ size, markSize .double width mark = .ok size := by
  unfold markSize
  rw [if_neg (by omega)]
  exact ⟨_, rfl⟩

theorem scaledMark_clear {mark : Picture} (wide : 0 < mark.width) (width : Nat) {opacity : Float}
    (faint : opacity ≤ 0) :
    ∃ scaled, scaledMark .double width mark opacity = .ok scaled ∧ scaled.Clear := by
  obtain ⟨sign, nothing⟩ := clampOpacity_of_nonpositive faint
  obtain ⟨size, sized⟩ := markSize_ok ⟨mark.width, mark.height⟩ wide width
  have wide_still : 0 < (Picture.ofRgba mark.toRgba).width := by
    show 0 < mark.toRgba.width
    rw [Picture.toRgba_width]
    exact wide
  obtain ⟨scaled, resized, -⟩ := Resample.exists_resize wide_still.ne' size
  refine ⟨fade .double (clampOpacity .double opacity) scaled.toRgba, ?_,
    fade_clear nothing scaled.toRgba⟩
  rw [scaledMark, sized]
  simp only [bind, Except.bind, resized, pure, Except.pure]

theorem seenAt_of_clear {overlay : Raster Rgba} (clear : overlay.Clear) (x y : Int) (px py : Nat)
    (ground : Rgba) : seenAt overlay x y px py ground = ground := by
  unfold seenAt
  split
  · rw [Rgba.laidOver, if_pos (clear.get _ _)]
  · rfl

theorem layClipped_of_clear {overlay : Raster Rgba} (clear : overlay.Clear) (base : Raster Rgba)
    (x y : Int) : layClipped base overlay x y = base := by
  refine Raster.ext_get? (layClipped_width ..) (layClipped_height ..) fun px py => ?_
  rw [get?_layClipped, show seenAt overlay x y px py = id from
    funext (seenAt_of_clear clear x y px py), Option.map_id, id]

theorem layAll_of_clear {overlay : Raster Rgba} (clear : overlay.Clear) (corners : List (Int × Int))
    (base : Raster Rgba) :
    corners.foldl (fun base (x, y) => layClipped base overlay x y) base = base := by
  induction corners with
  | nil => rfl
  | cons corner corners ih =>
    show corners.foldl _ (layClipped base overlay corner.1 corner.2) = base
    rw [layClipped_of_clear clear]
    exact ih

def bare (p : Picture) : Picture :=
  match p.cells with
  | .rgba _ => p
  | _ => .ofRgb (p.toRgba.map Rgba.opaqueColour)

theorem stamp_faint (p : Picture) {mark : Picture} (wide : 0 < mark.width) {opacity : Float}
    (faint : opacity ≤ 0) : stamp .double p mark opacity = .ok (bare p) := by
  obtain ⟨scaled, scales, clear⟩ := scaledMark_clear wide p.width faint
  rw [stamp, scales]
  simp only [bind, Except.bind, layAll_of_clear clear.turned]
  unfold bare
  rcases p with ⟨cells, note⟩
  cases cells <;> rfl

end Watermark

def Picture.Coloured (p : Picture) : Prop :=
  (∃ raster, p.cells = .rgb raster) ∨ ∃ raster, p.cells = .rgba raster

/-- The picture has no alpha channel, but notes a colour to be seen through that occurs in it and is
not white. -/
def Picture.SeenThrough (p : Picture) : Prop :=
  ∃ raster note, p.cells = .rgb raster ∧ p.transparency = some note ∧ note.key ∈ raster.cells ∧
    note.key ≠ ⟨255, 255, 255⟩

namespace Encode

theorem flatten_forgetful_iff {p : Picture} (coloured : p.Coloured) :
    flatten { p with transparency := none } = flatten p ↔ ¬p.SeenThrough := by
  obtain ⟨cells, note⟩ := p
  obtain ⟨raster, rfl⟩ | ⟨raster, rfl⟩ := coloured
  · cases note with
    | none =>
      refine iff_of_true rfl ?_
      rintro ⟨_, _, _, ⟨⟩, _⟩
    | some note =>
      rw [flatten_rgb, flatten_keyed, eq_comm, Raster.map_eq_self_iff]
      constructor
      · rintro same ⟨_, _, ⟨⟩, ⟨⟩, member, other⟩
        have white := same _ member
        rw [if_pos rfl] at white
        exact other white.symm
      · intro unseen c member
        split
        · rename_i isKey
          subst isKey
          by_cases white : note.key = ⟨255, 255, 255⟩
          · exact white.symm
          · exact absurd ⟨raster, note, rfl, rfl, member, white⟩ unseen
        · rfl
  · refine iff_of_true rfl ?_
    rintro ⟨_, _, ⟨⟩, _⟩

end Encode

namespace Watermark

theorem flatten_bare {p : Picture} (coloured : p.Coloured) :
    Encode.flatten (bare p) = Encode.flatten { p with transparency := none } := by
  obtain ⟨cells, note⟩ := p
  obtain ⟨raster, rfl⟩ | ⟨raster, rfl⟩ := coloured
  · show Encode.flatten (.ofRgb ((Picture.toRgba ⟨.rgb raster, note⟩).map Rgba.opaqueColour)) = _
    rw [Picture.map_opaqueColour_toRgba]
    rfl
  · rfl

/-- Stamping a mark without opacity makes a picture forget its note on transparency, so what is written
stays the same exactly if nothing was seen through. -/
theorem stamp_unseen_iff {p mark : Picture} {opacity : Float} (coloured : p.Coloured)
    (wide : 0 < mark.width) (faint : opacity ≤ 0) :
    ∃ stamped, stamp .double p mark opacity = .ok stamped ∧
      Encode.flatten stamped = Encode.flatten { p with transparency := none } ∧
      (Encode.flatten stamped = Encode.flatten p ↔ ¬p.SeenThrough) := by
  refine ⟨bare p, stamp_faint p wide faint, flatten_bare coloured, ?_⟩
  rw [flatten_bare coloured]
  exact Encode.flatten_forgetful_iff coloured

def keyedDot : Picture := ⟨.rgb (.uniform 1 1 ⟨255, 0, 0⟩), some (.colour 255 0 0)⟩

def blackDot : Picture := .ofRgba (.uniform 1 1 ⟨0, 0, 0, 255⟩)

theorem keyedDot_seenThrough : keyedDot.SeenThrough :=
  ⟨_, _, rfl, rfl, by decide +kernel, by decide +kernel⟩

theorem keyedDot_forgetful :
    keyedDot.Coloured ∧ 0 < blackDot.width ∧ (0 : Float) ≤ 0 ∧
      ∃ stamped, stamp .double keyedDot blackDot 0 = .ok stamped ∧
        Encode.flatten stamped = Encode.flatten { keyedDot with transparency := none } ∧
        Encode.flatten stamped ≠ Encode.flatten keyedDot := by
  have coloured : keyedDot.Coloured := .inl ⟨_, rfl⟩
  have wide : 0 < blackDot.width := by decide +kernel
  have faint : (0 : Float) ≤ 0 := by decide +kernel
  obtain ⟨stamped, done, forgetful, same_iff⟩ := stamp_unseen_iff coloured wide faint
  exact ⟨coloured, wide, faint, stamped, done, forgetful,
    fun same => same_iff.mp same keyedDot_seenThrough⟩

def keyedDotFile : ByteArray :=
  ⟨#[137, 80, 78, 71, 13, 10, 26, 10, 0, 0, 0, 13, 73, 72, 68, 82, 0, 0, 0, 1, 0, 0, 0, 1, 8, 2, 0,
    0, 0, 144, 119, 83, 222, 0, 0, 0, 6, 116, 82, 78, 83, 0, 255, 0, 0, 0, 0, 164, 194, 192, 29, 0,
    0, 0, 12, 73, 68, 65, 84, 120, 156, 99, 248, 207, 192, 0, 0, 3, 1, 1, 0, 201, 254, 146, 239, 0,
    0, 0, 0, 73, 69, 78, 68, 174, 66, 96, 130]⟩

theorem keyedDotFile_changes : ∃ p stamped, Decode.decode .basic keyedDotFile = .ok p ∧
    stamp .double p blackDot 0 = .ok stamped ∧
    (Encode.flatten p).cells = #[⟨255, 255, 255⟩] ∧
    (Encode.flatten stamped).cells = #[⟨255, 0, 0⟩] := by
  have seen : (match Decode.decode .basic keyedDotFile with
      | .ok p => decide ((Encode.flatten p).cells = #[⟨255, 255, 255⟩] ∧
          (Encode.flatten (bare p)).cells = #[⟨255, 0, 0⟩])
      | .error _ => false) = true := by decide +kernel
  cases decoded : Decode.decode .basic keyedDotFile with
  | error failure => simp [decoded] at seen
  | ok p =>
    simp only [decoded, decide_eq_true_eq] at seen
    exact ⟨p, bare p, rfl, stamp_faint p (by decide +kernel) (by decide +kernel), seen⟩

end Watermark

end ImagePipeline
