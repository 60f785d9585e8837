import ImagePipeline.Image.Encode
import ImagePipeline.Image.Formats
import ImagePipeline.Proofs.Image.Compositing
import Mathlib.Data.Rat.Floor
import Mathlib.Tactic.Linarith
import Mathlib.Tactic.NormNum
import Mathlib.Tactic.Ring

namespace ImagePipeline

def Nearest (x : ℚ) (n : ℤ) : Prop := ∀ k : ℤ, k ≠ n → |n - x| < |k - x|

theorem nearest_of_close {x : ℚ} {n : ℤ} (close : |n - x| < 1 / 2) : Nearest x n := by
  intro k other
  have apart : (1 : ℚ) ≤ |(n : ℚ) - k| := by
    have whole : 1 ≤ |n - k| := Int.one_le_abs (sub_ne_zero.mpr other.symm)
    exact_mod_cast whole
  have detour := abs_sub_le (n : ℚ) x k
  rw [abs_sub_comm x] at detour
  linarith

theorem divideBy255_bounds {t : ℕ} (small : t ≤ 255 * 255) :
    2 * t < 2 * (255 * divideBy255 t) + 255 ∧ 2 * (255 * divideBy255 t) < 2 * t + 255 := by
  unfold divideBy255
  omega

def overWhiteParts (c a : UInt8) : ℕ := 255 * (255 - a.toNat) + c.toNat * a.toNat

def seenOverWhite (c a : UInt8) : ℚ := (255 * (255 - a.toNat) + c.toNat * a.toNat) / 255

theorem overWhiteParts_le (c a : UInt8) : overWhiteParts c a ≤ 255 * 255 := by
  have colour := c.toNat_lt
  have opacity := a.toNat_lt
  have part : c.toNat * a.toNat ≤ 255 * a.toNat := Nat.mul_le_mul_right _ (by omega)
  unfold overWhiteParts
  omega

theorem le_overWhiteParts (c a : UInt8) : 255 * c.toNat ≤ overWhiteParts c a := by
  have colour := c.toNat_lt
  have opacity := a.toNat_lt
  have ground : c.toNat * (255 - a.toNat) ≤ 255 * (255 - a.toNat) := Nat.mul_le_mul_right _ (by omega)
  have whole : c.toNat * (255 - a.toNat) + c.toNat * a.toNat = 255 * c.toNat := by
    rw [← Nat.mul_add, Nat.sub_add_cancel (by omega), Nat.mul_comm]
  unfold overWhiteParts
  omega

theorem seenOverWhite_eq (c a : UInt8) : seenOverWhite c a = overWhiteParts c a / 255 := by
  have opacity := a.toNat_lt
  unfold seenOverWhite overWhiteParts
  rw [Nat.cast_add, Nat.cast_mul, Nat.cast_sub (by omega)]
  simp

namespace Rgba

theorem channelOverWhite_toNat (c a : UInt8) :
    (channelOverWhite c a).toNat = divideBy255 (overWhiteParts c a) := by
  have range := overWhiteParts_le c a
  have bounds := divideBy255_bounds range
  exact Nat.mod_eq_of_lt (show divideBy255 (overWhiteParts c a) < 256 by omega)

theorem channelOverWhite_nearest (c a : UInt8) :
    Nearest (seenOverWhite c a) (channelOverWhite c a).toNat := by
  obtain ⟨below, above⟩ := divideBy255_bounds (overWhiteParts_le c a)
  apply nearest_of_close
  rw [seenOverWhite_eq, channelOverWhite_toNat, abs_lt]
  generalize divideBy255 (overWhiteParts c a) = d at below above
  generalize overWhiteParts c a = t at below above
  have below : (2 * t : ℚ) < 2 * (255 * d) + 255 := by exact_mod_cast below
  have above : (2 * (255 * d) : ℚ) < 2 * t + 255 := by exact_mod_cast above
  push_cast
  constructor <;> linarith

theorem le_channelOverWhite (c a : UInt8) : c ≤ channelOverWhite c a := by
  have bounds := divideBy255_bounds (overWhiteParts_le c a)
  have lighter := le_overWhiteParts c a
  rw [UInt8.le_iff_toNat_le, channelOverWhite_toNat]
  omega

theorem channelOverWhite_solid (c : UInt8) : channelOverWhite c 255 = c := by
  have bounds := divideBy255_bounds (overWhiteParts_le c 255)
  have parts : overWhiteParts c 255 = 255 * c.toNat := by
    rw [Nat.mul_comm]
    exact Nat.zero_add _
  rw [← UInt8.toNat_inj, channelOverWhite_toNat]
  omega

theorem channelOverWhite_clear (c : UInt8) : channelOverWhite c 0 = 255 := by
  have bounds := divideBy255_bounds (overWhiteParts_le c 0)
  have parts : overWhiteParts c 0 = 255 * 255 := rfl
  rw [← UInt8.toNat_inj, channelOverWhite_toNat]
  change _ = 255
  omega

end Rgba

/-- The colour is the pixel on a white ground, as exactly as integers can say. -/
structure Rgba.SeenAs (pixel : Rgba) (colour : Rgb) : Prop where
  red : Nearest (seenOverWhite pixel.red pixel.alpha) colour.red.toNat
  green : Nearest (seenOverWhite pixel.green pixel.alpha) colour.green.toNat
  blue : Nearest (seenOverWhite pixel.blue pixel.alpha) colour.blue.toNat

theorem Rgba.seenAs_overWhite (pixel : Rgba) : pixel.SeenAs pixel.overWhite :=
  ⟨channelOverWhite_nearest _ _, channelOverWhite_nearest _ _, channelOverWhite_nearest _ _⟩

theorem Rgb.overWhite_solid (c : Rgb) : (c.withAlpha 255).overWhite = c := by
  simp [Rgba.overWhite, Rgb.withAlpha, Rgba.channelOverWhite_solid]

theorem Rgb.overWhite_clear (c : Rgb) : (c.withAlpha 0).overWhite = ⟨255, 255, 255⟩ := by
  simp [Rgba.overWhite, Rgb.withAlpha, Rgba.channelOverWhite_clear]

theorem Rgba.overWhite_of_solid {pixel : Rgba} (full : pixel.alpha = 255) :
    pixel.overWhite = pixel.opaqueColour := by
  rw [← pixel.opaqueColour.overWhite_solid, ← full]
  rfl

theorem Rgba.overWhite_of_clear {pixel : Rgba} (clear : pixel.alpha = 0) :
    pixel.overWhite = ⟨255, 255, 255⟩ := by
  rw [← pixel.opaqueColour.overWhite_clear, ← clear]
  rfl

theorem overWhite_keyed (key c : Rgb) :
    (Picture.keyed key c).overWhite = if c = key then ⟨255, 255, 255⟩ else c := by
  unfold Picture.keyed
  split
  · exact c.overWhite_clear
  · exact c.overWhite_solid

namespace Raster

variable {α β γ : Type}

theorem map_congr {f g : α → β} {r : Raster α} (same : ∀ c ∈ r.cells, f c = g c) : r.map f = r.map g :=
  ext_cells rfl rfl (Array.map_congr_left same)

theorem map_eq_self_iff {f : α → α} {r : Raster α} : r.map f = r ↔ ∀ c ∈ r.cells, f c = c := by
  constructor
  · intro same c member
    obtain ⟨i, inside, rfl⟩ := Array.getElem_of_mem member
    have cells : r.cells.map f = r.cells := congrArg Raster.cells same
    have cell : (r.cells.map f)[i]? = r.cells[i]? := by rw [cells]
    simpa [inside] using cell
  · intro kept
    refine ext_cells rfl rfl ?_
    show r.cells.map f = r.cells
    rw [Array.map_congr_left kept, Array.map_id']

theorem map_map (f : α → β) (g : β → γ) (r : Raster α) :
    (r.map f).map g = r.map fun c => g (f c) :=
  ext_cells rfl rfl (by simp [map])

theorem mem_of_get? {r : Raster α} {x y : Nat} {c : α} (there : r.get? x y = some c) : c ∈ r.cells := by
  unfold get? at there
  split at there
  · exact Array.mem_of_getElem? there
  · cases there

end Raster

namespace Picture

theorem map_opaqueColour_toRgba (p : Picture) : p.toRgba.map Rgba.opaqueColour = p.toRgb := by
  have plain (r : Raster Rgb) : (r.map fun c => c.withAlpha 255).map Rgba.opaqueColour = r := by
    rw [Raster.map_map, Raster.map_eq_self_iff]
    exact fun _ _ => rfl
  obtain ⟨cells, note⟩ := p
  cases note with
  | none =>
      cases cells with
      | rgba r => rfl
      | grayAlpha r => exact Raster.map_map ..
      | _ => exact plain _
  | some note =>
      cases cells with
      | rgba r => rfl
      | grayAlpha r => exact Raster.map_map ..
      | gray r => exact Raster.map_map ..
      | indexed r palette => exact Raster.map_map ..
      | rgb r => exact (Raster.map_map ..).trans (Raster.map_eq_self_iff.mpr fun _ _ => rfl)
      | _ => exact plain _

theorem alpha_of_not_hasAlpha {p : Picture} (plain : p.hasAlpha = false) :
    ∀ pixel ∈ p.toRgba.cells, pixel.alpha = 255 := by
  obtain ⟨cells, note⟩ := p
  cases note with
  | some note => simp [hasAlpha] at plain
  | none =>
      have full (r : Raster Rgb) : ∀ pixel ∈ (r.map fun c => c.withAlpha 255).cells, pixel.alpha = 255 := by
        simp [Raster.map, Rgb.withAlpha]
      cases cells with
      | rgba r => cases plain
      | grayAlpha r => cases plain
      | _ => exact full _

end Picture

namespace Encode

theorem flatten_rgb (raster : Raster Rgb) : flatten ⟨.rgb raster, none⟩ = raster := rfl

theorem flatten_eq (p : Picture) : flatten p = p.toRgba.map Rgba.overWhite := by
  unfold flatten
  split
  · rfl
  · next plain =>
      rw [← p.map_opaqueColour_toRgba]
      exact Raster.map_congr fun pixel member =>
        (Rgba.overWhite_of_solid (Picture.alpha_of_not_hasAlpha (by simpa using plain) pixel member)).symm

theorem flatten_of_solid {p : Picture} (full : ∀ pixel ∈ p.toRgba.cells, pixel.alpha = 255) :
    flatten p = p.toRgb := by
  rw [flatten_eq, ← p.map_opaqueColour_toRgba]
  exact Raster.map_congr fun pixel member => Rgba.overWhite_of_solid (full pixel member)

theorem flatten_keyed (raster : Raster Rgb) (note : Transparency) :
    flatten ⟨.rgb raster, some note⟩ =
      raster.map fun c => if c = note.key then ⟨255, 255, 255⟩ else c := by
  rw [flatten_eq]
  show (raster.map (Picture.keyed note.key)).map Rgba.overWhite = _
  simp only [Raster.map_map, overWhite_keyed]

/-- What the writer is given has the picture's size, and each of its channels is the nearest integer to
what is seen on a white ground. So clear pixels are white, nothing is darker than its source, and where
all is opaque the opacities make no difference. -/
theorem flattened_exactly (codec : Codec) {p : Picture} (filled : p.isEmpty = false) (quality : ℤ) :
    encode codec p quality = ((codec.write (flatten p) quality).mapError report).bind checked ∧
    (flatten p).width = p.width ∧ (flatten p).height = p.height ∧
    (∀ x y, x < p.width → y < p.height → ∃ pixel colour,
      p.toRgba.get? x y = some pixel ∧ (flatten p).get? x y = some colour ∧
      (p.hasAlpha = false → pixel.alpha = 255) ∧ pixel.SeenAs colour ∧
      (pixel.alpha = 0 → colour = ⟨255, 255, 255⟩) ∧
      pixel.red ≤ colour.red ∧ pixel.green ≤ colour.green ∧ pixel.blue ≤ colour.blue) ∧
    ((∀ pixel ∈ p.toRgba.cells, pixel.alpha = 255) →
      flatten p = flatten (.ofRgb p.toRgb) ∧
        flatten (.ofRgba p.toRgba) = flatten (.ofRgb p.toRgb)) := by
  refine ⟨?_, ?_, ?_, fun x y left above => ?_, fun full => ?_⟩
  · simp [encode, filled]
  · rw [flatten_eq]
    exact p.toRgba_width
  · rw [flatten_eq]
    exact p.toRgba_height
  · have there := p.toRgba.get?_eq_some_get (x := x) (y := y) (by simpa using left) (by simpa using above)
    refine ⟨_, _, there, by rw [flatten_eq, Raster.get?_map, there, Option.map_some], fun plain => ?_,
      Rgba.seenAs_overWhite _, Rgba.overWhite_of_clear, ?_⟩
    · exact Picture.alpha_of_not_hasAlpha plain _ (Raster.mem_of_get? there)
    · exact ⟨Rgba.le_channelOverWhite .., Rgba.le_channelOverWhite .., Rgba.le_channelOverWhite ..⟩
  · have plain : flatten (.ofRgb p.toRgb) = p.toRgb := flatten_rgb p.toRgb
    have branch : flatten (.ofRgba p.toRgba) = flatten p := (flatten_eq p).symm
    rw [branch, plain]
    exact ⟨flatten_of_solid full, flatten_of_solid full⟩

def veil : Picture :=
  ⟨.indexed (.generate 2 1 fun x _ => x.toUInt8) #[⟨10, 20, 30⟩, ⟨200, 100, 0⟩],
    some (.table #[128, 0])⟩

theorem veil_flattened :
    veil.isEmpty = false ∧ (flatten veil).cells = #[⟨132, 137, 142⟩, ⟨255, 255, 255⟩] ∧
    encode .basic veil 90 = ((Jpeg.write (flatten veil) 90).mapError report).bind checked ∧
    ∃ pixel colour, veil.toRgba.get? 0 0 = some pixel ∧ (flatten veil).get? 0 0 = some colour ∧
      pixel.SeenAs colour := by
  have filled : veil.isEmpty = false := rfl
  obtain ⟨written, -, -, cell, -⟩ := flattened_exactly .basic filled 90
  obtain ⟨pixel, colour, before, after, -, seen, -⟩ := cell 0 0 (by decide) (by decide)
  exact ⟨filled, by decide +kernel, written, pixel, colour, before, after, seen⟩

end Encode

end ImagePipeline
