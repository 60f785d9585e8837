import ImagePipeline.Image.Codec

namespace ImagePipeline.Encode

/-- The plain colours of a picture; one with opacities, or with a note on transparency, is laid on a
white ground. -/
def flatten (p : Picture) : Raster Rgb :=
  if p.hasAlpha then p.toRgba.map Rgba.overWhite else p.toRgb

def isExpected (cause : Failure) : Bool := cause.isDevice || cause.isValue

def report : Failure → Failure := .reported .processingFailed "JPEG 인코딩 실패" isExpected

def checked (bytes : ByteArray) : Except Failure ByteArray :=
  if bytes.isEmpty then .error (.app .processingFailed (some "인코딩 결과가 비어 있습니다")) else .ok bytes

def encode (codec : Codec) (p : Picture) (quality : Int) : Except Failure ByteArray :=
  if p.isEmpty then .error (.app .processingFailed (some "처리 결과 이미지의 크기가 0입니다"))
  else ((codec.write (flatten p) quality).mapError report).bind checked

def outputExtension : String := ".jpg"

theorem checked_eq_ok {bytes checked' : ByteArray} :
    checked bytes = .ok checked' ↔ bytes = checked' ∧ bytes.isEmpty = false := by
  unfold checked
  cases empty : bytes.isEmpty with
  | true => exact ⟨nofun, nofun⟩
  | false => exact ⟨fun same => ⟨Except.ok.inj same, rfl⟩, fun same => congrArg Except.ok same.1⟩

theorem encode_eq_ok {codec : Codec} {p : Picture} {quality : Int} {bytes : ByteArray} :
    encode codec p quality = .ok bytes ↔ p.isEmpty = false ∧
      codec.write (flatten p) quality = .ok bytes ∧ bytes.isEmpty = false := by
  unfold encode
  cases p.isEmpty with
  | true => exact ⟨nofun, nofun⟩
  | false =>
      cases codec.write (flatten p) quality with
      | error cause => exact ⟨nofun, nofun⟩
      | ok written =>
          change checked written = .ok bytes ↔ _
          rw [checked_eq_ok]
          constructor
          · rintro ⟨rfl, full⟩
            exact ⟨rfl, rfl, full⟩
          · rintro ⟨-, ⟨⟩, full⟩
            exact ⟨rfl, full⟩

end ImagePipeline.Encode
