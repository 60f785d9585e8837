import ImagePipeline.Processor

namespace ImagePipeline

variable {codec : Codec}

namespace Decode

/-- Laying out the picture, or bringing it to colours, fails in a way that decoding does not report. -/
def Escapes (codec : Codec) (bytes : ByteArray) : Prop :=
  ∃ cause, cause.isApp = false ∧ (shown codec bytes = .error cause ∧ isExpected cause = false ∨
    ∃ image, shown codec bytes = .ok image ∧ (codec.size image).isEmpty = false ∧
      normalized codec image = .error cause)

theorem escapes_iff {bytes : ByteArray} :
    Escapes codec bytes ↔ ∃ cause, decode codec bytes = .error cause ∧ cause.isApp = false := by
  unfold Escapes decode
  cases shown codec bytes with
  | error fault =>
      constructor
      · rintro ⟨cause, passes, ⟨⟨⟩, unexpected⟩ | ⟨image, ⟨⟩, -⟩⟩
        exact ⟨_, congrArg Except.error (Failure.reported_of_unexpected unexpected), passes⟩
      · rintro ⟨cause, ⟨⟩, passes⟩
        obtain ⟨passes, unexpected⟩ := Failure.isApp_reported.mp passes
        exact ⟨fault, passes, .inl ⟨rfl, unexpected⟩⟩
  | ok image =>
      change _ ↔ ∃ cause, (if (codec.size image).isEmpty = true then _ else normalized codec image) = _ ∧ _
      split
      · next empty =>
          constructor
          · rintro ⟨cause, -, ⟨⟨⟩, -⟩ | ⟨_, ⟨⟩, full, -⟩⟩
            exact absurd (full.symm.trans empty) Bool.false_ne_true
          · rintro ⟨cause, ⟨⟩, ⟨⟩⟩
      · next full =>
          have full := Bool.eq_false_iff.mpr full
          constructor
          · rintro ⟨cause, passes, ⟨⟨⟩, -⟩ | ⟨_, ⟨⟩, -, failed⟩⟩
            exact ⟨cause, failed, passes⟩
          · rintro ⟨cause, failed, passes⟩
            exact ⟨cause, passes, .inr ⟨image, rfl, full, failed⟩⟩

end Decode

namespace Encode

def Escapes (codec : Codec) (p : Picture) (quality : Int) : Prop :=
  p.isEmpty = false ∧ ∃ cause, codec.write (flatten p) quality = .error cause ∧
    cause.isApp = false ∧ isExpected cause = false

theorem escapes_iff {p : Picture} {quality : Int} :
    Escapes codec p quality ↔ ∃ cause, encode codec p quality = .error cause ∧ cause.isApp = false := by
  unfold Escapes encode
  cases p.isEmpty with
  | true =>
      constructor
      · rintro ⟨⟨⟩, -⟩
      · rintro ⟨cause, ⟨⟩, ⟨⟩⟩
  | false =>
      cases codec.write (flatten p) quality with
      | error fault =>
          change _ ↔ ∃ cause, Except.error (report fault) = Except.error cause ∧ _
          constructor
          · rintro ⟨-, cause, ⟨⟩, unreported⟩
            exact ⟨_, rfl, Failure.isApp_reported.mpr unreported⟩
          · rintro ⟨cause, ⟨⟩, passes⟩
            exact ⟨rfl, fault, rfl, Failure.isApp_reported.mp passes⟩
      | ok written =>
          change _ ↔ ∃ cause, checked written = .error cause ∧ _
          unfold checked
          constructor
          · rintro ⟨-, cause, ⟨⟩, -⟩
          · split
            · rintro ⟨cause, ⟨⟩, ⟨⟩⟩
            · rintro ⟨cause, ⟨⟩, -⟩

end Encode

end ImagePipeline
