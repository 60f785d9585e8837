import ImagePipeline.Image.Formats
import ImagePipeline.Processor

namespace ImagePipeline

theorem bind_eq_ok {ε α β : Type} {first : Except ε α} {next : α → Except ε β} {value : β}
    (done : (first >>= next) = .ok value) : ∃ middle, first = .ok middle ∧ next middle = .ok value := by
  cases first with
  | error fault => cases done
  | ok middle => exact ⟨middle, rfl, done⟩

theorem check_eq_ok {ε β : Type} {fails : Prop} [Decidable fails] {fault : ε}
    {next : PUnit → Except ε β} {value : β}
    (done : (if fails then (throw fault : Except ε PUnit) >>= next else next ⟨⟩) = .ok value) :
    ¬ fails ∧ next ⟨⟩ = .ok value := by
  split at done
  · cases done
  · next passed => exact ⟨passed, done⟩

theorem Picture.nonempty_of_size {picture : Picture} {size : Size} (shown : size.isEmpty = false)
    (wide : picture.width = size.width) (high : picture.height = size.height) :
    picture.isEmpty = false := by
  rw [isEmpty, wide, high]
  exact shown

namespace Bmp

variable {bytes : ByteArray}

theorem nonempty_of_readHeader {header : Header} (read : readHeader bytes = .ok header) :
    header.size.isEmpty = false := by
  obtain ⟨offset, -, read⟩ := bind_eq_ok read
  obtain ⟨headerSize, -, read⟩ := bind_eq_ok read
  obtain ⟨-, read⟩ := check_eq_ok read
  obtain ⟨-, read⟩ := check_eq_ok read
  obtain ⟨width, -, read⟩ := bind_eq_ok read
  obtain ⟨height, -, read⟩ := bind_eq_ok read
  obtain ⟨bits, -, read⟩ := bind_eq_ok read
  obtain ⟨compression, -, read⟩ := bind_eq_ok read
  obtain ⟨given, -, read⟩ := bind_eq_ok read
  obtain ⟨-, read⟩ := check_eq_ok read
  obtain ⟨-, read⟩ := check_eq_ok read
  obtain ⟨shown, read⟩ := check_eq_ok read
  obtain ⟨-, read⟩ := check_eq_ok read
  cases read
  exact Bool.eq_false_iff.mpr shown

theorem nonempty_of_read {picture : Picture} (read : Bmp.read bytes = .ok picture) :
    picture.isEmpty = false := by
  obtain ⟨header, headed, read⟩ := bind_eq_ok read
  obtain ⟨-, read⟩ := check_eq_ok read
  have shown := nonempty_of_readHeader headed
  -- the cells are made for the size of the header, whether they are numbers or colours
  split at read
  · cases read
    refine Picture.nonempty_of_size shown ?_ ?_ <;> (simp only [Picture.width, Picture.height]; split <;> rfl)
  · cases read
    exact Picture.nonempty_of_size shown rfl rfl

end Bmp

namespace Gif

theorem nonempty_of_read {bytes : ByteArray} {picture : Picture} (read : Gif.read bytes = .ok picture) :
    picture.isEmpty = false := by
  unfold Gif.read at read
  split at read
  · cases read
  · obtain ⟨-, read⟩ := check_eq_ok read
    obtain ⟨found, -, read⟩ := bind_eq_ok read
    obtain ⟨shown, read⟩ := check_eq_ok read
    cases read
    exact Bool.eq_false_iff.mpr shown

end Gif

namespace Jpeg

variable {bytes : ByteArray}

theorem nonempty_of_readHeader {header : Header} {start : Nat}
    (read : readHeader bytes = .ok (header, start)) : header.size.isEmpty = false := by
  obtain ⟨⟨found, after⟩, -, read⟩ := bind_eq_ok read
  obtain ⟨shown, read⟩ := check_eq_ok read
  obtain ⟨-, read⟩ := check_eq_ok read
  cases read
  exact Bool.eq_false_iff.mpr shown

theorem nonempty_of_read {content : Content} (read : Jpeg.read bytes = .ok content) :
    content.picture.isEmpty = false := by
  obtain ⟨⟨header, start⟩, headed, read⟩ := bind_eq_ok read
  obtain ⟨-, read⟩ := check_eq_ok read
  cases read
  have shown := nonempty_of_readHeader headed
  refine Picture.nonempty_of_size shown ?_ ?_ <;>
    (simp only [Picture.width, Picture.height, blank]; split <;> rfl)

end Jpeg

namespace Pnm

theorem nonempty_of_readHeader {coloured : Bool} {bytes rest : List UInt8} {header : Header}
    (read : readHeader coloured bytes = .ok (header, rest)) : header.size.isEmpty = false := by
  obtain ⟨⟨width, rest⟩, -, read⟩ := bind_eq_ok read
  obtain ⟨⟨height, rest⟩, -, read⟩ := bind_eq_ok read
  obtain ⟨⟨greatest, rest⟩, -, read⟩ := bind_eq_ok read
  obtain ⟨-, read⟩ := check_eq_ok read
  obtain ⟨shown, read⟩ := check_eq_ok read
  obtain ⟨-, read⟩ := check_eq_ok read
  cases read
  simp [Size.isEmpty] at shown ⊢
  omega

theorem nonempty_of_readBody {coloured : Bool} {bytes : ByteArray} {start : Nat} {picture : Picture}
    (read : readBody coloured bytes start = .ok picture) : picture.isEmpty = false := by
  obtain ⟨⟨header, rest⟩, headed, read⟩ := bind_eq_ok read
  obtain ⟨-, read⟩ := check_eq_ok read
  have shown := nonempty_of_readHeader headed
  split at read <;> cases read <;> exact Picture.nonempty_of_size shown rfl rfl

theorem nonempty_of_read {bytes : ByteArray} {picture : Picture} (read : Pnm.read bytes = .ok picture) :
    picture.isEmpty = false := by
  unfold Pnm.read at read
  split at read
  · exact nonempty_of_readBody read
  · exact nonempty_of_readBody read
  · cases read

end Pnm

namespace Png

theorem nonempty_of_readHeader {chunks : List Chunk} {header : Header}
    (read : readHeader chunks = .ok header) : header.size.isEmpty = false := by
  unfold readHeader at read
  split at read
  · cases read
  · simp only at read
    split at read
    · cases read
    · obtain ⟨shown, read⟩ := check_eq_ok read
      obtain ⟨-, read⟩ := check_eq_ok read
      cases read
      rw [Bool.or_eq_true, not_or] at shown
      exact Bool.eq_false_iff.mpr shown.2

theorem nonempty_of_read {bytes : ByteArray} {content : Content} (read : Png.read bytes = .ok content) :
    content.picture.isEmpty = false := by
  obtain ⟨⟨head, dataStart⟩, -, read⟩ := bind_eq_ok read
  obtain ⟨header, headed, read⟩ := bind_eq_ok read
  obtain ⟨palette, -, read⟩ := bind_eq_ok read
  obtain ⟨⟨compressed, dataEnd⟩, -, read⟩ := bind_eq_ok read
  obtain ⟨transparency, -, read⟩ := bind_eq_ok read
  obtain ⟨rows, -, read⟩ := bind_eq_ok read
  cases read
  have shown := nonempty_of_readHeader headed
  refine Picture.nonempty_of_size shown ?_ ?_ <;>
    (simp only [Picture.width, Picture.height, cellsOf]; split <;> rfl)

end Png

namespace Codec

theorem Stored.faulty_map_ok {α : Type} {read : Except PictureFault α} {shown : α → Stored}
    {stored : Stored} (opened : (faulty read).map shown = .ok stored) :
    ∃ content, read = .ok content ∧ stored = shown content := by
  cases read with
  | ok value => cases opened; exact ⟨value, rfl, rfl⟩
  | error fault => cases opened

def Stored.fault? (bytes : ByteArray) : Option PictureFault :=
  match read bytes with
  | .error (.unreadablePicture fault) => some fault
  | _ => none

theorem Stored.read_of_fault? {bytes : ByteArray} {fault : PictureFault}
    (faulty : fault? bytes = some fault) : read bytes = .error (.unreadablePicture fault) := by
  unfold fault? at faulty
  split at faulty
  · next failed => rw [failed, Option.some.inj faulty]
  · cases faulty

theorem Stored.nonempty_of_read {bytes : ByteArray} {stored : Stored} (opened : read bytes = .ok stored) :
    stored.picture.isEmpty = false := by
  unfold read at opened
  split at opened
  · obtain ⟨picture, read, rfl⟩ := faulty_map_ok opened
    exact Bmp.nonempty_of_read read
  · split at opened
    · obtain ⟨picture, read, rfl⟩ := faulty_map_ok opened
      exact Gif.nonempty_of_read read
    · split at opened
      · obtain ⟨content, read, rfl⟩ := faulty_map_ok opened
        exact Jpeg.nonempty_of_read read
      · split at opened
        · obtain ⟨picture, read, rfl⟩ := faulty_map_ok opened
          exact Pnm.nonempty_of_read read
        · split at opened
          · obtain ⟨content, read, rfl⟩ := faulty_map_ok opened
            exact Png.nonempty_of_read read
          · cases opened

theorem lawful_basic : Codec.basic.Lawful where
  nonempty_of_openFile opened := Stored.nonempty_of_read opened
  nonempty_of_toRgba := by
    rintro (stored : Stored) raster shown ⟨⟩
    change Picture.isEmpty stored.picture = false at shown
    rw [Picture.isEmpty, Bool.or_eq_false_iff, beq_eq_false_iff_ne, beq_eq_false_iff_ne] at shown
    rw [Picture.toRgba_width, Picture.toRgba_height]
    exact ⟨Nat.pos_of_ne_zero shown.1, Nat.pos_of_ne_zero shown.2⟩

end Codec

namespace Processor

variable {codec : Codec} {plan : ProcessingPlan} {path : Option String}
  {found : Except Asset.FileFault ByteArray} {bytes : ByteArray}

/-- The mark cannot be loaded, and this is not put up with: the path holds a NUL character, or the file
fails to open for a cause that is not trouble with the file. -/
def Trips (codec : Codec) (path : Option String) (found : Except Asset.FileFault ByteArray) : Prop :=
  path.getD "" ≠ "" ∧ (Asset.Path.hasNul (path.getD "") = true ∨
    ∃ bytes cause, found = .ok bytes ∧ opened codec bytes = .error cause ∧ cause.isDevice = false)

def HasPicture (codec : Codec) (path : Option String) (found : Except Asset.FileFault ByteArray) :
    Prop :=
  path.getD "" ≠ "" ∧ ∃ bytes raster, found = .ok bytes ∧ opened codec bytes = .ok raster

theorem isDevice_toFailure (fault : Asset.FileFault) : fault.toFailure.isDevice = true := by
  cases fault <;> rfl

inductive Loaded (codec : Codec) (path : Option String) (found : Except Asset.FileFault ByteArray) :
    Except Failure (Option Picture) → Prop where
  | without (nothing : ¬ HasPicture codec path found) (fine : ¬ Trips codec path found) :
      Loaded codec path found (.ok none)
  | shown (raster : Raster Rgba) (wide : 0 < raster.width) (high : 0 < raster.height)
      (there : HasPicture codec path found) (fine : ¬ Trips codec path found) :
      Loaded codec path found (.ok (some (.ofRgba raster)))
  | tripped (cause : Failure) (fails : Trips codec path found) : Loaded codec path found (.error cause)

theorem nonempty_of_opened (lawful : codec.Lawful) {raster : Raster Rgba}
    (shown : opened codec bytes = .ok raster) : 0 < raster.width ∧ 0 < raster.height := by
  obtain ⟨image, read, converted⟩ := bind_eq_ok shown
  exact lawful.nonempty_of_toRgba (lawful.nonempty_of_openFile read) converted

theorem loaded_of_bytes (lawful : codec.Lawful) (given : path.getD "" ≠ "")
    (noNul : Asset.Path.hasNul (path.getD "") = false) :
    Loaded codec path (.ok bytes) (readMark codec bytes) := by
  have nul_or {P : Prop} (trips : Asset.Path.hasNul (path.getD "") = true ∨ P) : P :=
    trips.resolve_left (Bool.eq_false_iff.mp noNul)
  unfold readMark
  cases read : opened codec bytes with
  | ok raster =>
      obtain ⟨wide, high⟩ := nonempty_of_opened lawful read
      refine .shown raster wide high ⟨given, bytes, raster, rfl, read⟩ ?_
      rintro ⟨-, trips⟩
      obtain ⟨_, cause, ⟨⟩, failed, -⟩ := nul_or trips
      cases read.symm.trans failed
  | error cause =>
      simp only
      split
      · next device =>
          refine .without ?_ ?_
          · rintro ⟨-, _, raster, ⟨⟩, shown⟩
            cases read.symm.trans shown
          · rintro ⟨-, trips⟩
            obtain ⟨_, cause', ⟨⟩, failed, escapes⟩ := nul_or trips
            cases read.symm.trans failed
            exact absurd (escapes.symm.trans device) Bool.false_ne_true
      · next passed =>
          exact .tripped cause ⟨given, .inr ⟨bytes, cause, rfl, read, Bool.eq_false_iff.mpr passed⟩⟩

theorem loaded (lawful : codec.Lawful) (path : Option String)
    (found : Except Asset.FileFault ByteArray) :
    Loaded codec path found (loadMark codec path found) := by
  unfold loadMark
  simp only
  split
  · next nothing =>
      have absent : path.getD "" = "" := by simpa using nothing
      exact .without (fun there => there.1 absent) fun trips => trips.1 absent
  · next given =>
      have given : path.getD "" ≠ "" := by simpa using given
      split
      · next nul => exact .tripped _ ⟨given, .inl nul⟩
      · next noNul =>
          have noNul := Bool.eq_false_iff.mpr noNul
          cases found with
          | ok bytes => exact loaded_of_bytes lawful given noNul
          | error fault =>
              simp only [isDevice_toFailure, if_true]
              refine .without (fun there => ?_) (fun trips => ?_)
              · obtain ⟨-, bytes, raster, ⟨⟩, -⟩ := there
              · obtain ⟨-, nul | ⟨bytes, cause, ⟨⟩, -⟩⟩ := trips
                rw [noNul] at nul
                cases nul

/-- A processor can be made unless loading the mark trips. It then has the mark that the file at the path
holds, in colours with opacities and with positive sides, or none if there is no picture. -/
theorem make_succeeds_iff (codec : Codec) (lawful : codec.Lawful) (plan : ProcessingPlan)
    (path : Option String) (found : Except Asset.FileFault ByteArray) :
    ((∃ processor, make codec plan none path found = .ok processor) ↔ ¬ Trips codec path found) ∧
      ∀ processor, make codec plan none path found = .ok processor → processor.plan = plan ∧
        (processor.mark = none ↔ ¬ HasPicture codec path found) ∧
        ∀ mark, processor.mark = some mark →
          ∃ raster, mark = .ofRgba raster ∧ 0 < raster.width ∧ 0 < raster.height := by
  have ends := loaded lawful path found
  unfold make
  simp only
  generalize loadMark codec path found = result at ends ⊢
  cases ends with
  | without nothing fine =>
      refine ⟨⟨fun _ => fine, fun _ => ⟨_, rfl⟩⟩, ?_⟩
      rintro processor ⟨⟩
      exact ⟨rfl, ⟨fun _ => nothing, fun _ => rfl⟩, nofun⟩
  | shown raster wide high there fine =>
      refine ⟨⟨fun _ => fine, fun _ => ⟨_, rfl⟩⟩, ?_⟩
      rintro processor ⟨⟩
      refine ⟨rfl, ⟨nofun, fun nothing => absurd there nothing⟩, ?_⟩
      rintro mark ⟨⟩
      exact ⟨raster, rfl, wide, high⟩
  | tripped cause fails =>
      refine ⟨⟨?_, fun fine => absurd fails fine⟩, ?_⟩
      · rintro ⟨processor, ⟨⟩⟩
      · rintro processor ⟨⟩

theorem make_without_mark : ∃ processor,
    make .basic default none (some "mark.png") (.ok ⟨#[1, 2, 3]⟩) = .ok processor ∧
      processor.mark = none := by
  have unread : opened .basic ⟨#[1, 2, 3]⟩ = .error (.unreadablePicture .unidentified) :=
    congrArg (· >>= Codec.basic.toRgba) (Codec.Stored.read_of_fault? (by decide +kernel))
  have ends := make_succeeds_iff .basic Codec.lawful_basic default (some "mark.png") (.ok ⟨#[1, 2, 3]⟩)
  obtain ⟨processor, made⟩ := ends.1.mpr <| by
    rintro ⟨-, nul | ⟨_, cause, ⟨⟩, failed, escapes⟩⟩
    · exact absurd nul (by decide +kernel)
    · cases unread.symm.trans failed
      cases escapes
  refine ⟨processor, made, (ends.2 processor made).2.1.mpr ?_⟩
  rintro ⟨-, _, raster, ⟨⟩, shown⟩
  cases unread.symm.trans shown

def misnumbered : ByteArray := "P6\nxx 1\n255\n".toUTF8

theorem misnumbered_escapes :
    make .basic default none (some "mark.png") (.ok misnumbered) =
        .error (.unreadablePicture .badNumber) ∧
      ∃ detail, Decode.decode .basic misnumbered = .error (.app .invalidImageData detail) := by
  have failed : Codec.basic.openFile misnumbered = .error (.unreadablePicture .badNumber) :=
    Codec.Stored.read_of_fault? (by decide +kernel)
  have read : readMark .basic misnumbered = .error (.unreadablePicture .badNumber) := by
    rw [readMark, opened, failed]
    rfl
  have loaded : loadMark .basic (some "mark.png") (.ok misnumbered) = readMark .basic misnumbered := rfl
  have decoded : Decode.decode .basic misnumbered = .error (Decode.report (.unreadablePicture .badNumber)) := by
    rw [Decode.decode, Decode.shown, failed]
    rfl
  refine ⟨?_, _, decoded⟩
  rw [make, loaded, read]
  rfl

end Processor

end ImagePipeline
