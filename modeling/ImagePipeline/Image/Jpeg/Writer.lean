import ImagePipeline.Bytes
import ImagePipeline.Failure
import ImagePipeline.Image.Jpeg.Frequencies
import ImagePipeline.Image.Jpeg.Quantization

namespace ImagePipeline.Jpeg

structure BitSink where
  bytes : ByteArray
  pending : Nat
  count : Nat

namespace BitSink

def pushByte (bytes : ByteArray) (b : UInt8) : ByteArray :=
  if b == 255 then (bytes.push b).push 0 else bytes.push b

def drain (bytes : ByteArray) (bits : Nat) : Nat → Nat → ByteArray
  | _, 0 => bytes
  | count, whole + 1 =>
    drain (pushByte bytes (bits >>> (count - 8)).toUInt8) bits (count - 8) whole

def push (sink : BitSink) (value width : Nat) : BitSink :=
  let bits := (sink.pending <<< width) + value
  let count := sink.count + width
  ⟨drain sink.bytes bits count (count / 8), bits % (1 <<< (count % 8)), count % 8⟩

def finish (sink : BitSink) : ByteArray :=
  if sink.count = 0 then sink.bytes
  else (sink.push ((1 <<< (8 - sink.count)) - 1) (8 - sink.count)).bytes

end BitSink

def bitLength (n : Nat) : Nat := if n = 0 then 0 else Nat.log2 n + 1

def valueBits (value : Int) (length : Nat) : Nat :=
  if value < 0 then (value + (1 <<< length : Nat) - 1).toNat else value.toNat

def firstSymbols : List Nat := List.range 12

def laterSymbols : List Nat :=
  0x00 :: 0xf0 :: (List.range 16).flatMap fun run => (List.range 10).map fun n => run * 16 + n + 1

def laterCode (symbol : Nat) : Nat :=
  if symbol = 0 then 0 else if symbol = 0xf0 then 1 else 2 + symbol / 16 * 10 + symbol % 16 - 1

def firstWidth : Nat := 4

def laterWidth : Nat := 8

def pushLater (sink : BitSink) (symbol : Nat) : BitSink := sink.push (laterCode symbol) laterWidth

def pushRuns (sink : BitSink) : Nat → BitSink
  | 0 => sink
  | n + 1 => pushRuns (pushLater sink 0xf0) n

def pushFurther (sink : BitSink) (run : Nat) : List Int → BitSink
  | [] => if run = 0 then sink else pushLater sink 0
  | value :: rest =>
    if value = 0 then pushFurther sink (run + 1) rest
    else
      let length := bitLength value.natAbs
      let sink := pushLater (pushRuns sink (run / 16)) (run % 16 * 16 + length)
      pushFurther (sink.push (valueBits value length) length) 0 rest

def pushBlock (sink : BitSink) (before : Int) (block : List Int) : BitSink :=
  let difference := block.headD 0 - before
  let length := bitLength difference.natAbs
  let sink := (sink.push length firstWidth).push (valueBits difference length) length
  pushFurther sink 0 block.tail

def segment (code : UInt8) (data : List UInt8) : List UInt8 :=
  [0xff, code] ++ Bytes.ofBig 2 (data.length + 2) ++ data

def divisorSegment (number : UInt8) (divisors : List Nat) : List UInt8 :=
  segment 0xdb (number :: (inZigzag 1 divisors).map Nat.toUInt8)

def symbolSegment (number : UInt8) (width : Nat) (symbols : List Nat) : List UInt8 :=
  segment 0xc4 (number :: ((List.range 16).map fun i =>
    if i + 1 = width then symbols.length.toUInt8 else 0) ++ symbols.map Nat.toUInt8)

def head (size : Size) (luminance chrominance : List Nat) : List UInt8 :=
  [0xff, 0xd8]
    ++ segment 0xe0 [0x4a, 0x46, 0x49, 0x46, 0, 1, 1, 0, 0, 1, 0, 1, 0, 0]
    ++ divisorSegment 0 luminance ++ divisorSegment 1 chrominance
    ++ segment 0xc0 ([8] ++ Bytes.ofBig 2 size.height ++ Bytes.ofBig 2 size.width
      ++ [3, 1, 0x11, 0, 2, 0x11, 1, 3, 0x11, 1])
    ++ symbolSegment 0x00 firstWidth firstSymbols ++ symbolSegment 0x10 laterWidth laterSymbols
    ++ segment 0xda [3, 1, 0, 2, 0, 3, 0, 0, 63, 0]

def scan (r : Raster Rgb) (luminance chrominance : List Nat) : ByteArray :=
  let columns := (r.width + 7) / 8
  let rows := (r.height + 7) / 8
  let start : BitSink × Int × Int × Int := (⟨.empty, 0, 0⟩, 0, 0, 0)
  let (sink, _) := (List.range (columns * rows)).foldl (fun (sink, y, b, d) i =>
    let block (component : Rgb → Int) (divisors : List Nat) :=
      blockOf r component divisors (i % columns) (i / columns)
    let luma := block brightness luminance
    let blue := block blueDifference chrominance
    let red := block redDifference chrominance
    let sink := pushBlock (pushBlock (pushBlock sink y luma) b blue) d red
    (sink, luma.headD 0, blue.headD 0, red.headD 0)) start
  sink.finish

def maxSide : Nat := 65500

def isQuality (quality : Int) : Bool := -0x80000000 ≤ quality && quality < 0x80000000

def write (r : Raster Rgb) (quality : Int) : Except Failure ByteArray :=
  if !isQuality quality then .error .integerOutOfRange
  else if maxSide < r.width ∨ maxSide < r.height then .error .oversizedPicture
  else
    let luminance := divisors quality baseLuminance
    let chrominance := divisors quality baseChrominance
    .ok (⟨(head ⟨r.width, r.height⟩ luminance chrominance).toArray⟩
      ++ scan r luminance chrominance ++ ⟨#[0xff, 0xd9]⟩)

end ImagePipeline.Jpeg
