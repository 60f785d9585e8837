import ImagePipeline.Bytes
import ImagePipeline.Decimal.Binary
import ImagePipeline.Failure
import ImagePipeline.Image.Picture

namespace ImagePipeline.Pnm

def isBlank (b : UInt8) : Bool := [0x20, 0x09, 0x0a, 0x0b, 0x0c, 0x0d].contains b

def maxWord : Nat := 10

def skipLine : List UInt8 → List UInt8
  | [] => []
  | b :: rest => if b == 0x0a || b == 0x0d then rest else skipLine rest

theorem length_skipLine (bytes : List UInt8) : (skipLine bytes).length ≤ bytes.length := by
  induction bytes with
  | nil => exact Nat.le_refl 0
  | cons b rest ih =>
    rw [skipLine]
    split
    · exact Nat.le_succ _
    · exact Nat.le_succ_of_le ih

def wordFrom (bytes : List UInt8) (word : List UInt8) : List UInt8 × List UInt8 :=
  match bytes with
  | [] => (word, [])
  | b :: rest =>
    if maxWord < word.length then (word, b :: rest)
    else if isBlank b then
      if word.isEmpty then wordFrom rest word else (word, rest)
    else if b == 0x23 then wordFrom (skipLine rest) word
    else wordFrom rest (b :: word)
  termination_by bytes.length
  decreasing_by
    · exact Nat.lt_succ_self _
    · exact Nat.lt_succ_of_le (length_skipLine _)
    · exact Nat.lt_succ_self _

def digits? : List UInt8 → Nat → Option Nat
  | [], n => some n
  | b :: rest, n =>
    if 0x30 ≤ b ∧ b ≤ 0x39 then digits? rest (n * 10 + (b.toNat - 0x30))
    else if b == 0x5f then
      match rest with
      | d :: _ => if 0x30 ≤ d ∧ d ≤ 0x39 then digits? rest n else none
      | [] => none
    else none

def natural? : List UInt8 → Option Nat
  | [] => none
  | b :: rest => if 0x30 ≤ b ∧ b ≤ 0x39 then digits? (b :: rest) 0 else none

def number? : List UInt8 → Option Int
  | 0x2b :: rest => (natural? rest).map fun n => (n : Int)
  | 0x2d :: rest => (natural? rest).map fun n => -(n : Int)
  | word => (natural? word).map fun n => (n : Int)

def number (bytes : List UInt8) : Except PictureFault (Int × List UInt8) :=
  let (word, rest) := wordFrom bytes []
  if word.isEmpty || maxWord < word.length then .error .badNumber
  else
    match number? word.reverse with
    | some n => .ok (n, rest)
    | none => .error .badNumber

structure Header where
  coloured : Bool
  size : Size
  greatest : Nat
  deriving Inhabited

namespace Header

def channels (h : Header) : Nat := if h.coloured then 3 else 1

def sampleBytes (h : Header) : Nat := if h.greatest < 256 then 1 else 2

end Header

def readHeader (coloured : Bool) (bytes : List UInt8) :
    Except PictureFault (Header × List UInt8) := do
  let (width, rest) ← number bytes
  let (height, rest) ← number rest
  let (greatest, rest) ← number rest
  if greatest ≤ 0 || 65536 ≤ greatest then throw .badNumber
  if width ≤ 0 || height ≤ 0 then throw .unidentified
  let size : Size := ⟨width.toNat, height.toNat⟩
  if size.isTooLarge then throw .tooLarge
  return (⟨coloured, size, greatest.toNat⟩, rest)

/-- A sample scaled to eight bits. Great samples of gray pictures keep their scale of sixteen bits and
are cut off. -/
def scaled (h : Header) (sample : Nat) : UInt8 :=
  if h.greatest = 255 then sample.toUInt8
  else
    let range : Nat := if !h.coloured && 255 < h.greatest then 65535 else 255
    let value := Decimal.roundHalfEven (sample.toFloat / h.greatest.toFloat * range.toFloat)
    clampChannel value

def readBody (coloured : Bool) (bytes : ByteArray) (start : Nat) : Except PictureFault Picture := do
  let (h, rest) ← readHeader coloured ((bytes.extract start bytes.size).toList)
  let first := bytes.size - rest.length
  let count := h.size.width * h.size.height * h.channels
  if bytes.size < first + count * h.sampleBytes then
    throw (if h.greatest = 255 then .truncated else .badNumber)
  let sample (i : Nat) : UInt8 :=
    scaled h (Bytes.bigBefore bytes (first + (i + 1) * h.sampleBytes) h.sampleBytes)
  if coloured then
    return .ofRgb (.generate h.size.width h.size.height fun x y =>
      let i := 3 * (y * h.size.width + x)
      ⟨sample i, sample (i + 1), sample (i + 2)⟩)
  else
    return ⟨.gray (.generate h.size.width h.size.height fun x y => sample (y * h.size.width + x)), none⟩

def hasMark (bytes : ByteArray) : Bool :=
  Bytes.at? bytes 0 == some 0x50 && ((Bytes.at? bytes 1).any fun b => 0x30 ≤ b && b ≤ 0x36)

def read (bytes : ByteArray) : Except PictureFault Picture :=
  match Bytes.at? bytes 1, (Bytes.at? bytes 2).all isBlank with
  | some 0x35, true => readBody false bytes 3
  | some 0x36, true => readBody true bytes 3
  | _, _ => .error .unidentified

end ImagePipeline.Pnm
