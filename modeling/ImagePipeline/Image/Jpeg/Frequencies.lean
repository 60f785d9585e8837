import ImagePipeline.Image.Picture

namespace ImagePipeline.Jpeg

def cosine (n : Nat) : Int :=
  let n := n % 32
  let n := if 16 < n then 32 - n else n
  let quarter : List Int := [4096, 4017, 3784, 3406, 2896, 2276, 1567, 799, 0]
  if n ≤ 8 then quarter.getD n 0 else -(quarter.getD (16 - n) 0)

def waveWeight (u x : Nat) : Int := if u = 0 then 2896 else cosine ((2 * x + 1) * u)

def waves : List (List Int) :=
  (List.range 8).map fun u => (List.range 8).map fun x => waveWeight u x

def frequencies (samples : List Int) : List Int :=
  waves.map fun wave => (List.zipWith (· * ·) wave samples).foldl (· + ·) 0

def columnsOf (rows : List (List Int)) : List (List Int) :=
  (List.range 8).map fun x => rows.map fun row => row.getD x 0

def blockFrequencies (rows : List (List Int)) : List Int :=
  (columnsOf ((columnsOf (rows.map frequencies)).map frequencies)).flatten

def quantize (frequency : Int) (divisor : Nat) : Int :=
  let unit : Int := 0x4000000 * (divisor : Int)
  if frequency < 0 then -((-frequency + unit / 2) / unit) else (frequency + unit / 2) / unit

def zigzag : List Nat :=
  [0, 1, 8, 16, 9, 2, 3, 10, 17, 24, 32, 25, 18, 11, 4, 5, 12, 19, 26, 33, 40, 48, 41, 34, 27, 20, 13,
    6, 7, 14, 21, 28, 35, 42, 49, 56, 57, 50, 43, 36, 29, 22, 15, 23, 30, 37, 44, 51, 58, 59, 52, 45,
    38, 31, 39, 46, 53, 60, 61, 54, 47, 55, 62, 63]

def inZigzag {α : Type} (usual : α) (items : List α) : List α :=
  let items := items.toArray
  zigzag.map fun i => items.getD i usual

def brightness (c : Rgb) : Int :=
  (19595 * (c.red.toNat : Int) + 38470 * c.green.toNat + 7471 * c.blue.toNat + 32768) / 65536 - 128

def blueDifference (c : Rgb) : Int :=
  (32768 * (c.blue.toNat : Int) - 11059 * c.red.toNat - 21709 * c.green.toNat + 32767) / 65536

def redDifference (c : Rgb) : Int :=
  (32768 * (c.red.toNat : Int) - 27439 * c.green.toNat - 5329 * c.blue.toNat + 32767) / 65536

def samplesOf (r : Raster Rgb) (component : Rgb → Int) (column row : Nat) : List (List Int) :=
  (List.range 8).map fun y => (List.range 8).map fun x =>
    component (r.get (min (8 * column + x) (r.width - 1)) (min (8 * row + y) (r.height - 1)))

def blockOf (r : Raster Rgb) (component : Rgb → Int) (divisors : List Nat) (column row : Nat) :
    List Int :=
  inZigzag 0
    (List.zipWith quantize (blockFrequencies (samplesOf r component column row)) divisors)

end ImagePipeline.Jpeg
