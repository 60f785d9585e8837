namespace ImagePipeline.Jpeg

def baseLuminance : List Nat :=
  [16, 11, 10, 16, 24, 40, 51, 61,
   12, 12, 14, 19, 26, 58, 60, 55,
   14, 13, 16, 24, 40, 57, 69, 56,
   14, 17, 22, 29, 51, 87, 80, 62,
   18, 22, 37, 56, 68, 109, 103, 77,
   24, 35, 55, 64, 81, 104, 113, 92,
   49, 64, 78, 87, 103, 121, 120, 101,
   72, 92, 95, 98, 112, 100, 103, 99]

def baseChrominance : List Nat :=
  [17, 18, 24, 47, 99, 99, 99, 99,
   18, 21, 26, 66, 99, 99, 99, 99,
   24, 26, 56, 99, 99, 99, 99, 99,
   47, 66, 99, 99, 99, 99, 99, 99,
   99, 99, 99, 99, 99, 99, 99, 99,
   99, 99, 99, 99, 99, 99, 99, 99,
   99, 99, 99, 99, 99, 99, 99, 99,
   99, 99, 99, 99, 99, 99, 99, 99]

def effectiveQuality (quality : Int) : Nat :=
  if quality = -1 then 75 else (min (max quality 1) 100).toNat

def scalePercent (quality : Int) : Nat :=
  let q := effectiveQuality quality
  if q < 50 then 5000 / q else 200 - 2 * q

def scaledDivisor (quality : Int) (base : Nat) : Nat :=
  min (max ((base * scalePercent quality + 50) / 100) 1) 255

def divisors (quality : Int) (base : List Nat) : List Nat := base.map (scaledDivisor quality)

end ImagePipeline.Jpeg
