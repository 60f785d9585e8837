import ImagePipeline.Decimal.Binary

namespace ImagePipeline.Decimal.Shortest

structure Digits where
  digits : Nat
  exponent : Int
  deriving DecidableEq, Inhabited

def compareScaled (f : Nat → Nat → α) (a : Nat) (p : Int) (b : Nat) (k : Int) : α :=
  f ((a * Nat.pow 10 (-k).toNat) <<< p.toNat) ((b * Nat.pow 10 k.toNat) <<< (-p).toNat)

def floorOnGrid (a : Nat) (p : Int) (k : Int) : Nat :=
  compareScaled (fun left right => left / right) a p 1 k

structure Interval where
  low : Nat
  middle : Nat
  high : Nat
  closed : Bool
  deriving DecidableEq, Inhabited

/-- Half way to both neighbours; below a power of two the lower neighbour is twice as near. -/
def interval (m : Nat) (q : Int) : Interval where
  low := if m == 0x10000000000000 && q > -1074 then 4 * m - 1 else 4 * m - 2
  middle := 4 * m
  high := 4 * m + 2
  closed := m % 2 == 0

def Interval.holds (i : Interval) (p : Int) (b : Nat) (k : Int) : Bool :=
  if i.closed then
    compareScaled (fun l r => decide (l ≤ r)) i.low p b k
      && compareScaled (fun h r => decide (r ≤ h)) i.high p b k
  else
    compareScaled (fun l r => decide (l < r)) i.low p b k
      && compareScaled (fun h r => decide (r < h)) i.high p b k

def candidates (i : Interval) (p : Int) (k : Int) : List Nat :=
  let below := floorOnGrid i.middle p k
  let nearerBelow := compareScaled (fun v r => decide (2 * v < r)) i.middle p (2 * below + 1) k
  let tie := compareScaled (fun v r => decide (2 * v = r)) i.middle p (2 * below + 1) k
  if nearerBelow || (tie && below % 2 == 0) then [below, below + 1] else [below + 1, below]

def leadingExponent (m : Nat) (q : Int) : Nat → Int → Int
  | 0, start => start
  | fuel + 1, start =>
    if compareScaled (fun v r => decide (r ≤ v)) m q 1 start then start
    else leadingExponent m q fuel (start - 1)

def search (i : Interval) (p lead : Int) : Nat → Nat → Option Digits
  | 0, _ => none
  | fuel + 1, count =>
    let k := lead - count + 1
    match (candidates i p k).find? fun b => i.holds p b k with
    | some b => some ⟨b, k⟩
    | none => search i p lead fuel (count + 1)

def strip : Nat → Digits → Digits
  | 0, d => d
  | fuel + 1, d =>
    if d.digits % 10 == 0 && d.digits != 0 then strip fuel ⟨d.digits / 10, d.exponent + 1⟩ else d

def digits? (m : Nat) (q : Int) : Option Digits :=
  let lead := leadingExponent m q 700 310
  (search (interval m q) (q - 2) lead 18 1).map (strip 20)

structure Layout where
  lowest : Int
  highest : Int
  exponentWidth : Nat
  infinity : String
  undefined : String

def standard : Layout where
  lowest := -4
  highest := 15
  exponentWidth := 2
  infinity := "inf"
  undefined := "nan"

def padZeros (width : Nat) (text : String) : String :=
  String.ofList (List.replicate (width - text.length) '0') ++ text

def layOut (layout : Layout) (d : Digits) : String :=
  let text := toString d.digits
  let lead : Int := d.exponent + text.length - 1
  if layout.lowest ≤ lead && lead ≤ layout.highest then
    if 0 ≤ d.exponent then text ++ String.ofList (List.replicate d.exponent.toNat '0') ++ ".0"
    else if 0 ≤ lead then
      let whole := (lead + 1).toNat
      String.ofList (text.toList.take whole) ++ "." ++ String.ofList (text.toList.drop whole)
    else "0." ++ String.ofList (List.replicate (-lead - 1).toNat '0') ++ text
  else
    let mantissa := match text.toList with
      | first :: [] => first.toString
      | first :: rest => first.toString ++ "." ++ String.ofList rest
      | [] => ""
    mantissa ++ "e" ++ (if lead < 0 then "-" else "+")
      ++ padZeros layout.exponentWidth (toString lead.natAbs)

def write (x : Float) : String :=
  match Binary.ofFloat x with
  | .undefined => standard.undefined
  | .infinite negative => (if negative then "-" else "") ++ standard.infinity
  | .finite number =>
    (if number.negative then "-" else "") ++
      if number.m == 0 then "0.0"
      else match digits? number.m number.q with
        | some d => layOut standard d
        | none => ""

end ImagePipeline.Decimal.Shortest
