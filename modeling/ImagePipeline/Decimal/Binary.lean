namespace ImagePipeline.Decimal

/-- The exact number `± m * 2 ^ q`. -/
structure Binary where
  negative : Bool
  m : Nat
  q : Int
  deriving DecidableEq, Inhabited

inductive Binary.Value where
  | finite (number : Binary)
  | infinite (negative : Bool)
  | undefined
  deriving DecidableEq, Inhabited

namespace Binary

def ofBits (bits : UInt64) : Value :=
  let negative := bits >>> 63 == 1
  let exponent := ((bits >>> 52) &&& 0x7ff).toNat
  let fraction := (bits &&& 0xfffffffffffff).toNat
  if exponent == 2047 then
    if fraction == 0 then .infinite negative else .undefined
  else if exponent == 0 then .finite ⟨negative, fraction, -1074⟩
  else .finite ⟨negative, fraction + 0x10000000000000, exponent - 1075⟩

def ofFloat (x : Float) : Value := ofBits x.toBits

def divideHalfEven (numerator denominator : Nat) : Nat :=
  let quotient := numerator / denominator
  let twice := 2 * (numerator % denominator)
  if twice < denominator then quotient
  else if denominator < twice then quotient + 1
  else if quotient % 2 == 0 then quotient else quotient + 1

def signed (number : Binary) (magnitude : Nat) : Int :=
  if number.negative then -(magnitude : Int) else magnitude

def roundHalfEven (number : Binary) : Int :=
  number.signed <|
    match number.q with
    | .ofNat up => number.m <<< up
    | .negSucc down => divideHalfEven number.m (1 <<< (down + 1))

def truncate (number : Binary) : Int :=
  number.signed <|
    match number.q with
    | .ofNat up => number.m <<< up
    | .negSucc down => number.m >>> (down + 1)

end Binary

def roundHalfEven (x : Float) : Int :=
  match Binary.ofFloat x with
  | .finite number => number.roundHalfEven
  | _ => 0

def truncate (x : Float) : Int :=
  match Binary.ofFloat x with
  | .finite number => number.truncate
  | _ => 0

def ofInt (n : Int) : Float := Float.ofInt n

end ImagePipeline.Decimal
