import ImagePipeline.Decimal.Binary

namespace ImagePipeline

inductive Numeral where
  | integer (value : Int)
  | decimal (negative : Bool) (mantissa : Nat) (exponent : Int)
  | infinite (negative : Bool)
  | undefined
  deriving DecidableEq, Inhabited

namespace Numeral

def decimalFloat (mantissa : Nat) (exponent : Int) : Float :=
  let size : Int := (toString mantissa).length + exponent
  if mantissa == 0 || size < -400 then 0
  else if 400 < size then 1 / 0
  else Float.ofScientific mantissa (exponent < 0) exponent.natAbs

def toFloat : Numeral → Float
  | integer value =>
    if value < 0 then -(decimalFloat value.natAbs 0) else decimalFloat value.natAbs 0
  | decimal negative mantissa exponent =>
    if negative then -(decimalFloat mantissa exponent) else decimalFloat mantissa exponent
  | infinite negative => if negative then -(1 / 0) else 1 / 0
  | undefined => 0 / 0

end Numeral

inductive Json where
  | null
  | bool (value : Bool)
  | number (numeral : Numeral)
  | text (value : String)
  | array (items : List Json)
  | object (members : List (String × Json))
  deriving Inhabited

namespace Json

def member? (name : String) : Json → Option Json
  | object members => (members.reverse.find? fun m => m.1 == name).map (·.2)
  | _ => none

def text? : Json → Option String
  | text value => some value
  | _ => none

def integer? : Json → Option Int
  | number (.integer n) => some n
  | _ => none

def int (n : Int) : Json := number (.integer n)

def textOrNull : Option String → Json
  | some value => text value
  | none => null

def intOrNull : Option Int → Json
  | some value => int value
  | none => null

end Json

end ImagePipeline
