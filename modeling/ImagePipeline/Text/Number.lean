import ImagePipeline.Json.Value
import ImagePipeline.Text.Blank
import ImagePipeline.Text.LowerCase

namespace ImagePipeline.Text

def takeDigits : List Char → Nat → Nat → Nat × Nat × List Char
  | [], n, count => (n, count, [])
  | c :: rest, n, count =>
    if c.isDigit then takeDigits rest (n * 10 + (c.toNat - 48)) (count + 1)
    else if c == '_' && 0 < count then
      match rest with
      | d :: _ => if d.isDigit then takeDigits rest n count else (n, count, c :: rest)
      | [] => (n, count, c :: rest)
    else (n, count, c :: rest)

def takeSign : List Char → Bool × List Char
  | '-' :: rest => (true, rest)
  | '+' :: rest => (false, rest)
  | rest => (false, rest)

def integer? (text : String) : Option Int :=
  let (negative, rest) := takeSign (trimBy isBlank text.toList)
  let (n, count, rest) := takeDigits rest 0 0
  let wholeOnly := match rest with
    | [] => true
    | '.' :: zeros => !zeros.isEmpty && zeros.all (· == '0')
    | _ => false
  if 0 < count && wholeOnly then some (if negative then -(n : Int) else n) else none

def exponent? (chars : List Char) : Option Int :=
  match chars with
  | [] => some 0
  | e :: rest =>
    if e == 'e' || e == 'E' then
      let (negative, rest) := takeSign rest
      let (n, count, rest) := takeDigits rest 0 0
      if 0 < count && rest.isEmpty then some (if negative then -(n : Int) else n) else none
    else none

def decimal? (chars : List Char) : Option Float :=
  let (whole, wholeCount, rest) := takeDigits chars 0 0
  let (mantissa, places, rest) := match rest with
    | '.' :: rest =>
      let (fraction, count, rest) := takeDigits rest 0 0
      (whole * Nat.pow 10 count + fraction, count, rest)
    | rest => (whole, 0, rest)
  if wholeCount + places = 0 then none
  else (exponent? rest).map fun e => Numeral.decimalFloat mantissa (e - places)

def float? (text : String) : Option Float :=
  let (negative, rest) := takeSign (trimBy isSpace text.toList)
  let signed (x : Float) : Float := if negative then -x else x
  let word := lowerCase (String.ofList rest)
  if word == "inf" || word == "infinity" then some (signed (1 / 0))
  else if word == "nan" then some (0 / 0)
  else (decimal? rest).map signed

def boolean? (text : String) : Option Bool :=
  let word := lowerCase text
  if ["1", "on", "t", "true", "y", "yes"].contains word then some true
  else if ["0", "off", "f", "false", "n", "no"].contains word then some false
  else none

end ImagePipeline.Text
