import ImagePipeline.Json.Value

namespace ImagePipeline.Json

def hexDigit (n : Nat) : Char := if n < 10 then Char.ofNat (48 + n) else Char.ofNat (87 + n)

def escape (c : Char) : List Char :=
  if c = '"' then ['\\', '"']
  else if c = '\\' then ['\\', '\\']
  else if c = '\x08' then ['\\', 'b']
  else if c = '\x0c' then ['\\', 'f']
  else if c = '\n' then ['\\', 'n']
  else if c = '\r' then ['\\', 'r']
  else if c = '\t' then ['\\', 't']
  else if c.toNat < 32 then
    ['\\', 'u', '0', '0', hexDigit (c.toNat / 16), hexDigit (c.toNat % 16)]
  else [c]

def quoted (value : String) : String :=
  String.ofList ('"' :: (value.toList.flatMap escape ++ ['"']))

def writeNumeral : Numeral → String
  | .integer value => toString value
  | .decimal negative mantissa exponent =>
    (if negative then "-" else "") ++ toString mantissa ++ "e" ++ toString exponent
  | .infinite negative => if negative then "-Infinity" else "Infinity"
  | .undefined => "NaN"

mutual

def writeTo (written : String) : Json → String
  | null => written ++ "null"
  | bool true => written ++ "true"
  | bool false => written ++ "false"
  | number numeral => written ++ writeNumeral numeral
  | text value => written ++ quoted value
  | array items => writeItemsTo (written ++ "[") true items ++ "]"
  | object members => writeMembersTo (written ++ "\x7b") true members ++ "\x7d"

def writeItemsTo (written : String) (first : Bool) : List Json → String
  | [] => written
  | item :: rest =>
    writeItemsTo (writeTo (if first then written else written ++ ",") item) false rest

def writeMembersTo (written : String) (first : Bool) : List (String × Json) → String
  | [] => written
  | (name, value) :: rest =>
    writeMembersTo
      (writeTo ((if first then written else written ++ ",") ++ quoted name ++ ":") value) false rest

end

def write (value : Json) : String := writeTo "" value

end ImagePipeline.Json
