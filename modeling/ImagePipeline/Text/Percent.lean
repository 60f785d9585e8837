namespace ImagePipeline.Text.Percent

def isPlain (b : UInt8) : Bool :=
  let c := Char.ofNat b.toNat
  b < 128 && (c.isAlphanum || c == '_' || c == '.' || c == '-' || c == '~' || c == '/')

def digit (n : Nat) : Char := if n < 10 then Char.ofNat (48 + n) else Char.ofNat (55 + n)

/-- How one byte is written, if `plain` says which bytes are written as they are. -/
def encodeByte (plain : UInt8 → Bool) (b : UInt8) : List Char :=
  if plain b then [Char.ofNat b.toNat] else ['%', digit (b.toNat / 16), digit (b.toNat % 16)]

def encodeBy (plain : UInt8 → Bool) (text : String) : String :=
  String.ofList (text.toUTF8.toList.flatMap (encodeByte plain))

def encode (text : String) : String := encodeBy isPlain text

def addressMarks : String := ":/%#?=@[]!$&'()*+,;"

def encodeAddress (address : String) : String :=
  encodeBy (fun b => isPlain b || (b < 128 && addressMarks.contains (Char.ofNat b.toNat))) address

def encodeField (text : String) : String :=
  String.ofList (text.toUTF8.toList.flatMap fun b =>
    if b == 32 then ['+'] else encodeByte (fun b => isPlain b && b != '/'.toUInt8) b)

def digitValue? (c : Char) : Option Nat :=
  if '0' ≤ c ∧ c ≤ '9' then some (c.toNat - 48)
  else if 'A' ≤ c ∧ c ≤ 'F' then some (c.toNat - 55)
  else if 'a' ≤ c ∧ c ≤ 'f' then some (c.toNat - 87)
  else none

def decodeBytes : List Char → List UInt8
  | '%' :: high :: low :: rest =>
    match digitValue? high, digitValue? low with
    | some h, some l => (16 * h + l).toUInt8 :: decodeBytes rest
    | _, _ => '%'.toUInt8 :: decodeBytes (high :: low :: rest)
  | c :: rest => c.toString.toUTF8.toList ++ decodeBytes rest
  | [] => []

def decode? (written : String) : Option String :=
  String.fromUTF8? (decodeBytes written.toList).toByteArray

end ImagePipeline.Text.Percent
