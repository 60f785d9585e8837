namespace ImagePipeline.Bytes

inductive Order where
  | big
  | little
  deriving DecidableEq, Inhabited

def at? (bytes : ByteArray) (pos : Nat) : Option UInt8 :=
  if h : pos < bytes.size then some bytes[pos] else none

def get (bytes : ByteArray) (pos : Nat) : Nat := ((at? bytes pos).getD 0).toNat

def slice? (bytes : ByteArray) (pos length : Nat) : Option ByteArray :=
  if pos + length ≤ bytes.size then some (bytes.extract pos (pos + length)) else none

def littleAt (bytes : ByteArray) (pos : Nat) : Nat → Nat
  | 0 => 0
  | length + 1 => get bytes pos + 256 * littleAt bytes (pos + 1) length

def bigBefore (bytes : ByteArray) (pos : Nat) : Nat → Nat
  | 0 => 0
  | length + 1 => get bytes (pos - 1) + 256 * bigBefore bytes (pos - 1) length

def integer? (order : Order) (bytes : ByteArray) (pos length : Nat) : Option Nat :=
  if pos + length ≤ bytes.size then
    match order with
    | .little => some (littleAt bytes pos length)
    | .big => some (bigBefore bytes (pos + length) length)
  else none

def startsWith (bytes : ByteArray) (start : List UInt8) : Bool :=
  (bytes.extract 0 start.length).toList == start

def ofBig (length : Nat) (n : Nat) : List UInt8 :=
  ((List.range length).map fun i => (n >>> (8 * i)).toUInt8).reverse

end ImagePipeline.Bytes
