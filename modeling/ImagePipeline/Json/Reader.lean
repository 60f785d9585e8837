import ImagePipeline.Json.Value

namespace ImagePipeline.Json

def isGap (c : Char) : Bool := c == ' ' || c == '\t' || c == '\n' || c == '\r'

def skipGap (chars : List Char) : List Char := chars.dropWhile isGap

def hexValue? (c : Char) : Option Nat :=
  if '0' ≤ c ∧ c ≤ '9' then some (c.toNat - 48)
  else if 'a' ≤ c ∧ c ≤ 'f' then some (c.toNat - 87)
  else if 'A' ≤ c ∧ c ≤ 'F' then some (c.toNat - 55)
  else none

def hexQuad? (a b c d : Char) : Option Nat := do
  let a ← hexValue? a
  let b ← hexValue? b
  let c ← hexValue? c
  let d ← hexValue? d
  return ((a * 16 + b) * 16 + c) * 16 + d

def escaped? : Char → Option Char
  | '"' => some '"'
  | '\\' => some '\\'
  | '/' => some '/'
  | 'b' => some '\x08'
  | 'f' => some '\x0c'
  | 'n' => some '\n'
  | 'r' => some '\r'
  | 't' => some '\t'
  | _ => none

def isHighSurrogate (n : Nat) : Bool := 0xd800 ≤ n && n < 0xdc00

def isLowSurrogate (n : Nat) : Bool := 0xdc00 ≤ n && n < 0xe000

/-- Reads the rest of a text up to its closing quote; `read` holds what came before, backwards. -/
def readText (read : List Char) : List Char → Option (String × List Char)
  | [] => none
  | '"' :: rest => some (String.ofList read.reverse, rest)
  | '\\' :: 'u' :: a :: b :: c :: d :: rest =>
    match hexQuad? a b c d with
    | none => none
    | some n =>
      if isHighSurrogate n then
        match rest with
        | '\\' :: 'u' :: e :: f :: g :: h :: rest =>
          match hexQuad? e f g h with
          | some low =>
            if isLowSurrogate low then
              readText (Char.ofNat (0x10000 + (n - 0xd800) * 0x400 + (low - 0xdc00)) :: read) rest
            else none
          | none => none
        | _ => none
      else if isLowSurrogate n then none
      else readText (Char.ofNat n :: read) rest
  | '\\' :: letter :: rest =>
    match escaped? letter with
    | some c => readText (c :: read) rest
    | none => none
  | c :: rest => if c.toNat < 32 || c == '\\' then none else readText (c :: read) rest

def spanDigits (chars : List Char) : List Char × List Char := chars.span Char.isDigit

def ofDigits (digits : List Char) : Nat :=
  digits.foldl (fun n c => n * 10 + (c.toNat - 48)) 0

def readFraction : List Char → Option (Option (List Char) × List Char)
  | '.' :: rest =>
    match spanDigits rest with
    | ([], _) => none
    | (digits, rest) => some (some digits, rest)
  | chars => some (none, chars)

def readExponent : List Char → Option (Option Int × List Char)
  | 'e' :: rest => read rest
  | 'E' :: rest => read rest
  | chars => some (none, chars)
where
  read : List Char → Option (Option Int × List Char)
    | '-' :: rest => digits true rest
    | '+' :: rest => digits false rest
    | rest => digits false rest
  digits (negative : Bool) (chars : List Char) : Option (Option Int × List Char) :=
    match spanDigits chars with
    | ([], _) => none
    | (ds, rest) => some (some (if negative then -(ofDigits ds : Int) else ofDigits ds), rest)

def readUnsigned (negative : Bool) (chars : List Char) : Option (Numeral × List Char) := do
  let (whole, rest) := spanDigits chars
  guard (whole ≠ [] ∧ (whole.head? ≠ some '0' ∨ whole.length = 1))
  let (fraction, rest) ← readFraction rest
  let (exponent, rest) ← readExponent rest
  match fraction, exponent with
  | none, none =>
    return (.integer (if negative then -(ofDigits whole : Int) else ofDigits whole), rest)
  | _, _ =>
    let places := fraction.getD []
    return (.decimal negative (ofDigits (whole ++ places)) (exponent.getD 0 - places.length), rest)

def afterWord? (word : String) (chars : List Char) : Option (List Char) :=
  if word.toList.isPrefixOf chars then some (chars.drop word.length) else none

def readAtom : List Char → Option (Json × List Char)
  | 'n' :: rest => (afterWord? "ull" rest).map (.null, ·)
  | 't' :: rest => (afterWord? "rue" rest).map (.bool true, ·)
  | 'f' :: rest => (afterWord? "alse" rest).map (.bool false, ·)
  | 'N' :: rest => (afterWord? "aN" rest).map (.number .undefined, ·)
  | 'I' :: rest => (afterWord? "nfinity" rest).map (.number (.infinite false), ·)
  | '-' :: 'I' :: rest => (afterWord? "nfinity" rest).map (.number (.infinite true), ·)
  | '-' :: rest => (readUnsigned true rest).map fun (n, rest) => (.number n, rest)
  | chars => (readUnsigned false chars).map fun (n, rest) => (.number n, rest)

mutual

/-- Reads one value; `depth` more arrays or objects may be opened. -/
def readValue : Nat → Nat → List Char → Option (Json × List Char)
  | 0, _, _ => none
  | _ + 1, _, [] => none
  | fuel + 1, depth, first :: rest =>
    if first == '"' then (readText [] rest).map fun (value, rest) => (.text value, rest)
    else if first == '[' then
      match depth with
      | 0 => none
      | depth + 1 =>
        match skipGap rest with
        | ']' :: rest => some (.array [], rest)
        | rest => readItems fuel depth [] rest
    else if first == '\x7b' then
      match depth with
      | 0 => none
      | depth + 1 =>
        match skipGap rest with
        | '\x7d' :: rest => some (.object [], rest)
        | rest => readMembers fuel depth [] rest
    else readAtom (first :: rest)

def readItems : Nat → Nat → List Json → List Char → Option (Json × List Char)
  | 0, _, _, _ => none
  | fuel + 1, depth, read, chars =>
    match readValue fuel depth (skipGap chars) with
    | none => none
    | some (item, rest) =>
      match skipGap rest with
      | ',' :: rest => readItems fuel depth (item :: read) rest
      | ']' :: rest => some (.array (item :: read).reverse, rest)
      | _ => none

def readMembers : Nat → Nat → List (String × Json) → List Char → Option (Json × List Char)
  | 0, _, _, _ => none
  | fuel + 1, depth, read, chars =>
    match skipGap chars with
    | '"' :: rest =>
      match readText [] rest with
      | none => none
      | some (name, rest) =>
        match skipGap rest with
        | ':' :: rest =>
          match readValue fuel depth (skipGap rest) with
          | none => none
          | some (value, rest) =>
            match skipGap rest with
            | ',' :: rest => readMembers fuel depth ((name, value) :: read) rest
            | '\x7d' :: rest => some (.object ((name, value) :: read).reverse, rest)
            | _ => none
        | _ => none
    | _ => none

end

def maxDepth : Nat := 201

def parse? (source : String) : Option Json :=
  let chars := source.toList
  match readValue (2 * chars.length + 2) maxDepth (skipGap chars) with
  | some (value, rest) => if (skipGap rest).isEmpty then some value else none
  | none => none

end ImagePipeline.Json
