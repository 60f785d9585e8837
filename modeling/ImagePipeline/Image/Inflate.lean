import ImagePipeline.Bytes

namespace ImagePipeline.Inflate

inductive Ending where
  | complete
  | full
  | cut
  deriving DecidableEq, Inhabited

inductive Stop where
  | cut
  | full
  | broken
  deriving DecidableEq, Inhabited

def bit? (input : ByteArray) (pos : Nat) : Option Nat :=
  (Bytes.at? input (pos / 8)).map fun b => (b.toNat >>> (pos % 8)) % 2

/-- The number in the next bits, the least first. -/
def bits (input : ByteArray) (pos : Nat) : Nat → Except Stop Nat
  | 0 => .ok 0
  | count + 1 =>
    match bit? input pos with
    | none => .error .cut
    | some b => (bits input (pos + 1) count).map fun rest => b + 2 * rest

/-- A canonical prefix code: how many symbols have each code length from one on, and all symbols,
those with shorter codes first. -/
structure PrefixCode where
  counts : List Nat
  symbols : Array Nat
  deriving Inhabited

def maxLength : Nat := 15

def PrefixCode.ofLengths (lengths : List Nat) : PrefixCode where
  counts := (List.range maxLength).map fun l => lengths.count (l + 1)
  symbols := ((List.range maxLength).flatMap fun l =>
    lengths.zipIdx.filterMap fun (length, symbol) =>
      if length = l + 1 then some symbol else none).toArray

def PrefixCode.spare (code : PrefixCode) : Int :=
  code.counts.foldl (fun (left : Int) (count : Nat) => 2 * left - count) 1

/-- The code fills its space, or is the code of at most one symbol of length one. -/
def PrefixCode.isUsable (code : PrefixCode) : Bool :=
  code.spare == 0 || (0 < code.spare && (code.counts.drop 1).all (· == 0))

def symbolFrom (prefixCode : PrefixCode) (input : ByteArray) (pos code first index : Nat) :
    List Nat → Except Stop (Nat × Nat)
  | [] => .error .broken
  | count :: counts =>
    match bit? input pos with
    | none => .error .cut
    | some b =>
      let code := code + b
      if code < first + count then
        .ok (prefixCode.symbols.getD (index + (code - first)) 0, pos + 1)
      else
        symbolFrom prefixCode input (pos + 1) (2 * code) (2 * (first + count)) (index + count) counts

def symbol (code : PrefixCode) (input : ByteArray) (pos : Nat) : Except Stop (Nat × Nat) :=
  symbolFrom code input pos 0 0 0 code.counts

def lengthTable : Array (Nat × Nat) :=
  #[(3, 0), (4, 0), (5, 0), (6, 0), (7, 0), (8, 0), (9, 0), (10, 0), (11, 1), (13, 1), (15, 1),
    (17, 1), (19, 2), (23, 2), (27, 2), (31, 2), (35, 3), (43, 3), (51, 3), (59, 3), (67, 4), (83, 4),
    (99, 4), (115, 4), (131, 5), (163, 5), (195, 5), (227, 5), (258, 0)]

def distanceTable : Array (Nat × Nat) :=
  #[(1, 0), (2, 0), (3, 0), (4, 0), (5, 1), (7, 1), (9, 2), (13, 2), (17, 3), (25, 3), (33, 4),
    (49, 4), (65, 5), (97, 5), (129, 6), (193, 6), (257, 7), (385, 7), (513, 8), (769, 8), (1025, 9),
    (1537, 9), (2049, 10), (3073, 10), (4097, 11), (6145, 11), (8193, 12), (12289, 12), (16385, 13),
    (24577, 13)]

def tableValue (table : Array (Nat × Nat)) (input : ByteArray) (symbol pos : Nat) :
    Except Stop (Nat × Nat) :=
  match table[symbol]? with
  | none => .error .broken
  | some (least, extra) => (bits input pos extra).map fun n => (least + n, pos + extra)

def repeatFrom (output : ByteArray) (distance : Nat) : Nat → ByteArray
  | 0 => output
  | length + 1 =>
    repeatFrom (output.push ((Bytes.at? output (output.size - distance)).getD 0)) distance length

structure Progress where
  output : ByteArray
  pos : Nat
  stop : Option Stop

def symbols (literals distances : PrefixCode) (input : ByteArray) (limit : Nat) :
    Nat → Nat → ByteArray → Progress
  | 0, pos, output => ⟨output, pos, some .cut⟩
  | fuel + 1, pos, output =>
    match symbol literals input pos with
    | .error stop => ⟨output, pos, some stop⟩
    | .ok (s, pos) =>
      if s < 256 then
        if limit ≤ output.size then ⟨output, pos, some .full⟩
        else symbols literals distances input limit fuel pos (output.push s.toUInt8)
      else if s = 256 then ⟨output, pos, none⟩
      else
        let found : Except Stop (Nat × Nat × Nat) := do
          let (length, pos) ← tableValue lengthTable input (s - 257) pos
          let (d, pos) ← symbol distances input pos
          let (distance, pos) ← tableValue distanceTable input d pos
          if output.size < distance then throw .broken
          return (length, distance, pos)
        match found with
        | .error stop => ⟨output, pos, some stop⟩
        | .ok (length, distance, pos) =>
          let room := limit - output.size
          if room < length then ⟨repeatFrom output distance room, pos, some .full⟩
          else symbols literals distances input limit fuel pos (repeatFrom output distance length)

def fixedLiterals : PrefixCode :=
  .ofLengths (List.replicate 144 8 ++ List.replicate 112 9 ++ List.replicate 24 7
    ++ List.replicate 8 8)

def fixedDistances : PrefixCode := .ofLengths (List.replicate 32 5)

def lengthOrder : List Nat := [16, 17, 18, 0, 8, 7, 9, 6, 10, 5, 11, 4, 12, 3, 13, 2, 14, 1, 15]

def codeLengths (code : PrefixCode) (input : ByteArray) (wanted : Nat) :
    Nat → Nat → List Nat → Except Stop (List Nat × Nat)
  | 0, _, _ => .error .broken
  | fuel + 1, pos, lengths =>
    if wanted ≤ lengths.length then
      if lengths.length = wanted then .ok (lengths, pos) else .error .broken
    else do
      let (s, pos) ← symbol code input pos
      if s < 16 then codeLengths code input wanted fuel pos (s :: lengths)
      else if s = 16 then
        match lengths with
        | [] => .error .broken
        | last :: _ =>
          let n ← bits input pos 2
          codeLengths code input wanted fuel (pos + 2) (List.replicate (n + 3) last ++ lengths)
      else if s = 17 then
        let n ← bits input pos 3
        codeLengths code input wanted fuel (pos + 3) (List.replicate (n + 3) 0 ++ lengths)
      else
        let n ← bits input pos 7
        codeLengths code input wanted fuel (pos + 7) (List.replicate (n + 11) 0 ++ lengths)

def orderedLengths (input : ByteArray) (pos : Nat) : List Nat → Except Stop (List (Nat × Nat))
  | [] => .ok []
  | place :: places => do
    let n ← bits input pos 3
    return (place, n) :: (← orderedLengths input (pos + 3) places)

def ownCodes (input : ByteArray) (pos : Nat) : Except Stop (PrefixCode × PrefixCode × Nat) := do
  let literals := (← bits input pos 5) + 257
  let distances := (← bits input (pos + 5) 5) + 1
  let orders := (← bits input (pos + 10) 4) + 4
  if 286 < literals || 30 < distances then throw .broken
  let given ← orderedLengths input (pos + 14) (lengthOrder.take orders)
  let lengthCode := PrefixCode.ofLengths ((List.range 19).map fun i => (given.lookup i).getD 0)
  if lengthCode.spare != 0 then throw .broken
  let (reversed, pos) ←
    codeLengths lengthCode input (literals + distances) 400 (pos + 14 + 3 * orders) []
  let lengths := reversed.reverse
  let literalCode := PrefixCode.ofLengths (lengths.take literals)
  let distanceCode := PrefixCode.ofLengths (lengths.drop literals)
  if lengths.getD 256 0 == 0 || !literalCode.isUsable || !distanceCode.isUsable then throw .broken
  return (literalCode, distanceCode, pos)

def stored (input : ByteArray) (limit pos : Nat) (output : ByteArray) : Progress :=
  let start := (pos + 7) / 8
  match Bytes.integer? .little input start 2, Bytes.integer? .little input (start + 2) 2 with
  | some length, some complement =>
    if length + complement ≠ 65535 then ⟨output, pos, some .broken⟩
    else
      let there := input.size - (start + 4)
      let taken := min (min length there) (limit - output.size)
      let output := output ++ input.extract (start + 4) (start + 4 + taken)
      let next := (start + 4 + taken) * 8
      if taken = length then ⟨output, next, none⟩
      else if limit ≤ output.size then ⟨output, next, some .full⟩
      else ⟨output, next, some .cut⟩
  | _, _ => ⟨output, pos, some .cut⟩

def block (input : ByteArray) (limit kind pos : Nat) (output : ByteArray) : Progress :=
  let fuel := input.size * 8 + 1
  match kind with
  | 0 => stored input limit pos output
  | 1 => symbols fixedLiterals fixedDistances input limit fuel pos output
  | 2 =>
    match ownCodes input pos with
    | .ok (literals, distances, pos) => symbols literals distances input limit fuel pos output
    | .error stop => ⟨output, pos, some stop⟩
  | _ => ⟨output, pos, some .broken⟩

def blocks (input : ByteArray) (limit : Nat) : Nat → Nat → ByteArray → Progress
  | 0, pos, output => ⟨output, pos, some .cut⟩
  | fuel + 1, pos, output =>
    match bits input pos 1, bits input (pos + 1) 2 with
    | .ok last, .ok kind =>
      let progress := block input limit kind (pos + 3) output
      if progress.stop.isSome || last == 1 then progress
      else blocks input limit fuel progress.pos progress.output
    | _, _ => ⟨output, pos, some .cut⟩

def checksum (bytes : ByteArray) : Nat :=
  let (a, b) := bytes.foldl (fun (a, b) byte =>
    let a := (a + byte.toNat) % 65521
    (a, (b + a) % 65521)) (1, 0)
  b * 65536 + a

def headerFits (first second : Nat) : Bool :=
  first % 16 == 8 && first / 16 ≤ 7 && (first * 256 + second) % 31 == 0 && second / 32 % 2 == 0

def stream (input : ByteArray) (limit : Nat) : Option (ByteArray × Ending) :=
  match Bytes.at? input 0, Bytes.at? input 1 with
  | some first, some second =>
    if !headerFits first.toNat second.toNat then none
    else
      let progress := blocks input limit (input.size * 8) 16 .empty
      match progress.stop with
      | some .broken => none
      | some .full => some (progress.output, .full)
      | some .cut => some (progress.output, .cut)
      | none =>
        match Bytes.integer? .big input ((progress.pos + 7) / 8) 4 with
        | none => some (progress.output, .cut)
        | some sum =>
          if sum = checksum progress.output then some (progress.output, .complete) else none
  | _, _ => some (.empty, .cut)

end ImagePipeline.Inflate
