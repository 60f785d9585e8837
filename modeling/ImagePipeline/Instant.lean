namespace ImagePipeline

structure Instant where
  micros : Int
  deriving DecidableEq, Inhabited

namespace Instant

instance : LE Instant := ⟨fun a b => a.micros ≤ b.micros⟩

instance (a b : Instant) : Decidable (a ≤ b) := inferInstanceAs (Decidable (a.micros ≤ b.micros))

def later (t : Instant) (seconds : Int) : Instant := ⟨t.micros + seconds * 1000000⟩

def daysOfDate (year month day : Int) : Int :=
  let y := if month ≤ 2 then year - 1 else year
  let era := y.fdiv 400
  let yearOfEra := y - era * 400
  let dayOfYear := (153 * (if month > 2 then month - 3 else month + 9) + 2) / 5 + day - 1
  let dayOfEra := yearOfEra * 365 + yearOfEra / 4 - yearOfEra / 100 + dayOfYear
  era * 146097 + dayOfEra - 719468

def dateOfDays (days : Int) : Int × Int × Int :=
  let z := days + 719468
  let era := z.fdiv 146097
  let dayOfEra := z - era * 146097
  let yearOfEra :=
    (dayOfEra - dayOfEra / 1460 + dayOfEra / 36524 - dayOfEra / 146096) / 365
  let dayOfYear := dayOfEra - (365 * yearOfEra + yearOfEra / 4 - yearOfEra / 100)
  let shifted := (5 * dayOfYear + 2) / 153
  let day := dayOfYear - (153 * shifted + 2) / 5 + 1
  let month := if shifted < 10 then shifted + 3 else shifted - 9
  let year := yearOfEra + era * 400 + (if month ≤ 2 then 1 else 0)
  (year, month, day)

def padded (width : Nat) (n : Int) : String :=
  let text := toString n.natAbs
  String.ofList (List.replicate (width - text.length) '0') ++ text

def clock (t : Instant) : String :=
  let seconds := t.micros.fdiv 1000000
  let micros := t.micros - seconds * 1000000
  let days := seconds.fdiv 86400
  let inDay := seconds - days * 86400
  let (year, month, day) := dateOfDays days
  padded 4 year ++ "-" ++ padded 2 month ++ "-" ++ padded 2 day ++ "T"
    ++ padded 2 (inDay / 3600) ++ ":" ++ padded 2 (inDay / 60 % 60) ++ ":" ++ padded 2 (inDay % 60)
    ++ (if micros == 0 then "" else "." ++ padded 6 micros)

def isoOffset (t : Instant) : String := t.clock ++ "+00:00"

def isoZulu (t : Instant) : String := t.clock ++ "Z"

end Instant

/-- A written time: what the wall clock shows, and how many seconds it is ahead, if that is known. -/
structure WrittenTime where
  wall : Int
  offset : Option Int
  deriving DecidableEq, Inhabited

namespace WrittenTime

def instant? (t : WrittenTime) : Option Instant :=
  t.offset.map fun seconds => ⟨t.wall - seconds * 1000000⟩

def ofInstant (t : Instant) : WrittenTime := ⟨t.micros, some 0⟩

def takeNumber? (width : Nat) (chars : List Char) : Option (Int × List Char) :=
  let digits := chars.take width
  if digits.length == width && digits.all Char.isDigit then
    some (digits.foldl (fun n c => n * 10 + (c.toNat - 48 : Nat)) (0 : Nat), chars.drop width)
  else none

def takeChar? (expected : Char) : List Char → Option (List Char)
  | c :: rest => if c == expected then some rest else none
  | [] => none

def takeClock? (chars : List Char) : Option (Int × List Char) := do
  let (hours, rest) ← takeNumber? 2 chars
  let rest ← takeChar? ':' rest
  let (minutes, rest) ← takeNumber? 2 rest
  match rest with
  | ':' :: rest =>
    let (seconds, rest) ← takeNumber? 2 rest
    return (hours * 3600 + minutes * 60 + seconds, rest)
  | rest => return (hours * 3600 + minutes * 60, rest)

def fractionMicros (digits : List Char) : Int :=
  ((digits ++ List.replicate 6 '0').take 6).foldl
    (fun (n : Int) c => n * 10 + ((c.toNat - 48 : Nat) : Int)) 0

def parse? (text : String) : Option WrittenTime := do
  let (year, rest) ← takeNumber? 4 text.toList
  let rest ← takeChar? '-' rest
  let (month, rest) ← takeNumber? 2 rest
  let rest ← takeChar? '-' rest
  let (day, rest) ← takeNumber? 2 rest
  let days := Instant.daysOfDate year month day
  match rest with
  | [] => return ⟨days * 86400000000, none⟩
  | _ :: rest =>
    let (seconds, rest) ← takeClock? rest
    let (micros, rest) := match rest with
      | '.' :: rest => let (digits, rest) := rest.span Char.isDigit; (fractionMicros digits, rest)
      | rest => (0, rest)
    let wall := (days * 86400 + seconds) * 1000000 + micros
    match rest with
    | [] => return ⟨wall, none⟩
    | 'Z' :: [] => return ⟨wall, some 0⟩
    | '+' :: rest => return ⟨wall, some (← takeClock? rest).1⟩
    | '-' :: rest => return ⟨wall, some (-(← takeClock? rest).1)⟩
    | _ => none

end WrittenTime

end ImagePipeline
