import ImagePipeline.Failure
import ImagePipeline.Text.Number
import ImagePipeline.Text.Percent
import ImagePipeline.Text.Url

namespace ImagePipeline.Queue

structure Address where
  host : Option String
  port : Option Nat
  database : Option Int
  deriving DecidableEq, Inhabited

namespace Address

open Text.Url (cut)

def schemes : List String := ["redis", "rediss", "unix"]

def afterLast (mark : Char) (chars : List Char) : List Char :=
  (chars.reverse.takeWhile (· != mark)).reverse

def decoded (chars : List Char) : String :=
  let written := String.ofList chars
  (Text.Percent.decode? written).getD written

def wholeNumber? (text : String) : Option Int :=
  if text.contains '.' then none else Text.integer? text

def port? (digits : List Char) : Except Failure (Option Nat) :=
  if digits.isEmpty then .ok none
  else if digits.all Char.isDigit then
    let n := (String.ofList digits).toNat?.getD 0
    if n ≤ 65535 then .ok (if n = 0 then none else some n) else .error .malformedAddress
  else .error .malformedAddress

def hostAndPort (authority : String) : Except Failure (Option String × Option Nat) := do
  let place := afterLast '@' authority.toList
  let (host, port) :=
    if place.contains '[' then
      let (host, rest) := cut ']' (cut '[' place).2
      (host, (cut ':' rest).2)
    else cut ':' place
  let name := decoded (Text.lowerCase (String.ofList host)).toList
  return (if name.isEmpty then none else some name, ← port? port)

def queried (query name : String) : Option String :=
  (query.splitOn "&").findSome? fun field =>
    let (key, value) := cut '=' field.toList
    let plain := value.map fun c => if c == '+' then ' ' else c
    if decoded key == name && !value.isEmpty then some (decoded plain) else none

def database? (path query : String) : Except Failure (Option Int) :=
  match queried query "db" with
  | some value =>
    match wholeNumber? value with
    | some n => .ok (some n)
    | none => .error .malformedAddress
  | none => .ok (wholeNumber? (decoded (path.toList.filter (· != '/'))))

def parse (text : String) : Except Failure Address :=
  if schemes.any fun scheme => text.startsWith (scheme ++ "://") then
    match Text.Url.split? text with
    | none => .error .malformedAddress
    | some url => do
      if url.scheme == "unix" then
        return ⟨none, none, ← database? "" url.query⟩
      let (host, port) ← hostAndPort url.authority
      return ⟨host, port, ← database? url.path url.query⟩
  else .error .unknownQueueScheme

end Address

end ImagePipeline.Queue
