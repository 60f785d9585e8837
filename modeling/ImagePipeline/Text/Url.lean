import ImagePipeline.Text.Blank
import ImagePipeline.Text.LowerCase

namespace ImagePipeline.Text

structure Url where
  scheme : String
  authority : String
  path : String
  query : String
  fragment : String
  deriving DecidableEq, Inhabited

namespace Url

def cut (mark : Char) (chars : List Char) : List Char × List Char :=
  let (before, after) := chars.span (· != mark)
  (before, after.drop 1)

def isSchemeChar (c : Char) : Bool := c.isAlphanum || c == '+' || c == '-' || c == '.'

def takeScheme (chars : List Char) : String × List Char :=
  match chars.span isSchemeChar with
  | (first :: rest, ':' :: after) =>
    if first.isAlpha then (lowerCase (String.ofList (first :: rest)), after) else ("", chars)
  | _ => ("", chars)

def takeAuthority : List Char → List Char × List Char
  | '/' :: '/' :: rest => rest.span fun c => c != '/' && c != '?' && c != '#'
  | rest => ([], rest)

def isHex (c : Char) : Bool :=
  c.isDigit || ('a' ≤ c && c ≤ 'f') || ('A' ≤ c && c ≤ 'F')

def isGroup (group : String) : Bool :=
  0 < group.length && group.length ≤ 4 && group.toList.all isHex

def groups (text : String) : List String := if text.isEmpty then [] else text.splitOn ":"

def isGroupAddress (text : String) : Bool :=
  match text.splitOn "::" with
  | [all] => (groups all).length == 8 && (groups all).all isGroup
  | [before, after] =>
    (groups before).length + (groups after).length < 8
      && (groups before).all isGroup && (groups after).all isGroup
  | _ => false

def isOctet (octet : String) : Bool :=
  let digits := octet.toList
  0 < digits.length && digits.length ≤ 3 && digits.all Char.isDigit
    && (digits.length == 1 || digits.head? != some '0') && Nat.ofDigitChars 10 digits 0 ≤ 255

def isDotted (text : String) : Bool :=
  let octets := text.splitOn "."
  octets.length == 4 && octets.all isOctet

def inGroups? (text : String) : Option String :=
  let parts := text.splitOn ":"
  let last := parts.getLastD ""
  if !last.contains '.' then some text
  else if isDotted last then some (":".intercalate (parts.dropLast ++ ["0", "0"]))
  else none

/-- A zone follows the address after a percent sign; it is not empty and holds no other such sign. -/
def isZonedAddress (host : String) : Bool :=
  let (address, zone) := cut '%' host.toList
  (!host.contains '%' || (!zone.isEmpty && !zone.contains '%'))
    && (inGroups? (String.ofList address)).any isGroupAddress

def isLaterAddress (text : String) : Bool :=
  match text.toList with
  | 'v' :: rest =>
    let (version, rest) := rest.span isHex
    !version.isEmpty && rest.head? == some '.' && 1 < rest.length
  | _ => false

def isBracketed (authority : List Char) : Bool :=
  if authority.contains '[' && authority.contains ']' then
    let host := String.ofList (cut ']' (cut '[' authority).2).1
    if host.startsWith "v" then isLaterAddress host else isZonedAddress host
  else !authority.contains '[' && !authority.contains ']'

/-- The characters whose compatibility form holds one of the marks that divide a URL. -/
def lookalikes : List Nat :=
  [0x2047, 0x2048, 0x2049, 0x2100, 0x2101, 0x2105, 0x2106, 0x2a74, 0xfe13, 0xfe16, 0xfe55, 0xfe56,
    0xfe5f, 0xfe6b, 0xff03, 0xff0f, 0xff1a, 0xff1f, 0xff20]

def isAuthority (authority : List Char) : Bool :=
  isBracketed authority && authority.all fun c => !lookalikes.contains c.toNat

def split? (text : String) : Option Url :=
  let start := text.toList.dropWhile fun c => c.toNat ≤ 32
  let (scheme, rest) := takeScheme (start.filter fun c => c != '\t' && c != '\n' && c != '\r')
  let (authority, rest) := takeAuthority rest
  let (rest, fragment) := cut '#' rest
  let (path, query) := cut '?' rest
  if isAuthority authority then
    some ⟨scheme, String.ofList authority, String.ofList path, String.ofList query,
      String.ofList fragment⟩
  else none

def parameterSchemes : List String :=
  ["", "ftp", "hdl", "prospero", "http", "imap", "https", "shttp", "rtsp", "rtsps", "rtspu", "sip",
    "sips", "mms", "sftp", "tel"]

def barePath (url : Url) : String :=
  if parameterSchemes.contains url.scheme then
    let last := (url.path.toList.reverse.takeWhile (· != '/')).reverse
    let before := url.path.toList.take (url.path.length - last.length)
    String.ofList (before ++ (cut ';' last).1)
  else url.path

end Url

end ImagePipeline.Text
