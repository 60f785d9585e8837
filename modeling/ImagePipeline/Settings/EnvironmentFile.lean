import ImagePipeline.Text.Blank

namespace ImagePipeline.EnvironmentFile

open Text (isSpace)

def isLineEnd (c : Char) : Bool := c == '\n' || c == '\r'

def isGap (c : Char) : Bool := isSpace c && !isLineEnd c

def skipLine (chars : List Char) : List Char := chars.dropWhile fun c => !isLineEnd c

def skipExport (chars : List Char) : List Char :=
  match chars with
  | 'e' :: 'x' :: 'p' :: 'o' :: 'r' :: 't' :: c :: rest =>
    if isGap c then rest.dropWhile isGap else chars
  | _ => chars

def takeName? (chars : List Char) : Option (List Char × List Char) :=
  match chars with
  | '\'' :: rest =>
    match rest.span (· != '\'') with
    | (name, _ :: rest) => if name.isEmpty then none else some (name, rest)
    | (_, []) => none
  | chars =>
    let (name, rest) := chars.span fun c => c != '=' && c != '#' && !isSpace c
    if name.isEmpty then none else some (name, rest)

def takeQuoted? (quote : Char) : List Char → Option (List Char × List Char)
  | [] => none
  | [c] => if c == quote then some ([], []) else none
  | c :: d :: rest =>
    if c == quote then some ([], d :: rest)
    else if c == '\\' && d == quote then
      match takeQuoted? quote rest with
      | some (value, rest) => some (c :: d :: value, rest)
      | none => some ([c], rest)
    else (takeQuoted? quote (d :: rest)).map fun (value, rest) => (c :: value, rest)

def escaped? (quote c : Char) : Option Char :=
  if c == '\\' || c == '\'' then some c
  else if quote == '\'' then none
  else match c with
    | '"' => some '"'
    | 'a' => some '\x07'
    | 'b' => some '\x08'
    | 'f' => some '\x0c'
    | 'n' => some '\n'
    | 'r' => some '\r'
    | 't' => some '\t'
    | 'v' => some '\x0b'
    | _ => none

def unescape (quote : Char) : List Char → List Char
  | '\\' :: c :: rest =>
    match escaped? quote c with
    | some replaced => replaced :: unescape quote rest
    | none => '\\' :: unescape quote (c :: rest)
  | c :: rest => c :: unescape quote rest
  | [] => []

def withoutComment : List Char → List Char
  | [] => []
  | c :: rest =>
    if isSpace c && (rest.dropWhile isSpace).head? == some '#' then [] else c :: withoutComment rest

def takeValue? (chars : List Char) : Option (List Char × List Char) :=
  match chars with
  | '\'' :: rest => (takeQuoted? '\'' rest).map fun (v, rest) => (unescape '\'' v, rest)
  | '"' :: rest => (takeQuoted? '"' rest).map fun (v, rest) => (unescape '"' v, rest)
  | chars =>
    let (line, rest) := chars.span fun c => !isLineEnd c
    some (((withoutComment line).reverse.dropWhile isSpace).reverse, rest)

def atLineEnd (chars : List Char) : Bool :=
  let rest := chars.dropWhile isGap
  let rest := if rest.head? == some '#' then skipLine rest else rest
  rest.head?.all isLineEnd

/-- What one line gives: a name with its value, nothing, or nothing because it does not fit. What
follows the part that was read comes with it. -/
def takeLine (chars : List Char) : Option (String × Option String) × List Char :=
  let start := skipExport chars
  if start.head? == some '#' then (none, skipLine start)
  else
    match takeName? start with
    | none => (none, skipLine start)
    | some (name, rest) =>
      match rest.dropWhile isGap with
      | '=' :: rest =>
        let rest := rest.dropWhile isGap
        match takeValue? rest with
        | none => (none, skipLine rest)
        | some (value, rest) =>
          if atLineEnd rest then
            (some (String.ofList name, some (String.ofList value)), skipLine rest)
          else (none, skipLine rest)
      | rest =>
        if atLineEnd rest then (some (String.ofList name, none), skipLine rest)
        else (none, skipLine rest)

def entries : Nat → List Char → List (String × Option String)
  | 0, _ => []
  | lines + 1, chars =>
    match chars.dropWhile isSpace with
    | [] => []
    | start =>
      let (entry, rest) := takeLine start
      entry.toList ++ entries lines rest

def parse (text : String) : List (String × Option String) := entries (text.length + 1) text.toList

def takeReference? : List Char → Option (String × String × List Char)
  | '$' :: '\x7b' :: rest =>
    match rest.span fun c => c != '\x7d' && c != ':' with
    | (name, '\x7d' :: rest) => some (String.ofList name, "", rest)
    | (name, ':' :: '-' :: rest) =>
      match rest.span (· != '\x7d') with
      | (usual, _ :: rest) => some (String.ofList name, String.ofList usual, rest)
      | (_, []) => none
    | _ => none
  | _ => none

def replaceReferences (known : String → Option String) : Nat → List Char → List Char
  | 0, chars => chars
  | _, [] => []
  | length + 1, c :: rest =>
    match takeReference? (c :: rest) with
    | some (name, usual, rest) =>
      ((known name).getD usual).toList ++ replaceReferences known length rest
    | none => c :: replaceReferences known length rest

def lookUp (environment : List (String × String)) (entries : List (String × Option String))
    (name : String) : Option String :=
  match entries.reverse.lookup name with
  | some value => some (value.getD "")
  | none => environment.lookup name

def resolveFrom (environment : List (String × String)) :
    List (String × Option String) → List (String × Option String) → List (String × Option String)
  | done, [] => done
  | done, (name, value) :: rest =>
    let value := value.map fun text =>
      String.ofList (replaceReferences (lookUp environment done) text.length text.toList)
    resolveFrom environment (done ++ [(name, value)]) rest

def resolve (environment : List (String × String)) (entries : List (String × Option String)) :
    List (String × Option String) :=
  resolveFrom environment [] entries

end ImagePipeline.EnvironmentFile
