import ImagePipeline.Failure

namespace ImagePipeline.Asset

abbrev Path := List String

namespace Path

def components (text : String) : List String := (text.toList.splitOn '/').map String.ofList

def step (path : Path) (component : String) : Path :=
  if component == "" || component == "." then path
  else if component == ".." then path.dropLast
  else path ++ [component]

def resolve (base : Path) (text : String) : Path :=
  (components text).foldl step (if text.startsWith "/" then [] else base)

def hasNul (text : String) : Bool := text.toList.contains '\x00'

/-- The components of a path lead into or below a base. -/
def isBelow (base path : Path) : Bool := base.isPrefixOf path

def relativeText (base path : Path) : String :=
  let rec strip : Path → Path → List String
    | b :: base, p :: path => if b == p then strip base path else ups (b :: base) ++ p :: path
    | base, path => ups base ++ path
  "/".intercalate (strip base path)
where
  ups (base : Path) : List String := base.map fun _ => ".."

end Path

def trimSlashes (text : String) : String :=
  String.ofList
    ((text.toList.dropWhile (· == '/')).reverse.dropWhile (· == '/')).reverse

def objectKey (space filename : String) : String := trimSlashes space ++ "/" ++ filename

end ImagePipeline.Asset
