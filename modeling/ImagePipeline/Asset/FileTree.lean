import ImagePipeline.Asset.Path
import ImagePipeline.Association
/-!
A file system without links.

A tree lists what stands at each path below the root: a directory or a file with its bytes. Walking
down reports the first component that cannot be passed: a name of more than 255 bytes, a name that is
missing, or a file where a directory is needed.
-/

namespace ImagePipeline.Asset

inductive Node where
  | directory
  | file (bytes : ByteArray)

inductive FileFault where
  | notFound
  | notADirectory
  | isADirectory
  | nameTooLong
  deriving DecidableEq, Inhabited

namespace FileFault

def toFailure : FileFault → Failure
  | notFound => .foreign .device "No such file or directory"
  | notADirectory => .wrongFileKind
  | isADirectory => .wrongFileKind
  | nameTooLong => .nameTooLong

end FileFault

/-- The nodes below the root, which is always a directory. -/
structure FileTree where
  nodes : List (Path × Node)

namespace FileTree

def empty : FileTree := ⟨[]⟩

def node? (tree : FileTree) (path : Path) : Option Node :=
  if path.isEmpty then some .directory else tree.nodes.lookup path

def put (tree : FileTree) (path : Path) (node : Node) : FileTree :=
  if (tree.nodes.lookup path).isSome then
    ⟨tree.nodes.map fun entry => if entry.1 == path then (path, node) else entry⟩
  else ⟨tree.nodes ++ [(path, node)]⟩

def erase (tree : FileTree) (path : Path) : FileTree :=
  ⟨tree.nodes.filter fun entry => entry.1 != path⟩

theorem node?_put_self (tree : FileTree) {path : Path} (inside : path ≠ []) (node : Node) :
    (tree.put path node).node? path = some node := by
  rw [node?, if_neg (by simpa using inside), put]
  split
  · next present =>
    rw [Association.lookup_replaced_self]
    obtain ⟨old, found⟩ := Option.isSome_iff_exists.1 present
    simp [found]
  · next absent =>
    rw [Association.lookup_append_single, Option.not_isSome_iff_eq_none.1 absent]
    simp

theorem node?_put_of_ne (tree : FileTree) {path other : Path} (distinct : other ≠ path)
    (node : Node) : (tree.put path node).node? other = tree.node? other := by
  rw [node?, node?, put]
  split
  · rfl
  · split
    · exact Association.lookup_replaced_of_ne distinct node tree.nodes
    · rw [Association.lookup_append_single]
      simp [distinct]

theorem node?_erase_self (tree : FileTree) {path : Path} (inside : path ≠ []) :
    (tree.erase path).node? path = none := by
  rw [node?, if_neg (by simpa using inside)]
  exact Association.lookup_without_self path tree.nodes

theorem node?_erase_of_ne (tree : FileTree) {path other : Path} (distinct : other ≠ path) :
    (tree.erase path).node? other = tree.node? other := by
  rw [node?, node?]
  split
  · rfl
  · exact Association.lookup_without_of_ne distinct tree.nodes

def maxName : Nat := 255

def maxPath : Nat := 4095

def walkFrom (tree : FileTree) (reached : Path) (node : Node) : List String → Except FileFault Node
  | [] => .ok node
  | name :: rest =>
    match node with
    | .file _ => .error .notADirectory
    | .directory =>
      if maxName < name.utf8ByteSize then .error .nameTooLong
      else match tree.node? (reached ++ [name]) with
        | none => .error .notFound
        | some next => walkFrom tree (reached ++ [name]) next rest

def walk (tree : FileTree) (path : Path) : Except FileFault Node :=
  let length := path.foldl (fun length name => length + name.utf8ByteSize + 1) 0
  if maxPath < length then .error .nameTooLong else walkFrom tree [] .directory path

def read (tree : FileTree) (path : Path) : Except FileFault ByteArray :=
  match tree.walk path with
  | .ok (.file bytes) => .ok bytes
  | .ok .directory => .error .isADirectory
  | .error fault => .error fault

/-- Opens a file for writing: it is empty afterwards, and made if it was missing. -/
def truncate (tree : FileTree) (path : Path) : Except FileFault FileTree :=
  match tree.walk path with
  | .ok (.file _) => .ok (tree.put path (.file ByteArray.empty))
  | .ok .directory => .error .isADirectory
  | .error .notFound =>
    match tree.walk path.dropLast with
    | .ok .directory => .ok (tree.put path (.file ByteArray.empty))
    | .ok (.file _) => .error .notADirectory
    | .error fault => .error fault
  | .error fault => .error fault

def remove (tree : FileTree) (path : Path) : Except FileFault FileTree :=
  match tree.walk path with
  | .ok (.file _) => .ok (tree.erase path)
  | .ok .directory => .error .isADirectory
  | .error fault => .error fault

def makeDirectories (tree : FileTree) (reached : Path) : List String → Except FileFault FileTree
  | [] => .ok tree
  | name :: rest =>
    if name == "" || name == "." then makeDirectories tree reached rest
    else if name == ".." then makeDirectories tree reached.dropLast rest
    else if maxName < name.utf8ByteSize then .error .nameTooLong
    else match tree.node? (reached ++ [name]) with
      | some .directory => makeDirectories tree (reached ++ [name]) rest
      | some (.file _) => .error .notADirectory
      | none => makeDirectories (tree.put (reached ++ [name]) .directory) (reached ++ [name]) rest

end FileTree

end ImagePipeline.Asset
