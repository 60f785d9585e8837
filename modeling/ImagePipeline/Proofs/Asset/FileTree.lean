import ImagePipeline.Asset.FileTree

namespace ImagePipeline.Asset

namespace FileTree

variable {tree tree' : FileTree} {path other reached front rest : Path} {node next : Node}
  {bytes : ByteArray}

def file? (tree : FileTree) (path : Path) : Option ByteArray := (tree.read path).toOption

theorem walkFrom_cons_ok {name : String}
    (walked : tree.walkFrom reached node (name :: rest) = .ok next) :
    node = .directory ∧ ¬ maxName < name.utf8ByteSize ∧
      ∃ child, tree.node? (reached ++ [name]) = some child ∧
        tree.walkFrom (reached ++ [name]) child rest = .ok next := by
  unfold walkFrom at walked
  split at walked
  · cases walked
  · split at walked
    · cases walked
    · next short =>
        split at walked
        · cases walked
        · next child found => exact ⟨rfl, short, child, found, walked⟩

theorem walkFrom_append :
    tree.walkFrom reached node (front ++ rest) =
      (tree.walkFrom reached node front).bind fun next =>
        tree.walkFrom (reached ++ front) next rest := by
  induction front generalizing reached node with
  | nil => simp [walkFrom, Except.bind]
  | cons name front ih =>
      simp only [List.cons_append, walkFrom]
      split
      · rfl
      · split
        · rfl
        · split
          · rfl
          · rw [ih, List.append_assoc]
            rfl

theorem node?_of_walkFrom (here : tree.node? reached = some node)
    (walked : tree.walkFrom reached node rest = .ok next) :
    tree.node? (reached ++ rest) = some next := by
  induction rest generalizing reached node with
  | nil =>
      cases walked
      simpa using here
  | cons name rest ih =>
      obtain ⟨-, -, child, found, walked⟩ := walkFrom_cons_ok walked
      simpa using ih found walked

theorem walkFrom_congr
    (same : ∀ front, front ≠ [] → front <+: rest →
      tree'.node? (reached ++ front) = tree.node? (reached ++ front)) :
    tree'.walkFrom reached node rest = tree.walkFrom reached node rest := by
  induction rest generalizing reached node with
  | nil => rfl
  | cons name rest ih =>
      have first := same [name] (List.cons_ne_nil _ _) (by simp)
      have later (child : Node) : tree'.walkFrom (reached ++ [name]) child rest =
          tree.walkFrom (reached ++ [name]) child rest := by
        apply ih
        intro front inside within
        simpa using same (name :: front) (List.cons_ne_nil _ _) (by simpa using within)
      simp only [walkFrom, first, later]

def Fits (path : Path) : Prop :=
  path.foldl (fun length name => length + name.utf8ByteSize + 1) 0 ≤ maxPath

theorem walk_eq_ok_iff :
    tree.walk path = .ok node ↔ Fits path ∧ tree.walkFrom [] .directory path = .ok node := by
  unfold walk Fits
  simp only []
  split
  · next long => simp [Nat.not_le.mpr long]
  · next fits => simp [Nat.not_lt.mp fits]

theorem node?_of_walkFrom_root (walked : tree.walkFrom [] .directory path = .ok node) :
    tree.node? path = some node :=
  have root : tree.node? [] = some .directory := rfl
  node?_of_walkFrom root walked

theorem node?_of_walk (walked : tree.walk path = .ok node) : tree.node? path = some node :=
  node?_of_walkFrom_root (walk_eq_ok_iff.mp walked).2

theorem file?_eq_some_iff : tree.file? path = some bytes ↔ tree.walk path = .ok (.file bytes) := by
  unfold file? read
  split <;> simp_all [Except.toOption]

theorem node?_of_file? (found : tree.file? path = some bytes) :
    tree.node? path = some (.file bytes) :=
  node?_of_walk (file?_eq_some_iff.mp found)

/-- Two trees have the same nodes but at one path, where neither has a directory. -/
structure AlikeBut (path : Path) (tree tree' : FileTree) : Prop where
  same : ∀ other, other ≠ path → tree'.node? other = tree.node? other
  before : tree.node? path ≠ some .directory
  after : tree'.node? path ≠ some .directory

theorem file?_below (flat : tree.node? path ≠ some .directory) (inside : rest ≠ []) :
    tree.file? (path ++ rest) = none := by
  rw [Option.eq_none_iff_forall_ne_some]
  intro bytes found
  have walked := (walk_eq_ok_iff.mp (file?_eq_some_iff.mp found)).2
  rw [walkFrom_append] at walked
  cases reached : tree.walkFrom [] .directory path with
  | error fault =>
      rw [reached] at walked
      cases walked
  | ok node =>
      rw [reached] at walked
      have here := node?_of_walkFrom_root reached
      obtain ⟨name, rest, rfl⟩ := List.exists_cons_of_ne_nil inside
      obtain ⟨rfl, -⟩ := walkFrom_cons_ok walked
      exact flat here

theorem AlikeBut.file?_of_ne (alike : AlikeBut path tree tree') (distinct : other ≠ path) :
    tree'.file? other = tree.file? other := by
  by_cases below : path <+: other
  · obtain ⟨rest, rfl⟩ := below
    have inside : rest ≠ [] := by
      rintro rfl
      simp at distinct
    rw [file?_below alike.before inside, file?_below alike.after inside]
  · have same : tree'.walkFrom [] .directory other = tree.walkFrom [] .directory other := by
      apply walkFrom_congr
      intro front _ within
      refine alike.same _ ?_
      rintro rfl
      exact below within
    unfold file? read walk
    rw [same]

/-- A file can be opened for writing at the path. -/
structure Opens (tree : FileTree) (path : Path) : Prop where
  fits : Fits path
  inside : ∃ parent name, path = parent ++ [name] ∧ ¬ maxName < name.utf8ByteSize ∧
    tree.walkFrom [] .directory parent = .ok .directory
  flat : tree.node? path ≠ some .directory

theorem Opens.ne_nil (opens : tree.Opens path) : path ≠ [] := by
  rintro rfl
  exact opens.flat rfl

theorem opens_of_walk (walked : tree.walk path = .ok (.file bytes)) : tree.Opens path := by
  have here := node?_of_walk walked
  obtain ⟨fits, whole⟩ := walk_eq_ok_iff.mp walked
  have flat : tree.node? path ≠ some .directory := by
    rw [here]
    exact nofun
  refine ⟨fits, ?_, flat⟩
  rcases List.eq_nil_or_concat path with rfl | ⟨parent, name, rfl⟩
  · cases whole
  · rw [List.concat_eq_append] at *
    rw [walkFrom_append] at whole
    cases reached : tree.walkFrom [] .directory parent with
    | error fault =>
        rw [reached] at whole
        cases whole
    | ok node =>
        rw [reached] at whole
        obtain ⟨rfl, short, -⟩ := walkFrom_cons_ok whole
        exact ⟨parent, name, rfl, short, reached⟩

theorem opens_of_missing (missing : tree.walk path = .error .notFound)
    (above : tree.walk path.dropLast = .ok .directory) : tree.Opens path := by
  have fits : Fits path := by
    unfold walk at missing
    simp only [] at missing
    split at missing
    · cases missing
    · next fits => exact Nat.not_lt.mp fits
  have whole : tree.walkFrom [] .directory path = .error .notFound := by
    unfold walk at missing
    simpa [Nat.not_lt.mpr fits] using missing
  obtain ⟨-, reached⟩ := walk_eq_ok_iff.mp above
  rcases List.eq_nil_or_concat path with rfl | ⟨parent, name, rfl⟩
  · cases whole
  · rw [List.concat_eq_append] at *
    rw [List.dropLast_concat] at reached
    rw [walkFrom_append, reached] at whole
    simp only [Except.bind, walkFrom, List.nil_append] at whole
    split at whole
    · cases whole
    · next short =>
        refine ⟨fits, ⟨parent, name, rfl, short, reached⟩, ?_⟩
        intro found
        rw [found] at whole
        cases whole

theorem truncate_ok (opened : tree.truncate path = .ok tree') :
    tree.Opens path ∧ tree' = tree.put path (.file ByteArray.empty) := by
  unfold truncate at opened
  split at opened
  · next walked =>
      cases opened
      exact ⟨opens_of_walk walked, rfl⟩
  · cases opened
  · next missing =>
      split at opened
      · next parent =>
          cases opened
          exact ⟨opens_of_missing missing parent, rfl⟩
      · cases opened
      · cases opened
  · cases opened

theorem Opens.alikeBut_put (opens : tree.Opens path) (bytes : ByteArray) :
    AlikeBut path tree (tree.put path (.file bytes)) where
  same _ distinct := node?_put_of_ne tree distinct _
  before := opens.flat
  after := by
    rw [node?_put_self tree opens.ne_nil]
    exact nofun

theorem Opens.file?_put_self (opens : tree.Opens path) (bytes : ByteArray) :
    (tree.put path (.file bytes)).file? path = some bytes := by
  obtain ⟨parent, name, rfl, short, reached⟩ := opens.inside
  have same : (tree.put (parent ++ [name]) (.file bytes)).walkFrom [] .directory parent =
      tree.walkFrom [] .directory parent := by
    apply walkFrom_congr
    intro front _ within
    refine node?_put_of_ne tree ?_ _
    rintro rfl
    have longer := within.length_le
    rw [List.length_append, List.length_singleton] at longer
    omega
  refine file?_eq_some_iff.mpr (walk_eq_ok_iff.mpr ⟨opens.fits, ?_⟩)
  rw [walkFrom_append, same, reached]
  simp only [Except.bind, walkFrom, short, if_false, List.nil_append]
  rw [node?_put_self tree (by simp)]

theorem Opens.put (opens : tree.Opens path) (bytes : ByteArray) :
    (tree.put path (.file bytes)).Opens path :=
  opens_of_walk (file?_eq_some_iff.mp (opens.file?_put_self bytes))

theorem alikeBut_erase (inside : path ≠ []) (flat : tree.node? path ≠ some .directory) :
    AlikeBut path tree (tree.erase path) where
  same _ distinct := node?_erase_of_ne tree distinct
  before := flat
  after := by
    rw [node?_erase_self tree inside]
    exact nofun

theorem file?_erase_self (inside : path ≠ []) : (tree.erase path).file? path = none := by
  rw [Option.eq_none_iff_forall_ne_some]
  intro bytes found
  have here := node?_of_file? found
  rw [node?_erase_self tree inside] at here
  cases here

theorem remove_ok (removed : tree.remove path = .ok tree') :
    AlikeBut path tree tree' ∧ tree'.file? path = none := by
  unfold remove at removed
  split at removed
  · next walked =>
      cases removed
      have opens := opens_of_walk walked
      exact ⟨alikeBut_erase opens.ne_nil opens.flat, file?_erase_self opens.ne_nil⟩
  · cases removed
  · cases removed

theorem file?_of_not_removed (missing : tree.remove path = .error .notFound) :
    tree.file? path = none := by
  unfold remove at missing
  split at missing
  · cases missing
  · cases missing
  · next fault walked =>
      unfold file? read
      rw [walked]
      rfl

end FileTree

end ImagePipeline.Asset
