import ImagePipeline.Asset.BucketStore
import ImagePipeline.Proofs.Asset.Objects
import ImagePipeline.Proofs.Script.Running
import ImagePipeline.Proofs.Workflow.Naming

namespace ImagePipeline.Asset

structure FileName (name : String) : Prop extends Path.Plain name where
  noNul : '\x00' ∉ name.toList
  short : name.utf8ByteSize ≤ FileTree.maxName

instance (name : String) : Decidable (FileName name) :=
  decidable_of_iff (((name ≠ "" ∧ name ≠ "." ∧ name ≠ "..") ∧ '/' ∉ name.toList) ∧
      '\x00' ∉ name.toList ∧ name.utf8ByteSize ≤ FileTree.maxName)
    ⟨fun ⟨⟨downward, single⟩, noNul, short⟩ => ⟨⟨downward, single⟩, noNul, short⟩,
      fun named => ⟨⟨named.downward, named.single⟩, named.noNul, named.short⟩⟩

inductive Space where
  | upload
  | processed
  deriving DecidableEq

namespace Space

def name : Space → String
  | upload => "original"
  | processed => "processed"

variable {space other : Space} {name name' : String}

def key (space : Space) (name : String) : String := objectKey space.name name

theorem key_eq (space : Space) (name : String) : space.key name = space.name ++ "/" ++ name := by
  have trimmed : trimSlashes space.name = space.name := by cases space <;> decide
  rw [key, objectKey, trimmed]

theorem key_injective (same : space.key name = other.key name') : space = other ∧ name = name' := by
  rw [key_eq, key_eq] at same
  have first := congrArg (·.toList.head?) same
  have alike : space = other := by
    cases space with
    | upload =>
        cases other with
        | upload => rfl
        | processed => simp [Space.name] at first
    | processed =>
        cases other with
        | upload => simp [Space.name] at first
        | processed => rfl
  subst alike
  exact ⟨rfl, (String.append_right_inj _).mp same⟩

theorem key_isEmpty (space : Space) (name : String) : (space.key name).isEmpty = false := by
  rw [key_eq]
  cases space <;> simp [Space.name]

end Space

def place (base : Path) (space : Space) (name : String) : Path := base ++ [space.name] ++ [name]

theorem place_injective {base : Path} {space other : Space} {name name' : String}
    (same : place base space name = place base other name') : space.key name = other.key name' := by
  obtain ⟨front, last⟩ := List.append_inj' same rfl
  obtain ⟨-, spaces⟩ := List.append_inj' front rfl
  rw [Space.key, Space.key, List.singleton_inj.mp spaces, List.singleton_inj.mp last]

theorem place_ne_nil (base : Path) (space : Space) (name : String) : place base space name ≠ [] := by
  simp [place]

namespace LocalStore

def usual (base : Path) : LocalStore := ⟨base, Space.upload.name, Space.processed.name⟩

variable {base : Path} {space : Space} {name : String}

theorem locate_key (base : Path) (space : Space) (named : FileName name) :
    (usual base).locate (space.key name) = .ok (place base space name) := by
  have noNul : Path.hasNul (space.key name) = false := by
    have free := named.noNul
    rw [Space.key_eq]
    cases space <;> simp [Path.hasNul, Space.name, free]
  have relative : (space.key name).startsWith "/" = false := by
    rw [Space.key_eq]
    cases space <;> simp [Space.name]
  have parts : Path.components (space.key name) = [space.name, name] := by
    rw [Space.key_eq, Path.components_append named.single]
    cases space <;> rfl
  have down : Path.step base space.name = base ++ [space.name] := by cases space <;> rfl
  have further : Path.step (base ++ [space.name]) name = place base space name :=
    Path.step_plain named.toPlain _
  have resolved : Path.resolve base (space.key name) = place base space name := by
    rw [Path.resolve, relative, parts]
    simp only [Bool.false_eq_true, if_false, List.foldl_cons, List.foldl_nil, down, further]
  have below : Path.isBelow base (place base space name) = true := by
    simp [Path.isBelow, place]
  simp only [locate, noNul, usual, resolved, below, Bool.false_eq_true, if_false, if_true]

end LocalStore

namespace FileTree

variable {path : Path} {files between files' : FileTree}

theorem AlikeBut.trans (first : AlikeBut path files between) (second : AlikeBut path between files') :
    AlikeBut path files files' where
  same other distinct := (second.same other distinct).trans (first.same other distinct)
  before := first.before
  after := second.after

end FileTree

/-- Both namespaces are directories, and what stands under a file name there is a file. -/
structure Shelved (base : Path) (files : FileTree) : Prop where
  fits : ∀ space name, FileName name → FileTree.Fits (place base space name)
  directory : ∀ space : Space, files.walkFrom [] .directory (base ++ [space.name]) = .ok .directory
  flat : ∀ space name, FileName name → files.node? (place base space name) ≠ some .directory

namespace Shelved

open FileTree

variable {base : Path} {files files' : FileTree} {space : Space} {name : String} {bytes : ByteArray}

theorem change (shelved : Shelved base files)
    (alike : AlikeBut (place base space name) files files') : Shelved base files' where
  fits := shelved.fits
  directory other := by
    rw [walkFrom_congr, shelved.directory]
    intro front _ within
    apply alike.same
    rintro rfl
    have longer := within.length_le
    simp [place] at longer
  flat other name' named := by
    by_cases same : place base other name' = place base space name
    · rw [same]
      exact alike.after
    · rw [alike.same _ same]
      exact shelved.flat other name' named

theorem walk_cases (shelved : Shelved base files) (space : Space) (named : FileName name) :
    files.file? (place base space name) = none ∧
        files.walk (place base space name) = .error .notFound ∨
      ∃ bytes, files.file? (place base space name) = some bytes ∧
        files.walk (place base space name) = .ok (.file bytes) := by
  have flat := shelved.flat space name named
  have walked : files.walk (place base space name) =
      files.walkFrom (base ++ [space.name]) .directory [name] := by
    have fits : ¬ maxPath < _ := Nat.not_lt.mpr (shelved.fits space name named)
    unfold walk
    simp only [fits, if_false]
    rw [place, walkFrom_append, shelved.directory space]
    rfl
  have short := Nat.not_lt.mpr named.short
  cases found : files.node? (base ++ [space.name] ++ [name]) with
  | none =>
      have missing : files.walk (place base space name) = .error .notFound := by
        simp only [walked, walkFrom, short, if_false, found]
      refine .inl ⟨Option.eq_none_iff_forall_ne_some.mpr fun bytes there => ?_, missing⟩
      rw [file?_eq_some_iff, missing] at there
      cases there
  | some node =>
      have reached : files.walk (place base space name) = .ok node := by
        simp only [walked, walkFrom, short, if_false, found]
      cases node with
      | directory => exact absurd found flat
      | file bytes => exact .inr ⟨bytes, file?_eq_some_iff.mpr reached, reached⟩

theorem truncate (shelved : Shelved base files) (space : Space) (named : FileName name) :
    files.truncate (place base space name) =
      .ok (files.put (place base space name) (.file ByteArray.empty)) := by
  unfold FileTree.truncate
  rcases shelved.walk_cases space named with ⟨-, missing⟩ | ⟨bytes, -, found⟩
  · have above : files.walk (place base space name).dropLast = .ok .directory := by
      refine walk_eq_ok_iff.mpr ⟨?_, ?_⟩
      · have fits := shelved.fits space name named
        rw [place, Fits, List.foldl_append] at fits
        rw [place, List.dropLast_concat, Fits]
        simp only [List.foldl_cons, List.foldl_nil] at fits
        omega
      · rw [place, List.dropLast_concat]
        exact shelved.directory space
    simp only [missing, above]
  · simp only [found]

end Shelved

namespace FileTree

variable {way reached rest : Path} {tree between tree' : FileTree} {node next : Node}

structure Extended (way : Path) (tree tree' : FileTree) : Prop where
  keeps : ∀ {path node}, tree.node? path = some node → tree'.node? path = some node
  made : ∀ {path node}, tree'.node? path = some node →
    tree.node? path = some node ∨ path <+: way ∧ node = .directory

def Passable (way : Path) (tree : FileTree) : Prop :=
  ∀ {path bytes}, path <+: way → tree.node? path ≠ some (.file bytes)

theorem Extended.refl (way : Path) (tree : FileTree) : Extended way tree tree where
  keeps := id
  made := .inl

theorem Extended.trans (first : Extended way tree between) (second : Extended way between tree') :
    Extended way tree tree' where
  keeps found := second.keeps (first.keeps found)
  made found := by
    rcases second.made found with earlier | here
    · exact first.made earlier
    · exact .inr here

theorem Extended.mono {further : Path} (extended : Extended way tree tree') (on : way <+: further) :
    Extended further tree tree' where
  keeps := extended.keeps
  made found := (extended.made found).imp_right fun ⟨within, kind⟩ => ⟨within.trans on, kind⟩

theorem Extended.passable {other : Path} (extended : Extended way tree tree')
    (passable : Passable other tree) : Passable other tree' := by
  intro path bytes within found
  rcases extended.made found with earlier | ⟨-, kind⟩
  · exact passable within earlier
  · cases kind

theorem walkFrom_of_keeps
    (keeps : ∀ {path node}, tree.node? path = some node → tree'.node? path = some node)
    (walked : tree.walkFrom reached node rest = .ok next) :
    tree'.walkFrom reached node rest = .ok next := by
  induction rest generalizing reached node with
  | nil => exact walked
  | cons name rest ih =>
      obtain ⟨rfl, short, child, found, walked⟩ := walkFrom_cons_ok walked
      unfold FileTree.walkFrom
      simp only [if_neg short, keeps found]
      exact ih walked

theorem Extended.walkFrom (extended : Extended way tree tree')
    (walked : tree.walkFrom reached node rest = .ok next) :
    tree'.walkFrom reached node rest = .ok next :=
  walkFrom_of_keeps extended.keeps walked

theorem extended_put {path : Path} (inside : path ≠ []) (missing : tree.node? path = none) :
    Extended path tree (tree.put path .directory) where
  keeps {other node} found := by
    rw [node?_put_of_ne tree _ .directory, found]
    rintro rfl
    rw [missing] at found
    cases found
  made {other node} found := by
    by_cases same : other = path
    · subst same
      rw [node?_put_self tree inside] at found
      exact .inr ⟨List.prefix_rfl, (Option.some.inj found).symm⟩
    · rw [node?_put_of_ne tree same] at found
      exact .inl found

structure DirectoryName (name : String) : Prop where
  downward : name ≠ "" ∧ name ≠ "." ∧ name ≠ ".."
  short : name.utf8ByteSize ≤ maxName

instance (name : String) : Decidable (DirectoryName name) :=
  decidable_of_iff ((name ≠ "" ∧ name ≠ "." ∧ name ≠ "..") ∧ name.utf8ByteSize ≤ maxName)
    ⟨fun ⟨downward, short⟩ => ⟨downward, short⟩, fun named => ⟨named.downward, named.short⟩⟩

theorem makeDirectories_cons {name : String} (rest : Path) (named : DirectoryName name)
    (passable : Passable (reached ++ [name]) tree) :
    ∃ between, Extended (reached ++ [name]) tree between ∧
      between.node? (reached ++ [name]) = some .directory ∧
      tree.makeDirectories reached (name :: rest) =
        between.makeDirectories (reached ++ [name]) rest := by
  obtain ⟨given, notDot, notUp⟩ := named.downward
  have short := Nat.not_lt.mpr named.short
  cases found : tree.node? (reached ++ [name]) with
  | none =>
      have inside : reached ++ [name] ≠ [] := by simp
      refine ⟨_, extended_put inside found, node?_put_self tree inside .directory, ?_⟩
      simp only [makeDirectories, beq_iff_eq, given, notDot, notUp, short, found, or_self,
        Bool.or_eq_true, if_false]
  | some node =>
      cases node with
      | file bytes => exact absurd found (passable List.prefix_rfl)
      | directory =>
          refine ⟨tree, .refl _ _, found, ?_⟩
          simp only [makeDirectories, beq_iff_eq, given, notDot, notUp, short, found, or_self,
            Bool.or_eq_true, if_false]

theorem makeDirectories_ok (here : tree.walkFrom [] .directory reached = .ok .directory)
    (named : ∀ name ∈ rest, DirectoryName name) (passable : Passable (reached ++ rest) tree) :
    ∃ tree', tree.makeDirectories reached rest = .ok tree' ∧
      Extended (reached ++ rest) tree tree' ∧
      tree'.walkFrom [] .directory (reached ++ rest) = .ok .directory := by
  induction rest generalizing reached tree with
  | nil => exact ⟨tree, rfl, .refl _ _, by rwa [List.append_nil]⟩
  | cons name rest ih =>
      have whole : reached ++ name :: rest = reached ++ [name] ++ rest := by simp
      have within : reached ++ [name] <+: reached ++ name :: rest := ⟨rest, whole.symm⟩
      have first := named name (by simp)
      obtain ⟨between, grown, there, next⟩ := makeDirectories_cons rest first
        fun ahead => passable (ahead.trans within)
      have arrived : between.walkFrom [] .directory (reached ++ [name]) = .ok .directory := by
        rw [walkFrom_append, grown.walkFrom here]
        simp only [Except.bind, FileTree.walkFrom, List.nil_append,
          Nat.not_lt.mpr first.short, if_false, there]
      obtain ⟨tree', made, extended, walked⟩ := ih arrived
        (fun other member => named other (List.mem_cons_of_mem name member))
        (whole ▸ grown.passable passable)
      rw [← whole] at extended walked
      exact ⟨tree', next.trans made, (grown.mono within).trans extended, walked⟩

end FileTree

theorem Space.directoryName (space : Space) : FileTree.DirectoryName space.name := by
  cases space <;> decide

theorem LocalStore.makeSpace_ok {base : Path} (space : Space) {files : FileTree}
    (named : ∀ name ∈ base, FileTree.DirectoryName name)
    (passable : FileTree.Passable (base ++ [space.name]) files) :
    ∃ files', (makeSpace base space.name).run files = (.ok (), files') ∧
      FileTree.Extended (base ++ [space.name]) files files' ∧
      files'.walkFrom [] .directory (base ++ [space.name]) = .ok .directory := by
  have parts : Path.components space.name = [space.name] := by cases space <;> decide
  have noNul : Path.hasNul space.name = false := by cases space <;> decide
  have relative : space.name.startsWith "/" = false := by cases space <;> simp [Space.name]
  have down : ∀ name ∈ base ++ [space.name], FileTree.DirectoryName name := by
    intro name member
    rcases List.mem_append.mp member with above | last
    · exact named name above
    · exact List.mem_singleton.mp last ▸ space.directoryName
  obtain ⟨files', made, extended, walked⟩ :=
    @FileTree.makeDirectories_ok [] _ files rfl down passable
  refine ⟨files', ?_, extended, walked⟩
  unfold makeSpace
  simp only [noNul, relative, parts, Bool.false_eq_true, if_false, run_get_bind, made]
  rfl

theorem LocalStore.make_ok {base : Path} {files : FileTree}
    (named : ∀ name ∈ base, FileTree.DirectoryName name)
    (fits : ∀ space name, FileName name → FileTree.Fits (place base space name))
    (passable : ∀ space : Space, FileTree.Passable (base ++ [space.name]) files)
    (nothing : ∀ space name, files.node? (place base space name) = none) :
    ∃ files', (make (some base) "" "").run files = (.ok (usual base), files') ∧
      Shelved base files' ∧ ∀ space name, files'.file? (place base space name) = none := by
  obtain ⟨between, first, grown, upload⟩ := makeSpace_ok .upload named (passable .upload)
  obtain ⟨files', second, grown', processed⟩ :=
    makeSpace_ok .processed named (grown.passable (passable .processed))
  have above (space other : Space) (name : String) :
      ¬ place base space name <+: base ++ [other.name] := fun within => by
    have shorter := within.length_le
    simp [place] at shorter
  have empty (space : Space) (name : String) : files'.node? (place base space name) = none := by
    refine Option.eq_none_iff_forall_ne_some.mpr fun node found => ?_
    rcases grown'.made found with earlier | ⟨within, -⟩
    · rcases grown.made earlier with before | ⟨within, -⟩
      · exact Option.some_ne_none _ (before.symm.trans (nothing space name))
      · exact above _ _ _ within
    · exact above _ _ _ within
  refine ⟨files', (run_bind_ok first).trans (run_bind_ok second), ⟨fits, ?_, ?_⟩, ?_⟩
  · rintro (_ | _)
    · exact grown'.walkFrom upload
    · exact processed
  · intro space name _
    simp [empty]
  · intro space name
    refine Option.eq_none_iff_forall_ne_some.mpr fun bytes there => ?_
    exact Option.some_ne_none _ ((FileTree.node?_of_file? there).symm.trans (empty space name))

theorem run_tryCatch_ok {α : Type} {body : OnFiles α} {handler : Failure → OnFiles α}
    {files files' : FileTree} {value : α} (ran : body.run files = (.ok value, files')) :
    (tryCatch body handler).run files = (.ok value, files') := by
  have step (next : Except Failure α → StateM FileTree (Except Failure α)) :
      (body.run >>= next) files = next (body.run files).1 (body.run files).2 := rfl
  rw [ExceptT.run_tryCatch, step, ran]
  rfl

theorem run_tryCatch_error {α : Type} {body : OnFiles α} {handler : Failure → OnFiles α}
    {files files' : FileTree} {cause : Failure} (ran : body.run files = (.error cause, files')) :
    (tryCatch body handler).run files = (handler cause).run files' := by
  have step (next : Except Failure α → StateM FileTree (Except Failure α)) :
      (body.run >>= next) files = next (body.run files).1 (body.run files).2 := rfl
  rw [ExceptT.run_tryCatch, step, ran]

namespace LocalStore

open FileTree

variable {base : Path} {files : FileTree} {name : String} {source : Source}

theorem save_run (shelved : Shelved base files) (space : Space) (named : FileName name)
    (whole : source.broken = none) :
    ∃ files', ((usual base).save space.name name source).run files =
        (if source.content.isEmpty then .error (emptyFile (space.key name))
          else .ok (space.key name), files') ∧
      AlikeBut (place base space name) files files' ∧
      files'.file? (place base space name) =
        if source.content.isEmpty then none else some source.content := by
  have known : files.walk (place base space name) ≠ .error .nameTooLong := by
    rcases shelved.walk_cases space named with ⟨-, walked⟩ | ⟨bytes, -, walked⟩ <;> simp [walked]
  have opened := shelved.truncate space named
  obtain ⟨opens, -⟩ := truncate_ok opened
  have emptied := opens.put ByteArray.empty
  have written := emptied.put source.content
  have alike := (opens.alikeBut_put ByteArray.empty).trans (emptied.alikeBut_put source.content)
  have located : (usual base).locate (objectKey space.name name) = .ok (place base space name) :=
    locate_key base space named
  have ran : ((usual base).save space.name name source).run files =
      if source.content.isEmpty then (.error (emptyFile (space.key name)),
        ((files.put (place base space name) (.file ByteArray.empty)).put (place base space name)
          (.file source.content)).erase (place base space name))
      else (.ok (space.key name), (files.put (place base space name) (.file ByteArray.empty)).put
        (place base space name) (.file source.content)) := by
    unfold save
    rw [run_bind_ok (run_locate located), run_bind_ok (lookFor_ok known),
      run_bind_ok (openForWriting_ok opened), run_bind_ok (copy_run_whole _ whole)]
    cases source.content.isEmpty <;> rfl
  rw [ran]
  cases source.content.isEmpty with
  | false => exact ⟨_, rfl, alike, emptied.file?_put_self source.content⟩
  | true =>
      have erased := alikeBut_erase (place_ne_nil base space name) written.flat
      exact ⟨_, rfl, alike.trans erased, file?_erase_self (place_ne_nil base space name)⟩

theorem fetch_run (shelved : Shelved base files) (space : Space) (named : FileName name) :
    ((usual base).fetch (space.key name)).run files =
      (match files.file? (place base space name) with
        | some bytes => .ok bytes
        | none => .error (.app .objectNotFound
            (some ("파일을 찾을 수 없습니다: " ++ space.key name))), files) := by
  have located := locate_key base space named
  rcases shelved.walk_cases space named with ⟨absent, walked⟩ | ⟨bytes, present, walked⟩
  · have read : files.read (place base space name) = .error .notFound := by
      simp only [FileTree.read, walked]
    unfold fetch
    rw [run_bind_ok (run_locate located), run_get_bind, read, absent]
    rfl
  · have read : files.read (place base space name) = .ok bytes := by
      simp only [FileTree.read, walked]
    rw [fetch_of_located located read, present]

theorem delete_run (shelved : Shelved base files) (space : Space) (named : FileName name) :
    ∃ files', ((usual base).delete (some (space.key name))).run files = (.ok (), files') ∧
      AlikeBut (place base space name) files files' ∧
      files'.file? (place base space name) = none := by
  have located := locate_key base space named
  have flat := shelved.flat space name named
  simp only [delete, Space.key_isEmpty, Bool.false_eq_true, if_false]
  rw [run_bind_ok (run_locate located), run_get_bind]
  rcases shelved.walk_cases space named with ⟨absent, walked⟩ | ⟨bytes, present, walked⟩
  · have removed : files.remove (place base space name) = .error .notFound := by
      simp only [remove, walked]
    rw [removed]
    exact ⟨files, rfl, ⟨fun _ _ => rfl, flat, flat⟩, absent⟩
  · have removed : files.remove (place base space name) =
        .ok (files.erase (place base space name)) := by
      simp only [remove, walked]
    rw [removed]
    exact ⟨_, rfl, remove_ok removed⟩

theorem delete_keyless (store : LocalStore) {key : Option String} (keyless : key.getD "" = "") :
    (store.delete key).run files = (.ok (), files) := by
  cases key with
  | none => rfl
  | some key =>
      obtain rfl : key = "" := keyless
      rfl

end LocalStore

namespace BucketStore

def usual (bucket : String) : BucketStore := ⟨bucket, Space.upload.name, Space.processed.name⟩

def runOn {α : Type} (routine : Routine bucketClient α) (objects : Bucket) :
    Except Failure α × Bucket :=
  routine.run.run Bucket.answer objects

section Running

variable {α β : Type} {first : Routine bucketClient α} {next : α → Routine bucketClient β}
  {objects objects' : Bucket}

theorem runOn_bind_ok {value : α} (ran : runOn first objects = (.ok value, objects')) :
    runOn (first >>= next) objects = runOn (next value) objects' :=
  Routine.run_bind_ok ran

theorem runOn_tryCatch_ok {handler : Failure → Routine bucketClient α} {value : α}
    (ran : runOn first objects = (.ok value, objects')) :
    runOn (tryCatch first handler) objects = (.ok value, objects') := by
  refine (Script.run_bind Bucket.answer first.run _ objects).trans ?_
  rw [show first.run.run Bucket.answer objects = (.ok value, objects') from ran]
  rfl

theorem runOn_recover_error {expected : Failure → Bool} {handler : Failure → Routine bucketClient α}
    {cause : Failure} (ran : runOn first objects = (.error cause, objects'))
    (known : expected cause = true) :
    runOn (first.recover expected handler) objects = runOn (handler cause) objects' := by
  refine (Routine.run_recover_error ran).trans ?_
  rw [if_pos known]
  rfl

end Running

variable {bucket : String} {objects : Bucket} {source : Source}

theorem save_run (space : Space) (name : String) (whole : source.broken = none) :
    runOn ((usual bucket).save space.name name source) objects =
      if source.content.isEmpty then (.error (emptyFile (space.key name)), objects)
      else (.ok (space.key name), objects.put (space.key name) source.content) := by
  have read : runOn (liftM source.read) objects = (.ok source.content, objects) := by
    simp only [Source.read, whole]
    rfl
  unfold save
  rw [runOn_bind_ok read]
  cases source.content.isEmpty <;> rfl

theorem fetch_run (key : String) :
    runOn ((usual bucket).fetch key) objects =
      (match objects.get? key with
        | some bytes => .ok bytes
        | none => .error (.app .objectNotFound (some ("오브젝트를 찾을 수 없습니다: " ++ key))),
        objects) := by
  have asked : runOn (Routine.ask (call (.getObject bucket key))) objects =
      Bucket.answer (.getObject bucket key) objects := rfl
  unfold fetch
  cases found : objects.get? key with
  | some bytes =>
      simp only [Bucket.answer, found] at asked
      exact runOn_tryCatch_ok asked
  | none =>
      simp only [Bucket.answer, found] at asked
      exact runOn_recover_error asked rfl

theorem delete_run (space : Space) (name : String) :
    runOn ((usual bucket).delete (some (space.key name))) objects =
      (.ok (), objects.erase (space.key name)) := by
  simp only [delete, Space.key_isEmpty, Bool.false_eq_true, if_false]
  rfl

theorem delete_keyless {σ : Type} {answer : (c : BucketCall) → σ → bucketClient.Reply c × σ}
    (store : BucketStore) {key : Option String} (keyless : key.getD "" = "") (state : σ) :
    (store.delete key).run.run answer state = (.ok (), state) := by
  cases key with
  | none => rfl
  | some key =>
      obtain rfl : key = "" := keyless
      rfl

end BucketStore

end ImagePipeline.Asset
