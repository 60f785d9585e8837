import ImagePipeline.Proofs.Asset.Directories
import ImagePipeline.Proofs.Asset.Interchange
/-!
# Work on files that stays in one directory

Work on files is confined to a directory if it leaves alone what stands elsewhere, and if its outcome
does not depend on that either (`Confined`). Putting such work together gives such work again, and as
every operation of a store resolves its key first, all operations are confined to the base directory
(`confined_perform`).
-/

namespace ImagePipeline.Asset

/-! ## Located keys -/

theorem Path.isBelow_eq_true_iff {base path : Path} : isBelow base path = true ↔ base <+: path :=
  List.isPrefixOf_iff_prefix

namespace LocalStore

variable {store : LocalStore} {key : String} {path : Path}

def outside (key : String) : Failure := failed "저장소 밖을 가리키는 경로입니다: " key

theorem locate_of_below (noNul : Path.hasNul key = false)
    (below : store.base <+: Path.resolve store.base key) :
    store.locate key = .ok (Path.resolve store.base key) := by
  simp only [locate, noNul, Path.isBelow_eq_true_iff.mpr below, Bool.false_eq_true, if_false, if_true]

theorem locate_of_outside (noNul : Path.hasNul key = false)
    (apart : ¬ store.base <+: Path.resolve store.base key) :
    store.locate key = .error (outside key) := by
  have elsewhere : Path.isBelow store.base (Path.resolve store.base key) = false :=
    Bool.eq_false_iff.mpr (mt Path.isBelow_eq_true_iff.mp apart)
  simp only [locate, noNul, elsewhere, Bool.false_eq_true, if_false]
  rfl

theorem below_of_locate (located : store.locate key = .ok path) : store.base <+: path := by
  unfold locate at located
  split at located
  · cases located
  · simp only at located
    split at located
    · next below =>
        cases located
        exact Path.isBelow_eq_true_iff.mp below
    · cases located

end LocalStore

/-! ## Trees that are alike around a directory -/

def Node.isDirectory : Node → Bool
  | .directory => true
  | .file _ => false

namespace FileTree

variable {base path other reached rest : Path} {files files' : FileTree} {node node' : Node}

/-- Two trees are the same from a directory on downwards, and have nodes of the same kinds on the way
to it. -/
structure AlikeAround (base : Path) (files files' : FileTree) : Prop where
  below : ∀ path, base <+: path → files'.node? path = files.node? path
  above : ∀ path, path <+: base →
    (files'.node? path).map Node.isDirectory = (files.node? path).map Node.isDirectory

theorem AlikeAround.kinds (alike : AlikeAround base files files')
    (near : path <+: base ∨ base <+: path) :
    (files'.node? path).map Node.isDirectory = (files.node? path).map Node.isDirectory := by
  rcases near with above | below
  · exact alike.above path above
  · rw [alike.below path below]

theorem AlikeAround.walkFrom_kind (alike : AlikeAround base files files')
    (same : node'.isDirectory = node.isDirectory)
    (near : reached ++ rest <+: base ∨ base <+: reached ++ rest) :
    (files'.walkFrom reached node' rest).map Node.isDirectory =
      (files.walkFrom reached node rest).map Node.isDirectory := by
  induction rest generalizing reached node node' with
  | nil => simp only [walkFrom, Except.map, same]
  | cons name rest ih =>
      have whole : reached ++ name :: rest = reached ++ [name] ++ rest := by simp
      rw [whole] at near
      -- the first step stays on the way to the base or below it
      have first : reached ++ [name] <+: base ∨ base <+: reached ++ [name] := by
        rcases near with above | below
        · exact .inl ((List.prefix_append _ rest).trans above)
        · exact List.prefix_or_prefix_of_prefix (List.prefix_append _ rest) below
      have kinds := alike.kinds first
      cases node <;> cases node' <;> simp only [Node.isDirectory, reduceCtorEq] at same
      · simp only [walkFrom]
        split
        · rfl
        · cases found : files.node? (reached ++ [name]) <;>
            cases found' : files'.node? (reached ++ [name]) <;>
            simp only [found, found', Option.map_some, Option.map_none, Option.some.injEq,
              reduceCtorEq] at kinds ⊢
          exact ih kinds near
      · rfl

theorem AlikeAround.walkFrom_eq (alike : AlikeAround base files files')
    (kind : node'.isDirectory = node.isDirectory) (same : base <+: reached → node' = node)
    (leads : base <+: reached ++ rest) :
    files'.walkFrom reached node' rest = files.walkFrom reached node rest := by
  induction rest generalizing reached node node' with
  | nil =>
      rw [List.append_nil] at leads
      simp only [walkFrom, same leads]
  | cons name rest ih =>
      have whole : reached ++ name :: rest = reached ++ [name] ++ rest := by simp
      rw [whole] at leads
      have kinds := alike.kinds
        (List.prefix_or_prefix_of_prefix (List.prefix_append (reached ++ [name]) rest) leads)
      have below := alike.below (reached ++ [name])
      cases node <;> cases node' <;> simp only [Node.isDirectory, reduceCtorEq] at kind
      · simp only [walkFrom]
        split
        · rfl
        · cases found : files.node? (reached ++ [name]) <;>
            cases found' : files'.node? (reached ++ [name]) <;>
            simp only [found, found', Option.map_some, Option.map_none, Option.some.injEq,
              reduceCtorEq] at kinds below ⊢
          exact ih kinds below leads
      · rfl

theorem AlikeAround.walk_eq (alike : AlikeAround base files files') (below : base <+: path) :
    files'.walk path = files.walk path := by
  have leads : base <+: [] ++ path := below
  unfold walk
  rw [alike.walkFrom_eq rfl (fun _ => rfl) leads]

theorem AlikeAround.walk_kind (alike : AlikeAround base files files')
    (near : path <+: base ∨ base <+: path) :
    (files'.walk path).map Node.isDirectory = (files.walk path).map Node.isDirectory := by
  have leads : [] ++ path <+: base ∨ base <+: [] ++ path := near
  have reached := alike.walkFrom_kind (rfl : Node.directory.isDirectory = Node.directory.isDirectory) leads
  unfold walk
  simp only
  split
  · rfl
  · exact reached

theorem dropLast_near (below : base <+: path) : path.dropLast <+: base ∨ base <+: path.dropLast :=
  List.prefix_or_prefix_of_prefix (List.dropLast_prefix path) below

theorem AlikeAround.truncate_eq (alike : AlikeAround base files files') (below : base <+: path) :
    files'.truncate path =
      (files.truncate path).map fun _ => files'.put path (.file ByteArray.empty) := by
  have above := alike.walk_kind (dropLast_near below)
  unfold truncate
  rw [alike.walk_eq below]
  split
  · rfl
  · rfl
  · -- the file is missing: what counts is the kind of its parent, which may be above the directory
    cases parent : files.walk path.dropLast with
    | error fault =>
        cases parent' : files'.walk path.dropLast with
        | error fault' =>
            rw [parent, parent'] at above
            cases above
            rfl
        | ok node' =>
            rw [parent, parent'] at above
            cases above
    | ok node =>
        cases parent' : files'.walk path.dropLast with
        | error fault' =>
            rw [parent, parent'] at above
            cases above
        | ok node' =>
            rw [parent, parent'] at above
            cases node <;> cases node' <;>
              simp only [Except.map, Node.isDirectory, Except.ok.injEq, reduceCtorEq] at above ⊢
  · rfl

/-! ## Changes -/

theorem node?_put_congr (path : Path) (node : Node) (same : files'.node? other = files.node? other) :
    (files'.put path node).node? other = (files.put path node).node? other := by
  by_cases here : other = path
  · subst here
    cases other with
    | nil => rfl
    | cons name rest => rw [node?_put_self _ (by simp), node?_put_self _ (by simp)]
  · rw [node?_put_of_ne _ here, node?_put_of_ne _ here, same]

theorem node?_erase_congr (path : Path) (same : files'.node? other = files.node? other) :
    (files'.erase path).node? other = (files.erase path).node? other := by
  by_cases here : other = path
  · subst here
    cases other with
    | nil => rfl
    | cons name rest => rw [node?_erase_self _ (by simp), node?_erase_self _ (by simp)]
  · rw [node?_erase_of_ne _ here, node?_erase_of_ne _ here, same]

theorem ne_of_apart (below : base <+: path) (apart : ¬ base <+: other) : other ≠ path := by
  rintro rfl
  exact apart below

theorem AlikeAround.change (alike : AlikeAround base files files') {after after' : FileTree}
    (below : ∀ path, base <+: path → files'.node? path = files.node? path →
      after'.node? path = after.node? path)
    (apart : ∀ path, ¬ base <+: path →
      after.node? path = files.node? path ∧ after'.node? path = files'.node? path) :
    AlikeAround base after after' where
  below path within := below path within (alike.below path within)
  above path above := by
    by_cases within : base <+: path
    · rw [below path within (alike.below path within)]
    · rw [(apart path within).1, (apart path within).2]
      exact alike.above path above

theorem AlikeAround.put (alike : AlikeAround base files files') (below : base <+: path) (node : Node) :
    AlikeAround base (files.put path node) (files'.put path node) :=
  alike.change (fun _ _ same => node?_put_congr path node same) fun _ apart =>
    ⟨node?_put_of_ne _ (ne_of_apart below apart) _, node?_put_of_ne _ (ne_of_apart below apart) _⟩

theorem AlikeAround.erase (alike : AlikeAround base files files') (below : base <+: path) :
    AlikeAround base (files.erase path) (files'.erase path) :=
  alike.change (fun _ _ same => node?_erase_congr path same) fun _ apart =>
    ⟨node?_erase_of_ne _ (ne_of_apart below apart), node?_erase_of_ne _ (ne_of_apart below apart)⟩

end FileTree

open FileTree

/-! ## Confined work -/

/-- Work on files that sees and changes nothing but what stands in or below a directory. Of what stands
on the way to it only the kinds count. -/
structure Confined {α : Type} (base : Path) (work : OnFiles α) : Prop where
  blind : ∀ {files files'}, AlikeAround base files files' →
    (work.run files').1 = (work.run files).1 ∧
      AlikeAround base (work.run files).2 (work.run files').2
  frame : ∀ files path, ¬ base <+: path → (work.run files).2.node? path = files.node? path

namespace Confined

variable {α β : Type} {base : Path} {first work : OnFiles α} {next : α → OnFiles β}

theorem settled (result : Except Failure α) (same : ∀ files, work.run files = (result, files)) :
    Confined base work where
  blind alike := by
    rw [same, same]
    exact ⟨rfl, alike⟩
  frame files _ _ := by rw [same]

theorem pure (value : α) : Confined base (pure value : OnFiles α) := settled (.ok value) fun _ => rfl

theorem throw (cause : Failure) : Confined base (throw cause : OnFiles α) :=
  settled (.error cause) fun _ => rfl

theorem follow {whole : OnFiles β} (onward : Except Failure α → OnFiles β)
    (step : ∀ files, whole.run files = (onward (first.run files).1).run (first.run files).2)
    (confined : Confined base first) (later : ∀ result, Confined base (onward result)) :
    Confined base whole where
  blind {files files'} alike := by
    obtain ⟨same, between⟩ := confined.blind alike
    rw [step, step, same]
    exact (later _).blind between
  frame files path apart := by
    rw [step]
    exact ((later _).frame _ path apart).trans (confined.frame files path apart)

theorem bind (confined : Confined base first) (later : ∀ value, Confined base (next value)) :
    Confined base (first >>= next) := by
  refine follow (ExceptT.bindCont next) (fun _ => rfl) confined ?_
  rintro (cause | value)
  · exact throw cause
  · exact later value

def handled (handler : Failure → OnFiles α) : Except Failure α → OnFiles α
  | .ok value => Pure.pure value
  | .error cause => handler cause

theorem tryCatch {handler : Failure → OnFiles α} (confined : Confined base work)
    (later : ∀ cause, Confined base (handler cause)) : Confined base (tryCatch work handler) := by
  refine follow (handled handler) (fun files => ?_) confined ?_
  · cases ran : work.run files with
    | mk result after =>
        cases result with
        | ok value => exact run_tryCatch_ok ran
        | error cause => exact run_tryCatch_error ran
  · rintro (cause | value)
    · exact later cause
    · exact pure value

theorem modify {change : FileTree → FileTree}
    (same : ∀ {files files'}, AlikeAround base files files' →
      AlikeAround base (change files) (change files'))
    (frame : ∀ files path, ¬ base <+: path → (change files).node? path = files.node? path) :
    Confined base (modify change : OnFiles PUnit) where
  blind alike := ⟨rfl, same alike⟩
  frame := frame

end Confined

/-! ## The operations of a store -/

namespace LocalStore

variable {base path : Path} {store : LocalStore} {key : String}

theorem confined_located {α : Type} {next : Path → OnFiles α}
    (later : ∀ path, store.base <+: path → Confined store.base (next path)) :
    Confined store.base (liftM (store.locate key) >>= next) := by
  cases located : store.locate key with
  | error cause => exact .settled (.error cause) fun files => run_bind_error rfl
  | ok path =>
      change Confined store.base (next path)
      exact later path (below_of_locate located)

theorem confined_lookFor (below : base <+: path) : Confined base (lookFor path) where
  blind {files files'} alike := by
    unfold lookFor
    rw [run_get_bind, run_get_bind, alike.walk_eq below]
    split <;> exact ⟨rfl, alike⟩
  frame files _ _ := by
    rcases lookFor_run path files with ⟨cause, ran⟩ | ran <;> rw [ran]

theorem confined_openForWriting (below : base <+: path) (key : String) :
    Confined base (openForWriting path key) where
  blind {files files'} alike := by
    unfold openForWriting
    rw [run_get_bind, run_get_bind, alike.truncate_eq below]
    cases opened : files.truncate path with
    | error fault => exact ⟨rfl, alike⟩
    | ok tree =>
        obtain ⟨-, rfl⟩ := truncate_ok opened
        exact ⟨rfl, alike.put below _⟩
  frame files other apart := by
    unfold openForWriting
    rw [run_get_bind]
    cases opened : files.truncate path with
    | error fault => rfl
    | ok tree =>
        obtain ⟨-, rfl⟩ := truncate_ok opened
        exact node?_put_of_ne _ (ne_of_apart below apart) _

theorem confined_put (below : base <+: path) (node : Node) :
    Confined base (modify fun tree => tree.put path node : OnFiles PUnit) :=
  .modify (fun alike => alike.put below node) fun _ _ apart =>
    node?_put_of_ne _ (ne_of_apart below apart) _

theorem confined_erase (below : base <+: path) :
    Confined base (modify fun tree => tree.erase path : OnFiles PUnit) :=
  .modify (fun alike => alike.erase below) fun _ _ apart =>
    node?_erase_of_ne _ (ne_of_apart below apart)

theorem confined_copy (below : base <+: path) (key : String) (source : Source) :
    Confined base (copy path key source) := by
  refine (confined_put below _).bind fun _ => ?_
  cases source.broken with
  | none => exact .pure ()
  | some failure => exact .throw _

theorem confined_save (store : LocalStore) (space name : String) (source : Source) :
    Confined store.base (store.save space name source) := by
  refine confined_located fun path below => ?_
  refine (confined_lookFor below).bind fun _ => ?_
  refine (confined_openForWriting below _).bind fun _ => ?_
  refine (confined_copy below _ source).bind fun _ => ?_
  split
  · exact (confined_erase below).bind fun _ => (Confined.throw _).bind fun _ => .pure _
  · exact .pure _

theorem confined_fetch (store : LocalStore) (key : String) :
    Confined store.base (store.fetch key) := by
  refine confined_located fun path below => ⟨fun {files files'} alike => ?_, fun files _ _ => ?_⟩
  · have read : files'.read path = files.read path := read_congr (alike.walk_eq below)
    rw [run_get_bind, run_get_bind, read]
    split <;> exact ⟨rfl, alike⟩
  · rw [run_get_bind]
    split <;> rfl

theorem confined_remove (below : base <+: path) (key : String) :
    Confined base (do
      match (← get).remove path with
      | .ok tree => set tree
      | .error .notFound => return
      | .error _ => throw (failed "파일 삭제 실패: " key) : OnFiles Unit) where
  blind {files files'} alike := by
    rw [run_get_bind, run_get_bind]
    unfold remove
    rw [alike.walk_eq below]
    cases files.walk path with
    | error fault => cases fault <;> exact ⟨rfl, alike⟩
    | ok node =>
        cases node with
        | directory => exact ⟨rfl, alike⟩
        | file bytes => exact ⟨rfl, alike.erase below⟩
  frame files other apart := by
    rw [run_get_bind]
    unfold remove
    cases files.walk path with
    | error fault => cases fault <;> rfl
    | ok node =>
        cases node with
        | directory => rfl
        | file bytes => exact node?_erase_of_ne _ (ne_of_apart below apart)

theorem confined_delete (store : LocalStore) (key : Option String) :
    Confined store.base (store.delete key) := by
  cases key with
  | none => exact .pure ()
  | some key =>
      rw [delete]
      split
      · exact .pure ()
      · exact confined_located fun path below => confined_remove below key

theorem confined_deleteEach (store : LocalStore) (keys : List (Option String)) (first : Option Failure) :
    Confined store.base (deleteEach store.delete keys first) := by
  induction keys generalizing first with
  | nil =>
      cases first with
      | none => exact .pure ()
      | some cause => exact .throw cause
  | cons key rest ih =>
      have tried : Confined store.base (tryCatch (store.delete key *> pure none)
          fun failure => pure (some failure) : OnFiles (Option Failure)) :=
        .tryCatch ((confined_delete store key).bind fun _ => .pure none) fun cause => .pure (some cause)
      exact tried.bind fun failed => ih (first <|> failed)

theorem confined_perform (store : LocalStore) (op : Operation) :
    Confined store.base (op.perform store.operations) := by
  cases op with
  | save space name source =>
      rw [Operation.perform, saveIn_eq]
      exact (confined_save store _ name source).bind fun _ => .pure _
  | get space key =>
      rw [Operation.perform, getFrom_eq]
      exact (confined_fetch store key).bind fun _ => .pure _
  | delete key => exact (confined_delete store key).bind fun _ => .pure _
  | deleteAll upload processed =>
      exact (confined_deleteEach store _ none).bind fun _ => .pure _

end LocalStore

end ImagePipeline.Asset
