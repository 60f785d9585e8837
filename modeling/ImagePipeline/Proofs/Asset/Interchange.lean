import ImagePipeline.Proofs.Asset.Deletions
import Mathlib.Data.List.Forall2
/-!
# One kind of store in place of the other

A history of operations is performed on files and in a bucket, each failing operation being followed by
the next one. What both hold under a key is told by its fate: they differ only where an empty object was
refused, since on disk the file that was there before is lost (`Fate.emptied`). The answers are the same
unless such a key is read before it is saved again or deleted (`answers_alike_iff`).
-/

namespace ImagePipeline.Asset

/-! ## Histories -/

inductive Operation where
  | save (space : Space) (name : String) (source : Source)
  | get (space : Space) (key : String)
  | delete (key : Option String)
  | deleteAll (upload processed : Option String)

inductive Outcome where
  | key (key : String)
  | content (bytes : ByteArray)
  | done

/-- The same outcome, or failures of one class. -/
def SameAnswer : Except Failure Outcome → Except Failure Outcome → Prop
  | .ok outcome, .ok other => outcome = other
  | .error (.app fault _), .error (.app other _) => fault = other
  | _, _ => False

theorem SameAnswer.isSome_eq {one other : Except Failure Outcome} (same : SameAnswer one other) :
    one.toOption.isSome = other.toOption.isSome := by
  cases one <;> cases other <;> simp [SameAnswer, Except.toOption] at same ⊢

def AssetStore.saveIn {m : Type → Type} (store : AssetStore m) :
    Space → String → Source → m String
  | .upload => store.saveUpload
  | .processed => store.saveProcessed

def AssetStore.getFrom {m : Type → Type} (store : AssetStore m) : Space → String → m ByteArray
  | .upload => store.getUpload
  | .processed => store.getProcessed

def LocalStore.spaceOf (store : LocalStore) : Space → String
  | .upload => store.uploadSpace
  | .processed => store.processedSpace

theorem LocalStore.saveIn_eq (store : LocalStore) (space : Space) :
    store.operations.saveIn space = store.save (store.spaceOf space) := by
  cases space <;> rfl

theorem LocalStore.getFrom_eq (store : LocalStore) (space : Space) :
    store.operations.getFrom space = store.fetch := by
  cases space <;> rfl

theorem LocalStore.operations_delete (store : LocalStore) :
    store.operations.delete = store.delete := rfl

theorem LocalStore.spaceOf_usual (base : Path) (space : Space) :
    (LocalStore.usual base).spaceOf space = space.name := by
  cases space <;> rfl

theorem BucketStore.saveIn_usual (bucket : String) (space : Space) :
    (BucketStore.usual bucket).operations.saveIn space =
      (BucketStore.usual bucket).save space.name := by
  cases space <;> rfl

theorem BucketStore.getFrom_eq (store : BucketStore) (space : Space) :
    store.operations.getFrom space = store.fetch := by
  cases space <;> rfl

theorem BucketStore.operations_delete (store : BucketStore) :
    store.operations.delete = store.delete := rfl

namespace Operation

def perform {m : Type → Type} [Monad m] (store : AssetStore m) : Operation → m Outcome
  | save space name source => return .key (← store.saveIn space name source)
  | get space key => return .content (← store.getFrom space key)
  | delete key => do
    store.delete key
    return .done
  | deleteAll upload processed => do
    store.deleteAll upload processed
    return .done

def onDisk (base : Path) (op : Operation) (files : FileTree) : Except Failure Outcome × FileTree :=
  (op.perform (LocalStore.usual base).operations).run files

def inBucket (bucket : String) (op : Operation) (objects : Bucket) :
    Except Failure Outcome × Bucket :=
  BucketStore.runOn (op.perform (BucketStore.usual bucket).operations) objects

end Operation

def answers {σ : Type} (step : Operation → σ → Except Failure Outcome × σ) :
    List Operation → σ → List (Except Failure Outcome)
  | [], _ => []
  | op :: rest, state => (step op state).1 :: answers step rest (step op state).2

def IsKey (key : String) : Prop := ∃ space name, FileName name ∧ key = Space.key space name

def Deletable (key : Option String) : Prop := key.getD "" = "" ∨ ∃ k, key = some k ∧ IsKey k

/-- File names are saved, from sources that do not break off, and their keys are read and deleted. -/
def Operation.Proper : Operation → Prop
  | save _ name source => FileName name ∧ source.broken = none
  | get _ key => IsKey key
  | delete key => Deletable key
  | deleteAll upload processed => Deletable upload ∧ Deletable processed

/-! ## The fate of a key -/

/-- What became of a key: `emptied` if an empty object was refused in place of the one it has. -/
inductive Fate where
  | absent
  | kept (bytes : ByteArray)
  | emptied (bytes : ByteArray)

namespace Fate

def onDisk : Fate → Option ByteArray
  | absent => none
  | kept bytes => some bytes
  | emptied _ => none

def inBucket : Fate → Option ByteArray
  | absent => none
  | kept bytes => some bytes
  | emptied bytes => some bytes

def IsEmptied : Fate → Prop
  | absent => False
  | kept _ => False
  | emptied _ => True

instance (fate : Fate) : Decidable fate.IsEmptied :=
  match fate with
  | absent => inferInstanceAs (Decidable False)
  | kept _ => inferInstanceAs (Decidable False)
  | emptied _ => inferInstanceAs (Decidable True)

def refusing : Fate → Fate
  | absent => absent
  | kept bytes => emptied bytes
  | emptied bytes => emptied bytes

def saving (content : ByteArray) (fate : Fate) : Fate :=
  if content.isEmpty then fate.refusing else kept content

def of (objects : Bucket) (key : String) : Fate := ((objects.get? key).map kept).getD absent

end Fate

abbrev Fates := String → Fate

def Fates.save (fates : Fates) (key : String) (source : Source) : Fates :=
  Function.update fates key ((fates key).saving source.content)

def Fates.delete (fates : Fates) (key : Option String) : Fates :=
  match key with
  | none => fates
  | some key => Function.update fates key .absent

namespace Operation

def after (fates : Fates) : Operation → Fates
  | save space name source => fates.save (space.key name) source
  | get .. => fates
  | delete key => fates.delete key
  | deleteAll upload processed => (fates.delete upload).delete processed

def ReadsEmptied (fates : Fates) : Operation → Prop
  | get _ key => (fates key).IsEmptied
  | save .. => False
  | delete _ => False
  | deleteAll .. => False

instance (fates : Fates) (op : Operation) : Decidable (op.ReadsEmptied fates) :=
  match op with
  | get _ key => inferInstanceAs (Decidable (fates key).IsEmptied)
  | save .. => inferInstanceAs (Decidable False)
  | delete _ => inferInstanceAs (Decidable False)
  | deleteAll .. => inferInstanceAs (Decidable False)

end Operation

/-- Some operation of a history reads a key that was emptied by an earlier one. -/
def ReadsEmptied : Fates → List Operation → Prop
  | _, [] => False
  | fates, op :: rest => op.ReadsEmptied fates ∨ ReadsEmptied (op.after fates) rest

instance decidableReadsEmptied :
    (fates : Fates) → (ops : List Operation) → Decidable (ReadsEmptied fates ops)
  | _, [] => inferInstanceAs (Decidable False)
  | fates, op :: rest =>
      have := decidableReadsEmptied (op.after fates) rest
      inferInstanceAs (Decidable (op.ReadsEmptied fates ∨ ReadsEmptied (op.after fates) rest))

/-! ## What the two stores hold -/

/-- Both stores hold what the fates say. -/
structure Mirrors (base : Path) (fates : Fates) (files : FileTree) (objects : Bucket) : Prop where
  shelved : Shelved base files
  onDisk : ∀ (space : Space) name, FileName name →
    files.file? (place base space name) = (fates (space.key name)).onDisk
  inBucket : ∀ (space : Space) name, FileName name →
    objects.get? (space.key name) = (fates (space.key name)).inBucket

section Steps

variable {base : Path} {fates : Fates} {files files' : FileTree}
  {objects objects' : Bucket} {space : Space} {name : String} {source : Source}

open BucketStore (runOn)

theorem Mirrors.update (mirrors : Mirrors base fates files objects) (fate : Fate)
    (alike : FileTree.AlikeBut (place base space name) files files')
    (there : files'.file? (place base space name) = fate.onDisk)
    (put : objects'.get? (space.key name) = fate.inBucket)
    (elsewhere : ∀ other, other ≠ space.key name → objects'.get? other = objects.get? other) :
    Mirrors base (Function.update fates (space.key name) fate) files' objects' where
  shelved := mirrors.shelved.change alike
  onDisk other name' named := by
    by_cases same : other.key name' = space.key name
    · obtain ⟨rfl, rfl⟩ := Space.key_injective same
      rw [Function.update_self, there]
    · rw [Function.update_of_ne same, ← mirrors.onDisk other name' named]
      exact alike.file?_of_ne fun path => same (place_injective path)
  inBucket other name' named := by
    by_cases same : other.key name' = space.key name
    · rw [same, Function.update_self, put]
    · rw [Function.update_of_ne same, ← mirrors.inBucket other name' named]
      exact elsewhere _ same

theorem Mirrors.save (bucket : String) (mirrors : Mirrors base fates files objects)
    (space : Space) (named : FileName name) (whole : source.broken = none) :
    ∃ result files' objects',
      ((LocalStore.usual base).save space.name name source).run files = (result, files') ∧
      runOn ((BucketStore.usual bucket).save space.name name source) objects = (result, objects') ∧
      SameAnswer (result.map .key) (result.map .key) ∧
      Mirrors base (fates.save (space.key name) source) files' objects' := by
  obtain ⟨files', ran, alike, there⟩ := LocalStore.save_run mirrors.shelved space named whole
  have stored := @BucketStore.save_run bucket objects source space name whole
  unfold Fates.save Fate.saving
  cases nothing : source.content.isEmpty with
  | true =>
      simp only [nothing, if_true] at ran stored there ⊢
      -- The bucket is as it was, but the file that was there before is lost.
      refine ⟨_, _, _, ran, stored, rfl, mirrors.update _ alike ?_ ?_ fun _ _ => rfl⟩
      · rw [there]
        cases fates (space.key name) <;> rfl
      · rw [mirrors.inBucket space name named]
        cases fates (space.key name) <;> rfl
  | false =>
      simp only [nothing, Bool.false_eq_true, if_false] at ran stored there ⊢
      refine ⟨_, _, _, ran, stored, rfl, ?_⟩
      exact mirrors.update _ alike there (Bucket.get?_put_self ..) fun _ distinct =>
        Bucket.get?_put_of_ne _ distinct _

theorem Mirrors.delete (bucket : String) (mirrors : Mirrors base fates files objects)
    {key : Option String} (deletable : Deletable key) :
    ∃ files' objects', ((LocalStore.usual base).delete key).run files = (.ok (), files') ∧
      runOn ((BucketStore.usual bucket).delete key) objects = (.ok (), objects') ∧
      Mirrors base (fates.delete key) files' objects' := by
  rcases deletable with keyless | ⟨key, rfl, space, name, named, rfl⟩
  · refine ⟨files, objects, LocalStore.delete_keyless _ keyless,
      BucketStore.delete_keyless _ keyless objects, ?_⟩
    cases key with
    | none => exact mirrors
    | some key =>
        -- Deleting under the empty key marks it as absent, which no file name has.
        obtain rfl : key = "" := keyless
        have other : ∀ space name, Space.key space name ≠ "" := fun space name same => by
          have shown := Space.key_isEmpty space name
          rw [same] at shown
          cases shown
        exact ⟨mirrors.shelved,
          fun space name named => by
            rw [Fates.delete, Function.update_of_ne (other space name), mirrors.onDisk _ _ named],
          fun space name named => by
            rw [Fates.delete, Function.update_of_ne (other space name), mirrors.inBucket _ _ named]⟩
  · obtain ⟨files', ran, alike, gone⟩ := LocalStore.delete_run mirrors.shelved space named
    refine ⟨files', _, ran, BucketStore.delete_run space name, ?_⟩
    exact mirrors.update .absent alike gone (Bucket.get?_erase_self ..) fun _ distinct =>
      Bucket.get?_erase_of_ne _ distinct

theorem Mirrors.fetch (bucket : String) (mirrors : Mirrors base fates files objects)
    (space : Space) (named : FileName name) :
    ∃ onDisk inBucket,
      ((LocalStore.usual base).fetch (space.key name)).run files = (onDisk, files) ∧
      runOn ((BucketStore.usual bucket).fetch (space.key name)) objects = (inBucket, objects) ∧
      (SameAnswer (onDisk.map .content) (inBucket.map .content) ↔
        ¬ (fates (space.key name)).IsEmptied) := by
  refine ⟨_, _, LocalStore.fetch_run mirrors.shelved space named, BucketStore.fetch_run _, ?_⟩
  rw [mirrors.onDisk space name named, mirrors.inBucket space name named]
  cases fates (space.key name) with
  | absent => exact ⟨fun _ => id, fun _ => rfl⟩
  | kept bytes => exact ⟨fun _ => id, fun _ => rfl⟩
  | emptied bytes => exact ⟨False.elim, fun readable => readable trivial⟩

/-! ## One operation -/

theorem LocalStore.deleteEach_run_cons (store : LocalStore) (key : Option String) (rest : List (Option String))
    (first : Option Failure) (files : FileTree) :
    (deleteEach store.delete (key :: rest) first).run files =
      (deleteEach store.delete rest (match ((store.delete key).run files).1 with
        | .ok () => first
        | .error cause => some (first.getD cause))).run ((store.delete key).run files).2 := by
  refine (congrFun (deleteEach_cons_run store.delete key rest first) files).trans ?_
  change (deleteEach store.delete rest (first <|> failureOf ((store.delete key).run files).1)).run
    ((store.delete key).run files).2 = _
  cases ((store.delete key).run files).1 <;> cases first <;> rfl

theorem LocalStore.deleteAll_run (store : LocalStore) (upload processed : Option String) (files : FileTree) :
    let first := (store.delete upload).run files
    let second := (store.delete processed).run first.2
    (store.operations.deleteAll upload processed).run files =
      (first.1.bind fun _ => second.1, second.2) := by
  intro first second
  have both := (store.deleteEach_run_cons upload [processed] none files).trans
    (store.deleteEach_run_cons processed [] _ first.2)
  refine both.trans ?_
  change (deleteEach store.delete [] (match second.1 with
    | .ok () => match first.1 with
      | .ok () => none
      | .error cause => some cause
    | .error cause => some ((match first.1 with
      | .ok () => none
      | .error cause => some cause : Option Failure).getD cause))).run second.2 = _
  cases first.1 <;> cases second.1 <;> rfl

theorem deleteEach_runOn_ok {delete : Option String → Routine bucketClient Unit} {key : Option String}
    {rest : List (Option String)} {first : Option Failure}
    (deleted : runOn (delete key) objects = (.ok (), objects')) :
    runOn (deleteEach delete (key :: rest) first) objects =
      runOn (deleteEach delete rest first) objects' := by
  rw [runOn, deleteEach_cons_run, Script.run_bind, show (delete key).run.run _ objects = _ from deleted]
  cases first <;> rfl

theorem run_bind_pure {α : Type} (routine : OnFiles α) (outcome : α → Outcome) (files : FileTree) :
    (routine >>= fun value => pure (outcome value)).run files =
      ((routine.run files).1.map outcome, (routine.run files).2) := by
  cases ran : routine.run files with
  | mk result after =>
      cases result with
      | ok value => exact run_bind_ok ran
      | error cause => exact run_bind_error ran

theorem runOn_bind_pure {α : Type} {routine : Routine bucketClient α} {outcome : α → Outcome}
    {result : Except Failure α} (ran : runOn routine objects = (result, objects')) :
    runOn (routine >>= fun value => pure (outcome value)) objects =
      (result.map outcome, objects') := by
  have step := Script.run_bind Bucket.answer routine.run
    (ExceptT.bindCont fun value => pure (outcome value)) objects
  rw [show routine.run.run Bucket.answer objects = (result, objects') from ran] at step
  refine Eq.trans step ?_
  cases result <;> rfl

theorem Mirrors.deleteAll (bucket : String) (mirrors : Mirrors base fates files objects)
    {upload processed : Option String} (first : Deletable upload) (second : Deletable processed) :
    ∃ files' objects', ((LocalStore.usual base).operations.deleteAll upload processed).run files =
        (.ok (), files') ∧
      runOn ((BucketStore.usual bucket).operations.deleteAll upload processed) objects =
        (.ok (), objects') ∧
      Mirrors base ((fates.delete upload).delete processed) files' objects' := by
  obtain ⟨between, between', ran, stored, mirrors⟩ := mirrors.delete bucket first
  obtain ⟨files', objects', ran', stored', mirrors⟩ := mirrors.delete bucket second
  refine ⟨files', objects', ?_, ?_, mirrors⟩
  · have both := (LocalStore.usual base).deleteAll_run upload processed files
    simp only [ran, ran'] at both
    exact both
  · exact (deleteEach_runOn_ok stored).trans (deleteEach_runOn_ok stored')

theorem Mirrors.step (bucket : String) (mirrors : Mirrors base fates files objects) {op : Operation}
    (proper : op.Proper) :
    Mirrors base (op.after fates) (op.onDisk base files).2 (op.inBucket bucket objects).2 ∧
      (SameAnswer (op.onDisk base files).1 (op.inBucket bucket objects).1 ↔
        ¬ op.ReadsEmptied fates) := by
  unfold Operation.onDisk Operation.inBucket
  -- Only reading can tell the stores apart: the other operations give one result in both.
  cases op with
  | save space name source =>
      obtain ⟨result, files', objects', ran, stored, same, mirrors⟩ :=
        mirrors.save bucket space proper.1 proper.2
      rw [Operation.perform, Operation.perform, LocalStore.saveIn_eq, LocalStore.spaceOf_usual,
        BucketStore.saveIn_usual, run_bind_pure, ran, runOn_bind_pure stored]
      exact ⟨mirrors, fun _ => id, fun _ => same⟩
  | get space key =>
      obtain ⟨other, name, named, rfl⟩ := proper
      obtain ⟨onDisk, inBucket, ran, asked, same⟩ := mirrors.fetch bucket other named
      rw [Operation.perform, Operation.perform, LocalStore.getFrom_eq, BucketStore.getFrom_eq,
        run_bind_pure, ran, runOn_bind_pure asked]
      exact ⟨mirrors, same⟩
  | delete key =>
      obtain ⟨files', objects', ran, stored, mirrors⟩ := mirrors.delete bucket proper
      rw [Operation.perform, Operation.perform, LocalStore.operations_delete,
        BucketStore.operations_delete, run_bind_ok ran, BucketStore.runOn_bind_ok stored]
      exact ⟨mirrors, fun _ => id, fun _ => rfl⟩
  | deleteAll upload processed =>
      obtain ⟨files', objects', ran, stored, mirrors⟩ := mirrors.deleteAll bucket proper.1 proper.2
      rw [Operation.perform, Operation.perform, run_bind_ok ran, BucketStore.runOn_bind_ok stored]
      exact ⟨mirrors, fun _ => id, fun _ => rfl⟩

/-! ## Whole histories -/

theorem Mirrors.history (bucket : String) (mirrors : Mirrors base fates files objects)
    {ops : List Operation} (proper : ∀ op ∈ ops, op.Proper) :
    List.Forall₂ SameAnswer (answers (Operation.onDisk base) ops files)
        (answers (Operation.inBucket bucket) ops objects) ↔
      ¬ ReadsEmptied fates ops := by
  induction ops generalizing fates files objects with
  | nil => exact ⟨fun _ => id, fun _ => .nil⟩
  | cons op rest ih =>
      obtain ⟨after, same⟩ := mirrors.step bucket (proper op (by simp))
      have later := ih after fun op member => proper op (by simp [member])
      rw [answers, answers, List.forall₂_cons, same, later, ReadsEmptied, not_or]

end Steps

/-- Stores that hold the same answer alike, unless a key is read whose object was kept in the bucket
when an empty one was refused. -/
theorem answers_alike_iff {base : Path} (bucket : String) {files : FileTree} {objects : Bucket}
    (shelved : Shelved base files)
    (alike : ∀ (space : Space) name, FileName name →
      files.file? (place base space name) = objects.get? (space.key name))
    {ops : List Operation} (proper : ∀ op ∈ ops, op.Proper) :
    List.Forall₂ SameAnswer (answers (Operation.onDisk base) ops files)
        (answers (Operation.inBucket bucket) ops objects) ↔
      ¬ ReadsEmptied (Fate.of objects) ops := by
  have held (key : String) : (Fate.of objects key).onDisk = objects.get? key ∧
      (Fate.of objects key).inBucket = objects.get? key := by
    unfold Fate.of
    cases objects.get? key <;> exact ⟨rfl, rfl⟩
  have mirrors : Mirrors base (Fate.of objects) files objects := {
    shelved
    onDisk := fun space name named => (alike space name named).trans (held _).1.symm
    inBucket := fun space name _ => (held _).2.symm }
  exact mirrors.history bucket proper

def savedAgain : List Operation := [
  .save .upload "a.png" (.bytes ⟨#[1]⟩),
  .save .upload "a.png" (.stream ⟨#[2]⟩ none),
  .get .upload "original/a.png",
  .save .upload "b.png" (.bytes ByteArray.empty),
  .get .upload "original/b.png",
  .save .upload "a.png" (.stream ByteArray.empty none),
  .save .upload "a.png" (.bytes ⟨#[3]⟩),
  .get .upload "original/a.png",
  .save .processed "a.png" (.bytes ⟨#[4]⟩),
  .deleteAll (some "original/a.png") (some "processed/a.png"),
  .delete (some "original/a.png"),
  .deleteAll none (some ""),
  .get .processed "processed/a.png"]

def openedFiles : FileTree := ((LocalStore.make (some ["data"]) "" "").run FileTree.empty).2

theorem savedAgain_alike :
    List.Forall₂ SameAnswer (answers (Operation.onDisk ["data"]) savedAgain openedFiles)
      (answers (Operation.inBucket "images") savedAgain Bucket.empty) := by
  have named : ∀ name ∈ ["data"], FileTree.DirectoryName name := by decide
  have passable (space : Space) : FileTree.Passable (["data"] ++ [space.name]) FileTree.empty := by
    intro path bytes _ found
    cases path <;> cases found
  have fits : ∀ space name, FileName name → FileTree.Fits (place ["data"] space name) := by
    intro space name named
    have short := named.short
    have front : space.name.utf8ByteSize ≤ 9 := by cases space <;> decide
    have above : "data".utf8ByteSize = 4 := by decide
    simp only [FileTree.Fits, place, List.cons_append, List.foldl_cons,
      List.nil_append, List.foldl_nil, above, FileTree.maxPath, FileTree.maxName] at short ⊢
    omega
  obtain ⟨files, ran, shelved, nothing⟩ := LocalStore.make_ok named fits passable fun space name => by
    cases space <;> rfl
  have opened : openedFiles = files := congrArg Prod.snd ran
  have alike (space : Space) (name : String) (_ : FileName name) :
      files.file? (place ["data"] space name) = Bucket.empty.get? (space.key name) :=
    nothing space name
  have photo : FileName "a.png" := by decide
  have other : FileName "b.png" := by decide
  have upload : IsKey "original/a.png" := ⟨.upload, _, photo, by decide⟩
  have result : IsKey "processed/a.png" := ⟨.processed, _, photo, by decide⟩
  have refused : IsKey "original/b.png" := ⟨.upload, _, other, by decide⟩
  rw [opened]
  refine (answers_alike_iff "images" shelved alike ?_).mpr (by decide +kernel)
  simp [savedAgain, Operation.Proper, Deletable, Source.broken, photo, other, upload, result, refused]

def emptiedRead : List Operation := [
  .save .upload "a.png" (.bytes ⟨#[1]⟩),
  .save .upload "a.png" (.bytes ByteArray.empty),
  .get .upload "original/a.png"]

theorem emptiedRead_differs :
    (∀ op ∈ emptiedRead, op.Proper) ∧
      ¬ List.Forall₂ SameAnswer (answers (Operation.onDisk ["data"]) emptiedRead openedFiles)
        (answers (Operation.inBucket "images") emptiedRead Bucket.empty) := by
  have photo : FileName "a.png" := by decide
  have upload : IsKey "original/a.png" := ⟨.upload, _, photo, by decide⟩
  have onDisk : (answers (Operation.onDisk ["data"]) emptiedRead openedFiles).map
      (·.toOption.isSome) = [true, false, false] := by decide +kernel
  have inBucket : (answers (Operation.inBucket "images") emptiedRead Bucket.empty).map
      (·.toOption.isSome) = [true, false, true] := by decide +kernel
  refine ⟨by simp [emptiedRead, Operation.Proper, Source.broken, photo, upload], fun same => ?_⟩
  have succeed := List.forall₂_map_left_iff.mpr
    (List.forall₂_map_right_iff.mpr (same.imp fun _ _ => SameAnswer.isSome_eq))
  rw [onDisk, inBucket, List.forall₂_eq_eq_eq] at succeed
  cases succeed

end ImagePipeline.Asset
