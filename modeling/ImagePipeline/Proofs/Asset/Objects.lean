import ImagePipeline.Proofs.Asset.FileTree
import ImagePipeline.Proofs.Asset.LocalStore

namespace ImagePipeline.Asset

variable {α β : Type}

theorem run_bind_error {first : OnFiles α} {next : α → OnFiles β} {files after : FileTree}
    {cause : Failure} (ran : first.run files = (.error cause, after)) :
    (first >>= next).run files = (.error cause, after) := by
  have step : (first >>= next).run files =
      (ExceptT.bindCont next (first.run files).1).run (first.run files).2 := rfl
  rw [step, ran]
  rfl

theorem run_bind_inv {first : OnFiles α} {next : α → OnFiles β} {files after : FileTree} {value : β}
    (ran : (first >>= next).run files = (.ok value, after)) :
    ∃ middle between, first.run files = (.ok middle, between) ∧
      (next middle).run between = (.ok value, after) := by
  cases done : first.run files with
  | mk result between =>
      cases result with
      | ok middle => exact ⟨middle, between, rfl, (run_bind_ok done).symm.trans ran⟩
      | error cause =>
          rw [run_bind_error done] at ran
          cases ran

theorem run_locate_error {store : LocalStore} {key : String} {cause : Failure} (files : FileTree)
    (nowhere : store.locate key = .error cause) :
    (liftM (store.locate key) : OnFiles Path).run files = (.error cause, files) := by
  rw [nowhere]
  rfl

namespace LocalStore

variable {store : LocalStore} {space name key : String} {source : Source}
  {files files' : FileTree} {path other : Path} {bytes : ByteArray}

def object? (store : LocalStore) (files : FileTree) (key : String) : Option ByteArray :=
  (store.locate key).toOption.bind files.file?

theorem object?_of_located (located : store.locate key = .ok path) :
    store.object? files key = files.file? path := by
  rw [object?, located]
  rfl

theorem object?_eq_none_iff : store.object? files key = none ↔
    ∀ path, store.locate key = .ok path → files.file? path = none := by
  constructor
  · intro absent path located
    rwa [object?_of_located located] at absent
  · intro absent
    cases located : store.locate key with
    | error cause =>
        rw [object?, located]
        rfl
    | ok path => rw [object?_of_located located, absent path located]

theorem object?_ne_none_iff : store.object? files key ≠ none ↔
    ∃ path, store.locate key = .ok path ∧ files.file? path ≠ none := by
  simp only [ne_eq, object?_eq_none_iff, Classical.not_forall, exists_prop]

theorem object?_of_fetched (fetched : ((store.fetch key).run files).1 = .ok bytes) :
    store.object? files key = some bytes := by
  unfold fetch at fetched
  cases located : store.locate key with
  | error cause =>
      rw [run_bind_error (run_locate_error files located)] at fetched
      cases fetched
  | ok path =>
      rw [run_bind_ok (run_locate located), run_get_bind] at fetched
      cases read : files.read path with
      | ok found =>
          rw [read] at fetched
          cases fetched
          rw [object?_of_located located, FileTree.file?, read]
          rfl
      | error fault =>
          rw [read] at fetched
          cases fault <;> cases fetched

def OnlyAt (path : Path) (files files' : FileTree) : Prop :=
  ∀ other, other ≠ path → files'.file? other = files.file? other

/-- How saving ends, and what is then at the path: a source that breaks off leaves what came before,
and one that is empty leaves nothing. -/
inductive Saved (store : LocalStore) (space name : String) (source : Source) (files : FileTree) :
    Except Failure String → FileTree → Prop where
  | refused (cause : Failure) : Saved store space name source files (.error cause) files
  | broken {files' : FileTree} (path : Path) (cause failure : Failure)
      (located : store.locate (objectKey space name) = .ok path)
      (breaks : source.broken = some failure)
      (there : files'.file? path = some source.content) (elsewhere : OnlyAt path files files') :
      Saved store space name source files (.error cause) files'
  | empty {files' : FileTree} (path : Path) (located : store.locate (objectKey space name) = .ok path)
      (whole : source.broken = none) (nothing : source.content.isEmpty = true)
      (gone : files'.file? path = none) (elsewhere : OnlyAt path files files') :
      Saved store space name source files (.error (emptyFile (objectKey space name))) files'
  | kept {files' : FileTree} (path : Path) (located : store.locate (objectKey space name) = .ok path)
      (whole : source.broken = none) (something : source.content.isEmpty = false)
      (there : files'.file? path = some source.content) (elsewhere : OnlyAt path files files') :
      Saved store space name source files (.ok (objectKey space name)) files'

theorem lookFor_run (path : Path) (files : FileTree) :
    (∃ cause, (lookFor path).run files = (.error cause, files)) ∨
      (lookFor path).run files = (.ok (), files) := by
  unfold lookFor
  rw [run_get_bind]
  split
  · exact .inl ⟨_, rfl⟩
  · exact .inr rfl

theorem copy_run_whole (key : String) (whole : source.broken = none) :
    (copy path key source).run files = (.ok (), files.put path (.file source.content)) := by
  simp only [copy, whole]
  rfl

theorem copy_run_broken (path : Path) (files : FileTree) (key : String) {failure : Failure}
    (breaks : source.broken = some failure) : ∃ cause, (copy path key source).run files =
      (.error cause, files.put path (.file source.content)) := by
  simp only [copy, breaks]
  exact ⟨_, rfl⟩

theorem save_saved (store : LocalStore) (space name : String) (source : Source) (files : FileTree) :
    Saved store space name source files ((store.save space name source).run files).1
      ((store.save space name source).run files).2 := by
  unfold save
  cases located : store.locate (objectKey space name) with
  | error cause =>
      rw [run_bind_error (run_locate_error files located)]
      exact .refused cause
  | ok path =>
      rw [run_bind_ok (run_locate located)]
      rcases lookFor_run path files with ⟨cause, tooLong⟩ | looked
      · rw [run_bind_error tooLong]
        exact .refused cause
      rw [run_bind_ok looked]
      cases opened : files.truncate path with
      | error fault =>
          have refused : (openForWriting path (objectKey space name)).run files =
              (.error (failed "파일 저장 실패: " (objectKey space name)), files) := by
            unfold openForWriting
            rw [run_get_bind, opened]
            rfl
          rw [run_bind_error refused]
          exact .refused _
      | ok tree =>
          obtain ⟨opens, rfl⟩ := FileTree.truncate_ok opened
          rw [run_bind_ok (openForWriting_ok opened)]
          -- the file is truncated first, so what was there is lost even if the copy breaks off
          have opens' := opens.put ByteArray.empty
          have there := opens'.file?_put_self source.content
          have elsewhere : OnlyAt path files
              ((files.put path (.file ByteArray.empty)).put path (.file source.content)) :=
            fun other distinct =>
              ((opens'.alikeBut_put source.content).file?_of_ne distinct).trans
                ((opens.alikeBut_put ByteArray.empty).file?_of_ne distinct)
          cases whole : source.broken with
          | some failure =>
              obtain ⟨cause, copied⟩ := copy_run_broken path (files.put path (.file ByteArray.empty))
                (objectKey space name) whole
              rw [run_bind_error copied]
              exact .broken path cause failure located whole there elsewhere
          | none =>
              rw [run_bind_ok (copy_run_whole (objectKey space name) whole)]
              cases nothing : source.content.isEmpty with
              | false => exact .kept path located whole nothing there elsewhere
              | true =>
                  have opens'' := opens'.put source.content
                  have gone : (((files.put path (.file ByteArray.empty)).put path
                      (.file source.content)).erase path).file? path = none :=
                    FileTree.file?_erase_self opens.ne_nil
                  exact .empty path located whole nothing gone fun other distinct =>
                    ((FileTree.alikeBut_erase opens.ne_nil opens''.flat).file?_of_ne distinct).trans
                      (elsewhere other distinct)

namespace Saved

variable {result : Except Failure String}

theorem apart (saved : Saved store space name source files result files')
    (distinct : ∀ path, store.locate (objectKey space name) = .ok path → other ≠ path) :
    files'.file? other = files.file? other := by
  cases saved with
  | refused => rfl
  | broken path _ _ located _ _ elsewhere => exact elsewhere other (distinct path located)
  | empty path located _ _ _ elsewhere => exact elsewhere other (distinct path located)
  | kept path located _ _ _ elsewhere => exact elsewhere other (distinct path located)

theorem object?_eq (saved : Saved store space name source files (.ok key) files') :
    key = objectKey space name ∧ store.object? files' key = some source.content := by
  cases saved with
  | kept path located _ _ there => exact ⟨rfl, (object?_of_located located).trans there⟩

end Saved

inductive Deleted (store : LocalStore) (files : FileTree) :
    Option String → Except Failure Unit → FileTree → Prop where
  | refused (key : Option String) (cause : Failure) : Deleted store files key (.error cause) files
  | keyless (key : Option String) (nothing : ∀ k, key = some k → k.isEmpty = true) :
      Deleted store files key (.ok ()) files
  | gone {files' : FileTree} (key : String) (path : Path) (located : store.locate key = .ok path)
      (absent : files'.file? path = none) (elsewhere : OnlyAt path files files') :
      Deleted store files (some key) (.ok ()) files'

theorem delete_deleted (store : LocalStore) (key : Option String) (files : FileTree) :
    Deleted store files key ((store.delete key).run files).1 ((store.delete key).run files).2 := by
  cases key with
  | none => exact .keyless none nofun
  | some key =>
      cases keyless : key.isEmpty with
      | true =>
          have done : (store.delete (some key)).run files = (.ok (), files) := by
            simp only [delete, keyless, if_true]
            rfl
          rw [done]
          exact .keyless (some key) fun k same => Option.some.inj same ▸ keyless
      | false =>
          cases located : store.locate key with
          | error cause =>
              simp only [delete, keyless, Bool.false_eq_true, if_false]
              rw [run_bind_error (run_locate_error files located)]
              exact .refused _ cause
          | ok path =>
              simp only [delete, keyless, Bool.false_eq_true, if_false]
              rw [run_bind_ok (run_locate located), run_get_bind]
              cases removed : files.remove path with
              | ok tree =>
                  obtain ⟨alike, absent⟩ := FileTree.remove_ok removed
                  exact .gone key path located absent fun other distinct => alike.file?_of_ne distinct
              | error fault =>
                  cases fault with
                  | notFound =>
                      exact .gone key path located (FileTree.file?_of_not_removed removed)
                        fun _ _ => rfl
                  | notADirectory => exact .refused _ _
                  | isADirectory => exact .refused _ _
                  | nameTooLong => exact .refused _ _

namespace Deleted

variable {given : Option String} {result : Except Failure Unit}

theorem apart (deleted : Deleted store files given result files')
    (distinct : ∀ key path, given = some key → store.locate key = .ok path → other ≠ path) :
    files'.file? other = files.file? other := by
  cases deleted with
  | refused => rfl
  | keyless => rfl
  | gone key path located _ elsewhere => exact elsewhere other (distinct key path rfl located)

theorem file?_eq (deleted : Deleted store files given result files') (path : Path) :
    files'.file? path = files.file? path ∨ files'.file? path = none := by
  cases deleted with
  | refused => exact .inl rfl
  | keyless => exact .inl rfl
  | gone key at_ located absent elsewhere =>
      by_cases same : path = at_
      · exact .inr (same ▸ absent)
      · exact .inl (elsewhere path same)

theorem object?_eq_none (deleted : Deleted store files (some key) (.ok ()) files')
    (named : key.isEmpty = false) : store.object? files' key = none := by
  cases deleted with
  | keyless _ nothing =>
      rw [nothing key rfl] at named
      cases named
  | gone _ path located absent => exact (object?_of_located located).trans absent

end Deleted

end LocalStore

end ImagePipeline.Asset
