import ImagePipeline.Asset.LocalStore

namespace ImagePipeline.Asset

variable {α β : Type}

theorem eq_ok_of_toOption {result : Except Failure α} {value : α}
    (same : result.toOption = some value) : result = .ok value := by
  cases result with
  | error cause => cases same
  | ok found => exact congrArg Except.ok (Option.some.inj same)

theorem run_bind_ok {first : OnFiles α} {next : α → OnFiles β} {files after : FileTree} {value : α}
    (ran : first.run files = (.ok value, after)) :
    (first >>= next).run files = (next value).run after := by
  have step : (first >>= next).run files =
      (ExceptT.bindCont next (first.run files).1).run (first.run files).2 := rfl
  rw [step, ran]
  rfl

theorem run_get_bind (next : FileTree → OnFiles α) (files : FileTree) :
    (get >>= next : OnFiles α).run files = (next files).run files := rfl

namespace LocalStore

variable {store : LocalStore} {space name key : String} {path : Path} {files tree : FileTree}
  {content : ByteArray}

theorem run_locate (located : store.locate key = .ok path) :
    (liftM (store.locate key) : OnFiles Path).run files = (.ok path, files) := by
  rw [located]
  rfl

theorem fetch_files (store : LocalStore) (key : String) (files : FileTree) :
    ((store.fetch key).run files).2 = files := by
  unfold fetch
  cases located : store.locate key with
  | error failure => rfl
  | ok path =>
      have found : (liftM (.ok path : Except Failure Path) : OnFiles Path).run files =
          (.ok path, files) := rfl
      rw [run_bind_ok found, run_get_bind]
      cases files.read path with
      | ok bytes => rfl
      | error fault => cases fault <;> rfl

theorem fetch_of_located (located : store.locate key = .ok path)
    (read : files.read path = .ok content) : (store.fetch key).run files = (.ok content, files) := by
  unfold fetch
  rw [run_bind_ok (run_locate located), run_get_bind, read]
  rfl

theorem lookFor_ok (known : files.walk path ≠ .error .nameTooLong) :
    (lookFor path).run files = (.ok (), files) := by
  unfold lookFor
  rw [run_get_bind]
  split
  · exact absurd ‹_› known
  · rfl

theorem openForWriting_ok (opened : files.truncate path = .ok tree) :
    (openForWriting path key).run files = (.ok (), tree) := by
  unfold openForWriting
  rw [run_get_bind, opened]
  rfl

theorem save_of_located (located : store.locate (objectKey space name) = .ok path)
    (known : files.walk path ≠ .error .nameTooLong) (opened : files.truncate path = .ok tree)
    (shown : content.isEmpty = false) :
    (store.save space name (.bytes content)).run files =
      (.ok (objectKey space name), tree.put path (.file content)) := by
  have copied : (copy path (objectKey space name) (.bytes content)).run tree =
      (.ok (), tree.put path (.file content)) := rfl
  unfold save
  rw [run_bind_ok (run_locate located), run_bind_ok (lookFor_ok known),
    run_bind_ok (openForWriting_ok opened), run_bind_ok copied]
  simp only [Source.content, shown, Bool.false_eq_true, if_false]
  rfl

end LocalStore

end ImagePipeline.Asset
