import ImagePipeline.Proofs.Asset.Contents

namespace ImagePipeline.Asset

namespace FileTree

variable {tree tree' : FileTree} {path other front : Path} {bytes : ByteArray}

theorem read_congr (same : tree'.walk path = tree.walk path) : tree'.read path = tree.read path := by
  unfold read
  rw [same]

theorem file?_congr (same : tree'.walk path = tree.walk path) : tree'.file? path = tree.file? path :=
  congrArg Except.toOption (read_congr same)

def HasDirectory (tree : FileTree) (path : Path) : Prop :=
  tree.walkFrom [] .directory path = .ok .directory

theorem HasDirectory.node?_eq (here : tree.HasDirectory path) (within : front <+: path) :
    tree.node? front = some .directory := by
  obtain ⟨rest, rfl⟩ := within
  have walked : tree.walkFrom [] .directory (front ++ rest) = .ok .directory := here
  rw [walkFrom_append] at walked
  cases reached : tree.walkFrom [] .directory front with
  | error fault =>
      rw [reached] at walked
      cases walked
  | ok node =>
      rw [reached] at walked
      rw [node?_of_walkFrom_root reached]
      cases rest with
      | nil =>
          cases walked
          rfl
      | cons name rest => rw [(walkFrom_cons_ok walked).1]

namespace AlikeBut

theorem symm (alike : AlikeBut path tree tree') : AlikeBut path tree' tree where
  same other distinct := (alike.same other distinct).symm
  before := alike.after
  after := alike.before

theorem ne_nil (alike : AlikeBut path tree tree') : path ≠ [] := by
  rintro rfl
  exact alike.before rfl

theorem walkFrom_eq (alike : AlikeBut path tree tree') (apart : ¬ path <+: other) :
    tree'.walkFrom [] .directory other = tree.walkFrom [] .directory other := by
  apply walkFrom_congr
  intro front _ within
  refine alike.same _ ?_
  rintro rfl
  exact apart within

theorem walk_eq (alike : AlikeBut path tree tree') (apart : ¬ path <+: other) :
    tree'.walk other = tree.walk other := by
  unfold walk
  rw [alike.walkFrom_eq apart]

theorem apart_of_directory (alike : AlikeBut path tree tree') (here : tree.HasDirectory other) :
    ¬ path <+: other := fun within => alike.before (here.node?_eq within)

theorem hasDirectory (alike : AlikeBut path tree tree') : tree'.HasDirectory = tree.HasDirectory := by
  have onward {tree tree' : FileTree} {other : Path} (alike : AlikeBut path tree tree')
      (here : tree.HasDirectory other) : tree'.HasDirectory other := by
    rw [HasDirectory, alike.walkFrom_eq (alike.apart_of_directory here)]
    exact here
  funext other
  exact propext ⟨onward alike.symm, onward alike⟩

theorem walk_inside {name : String} (alike : AlikeBut path tree tree')
    (here : tree.HasDirectory other) (distinct : path ≠ other ++ [name]) :
    tree'.walk (other ++ [name]) = tree.walk (other ++ [name]) := by
  refine alike.walk_eq fun within => ?_
  rcases List.prefix_concat_iff.mp within with same | above
  · exact distinct same
  · exact alike.apart_of_directory here above

theorem walk_dropLast (alike : AlikeBut path tree tree') :
    tree'.walk path.dropLast = tree.walk path.dropLast := by
  refine alike.walk_eq fun within => ?_
  have shorter := within.length_le
  rw [List.length_dropLast] at shorter
  have inside := List.length_pos_iff.mpr alike.ne_nil
  omega

end AlikeBut

theorem Opens.walk_erase (opens : tree.Opens path) : (tree.erase path).walk path = .error .notFound := by
  obtain ⟨parent, name, rfl, short, reached⟩ := opens.inside
  have alike := alikeBut_erase opens.ne_nil opens.flat
  have here : (tree.erase (parent ++ [name])).HasDirectory parent := by
    rw [alike.hasDirectory]
    exact reached
  have fits : ¬ maxPath < _ := Nat.not_lt.mpr opens.fits
  unfold walk
  simp only [fits, if_false]
  rw [walkFrom_append, show _ = Except.ok Node.directory from here]
  simp only [Except.bind, walkFrom, short, if_false, List.nil_append]
  rw [node?_erase_self tree (by simp)]

theorem Opens.walk_put (opens : tree.Opens path) (bytes : ByteArray) :
    (tree.put path (.file bytes)).walk path = .ok (.file bytes) :=
  file?_eq_some_iff.mp (opens.file?_put_self bytes)

theorem truncate_congr (here : tree'.walk path = tree.walk path)
    (above : tree'.walk path.dropLast = tree.walk path.dropLast) :
    tree'.truncate path =
      (tree.truncate path).map fun _ => tree'.put path (.file ByteArray.empty) := by
  unfold truncate
  rw [here, above]
  split
  · rfl
  · rfl
  · split <;> rfl
  · rfl

end FileTree

open FileTree

namespace LocalStore

variable {store : LocalStore} {space name key : String} {source : Source} {path : Path}
  {files files' tree : FileTree} {content : ByteArray}

def TouchedAt (store : LocalStore) (key : String) (files files' : FileTree) : Prop :=
  files' = files ∨ ∃ path, store.locate key = .ok path ∧ AlikeBut path files files'

theorem TouchedAt.hasDirectory (touched : store.TouchedAt key files files') :
    files'.HasDirectory = files.HasDirectory := by
  rcases touched with rfl | ⟨path, -, alike⟩
  · rfl
  · exact alike.hasDirectory

/-- The key leads to a place in a directory. -/
def Housed (store : LocalStore) (files : FileTree) (key : String) : Prop :=
  ∃ directory name, store.locate key = .ok (directory ++ [name]) ∧ files.HasDirectory directory

theorem Housed.congr (housed : store.Housed files key)
    (same : files'.HasDirectory = files.HasDirectory) : store.Housed files' key := by
  obtain ⟨directory, name, located, here⟩ := housed
  exact ⟨directory, name, located, same ▸ here⟩

theorem fetch_congr (store : LocalStore) (key : String)
    (same : ∀ path, store.locate key = .ok path → files'.walk path = files.walk path) :
    ((store.fetch key).run files').1 = ((store.fetch key).run files).1 := by
  cases located : store.locate key with
  | error cause =>
      unfold fetch
      rw [run_bind_error (run_locate_error files' located),
        run_bind_error (run_locate_error files located)]
  | ok path =>
      unfold fetch
      have read := read_congr (same path located)
      rw [run_bind_ok (run_locate located), run_bind_ok (run_locate located), run_get_bind, run_get_bind,
        read]
      cases files.read path with
      | ok bytes => rfl
      | error fault => cases fault <;> rfl

def written (key : String) (source : Source) : Except Failure String :=
  match source.broken with
  | some failure => .error (if failure.isDevice then failed "파일 저장 실패: " key else failure)
  | none => if source.content.isEmpty then .error (emptyFile key) else .ok key

def remaining (source : Source) : Except FileFault Node :=
  match source.broken with
  | some _ => .ok (.file source.content)
  | none => if source.content.isEmpty then .error .notFound else .ok (.file source.content)

theorem save_run_unlocated {cause : Failure}
    (nowhere : store.locate (objectKey space name) = .error cause) :
    (store.save space name source).run files = (.error cause, files) := by
  unfold save
  rw [run_bind_error (run_locate_error files nowhere)]

theorem save_run_tooLong (located : store.locate (objectKey space name) = .ok path)
    (tooLong : files.walk path = .error .nameTooLong) :
    (store.save space name source).run files = (.error .nameTooLong, files) := by
  have looked : (lookFor path).run files = (.error .nameTooLong, files) := by
    unfold lookFor
    rw [run_get_bind, tooLong]
    rfl
  unfold save
  rw [run_bind_ok (run_locate located), run_bind_error looked]

theorem save_run_unopened {fault : FileFault} (located : store.locate (objectKey space name) = .ok path)
    (known : files.walk path ≠ .error .nameTooLong) (unopened : files.truncate path = .error fault) :
    (store.save space name source).run files =
      (.error (failed "파일 저장 실패: " (objectKey space name)), files) := by
  have refused : (openForWriting path (objectKey space name)).run files =
      (.error (failed "파일 저장 실패: " (objectKey space name)), files) := by
    unfold openForWriting
    rw [run_get_bind, unopened]
    rfl
  unfold save
  rw [run_bind_ok (run_locate located), run_bind_ok (lookFor_ok known), run_bind_error refused]

theorem save_run_opened (source : Source) (located : store.locate (objectKey space name) = .ok path)
    (known : files.walk path ≠ .error .nameTooLong) (opened : files.truncate path = .ok tree) :
    ((store.save space name source).run files).1 = written (objectKey space name) source ∧
      ((store.save space name source).run files).2.walk path = remaining source ∧
      AlikeBut path files ((store.save space name source).run files).2 := by
  obtain ⟨opens, rfl⟩ := truncate_ok opened
  have opens' := opens.put ByteArray.empty
  have opens'' := opens'.put source.content
  have alike := (opens.alikeBut_put ByteArray.empty).trans (opens'.alikeBut_put source.content)
  unfold save
  rw [run_bind_ok (run_locate located), run_bind_ok (lookFor_ok known),
    run_bind_ok (openForWriting_ok opened)]
  cases whole : source.broken with
  | some failure =>
      have copied : (copy path (objectKey space name) source).run
          (files.put path (.file ByteArray.empty)) =
            (.error (if failure.isDevice then failed "파일 저장 실패: " (objectKey space name) else failure),
              (files.put path (.file ByteArray.empty)).put path (.file source.content)) := by
        simp only [copy, whole]
        rfl
      rw [run_bind_error copied]
      have there : remaining source = .ok (.file source.content) := by simp only [remaining, whole]
      exact ⟨by simp only [written, whole], there ▸ opens'.walk_put source.content, alike⟩
  | none =>
      rw [run_bind_ok (copy_run_whole (objectKey space name) whole)]
      cases nothing : source.content.isEmpty with
      | true =>
          have result : written (objectKey space name) source =
              .error (emptyFile (objectKey space name)) := by
            simp only [written, whole, nothing, if_true]
          have there : remaining source = .error .notFound := by
            simp only [remaining, whole, nothing, if_true]
          exact ⟨result.symm, there ▸ opens''.walk_erase,
            alike.trans (alikeBut_erase opens.ne_nil opens''.flat)⟩
      | false =>
          have result : written (objectKey space name) source = .ok (objectKey space name) := by
            simp only [written, whole, nothing, Bool.false_eq_true, if_false]
          have there : remaining source = .ok (.file source.content) := by
            simp only [remaining, whole, nothing, Bool.false_eq_true, if_false]
          exact ⟨result.symm, there ▸ opens'.walk_put source.content, alike⟩

theorem save_cases (located : store.locate (objectKey space name) = .ok path) (source : Source)
    (files : FileTree) :
    (∃ cause, (store.save space name source).run files = (.error cause, files)) ∨
      (∃ tree, files.walk path ≠ .error .nameTooLong ∧ files.truncate path = .ok tree) := by
  by_cases known : files.walk path = .error .nameTooLong
  · exact .inl ⟨_, save_run_tooLong located known⟩
  · cases opened : files.truncate path with
    | error fault => exact .inl ⟨_, save_run_unopened located known opened⟩
    | ok tree => exact .inr ⟨tree, known, rfl⟩

theorem save_touched (store : LocalStore) (space name : String) (source : Source) (files : FileTree) :
    store.TouchedAt (objectKey space name) files ((store.save space name source).run files).2 := by
  cases located : store.locate (objectKey space name) with
  | error cause =>
      rw [save_run_unlocated located]
      exact .inl rfl
  | ok path =>
      rcases save_cases located source files with ⟨cause, ran⟩ | ⟨tree, known, opened⟩
      · rw [ran]
        exact .inl rfl
      · exact .inr ⟨path, located, (save_run_opened source located known opened).2.2⟩

theorem opens_of_saved (saved : ((store.save space name source).run files).1 = .ok key) :
    ∃ path, store.locate (objectKey space name) = .ok path ∧ files.Opens path := by
  cases located : store.locate (objectKey space name) with
  | error cause =>
      rw [save_run_unlocated located] at saved
      cases saved
  | ok path =>
      rcases save_cases located source files with ⟨cause, refused⟩ | ⟨tree, -, opened⟩
      · rw [refused] at saved
        cases saved
      · exact ⟨path, rfl, (truncate_ok opened).1⟩

theorem save_housed (saved : ((store.save space name source).run files).1 = .ok key) :
    store.Housed ((store.save space name source).run files).2 (objectKey space name) := by
  obtain ⟨path, located, opens⟩ := opens_of_saved saved
  obtain ⟨parent, last, rfl, -, reached⟩ := opens.inside
  refine ⟨parent, last, located, ?_⟩
  rw [(store.save_touched space name source files).hasDirectory]
  exact reached

theorem save_congr (source : Source) (located : store.locate (objectKey space name) = .ok path)
    (here : files'.walk path = files.walk path)
    (above : files'.walk path.dropLast = files.walk path.dropLast) :
    ((store.save space name source).run files').1 = ((store.save space name source).run files).1 ∧
      ((store.save space name source).run files').2.walk path =
        ((store.save space name source).run files).2.walk path := by
  by_cases known : files.walk path = .error .nameTooLong
  · rw [save_run_tooLong located known, save_run_tooLong located (here.trans known)]
    exact ⟨rfl, here⟩
  · have known' : files'.walk path ≠ .error .nameTooLong := here ▸ known
    have opened' := truncate_congr here above
    cases opened : files.truncate path with
    | error fault =>
        rw [opened] at opened'
        rw [save_run_unopened located known opened, save_run_unopened located known' opened']
        exact ⟨rfl, here⟩
    | ok tree =>
        rw [opened] at opened'
        obtain ⟨result, there, -⟩ := save_run_opened source located known opened
        obtain ⟨result', there', -⟩ := save_run_opened source located known' opened'
        exact ⟨result'.trans result.symm, there'.trans there.symm⟩

theorem delete_touched (store : LocalStore) (key : Option String) (files : FileTree) :
    ((store.delete key).run files).2 = files ∨
      ∃ k, key = some k ∧ store.TouchedAt k files ((store.delete key).run files).2 := by
  cases key with
  | none => exact .inl rfl
  | some key =>
      cases keyless : key.isEmpty with
      | true =>
          simp only [delete, keyless, if_true]
          exact .inl rfl
      | false =>
          cases located : store.locate key with
          | error cause =>
              simp only [delete, keyless, Bool.false_eq_true, if_false]
              rw [run_bind_error (run_locate_error files located)]
              exact .inl rfl
          | ok path =>
              simp only [delete, keyless, Bool.false_eq_true, if_false]
              rw [run_bind_ok (run_locate located), run_get_bind]
              cases removed : files.remove path with
              | ok tree => exact .inr ⟨key, rfl, .inr ⟨path, located, (remove_ok removed).1⟩⟩
              | error fault => cases fault <;> exact .inl rfl

theorem delete_hasDirectory (store : LocalStore) (key : Option String) (files : FileTree) :
    ((store.delete key).run files).2.HasDirectory = files.HasDirectory := by
  rcases store.delete_touched key files with same | ⟨k, -, touched⟩
  · rw [same]
  · exact touched.hasDirectory

end LocalStore

end ImagePipeline.Asset
