import ImagePipeline.Proofs.Asset.Directories
import Mathlib.Logic.Relation

namespace ImagePipeline.Asset

namespace FileTree

variable {tree tree' : FileTree} {path : Path}

theorem Opens.congr (opens : tree.Opens path) (alike : AlikeBut path tree tree') : tree'.Opens path where
  fits := opens.fits
  inside := by
    obtain ⟨parent, name, rfl, short, reached⟩ := opens.inside
    have here : tree'.HasDirectory parent := alike.hasDirectory ▸ reached
    exact ⟨parent, name, rfl, short, here⟩
  flat := alike.after

theorem fits_of_concat {parent : Path} {name : String} (fits : Fits (parent ++ [name])) : Fits parent := by
  unfold Fits at fits ⊢
  rw [List.foldl_append] at fits
  simp only [List.foldl_cons, List.foldl_nil] at fits
  omega

theorem Opens.walk_cases (opens : tree.Opens path) : (∃ bytes, tree.walk path = .ok (.file bytes)) ∨
    tree.walk path = .error .notFound ∧ tree.walk path.dropLast = .ok .directory := by
  obtain ⟨parent, name, rfl, short, reached⟩ := opens.inside
  have above : tree.walk parent = .ok .directory :=
    walk_eq_ok_iff.mpr ⟨fits_of_concat opens.fits, reached⟩
  have walked : tree.walk (parent ++ [name]) = tree.walkFrom parent .directory [name] := by
    have fits : ¬ maxPath < _ := Nat.not_lt.mpr opens.fits
    unfold walk
    simp only [fits, if_false]
    rw [walkFrom_append, reached]
    rfl
  simp only [walkFrom, short, if_false] at walked
  cases here : tree.node? (parent ++ [name]) with
  | none =>
      rw [here] at walked
      exact .inr ⟨walked, by rw [List.dropLast_concat]; exact above⟩
  | some node =>
      rw [here] at walked
      cases node with
      | file bytes => exact .inl ⟨bytes, walked⟩
      | directory => exact absurd here opens.flat

theorem Opens.truncate_eq (opens : tree.Opens path) : tree.walk path ≠ .error .nameTooLong ∧
    tree.truncate path = .ok (tree.put path (.file ByteArray.empty)) := by
  unfold truncate
  rcases opens.walk_cases with ⟨bytes, there⟩ | ⟨missing, above⟩
  · rw [there]
    exact ⟨nofun, rfl⟩
  · rw [missing, above]
    exact ⟨nofun, rfl⟩

end FileTree

open FileTree

namespace LocalStore

variable {store : LocalStore} {space name : String} {path : Path}
  {files between files' : FileTree}

/-- Saving under the name comes to the same in both trees. -/
def SavesAlike (store : LocalStore) (space name : String) (files files' : FileTree) : Prop :=
  ∀ source, ((store.save space name source).run files').1 = ((store.save space name source).run files).1 ∧
    store.object? ((store.save space name source).run files').2 (objectKey space name) =
      store.object? ((store.save space name source).run files).2 (objectKey space name)

theorem SavesAlike.refl (files : FileTree) : store.SavesAlike space name files files :=
  fun _ => ⟨rfl, rfl⟩

theorem SavesAlike.trans (first : store.SavesAlike space name files between)
    (second : store.SavesAlike space name between files') : store.SavesAlike space name files files' :=
  fun source => ⟨(second source).1.trans (first source).1, (second source).2.trans (first source).2⟩

theorem savesAlike_of_opens (located : store.locate (objectKey space name) = .ok path)
    (opens : files.Opens path) (alike : AlikeBut path files files') :
    store.SavesAlike space name files files' := by
  intro source
  obtain ⟨known, opened⟩ := opens.truncate_eq
  obtain ⟨known', opened'⟩ := (opens.congr alike).truncate_eq
  obtain ⟨result, there, -⟩ := save_run_opened source located known opened
  obtain ⟨result', there', -⟩ := save_run_opened source located known' opened'
  refine ⟨result'.trans result.symm, ?_⟩
  rw [object?_of_located located, object?_of_located located]
  exact file?_congr (there'.trans there.symm)

theorem savesAlike_save (store : LocalStore) (space name : String) (first : Source) (files : FileTree) :
    store.SavesAlike space name files ((store.save space name first).run files).2 := by
  cases located : store.locate (objectKey space name) with
  | error cause =>
      have refused : (store.save space name first).run files = (.error cause, files) :=
        save_run_unlocated located
      rw [refused]
      exact .refl files
  | ok path =>
      rcases save_cases located first files with ⟨cause, refused⟩ | ⟨tree, known, opened⟩
      · rw [refused]
        exact .refl files
      · have alike := (save_run_opened first located known opened).2.2
        exact savesAlike_of_opens located (truncate_ok opened).1 alike

def Resaved (store : LocalStore) (space name : String) : FileTree → FileTree → Prop :=
  Relation.ReflTransGen fun files files' => ∃ source, files' = ((store.save space name source).run files).2

namespace Resaved

theorem savesAlike (resaved : store.Resaved space name files files') :
    store.SavesAlike space name files files' := by
  induction resaved with
  | refl => exact .refl files
  | @tail between _ _ saved ih =>
      obtain ⟨first, same⟩ := saved
      rw [same]
      exact ih.trans (store.savesAlike_save space name first between)

theorem hasDirectory (resaved : store.Resaved space name files files') :
    files'.HasDirectory = files.HasDirectory := by
  induction resaved with
  | refl => rfl
  | @tail between _ _ saved ih =>
      obtain ⟨source, same⟩ := saved
      rw [same]
      exact (store.save_touched space name source between).hasDirectory.trans ih

theorem walk_inside {directory : Path} {last : String} (resaved : store.Resaved space name files files')
    (here : files.HasDirectory directory)
    (apart : ∀ path, store.locate (objectKey space name) = .ok path → path ≠ directory ++ [last]) :
    files'.walk (directory ++ [last]) = files.walk (directory ++ [last]) := by
  induction resaved with
  | refl => rfl
  | @tail between _ before saved ih =>
      obtain ⟨source, same⟩ := saved
      rw [same]
      have there : between.HasDirectory directory := hasDirectory before ▸ here
      rcases store.save_touched space name source between with kept | ⟨path, located, alike⟩
      · rw [kept]
        exact ih
      · exact (alike.walk_inside there (apart path located)).trans ih

end Resaved

end LocalStore

end ImagePipeline.Asset
