import ImagePipeline.Asset.BucketStore
import ImagePipeline.Proofs.Asset.Objects
import ImagePipeline.Proofs.Script.Running
import ImagePipeline.Proofs.Workflow.Naming

namespace ImagePipeline

namespace Asset

open Script (Ran)

theorem LocalStore.save_key {store : LocalStore} {space name key : String} {source : Source}
    {files files' : FileTree}
    (saved : (store.save space name source).run files = (.ok key, files')) :
    key = objectKey space name := by
  have outcome := store.save_saved space name source files
  rw [saved] at outcome
  exact outcome.object?_eq.1

theorem BucketStore.save_key {σ : Type}
    {answers : (c : BucketCall) → σ → bucketClient.Reply c → σ → Prop} {store : BucketStore}
    {space name key : String} {source : Source} {state state' : σ} {events : List (Event bucketClient)}
    (ran : Ran answers (store.save space name source).run state events (.ok key) state') :
    key = objectKey space name := by
  unfold save at ran
  rcases Routine.ran_bind ran with ⟨_, impossible, -⟩ | ⟨body, _, _, _, rfl, -, filled⟩
  · cases impossible
  simp only at filled
  split at filled
  · rcases Routine.ran_bind filled with ⟨_, impossible, -⟩ | ⟨_, _, _, _, -, thrown, -⟩
    · cases impossible
    · cases thrown.2.1
  · exact Routine.ran_then_pure filled

/-- In a store of either kind an upload of this name has a key with one component after those of the
namespace, whatever is saved and whatever is there already. -/
structure OneBelow (name : String) : Prop where
  onDisk : ∀ (store : LocalStore) source files key files',
    (store.operations.saveUpload name source).run files = (.ok key, files') →
      key = objectKey store.uploadSpace name ∧
        Path.components key = Path.components (trimSlashes store.uploadSpace) ++ [name]
  inBucket : ∀ {σ : Type} (answers : (c : BucketCall) → σ → bucketClient.Reply c → σ → Prop)
    (store : BucketStore) source state events key state',
    Ran answers (store.operations.saveUpload name source).run state events (.ok key) state' →
      key = objectKey store.uploadSpace name ∧
        Path.components key = Path.components (trimSlashes store.uploadSpace) ++ [name]

theorem oneBelow_of_single {name : String} (single : '/' ∉ name.toList) : OneBelow name where
  onDisk store source files key files' saved := by
    obtain rfl := LocalStore.save_key saved
    exact ⟨rfl, Path.components_append single _⟩
  inBucket answers store source state events key state' ran := by
    obtain rfl := BucketStore.save_key ran
    exact ⟨rfl, Path.components_append single _⟩

inductive Gave (name key : String) : Prop where
  | onDisk (store : LocalStore) (source : Source) (files files' : FileTree)
      (saved : (store.operations.saveProcessed name source).run files = (.ok key, files')) : Gave name key
  | inBucket {σ : Type} (answers : (c : BucketCall) → σ → bucketClient.Reply c → σ → Prop)
      (store : BucketStore) (source : Source) (state state' : σ) (events : List (Event bucketClient))
      (ran : Ran answers (store.operations.saveProcessed name source).run state events (.ok key) state') :
      Gave name key

theorem Gave.exists_space {name key : String} (gave : Gave name key) :
    ∃ space, key = objectKey space name := by
  cases gave with
  | onDisk store source files files' saved => exact ⟨_, LocalStore.save_key saved⟩
  | inBucket answers store source state state' events ran => exact ⟨_, BucketStore.save_key ran⟩

end Asset

end ImagePipeline
