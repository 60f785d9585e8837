import ImagePipeline.Proofs.Asset.Contents
import ImagePipeline.Proofs.Asset.Objects
import ImagePipeline.Proofs.Script.Running
/-!
# Deleting one path after the other

Whatever a deletion does, `deleteEach` attempts one for every path and then reports the first failure
(`deleteEach_run`); the attempts can be noted without any change to what is done (`noted_eq`). What a store
holds is seen through an inventory: an attempt touches at most the objects that its path leads to, and so
do all attempts together (`Inventory.removed_deletions`). Deletions that fail in any pattern are put
together with both in `every_path_tried`, for files and for a bucket.
-/

namespace ImagePipeline.Asset

structure Deletion where
  path : Option String
  ended : Except Failure Unit

def failureOf : Except Failure Unit → Option Failure
  | .ok () => none
  | .error cause => some cause

def endingWith : Option Failure → Except Failure Unit
  | none => .ok ()
  | some cause => .error cause

theorem failureOf_eq_none_iff {ended : Except Failure Unit} : failureOf ended = none ↔ ended = .ok () := by
  cases ended <;> simp [failureOf]

theorem failureOf_eq_some_iff {ended : Except Failure Unit} {cause : Failure} :
    failureOf ended = some cause ↔ ended = .error cause := by
  cases ended <;> simp [failureOf]

theorem endingWith_eq_error_iff {first : Option Failure} {cause : Failure} :
    endingWith first = .error cause ↔ first = some cause := by
  cases first <;> simp [endingWith]

/-! ## The law of deleting each path -/

section Law

variable {n : Type → Type} [Monad n]

def deletions (delete : Option String → ExceptT Failure n Unit) (paths : List (Option String)) :
    n (List Deletion) :=
  paths.mapM fun path => Deletion.mk path <$> (delete path).run

def endOf (tried : List Deletion) : Except Failure Unit :=
  endingWith (tried.findSome? fun d => failureOf d.ended)

def noting (delete : Option String → ExceptT Failure n Unit) (path : Option String) :
    ExceptT Failure (StateT (List Deletion) n) Unit :=
  ExceptT.mk do
    let ended ← (delete path).run
    modify (· ++ [⟨path, ended⟩])
    return ended

theorem deleteEach_nil_run (delete : Option String → ExceptT Failure n Unit) (first : Option Failure) :
    (deleteEach delete [] first).run = pure (endingWith first) := by
  cases first <;> rfl

variable [LawfulMonad n]

theorem deletions_cons (delete : Option String → ExceptT Failure n Unit) (path : Option String)
    (rest : List (Option String)) :
    deletions delete (path :: rest) = (delete path).run >>= fun ended =>
      (⟨path, ended⟩ :: ·) <$> deletions delete rest := by
  simp only [deletions, List.mapM_cons, map_eq_pure_bind, bind_assoc, pure_bind]

theorem deleteEach_cons_run (delete : Option String → ExceptT Failure n Unit) (path : Option String)
    (rest : List (Option String)) (first : Option Failure) :
    (deleteEach delete (path :: rest) first).run = (delete path).run >>= fun ended =>
      (deleteEach delete rest (first <|> failureOf ended)).run := by
  rw [deleteEach, ExceptT.run_bind, ExceptT.run_tryCatch, seqRight_eq_bind, ExceptT.run_bind, bind_assoc,
    bind_assoc]
  congr 1
  funext ended
  cases ended <;> simp [failureOf]

theorem deleteEach_run (delete : Option String → ExceptT Failure n Unit) (paths : List (Option String))
    (first : Option Failure) :
    (deleteEach delete paths first).run = (fun tried : List Deletion =>
      endingWith (first <|> tried.findSome? fun d => failureOf d.ended)) <$> deletions delete paths := by
  induction paths generalizing first with
  | nil =>
      rw [deleteEach_nil_run, deletions, List.mapM_nil, map_pure]
      cases first <;> rfl
  | cons path rest ih =>
      rw [deleteEach_cons_run, deletions_cons, map_bind]
      congr 1
      funext ended
      rw [ih, ← comp_map]
      congr 1
      funext tried
      -- the failure of this deletion counts only if none came before
      cases first <;> cases ended <;> rfl

theorem deletions_noting (delete : Option String → ExceptT Failure n Unit) (paths : List (Option String))
    (noted : List Deletion) :
    (deletions (noting delete) paths).run noted =
      (fun tried => (tried, noted ++ tried)) <$> deletions delete paths := by
  induction paths generalizing noted with
  | nil => simp [deletions]
  | cons path rest ih =>
      simp only [deletions_cons, StateT.run_bind, StateT.run_map, ih, map_bind]
      simp [noting]

theorem noted_eq (delete : Option String → ExceptT Failure n Unit) (paths : List (Option String)) :
    (deleteEach (noting delete) paths none).run.run [] =
      (fun tried => (endOf tried, tried)) <$> deletions delete paths := by
  rw [deleteEach_run, StateT.run_map, deletions_noting]
  simp [endOf]

end Law

/-! ## A run of the attempts -/

/-- The paths were attempted once each and in order, and the first failure came out, if there was one. -/
structure AllTried (paths : List (Option String)) (noted : Except Failure Unit × List Deletion) : Prop where
  each : noted.2.map Deletion.path = paths
  raises : (∃ cause, noted.1 = .error cause) ↔ ∃ d ∈ noted.2, ∃ cause, d.ended = .error cause
  first : ∀ cause, noted.1 = .error cause → ∃ before d after, noted.2 = before ++ d :: after ∧
    (∀ earlier ∈ before, earlier.ended = .ok ()) ∧ d.ended = .error cause

theorem allTried_endOf {tried : List Deletion} : AllTried (tried.map Deletion.path) (endOf tried, tried) where
  each := rfl
  raises := by
    have found : (∃ cause, tried.findSome? (fun d => failureOf d.ended) = some cause) ↔
        ∃ d ∈ tried, ∃ cause, failureOf d.ended = some cause := by
      simp only [← Option.isSome_iff_exists, List.findSome?_isSome_iff]
    simpa only [endOf, endingWith_eq_error_iff, failureOf_eq_some_iff] using found
  first cause failed := by
    obtain ⟨before, d, after, cut, found, others⟩ :=
      List.findSome?_eq_some_iff.mp (endingWith_eq_error_iff.mp failed)
    exact ⟨before, d, after, cut, fun earlier mem => failureOf_eq_none_iff.mp (others earlier mem),
      failureOf_eq_some_iff.mp found⟩

variable {σ τ : Type}

section Running

variable (delete : Option String → ExceptT Failure (StateM σ) Unit) (state : σ)

theorem run_deletions_cons (path : Option String) (rest : List (Option String)) :
    (deletions delete (path :: rest)).run state =
      let first := (delete path).run state
      let later := (deletions delete rest).run first.2
      (⟨path, first.1⟩ :: later.1, later.2) := by
  rw [deletions_cons]
  rfl

theorem paths_deletions (paths : List (Option String)) :
    ((deletions delete paths).run state).1.map Deletion.path = paths := by
  induction paths generalizing state with
  | nil => rfl
  | cons path rest ih =>
      rw [run_deletions_cons]
      exact congrArg (List.cons path) (ih _)

theorem run_deleteEach (paths : List (Option String)) :
    (deleteEach delete paths none).run state =
      (endOf ((deletions delete paths).run state).1, ((deletions delete paths).run state).2) := by
  rw [deleteEach_run]
  rfl

theorem run_noted (paths : List (Option String)) :
    ((deleteEach (noting delete) paths none).run.run []).run state =
      ((endOf ((deletions delete paths).run state).1, ((deletions delete paths).run state).1),
        ((deletions delete paths).run state).2) := by
  rw [noted_eq]
  rfl

end Running

/-! ## What is removed -/

/-- Objects were removed: only at places where they `may` be, and at all where they `must` be. -/
structure Removed {Place : Type} (may must : Place → Prop) (before after : Place → Option ByteArray) :
    Prop where
  apart : ∀ place, ¬ may place → after place = before place
  fewer : ∀ place, after place = before place ∨ after place = none
  gone : ∀ place, must place → after place = none

namespace Removed

variable {Place : Type} {may may' must must' : Place → Prop}
  {before between after : Place → Option ByteArray}

theorem refl (nothing : ∀ place, ¬ must place) : Removed may must before before :=
  ⟨fun _ _ => rfl, fun _ => .inl rfl, fun place listed => absurd listed (nothing place)⟩

theorem fewer_must (removed : Removed may must before after) (narrower : ∀ place, must' place → must place) :
    Removed may must' before after :=
  ⟨removed.apart, removed.fewer, fun place listed => removed.gone place (narrower place listed)⟩

theorem trans (first : Removed may must before between) (second : Removed may' must' between after) :
    Removed (fun place => may place ∨ may' place) (fun place => must place ∨ must' place) before after where
  apart place outside :=
    (second.apart place fun inside => outside (.inr inside)).trans
      (first.apart place fun inside => outside (.inl inside))
  fewer place := by
    rcases second.fewer place with same | gone
    · rw [same]
      exact first.fewer place
    · exact .inr gone
  gone place listed := by
    rcases listed with listed | listed
    · exact (second.fewer place).elim (·.trans (first.gone place listed)) id
    · exact second.gone place listed

end Removed

structure Inventory (σ : Type) where
  Place : Type
  Leads : Option String → Place → Prop
  object? : σ → Place → Option ByteArray

/-- Every path was tried: what one leads to is gone if an attempt at it did not fail, and what none leads
to is untouched. -/
structure Cleaned (inventory : Inventory σ) (paths : List (Option String)) (before : σ)
    (noted : Except Failure Unit × List Deletion) (after : σ) : Prop extends AllTried paths noted where
  gone : ∀ d ∈ noted.2, d.ended = .ok () → ∀ place, inventory.Leads d.path place →
    inventory.object? after place = none
  untouched : ∀ place, (∀ path ∈ paths, ¬ inventory.Leads path place) →
    inventory.object? after place = inventory.object? before place

/-! ## Deletions that fail -/

/-- What may befall a deletion. -/
inductive Mishap where
  | refused (cause : Failure)
  | unconfirmed (cause : Failure)

def hindered (act : ExceptT Failure (StateM σ) Unit) :
    ExceptT Failure (StateM (List (Option Mishap) × σ)) Unit :=
  fun (mishaps, state) =>
    let (ended, after) := act.run state
    match mishaps.head?.join with
    | none => (ended, mishaps.tail, after)
    | some (.refused cause) => (.error cause, mishaps.tail, state)
    | some (.unconfirmed cause) => (.error cause, mishaps.tail, after)

namespace Inventory

variable {inventory : Inventory σ} {path : Option String}

def Removes (inventory : Inventory σ) (path : Option String) (before : σ) (ended : Except Failure Unit)
    (after : σ) : Prop :=
  Removed (inventory.Leads path) (fun place => ended = .ok () ∧ inventory.Leads path place)
    (inventory.object? before) (inventory.object? after)

theorem Removes.refl {state : σ} {ended : Except Failure Unit}
    (nothing : ∀ place, ended = .ok () → ¬ inventory.Leads path place) :
    inventory.Removes path state ended state :=
  Removed.refl fun place listed => nothing place listed.1 listed.2

theorem Removes.of_ended {before after : σ} {ended ended' : Except Failure Unit}
    (removes : inventory.Removes path before ended after) (succeeds : ended' = .ok () → ended = .ok ()) :
    inventory.Removes path before ended' after :=
  removes.fewer_must fun _ listed => ⟨succeeds listed.1, listed.2⟩

theorem removes_hindered {act : ExceptT Failure (StateM σ) Unit} (mishaps : List (Option Mishap)) {state : σ}
    (removes : inventory.Removes path state (act.run state).1 (act.run state).2) :
    inventory.Removes path state ((hindered act).run (mishaps, state)).1
      ((hindered act).run (mishaps, state)).2.2 := by
  change inventory.Removes path state (hindered act (mishaps, state)).1 (hindered act (mishaps, state)).2.2
  unfold hindered
  simp only
  cases mishaps.head?.join with
  | none => exact removes
  | some mishap =>
      cases mishap with
      | refused cause => exact .refl nofun
      | unconfirmed cause => exact removes.of_ended nofun

theorem removed_deletions {delete : Option String → ExceptT Failure (StateM (τ × σ)) Unit}
    (removes : ∀ path state, inventory.Removes path state.2 ((delete path).run state).1
      ((delete path).run state).2.2) (paths : List (Option String)) (state : τ × σ) :
    Removed (fun place => ∃ path ∈ paths, inventory.Leads path place)
      (fun place => ∃ d ∈ ((deletions delete paths).run state).1, d.ended = .ok () ∧
        inventory.Leads d.path place)
      (inventory.object? state.2) (inventory.object? ((deletions delete paths).run state).2.2) := by
  -- the first attempt and then the others, none of which brings an object back
  induction paths generalizing state with
  | nil => exact .refl fun place ⟨_, mem, _⟩ => absurd mem List.not_mem_nil
  | cons path rest ih =>
      rw [run_deletions_cons]
      simpa only [List.mem_cons, exists_eq_or_imp] using (removes path state).trans (ih _)

theorem cleaned {delete : Option String → ExceptT Failure (StateM (τ × σ)) Unit}
    (removes : ∀ path state, inventory.Removes path state.2 ((delete path).run state).1
      ((delete path).run state).2.2) (paths : List (Option String)) (state : τ × σ) :
    let run := (deletions delete paths).run state
    Cleaned inventory paths state.2 (endOf run.1, run.1) run.2.2 := by
  intro run
  have removed := removed_deletions removes paths state
  have tried : AllTried (run.1.map Deletion.path) (endOf run.1, run.1) := allTried_endOf
  rw [paths_deletions] at tried
  exact ⟨tried, fun d mem succeeded place leads => removed.gone place ⟨d, mem, succeeded, leads⟩,
    fun place apart => removed.apart place fun ⟨path, mem, leads⟩ => apart path mem leads⟩

end Inventory

/-! ## Files -/

namespace LocalStore

def inventory (store : LocalStore) : Inventory FileTree where
  Place := Path
  Leads given path := ∃ key, given = some key ∧ key ≠ "" ∧ store.locate key = .ok path
  object? := FileTree.file?

theorem removes_delete (store : LocalStore) (given : Option String) (files : FileTree) :
    store.inventory.Removes given files ((store.delete given).run files).1
      ((store.delete given).run files).2 := by
  by_cases keyless : given.getD "" = ""
  · rw [delete_keyless store keyless]
    refine .refl ?_
    rintro path - ⟨key, rfl, named, -⟩
    exact named keyless
  · have deleted := delete_deleted store given files
    refine ⟨fun path outside => deleted.apart ?_, deleted.file?_eq, ?_⟩
    · rintro key at_ rfl located rfl
      exact outside ⟨key, rfl, keyless, located⟩
    · rintro path ⟨succeeded, key, rfl, named, located⟩
      rw [succeeded] at deleted
      exact object?_eq_none_iff.mp (deleted.object?_eq_none (by simpa using named)) path located

end LocalStore

/-! ## A bucket -/

namespace Bucket

def inventory : Inventory Bucket where
  Place := String
  Leads given key := given = some key ∧ key ≠ ""
  object? := get?

def hinderedAnswer : (c : BucketCall) → List (Option Mishap) × Bucket →
    bucketClient.Reply c × List (Option Mishap) × Bucket
  | .deleteObject bucket key, state => (hindered (answer (.deleteObject bucket key))).run state
  | c, (mishaps, objects) => ((answer c objects).1, mishaps, (answer c objects).2)

theorem removes_erase (objects : Bucket) {key : String} (named : key ≠ "") :
    inventory.Removes (some key) objects (.ok ()) (objects.erase key) where
  apart place outside := get?_erase_of_ne objects fun same => outside ⟨same ▸ rfl, same ▸ named⟩
  fewer place := by
    by_cases same : place = key
    · exact .inr (same ▸ get?_erase_self objects key)
    · exact .inl (get?_erase_of_ne objects same)
  gone := by
    rintro place ⟨-, ⟨⟩, -⟩
    exact get?_erase_self objects key

end Bucket

namespace BucketStore

open Routine

variable {answer : (c : BucketCall) → σ → bucketClient.Reply c × σ}

def deleteBy (answer : (c : BucketCall) → σ → bucketClient.Reply c × σ) (store : BucketStore)
    (given : Option String) : ExceptT Failure (StateM σ) Unit :=
  fun state => (store.delete given).run.run answer state

theorem deleteBy_run (store : BucketStore) (given : Option String) (state : σ) :
    (store.deleteBy answer given).run state = (store.delete given).run.run answer state := rfl

theorem run_deletions (store : BucketStore) (paths : List (Option String)) (state : σ) :
    (deletions store.delete paths).run answer state = (deletions (store.deleteBy answer) paths).run state := by
  induction paths generalizing state with
  | nil => rfl
  | cons path rest ih =>
      rw [deletions_cons, run_deletions_cons, Script.run_bind, map_eq_pure_bind, Script.run_bind, ih]
      rfl

theorem run_deleteEach (store : BucketStore) (paths : List (Option String)) (state : σ) :
    (deleteEach store.delete paths none).run.run answer state =
      (endOf ((deletions (store.deleteBy answer) paths).run state).1,
        ((deletions (store.deleteBy answer) paths).run state).2) := by
  rw [deleteEach_run, map_eq_pure_bind, Script.run_bind, run_deletions]
  rfl

theorem run_noted (store : BucketStore) (paths : List (Option String)) (state : σ) :
    ((deleteEach (noting store.delete) paths none).run.run []).run answer state =
      ((endOf ((deletions (store.deleteBy answer) paths).run state).1,
        ((deletions (store.deleteBy answer) paths).run state).1),
        ((deletions (store.deleteBy answer) paths).run state).2) := by
  rw [noted_eq, map_eq_pure_bind, Script.run_bind, run_deletions]
  rfl

theorem deleteBy_named (store : BucketStore) {key : String} (named : key ≠ "") (state : σ) :
    ((store.deleteBy answer (some key)).run state).2 = (answer (.deleteObject store.bucket key) state).2 ∧
      (((store.deleteBy answer (some key)).run state).1 = .ok () →
        (answer (.deleteObject store.bucket key) state).1 = .ok ()) := by
  rw [deleteBy_run, delete, if_neg (by simpa using named)]
  cases replied : answer (.deleteObject store.bucket key) state with
  | mk reply after =>
      have asked : (ask (call (.deleteObject store.bucket key))).run.run answer state = (reply, after) :=
        replied
      cases reply with
      | ok done =>
          rw [run_recover_ok asked]
          exact ⟨rfl, fun _ => rfl⟩
      | error cause =>
          -- known as one of the client's or not, the failure stays one
          rw [run_recover_error asked]
          split <;> exact ⟨rfl, fun succeeded => by cases succeeded⟩

theorem removes_delete (store : BucketStore) (given : Option String) (state : List (Option Mishap) × Bucket) :
    Bucket.inventory.Removes given state.2 ((store.deleteBy Bucket.hinderedAnswer given).run state).1
      ((store.deleteBy Bucket.hinderedAnswer given).run state).2.2 := by
  by_cases keyless : given.getD "" = ""
  · rw [deleteBy_run, delete_keyless store keyless]
    refine .refl ?_
    rintro place - ⟨rfl, named⟩
    exact named keyless
  · cases given with
    | none => exact absurd rfl keyless
    | some key =>
        obtain ⟨left, succeeds⟩ := @deleteBy_named _ Bucket.hinderedAnswer store key keyless state
        rw [left]
        exact (Inventory.removes_hindered state.1 (Bucket.removes_erase state.2 keyless)).of_ended succeeds

end BucketStore

/-! ## Every path is tried -/

/-- Whatever deleting does, every path is tried once and in order, and the first failure comes out at the
end. If deletions of files or in a bucket fail in any pattern, what a deletion that did not fail led to is
gone, and what no path leads to is untouched. -/
theorem every_path_tried (paths : List (Option String)) :
    (∀ {σ : Type} (delete : Option String → ExceptT Failure (StateM σ) Unit) (state : σ),
        let noted := ((deleteEach (noting delete) paths none).run.run []).run state
        AllTried paths noted.1 ∧ (deleteEach delete paths none).run state = (noted.1.1, noted.2)) ∧
      (∀ (store : LocalStore) (mishaps : List (Option Mishap)) (files : FileTree),
        let delete path := hindered (store.delete path)
        let noted := ((deleteEach (noting delete) paths none).run.run []).run (mishaps, files)
        Cleaned store.inventory paths files noted.1 noted.2.2 ∧
          (deleteEach delete paths none).run (mishaps, files) = (noted.1.1, noted.2)) ∧
      ∀ (store : BucketStore) (mishaps : List (Option Mishap)) (objects : Bucket),
        let noted := ((deleteEach (noting store.delete) paths none).run.run []).run Bucket.hinderedAnswer
          (mishaps, objects)
        Cleaned Bucket.inventory paths objects noted.1 noted.2.2 ∧
          (deleteEach store.delete paths none).run.run Bucket.hinderedAnswer (mishaps, objects) =
            (noted.1.1, noted.2) := by
  refine ⟨fun delete state => ?_, fun store mishaps files => ?_, fun store mishaps objects => ?_⟩
  · simp only [run_noted, run_deleteEach, and_true]
    have tried := @allTried_endOf ((deletions delete paths).run state).1
    rwa [paths_deletions] at tried
  · simp only [run_noted, run_deleteEach, and_true]
    exact Inventory.cleaned (fun path state => Inventory.removes_hindered state.1
      (store.removes_delete path state.2)) paths (mishaps, files)
  · simp only [BucketStore.run_noted, BucketStore.run_deleteEach, and_true]
    exact Inventory.cleaned store.removes_delete paths (mishaps, objects)

example :
    let given := [some "a", none, some "b", some "a"]
    let ended := (deleteEach (BucketStore.usual "images").delete given none).run.run Bucket.hinderedAnswer
      ([some (.refused .bucketUnreachable)], ⟨[("a", ⟨#[1]⟩), ("c", ⟨#[2]⟩)]⟩)
    ended.1 = .error (BucketStore.failed "오브젝트 삭제 실패: " "a") ∧
      ended.2.2.objects = [("c", ⟨#[2]⟩)] := ⟨rfl, rfl⟩

end ImagePipeline.Asset
