import ImagePipeline.Proofs.Asset.Confinement

namespace ImagePipeline.Asset

namespace Path

variable {base : Path} {names : List String} {depth : Nat} {key : String}

/-- Going along some components never leads above the start, from `depth` levels below it. -/
def StaysWithin : Nat → List String → Prop
  | _, [] => True
  | depth, name :: rest =>
    if name == "" || name == "." then StaysWithin depth rest
    else if name == ".." then 0 < depth ∧ StaysWithin (depth - 1) rest
    else StaysWithin (depth + 1) rest

instance decidableStaysWithin :
    (depth : Nat) → (names : List String) → Decidable (StaysWithin depth names)
  | _, [] => inferInstanceAs (Decidable True)
  | depth, name :: rest =>
      have := decidableStaysWithin depth rest
      have := decidableStaysWithin (depth - 1) rest
      have := decidableStaysWithin (depth + 1) rest
      inferInstanceAs (Decidable (if name == "" || name == "." then StaysWithin depth rest
        else if name == ".." then 0 < depth ∧ StaysWithin (depth - 1) rest
        else StaysWithin (depth + 1) rest))

/-- The text does not start at the root, and its two dots never lead above where it is seen from. -/
structure Inside (key : String) : Prop where
  relative : key.startsWith "/" = false
  within : StaysWithin 0 (components key)

theorem exists_below_of_staysWithin (base : Path) {below : Path} (within : StaysWithin depth names)
    (deep : below.length = depth) : ∃ rest, names.foldl step (base ++ below) = base ++ rest := by
  -- what was reached below the base has as many components as levels that may be left again
  induction names generalizing depth below with
  | nil => exact ⟨below, rfl⟩
  | cons name names ih =>
      unfold StaysWithin at within
      rw [List.foldl_cons, step]
      split at within
      · next skipped =>
          rw [if_pos skipped]
          exact ih within deep
      · next named =>
          rw [if_neg named]
          split at within
          · next up =>
              have inside : below ≠ [] := List.ne_nil_of_length_pos (deep ▸ within.1)
              rw [if_pos up, List.dropLast_append_of_ne_nil inside]
              exact ih within.2 (by rw [List.length_dropLast, deep])
          · next down =>
              rw [if_neg down, List.append_assoc]
              exact ih within (by rw [List.length_append, deep, List.length_singleton])

theorem Inside.below (inside : Inside key) (base : Path) : base <+: resolve base key := by
  have seen : base ++ [] = base := List.append_nil base
  obtain ⟨rest, reached⟩ := exists_below_of_staysWithin base inside.within List.length_nil
  rw [seen] at reached
  rw [resolve, inside.relative]
  simp only [Bool.false_eq_true, if_false, reached]
  exact List.prefix_append base rest

end Path

namespace LocalStore

variable {base path : Path} {store : LocalStore} {key : String}

theorem perform_save (store : LocalStore) (space : Space) (name : String) (source : Source)
    (files : FileTree) :
    ((Operation.save space name source).perform store.operations).run files =
      (((store.save (store.spaceOf space) name source).run files).1.map .key,
        ((store.save (store.spaceOf space) name source).run files).2) := by
  rw [Operation.perform, saveIn_eq, run_bind_pure]

theorem perform_get (store : LocalStore) (space : Space) (key : String) (files : FileTree) :
    ((Operation.get space key).perform store.operations).run files =
      (((store.fetch key).run files).1.map .content, files) := by
  rw [Operation.perform, getFrom_eq, run_bind_pure, fetch_files]

theorem perform_delete (store : LocalStore) (key : Option String) (files : FileTree) :
    ((Operation.delete key).perform store.operations).run files =
      (((store.delete key).run files).1.map fun _ => .done, ((store.delete key).run files).2) :=
  run_bind_pure _ _ files

theorem perform_deleteAll (store : LocalStore) (upload processed : Option String) (files : FileTree) :
    ((Operation.deleteAll upload processed).perform store.operations).run files =
      (((store.operations.deleteAll upload processed).run files).1.map fun _ => .done,
        ((store.operations.deleteAll upload processed).run files).2) :=
  run_bind_pure _ _ files

inductive Resolves (store : LocalStore) : Operation → String → Prop
  | save (space : Space) (name : String) (source : Source) :
      Resolves store (.save space name source) (objectKey (store.spaceOf space) name)
  | get (space : Space) (key : String) : Resolves store (.get space key) key
  | delete (key : String) (given : key.isEmpty = false) : Resolves store (.delete (some key)) key

theorem perform_of_unlocated {op : Operation} {cause : Failure} (resolves : store.Resolves op key)
    (nowhere : store.locate key = .error cause) (files : FileTree) :
    (op.perform store.operations).run files = (.error cause, files) := by
  have refused := run_locate_error files nowhere
  cases resolves with
  | save space name source =>
      rw [perform_save, save_run_unlocated nowhere]
      rfl
  | get space =>
      have unread : (store.fetch key).run files = (.error cause, files) := run_bind_error refused
      rw [perform_get, unread]
      rfl
  | delete key given =>
      have kept : (store.delete (some key)).run files = (.error cause, files) := by
        simp only [delete, given, Bool.false_eq_true, if_false]
        exact run_bind_error refused
      rw [perform_delete, kept]
      rfl

theorem fetch_eq_ok_iff (located : store.locate key = .ok path) {files : FileTree}
    {bytes : ByteArray} :
    ((store.fetch key).run files).1 = .ok bytes ↔ files.file? path = some bytes := by
  rw [← object?_of_located located]
  refine ⟨object?_of_fetched, fun found => ?_⟩
  rw [object?_of_located located, FileTree.file?] at found
  cases read : files.read path with
  | ok content =>
      rw [read] at found
      cases found
      rw [fetch_of_located located read]
  | error fault =>
      rw [read] at found
      cases found

theorem perform_get_iff (located : store.locate key = .ok path) (space : Space) (files : FileTree)
    (bytes : ByteArray) :
    (((Operation.get space key).perform store.operations).run files).1 = .ok (.content bytes) ↔
      files.file? path = some bytes := by
  rw [← fetch_eq_ok_iff located, perform_get]
  cases ((store.fetch key).run files).1 <;> simp [Except.map]

theorem make_inv {uploadSpace processedSpace : String} {before after : FileTree}
    (opened : (make (some base) uploadSpace processedSpace).run before = (.ok store, after)) :
    store = ⟨base, orUsual "original" uploadSpace, orUsual "processed" processedSpace⟩ ∧
      ∃ between, (makeSpace base store.uploadSpace).run before = (.ok (), between) ∧
        (makeSpace base store.processedSpace).run between = (.ok (), after) := by
  obtain ⟨⟨⟩, between, first, opened⟩ := run_bind_inv opened
  obtain ⟨⟨⟩, last, second, opened⟩ := run_bind_inv opened
  cases opened
  exact ⟨rfl, between, first, second⟩

/-- Operations of a store that was opened touch nothing but what stands in or below its base directory.
A key that leads elsewhere is refused, with no change; a key that leads there, as one whose two dots stay
inside does, is served as the file that it resolves to. -/
theorem operations_stay_below {uploadSpace processedSpace : String} {before after : FileTree}
    (opened : (make (some base) uploadSpace processedSpace).run before = (.ok store, after)) :
    (∀ op : Operation, Confined base (op.perform store.operations)) ∧
      (∀ op key files, store.Resolves op key → Path.hasNul key = false →
        ¬ base <+: Path.resolve base key →
          (op.perform store.operations).run files = (.error (outside key), files)) ∧
      (∀ op key files, store.Resolves op key → Path.hasNul key = true →
        (op.perform store.operations).run files = (.error .nulInPath, files)) ∧
      (∀ upload processed files,
        let first := (store.delete upload).run files
        let second := (store.delete processed).run first.2
        (store.operations.deleteAll upload processed).run files =
          (first.1.bind fun _ => second.1, second.2)) ∧
      (∀ key, Path.Inside key → base <+: Path.resolve base key) ∧
      ∀ key, Path.hasNul key = false → base <+: Path.resolve base key → ∀ space files bytes,
        (((Operation.get space key).perform store.operations).run files).1 = .ok (.content bytes) ↔
          files.file? (Path.resolve base key) = some bytes := by
  obtain ⟨same, -⟩ := make_inv opened
  have located : store.base = base := by rw [same]
  subst located
  refine ⟨confined_perform store, ?_, ?_, deleteAll_run store, fun key inside => inside.below _, ?_⟩
  · intro op key files resolves noNul apart
    exact perform_of_unlocated resolves (locate_of_outside noNul apart) files
  · intro op key files resolves nul
    have nowhere : store.locate key = .error .nulInPath := by rw [locate, if_pos nul]
    exact perform_of_unlocated resolves nowhere files
  · intro key noNul below space files bytes
    exact perform_get_iff (locate_of_below noNul below) space files bytes

def besideFiles : FileTree := ⟨[
  (["srv"], .directory),
  (["srv", "images"], .directory),
  (["srv", "images", "processed"], .directory),
  (["srv", "images", "processed", "a.png"], .file ⟨#[2]⟩),
  (["srv", "images-old"], .directory),
  (["srv", "images-old", "a.png"], .file ⟨#[1]⟩)]⟩

theorem besideFiles_apart : ∃ store after,
    (make (some ["srv", "images"]) "" "/").run besideFiles = (.ok store, after) ∧
      Confined ["srv", "images"]
        ((Operation.save .upload "../../../srv/images-old/b.png" (.bytes ⟨#[3]⟩)).perform
          store.operations) ∧
      ((Operation.get .upload "../images-old/a.png").perform store.operations).run after =
        (.error (outside "../images-old/a.png"), after) ∧
      ((Operation.delete (some "/srv/images-old/a.png")).perform store.operations).run after =
        (.error (outside "/srv/images-old/a.png"), after) ∧
      ((Operation.save .processed "a.png" (.bytes ⟨#[3]⟩)).perform store.operations).run after =
        (.error (outside "/a.png"), after) ∧
      ((Operation.get .upload "a\x00b").perform store.operations).run after =
        (.error .nulInPath, after) ∧
      (((Operation.get .processed "original/../processed/./a.png").perform store.operations).run
        after).1 = .ok (.content ⟨#[2]⟩) := by
  let after := ((make (some ["srv", "images"]) "" "/").run besideFiles).2
  have made : ((make (some ["srv", "images"]) "" "/").run besideFiles).1.toOption =
      some ⟨["srv", "images"], "original", "/"⟩ := by decide +kernel
  have opened : (make (some ["srv", "images"]) "" "/").run besideFiles =
      (.ok ⟨["srv", "images"], "original", "/"⟩, after) := Prod.ext (eq_ok_of_toOption made) rfl
  obtain ⟨confined, refused, unnamed, -, inside, served⟩ := operations_stay_below opened
  have within : Path.Inside "original/../processed/./a.png" := ⟨by decide +kernel, by decide +kernel⟩
  refine ⟨_, after, opened, confined _, ?_, ?_, ?_, ?_, ?_⟩
  · exact refused _ _ after (.get ..) (by decide +kernel) (by decide +kernel)
  · exact refused _ _ after (.delete _ rfl) (by decide +kernel) (by decide +kernel)
  · have named : objectKey "/" "a.png" = "/a.png" := by decide +kernel
    exact named ▸ refused _ _ after (.save ..) (by decide +kernel) (by decide +kernel)
  · exact unnamed _ _ after (.get ..) (by decide +kernel)
  · exact (served _ (by decide +kernel) (inside _ within) .processed after _).mpr (by decide +kernel)

end LocalStore

end ImagePipeline.Asset
