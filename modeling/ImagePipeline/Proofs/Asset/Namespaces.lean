import ImagePipeline.Proofs.Asset.Resaving
import ImagePipeline.Proofs.Asset.Serving
import Mathlib.Data.List.DropRight

namespace ImagePipeline.Asset

namespace FileTree

variable {tree between tree' : FileTree} {reached path front : Path} {rest : List String}
  {name : String} {node : Node}

theorem HasDirectory.of_keeps (here : tree.HasDirectory path)
    (keeps : ∀ {path node}, tree.node? path = some node → tree'.node? path = some node) :
    tree'.HasDirectory path := walkFrom_of_keeps keeps here

theorem HasDirectory.of_prefix (here : tree.HasDirectory path) (within : front <+: path) :
    tree.HasDirectory front := by
  have stands := here.node?_eq within
  obtain ⟨rest, rfl⟩ := within
  unfold HasDirectory at here ⊢
  rw [walkFrom_append] at here
  cases walked : tree.walkFrom [] .directory front with
  | error fault =>
      rw [walked] at here
      cases here
  | ok node =>
      rw [node?_of_walkFrom_root walked] at stands
      rw [Option.some.inj stands]

theorem hasDirectory_concat : tree.HasDirectory (reached ++ [name]) ↔
    tree.HasDirectory reached ∧ name.utf8ByteSize ≤ maxName ∧
      tree.node? (reached ++ [name]) = some .directory := by
  constructor
  · intro here
    have above := here.of_prefix (List.prefix_append reached [name])
    have walked : tree.walkFrom [] .directory (reached ++ [name]) = .ok .directory := here
    rw [walkFrom_append, show tree.walkFrom [] .directory reached = _ from above] at walked
    obtain ⟨-, short, -⟩ :=
      walkFrom_cons_ok (show tree.walkFrom reached .directory [name] = .ok .directory from walked)
    exact ⟨above, Nat.not_lt.mp short, here.node?_eq List.prefix_rfl⟩
  · rintro ⟨above, short, found⟩
    rw [HasDirectory, walkFrom_append, show tree.walkFrom [] .directory reached = _ from above]
    simp only [Except.bind, walkFrom, Nat.not_lt.mpr short, if_false, List.nil_append, found]

/-- The places that going along some components passes, the first and the last one among them. -/
def Passes (reached : Path) (rest : List String) (path : Path) : Prop :=
  ∃ front, front <+: rest ∧ path = front.foldl Path.step reached

theorem passes_first (reached : Path) (rest : List String) : Passes reached rest reached :=
  ⟨[], List.nil_prefix, rfl⟩

theorem passes_last (reached : Path) (rest : List String) :
    Passes reached rest (rest.foldl Path.step reached) := ⟨rest, List.prefix_rfl, rfl⟩

theorem passes_cons : Passes reached (name :: rest) path ↔
    path = reached ∨ Passes (Path.step reached name) rest path := by
  constructor
  · rintro ⟨front, within, rfl⟩
    rcases List.prefix_cons_iff.mp within with rfl | ⟨later, rfl, onward⟩
    · exact .inl rfl
    · exact .inr ⟨later, onward, rfl⟩
  · rintro (rfl | ⟨front, within, rfl⟩)
    · exact passes_first ..
    · exact ⟨name :: front, by simpa using within, rfl⟩

structure Laid (reached : Path) (rest : List String) (tree tree' : FileTree) : Prop where
  keeps : ∀ {path node}, tree.node? path = some node → tree'.node? path = some node
  along : ∀ {path}, Passes reached rest path → tree'.HasDirectory path
  apart : ∀ {path}, ¬ Passes reached rest path → tree'.node? path = tree.node? path

theorem makeDirectories_step (here : tree.HasDirectory reached)
    (made : tree.makeDirectories reached (name :: rest) = .ok tree') :
    ∃ between : FileTree,
      (∀ {path node}, tree.node? path = some node → between.node? path = some node) ∧
      between.HasDirectory (Path.step reached name) ∧
      (∀ {path}, path ≠ Path.step reached name → between.node? path = tree.node? path) ∧
      between.makeDirectories (Path.step reached name) rest = .ok tree' := by
  unfold makeDirectories at made
  unfold Path.step
  split at made
  · next skipped =>
      rw [if_pos skipped]
      exact ⟨tree, id, here, fun _ => rfl, made⟩
  · next named =>
      rw [if_neg named]
      split at made
      · next up =>
          rw [if_pos up]
          exact ⟨tree, id, here.of_prefix (List.dropLast_prefix reached), fun _ => rfl, made⟩
      · next down =>
          rw [if_neg down]
          split at made
          · cases made
          · next short =>
              have short := Nat.not_lt.mp short
              have inside : reached ++ [name] ≠ [] := by simp
              split at made
              · next found =>
                  have there := hasDirectory_concat.mpr ⟨here, short, found⟩
                  exact ⟨tree, id, there, fun _ => rfl, made⟩
              · cases made
              · next missing =>
                  have grown := extended_put inside missing
                  refine ⟨_, grown.keeps, hasDirectory_concat.mpr ⟨here.of_keeps grown.keeps, short, ?_⟩,
                    fun distinct => node?_put_of_ne tree distinct _, made⟩
                  exact node?_put_self tree inside _

theorem laid_of_makeDirectories (here : tree.HasDirectory reached)
    (made : tree.makeDirectories reached rest = .ok tree') : Laid reached rest tree tree' := by
  induction rest generalizing reached tree with
  | nil =>
      cases made
      refine ⟨id, ?_, fun _ => rfl⟩
      rintro _ ⟨front, within, rfl⟩
      rw [List.prefix_nil.mp within]
      exact here
  | cons name rest ih =>
      obtain ⟨between, grown, there, others, onward⟩ := makeDirectories_step here made
      have later := ih there onward
      -- nothing is taken away again, so what the first step made is there in the end
      refine ⟨fun found => later.keeps (grown found), fun passed => ?_, fun missed => ?_⟩
      · rcases passes_cons.mp passed with rfl | passed
        · exact (here.of_keeps grown).of_keeps later.keeps
        · exact later.along passed
      · have beyond : ¬ Passes (Path.step reached name) rest _ := fun passed =>
          missed (passes_cons.mpr (.inr passed))
        refine (later.apart beyond).trans (others ?_)
        rintro rfl
        exact beyond (passes_first ..)

theorem opens_concat_iff (short : name.utf8ByteSize ≤ maxName) : tree.Opens (reached ++ [name]) ↔
    Fits (reached ++ [name]) ∧ tree.HasDirectory reached ∧ ¬ tree.HasDirectory (reached ++ [name]) := by
  constructor
  · intro opens
    obtain ⟨parent, last, same, -, above⟩ := opens.inside
    obtain ⟨rfl, -⟩ := List.append_inj' same rfl
    exact ⟨opens.fits, above, fun here => opens.flat (here.node?_eq List.prefix_rfl)⟩
  · rintro ⟨fits, above, flat⟩
    exact ⟨fits, ⟨reached, name, rfl, Nat.not_lt.mpr short, above⟩, fun found =>
      flat (hasDirectory_concat.mpr ⟨above, short, found⟩)⟩

end FileTree

open FileTree

namespace Path

variable {base path : Path} {names front : List String} {depth : Nat} {space : String}

def Resolved (path : Path) : Prop := ∀ name ∈ path, name ≠ "" ∧ name ≠ "." ∧ name ≠ ".."

theorem Resolved.foldl_step (resolved : Resolved path) (reached : Path) :
    path.foldl step reached = reached ++ path := by
  induction path generalizing reached with
  | nil => exact (List.append_nil reached).symm
  | cons name rest ih =>
      obtain ⟨given, notDot, notUp⟩ := resolved name (by simp)
      have down : step reached name = reached ++ [name] := by simp [step, given, notDot, notUp]
      rw [List.foldl_cons, down, ih fun other member => resolved other (List.mem_cons_of_mem name member)]
      simp

theorem StaysWithin.of_prefix (stays : StaysWithin depth names) (within : front <+: names) :
    StaysWithin depth front := by
  induction front generalizing depth names with
  | nil => exact trivial
  | cons name front ih =>
      obtain ⟨rest, rfl⟩ := within
      rw [List.cons_append] at stays
      unfold StaysWithin at stays ⊢
      have onward : front <+: front ++ rest := List.prefix_append front rest
      split at stays
      · next skipped =>
          rw [if_pos skipped]
          exact ih stays onward
      · next named =>
          rw [if_neg named]
          split at stays
          · next up =>
              rw [if_pos up]
              exact ⟨stays.1, ih stays.2 onward⟩
          · next down =>
              rw [if_neg down]
              exact ih stays onward

theorem startsWith_slash (relative : space.startsWith "/" = false) (given : space ≠ "") :
    (space ++ "/").startsWith "/" = false := by
  rw [Bool.eq_false_iff, ne_eq, String.startsWith_string_iff] at relative ⊢
  cases chars : space.toList with
  | nil => exact absurd (String.toList_eq_nil_iff.mp chars) given
  | cons first rest => simpa [chars] using relative

theorem resolve_slash_of_relative (base : Path) (relative : space.startsWith "/" = false)
    (given : space ≠ "") : resolve base (space ++ "/") = resolve base space := by
  rw [resolve_slash, startsWith_slash relative given, resolve, relative]

theorem resolve_rdropWhile (base : Path) {chars : List Char}
    (relative : (String.ofList chars).startsWith "/" = false) (given : chars ≠ []) :
    resolve base (String.ofList (chars.rdropWhile (· == '/')) ++ "/") =
      resolve base (String.ofList chars) := by
  have named {chars : List Char} (given : chars ≠ []) : String.ofList chars ≠ "" := by simpa using given
  -- slashes are dropped from the end; of a text of slashes one would be left, but it is not relative
  induction chars using List.reverseRecOn with
  | nil => exact absurd rfl given
  | append_singleton chars last ih =>
      by_cases slash : last = '/'
      · subst slash
        have whole : String.ofList (chars ++ ['/']) = String.ofList chars ++ "/" := String.ofList_append
        cases chars with
        | nil => exact absurd relative (by decide +kernel)
        | cons first chars =>
            have before : (String.ofList (first :: chars)).startsWith "/" = false := by
              rw [Bool.eq_false_iff, ne_eq, String.startsWith_string_iff] at relative ⊢
              simpa using relative
            have short : first :: chars ≠ [] := List.cons_ne_nil first chars
            rw [List.rdropWhile_concat_pos _ _ _ rfl, ih before short, whole,
              resolve_slash_of_relative base before (named short)]
      · rw [List.rdropWhile_concat_neg _ _ _ (by simpa using slash),
          resolve_slash_of_relative base relative (named given)]

theorem resolve_trimSlashes (base : Path) (relative : space.startsWith "/" = false) (given : space ≠ "") :
    resolve base (trimSlashes space ++ "/") = resolve base space := by
  obtain ⟨chars, rfl⟩ : ∃ chars, space = String.ofList chars := ⟨_, String.ofList_toList.symm⟩
  have there : chars ≠ [] := by simpa using given
  have first : chars.dropWhile (· == '/') = chars := by
    rw [Bool.eq_false_iff, ne_eq, String.startsWith_string_iff] at relative
    cases chars with
    | nil => rfl
    | cons first rest =>
        have shown : first ≠ '/' := by
          rintro rfl
          simp at relative
        exact List.dropWhile_cons_of_neg (by simpa using shown)
  have trimmed : trimSlashes (String.ofList chars) = String.ofList (chars.rdropWhile (· == '/')) := by
    rw [trimSlashes, String.toList_ofList, first, List.rdropWhile]
  rw [trimmed, resolve_rdropWhile base relative there]

theorem hasNul_objectKey {name : String} (noNul : hasNul space = false) (free : '\x00' ∉ name.toList) :
    hasNul (objectKey space name) = false := by
  have within : (trimSlashes space).toList ⊆ space.toList := by
    intro c member
    rw [trimSlashes, String.toList_ofList, List.mem_reverse] at member
    have inner := List.dropWhile_subset _ member
    exact List.dropWhile_subset _ (List.mem_reverse.mp inner)
  rw [hasNul, Bool.eq_false_iff, ne_eq, List.contains_iff_mem] at noNul ⊢
  intro member
  simp only [objectKey, String.toList_append, List.mem_append] at member
  rcases member with (inside | slash) | last
  · exact noNul (within inside)
  · exact absurd slash (by decide)
  · exact free last

end Path

namespace LocalStore

variable {base path : Path} {store : LocalStore} {space : Space} {text name : String} {source : Source}
  {before after files : FileTree}

def way (store : LocalStore) (space : Space) : List String :=
  (if (store.spaceOf space).startsWith "/" then [] else store.base) ++
    Path.components (store.spaceOf space)

def shelf (store : LocalStore) (space : Space) : Path :=
  Path.resolve store.base (trimSlashes (store.spaceOf space) ++ "/")

theorem makeSpace_inv (made : (makeSpace base text).run before = (.ok (), after)) :
    Path.hasNul text = false ∧
      Laid [] ((if text.startsWith "/" then [] else base) ++ Path.components text) before after := by
  cases nul : Path.hasNul text with
  | true =>
      have refused : (makeSpace base text).run before = (.error .nulInPath, before) := by
        simp only [makeSpace, nul, if_true]
        exact run_bind_error rfl
      rw [refused] at made
      cases made
  | false =>
      unfold makeSpace at made
      simp only [nul, Bool.false_eq_true, if_false, run_get_bind] at made
      split at made
      · next tree laid =>
          cases made
          have root : before.HasDirectory [] := rfl
          exact ⟨rfl, laid_of_makeDirectories root laid⟩
      · cases made

/-- What opening a store makes of the files: all places on the ways of its namespaces are directories,
and nothing else is changed. -/
structure Opened (store : LocalStore) (before after : FileTree) : Prop where
  noNul : ∀ space, Path.hasNul (store.spaceOf space) = false
  given : ∀ space, store.spaceOf space ≠ ""
  along : ∀ space path, Passes [] (store.way space) path → after.HasDirectory path
  apart : ∀ path, (∀ space, ¬ Passes [] (store.way space) path) → after.node? path = before.node? path

theorem orUsual_ne_empty {usual text : String} (named : usual ≠ "") : orUsual usual text ≠ "" := by
  unfold orUsual
  split
  · exact named
  · next given => simpa using given

theorem make_opened {uploadSpace processedSpace : String}
    (opened : (make (some base) uploadSpace processedSpace).run before = (.ok store, after)) :
    store.base = base ∧ store.Opened before after := by
  obtain ⟨same, between, first, second⟩ := make_inv opened
  have located : store.base = base := by rw [same]
  subst located
  obtain ⟨noNul, upload⟩ := makeSpace_inv first
  obtain ⟨noNul', processed⟩ := makeSpace_inv second
  refine ⟨rfl, ⟨?_, ?_, ?_, ?_⟩⟩
  · rintro (_ | _)
    · exact noNul
    · exact noNul'
  · rw [same]
    rintro (_ | _)
    · exact orUsual_ne_empty (by decide)
    · exact orUsual_ne_empty (by decide)
  · rintro (_ | _) path passed
    · exact (upload.along passed).of_keeps processed.keeps
    · exact processed.along passed
  · intro path missed
    exact (processed.apart (missed .processed)).trans (upload.apart (missed .upload))

theorem Opened.hasDirectory_shelf (opened : store.Opened before after) (resolved : store.base.Resolved)
    (relative : (store.spaceOf space).startsWith "/" = false) : after.HasDirectory (store.shelf space) := by
  have last := opened.along space _ (passes_last [] (store.way space))
  have start := resolved.foldl_step []
  rw [List.nil_append] at start
  rw [way, relative, if_neg Bool.false_ne_true, List.foldl_append, start] at last
  rw [shelf, Path.resolve_trimSlashes store.base relative (opened.given space), Path.resolve, relative]
  exact last

theorem near_of_passes (resolved : store.base.Resolved) (inside : Path.Inside (store.spaceOf space))
    (passed : Passes [] (store.way space) path) : path <+: store.base ∨ store.base <+: path := by
  obtain ⟨front, within, rfl⟩ := passed
  rw [way, inside.relative, if_neg Bool.false_ne_true] at within
  have upward {front : Path} (within : front <+: store.base) : front.foldl Path.step [] = front := by
    have fine : Path.Resolved front := fun name member => resolved name (within.subset member)
    rw [fine.foldl_step, List.nil_append]
  -- the way is that of the base and then that of the namespace: it is left off on one or the other
  rcases List.prefix_or_prefix_of_prefix within (List.prefix_append _ _) with above | ⟨further, rfl⟩
  · exact .inl ((upward above).symm ▸ above)
  · have onward := (List.prefix_append_right_inj _).mp within
    obtain ⟨rest, reached⟩ := Path.exists_below_of_staysWithin store.base
      (inside.within.of_prefix onward) List.length_nil
    rw [List.append_nil] at reached
    rw [List.foldl_append, upward List.prefix_rfl, reached]
    exact .inr (List.prefix_append _ rest)

def leaves (store : LocalStore) (ops : List Operation) (files : FileTree) : FileTree :=
  ops.foldl (fun files op => ((op.perform store.operations).run files).2) files

theorem perform_hasDirectory (store : LocalStore) (op : Operation) (files : FileTree) :
    ((op.perform store.operations).run files).2.HasDirectory = files.HasDirectory := by
  cases op with
  | save space name source =>
      simp only [perform_save]
      exact (store.save_touched (store.spaceOf space) name source files).hasDirectory
  | get space key => simp only [perform_get]
  | delete key =>
      simp only [perform_delete]
      exact store.delete_hasDirectory key files
  | deleteAll upload processed =>
      have first := store.delete_hasDirectory upload files
      have second := store.delete_hasDirectory processed ((store.delete upload).run files).2
      simp only [perform_deleteAll, deleteAll_run]
      exact second.trans first

theorem leaves_hasDirectory (store : LocalStore) (ops : List Operation) (files : FileTree) :
    (store.leaves ops files).HasDirectory = files.HasDirectory := by
  induction ops generalizing files with
  | nil => rfl
  | cons op rest ih => exact (ih _).trans (store.perform_hasDirectory op files)

/-- An object is saved under a name, and whoever reads its key gets what was saved. -/
def GivesBack (store : LocalStore) (space : Space) (name : String) (source : Source)
    (files : FileTree) : Prop :=
  ∃ key between,
    ((Operation.save space name source).perform store.operations).run files = (.ok (.key key), between) ∧
      ∀ reader, ((Operation.get reader key).perform store.operations).run between =
        (.ok (.content source.content), between)

theorem locate_objectKey (noNul : Path.hasNul (store.spaceOf space) = false) (named : FileName name)
    (below : store.base <+: store.shelf space ++ [name]) :
    store.locate (objectKey (store.spaceOf space) name) = .ok (store.shelf space ++ [name]) := by
  have leads : Path.resolve store.base (objectKey (store.spaceOf space) name) =
      store.shelf space ++ [name] := Path.resolve_append named.toPlain store.base _
  have free := Path.hasNul_objectKey noNul named.noNul
  rw [← leads] at below ⊢
  exact locate_of_below free below

theorem givesBack_iff (noNul : Path.hasNul (store.spaceOf space) = false) (named : FileName name)
    (whole : source.broken = none) (something : source.content.isEmpty = false) :
    store.GivesBack space name source files ↔
      store.base <+: store.shelf space ++ [name] ∧ files.Opens (store.shelf space ++ [name]) := by
  constructor
  · rintro ⟨key, between, saved, -⟩
    rw [perform_save] at saved
    cases result : ((store.save (store.spaceOf space) name source).run files).1 with
    | error cause =>
        rw [result] at saved
        cases saved
    | ok key =>
        obtain ⟨path, located, opens⟩ := opens_of_saved result
        have leads : path = store.shelf space ++ [name] := by
          rw [eq_resolve_of_locate located, objectKey, Path.resolve_append named.toPlain, shelf]
        exact leads ▸ ⟨below_of_locate located, opens⟩
  · rintro ⟨below, opens⟩
    have located := locate_objectKey noNul named below
    obtain ⟨known, opened⟩ := opens.truncate_eq
    obtain ⟨result, there, -⟩ := save_run_opened source located known opened
    simp only [written, whole, something, Bool.false_eq_true, if_false] at result
    simp only [remaining, whole, something, Bool.false_eq_true, if_false] at there
    have read : ((store.save (store.spaceOf space) name source).run files).2.read
        (store.shelf space ++ [name]) = .ok source.content := by
      rw [FileTree.read, there]
    have saved := store.perform_save space name source files
    rw [result] at saved
    refine ⟨_, _, saved, fun reader => ?_⟩
    rw [perform_get, fetch_of_located located read]
    rfl

/-- What namespaces can be used for. Opening a store makes the places on the ways of both namespaces,
which for one that stays inside are on the way to the base directory or in it, as is then the directory
that its keys lead to. An object that was saved is given back, in every state that operations lead to,
exactly if its key leads into the base directory, to a directory that was there when the store was open,
with a path that is not too long, and with no directory in the object's place. -/
theorem namespaces_usable_iff {uploadSpace processedSpace : String} (resolved : base.Resolved)
    (opened : (make (some base) uploadSpace processedSpace).run before = (.ok store, after)) :
    (∀ space path, Passes [] (store.way space) path → after.HasDirectory path) ∧
      (∀ path, (∀ space, ¬ Passes [] (store.way space) path) →
        after.node? path = before.node? path) ∧
      (∀ space, Path.Inside (store.spaceOf space) →
        base <+: store.shelf space ∧ after.HasDirectory (store.shelf space) ∧
          ∀ path, Passes [] (store.way space) path → path <+: base ∨ base <+: path) ∧
      ∀ ops space name source, FileName name → source.broken = none → source.content.isEmpty = false →
        (store.GivesBack space name source (store.leaves ops after) ↔
          base <+: store.shelf space ++ [name] ∧ after.HasDirectory (store.shelf space) ∧
            Fits (store.shelf space ++ [name]) ∧ ¬ after.HasDirectory (store.shelf space ++ [name])) := by
  obtain ⟨located, laid⟩ := make_opened opened
  subst located
  refine ⟨laid.along, laid.apart, fun space inside => ⟨?_, ?_, ?_⟩, ?_⟩
  · rw [shelf, Path.resolve_trimSlashes store.base inside.relative (laid.given space)]
    exact inside.below store.base
  · exact laid.hasDirectory_shelf resolved inside.relative
  · intro path passed
    exact near_of_passes resolved inside passed
  · intro ops space name source named whole something
    have kept := store.leaves_hasDirectory ops after
    rw [givesBack_iff (laid.noNul space) named whole something, opens_concat_iff named.short, kept]
    exact and_congr_right fun _ => and_left_comm

def nested : LocalStore := ⟨["data"], "shots//raw/", "shots/./small/../done"⟩

def nestedFiles : FileTree :=
  ((make (some nested.base) nested.uploadSpace nested.processedSpace).run FileTree.empty).2

theorem nested_usable :
    (make (some nested.base) nested.uploadSpace nested.processedSpace).run FileTree.empty =
        (.ok nested, nestedFiles) ∧
      (∀ path, nestedFiles.node? path ≠ FileTree.empty.node? path →
        path <+: nested.base ∨ nested.base <+: path) ∧
      ∀ space ops, nested.GivesBack space "a.png" (.bytes ⟨#[1]⟩) (nested.leaves ops nestedFiles) := by
  have made : ((make (some nested.base) nested.uploadSpace nested.processedSpace).run
      FileTree.empty).1.toOption = some nested := by decide +kernel
  have opened : (make (some nested.base) nested.uploadSpace nested.processedSpace).run FileTree.empty =
      (.ok nested, nestedFiles) := Prod.ext (eq_ok_of_toOption made) rfl
  have resolved : nested.base.Resolved := by
    intro name member
    rw [List.mem_singleton.mp member]
    decide
  have inside (space : Space) : Path.Inside (nested.spaceOf space) := by
    cases space <;> exact ⟨by decide +kernel, by decide +kernel⟩
  have photo : FileName "a.png" := by decide
  obtain ⟨-, apart, near, usable⟩ := namespaces_usable_iff resolved opened
  refine ⟨opened, fun path changed => ?_, fun space ops => ?_⟩
  · by_contra far
    exact changed (apart path fun space passed => far ((near space (inside space)).2.2 path passed))
  · obtain ⟨below, there, -⟩ := near space (inside space)
    refine (usable ops space _ _ photo rfl (by decide)).mpr
      ⟨below.trans (List.prefix_append _ _), there, ?_, fun here => ?_⟩
    · cases space <;> (unfold Fits; decide +kernel)
    · have nothing : (nestedFiles.node? (nested.shelf space ++ ["a.png"])).map Node.isDirectory = none := by
        cases space <;> decide +kernel
      rw [here.node?_eq List.prefix_rfl] at nothing
      cases nothing

def rooted : LocalStore := ⟨["data"], "/tmp", "processed"⟩

theorem rooted_unusable : ∃ after,
    (make (some rooted.base) rooted.uploadSpace rooted.processedSpace).run FileTree.empty =
        (.ok rooted, after) ∧
      (¬ ∀ path, after.node? path ≠ FileTree.empty.node? path →
        path <+: rooted.base ∨ rooted.base <+: path) ∧
      FileName "a.png" ∧ ¬ rooted.GivesBack .upload "a.png" (.bytes ⟨#[1]⟩) after := by
  let after := ((make (some rooted.base) rooted.uploadSpace rooted.processedSpace).run FileTree.empty).2
  have made : ((make (some rooted.base) rooted.uploadSpace rooted.processedSpace).run
      FileTree.empty).1.toOption = some rooted := by decide +kernel
  have opened : (make (some rooted.base) rooted.uploadSpace rooted.processedSpace).run FileTree.empty =
      (.ok rooted, after) := Prod.ext (eq_ok_of_toOption made) rfl
  have there : (after.node? ["tmp"]).map Node.isDirectory = some true := by decide +kernel
  have refused : (((Operation.save .upload "a.png" (.bytes ⟨#[1]⟩)).perform rooted.operations).run
      after).1.toOption.isSome = false := by decide +kernel
  refine ⟨after, opened, fun near => ?_, by decide, ?_⟩
  · have far : ¬ (["tmp"] <+: rooted.base ∨ rooted.base <+: ["tmp"]) := by decide +kernel
    refine far (near ["tmp"] fun same => ?_)
    rw [same] at there
    cases there
  · rintro ⟨key, between, saved, -⟩
    rw [saved] at refused
    cases refused

end LocalStore

end ImagePipeline.Asset
