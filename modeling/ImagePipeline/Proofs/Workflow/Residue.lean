import ImagePipeline.Proofs.Image.Failing
import ImagePipeline.Proofs.Workflow.Consistency
import ImagePipeline.Proofs.Workflow.Integrity
/-!
# What a removal leaves

A removal deletes the files that the record named when it was looked up. If it named a result, the row
was completed, and nobody touches the image any more (`Sealed`), so nothing is left. If no removal named
one, a result that was saved stays: an attempt saves it before the row names it, and an attempt that
cannot write the row takes the name back.
-/

namespace ImagePipeline.Workflow

open Asset (LocalStore FileTree Path objectKey)
open Script (Follows)
open Routine

variable {ι : Type} {errands : ι → Errand} {store : LocalStore} {files files' : FileTree}
  {site : Site} {c : Call} {reply : working.Reply c} {id : String} {path : Path}

/-! ## What was asked -/

/-- A removal of the image deleted its files and named a result. -/
def NamesResult (errands : ι → Errand) (pasts : ι → List (Event working)) (id : String) : Prop :=
  ∃ i upload key reply, errands i = .chore (.remove id) ∧
    ⟨.deleteAssets upload (some key), reply⟩ ∈ pasts i

def SavesResult (pasts : ι → List (Event working)) (id : String) : Prop :=
  ∃ i rest content reply, ⟨.saveProcessed (id ++ rest) content, reply⟩ ∈ pasts i

def DeletesFiles (errands : ι → Errand) (pasts : ι → List (Event working)) (id : String) : Prop :=
  ∀ i upload processed reply, errands i = .chore (.remove id) →
    ⟨.deleteAssets upload processed, reply⟩ ∈ pasts i → reply = .ok ()

theorem remove_logs (id : String) : Follows (logging working) (fun past result => result = .ok () →
    ⟨.delete id, .ok ()⟩ ∈ past ∧
      ∃ upload processed reply, ⟨.deleteAssets upload processed, reply⟩ ∈ past) [] (remove id).run := by
  have finish (past : List (Event working)) (named : ∃ upload processed reply,
      ⟨.deleteAssets upload processed, reply⟩ ∈ past) :
      Follows (logging working) (fun past result => result = .ok () → ⟨.delete id, .ok ()⟩ ∈ past ∧
        ∃ upload processed reply, ⟨.deleteAssets upload processed, reply⟩ ∈ past) past
        (Routine.ask (call (.delete id))).run := by
    refine ⟨trivial, fun reply past' moved returned => ?_⟩
    subst moved returned
    obtain ⟨upload, processed, reply, mem⟩ := named
    exact ⟨List.mem_cons_self, upload, processed, reply, List.mem_cons_of_mem _ mem⟩
  apply follows_bind
  refine ⟨trivial, fun reply past moved => ?_⟩
  subst moved
  cases reply with
  | error cause => exact nofun
  | ok record =>
      apply follows_bind
      apply follows_recover
      refine ⟨trivial, fun reply past moved => ?_⟩
      subst moved
      cases reply with
      | ok _ => exact finish _ ⟨_, _, _, List.mem_cons_self⟩
      | error cause =>
          cases known : cause.isApp with
          | true =>
              simp only [Follows, known, if_true]
              exact finish _ ⟨_, _, _, List.mem_cons_self⟩
          | false =>
              simp only [Follows, known, Bool.false_eq_true, if_false]
              exact nofun

/-! ## Where the files of an image are -/

theorem objectKey_isEmpty (space name : String) : (objectKey space name).isEmpty = false := by
  simp [objectKey]

def UploadAt (store : LocalStore) (errands : ι → Errand) (pasts : ι → List (Event working))
    (id : String) (path : Path) : Prop :=
  ∃ j admission upload, errands j = .upload admission upload ∧ ⟨.newId, id⟩ ∈ pasts j ∧
    store.locate (uploadKey store id upload) = .ok path

def ResultAt (store : LocalStore) (errands : ι → Errand) (pasts : ι → List (Event working))
    (id : String) (path : Path) : Prop :=
  ∃ r, r.id = id ∧ Traced store errands pasts r ∧ store.locate (resultKey store r) = .ok path

section Places

variable {pasts pasts' : ι → List (Event working)} {j : ι} {upload : Upload}

theorem UploadAt.located (at_ : UploadAt store errands pasts id path) (given : GivenOnce pasts)
    (origin : Origin errands pasts id j upload) :
    store.locate (uploadKey store id upload) = .ok path := by
  obtain ⟨k, admission, source, errand, issued, located⟩ := at_
  obtain rfl := given.once k j id issued origin.given
  obtain ⟨_, errand'⟩ := origin.errand
  rw [errand] at errand'
  cases errand'
  exact located

end Places

/-! ## Images that nobody touches any more -/

structure Sealed (errands : ι → Errand) (v : View working ι Site Activity) (id : String) : Prop where
  origin : ∃ j upload, Origin errands v.pasts id j upload
  done : ∀ r, v.shared.catalogue.find? id = some r → r.status = Status.completed.name
  free : ∀ i, (v.stages i).holding? ≠ some id

def Activity.Solid : Activity → Prop
  | .attempt (.saving _ _ encoded) => encoded.isEmpty = false
  | _ => True

theorem Activity.Step.solid {a a' : Activity} {stages : Stages} (step : a.Step c reply a')
    (truthful : Truthful stages c reply) : a'.Solid := by
  cases step with
  | attempt step =>
      cases step with
      | encoded record result bytes => exact stages.nonempty_of_encode truthful
      | found => split <;> trivial
      | refused => split <;> trivial
      | notOpened | notRead | notDecoded | notProcessed | notEncoded | notSaved | notStored =>
          unfold Attempt.afterFailure
          split <;> trivial
      | _ => trivial
  | _ => trivial

/-- What is left of an image, and why. -/
structure Residue (store : LocalStore) (errands : ι → Errand) (id : String)
    (v : View working ι Site Activity) : Prop extends Accounted store errands v where
  consistent : v.shared.catalogue.Consistent
  fit : ∀ i, (v.stages i).Fit
  solid : ∀ i, (v.stages i).Solid
  present : IsUuid id → ∀ path, FileOf id path → v.shared.files.file? path ≠ none →
    UploadAt store errands v.pasts id path ∨
      ResultAt store errands v.pasts id path ∧ SavesResult v.pasts id
  gone : ∀ i, ⟨.delete id, .ok ()⟩ ∈ v.pasts i → v.shared.catalogue.find? id = none ∧
    ∃ j upload, Origin errands v.pasts id j upload
  naming : ∀ i record, v.stages i = .removal (.clearing id record) → record.processedPath ≠ none →
    Sealed errands v id
  swept : ∀ i upload processed reply, errands i = .chore (.remove id) →
    ⟨.deleteAssets upload processed, reply⟩ ∈ v.pasts i →
      (∃ j upload, Origin errands v.pasts id j upload ∧
        store.object? v.shared.files (uploadKey store id upload) = none) ∧
      ∀ key, processed = some key → Sealed errands v id ∧
        ∀ path, FileOf id path → v.shared.files.file? path = none
  kept : IsUuid id → ¬ NamesResult errands v.pasts id → ∀ i rest content key,
    ⟨.saveProcessed (id ++ rest) content, .ok key⟩ ∈ v.pasts i →
      ∃ r, r.id = id ∧ Traced store errands v.pasts r ∧ key = resultKey store r ∧
        store.object? v.shared.files key ≠ none

section Step

variable {v : View working ι Site Activity} {i j : ι} {a : Activity} {upload : Upload}

theorem Sealed.of_result {r : Record} (inv : Accounted store errands v)
    (consistent : v.shared.catalogue.Consistent) (mem : r ∈ v.shared.catalogue.rows)
    (result : r.processedPath ≠ none) : Sealed errands v r.id := by
  have completed : r.status = Status.completed.name := by
    by_contra other
    have columns := (consistent r mem).1
    rw [if_neg other] at columns
    exact result columns.1
  obtain ⟨j, upload, origin, -⟩ := inv.rows r mem
  refine ⟨⟨j, upload, origin⟩, fun row found => ?_, inv.free_of_completed mem completed⟩
  rw [inv.exclusive.keyed.find?_of_mem mem] at found
  cases found
  exact completed

theorem Accounted.stays_absent (inv : Accounted store errands v) (given : GivenOnce v.pasts)
    (origin : Origin errands v.pasts id j upload) (allowed : (v.stages i).call? = some c)
    (change : FileStep store v.shared.files c reply files') (file : FileOf id path)
    (absent : v.shared.files.file? path = none)
    (unsaved : ∀ record result encoded, v.stages i = .attempt (.saving record result encoded) →
      record.id = id → store.locate (resultKey store record) ≠ .ok path) :
    files'.file? path = none := by
  have uuid := given.uuid j id origin.given
  by_contra there
  rcases change.appears there with before | ⟨name, source, rfl, located⟩ | ⟨name, content, rfl, located⟩
  · exact before absent
  · obtain ⟨admission, source, other, errand, rfl, issued, uncreated⟩ :=
      inv.intake_of_saveUpload allowed
    have uuid' := given.uuid i other issued
    obtain rfl : other = id := (fileOf_uploadKey uuid' located).id_eq uuid' uuid file
    obtain rfl := given.once i j other issued origin.given
    obtain ⟨draft, row, created, -⟩ := origin.created
    exact uncreated draft row created
  · obtain ⟨record, result, stage, rfl⟩ := Activity.saving_of_call allowed
    have traced := inv.records i record (by rw [stage]; rfl)
    have own := traced.fileOf_resultKey given located
    exact unsaved record result content stage (own.id_eq (traced.uuid given) uuid file) located

theorem Accounted.upload_stays_absent (inv : Accounted store errands v) (given : GivenOnce v.pasts)
    (origin : Origin errands v.pasts id j upload) (allowed : (v.stages i).call? = some c)
    (change : FileStep store v.shared.files c reply files')
    (absent : store.object? v.shared.files (uploadKey store id upload) = none) :
    store.object? files' (uploadKey store id upload) = none := by
  rw [LocalStore.object?_eq_none_iff] at absent ⊢
  intro path located
  have file := fileOf_uploadKey (given.uuid j id origin.given) located
  refine inv.stays_absent given origin allowed change file (absent path located) ?_
  intro record result encoded stage same located'
  subst same
  have traced := inv.records i record (by rw [stage]; rfl)
  exact traced.uploadKey_apart given located located' rfl

theorem Residue.cleared_call {record : Record} (inv : Residue store errands record.id v)
    (given : GivenOnce v.pasts) (stage : v.stages i = .removal (.clearing record.id record))
    (change : FileStep store v.shared.files
      (.deleteAssets (some record.uploadPath) record.processedPath) (.ok ()) files') :
    (∃ j source, Origin errands v.pasts record.id j source ∧
        store.object? files' (uploadKey store record.id source) = none) ∧
      (record.processedPath ≠ none → ∀ path, FileOf record.id path → files'.file? path = none) := by
  have traced := inv.records i record (by rw [stage]; rfl)
  have ⟨k, source, origin, ofUpload⟩ := traced
  have uploadGone := change.cleared_ok List.mem_cons_self
    (ofUpload.original ▸ objectKey_isEmpty store.uploadSpace _)
  rw [ofUpload.original] at uploadGone
  refine ⟨⟨k, source, origin, uploadGone⟩, fun named path file => ?_⟩
  by_contra there
  rcases change.appears there with before | ⟨_, _, saves, -⟩ | ⟨_, _, saves, -⟩
  · rcases inv.present (traced.uuid given) path file before with
      at_ | ⟨⟨r, same, traced', located⟩, -⟩
    · rw [LocalStore.object?_of_located (at_.located given origin)] at uploadGone
      exact there uploadGone
    · have own := ofUpload.result.resolve_left named
      have among : some (resultKey store record) ∈ [some record.uploadPath, record.processedPath] := by
        simp [own]
      have resultGone := change.cleared_ok among (objectKey_isEmpty store.processedSpace _)
      rw [traced.resultKey_eq traced' given same.symm,
        LocalStore.object?_of_located located] at resultGone
      exact there resultGone
  · cases saves
  · cases saves

theorem Residue.drift (inv : Residue store errands id v) (drifted : Site.guarded.drifts v.shared site) :
    Residue store errands id { v with shared := site } := by
  obtain ⟨table, files, equipment⟩ := drifted
  have closed (closed : Sealed errands v id) : Sealed errands { v with shared := site } id :=
    ⟨closed.origin, table ▸ closed.done, closed.free⟩
  constructor
  case toAccounted => exact inv.toAccounted.drift ⟨table, files, equipment⟩
  case consistent => exact table ▸ inv.consistent
  case fit => exact inv.fit
  case solid => exact inv.solid
  case present => exact files ▸ inv.present
  case gone => exact table ▸ inv.gone
  case naming => exact fun i record stage result => closed (inv.naming i record stage result)
  case swept =>
    intro i upload processed reply removes mem
    obtain ⟨absent, sealed⟩ := inv.swept i upload processed reply removes mem
    refine ⟨files ▸ absent, fun key named => ?_⟩
    obtain ⟨before, nothing⟩ := sealed key named
    exact ⟨closed before, files ▸ nothing⟩
  case kept => exact files ▸ inv.kept

variable [DecidableEq ι]

theorem Sealed.call (closed : Sealed errands v id) (inv : Accounted store errands v)
    (given : GivenOnce v.pasts) (allowed : (v.stages i).call? = some c)
    (table : TableStep v.shared.catalogue c reply site.catalogue) (step : (v.stages i).Step c reply a) :
    Sealed errands (v.move i ⟨c, reply⟩ site a) id := by
  have unclaimed (r : Record) (found : v.shared.catalogue.find? id = some r)
      (ready : r.canBeProcessed = true) : False := by
    rw [Progress.canBeProcessed, closed.done r found] at ready
    exact absurd ready (by decide)
  obtain ⟨k, upload, origin⟩ := closed.origin
  constructor
  case origin => exact ⟨k, upload, origin.mono View.suffix_move_pasts⟩
  case done =>
    intro r found
    cases table.row inv.exclusive.keyed id with
    | same kept => exact closed.done r (kept ▸ found)
    | claimed old now before ready => exact (unclaimed old before ready).elim
    | stored record _ _ named =>
        exact absurd (named ▸ (v.stages i).holding?_of_update allowed) (closed.free i)
    | created draft row fresh after =>
        obtain rfl := Catalogue.id_of_find? after
        exact absurd origin (inv.not_origin_of_create given allowed table)
    | deleted gone =>
        rw [View.move_shared, gone] at found
        cases found
  case free =>
    refine View.forall_move_stages (fun _ (stage : Activity) => stage.holding? ≠ some id) ?_ ?_
    · intro held
      rcases step.held_before held with before | claim
      · exact closed.free i before
      · cases claim
        obtain ⟨r, now, found, ready, -⟩ := table.claimed_row inv.exclusive.keyed
        exact unclaimed r found ready
    · exact fun j _ => closed.free j

theorem Residue.result_stays {r : Record} (inv : Residue store errands id v)
    (given : GivenOnce v.pasts)
    (unnamed : ¬ NamesResult errands (v.move i ⟨c, reply⟩ site a).pasts id)
    (allowed : (v.stages i).call? = some c) (change : FileStep store v.shared.files c reply files')
    (named : r.id = id) (traced : Traced store errands v.pasts r)
    (there : store.object? v.shared.files (resultKey store r) ≠ none) :
    store.object? files' (resultKey store r) ≠ none := by
  subst named
  have ⟨k, source, origin, _⟩ := traced
  rw [LocalStore.object?_ne_none_iff] at there ⊢
  obtain ⟨path, located, there⟩ := there
  refine ⟨path, located, ?_⟩
  by_cases reached : c.Reaches store path
  · have file := traced.fileOf_resultKey given located
    have reach := inv.reach_of_fileOf given allowed reached (traced.uuid given) file
    -- the file is written again by another attempt, or reached by a removal
    rcases reach.of_origin given origin with ⟨record, result, encoded, stage, -⟩ | ⟨record, stage⟩
    · have solid := inv.solid i
      rw [stage] at allowed solid
      cases allowed
      exact change.savedResult_there solid there
    · obtain ⟨removes, same⟩ := inv.removes_of_clearing stage
      obtain ⟨k', source', origin', ofUpload'⟩ := inv.records i record (by rw [stage]; rfl)
      rw [stage] at allowed
      cases allowed
      obtain ⟨key, mem, reached⟩ := reached
      rcases List.mem_cons.mp mem with upload | result
      · -- the removal reaches the file of the upload, which is another one
        cases upload
        rw [ofUpload'.original, same] at reached
        exact absurd rfl (traced.uploadKey_apart given reached located)
      · have names := List.mem_singleton.mp result
        refine absurd ⟨i, some record.uploadPath, key, reply, removes, ?_⟩ unnamed
        rw [View.move_pasts_self, names]
        exact List.mem_cons_self
  · rwa [change.frame reached]

namespace Residue

theorem present_call (inv : Residue store errands id v) (given : GivenOnce v.pasts)
    (allowed : (v.stages i).call? = some c) (change : FileStep store v.shared.files c reply files')
    (uuid : IsUuid id) (file : FileOf id path) (there : files'.file? path ≠ none) :
    UploadAt store errands (v.move i ⟨c, reply⟩ site a).pasts id path ∨
      ResultAt store errands (v.move i ⟨c, reply⟩ site a).pasts id path ∧
        SavesResult (v.move i ⟨c, reply⟩ site a).pasts id := by
  have earlier : ∀ j, v.pasts j <:+ (v.move i ⟨c, reply⟩ site a).pasts j := View.suffix_move_pasts
  rcases change.appears there with before | ⟨name, source, rfl, located⟩ | ⟨name, content, rfl, located⟩
  · rcases inv.present uuid path file before with
      ⟨j, admission, upload, errand, issued, located⟩ | ⟨⟨r, named, traced, located⟩, saves⟩
    · exact .inl ⟨j, admission, upload, errand, (earlier j).subset issued, located⟩
    · obtain ⟨j, rest, content, outcome, mem⟩ := saves
      exact .inr ⟨⟨r, named, traced.mono earlier, located⟩, j, rest, content, outcome,
        (earlier j).subset mem⟩
  · obtain ⟨admission, source, other, errand, rfl, issued, -⟩ := inv.intake_of_saveUpload allowed
    have uuid' := given.uuid i other issued
    obtain rfl : other = id := (fileOf_uploadKey uuid' located).id_eq uuid' uuid file
    exact .inl ⟨i, admission, source, errand, (earlier i).subset issued, located⟩
  · obtain ⟨record, result, stage, rfl⟩ := Activity.saving_of_call allowed
    have traced := inv.records i record (by rw [stage]; rfl)
    have own := traced.fileOf_resultKey given located
    obtain rfl : record.id = id := own.id_eq (traced.uuid given) uuid file
    refine .inr ⟨⟨record, rfl, traced.mono earlier, located⟩, i,
      "_" ++ record.processingType ++ Encode.outputExtension, content, reply, ?_⟩
    rw [View.move_pasts_self, ← resultFile_eq record]
    exact List.mem_cons_self

theorem gone_call (inv : Residue store errands id v) (given : GivenOnce v.pasts)
    (allowed : (v.stages i).call? = some c) (table : TableStep v.shared.catalogue c reply site.catalogue)
    (j : ι) (mem : ⟨.delete id, .ok ()⟩ ∈ (v.move i ⟨c, reply⟩ site a).pasts j) :
    site.catalogue.find? id = none ∧
      ∃ j upload, Origin errands (v.move i ⟨c, reply⟩ site a).pasts id j upload := by
  have earlier : ∀ j, v.pasts j <:+ (v.move i ⟨c, reply⟩ site a).pasts j := View.suffix_move_pasts
  rcases View.mem_move_pasts mem with ⟨rfl, latest⟩ | before
  · cases latest
    obtain ⟨⟨r, found⟩, absent⟩ := table.deleted_row
    obtain ⟨k, upload, origin, -⟩ := inv.rows r (Catalogue.mem_of_find? found)
    rw [Catalogue.id_of_find? found] at origin
    exact ⟨absent, k, upload, origin.mono earlier⟩
  · obtain ⟨absent, k, upload, origin⟩ := inv.gone j before
    refine ⟨?_, k, upload, origin.mono earlier⟩
    cases table.row inv.exclusive.keyed id with
    | same kept => exact kept.trans absent
    | deleted absent => exact absent
    | claimed old now found => rw [absent] at found; cases found
    | stored record old row named found => rw [absent] at found; cases found
    | created draft row fresh after =>
        obtain rfl := Catalogue.id_of_find? after
        exact absurd origin (inv.not_origin_of_create given allowed table)

theorem sealed_of_clearing (inv : Residue store errands id v)
    (table : TableStep v.shared.catalogue c reply site.catalogue) (step : (v.stages i).Step c reply a)
    (j : ι) (record : Record)
    (stage : (v.move i ⟨c, reply⟩ site a).stages j = .removal (.clearing id record))
    (result : record.processedPath ≠ none) : Sealed errands v id := by
  by_cases atJ : j = i
  · subst atJ
    rw [View.move_stages_self] at stage
    subst stage
    generalize v.stages j = before at step
    cases step with
    | removal step =>
        generalize reached : Removal.clearing id record = after at step
        cases step with
        | found =>
            cases reached
            obtain rfl := table.honest id record rfl
            exact .of_result inv.toAccounted inv.consistent table.mem_of_found result
        | notCleared => split at reached <;> cases reached
        | _ => cases reached
  · rw [View.move_stages_of_ne atJ] at stage
    exact inv.naming j record stage result

theorem swept_call (inv : Residue store errands id v) (given : GivenOnce v.pasts)
    (deletes : DeletesFiles errands (v.move i ⟨c, reply⟩ site a).pasts id)
    (allowed : (v.stages i).call? = some c) (change : FileStep store v.shared.files c reply site.files)
    (table : TableStep v.shared.catalogue c reply site.catalogue) (step : (v.stages i).Step c reply a)
    (j : ι) (upload processed : Option String) (outcome : Except Failure Unit)
    (removes : errands j = .chore (.remove id))
    (mem : ⟨.deleteAssets upload processed, outcome⟩ ∈ (v.move i ⟨c, reply⟩ site a).pasts j) :
    (∃ j source, Origin errands (v.move i ⟨c, reply⟩ site a).pasts id j source ∧
        store.object? site.files (uploadKey store id source) = none) ∧
      ∀ key, processed = some key → Sealed errands (v.move i ⟨c, reply⟩ site a) id ∧
        ∀ path, FileOf id path → site.files.file? path = none := by
  have earlier : ∀ j, v.pasts j <:+ (v.move i ⟨c, reply⟩ site a).pasts j := View.suffix_move_pasts
  rcases View.mem_move_pasts mem with ⟨rfl, latest⟩ | before
  · cases latest
    obtain rfl : outcome = .ok () := deletes j upload processed outcome removes mem
    obtain ⟨other, record, stage, rfl, rfl⟩ := Activity.clearing_of_call allowed
    obtain ⟨removes', rfl⟩ := inv.removes_of_clearing stage
    rw [removes] at removes'
    cases removes'
    obtain ⟨⟨k, source, origin, uploadGone⟩, nothing⟩ := inv.cleared_call given stage change
    refine ⟨⟨k, source, origin.mono earlier, uploadGone⟩, fun key named => ?_⟩
    have result : record.processedPath ≠ none := by rw [named]; exact nofun
    have closed := inv.naming j record stage result
    exact ⟨closed.call inv.toAccounted given allowed table step, nothing result⟩
  · obtain ⟨⟨k, source, origin, absent⟩, sealed⟩ := inv.swept j upload processed outcome removes before
    have gone := inv.upload_stays_absent given origin allowed change absent
    refine ⟨⟨k, source, origin.mono earlier, gone⟩, fun key named => ?_⟩
    obtain ⟨closed, nothing⟩ := sealed key named
    refine ⟨closed.call inv.toAccounted given allowed table step, fun path file => ?_⟩
    refine inv.stays_absent given origin allowed change file (nothing path file) ?_
    intro record result encoded stage same
    exact absurd (by rw [stage]; exact congrArg some same) (closed.free i)

theorem kept_call (inv : Residue store errands id v) (given : GivenOnce v.pasts)
    (allowed : (v.stages i).call? = some c) (change : FileStep store v.shared.files c reply site.files)
    (uuid : IsUuid id) (unnamed : ¬ NamesResult errands (v.move i ⟨c, reply⟩ site a).pasts id)
    (j : ι) (rest : String) (content : ByteArray) (key : String)
    (mem : ⟨.saveProcessed (id ++ rest) content, .ok key⟩ ∈ (v.move i ⟨c, reply⟩ site a).pasts j) :
    ∃ r, r.id = id ∧ Traced store errands (v.move i ⟨c, reply⟩ site a).pasts r ∧
      key = resultKey store r ∧ store.object? site.files key ≠ none := by
  have earlier : ∀ j, v.pasts j <:+ (v.move i ⟨c, reply⟩ site a).pasts j := View.suffix_move_pasts
  rcases View.mem_move_pasts mem with ⟨rfl, latest⟩ | before
  · cases latest
    obtain ⟨keyed, there⟩ := change.savedResult_ok
    obtain ⟨record, result, stage, name⟩ := Activity.saving_of_call allowed
    have traced := inv.records j record (by rw [stage]; rfl)
    have same := name.trans (resultFile_eq record)
    obtain ⟨rfl, -⟩ := uuid.append_inj (traced.uuid given) same
    refine ⟨record, rfl, traced.mono earlier, keyed.trans (congrArg _ name), ?_⟩
    rw [there]
    exact nofun
  · have unnamed' : ¬ NamesResult errands v.pasts id := by
      rintro ⟨k, upload, other, outcome, removes, asked⟩
      exact unnamed ⟨k, upload, other, outcome, removes, (earlier k).subset asked⟩
    obtain ⟨r, same, traced, rfl, there⟩ := inv.kept uuid unnamed' j rest content key before
    exact ⟨r, same, traced.mono earlier, rfl,
      inv.result_stays given unnamed allowed change same traced there⟩

theorem call (inv : Residue store errands id v)
    (given : GivenOnce (v.move i ⟨c, reply⟩ site a).pasts)
    (deletes : DeletesFiles errands (v.move i ⟨c, reply⟩ site a).pasts id)
    (allowed : (v.stages i).call? = some c) (change : SiteStep v.shared c reply site)
    (step : (v.stages i).Step c reply a) :
    Residue store errands id (v.move i ⟨c, reply⟩ site a) := by
  have before := given.of_suffix (View.suffix_move_pasts (v := v))
  have table := change.table
  have files := change.files
  rw [inv.store_eq] at files
  constructor
  case toAccounted => exact inv.toAccounted.call before allowed change step
  case consistent => exact table.consistent inv.exclusive.keyed inv.consistent (inv.fit i) allowed
  case fit =>
    exact View.forall_move_stages (fun _ (stage : Activity) => stage.Fit) (step.fit (inv.fit i))
      fun j _ => inv.fit j
  case solid =>
    exact View.forall_move_stages (fun _ (stage : Activity) => stage.Solid)
      (step.solid change.truthful) fun j _ => inv.solid j
  case present => exact fun uuid path file => inv.present_call before allowed files uuid file
  case gone => exact inv.gone_call before allowed table
  case naming =>
    exact fun j record stage result =>
      (inv.sealed_of_clearing table step j record stage result).call inv.toAccounted before allowed
        table step
  case swept => exact inv.swept_call before deletes allowed files table step
  case kept => exact inv.kept_call before allowed files

theorem preserves : Preserves Site.guarded acting
    fun v => GivenOnce v.pasts → DeletesFiles errands v.pasts id → Residue store errands id v where
  call v i c reply site inv allowed answered := by
    obtain ⟨a, step⟩ := (v.stages i).step_total allowed reply
    refine ⟨a, step, fun given deletes => ?_⟩
    have earlier : ∀ j, v.pasts j <:+ (v.move i ⟨c, reply⟩ site a).pasts j := View.suffix_move_pasts
    have deletesBefore : DeletesFiles errands v.pasts id := fun j upload processed reply removes mem =>
      deletes j upload processed reply removes ((earlier j).subset mem)
    exact (inv (given.of_suffix earlier) deletesBefore).call given deletes allowed answered.step step
  drift v site inv drifted given deletes := (inv given deletes).drift drifted

end Residue

end Step

/-! ## All runs -/

theorem Residue.start (errands : ι → Errand) (site : Site) (fresh : site.catalogue.rows = [])
    (clean : ∀ path, FileOf id path → site.files.file? path = none) :
    Residue site.store errands id ⟨site, fun _ => [], fun i => (errands i).first⟩ := by
  have first (i : ι) : (errands i).first.Solid ∧
      ∀ record, (errands i).first ≠ .removal (.clearing id record) := by
    cases errands i with
    | upload admission upload =>
        rw [Errand.first]
        exact ⟨trivial, fun record same => Activity.noConfusion same⟩
    | chore work =>
        cases work with
        | process id => exact ⟨True.intro, fun record same => Activity.noConfusion same⟩
        | handle id => exact ⟨True.intro, fun record same => Activity.noConfusion same⟩
        | remove id =>
            exact ⟨True.intro, fun record same => Removal.noConfusion (Activity.removal.inj same)⟩
  constructor
  case toAccounted => exact .start errands site fresh
  case consistent =>
    intro r mem
    rw [fresh] at mem
    cases mem
  case fit => exact fun i => (errands i).fit_first
  case solid => exact fun i => (first i).1
  case present => exact fun _ path file there => absurd (clean path file) there
  case gone => exact fun i mem => absurd mem List.not_mem_nil
  case naming => exact fun i record stage => absurd stage ((first i).2 record)
  case swept => exact fun i upload processed reply _ mem => absurd mem List.not_mem_nil
  case kept => exact fun _ _ i rest content key mem => absurd mem List.not_mem_nil

/-- Once a removal has returned, its image has no record and no upload any more. Nothing else of the
image is left if a removal named its result or none was saved; else a result that was saved is left. -/
theorem removal_leaves [DecidableEq ι] (errands : ι → Errand) (site : Site)
    (fresh : site.catalogue.rows = []) (id : String)
    (clean : ∀ path, FileOf id path → site.files.file? path = none)
    (e : Ensemble working ι Site (Except Failure Unit))
    (reached : Ensemble.Reaches Site.guarded (.start site fun i => (errands i).service.run) e)
    (given : GivenOnce fun i => (e.threads i).past)
    (deletes : DeletesFiles errands (fun i => (e.threads i).past) id)
    (k : ι) (removes : errands k = .chore (.remove id)) (returned : (e.threads k).rest = .done (.ok ())) :
    e.shared.catalogue.find? id = none ∧
    (∃ i upload, Origin errands (fun i => (e.threads i).past) id i upload ∧
      site.store.object? e.shared.files (uploadKey site.store id upload) = none) ∧
    (NamesResult errands (fun i => (e.threads i).past) id ∨
        ¬ SavesResult (fun i => (e.threads i).past) id →
      ∀ path, FileOf id path → e.shared.files.file? path = none) ∧
    (¬ NamesResult errands (fun i => (e.threads i).past) id → ∀ i rest content key,
      ⟨.saveProcessed (id ++ rest) content, .ok key⟩ ∈ (e.threads i).past →
        site.store.object? e.shared.files key ≠ none) := by
  have started : Ensemble.Kept acting (fun v => GivenOnce v.pasts → DeletesFiles errands v.pasts id →
      Residue site.store errands id v) (.start site fun i => (errands i).service.run) :=
    Ensemble.kept_start (fun i => (errands i).first) (fun _ _ => .start errands site fresh clean)
      fun i => (errands i).follows
  obtain ⟨stages, inv, -⟩ := Ensemble.kept_of_reaches Residue.preserves started reached
  have residue := inv given deletes
  have follows := remove_logs id
  have ran : (errands k).service.run = (remove id).run := by rw [removes]; rfl
  rw [← ran] at follows
  have logged := Ensemble.logged_of_done reached returned follows
  obtain ⟨deleted, original, processed, reply, swept⟩ := logged rfl
  obtain ⟨absent, -⟩ := residue.gone k deleted
  obtain ⟨⟨i, upload, origin, uploadGone⟩, -⟩ := residue.swept k original processed reply removes swept
  have uuid := given.uuid i id origin.given
  refine ⟨absent, ⟨i, upload, origin, uploadGone⟩, ?_, ?_⟩
  · rintro (⟨j, named, key, outcome, also, asked⟩ | unsaved) path file
    · exact ((residue.swept j named (some key) outcome also asked).2 key rfl).2 path file
    · by_contra there
      rcases residue.present uuid path file there with at_ | ⟨-, saves⟩
      · rw [LocalStore.object?_of_located (at_.located given origin)] at uploadGone
        exact there uploadGone
      · exact unsaved saves
  · intro unnamed j rest content key mem
    obtain ⟨r, -, -, -, there⟩ := residue.kept uuid unnamed j rest content key mem
    exact there

def household : Party → Errand
  | .sender => .upload ⟨12, [".png"]⟩ dot
  | .worker => .chore (.process (Site.idNumber 1))
  | .remover => .chore (.remove (Site.idNumber 1))

def deletions (past : List (Event working)) : List (Option String × Bool) :=
  past.filterMap fun
    | ⟨.deleteAssets _ processed, .ok _⟩ => some (processed, true)
    | ⟨.deleteAssets _ processed, .error _⟩ => some (processed, false)
    | _ => none

theorem ok_of_deletions {past : List (Event working)} {upload processed : Option String}
    {reply : Except Failure Unit} (succeed : ∀ entry ∈ deletions past, entry.2 = true)
    (mem : ⟨.deleteAssets upload processed, reply⟩ ∈ past) : reply = .ok () := by
  cases reply with
  | ok _ => rfl
  | error cause =>
      have failed : (processed, false) ∈ deletions past := List.mem_filterMap.mpr ⟨_, mem, rfl⟩
      cases succeed _ failed

theorem deletesFiles_household {pasts : Party → List (Event working)}
    (succeed : ∀ entry ∈ deletions (pasts .remover), entry.2 = true) :
    DeletesFiles household pasts (Site.idNumber 1) := by
  intro i upload processed reply removes mem
  cases i with
  | sender => cases removes
  | worker => cases removes
  | remover => exact ok_of_deletions succeed mem

def returned? (t : Thread working (Except Failure Unit)) : Option Bool :=
  match t.rest with
  | .done (.ok _) => some true
  | .done (.error _) => some false
  | .ask .. => none

theorem done_of_returned? {t : Thread working (Except Failure Unit)} (returned : returned? t = some true) :
    t.rest = .done (.ok ()) := by
  unfold returned? at returned
  split at returned
  · assumption
  · cases returned
  · cases returned

theorem not_running_of_returned? {t : Thread working (Except Failure Unit)}
    (returned : (returned? t).isSome = true) : ¬ t.Running := by
  rintro ⟨c, next, waiting⟩
  rw [returned?, waiting] at returned
  cases returned

def emptied : Ensemble working Party Site (Except Failure Unit) :=
  (Ensemble.start oneRoom fun i => (household i).service.run).play Site.answerBy
    (.replicate 5 (.sender, none) ++ .replicate 12 (.worker, none) ++ .replicate 3 (.remover, none))

def abandoned : Ensemble working Party Site (Except Failure Unit) :=
  (Ensemble.start oneRoom fun i => (household i).service.run).play Site.answerBy
    (.replicate 5 (.sender, none) ++ .replicate 10 (.worker, none) ++
      [(.worker, some (.foreign .database "locked"))] ++ .replicate 2 (.worker, none) ++
      .replicate 3 (.remover, none))

theorem namesResult_of_deletions (pasts : ι → List (Event working)) {i : ι} {key : String}
    (removes : errands i = .chore (.remove id)) (mem : (some key, true) ∈ deletions (pasts i)) :
    NamesResult errands pasts id := by
  obtain ⟨event, among, seen⟩ := List.mem_filterMap.mp mem
  split at seen <;> cases seen
  exact ⟨i, _, key, _, removes, among⟩

theorem emptied_seen :
    (issued (emptied.threads .sender).past = [Site.idNumber 1] ∧
      issued (emptied.threads .worker).past = [] ∧ issued (emptied.threads .remover).past = []) ∧
    deletions (emptied.threads .remover).past =
      [(some (objectKey "all" (Site.idNumber 1 ++ "_resize.jpg")), true)] ∧
    returned? (emptied.threads .remover) = some true := by
  decide +kernel

theorem emptied_leaves_nothing : emptied.shared.catalogue.find? (Site.idNumber 1) = none ∧
    ∀ path, FileOf (Site.idNumber 1) path → emptied.shared.files.file? path = none := by
  obtain ⟨once, swept, returned⟩ := emptied_seen
  have given : GivenOnce fun i => (emptied.threads i).past := givenOnce_of_party once
  have deletes : DeletesFiles household (fun i => (emptied.threads i).past) (Site.idNumber 1) := by
    apply deletesFiles_household
    simp [swept]
  have named : NamesResult household (fun i => (emptied.threads i).past) (Site.idNumber 1) :=
    namesResult_of_deletions (fun i => (emptied.threads i).past) (i := .remover) rfl
      (swept ▸ List.mem_singleton_self _)
  obtain ⟨absent, -, nothing, -⟩ := removal_leaves household oneRoom rfl (Site.idNumber 1)
    (fun path _ => oneRoom_clean path) emptied (Ensemble.reaches_play Site.responds_answerBy _ _)
    given deletes .remover rfl (done_of_returned? returned)
  exact ⟨absent, nothing (.inl named)⟩

theorem abandoned_seen :
    (issued (abandoned.threads .sender).past = [Site.idNumber 1] ∧
      issued (abandoned.threads .worker).past = [] ∧ issued (abandoned.threads .remover).past = []) ∧
    (∀ i ∈ [Party.sender, .worker, .remover], (returned? (abandoned.threads i)).isSome = true) ∧
    returned? (abandoned.threads .remover) = some true ∧
    deletions (abandoned.threads .remover).past = [(none, true)] ∧
    (abandoned.shared.files.file?
      ["data", "all", Site.idNumber 1 ++ "_resize.jpg"]).isSome = true := by
  decide +kernel

theorem abandoned_leaves_result : ¬ ∀ e : Ensemble working Party Site (Except Failure Unit),
    Ensemble.Reaches Site.guarded (.start oneRoom fun i => (household i).service.run) e →
    (GivenOnce fun i => (e.threads i).past) →
    DeletesFiles household (fun i => (e.threads i).past) (Site.idNumber 1) →
    (∀ i, ¬ (e.threads i).Running) → (e.threads .remover).rest = .done (.ok ()) →
    ∀ path, FileOf (Site.idNumber 1) path → e.shared.files.file? path = none := by
  intro claim
  obtain ⟨once, ended, returned, swept, left⟩ := abandoned_seen
  have deletes : DeletesFiles household (fun i => (abandoned.threads i).past) (Site.idNumber 1) := by
    apply deletesFiles_household
    simp [swept]
  have gone := claim abandoned (Ensemble.reaches_play Site.responds_answerBy _ _)
    (givenOnce_of_party once) deletes
    (fun i => not_running_of_returned? (ended i (by cases i <;> simp))) (done_of_returned? returned)
    ["data", "all", Site.idNumber 1 ++ "_resize.jpg"] ⟨["data", "all"], "_resize.jpg", rfl⟩
  rw [gone] at left
  cases left

end ImagePipeline.Workflow
