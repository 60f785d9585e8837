import ImagePipeline.Proofs.Queue.Agreement
import ImagePipeline.Proofs.Workflow.Housing
import ImagePipeline.Proofs.Workflow.Listing

namespace ImagePipeline

def Failure.isSpecific : Failure → Bool
  | .app fault _ => fault != .general
  | _ => false

theorem Failure.isApp_of_isSpecific {cause : Failure} (specific : cause.isSpecific = true) :
    cause.isApp = true := by
  cases cause with
  | app => rfl
  | _ => cases specific

/-- If it is a failure, then a specific one of the application's own. -/
def Foreseen {α : Type} (result : Except Failure α) : Prop :=
  ∀ cause, result = .error cause → cause.isSpecific = true

theorem foreseen_ok {α : Type} (value : α) : Foreseen (.ok value : Except Failure α) := nofun

theorem foreseen_error_iff {α : Type} {cause : Failure} :
    Foreseen (.error cause : Except Failure α) ↔ cause.isSpecific = true :=
  ⟨fun foreseen => foreseen cause rfl, by rintro known _ ⟨⟩; exact known⟩

theorem foreseen_map_iff {α β : Type} {result : Except Failure α} (f : α → β) :
    Foreseen (result.map f) ↔ Foreseen result := by
  cases result with
  | ok value => exact iff_of_true (foreseen_ok _) (foreseen_ok value)
  | error cause => exact foreseen_error_iff.trans foreseen_error_iff.symm

namespace Asset.LocalStore

variable {store : LocalStore} {space name key : String} {source : Source} {path : Path}
  {files : FileTree}

theorem fetch_cases (located : store.locate key = .ok path) (files : FileTree) :
    (∃ content, store.object? files key = some content ∧
        (store.fetch key).run files = (.ok content, files)) ∨
      store.object? files key = none ∧ ∃ cause : Failure, cause.isSpecific = true ∧
        (store.fetch key).run files = (.error cause, files) := by
  rw [object?_of_located located]
  unfold fetch FileTree.file?
  rw [run_bind_ok (run_locate located), run_get_bind]
  cases files.read path with
  | ok content => exact .inl ⟨content, rfl, rfl⟩
  | error fault => cases fault <;> exact .inr ⟨rfl, _, rfl, rfl⟩

theorem delete_foreseen {key : Option String} (files : FileTree)
    (located : ∀ k, key = some k → ∃ path, store.locate k = .ok path) :
    Foreseen ((store.delete key).run files).1 := by
  cases key with
  | none => exact foreseen_ok ()
  | some key =>
      obtain ⟨path, located⟩ := located key rfl
      cases keyless : key.isEmpty with
      | true =>
          simp only [delete, keyless, if_true]
          exact foreseen_ok ()
      | false =>
          simp only [delete, keyless, Bool.false_eq_true, if_false]
          rw [run_bind_ok (run_locate located), run_get_bind]
          cases files.remove path with
          | ok tree => exact foreseen_ok ()
          | error fault =>
              cases fault with
              | notFound => exact foreseen_ok ()
              | _ => exact foreseen_error_iff.mpr rfl

def Unwritable (store : LocalStore) (files : FileTree) (key : String) : Prop :=
  Path.hasNul key = true ∨ ∃ path, store.locate key = .ok path ∧ files.walk path = .error .nameTooLong

theorem save_run_unwritable (bad : store.Unwritable files (objectKey space name)) :
    ∃ cause : Failure, cause.isSpecific = false ∧
      (store.save space name source).run files = (.error cause, files) := by
  rcases bad with nul | ⟨path, located, tooLong⟩
  · have nowhere : store.locate (objectKey space name) = .error .nulInPath := by
      unfold locate
      rw [if_pos nul]
    exact ⟨_, rfl, save_run_unlocated nowhere⟩
  · exact ⟨_, rfl, save_run_tooLong located tooLong⟩

theorem save_foreseen (whole : source.broken = none)
    (writable : ¬ store.Unwritable files (objectKey space name)) :
    Foreseen ((store.save space name source).run files).1 := by
  cases located : store.locate (objectKey space name) with
  | error cause =>
      rw [save_run_unlocated located, foreseen_error_iff]
      by_cases nul : Path.hasNul (objectKey space name) = true
      · exact absurd (.inl nul) writable
      · simp only [locate, nul, Bool.false_eq_true, if_false] at located
        split at located <;> cases located
        rfl
  | ok path =>
      have known : files.walk path ≠ .error .nameTooLong := fun tooLong =>
        writable (.inr ⟨path, located, tooLong⟩)
      cases opened : files.truncate path with
      | error fault =>
          rw [save_run_unopened located known opened]
          exact foreseen_error_iff.mpr rfl
      | ok tree =>
          rw [(save_run_opened source located known opened).1]
          unfold written
          simp only [whole]
          split
          · exact foreseen_error_iff.mpr rfl
          · exact foreseen_ok _

theorem save_foreseen_iff (whole : source.broken = none) :
    Foreseen ((store.save space name source).run files).1 ↔
      ¬ store.Unwritable files (objectKey space name) := by
  refine ⟨fun foreseen unwritable => ?_, save_foreseen whole⟩
  obtain ⟨cause, unknown, ran⟩ := save_run_unwritable unwritable
  rw [ran, foreseen_error_iff, unknown] at foreseen
  cases foreseen

end Asset.LocalStore

namespace Workflow

open Asset (LocalStore objectKey)
open Routine

variable {site : Site} {id key : String} {upload : Upload} {kind : ProcessingType}

namespace Site

theorem deleteAsset_of_faultless (faultless : site.faults = []) (key : Option String) :
    site.deleteAsset key = site.onFiles (site.store.delete key) := by
  unfold deleteAsset
  rw [consult_of_faultless faultless]

theorem deleteEach_foreseen (keys : List (Option String)) (before : Option Failure)
    (faultless : site.faults = []) (known : ∀ cause, before = some cause → cause.isSpecific = true)
    (located : ∀ key, some key ∈ keys → ∃ path, site.store.locate key = .ok path) :
    ∃ result files, (Asset.deleteEach (fun key site => deleteAsset key site) keys before :
        ExceptT Failure (StateM Site) Unit).run site = (result, { site with files }) ∧
      Foreseen result := by
  -- the failure that is kept is the first one, and each further deletion starts from the files left
  induction keys generalizing before site with
  | nil =>
      cases before with
      | none => exact ⟨.ok (), site.files, rfl, foreseen_ok ()⟩
      | some cause => exact ⟨.error cause, site.files, rfl, foreseen_error_iff.mpr (known cause rfl)⟩
  | cons key rest ih =>
      have own := site.store.delete_foreseen site.files fun k same =>
        located k (same ▸ List.mem_cons_self)
      rw [deleteEach_cons, deleteAsset_of_faultless faultless]
      refine ih _ faultless (fun cause first => ?_) fun k mem => located k (List.mem_cons_of_mem _ mem)
      cases before with
      | some earlier => exact known cause first
      | none =>
          refine own cause ?_
          change failure? ((site.store.delete key).run site.files).1 = some cause at first
          cases result : ((site.store.delete key).run site.files).1 with
          | ok _ =>
              rw [result] at first
              cases first
          | error cause =>
              rw [result] at first
              exact congrArg Except.error (Option.some.inj first)

theorem perform_openProcessed_eq {given : Option String} (named : given = some key) :
    perform (.openProcessed given) site = site.onFiles (site.store.fetch key) := by
  subst named
  rfl

theorem run_loop_ok {σ α : Type} {I : Interface} {answer : (r : I.Request) → σ → I.Reply r × σ}
    {worth : Failure → Bool} {pause : Float → Routine I Unit} {backoff : Float} {body : Routine I α}
    {state after : σ} {value : α} (ran : body.run.run answer state = (.ok value, after)) (retries : Nat)
    (delay : Float) :
    (Retry.loop worth pause backoff body retries delay).run.run answer state = (.ok value, after) := by
  cases retries with
  | zero => exact ran
  | succ retries => exact run_recover_ok ran

theorem publish_ok (faultless : site.faults = []) (named : id ≠ "") (kind : ProcessingType) :
    ∃ entry after, site.publish id kind = (.ok entry, after) := by
  let task : Task := ⟨id, kind, named⟩
  have taken : ∃ entry after, site.append
      (Queue.streamFor site.publisher.topic site.publisher.partitions id) task.wire =
        (.ok entry, after) := by
    unfold append
    rw [consult_of_faultless faultless]
    exact ⟨_, _, rfl⟩
  obtain ⟨entry, after, appended⟩ := taken
  have tried : (Routine.ask (I := Queue.publishing) (Script.request (I := Queue.publishing)
      (.append (Queue.streamFor site.publisher.topic site.publisher.partitions id) task.wire))).run.run
        answerPublisher site = (.ok entry, after) := appended
  refine ⟨entry, after, ?_⟩
  unfold publish
  rw [site.publisher.publishOffered_eq task]
  exact run_recover_ok (run_loop_ok tried _ _)

end Site

theorem run_lookUp (faultless : site.faults = []) (id : String) :
    (lookUp id).run.run Site.answer site = (site.catalogue.find id, site) :=
  site.answer_of_faultless faultless (.find id)

theorem run_lookUp_ok {r : Record} (faultless : site.faults = [])
    (found : site.catalogue.find? id = some r) :
    (lookUp id).run.run Site.answer site = (.ok r, site) := by
  rw [run_lookUp faultless, Catalogue.find_eq_ok.mpr found]

theorem lookUp_cases (faultless : site.faults = []) (id : String) :
    (∃ r, site.catalogue.find? id = some r ∧ (lookUp id).run.run Site.answer site = (.ok r, site)) ∨
      site.catalogue.find? id = none ∧ ∃ cause : Failure, cause.isSpecific = true ∧
        (lookUp id).run.run Site.answer site = (.error cause, site) := by
  rw [run_lookUp faultless]
  unfold Catalogue.find
  cases site.catalogue.find? id with
  | some r => exact .inl ⟨r, rfl, rfl⟩
  | none => exact .inr ⟨rfl, _, rfl, rfl⟩

theorem openFile_error {opened : Service ByteArray} {cause : Failure} (known : cause.isSpecific = true)
    (ran : opened.run.run Site.answer site = (.error cause, site)) :
    ∃ cause : Failure, cause.isSpecific = true ∧
      (openFile key opened).run.run Site.answer site = (.error cause, site) := by
  unfold openFile
  rw [run_recover_error ran]
  split
  · exact ⟨_, rfl, rfl⟩
  · exact ⟨cause, known, rfl⟩

theorem openFile_cases {opened : Service ByteArray} (located : ∃ path, site.store.locate key = .ok path)
    (asked : opened.run.run Site.answer site = site.onFiles (site.store.fetch key)) :
    (∃ content, site.store.object? site.files key = some content ∧
        (openFile key opened).run.run Site.answer site = (.ok content, site)) ∨
      site.store.object? site.files key = none ∧ ∃ cause : Failure, cause.isSpecific = true ∧
        (openFile key opened).run.run Site.answer site = (.error cause, site) := by
  obtain ⟨path, located⟩ := located
  rcases LocalStore.fetch_cases located site.files with
    ⟨content, there, ran⟩ | ⟨gone, cause, known, ran⟩
  · rw [Site.onFiles_eq ran] at asked
    exact .inl ⟨content, there, run_recover_ok asked⟩
  · rw [Site.onFiles_eq ran] at asked
    exact .inr ⟨gone, openFile_error known asked⟩

theorem uploadedFile_cases {r : Record} (faultless : site.faults = [])
    (found : site.catalogue.find? id = some r)
    (located : ∃ path, site.store.locate r.uploadPath = .ok path) :
    (∃ content, site.store.object? site.files r.uploadPath = some content ∧
        (uploadedFile id).run.run Site.answer site = (.ok (content, r.uploadFilename), site)) ∨
      site.store.object? site.files r.uploadPath = none ∧ ∃ cause : Failure, cause.isSpecific = true ∧
        (uploadedFile id).run.run Site.answer site = (.error cause, site) := by
  have asked : (Routine.ask (call (.openUpload r.uploadPath)) : Service ByteArray).run.run
      Site.answer site = site.onFiles (site.store.fetch r.uploadPath) :=
    (site.answer_of_faultless faultless (.openUpload r.uploadPath)).trans (Site.perform_openUpload_eq _)
  unfold uploadedFile
  rw [run_bind_ok (run_lookUp_ok faultless found)]
  rcases openFile_cases located asked with ⟨content, there, opened⟩ | ⟨gone, cause, known, opened⟩
  · have read : (Routine.ask (call (.readUpload content)) : Service ByteArray).run.run
        Site.answer site = (.ok content, site) := site.answer_of_faultless faultless (.readUpload content)
    refine .inl ⟨content, there, ?_⟩
    rw [run_bind_ok opened, run_bind_ok read]
    rfl
  · exact .inr ⟨gone, cause, known, run_bind_error opened⟩

theorem processedFile_cases {r : Record} (faultless : site.faults = [])
    (found : site.catalogue.find? id = some r) (done : r.isProcessed = true)
    (named : r.processedPath = some key) (located : ∃ path, site.store.locate key = .ok path) :
    (∃ content, site.store.object? site.files key = some content ∧
        (processedFile id).run.run Site.answer site =
          (.ok (content, resultName r.uploadFilename r.processingType key), site)) ∨
      site.store.object? site.files key = none ∧ ∃ cause : Failure, cause.isSpecific = true ∧
        (processedFile id).run.run Site.answer site = (.error cause, site) := by
  have asked : (Routine.ask (call (.openProcessed r.processedPath)) : Service ByteArray).run.run
      Site.answer site = site.onFiles (site.store.fetch key) :=
    (site.answer_of_faultless faultless (.openProcessed r.processedPath)).trans
      (Site.perform_openProcessed_eq named)
  unfold processedFile
  rw [run_bind_ok (run_lookUp_ok faultless found)]
  simp only [done, named, Option.getD_some, Bool.not_true, Bool.false_eq_true, if_false]
  rcases openFile_cases located asked with ⟨content, there, opened⟩ | ⟨gone, cause, known, opened⟩
  · refine .inl ⟨content, there, ?_⟩
    exact run_bind_ok opened
  · exact .inr ⟨gone, cause, known, run_bind_error opened⟩

theorem processedFile_unprocessed {r : Record} (faultless : site.faults = [])
    (found : site.catalogue.find? id = some r) (undone : r.isProcessed = false) :
    (processedFile id).run.run Site.answer site = (.error (.app .imageNotProcessed none), site) := by
  unfold processedFile
  rw [run_bind_ok (run_lookUp_ok faultless found)]
  simp only [undone, Bool.not_false, if_true]
  rfl

/-- The site gives out the file of the image, the upload or the result, under the name. -/
inductive GivesOut (site : Site) (id : String) : Bool → String → ByteArray → Prop where
  | uploaded (r : Record) (content : ByteArray) (found : site.catalogue.find? id = some r)
      (there : site.store.object? site.files r.uploadPath = some content) :
      GivesOut site id true r.uploadFilename content
  | processed (r : Record) (key : String) (content : ByteArray)
      (found : site.catalogue.find? id = some r) (done : r.isProcessed = true)
      (named : r.processedPath = some key)
      (there : site.store.object? site.files key = some content) :
      GivesOut site id false (resultName r.uploadFilename r.processingType key) content

namespace GivesOut

variable {name other : String} {content bytes : ByteArray} {uploaded : Bool} {r : Record}

theorem exists_record (given : GivesOut site id uploaded name content) :
    ∃ r, site.catalogue.find? id = some r := by
  cases given with
  | uploaded r content found => exact ⟨r, found⟩
  | processed r key content found => exact ⟨r, found⟩

theorem of_uploaded (given : GivesOut site id true name content)
    (found : site.catalogue.find? id = some r) :
    name = r.uploadFilename ∧ site.store.object? site.files r.uploadPath = some content := by
  cases given with
  | uploaded r' content found' there =>
      cases found.symm.trans found'
      exact ⟨rfl, there⟩

theorem of_processed (given : GivesOut site id false name content)
    (found : site.catalogue.find? id = some r) : r.isProcessed = true ∧
      ∀ key, r.processedPath = some key → name = resultName r.uploadFilename r.processingType key ∧
        site.store.object? site.files key = some content := by
  cases given with
  | processed r' key content found' done named there =>
      cases found.symm.trans found'
      refine ⟨done, fun other named' => ?_⟩
      cases named.symm.trans named'
      exact ⟨rfl, there⟩

theorem name_eq (given : GivesOut site id uploaded name content)
    (given' : GivesOut site id uploaded other bytes) : name = other := by
  cases given with
  | uploaded r content found => exact (given'.of_uploaded found).1.symm
  | processed r key content found done named => exact ((given'.of_processed found).2 key named).1.symm

end GivesOut

structure Filed (store : LocalStore) (r : Record) : Prop where
  original : ∃ path, store.locate r.uploadPath = .ok path
  result : ∀ key, r.processedPath = some key → ∃ path, store.locate key = .ok path
  done : r.isProcessed = true → ∃ key, r.processedPath = some key

theorem file_cases (faultless : site.faults = [])
    (filed : ∀ r ∈ site.catalogue.rows, Filed site.store r) (id : String) (uploaded : Bool) :
    (∃ name content, GivesOut site id uploaded name content ∧
        (file id uploaded).run.run Site.answer site = (.ok (content, name), site)) ∨
      (∀ name content, ¬ GivesOut site id uploaded name content) ∧ ∃ cause : Failure,
        cause.isSpecific = true ∧ (file id uploaded).run.run Site.answer site = (.error cause, site) := by
  rcases lookUp_cases faultless id with ⟨r, found, -⟩ | ⟨missing, cause, known, looked⟩
  · have filed := filed r (Catalogue.mem_of_find? found)
    cases uploaded with
    | true =>
        rcases uploadedFile_cases faultless found filed.original with
          ⟨content, there, ran⟩ | ⟨gone, failed⟩
        · exact .inl ⟨_, content, .uploaded r content found there, ran⟩
        · refine .inr ⟨fun name content given => ?_, failed⟩
          cases gone.symm.trans (given.of_uploaded found).2
    | false =>
        cases done : r.isProcessed with
        | false =>
            refine .inr ⟨fun name content given => ?_, _, rfl,
              processedFile_unprocessed faultless found done⟩
            cases done.symm.trans (given.of_processed found).1
        | true =>
            obtain ⟨key, named⟩ := filed.done done
            rcases processedFile_cases faultless found done named (filed.result key named) with
              ⟨content, there, ran⟩ | ⟨gone, failed⟩
            · exact .inl ⟨_, content, .processed r key content found done named there, ran⟩
            · refine .inr ⟨fun name content given => ?_, failed⟩
              cases gone.symm.trans ((given.of_processed found).2 key named).2
  · refine .inr ⟨fun name content given => ?_, cause, known, ?_⟩
    · obtain ⟨r, found⟩ := given.exists_record
      cases missing.symm.trans found
    · cases uploaded with
      | true => exact run_bind_error looked
      | false => exact run_bind_error looked

theorem listRecords_foreseen_iff (faultless : site.faults = []) (limit offset : Int)
    (status : Option Status) :
    Foreseen ((listRecords limit offset (status.map (·.name))).run.run Site.answer site).1 ↔
      offset < 0x8000000000000000 := by
  rw [listRecords_eq, (run_listing faultless limit offset status).1, foreseen_map_iff,
    checkBounds_normalize]
  split
  · next near => exact iff_of_true (foreseen_ok ()) near
  · next far => exact iff_of_false (fun foreseen => by cases foreseen _ rfl) far

theorem run_clear {r : Record} (faultless : site.faults = []) (filed : Filed site.store r) :
    ∃ files, ((Routine.ask (call (.deleteAssets (some r.uploadPath) r.processedPath))).recover
      Failure.isApp fun _ => pure () : Service Unit).run.run Site.answer site =
        (.ok (), { site with files }) := by
  have located : ∀ key, some key ∈ [some r.uploadPath, r.processedPath] →
      ∃ path, site.store.locate key = .ok path := by
    intro key mem
    rcases List.mem_pair.mp mem with same | same
    · exact Option.some.inj same ▸ filed.original
    · exact filed.result key same.symm
  obtain ⟨result, files, cleared, foreseen⟩ :=
    Site.deleteEach_foreseen [some r.uploadPath, r.processedPath] none faultless nofun located
  have asked : (Routine.ask (call (.deleteAssets (some r.uploadPath) r.processedPath)) :
      Service Unit).run.run Site.answer site = (result, { site with files }) :=
    (site.answer_of_faultless faultless
      (.deleteAssets (some r.uploadPath) r.processedPath)).trans cleared
  refine ⟨files, ?_⟩
  cases result with
  | ok _ => exact run_recover_ok asked
  | error cause =>
      rw [run_recover_error asked, if_pos (Failure.isApp_of_isSpecific (foreseen cause rfl))]
      rfl

theorem run_delete {r : Record} (faultless : site.faults = [])
    (found : site.catalogue.find? id = some r) :
    (Routine.ask (call (.delete id)) : Service Unit).run.run Site.answer site =
      (.ok (), { site with catalogue := ⟨site.catalogue.rows.filter fun r => r.id != id⟩ }) := by
  have known : site.catalogue.delete id = .ok ⟨site.catalogue.rows.filter fun r => r.id != id⟩ := by
    unfold Catalogue.delete
    rw [Catalogue.find_eq_ok.mpr found]
    rfl
  refine (site.answer_of_faultless faultless (.delete id)).trans ?_
  refine Site.onTable_ok (fun table => return ((), ← table.delete id)) ?_
  rw [known]
  rfl

theorem remove_foreseen (faultless : site.faults = [])
    (filed : ∀ r ∈ site.catalogue.rows, Filed site.store r) (id : String) :
    Foreseen ((remove id).run.run Site.answer site).1 := by
  unfold remove
  rcases lookUp_cases faultless id with ⟨r, found, looked⟩ | ⟨missing, cause, known, looked⟩
  · obtain ⟨files, cleared⟩ := run_clear faultless (filed r (Catalogue.mem_of_find? found))
    have still : ({ site with files } : Site).faults = [] := faultless
    rw [run_bind_ok looked, run_bind_ok cleared, run_delete still found]
    exact foreseen_ok ()
  · rw [run_bind_error looked]
    exact foreseen_error_iff.mpr known

theorem Upload.complete_draft (upload : Upload) (id key : String) (kind : ProcessingType)
    (created now : Instant) :
    if Draft.fits upload.size then
      ∃ row, ((upload.draft id key kind created).withUsual now).complete = .ok row ∧ row.id = id
    else ((upload.draft id key kind created).withUsual now).complete = .error .integerOutOfRange := by
  cases fits : Draft.fits upload.size with
  | true =>
      cases done : ((upload.draft id key kind created).withUsual now).complete with
      | ok row => exact ⟨row, rfl, (Option.some.inj (Draft.columns_of_complete done).1).symm⟩
      | error cause =>
          have absent : Draft.fits 0 = true := rfl
          simp [Upload.draft, Draft.withUsual, Draft.complete, Draft.isZoned, WrittenTime.ofInstant,
            WrittenTime.instant?, fits, absent] at done
          cases done
  | false =>
      simp only [Upload.draft, Draft.withUsual, Draft.complete, Draft.isZoned, WrittenTime.ofInstant,
        List.all_cons, List.all_nil, Option.getD_some, fits, Bool.false_and, Bool.not_false]
      rfl

/-- The upload cannot be stored: the file system does not take the path of its key, or the database does
not take its size once the file is saved. -/
inductive Unstorable (store : LocalStore) (files : Asset.FileTree) (upload : Upload) (id : String) :
    Prop where
  | key (unwritable : store.Unwritable files (uploadKey store id upload))
  | size (key : String) (saved : ((store.save store.uploadSpace (uploadFile id upload.filename)
        upload.source).run files).1 = .ok key) (large : Draft.fits upload.size = false)

namespace Upload

theorem run_record_ok {draft : Draft} {row : Record} (faultless : site.faults = [])
    (completed : (draft.withUsual site.clock).complete = .ok row)
    (fresh : site.catalogue.find? row.id = none) (key : String) :
    (record draft key).run.run Site.answer site =
      (.ok row, { site with catalogue := ⟨site.catalogue.rows ++ [row]⟩ }) := by
  have inserted : site.catalogue.create draft site.clock =
      .ok (row, ⟨site.catalogue.rows ++ [row]⟩) := by
    unfold Catalogue.create Catalogue.insert
    rw [completed]
    simp only [bind, Except.bind, fresh]
    rfl
  refine run_recover_ok ((site.answer_of_faultless faultless (.create draft)).trans ?_)
  exact Site.onTable_ok (fun table => table.create draft site.clock) inserted

theorem run_discard (faultless : site.faults = []) (located : ∃ path, site.store.locate key = .ok path) :
    ∃ after, (discard key).run.run Site.answer site = (.ok (), after) := by
  have asked : (Routine.ask (call (.deleteAsset (some key))) : Service Unit).run.run Site.answer site =
      site.onFiles (site.store.delete (some key)) :=
    (site.answer_of_faultless faultless (.deleteAsset (some key))).trans (Site.perform_deleteAsset_eq _)
  have foreseen := site.store.delete_foreseen site.files fun k same => Option.some.inj same ▸ located
  generalize ran : (site.store.delete (some key)).run site.files = deleted at foreseen
  obtain ⟨result, files⟩ := deleted
  rw [Site.onFiles_eq ran] at asked
  unfold discard
  cases result with
  | ok _ => exact ⟨_, run_recover_ok asked⟩
  | error cause =>
      refine ⟨{ site with files }, ?_⟩
      rw [run_recover_error asked, if_pos (Failure.isApp_of_isSpecific (foreseen cause rfl))]
      rfl

theorem run_record_error {draft : Draft} {cause : Failure} (faultless : site.faults = [])
    (completed : (draft.withUsual site.clock).complete = .error cause)
    (located : ∃ path, site.store.locate key = .ok path) :
    ∃ after, (record draft key).run.run Site.answer site = (.error cause, after) := by
  have refused : site.catalogue.create draft site.clock = .error cause := by
    unfold Catalogue.create
    rw [completed]
    rfl
  have asked : (Routine.ask (call (.create draft)) : Service Record).run.run Site.answer site =
      (.error cause, site) :=
    (site.answer_of_faultless faultless (.create draft)).trans
      (Site.onTable_error (fun table => table.create draft site.clock) refused)
  obtain ⟨after, discarded⟩ := run_discard faultless located
  refine ⟨after, ?_⟩
  unfold record
  rw [run_recover_error asked, if_pos rfl, run_bind_ok discarded]
  rfl

theorem run_announce (faultless : site.faults = []) (named : id ≠ "") (kind : ProcessingType) :
    ∃ after, (announce id kind).run.run Site.answer site = (.ok (), after) := by
  obtain ⟨entry, after, published⟩ := site.publish_ok faultless named kind
  have asked : (Routine.ask (call (.publish id kind)) : Service String).run.run Site.answer site =
      (.ok entry, after) := (site.answer_of_faultless faultless (.publish id kind)).trans published
  exact ⟨after, run_recover_ok (run_bind_ok asked)⟩

end Upload

theorem Admission.check_foreseen (admission : Admission) (filename : String) (size : Int)
    (kind : String) : Foreseen (admission.check filename size kind) := by
  intro cause refused
  unfold check at refused
  split at refused
  · cases refused
    rfl
  · dsimp only at refused
    split at refused
    · cases refused
      rfl
    · split at refused <;> cases refused
      rfl

theorem Site.idNumber_ne_empty (n : Nat) : idNumber n ≠ "" := by
  intro empty
  unfold idNumber at empty
  exact absurd (String.append_eq_empty_iff.mp empty).1 (by decide)

theorem Upload.recorded_foreseen_iff (faultless : site.faults = []) (named : id ≠ "")
    (fresh : site.catalogue.find? id = none) (located : ∃ path, site.store.locate key = .ok path) :
    Foreseen ((do
      let now ← Routine.tell (call .now)
      let row ← record (upload.draft id key kind now) key
      announce id kind
      return row : Service Record).run.run Site.answer site).1 ↔ Draft.fits upload.size = true := by
  have dated : (Routine.tell (call .now) : Service Instant).run.run Site.answer site =
    (.ok site.clock, site) := rfl
  rw [run_bind_ok dated]
  have completes := upload.complete_draft id key kind site.clock site.clock
  cases fits : Draft.fits upload.size with
  | true =>
      rw [if_pos fits] at completes
      obtain ⟨row, completed, rfl⟩ := completes
      have recorded := run_record_ok faultless completed fresh key
      obtain ⟨after, announced⟩ := run_announce (show ({ site with
        catalogue := ⟨site.catalogue.rows ++ [row]⟩ } : Site).faults = [] from faultless) named kind
      rw [run_bind_ok recorded, run_bind_ok announced]
      exact iff_of_true (foreseen_ok row) rfl
  | false =>
      rw [if_neg (fits ▸ Bool.false_ne_true)] at completes
      obtain ⟨after, recorded⟩ := run_record_error faultless completes located
      rw [run_bind_error recorded, foreseen_error_iff]
      exact iff_of_false nofun Bool.false_ne_true

theorem Upload.stored_foreseen_iff (faultless : site.faults = []) (whole : upload.source.broken = none)
    (named : id ≠ "") (fresh : site.catalogue.find? id = none) :
    Foreseen ((do
      let key ← Routine.ask (call (.saveUpload (uploadFile id upload.filename) upload.source))
      let now ← Routine.tell (call .now)
      let row ← record (upload.draft id key kind now) key
      announce id kind
      return row : Service Record).run.run Site.answer site).1 ↔
        ¬ Unstorable site.store site.files upload id := by
  have saves : (Routine.ask (call (.saveUpload (uploadFile id upload.filename) upload.source)) :
      Service String).run.run Site.answer site = site.onFiles
        (site.store.save site.store.uploadSpace (uploadFile id upload.filename) upload.source) :=
    site.answer_of_faultless faultless (.saveUpload _ _)
  have writes : Foreseen ((site.store.save site.store.uploadSpace (uploadFile id upload.filename)
      upload.source).run site.files).1 ↔
        ¬ site.store.Unwritable site.files (uploadKey site.store id upload) :=
    LocalStore.save_foreseen_iff whole
  have saved := site.store.save_saved site.store.uploadSpace (uploadFile id upload.filename)
    upload.source site.files
  generalize ran : (site.store.save site.store.uploadSpace (uploadFile id upload.filename)
    upload.source).run site.files = outcome at *
  obtain ⟨result, files⟩ := outcome
  have same := congrArg Prod.fst ran
  rw [Site.onFiles_eq ran] at saves
  cases result with
  | error cause =>
      rw [run_bind_error saves]
      refine foreseen_error_iff.trans (foreseen_error_iff.symm.trans (writes.trans ?_))
      refine not_congr ⟨.key, fun unstorable => ?_⟩
      cases unstorable with
      | key unwritable => exact unwritable
      | size key done => cases same.symm.trans done
  | ok key =>
      have writable := writes.mp (foreseen_ok key)
      obtain rfl := saved.object?_eq.1
      rw [run_bind_ok saves]
      cases saved with
      | kept path located =>
          have still : ({ site with files } : Site).faults = [] := faultless
          refine (recorded_foreseen_iff still named fresh ⟨path, located⟩).trans ?_
          constructor
          · intro fits unstorable
            cases unstorable with
            | key unwritable => exact writable unwritable
            | size key done large => cases fits.symm.trans large
          · intro storable
            by_contra large
            exact storable (.size _ same (eq_false_of_ne_true large))

theorem accept_foreseen_iff (faultless : site.faults = []) (admission : Admission)
    (whole : upload.source.broken = none)
    (fresh : site.catalogue.find? (Site.idNumber (site.issued + 1)) = none) :
    Foreseen ((upload.accept admission).run.run Site.answer site).1 ↔
      ¬ ((∃ admitted, admission.check upload.filename upload.size upload.kind = .ok admitted) ∧
        Unstorable site.store site.files upload (Site.idNumber (site.issued + 1))) := by
  cases checked : admission.check upload.filename upload.size upload.kind with
  | error cause =>
      have ran : (upload.accept admission).run.run Site.answer site = (.error cause, site) := by
        unfold Upload.accept
        rw [checked]
        rfl
      rw [ran, foreseen_error_iff]
      exact iff_of_true (admission.check_foreseen _ _ _ cause checked) (by simp)
  | ok admitted =>
      obtain ⟨kind, extension⟩ := admitted
      obtain ⟨-, rfl⟩ := Admission.check_ok checked
      have admits : (liftM (admission.check upload.filename upload.size upload.kind) :
          Service (ProcessingType × String)).run.run Site.answer site =
            (.ok (kind, Admission.extensionOf upload.filename), site) := by
        rw [checked]
        rfl
      have names : (Routine.tell (call .newId) : Service String).run.run Site.answer site =
          (.ok (Site.idNumber (site.issued + 1)), { site with issued := site.issued + 1 }) := rfl
      unfold Upload.accept
      rw [run_bind_ok admits, run_bind_ok names]
      have same : ({ site with issued := site.issued + 1 } : Site).faults = [] := faultless
      refine (Upload.stored_foreseen_iff same whole (Site.idNumber_ne_empty _) fresh).trans ?_
      simp

end Workflow

end ImagePipeline
