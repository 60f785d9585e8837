import ImagePipeline.Proofs.Workflow.Provenance
/-!
# Objects are what records say

Where no removal of an image was begun, its upload's file holds what was uploaded, and the result of a
completed record is what processing makes of it (`objects_intact`). The row runs behind the files: an
attempt saves first and writes the record later, so what it knows at each stage in between is part of
the invariant (`Attempt.Works`).
-/

namespace ImagePipeline.Workflow

open Asset (LocalStore FileTree Path objectKey)

variable {ι : Type} {errands : ι → Errand} {store : LocalStore} {stages : Stages}
  {content : ByteArray} {files files' : FileTree} {site : Site} {c : Call} {reply : working.Reply c}

/-! ## One attempt -/

/-- Encoding what processing makes of the decoded content gives these bytes. -/
def Renders (stages : Stages) (kind : String) (content : ByteArray) (result : Picture)
    (encoded : ByteArray) : Prop :=
  ∃ picture, stages.decode content = .ok picture ∧ stages.process kind picture = .ok result ∧
    stages.encode result = .ok encoded

/-- The record's result is there, made from the content, with the size it says. -/
def Shows (store : LocalStore) (files : FileTree) (stages : Stages) (content : ByteArray)
    (r : Record) : Prop :=
  ∃ result encoded, Renders stages r.processingType content result encoded ∧
    r.processedPath = some (resultKey store r) ∧ r.width = some (result.width : Int) ∧
    r.height = some (result.height : Int) ∧ store.object? files (resultKey store r) = some encoded

/-- What an attempt has in hand at each stage comes from the content. -/
def Attempt.Works (store : LocalStore) (files : FileTree) (stages : Stages)
    (content : ByteArray) : Attempt → Prop
  | reading _ found => found = content
  | decoding _ bytes => bytes = content
  | processing _ picture => stages.decode content = .ok picture
  | encoding record result => ∃ picture, stages.decode content = .ok picture ∧
      stages.process record.processingType picture = .ok result
  | saving record result encoded => Renders stages record.processingType content result encoded
  | completing record result _ => ∃ encoded,
      Renders stages record.processingType content result encoded ∧
        store.object? files (resultKey store record) = some encoded
  | storing completed => Shows store files stages content completed
  | reporting failed _ => failed.status = Status.failed.name
  | _ => True

theorem Attempt.works_afterFailure (record : Record) (what : String) (expected : Failure → Bool)
    (cause : Failure) :
    (afterFailure record what expected cause).Works store files stages content := by
  unfold afterFailure
  split <;> trivial

theorem Attempt.Works.step {p p' : Attempt} (works : p.Works store files stages content)
    (step : p.Step c reply p') (change : FileStep store files c reply files')
    (truthful : Truthful stages c reply) (honest : (Activity.attempt p).Honest store)
    (original : ∀ record, p.record? = some record →
      store.object? files record.uploadPath = some content) :
    p'.Works store files' stages content := by
  cases step with
  | found => split <;> trivial
  | refused => split <;> trivial
  | opened record found =>
      have there := original record rfl
      rw [change.opened_ok] at there
      exact Option.some.inj there
  | read record found bytes =>
      obtain rfl : found = content := works
      exact truthful
  | decoded record bytes picture =>
      obtain rfl : bytes = content := works
      exact truthful
  | processed record picture result => exact ⟨picture, works, truthful⟩
  | encoded record result bytes =>
      obtain ⟨picture, decoded, processed⟩ := works
      exact ⟨picture, decoded, processed, truthful⟩
  | saved record result encoded key =>
      obtain ⟨keyed, there⟩ := change.savedResult_ok
      subst keyed
      exact ⟨encoded, works, there⟩
  | finished record result key now =>
      obtain ⟨encoded, renders, there⟩ := works
      rw [← change.files_eq rfl] at there
      exact ⟨result, encoded, renders, congrArg some honest, rfl, rfl, there⟩
  | stamped => rfl
  | notOpened | notRead | notDecoded | notProcessed | notEncoded | notSaved | notStored =>
      exact works_afterFailure ..
  | _ => trivial

theorem Shows.frame {r : Record} (shows : Shows store files stages content r)
    (same : store.object? files' (resultKey store r) = store.object? files (resultKey store r)) :
    Shows store files' stages content r := by
  obtain ⟨result, encoded, renders, path, width, height, there⟩ := shows
  exact ⟨result, encoded, renders, path, width, height, same.trans there⟩

theorem Attempt.Works.frame {p : Attempt} (works : p.Works store files stages content)
    (same : ∀ r, p.record? = some r →
      store.object? files' (resultKey store r) = store.object? files (resultKey store r)) :
    p.Works store files' stages content := by
  cases p with
  | completing record result key =>
      obtain ⟨encoded, renders, there⟩ := works
      exact ⟨encoded, renders, (same record rfl).trans there⟩
  | storing completed => exact Shows.frame works (same completed rfl)
  | _ => exact works

theorem Attempt.id_of_record? {p : Attempt} {r : Record} {id : String} (held : p.holding? = some id)
    (here : p.record? = some r) : r.id = id := by
  cases p with
  | looking => cases held
  | claiming => cases held
  | ended => cases held
  | _ =>
      cases here
      exact Option.some.inj held

/-! ## All threads -/

/-- No removal of the image was begun. -/
def Spared (errands : ι → Errand) (pasts : ι → List (Event working)) (id : String) : Prop :=
  ∀ i, errands i = .chore (.remove id) → pasts i = []

def Intake.arriving? : Intake → Option String
  | dating _ _ id _ => some id
  | creating _ _ id _ => some id
  | _ => none

structure Intact (store : LocalStore) (stages : Stages) (v : View working ι Site Activity)
    (id : String) (upload : Upload) : Prop where
  original : store.object? v.shared.files (uploadKey store id upload) = some upload.source.content
  works : ∀ i p, v.stages i = .attempt p → p.holding? = some id →
    p.Works store v.shared.files stages upload.source.content
  result : ∀ r, v.shared.catalogue.find? id = some r → r.status = Status.completed.name →
    Shows store v.shared.files stages upload.source.content r

structure Whole (store : LocalStore) (stages : Stages) (errands : ι → Errand)
    (v : View working ι Site Activity) : Prop extends Accounted store errands v where
  stages_eq : v.shared.stages = stages
  arrived : ∀ i p admission upload id, v.stages i = .intake p → p.arriving? = some id →
    errands i = .upload admission upload →
      store.object? v.shared.files (uploadKey store id upload) = some upload.source.content
  intact : ∀ id i upload, Origin errands v.pasts id i upload → Spared errands v.pasts id →
    Intact store stages v id upload

section Step

variable {v : View working ι Site Activity} {i j : ι} {a : Activity} {id : String} {upload : Upload}

theorem FileStep.object?_frame {key : String} (change : FileStep store files c reply files')
    (beyond : ∀ path, store.locate key = .ok path → ¬ c.Reaches store path) :
    store.object? files' key = store.object? files key := by
  unfold LocalStore.object?
  cases located : store.locate key with
  | error cause => rfl
  | ok path => exact change.frame (beyond path located)

namespace Accounted

theorem object?_of_arriving (inv : Accounted store errands v) (given : GivenOnce v.pasts)
    (allowed : (v.stages i).call? = some c) (change : FileStep store v.shared.files c reply files')
    (issued : ⟨.newId, id⟩ ∈ v.pasts j) (uncreated : Uncreated (v.pasts j)) (other : i ≠ j) :
    store.object? files' (uploadKey store id upload) =
      store.object? v.shared.files (uploadKey store id upload) := by
  have uuid := given.uuid j id issued
  apply change.object?_frame
  intro path located reached
  have reach := inv.reach_of_fileOf given allowed reached uuid (fileOf_uploadKey uuid located)
  exact other (reach.of_uncreated inv given issued uncreated)

theorem not_removing (inv : Accounted store errands v) (spared : Spared errands v.pasts id)
    (record : Record) : v.stages i ≠ .removal (.clearing id record) := by
  intro stage
  have removes := (inv.removes_of_clearing stage).1
  have first := inv.unstarted i (spared i removes)
  rw [stage, removes] at first
  cases first

theorem object?_of_original (inv : Accounted store errands v) (given : GivenOnce v.pasts)
    (origin : Origin errands v.pasts id j upload) (spared : Spared errands v.pasts id)
    (allowed : (v.stages i).call? = some c) (change : FileStep store v.shared.files c reply files') :
    store.object? files' (uploadKey store id upload) =
      store.object? v.shared.files (uploadKey store id upload) := by
  have uuid := given.uuid j id origin.given
  apply change.object?_frame
  intro path located reached
  have reach := inv.reach_of_fileOf given allowed reached uuid (fileOf_uploadKey uuid located)
  rcases reach.of_origin given origin with ⟨record, result, encoded, stage, rfl⟩ | ⟨record, stage⟩
  · have traced := inv.records i record (by rw [stage]; rfl)
    rw [stage] at allowed
    cases allowed
    exact traced.uploadKey_apart given located reached rfl
  · exact inv.not_removing spared record stage

theorem object?_of_result {r : Record} (inv : Accounted store errands v) (given : GivenOnce v.pasts)
    (traced : Traced store errands v.pasts r) (spared : Spared errands v.pasts r.id)
    (free : (v.stages i).holding? ≠ some r.id) (allowed : (v.stages i).call? = some c)
    (change : FileStep store v.shared.files c reply files') :
    store.object? files' (resultKey store r) = store.object? v.shared.files (resultKey store r) := by
  apply change.object?_frame
  intro path located reached
  have file := traced.fileOf_resultKey given located
  have reach := inv.reach_of_fileOf given allowed reached (traced.uuid given) file
  obtain ⟨j, upload, origin, -⟩ := traced
  rcases reach.of_origin given origin with ⟨record, result, encoded, stage, named⟩ | ⟨record, stage⟩
  · exact free (by rw [stage]; exact congrArg some named)
  · exact inv.not_removing spared record stage

end Accounted

theorem Spared.of_suffix {pasts pasts' : ι → List (Event working)} (spared : Spared errands pasts' id)
    (earlier : ∀ i, pasts i <:+ pasts' i) : Spared errands pasts id := fun i removes =>
  List.suffix_nil.mp (spared i removes ▸ earlier i)

theorem Accounted.completed_came {r : Record} (inv : Accounted store errands v)
    (allowed : (v.stages i).call? = some c) (change : TableStep v.shared.catalogue c reply site.catalogue)
    (mem : r ∈ site.catalogue.rows) (completed : r.status = Status.completed.name) :
    r ∈ v.shared.catalogue.rows ∨ ∃ record old now, c = .update record ∧ old.id = record.id ∧
      r = Catalogue.overwrite old record now := by
  cases change.rowOrigin inv.exclusive.keyed mem with
  | kept mem => exact .inl mem
  | written record old now same written => exact .inr ⟨record, old, now, rfl, same, written⟩
  | created draft now made =>
      obtain ⟨admission, source, kind, other, key, errand, stage⟩ := inv.creating_of_create allowed
      have fits := inv.does i
      rw [errand, stage] at fits
      obtain ⟨-, -, -, -, pending, -⟩ := fits
      obtain ⟨-, -, -, status, -⟩ := Draft.columns_of_complete made
      simp only [Draft.withUsual, pending, completed] at status
      exact absurd status (by decide)
  | claimed old now mem claimed =>
      subst claimed
      rw [show (old.claimedAt now).status = Status.processing.name from rfl] at completed
      exact absurd completed (by decide)

theorem Whole.result_call (inv : Whole store stages errands v) (given : GivenOnce v.pasts)
    (origin : Origin errands v.pasts id j upload) (spared : Spared errands v.pasts id)
    (allowed : (v.stages i).call? = some c) (change : SiteStep v.shared c reply site) (r : Record)
    (found : site.catalogue.find? id = some r) (completed : r.status = Status.completed.name) :
    Shows store site.files stages upload.source.content r := by
  have intact := inv.intact id j upload origin spared
  have files := change.files
  rw [inv.store_eq] at files
  have named := Catalogue.id_of_find? found
  -- the row was completed before, or this is the update that completes it
  rcases inv.toAccounted.completed_came allowed change.table (Catalogue.mem_of_find? found) completed
    with mem | ⟨record, old, now, rfl, same, rfl⟩
  · have before := inv.exclusive.keyed.find?_of_mem mem
    have free := inv.toAccounted.free_of_completed mem completed i
    refine (intact.result r (named ▸ before) completed).frame ?_
    exact inv.toAccounted.object?_of_result given (inv.rows r mem) (named ▸ spared) free allowed files
  · have about : record.id = id := same.symm.trans named
    have held : (v.stages i).holding? = some id := about ▸ (v.stages i).holding?_of_update allowed
    cases stage : v.stages i with
    | attempt p =>
        rw [stage] at allowed held
        have works := intact.works i p stage held
        cases p <;> cases allowed
        case storing.refl =>
          have shows : Shows store v.shared.files stages upload.source.content record := works
          obtain ⟨result, encoded, renders, path, width, height, there⟩ := shows
          rw [← files.files_eq rfl] at there
          have sameKey : resultKey store (Catalogue.overwrite old record now) =
              resultKey store record := by
            simp only [resultKey, resultFile, Catalogue.overwrite, same]
          refine ⟨result, encoded, renders, ?_, width, height, ?_⟩
          · rw [sameKey]
            exact path
          · rw [sameKey]
            exact there
        case reporting.refl =>
          have failed : record.status = Status.failed.name := works
          rw [show (Catalogue.overwrite old record now).status = record.status from rfl,
            failed] at completed
          exact absurd completed (by decide)
    | _ => rw [stage] at held; cases held

theorem Whole.drift (inv : Whole store stages errands v) (drifted : Site.guarded.drifts v.shared site) :
    Whole store stages errands { v with shared := site } := by
  obtain ⟨table, files, equipment⟩ := drifted
  refine ⟨inv.toAccounted.drift ⟨table, files, equipment⟩,
    (congrArg (·.2.2) equipment).trans inv.stages_eq, files ▸ inv.arrived, ?_⟩
  intro id i upload origin spared
  obtain ⟨original, works, result⟩ := inv.intact id i upload origin spared
  exact ⟨files ▸ original, files ▸ works, files ▸ table ▸ result⟩

variable [DecidableEq ι]

theorem Origin.of_move (inv : Accounted store errands v)
    (allowed : (v.stages i).call? = some c)
    (origin : Origin errands (v.move i ⟨c, reply⟩ site a).pasts id j upload) :
    Origin errands v.pasts id j upload ∨
      j = i ∧ ∃ draft row, (⟨c, reply⟩ : Event working) = ⟨.create draft, .ok row⟩ ∧ row.id = id := by
  obtain ⟨draft, row, created, named⟩ := origin.created
  rcases View.mem_move_pasts created with ⟨rfl, latest⟩ | earlier
  · exact .inr ⟨rfl, draft, row, latest.symm, named⟩
  rcases View.mem_move_pasts origin.given with ⟨rfl, latest⟩ | issued
  · -- who is given an identifier only now has created nothing yet
    cases latest
    obtain ⟨admission, errand⟩ := origin.errand
    have does := inv.does j
    rw [errand] at does
    cases stage : v.stages j with
    | intake p =>
        rw [stage] at allowed does
        cases p <;> cases allowed
        obtain ⟨-, -, -, uncreated⟩ := does
        exact absurd earlier (uncreated draft row)
    | _ =>
        rw [stage] at does
        exact does.elim
  · exact .inl ⟨origin.errand, issued, draft, row, earlier, named⟩

namespace Whole

theorem arrived_call (inv : Whole store stages errands v) (given : GivenOnce v.pasts)
    (allowed : (v.stages i).call? = some c) (change : FileStep store v.shared.files c reply site.files)
    (step : (v.stages i).Step c reply a) (j : ι) (p : Intake) (admission : Admission) (upload : Upload)
    (id : String) (stage : (v.move i ⟨c, reply⟩ site a).stages j = .intake p)
    (arriving : p.arriving? = some id) (errand : errands j = .upload admission upload) :
    store.object? site.files (uploadKey store id upload) = some upload.source.content := by
  by_cases atJ : j = i
  · subst atJ
    rw [View.move_stages_self] at stage
    subst stage
    have does := inv.does j
    rw [errand] at does
    cases before : v.stages j with
    | intake p =>
        rw [before] at step does
        cases step with
        | intake step =>
            cases step with
            | saved source kind extension id key =>
                cases arriving
                obtain ⟨rfl, -, rfl, -⟩ := does
                obtain ⟨rfl, there⟩ := change.savedUpload_ok
                exact there
            | dated source kind id key now =>
                cases arriving
                rw [change.files_eq rfl]
                exact inv.arrived j _ admission upload id before rfl errand
            | _ => cases arriving
    | _ =>
        rw [before] at does
        exact does.elim
  · rw [View.move_stages_of_ne atJ] at stage
    have does := inv.does j
    rw [errand, stage] at does
    have known : Uncreated (v.pasts j) ∧ ⟨.newId, id⟩ ∈ v.pasts j := by
      cases p <;> cases arriving
      case dating.refl =>
        obtain ⟨-, -, -, uncreated, issued⟩ := does
        exact ⟨uncreated, issued⟩
      case creating.refl =>
        obtain ⟨-, -, -, -, -, -, -, uncreated, issued⟩ := does
        exact ⟨uncreated, issued⟩
    rw [inv.toAccounted.object?_of_arriving given allowed change known.2 known.1 (Ne.symm atJ)]
    exact inv.arrived j p admission upload id stage arriving errand

theorem works_call (inv : Whole store stages errands v) (given : GivenOnce v.pasts)
    (origin : Origin errands v.pasts id j upload) (spared : Spared errands v.pasts id)
    (allowed : (v.stages i).call? = some c) (change : SiteStep v.shared c reply site)
    (step : (v.stages i).Step c reply a) (k : ι) (p : Attempt)
    (stage : (v.move i ⟨c, reply⟩ site a).stages k = .attempt p) (held : p.holding? = some id) :
    p.Works store site.files stages upload.source.content := by
  have intact := inv.intact id j upload origin spared
  have files := change.files
  rw [inv.store_eq] at files
  have ofImage (k : ι) (r : Record) (named : r.id = id) (here : (v.stages k).record? = some r) :
      Traced store errands v.pasts r ∧ r.uploadPath = uploadKey store id upload := by
    obtain ⟨m, other, origin', ofUpload⟩ := inv.records k r here
    obtain ⟨-, rfl⟩ := origin.unique given (named ▸ origin')
    exact ⟨⟨m, _, origin', ofUpload⟩, named ▸ ofUpload.original⟩
  by_cases atK : k = i
  · subst atK
    rw [View.move_stages_self] at stage
    subst stage
    rcases step.held_before held with before | claim
    · cases stage : v.stages k with
      | attempt q =>
          rw [stage] at step before
          cases step with
          | attempt step =>
              have honest := inv.honest k
              have truthful := change.truthful
              rw [stage] at honest
              rw [inv.stages_eq] at truthful
              refine (intact.works k q stage before).step step files truthful honest fun r here => ?_
              obtain ⟨-, path⟩ := ofImage k r (q.id_of_record? before here) (by rw [stage]; exact here)
              rw [path]
              exact intact.original
      | _ => rw [stage] at before; cases before
    · cases claim
      generalize v.stages k = b at step
      cases step with
      | attempt step =>
          cases step
          trivial
  · rw [View.move_stages_of_ne atK] at stage
    refine (intact.works k p stage held).frame fun r here => ?_
    have named := p.id_of_record? held here
    obtain ⟨traced, -⟩ := ofImage k r named (by rw [stage]; exact here)
    refine inv.toAccounted.object?_of_result given traced (named ▸ spared) ?_ allowed files
    intro also
    rw [named] at also
    exact atK (inv.exclusive.alone k i id (by rw [stage]; exact held) also)

theorem intact_of_created {draft : Draft} {row : Record} (inv : Whole store stages errands v)
    (given : GivenOnce v.pasts) (allowed : (v.stages i).call? = some (.create draft))
    (change : SiteStep v.shared (.create draft) (.ok row) site)
    (step : (v.stages i).Step (.create draft) (.ok row) a)
    (origin : Origin errands (v.move i ⟨.create draft, .ok row⟩ site a).pasts row.id i upload) :
    Intact store stages (v.move i ⟨.create draft, .ok row⟩ site a) row.id upload := by
  obtain ⟨admission, source, kind, id, key, errand, stage⟩ :=
    inv.toAccounted.creating_of_create allowed
  have fits := inv.does i
  rw [errand, stage] at fits
  obtain ⟨drafted, -, -, -, -, -, -, uncreated, issued⟩ := fits
  obtain ⟨now, made⟩ := change.table.completed
  have named : draft.id = some row.id := (Draft.columns_of_complete made).1
  obtain rfl : id = row.id := Option.some.inj (drafted.symm.trans named)
  obtain ⟨_, errand'⟩ := origin.errand
  rw [errand] at errand'
  cases errand'
  have unheld := inv.toAccounted.unheld_of_create given allowed change.table
  constructor
  case original =>
    rw [View.move_shared, change.files.files_eq rfl]
    exact inv.arrived i _ admission upload _ stage rfl errand
  case works =>
    intro k p at_ held
    by_cases atK : k = i
    · subst atK
      rw [View.move_stages_self] at at_
      subst at_
      rcases step.held_before held with before | claim
      · exact absurd before (unheld k)
      · cases claim
    · rw [View.move_stages_of_ne atK] at at_
      exact absurd (by rw [at_]; exact held) (unheld k)
  case result =>
    intro r found completed
    have same := Catalogue.id_of_find? found
    rcases inv.toAccounted.completed_came allowed change.table (Catalogue.mem_of_find? found)
      completed with mem | ⟨record, old, now, update, -⟩
    · obtain ⟨k, other, origin', -⟩ := inv.rows r mem
      -- a completed row comes from a record created under the same identifier, but none was created yet
      obtain rfl := given.once k i _ (same ▸ origin'.given) issued
      obtain ⟨draft', row', created, -⟩ := origin'.created
      exact absurd created (uncreated draft' row')
    · cases update

theorem call (inv : Whole store stages errands v)
    (given : GivenOnce (v.move i ⟨c, reply⟩ site a).pasts) (allowed : (v.stages i).call? = some c)
    (change : SiteStep v.shared c reply site) (step : (v.stages i).Step c reply a) :
    Whole store stages errands (v.move i ⟨c, reply⟩ site a) := by
  have earlier : ∀ j, v.pasts j <:+ (v.move i ⟨c, reply⟩ site a).pasts j := View.suffix_move_pasts
  have before := given.of_suffix earlier
  have files := change.files
  rw [inv.store_eq] at files
  constructor
  case toAccounted => exact inv.toAccounted.call before allowed change step
  case stages_eq => exact (congrArg (·.2.2) change.equipment).trans inv.stages_eq
  case arrived =>
    exact fun j p admission upload id stage arriving errand =>
      inv.arrived_call before allowed files step j p admission upload id stage arriving errand
  case intact =>
    intro id j upload origin spared
    have spared := spared.of_suffix earlier
    rcases origin.of_move inv.toAccounted allowed with origin | ⟨rfl, draft, row, event, rfl⟩
    · constructor
      case original =>
        rw [View.move_shared,
          inv.toAccounted.object?_of_original before origin spared allowed files]
        exact (inv.intact id j upload origin spared).original
      case works =>
        exact fun k p stage held =>
          inv.works_call before origin spared allowed change step k p stage held
      case result => exact fun r => inv.result_call before origin spared allowed change r
    · cases event
      exact inv.intact_of_created before allowed change step origin

theorem preserves : Preserves Site.guarded acting
    fun v => GivenOnce v.pasts → Whole store stages errands v where
  call v i c reply site inv allowed answered := by
    obtain ⟨a, step⟩ := (v.stages i).step_total allowed reply
    refine ⟨a, step, fun given => ?_⟩
    exact (inv (given.of_suffix View.suffix_move_pasts)).call given allowed answered.step step
  drift v site inv drifted given := (inv given).drift drifted

end Whole

end Step

/-! ## All runs -/

theorem flatten_size (p : Picture) :
    (Encode.flatten p).width = p.width ∧ (Encode.flatten p).height = p.height := by
  obtain ⟨cells, transparency⟩ := p
  cases cells <;> cases transparency <;> exact ⟨rfl, rfl⟩

theorem Whole.start (errands : ι → Errand) (site : Site) (fresh : site.catalogue.rows = []) :
    Whole site.store site.stages errands ⟨site, fun _ => [], fun i => (errands i).first⟩ := by
  refine ⟨.start errands site fresh, rfl, ?_, ?_⟩
  · intro i p admission upload id stage arriving errand
    have first : Intake.first admission upload = p := by simpa [errand, Errand.first] using stage
    unfold Intake.first at first
    split at first <;> subst first <;> cases arriving
  · intro id i upload origin
    exact absurd origin.given List.not_mem_nil

/-- In all that errands side by side reach from an empty table, the upload's file of a record whose
removal was not begun holds what was uploaded, and a completed record's result is the upload decoded,
processed and encoded, with the sides of what the codec was given to write. -/
theorem objects_intact [DecidableEq ι] (errands : ι → Errand) (site : Site)
    (fresh : site.catalogue.rows = []) (e : Ensemble working ι Site (Except Failure Unit))
    (reached : Ensemble.Reaches Site.guarded (.start site fun i => (errands i).service.run) e)
    (given : GivenOnce fun i => (e.threads i).past) (r : Record) (mem : r ∈ e.shared.catalogue.rows)
    (spared : Spared errands (fun i => (e.threads i).past) r.id) :
    ∃ i admission upload, errands i = .upload admission upload ∧
      ⟨.newId, r.id⟩ ∈ (e.threads i).past ∧ r.processingType = upload.kind ∧
      site.store.object? e.shared.files r.uploadPath = some upload.source.content ∧
      (r.status = Status.completed.name → ∃ key picture result encoded,
        r.processedPath = some key ∧ site.stages.decode upload.source.content = .ok picture ∧
        site.stages.process r.processingType picture = .ok result ∧
        site.stages.encode result = .ok encoded ∧
        site.store.object? e.shared.files key = some encoded ∧
        r.width = some ((Encode.flatten result).width : Int) ∧
        r.height = some ((Encode.flatten result).height : Int) ∧
        ∀ codec processor, site.stages = Processor.stages codec processor →
          codec.write (Encode.flatten result) processor.plan.outputQuality = .ok encoded) := by
  have started : Ensemble.Kept acting
      (fun v => GivenOnce v.pasts → Whole site.store site.stages errands v)
      (.start site fun i => (errands i).service.run) :=
    Ensemble.kept_start (fun i => (errands i).first) (fun _ => .start errands site fresh)
      fun i => (errands i).follows
  obtain ⟨stages, inv, -⟩ := Ensemble.kept_of_reaches Whole.preserves started reached
  have whole := inv given
  obtain ⟨i, upload, origin, ofUpload⟩ := whole.rows r mem
  obtain ⟨admission, errand⟩ := origin.errand
  have intact := whole.intact r.id i upload origin spared
  refine ⟨i, admission, upload, errand, origin.given, ofUpload.typed, ?_, fun completed => ?_⟩
  · rw [ofUpload.original]
    exact intact.original
  · have found := whole.exclusive.keyed.find?_of_mem mem
    obtain ⟨result, encoded, ⟨picture, decoded, processed, written⟩, path, width, height, there⟩ :=
      intact.result r found completed
    obtain ⟨sameWidth, sameHeight⟩ := flatten_size result
    rw [← sameWidth] at width
    rw [← sameHeight] at height
    refine ⟨_, picture, result, encoded, path, decoded, processed, written, there, width, height, ?_⟩
    intro codec processor equipped
    rw [equipped] at written
    exact (Encode.encode_eq_ok.mp written).2.1

inductive Party where
  | sender
  | worker
  | remover
  deriving DecidableEq

def party : Party → Errand
  | .sender => .upload ⟨12, [".png"]⟩ dot
  | .worker => .chore (.process (Site.idNumber 1))
  | .remover => .chore (.remove (Site.idNumber 2))

def processedDot : Ensemble working Party Site (Except Failure Unit) :=
  (Ensemble.start oneRoom fun i => (party i).service.run).play Site.answerBy
    (.replicate 5 (.sender, none) ++ .replicate 1 (.remover, none) ++ .replicate 12 (.worker, none))

theorem givenOnce_of_party {pasts : Party → List (Event working)}
    (once : issued (pasts .sender) = [Site.idNumber 1] ∧ issued (pasts .worker) = [] ∧
      issued (pasts .remover) = []) : GivenOnce pasts := by
  have uuid : IsUuid (Site.idNumber 1) := by decide +kernel
  refine givenOnce_of_issued .sender uuid once.1 fun i other => ?_
  cases i with
  | sender => exact absurd rfl other
  | worker => exact once.2.1
  | remover => exact once.2.2

theorem processedDot_seen :
    processedDot.shared.catalogue.rows.map (fun r => (r.id, r.status)) =
      [(Site.idNumber 1, Status.completed.name)] ∧
    issued (processedDot.threads .sender).past = [Site.idNumber 1] ∧
      issued (processedDot.threads .worker).past = [] ∧
      issued (processedDot.threads .remover).past = [] := by
  decide +kernel

theorem processedDot_intact : ∃ r ∈ processedDot.shared.catalogue.rows,
    r.status = Status.completed.name ∧
      oneRoom.store.object? processedDot.shared.files r.uploadPath = some dot.source.content ∧
      ∃ key picture result encoded, r.processedPath = some key ∧
        oneRoom.stages.decode dot.source.content = .ok picture ∧
        oneRoom.stages.process dot.kind picture = .ok result ∧
        oneRoom.stages.encode result = .ok encoded ∧
        oneRoom.store.object? processedDot.shared.files key = some encoded := by
  obtain ⟨rows, once⟩ := processedDot_seen
  have given : GivenOnce fun i => (processedDot.threads i).past := givenOnce_of_party once
  obtain ⟨r, only, columns⟩ := List.map_eq_singleton_iff.mp rows
  obtain ⟨named, completed⟩ := Prod.mk.inj columns
  have mem : r ∈ processedDot.shared.catalogue.rows := only ▸ List.mem_singleton_self r
  have spared : Spared party (fun i => (processedDot.threads i).past) r.id := by
    intro i removes
    cases i with
    | sender => cases removes
    | worker => cases removes
    | remover =>
        have same : Site.idNumber 2 = r.id := Chore.remove.inj (Errand.chore.inj removes)
        exact absurd (same.trans named) (by decide +kernel)
  obtain ⟨i, admission, upload, errand, -, typed, original, result⟩ := objects_intact party oneRoom rfl
    processedDot (Ensemble.reaches_play Site.responds_answerBy _ _) given r mem spared
  obtain ⟨key, picture, shown, encoded, path, decoded, processed, written, there, -⟩ := result completed
  cases i <;> cases errand
  rw [typed] at processed
  exact ⟨r, mem, completed, original, key, picture, shown, encoded, path, decoded, processed, written,
    there⟩

end ImagePipeline.Workflow
