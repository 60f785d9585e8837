import ImagePipeline.Proofs.Workflow.Exclusion
import ImagePipeline.Proofs.Workflow.Naming
import ImagePipeline.Proofs.Workflow.Writing
/-!
# Where records come from

Every row, and every record that a service got hold of, was created by the upload that was given its
identifier, and still names that upload's file and its kind of processing (`Traced`). As no identifier
is given to two uploads (`GivenOnce`), no image is created while somebody works on it, so that only one
works on it at a time (`Accounted`). A call therefore reaches files of one image only
(`Accounted.exists_reach`): of the image that its service is about.
-/

namespace ImagePipeline.Workflow

open Asset (LocalStore FileTree Path objectKey)

variable {ι : Type} {errands : ι → Errand} {store : LocalStore}

/-- The identifiers that are given out have the usual form, and no two threads are given one. -/
structure GivenOnce (pasts : ι → List (Event working)) : Prop where
  uuid : ∀ i id, ⟨.newId, id⟩ ∈ pasts i → IsUuid id
  once : ∀ i j id, ⟨.newId, id⟩ ∈ pasts i → ⟨.newId, id⟩ ∈ pasts j → i = j

theorem GivenOnce.of_suffix {pasts pasts' : ι → List (Event working)} (given : GivenOnce pasts')
    (earlier : ∀ i, pasts i <:+ pasts' i) : GivenOnce pasts :=
  ⟨fun i id mem => given.uuid i id ((earlier i).subset mem),
    fun i j id left right => given.once i j id ((earlier i).subset left) ((earlier j).subset right)⟩

def uploadKey (store : LocalStore) (id : String) (upload : Upload) : String :=
  objectKey store.uploadSpace (uploadFile id upload.filename)

def resultKey (store : LocalStore) (record : Record) : String :=
  objectKey store.processedSpace (resultFile record)

/-! ## Uploads -/

theorem Admission.check_ok {admission : Admission} {filename given extension : String} {size : Int}
    {kind : ProcessingType} (checked : admission.check filename size given = .ok (kind, extension)) :
    kind.name = given ∧ extension = Admission.extensionOf filename := by
  unfold check at checked
  cases found : ProcessingType.ofName? given with
  | none => simp [found] at checked
  | some known =>
      have named : known.name = given := by simpa using List.find?_some found
      simp only [found] at checked
      split at checked
      · cases checked
      · split at checked
        · cases checked
          exact ⟨named, rfl⟩
        · cases checked

def Uncreated (past : List (Event working)) : Prop :=
  ∀ draft row, (⟨.create draft, .ok row⟩ : Event working) ∉ past

def Intake.Fits (store : LocalStore) (upload : Upload) (past : List (Event working)) : Intake → Prop
  | naming given kind extension =>
    given = upload ∧ kind.name = upload.kind ∧ extension = Admission.extensionOf upload.filename ∧
      Uncreated past
  | saving given kind extension id =>
    given = upload ∧ kind.name = upload.kind ∧ extension = Admission.extensionOf upload.filename ∧
      Uncreated past ∧ ⟨.newId, id⟩ ∈ past
  | dating given kind id key =>
    given = upload ∧ kind.name = upload.kind ∧ key = uploadKey store id upload ∧
      Uncreated past ∧ ⟨.newId, id⟩ ∈ past
  | creating draft kind id key =>
    draft.id = some id ∧ draft.uploadPath = some key ∧ draft.processingType = some upload.kind ∧
      draft.processedPath = none ∧ draft.status = some Status.pending.name ∧
      kind.name = upload.kind ∧ key = uploadKey store id upload ∧
      Uncreated past ∧ ⟨.newId, id⟩ ∈ past
  | discarding key => Uncreated past ∧ ∃ id, key = uploadKey store id upload ∧ ⟨.newId, id⟩ ∈ past
  | announcing .. => True
  | ended => True

def Errand.Does (store : LocalStore) (past : List (Event working)) : Errand → Activity → Prop
  | .chore work, a => work.Does a
  | .upload _ source, .intake p => p.Fits store source past
  | .upload .., _ => False

def Call.creates : Call → Bool
  | create _ => true
  | _ => false

theorem Uncreated.cons {past : List (Event working)} {event : Event working}
    (uncreated : Uncreated past) (other : event.request.creates = false) :
    Uncreated (event :: past) := by
  intro draft row mem
  rcases List.mem_cons.mp mem with same | mem
  · rw [← same] at other
    cases other
  · exact uncreated draft row mem

theorem Uncreated.refused {past : List (Event working)} {draft : Draft} {cause : Failure}
    (uncreated : Uncreated past) : Uncreated (⟨.create draft, .error cause⟩ :: past) := by
  intro other row mem
  rcases List.mem_cons.mp mem with same | mem
  · cases same
  · exact uncreated other row mem

theorem Intake.fits_first (admission : Admission) (upload : Upload) :
    (Intake.first admission upload).Fits store upload [] := by
  unfold Intake.first
  split
  · next kind extension checked =>
      obtain ⟨named, same⟩ := Admission.check_ok checked
      exact ⟨rfl, named, same, fun _ _ => List.not_mem_nil⟩
  · trivial

theorem Errand.does_first (errand : Errand) : errand.Does store [] errand.first := by
  cases errand with
  | chore work => exact work.does_first
  | upload admission upload => exact Intake.fits_first admission upload

variable {site site' : Site} {c : Call} {reply : working.Reply c} {files files' : FileTree}

theorem Intake.Fits.step {p p' : Intake} {upload : Upload} {past : List (Event working)}
    (fits : p.Fits store upload past) (step : p.Step c reply p')
    (change : FileStep store files c reply files') :
    p'.Fits store upload (⟨c, reply⟩ :: past) := by
  cases step with
  | named given kind extension id =>
      obtain ⟨same, named, ext, uncreated⟩ := fits
      exact ⟨same, named, ext, uncreated.cons rfl, List.mem_cons_self⟩
  | saved given kind extension id key =>
      obtain ⟨rfl, named, rfl, uncreated, issued⟩ := fits
      obtain ⟨keyed, -⟩ := change.savedUpload_ok
      exact ⟨rfl, named, keyed, uncreated.cons rfl, List.mem_cons_of_mem _ issued⟩
  | notSaved => trivial
  | dated given kind id key now =>
      obtain ⟨rfl, named, rfl, uncreated, issued⟩ := fits
      exact ⟨rfl, rfl, congrArg some named, rfl, rfl, named, rfl, uncreated.cons rfl,
        List.mem_cons_of_mem _ issued⟩
  | created => trivial
  | notCreated draft kind id key cause =>
      obtain ⟨-, -, -, -, -, -, rfl, uncreated, issued⟩ := fits
      exact ⟨uncreated.refused, id, rfl, List.mem_cons_of_mem _ issued⟩
  | discarded => trivial
  | announced => trivial

theorem Errand.Does.step {errand : Errand} {a a' : Activity} {past : List (Event working)}
    (does : errand.Does store past a) (step : a.Step c reply a')
    (honest : ∀ id record, (⟨c, reply⟩ : Event working) = ⟨.find id, .ok record⟩ → record.id = id)
    (change : FileStep store files c reply files') :
    errand.Does store (⟨c, reply⟩ :: past) a' := by
  cases errand with
  | chore work => exact Chore.Does.step does step honest
  | upload admission upload =>
      cases step with
      | intake step => exact Intake.Fits.step does step change
      | _ => exact does

/-! ## Paths -/

theorem fileOf_uploadKey {id : String} {upload : Upload} {path : Path} (uuid : IsUuid id)
    (located : store.locate (uploadKey store id upload) = .ok path) : FileOf id path := by
  obtain ⟨directory, rfl⟩ := Asset.exists_directory_of_locate (uploadFile_plain uuid _) located
  exact ⟨directory, _, rfl⟩

theorem fileOf_resultKey {record : Record} {kind : ProcessingType} {path : Path}
    (uuid : IsUuid record.id) (typed : record.processingType = kind.name)
    (located : store.locate (resultKey store record) = .ok path) : FileOf record.id path := by
  obtain ⟨directory, rfl⟩ := Asset.exists_directory_of_locate (resultFile_plain uuid typed) located
  exact ⟨directory, _, congrArg (directory ++ [·]) (resultFile_eq record)⟩

theorem uploadKey_apart {record : Record} {upload : Upload} {kind : ProcessingType} {path other : Path}
    (uuid : IsUuid record.id) (typed : record.processingType = kind.name)
    (located : store.locate (uploadKey store record.id upload) = .ok path)
    (located' : store.locate (resultKey store record) = .ok other) : path ≠ other := by
  intro same
  obtain ⟨directory, rfl⟩ := Asset.exists_directory_of_locate (uploadFile_plain uuid _) located
  obtain ⟨directory', rfl⟩ := Asset.exists_directory_of_locate (resultFile_plain uuid typed) located'
  have names := List.singleton_inj.mp (List.append_inj' same rfl).2
  exact uploadFile_ne_resultFile record upload.filename names

/-! ## Records -/

/-- The thread took in the upload, was given the identifier and created its record. -/
structure Origin (errands : ι → Errand) (pasts : ι → List (Event working)) (id : String) (i : ι)
    (upload : Upload) : Prop where
  errand : ∃ admission, errands i = .upload admission upload
  given : ⟨.newId, id⟩ ∈ pasts i
  created : ∃ draft row, ⟨.create draft, .ok row⟩ ∈ pasts i ∧ row.id = id

theorem Origin.mono {pasts pasts' : ι → List (Event working)} {id : String} {i : ι} {upload : Upload}
    (origin : Origin errands pasts id i upload) (earlier : ∀ i, pasts i <:+ pasts' i) :
    Origin errands pasts' id i upload := by
  obtain ⟨draft, row, mem, named⟩ := origin.created
  exact ⟨origin.errand, (earlier i).subset origin.given, draft, row, (earlier i).subset mem, named⟩

theorem Origin.unique {pasts : ι → List (Event working)} {id : String} {i j : ι}
    {upload other : Upload} (given : GivenOnce pasts) (left : Origin errands pasts id i upload)
    (right : Origin errands pasts id j other) : i = j ∧ upload = other := by
  obtain rfl := given.once i j id left.given right.given
  obtain ⟨_, errand⟩ := left.errand
  obtain ⟨_, errand'⟩ := right.errand
  rw [errand] at errand'
  cases errand'
  exact ⟨rfl, rfl⟩

structure OfUpload (store : LocalStore) (upload : Upload) (r : Record) : Prop where
  original : r.uploadPath = uploadKey store r.id upload
  typed : r.processingType = upload.kind
  known : ∃ kind : ProcessingType, kind.name = upload.kind
  result : r.processedPath = none ∨ r.processedPath = some (resultKey store r)

def Traced (store : LocalStore) (errands : ι → Errand) (pasts : ι → List (Event working))
    (r : Record) : Prop :=
  ∃ i upload, Origin errands pasts r.id i upload ∧ OfUpload store upload r

theorem Traced.mono {pasts pasts' : ι → List (Event working)} {r : Record}
    (traced : Traced store errands pasts r) (earlier : ∀ i, pasts i <:+ pasts' i) :
    Traced store errands pasts' r := by
  obtain ⟨i, upload, origin, ofUpload⟩ := traced
  exact ⟨i, upload, origin.mono earlier, ofUpload⟩

section Traced

variable {pasts : ι → List (Event working)} {r r' : Record} {path other : Path}

theorem Traced.uuid (traced : Traced store errands pasts r) (given : GivenOnce pasts) : IsUuid r.id := by
  obtain ⟨i, upload, origin, -⟩ := traced
  exact given.uuid i r.id origin.given

theorem Traced.typed (traced : Traced store errands pasts r) :
    ∃ kind : ProcessingType, r.processingType = kind.name := by
  obtain ⟨i, upload, -, ofUpload⟩ := traced
  obtain ⟨kind, known⟩ := ofUpload.known
  exact ⟨kind, ofUpload.typed.trans known.symm⟩

theorem Traced.fileOf_resultKey (traced : Traced store errands pasts r) (given : GivenOnce pasts)
    (located : store.locate (resultKey store r) = .ok path) : FileOf r.id path := by
  obtain ⟨kind, typed⟩ := traced.typed
  exact Workflow.fileOf_resultKey (traced.uuid given) typed located

theorem Traced.uploadKey_apart (traced : Traced store errands pasts r) (given : GivenOnce pasts)
    {upload : Upload} (located : store.locate (uploadKey store r.id upload) = .ok path)
    (located' : store.locate (resultKey store r) = .ok other) : path ≠ other := by
  obtain ⟨kind, typed⟩ := traced.typed
  exact Workflow.uploadKey_apart (traced.uuid given) typed located located'

theorem Traced.resultKey_eq (traced : Traced store errands pasts r)
    (traced' : Traced store errands pasts r') (given : GivenOnce pasts) (same : r.id = r'.id) :
    resultKey store r = resultKey store r' := by
  obtain ⟨i, upload, origin, ofUpload⟩ := traced
  obtain ⟨j, upload', origin', ofUpload'⟩ := traced'
  obtain ⟨-, rfl⟩ := origin.unique given (same ▸ origin')
  simp only [resultKey, resultFile, same, ofUpload.typed, ofUpload'.typed]

theorem Traced.fileOf (traced : Traced store errands pasts r) (given : GivenOnce pasts) {key : String}
    (names : some key = some r.uploadPath ∨ some key = r.processedPath)
    (located : store.locate key = .ok path) : FileOf r.id path := by
  have ⟨i, upload, origin, ofUpload⟩ := traced
  rcases names with same | same
  · cases same
    rw [ofUpload.original] at located
    exact fileOf_uploadKey (traced.uuid given) located
  · rcases ofUpload.result with none_ | own
    · rw [none_] at same
      cases same
    · rw [own] at same
      cases same
      exact traced.fileOf_resultKey given located

end Traced

/-- The later record is of the same upload, with the same result, none, or its own. -/
structure Succeeds (store : LocalStore) (r r' : Record) : Prop where
  id : r'.id = r.id
  original : r'.uploadPath = r.uploadPath
  typed : r'.processingType = r.processingType
  result : r'.processedPath = r.processedPath ∨ r'.processedPath = none ∨
    r'.processedPath = some (resultKey store r)

theorem Succeeds.refl (r : Record) : Succeeds store r r := ⟨rfl, rfl, rfl, .inl rfl⟩

theorem Traced.succeed {pasts : ι → List (Event working)} {r r' : Record}
    (traced : Traced store errands pasts r) (succeeds : Succeeds store r r') :
    Traced store errands pasts r' := by
  obtain ⟨i, upload, origin, ofUpload⟩ := traced
  have sameKey : resultKey store r' = resultKey store r := by
    simp only [resultKey, resultFile, succeeds.id, succeeds.typed]
  refine ⟨i, upload, succeeds.id ▸ origin, ?_, ?_, ofUpload.known, ?_⟩
  · rw [succeeds.original, succeeds.id, ofUpload.original]
  · rw [succeeds.typed, ofUpload.typed]
  · rw [sameKey]
    rcases succeeds.result with same | none_ | own
    · rw [same]
      exact ofUpload.result
    · exact .inl none_
    · exact .inr own

def Attempt.record? : Attempt → Option Record
  | claiming record => some record
  | p => p.held?

def Removal.record? : Removal → Option Record
  | clearing _ record => some record
  | _ => none

def Activity.record? : Activity → Option Record
  | attempt p => p.record?
  | removal p => p.record?
  | _ => none

def Activity.Honest (store : LocalStore) : Activity → Prop
  | .attempt (.completing record _ key) => key = resultKey store record
  | .removal (.clearing id record) => record.id = id
  | _ => True

theorem Attempt.record?_afterFailure {record r : Record} {what : String} {expected : Failure → Bool}
    {cause : Failure} (after : (afterFailure record what expected cause).record? = some r) :
    r = record := by
  unfold afterFailure at after
  split at after <;> cases after
  rfl

inductive Revision (a : Activity) (event : Event working) (r : Record) : Record → Prop where
  | kept : Revision a event r r
  | started (now : Instant) (clock : event = ⟨.now, now⟩) : Revision a event r (r.markProcessing now)
  | completed (result : Picture) (key : String) (now : Instant)
      (stage : a = .attempt (.completing r result key)) (clock : event = ⟨.now, now⟩) :
      Revision a event r (r.markCompleted key result.width result.height now)
  | failed (message : String) (now : Instant) (clock : event = ⟨.now, now⟩) :
      Revision a event r (r.markFailed message now)

theorem Attempt.Step.revision {p p' : Attempt} {r' : Record} (step : p.Step c reply p')
    (after : p'.record? = some r') :
    (∃ id, (⟨c, reply⟩ : Event working) = ⟨.find id, .ok r'⟩) ∨
      ∃ r, p.record? = some r ∧ Revision (.attempt p) ⟨c, reply⟩ r r' := by
  cases step with
  | found id record =>
      split at after <;> cases after
      exact .inl ⟨id, rfl⟩
  | refused => split at after <;> cases after
  | started record now =>
      cases after
      exact .inr ⟨record, rfl, .started now rfl⟩
  | finished record result key now =>
      cases after
      exact .inr ⟨record, rfl, .completed result key now rfl rfl⟩
  | stamped record message cause now =>
      cases after
      exact .inr ⟨record, rfl, .failed message now rfl⟩
  | notOpened | notRead | notDecoded | notProcessed | notEncoded | notSaved | notStored =>
      exact .inr ⟨_, rfl, record?_afterFailure after ▸ .kept⟩
  | notFound | stored | reported | notReported => cases after
  | claimed | opened | read | decoded | processed | encoded | saved =>
      cases after
      exact .inr ⟨_, rfl, .kept⟩

theorem Attempt.files_cases {p : Attempt} (allowed : p.call? = some c) : c.usesFiles = false ∨
    (∃ key, c = .openUpload key) ∨ ∃ record result content,
      p = .saving record result content ∧ c = .saveProcessed (resultFile record) content := by
  cases files : c.usesFiles with
  | false => exact .inl rfl
  | true =>
      cases c with
      | openUpload key => exact .inr (.inl ⟨key, rfl⟩)
      | saveProcessed name content =>
          cases p <;> cases allowed
          exact .inr (.inr ⟨_, _, _, rfl, rfl⟩)
      | saveUpload => cases p <;> cases allowed
      | deleteAsset => cases p <;> cases allowed
      | deleteAssets => cases p <;> cases allowed
      | _ => cases files

theorem Activity.Step.revision {a a' : Activity} {r' : Record} (step : a.Step c reply a')
    (after : a'.record? = some r') :
    (∃ id, (⟨c, reply⟩ : Event working) = ⟨.find id, .ok r'⟩) ∨
      ∃ r, a.record? = some r ∧ Revision a ⟨c, reply⟩ r r' := by
  cases step with
  | attempt step => exact step.revision after
  | removal step =>
      cases step with
      | found id record =>
          cases after
          exact .inl ⟨id, rfl⟩
      | notCleared id record cause => split at after <;> cases after
      | _ => cases after
  | _ => cases after

theorem Activity.Step.record {a a' : Activity} {r' : Record} (step : a.Step c reply a')
    (honest : a.Honest store) (after : a'.record? = some r') :
    (∃ id, (⟨c, reply⟩ : Event working) = ⟨.find id, .ok r'⟩) ∨
      ∃ r, a.record? = some r ∧ Succeeds store r r' := by
  refine (step.revision after).imp_right fun ⟨r, here, revision⟩ => ⟨r, here, ?_⟩
  cases revision with
  | kept => exact .refl _
  | started => exact ⟨rfl, rfl, rfl, .inl rfl⟩
  | failed => exact ⟨rfl, rfl, rfl, .inr (.inl rfl)⟩
  | completed result key now stage =>
      subst stage
      exact ⟨rfl, rfl, rfl, .inr (.inr (congrArg some honest))⟩

theorem Activity.Step.honest {a a' : Activity} (step : a.Step c reply a')
    (found : ∀ id record, (⟨c, reply⟩ : Event working) = ⟨.find id, .ok record⟩ → record.id = id)
    (change : FileStep store files c reply files') : a'.Honest store := by
  cases step with
  | attempt step =>
      cases step with
      | saved record result bytes key => exact change.savedResult_ok.1
      | found => split <;> trivial
      | refused => split <;> trivial
      | notOpened | notRead | notDecoded | notProcessed | notEncoded | notSaved | notStored =>
          unfold Attempt.afterFailure
          split <;> trivial
      | _ => trivial
  | removal step =>
      cases step with
      | found id record => exact found id record rfl
      | notCleared => split <;> trivial
      | _ => trivial
  | _ => trivial

theorem Activity.record?_of_update {a : Activity} {record : Record}
    (allowed : a.call? = some (.update record)) : a.record? = some record := by
  cases a with
  | peeking => cases allowed
  | attempt p => cases p <;> cases allowed <;> rfl
  | removal p => cases p <;> cases allowed
  | intake p => cases p <;> cases allowed

theorem Activity.record?_of_holding? {a : Activity} {id : String} (held : a.holding? = some id) :
    ∃ r, a.record? = some r ∧ r.id = id := by
  cases a with
  | attempt p =>
      obtain ⟨r, here, named⟩ := Option.map_eq_some_iff.mp held
      cases p <;> cases here <;> exact ⟨_, rfl, named⟩
  | _ => cases held

theorem Activity.saving_of_call {a : Activity} {name : String} {content : ByteArray}
    (allowed : a.call? = some (.saveProcessed name content)) :
    ∃ record result, a = .attempt (.saving record result content) ∧ name = resultFile record := by
  cases a with
  | peeking => cases allowed
  | attempt p =>
      cases p <;> cases allowed
      exact ⟨_, _, rfl, rfl⟩
  | removal p => cases p <;> cases allowed
  | intake p => cases p <;> cases allowed

theorem Activity.clearing_of_call {a : Activity} {upload processed : Option String}
    (allowed : a.call? = some (.deleteAssets upload processed)) :
    ∃ id record, a = .removal (.clearing id record) ∧ upload = some record.uploadPath ∧
      processed = record.processedPath := by
  cases a with
  | peeking => cases allowed
  | attempt p => cases p <;> cases allowed
  | removal p =>
      cases p <;> cases allowed
      exact ⟨_, _, rfl, rfl, rfl⟩
  | intake p => cases p <;> cases allowed

/-! ## Rows -/

inductive RowOrigin (table : Catalogue) (r : Record) : Event working → Prop where
  | kept {event : Event working} (mem : r ∈ table.rows) : RowOrigin table r event
  | created (draft : Draft) (now : Instant) (completed : (draft.withUsual now).complete = .ok r) :
      RowOrigin table r ⟨.create draft, .ok r⟩
  | written {reply : Except Failure Record} (record old : Record) (now : Instant)
      (named : old.id = record.id) (same : r = Catalogue.overwrite old record now) :
      RowOrigin table r ⟨.update record, reply⟩
  | claimed {event : Event working} (old : Record) (now : Instant) (mem : old ∈ table.rows)
      (same : r = old.claimedAt now) : RowOrigin table r event

theorem TableStep.rowOrigin {table table' : Catalogue} {r : Record}
    (step : TableStep table c reply table') (keyed : table.Keyed) (mem : r ∈ table'.rows) :
    RowOrigin table r ⟨c, reply⟩ := by
  obtain ⟨now, written⟩ := step.written keyed mem
  cases written with
  | kept mem => exact .kept mem
  | created draft completed => exact .created draft now completed
  | stored record old _ named same => exact .written record old now named same
  | claimed old mem _ same => exact .claimed old now mem same

theorem TableStep.completed {table table' : Catalogue} {draft : Draft} {row : Record}
    (step : TableStep table (.create draft) (.ok row) table') :
    ∃ now, (draft.withUsual now).complete = .ok row := by
  cases step with
  | created now change => exact ⟨now, (Catalogue.create_ok change).1⟩
  | apart silent => cases silent

theorem TableStep.mem_of_found {table table' : Catalogue} {id : String} {r : Record}
    (step : TableStep table (.find id) (.ok r) table') : r ∈ table.rows := by
  cases step with
  | found holds => exact Catalogue.mem_of_find? holds
  | apart silent => cases silent

/-! ## All threads -/

/-- Every record comes from an upload, and who works on an image works on it alone. -/
structure Accounted (store : LocalStore) (errands : ι → Errand) (v : View working ι Site Activity) :
    Prop where
  store_eq : v.shared.store = store
  exclusive : Exclusive v.shared.catalogue fun i => (v.stages i).holding?
  does : ∀ i, (errands i).Does store (v.pasts i) (v.stages i)
  rows : ∀ r ∈ v.shared.catalogue.rows, Traced store errands v.pasts r
  records : ∀ i r, (v.stages i).record? = some r → Traced store errands v.pasts r
  honest : ∀ i, (v.stages i).Honest store
  unstarted : ∀ i, v.pasts i = [] → v.stages i = (errands i).first

namespace Accounted

variable {v : View working ι Site Activity} {i j : ι} {a : Activity} {id : String}

theorem creating_of_create {draft : Draft} (inv : Accounted store errands v)
    (allowed : (v.stages i).call? = some (.create draft)) :
    ∃ admission upload kind id key, errands i = .upload admission upload ∧
      v.stages i = .intake (.creating draft kind id key) := by
  have does := inv.does i
  cases stage : v.stages i with
  | peeking => rw [stage] at allowed; cases allowed
  | attempt p => rw [stage] at allowed; cases p <;> cases allowed
  | removal p => rw [stage] at allowed; cases p <;> cases allowed
  | intake p =>
      rw [stage] at allowed does
      cases errand : errands i with
      | chore work =>
          rw [errand] at does
          exact does.elim
      | upload admission upload =>
          cases p <;> cases allowed
          exact ⟨admission, upload, _, _, _, rfl, rfl⟩

theorem intake_of_saveUpload {name : String} {source : Asset.Source} (inv : Accounted store errands v)
    (allowed : (v.stages i).call? = some (.saveUpload name source)) :
    ∃ admission upload id, errands i = .upload admission upload ∧ name = uploadFile id upload.filename ∧
      ⟨.newId, id⟩ ∈ v.pasts i ∧ Uncreated (v.pasts i) := by
  have does := inv.does i
  cases stage : v.stages i with
  | peeking => rw [stage] at allowed; cases allowed
  | attempt p => rw [stage] at allowed; cases p <;> cases allowed
  | removal p => rw [stage] at allowed; cases p <;> cases allowed
  | intake p =>
      rw [stage] at allowed does
      cases errand : errands i with
      | chore work =>
          rw [errand] at does
          exact does.elim
      | upload admission upload =>
          rw [errand] at does
          cases p <;> cases allowed
          obtain ⟨rfl, -, rfl, uncreated, issued⟩ := does
          exact ⟨admission, _, _, rfl, rfl, issued, uncreated⟩

theorem removes_of_clearing {record : Record} (inv : Accounted store errands v)
    (stage : v.stages i = .removal (.clearing id record)) :
    errands i = .chore (.remove id) ∧ record.id = id := by
  have does := inv.does i
  have honest := inv.honest i
  rw [stage] at does honest
  refine ⟨?_, honest⟩
  cases errand : errands i with
  | upload admission upload =>
      rw [errand] at does
      exact does.elim
  | chore work =>
      rw [errand] at does
      obtain rfl : work = .remove id := does id rfl
      rfl

theorem not_origin_of_create {draft : Draft} {row : Record} {table : Catalogue} {upload : Upload}
    (inv : Accounted store errands v) (given : GivenOnce v.pasts)
    (allowed : (v.stages i).call? = some (.create draft))
    (change : TableStep v.shared.catalogue (.create draft) (.ok row) table) :
    ¬ Origin errands v.pasts row.id j upload := by
  intro origin
  obtain ⟨now, completed⟩ := change.completed
  have named : draft.id = some row.id := (Draft.columns_of_complete completed).1
  obtain ⟨admission, source, kind, id, key, errand, stage⟩ := inv.creating_of_create allowed
  have fits := inv.does i
  rw [errand, stage] at fits
  obtain ⟨drafted, -, -, -, -, -, -, uncreated, issued⟩ := fits
  obtain rfl : id = row.id := Option.some.inj (drafted.symm.trans named)
  obtain rfl := given.once j i row.id origin.given issued
  obtain ⟨draft', row, created, -⟩ := origin.created
  exact uncreated draft' row created

theorem unheld_of_create {draft : Draft} {row : Record} {table : Catalogue}
    (inv : Accounted store errands v) (given : GivenOnce v.pasts)
    (allowed : (v.stages i).call? = some (.create draft))
    (change : TableStep v.shared.catalogue (.create draft) (.ok row) table) (j : ι) :
    (v.stages j).holding? ≠ some row.id := by
  intro held
  obtain ⟨r, here, same⟩ := Activity.record?_of_holding? held
  obtain ⟨k, other, origin, -⟩ := inv.records j r here
  exact inv.not_origin_of_create given allowed change (same ▸ origin)

theorem free_of_completed {r : Record} (inv : Accounted store errands v)
    (mem : r ∈ v.shared.catalogue.rows) (completed : r.status = Status.completed.name) (i : ι) :
    (v.stages i).holding? ≠ some r.id := by
  intro held
  have processing := inv.exclusive.marked i r.id r held (inv.exclusive.keyed.find?_of_mem mem)
  rw [completed] at processing
  exact absurd processing (by decide)

theorem drift (inv : Accounted store errands v) (drifted : Site.guarded.drifts v.shared site) :
    Accounted store errands { v with shared := site } := by
  obtain ⟨table, -, equipment⟩ := drifted
  exact ⟨(congrArg Prod.fst equipment).trans inv.store_eq, table ▸ inv.exclusive, inv.does,
    table ▸ inv.rows, inv.records, inv.honest, inv.unstarted⟩

theorem start (errands : ι → Errand) (site : Site) (fresh : site.catalogue.rows = []) :
    Accounted site.store errands ⟨site, fun _ => [], fun i => (errands i).first⟩ := by
  have first (errand : Errand) : errand.first.record? = none ∧ errand.first.holding? = none ∧
      errand.first.Honest site.store := by
    cases errand with
    | chore work => cases work <;> exact ⟨rfl, rfl, trivial⟩
    | upload admission upload => exact ⟨rfl, rfl, trivial⟩
  constructor
  case store_eq => rfl
  case exclusive =>
    refine ⟨?_, fun i j id held => ?_, fun i id row held => ?_⟩
    · simp [Catalogue.Keyed, fresh]
    · rw [(first (errands i)).2.1] at held
      cases held
    · rw [(first (errands i)).2.1] at held
      cases held
  case does => exact fun i => (errands i).does_first
  case rows =>
    intro r mem
    rw [fresh] at mem
    cases mem
  case records =>
    intro i r here
    rw [(first (errands i)).1] at here
    cases here
  case honest => exact fun i => (first (errands i)).2.2
  case unstarted => exact fun i _ => rfl

inductive Reach (v : View working ι Site Activity) (i : ι) (id : String) : Prop where
  | intake (issued : ⟨.newId, id⟩ ∈ v.pasts i) (uncreated : Uncreated (v.pasts i))
  | saving (record : Record) (result : Picture) (encoded : ByteArray)
      (stage : v.stages i = .attempt (.saving record result encoded)) (named : record.id = id)
  | clearing (record : Record) (stage : v.stages i = .removal (.clearing id record))

theorem exists_reach {path : Path} (inv : Accounted store errands v) (given : GivenOnce v.pasts)
    (allowed : (v.stages i).call? = some c) (reached : c.Reaches store path) :
    ∃ id, IsUuid id ∧ FileOf id path ∧ Reach v i id := by
  have does := inv.does i
  have records := inv.records i
  have honest := inv.honest i
  cases stage : v.stages i with
  | peeking => rw [stage] at allowed; cases allowed; exact reached.elim
  | attempt p =>
      rw [stage] at allowed records
      cases p <;> cases allowed
      case saving.refl record result encoded =>
        have traced := records record rfl
        exact ⟨record.id, traced.uuid given, traced.fileOf_resultKey given reached,
          .saving record result encoded stage rfl⟩
      all_goals exact reached.elim
  | removal p =>
      rw [stage] at allowed records honest
      cases p <;> cases allowed
      case clearing.refl id record =>
        obtain ⟨key, names, located⟩ := reached
        have traced := records record rfl
        have file := traced.fileOf given (by simpa using names) located
        obtain rfl : record.id = id := honest
        exact ⟨record.id, traced.uuid given, file, .clearing record stage⟩
      all_goals exact reached.elim
  | intake p =>
      rw [stage] at allowed does
      cases errand : errands i with
      | chore work =>
          rw [errand] at does
          exact does.elim
      | upload admission upload =>
          rw [errand] at does
          cases p <;> cases allowed
          case saving.refl source kind extension id =>
            obtain ⟨rfl, -, rfl, uncreated, issued⟩ := does
            have uuid := given.uuid i id issued
            have file : FileOf id path := fileOf_uploadKey uuid (show
              store.locate (uploadKey store id source) = .ok path from reached)
            exact ⟨id, uuid, file, .intake issued uncreated⟩
          case discarding.refl key =>
            obtain ⟨uncreated, id, rfl, issued⟩ := does
            obtain ⟨key, same, located⟩ := reached
            cases same
            have uuid := given.uuid i id issued
            exact ⟨id, uuid, fileOf_uploadKey uuid located, .intake issued uncreated⟩
          all_goals exact reached.elim

theorem reach_of_fileOf {path : Path} (inv : Accounted store errands v) (given : GivenOnce v.pasts)
    (allowed : (v.stages i).call? = some c) (reached : c.Reaches store path) (uuid : IsUuid id)
    (file : FileOf id path) : Reach v i id := by
  obtain ⟨other, uuid', mine, reach⟩ := inv.exists_reach given allowed reached
  exact mine.id_eq uuid' uuid file ▸ reach

theorem Reach.record {v : View working ι Site Activity} (inv : Accounted store errands v)
    (reach : Reach v i id) :
    (⟨.newId, id⟩ ∈ v.pasts i ∧ Uncreated (v.pasts i)) ∨
      ∃ j upload, Origin errands v.pasts id j upload := by
  cases reach with
  | intake issued uncreated => exact .inl ⟨issued, uncreated⟩
  | saving record result encoded stage named =>
      obtain ⟨j, upload, origin, -⟩ := inv.records i record (by rw [stage]; rfl)
      exact .inr ⟨j, upload, named ▸ origin⟩
  | clearing record stage =>
      obtain ⟨j, upload, origin, -⟩ := inv.records i record (by rw [stage]; rfl)
      have honest := inv.honest i
      rw [stage] at honest
      have named : record.id = id := honest
      exact .inr ⟨j, upload, named ▸ origin⟩

theorem Reach.of_origin {upload : Upload} (given : GivenOnce v.pasts)
    (origin : Origin errands v.pasts id j upload) (reach : Reach v i id) :
    (∃ record result encoded, v.stages i = .attempt (.saving record result encoded) ∧
        record.id = id) ∨
      ∃ record, v.stages i = .removal (.clearing id record) := by
  cases reach with
  | intake issued uncreated =>
      obtain rfl := given.once i j id issued origin.given
      obtain ⟨draft, row, created, -⟩ := origin.created
      exact absurd created (uncreated draft row)
  | saving record result encoded stage named => exact .inl ⟨record, result, encoded, stage, named⟩
  | clearing record stage => exact .inr ⟨record, stage⟩

theorem Reach.of_uncreated (inv : Accounted store errands v) (given : GivenOnce v.pasts)
    (issued : ⟨.newId, id⟩ ∈ v.pasts j) (uncreated : Uncreated (v.pasts j)) (reach : Reach v i id) :
    i = j := by
  rcases reach.record inv with ⟨issued', -⟩ | ⟨k, upload, origin⟩
  · exact given.once i j id issued' issued
  · obtain rfl := given.once k j id origin.given issued
    obtain ⟨draft, row, created, -⟩ := origin.created
    exact absurd created (uncreated draft row)

variable [DecidableEq ι]

theorem traced_of_created {draft : Draft} {row : Record} {now : Instant}
    (inv : Accounted store errands v) (allowed : (v.stages i).call? = some (.create draft))
    (completed : (draft.withUsual now).complete = .ok row) :
    Traced store errands (v.move i ⟨.create draft, .ok row⟩ site a).pasts row := by
  obtain ⟨admission, upload, kind, id, key, errand, stage⟩ := inv.creating_of_create allowed
  have fits := inv.does i
  rw [errand, stage] at fits
  obtain ⟨drafted, path, type, noResult, -, known, rfl, -, issued⟩ := fits
  obtain ⟨id_, path_, type_, -, result_, -⟩ := Draft.columns_of_complete completed
  simp only [Draft.withUsual, drafted, path, type, noResult, Option.some.injEq] at id_ path_ type_ result_
  subst id_
  refine ⟨i, upload, ⟨⟨admission, errand⟩, ?_, draft, row, ?_, rfl⟩, path_.symm, type_.symm,
    ⟨kind, known⟩, .inl result_⟩
  · rw [View.move_pasts_self]
    exact List.mem_cons_of_mem _ issued
  · rw [View.move_pasts_self]
    exact List.mem_cons_self

theorem call (inv : Accounted store errands v) (given : GivenOnce v.pasts)
    (allowed : (v.stages i).call? = some c) (change : SiteStep v.shared c reply site)
    (step : (v.stages i).Step c reply a) :
    Accounted store errands (v.move i ⟨c, reply⟩ site a) := by
  have earlier : ∀ j, v.pasts j <:+ (v.move i ⟨c, reply⟩ site a).pasts j := View.suffix_move_pasts
  have files := change.files
  rw [inv.store_eq] at files
  have same : ∀ r r', (v.stages i).record? = some r → Succeeds store r r' →
      Traced store errands (v.move i ⟨c, reply⟩ site a).pasts r' := fun r r' here succeeds =>
    ((inv.records i r here).mono earlier).succeed succeeds
  constructor
  case store_eq => exact (congrArg Prod.fst change.equipment).trans inv.store_eq
  case exclusive =>
    rw [View.map_move_stages]
    refine inv.exclusive.act_of_unheld rfl allowed step change.table fun draft row event => ?_
    cases event
    exact inv.unheld_of_create given allowed change.table
  case does =>
    apply View.forall_move fun j stage past => (errands j).Does store past stage
    · exact (inv.does i).step step change.table.honest files
    · exact fun j _ => inv.does j
  case rows =>
    intro r mem
    cases change.table.rowOrigin inv.exclusive.keyed mem with
    | kept mem => exact (inv.rows r mem).mono earlier
    | created draft now completed => exact inv.traced_of_created allowed completed
    | written record old now named written =>
        refine same record r (Activity.record?_of_update allowed) ?_
        subst written
        exact ⟨named, rfl, rfl, .inl rfl⟩
    | claimed old now among claimed =>
        subst claimed
        exact ((inv.rows old among).mono earlier).succeed ⟨rfl, rfl, rfl, .inl rfl⟩
  case records =>
    refine View.forall_move_stages (fun _ (stage : Activity) => ∀ r, stage.record? = some r →
      Traced store errands (v.move i ⟨c, reply⟩ site a).pasts r) ?_ ?_
    · intro r after
      rcases step.record (inv.honest i) after with ⟨id, event⟩ | ⟨old, here, succeeds⟩
      · cases event
        exact (inv.rows r change.table.mem_of_found).mono earlier
      · exact same old r here succeeds
    · exact fun j _ r here => (inv.records j r here).mono earlier
  case honest =>
    exact View.forall_move_stages (fun _ (stage : Activity) => stage.Honest store)
      (step.honest change.table.honest files) fun j _ => inv.honest j
  case unstarted =>
    intro j nothing
    by_cases atJ : j = i
    · subst atJ
      rw [View.move_pasts_self] at nothing
      cases nothing
    · rw [View.move_pasts_of_ne atJ] at nothing
      rw [View.move_stages_of_ne atJ]
      exact inv.unstarted j nothing

end Accounted

def issued (past : List (Event working)) : List String :=
  past.filterMap fun
    | ⟨.newId, id⟩ => some id
    | _ => none

theorem givenOnce_of_issued {pasts : ι → List (Event working)} (giver : ι) {id : String}
    (uuid : IsUuid id) (own : issued (pasts giver) = [id])
    (others : ∀ i, i ≠ giver → issued (pasts i) = []) : GivenOnce pasts := by
  have only (i : ι) (other : String) (mem : ⟨.newId, other⟩ ∈ pasts i) : i = giver ∧ other = id := by
    have here : other ∈ issued (pasts i) := List.mem_filterMap.mpr ⟨_, mem, rfl⟩
    by_cases known : i = giver
    · subst known
      rw [own] at here
      exact ⟨rfl, List.mem_singleton.mp here⟩
    · rw [others i known] at here
      cases here
  refine ⟨fun i other mem => (only i other mem).2 ▸ uuid, fun i j other left right => ?_⟩
  exact (only i other left).1.trans (only j other right).1.symm

def dot : Upload where
  filename := "dot.PNG"
  mimeType := ""
  size := 12
  source := .bytes ⟨#[0x50, 0x35, 0x20, 0x31, 0x20, 0x31, 0x20, 0x32, 0x35, 0x35, 0x0a, 0x00]⟩
  kind := ProcessingType.resize.name

end ImagePipeline.Workflow
