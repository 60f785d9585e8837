import ImagePipeline.Proofs.Asset.Directories
import ImagePipeline.Proofs.Workflow.Provenance

namespace ImagePipeline.Workflow

open Asset (LocalStore FileTree Path Source)

variable {ι : Type} {errands : ι → Errand} {store : LocalStore} {site site' : Site} {c : Call}
  {reply : working.Reply c} {files files' : FileTree} {r r' : Record} {key : String}

namespace Site

theorem onFiles_files {α : Type} (operation : Asset.OnFiles α) :
    (site.onFiles operation).2.files = (operation.run site.files).2 := rfl

theorem deleteAsset_hasDirectory (key : Option String) :
    (site.deleteAsset key).2.files.HasDirectory = site.files.HasDirectory := by
  rcases site.deleteAsset_eq key with ⟨cause, faults, deleted⟩ | ⟨faults, deleted⟩ <;> rw [deleted]
  exact site.store.delete_hasDirectory key site.files

theorem perform_hasDirectory (c : Call) :
    (perform c site).2.files.HasDirectory = site.files.HasDirectory := by
  cases elsewhere : c.usesFiles with
  | false => rw [perform_files c elsewhere]
  | true =>
      cases c with
      | saveUpload name source =>
          rw [perform_saveUpload_eq, onFiles_files]
          exact (site.store.save_touched site.store.uploadSpace name source site.files).hasDirectory
      | saveProcessed name content =>
          rw [perform_saveProcessed_eq, onFiles_files]
          exact (site.store.save_touched site.store.processedSpace name (.bytes content)
            site.files).hasDirectory
      | openUpload key =>
          rw [perform_openUpload_eq, onFiles_files, LocalStore.fetch_files]
      | deleteAsset key =>
          rw [perform_deleteAsset_eq, onFiles_files]
          exact site.store.delete_hasDirectory key site.files
      | deleteAssets upload processed =>
          exact @keeps_deleteEach _ (fun site => site.files.HasDirectory) _
            (fun key site => deleteAsset_hasDirectory key) [upload, processed] none site
      | _ => cases elsewhere

theorem Responds.hasDirectory (responds : site.Responds c reply site') :
    site'.files.HasDirectory = site.files.HasDirectory := by
  cases responds with
  | answered answered =>
      rcases answered with performed | ⟨failure, refused⟩
      · exact (congrArg (·.2.files.HasDirectory) performed).trans (perform_hasDirectory c)
      · have same : site'.files = site.files :=
          (congrArg (·.2.files) refused).trans (refuse_files failure c)
        rw [same]
  | named => rfl
  | tornUpload name source part cause begins ran =>
      have touched := site.store.save_touched site.store.uploadSpace name
        (.stream part (some cause)) site.files
      rw [ran] at touched
      exact touched.hasDirectory
  | tornResult name content part cause begins ran =>
      have touched := site.store.save_touched site.store.processedSpace name
        (.stream part (some cause)) site.files
      rw [ran] at touched
      exact touched.hasDirectory

end Site

inductive Saves (key : String) : Event working → Prop where
  | upload (name : String) (source : Source) : Saves key ⟨.saveUpload name source, .ok key⟩
  | result (name : String) (content : ByteArray) : Saves key ⟨.saveProcessed name content, .ok key⟩

theorem housed_of_saved {space name : String} {source : Source} {result : Except Failure String}
    (ran : (store.save space name source).run files = (result, files')) (saved : result = .ok key) :
    store.Housed files' key := by
  subst saved
  have done : ((store.save space name source).run files).1 = .ok key := by rw [ran]
  have housed := LocalStore.save_housed done
  have named := LocalStore.save_saved store space name source files
  rw [ran] at housed named
  exact named.object?_eq.1 ▸ housed

theorem Site.Responds.housed (responds : site.Responds c reply site') (saves : Saves key ⟨c, reply⟩) :
    site.store.Housed site'.files key := by
  cases saves with
  | upload name source =>
      cases responds with
      | tornUpload _ _ part cause begins ran => exact housed_of_saved ran rfl
      | answered answered =>
          rcases answered with performed | ⟨failure, refused⟩
          · rw [perform_saveUpload_eq] at performed
            obtain ⟨result, files⟩ := onFiles_split performed
            exact housed_of_saved (Prod.ext result.symm files.symm) rfl
          · cases refused
  | result name content =>
      cases responds with
      | tornResult _ _ part cause begins ran => exact housed_of_saved ran rfl
      | answered answered =>
          rcases answered with performed | ⟨failure, refused⟩
          · rw [perform_saveProcessed_eq] at performed
            obtain ⟨result, files⟩ := onFiles_split performed
            exact housed_of_saved (Prod.ext result.symm files.symm) rfl
          · cases refused

structure Sheltered (store : LocalStore) (files : FileTree) (r : Record) : Prop where
  original : store.Housed files r.uploadPath
  result : ∀ key, r.processedPath = some key → store.Housed files key

theorem Sheltered.congr (sheltered : Sheltered store files r)
    (same : files'.HasDirectory = files.HasDirectory) : Sheltered store files' r :=
  ⟨sheltered.original.congr same, fun key named => (sheltered.result key named).congr same⟩

def Activity.saved? : Activity → Option String
  | attempt (.completing _ _ key) => some key
  | intake (.dating _ _ _ key) => some key
  | intake (.creating _ _ _ key) => some key
  | _ => none

theorem Activity.Step.saved {a a' : Activity} (step : a.Step c reply a')
    (after : a'.saved? = some key) : a.saved? = some key ∨ Saves key ⟨c, reply⟩ := by
  cases step with
  | peeked => cases after
  | notPeeked => cases after
  | attempt step =>
      cases step with
      | saved record result bytes other =>
          cases after
          exact .inr (.result _ bytes)
      | found => split at after <;> cases after
      | refused => split at after <;> cases after
      | notOpened | notRead | notDecoded | notProcessed | notEncoded | notSaved | notStored =>
          unfold Attempt.afterFailure at after
          split at after <;> cases after
      | _ => cases after
  | removal => cases after
  | intake step =>
      cases step with
      | saved upload kind extension id other =>
          cases after
          exact .inr (.upload _ upload.source)
      | dated =>
          cases after
          exact .inl rfl
      | _ => cases after

theorem Revision.sheltered {a : Activity} {event : Event working} (revision : Revision a event r r')
    (sheltered : Sheltered store files r) (saved : ∀ key, a.saved? = some key → store.Housed files key) :
    Sheltered store files r' := by
  cases revision with
  | kept => exact sheltered
  | started => exact ⟨sheltered.original, sheltered.result⟩
  | failed => exact ⟨sheltered.original, nofun⟩
  | completed result key now stage =>
      subst stage
      refine ⟨sheltered.original, fun other named => ?_⟩
      cases named
      exact saved key rfl

structure Housing (store : LocalStore) (v : View working ι Site Activity) : Prop where
  rows : ∀ r ∈ v.shared.catalogue.rows, Sheltered store v.shared.files r
  records : ∀ i r, (v.stages i).record? = some r → Sheltered store v.shared.files r
  saved : ∀ i key, (v.stages i).saved? = some key → store.Housed v.shared.files key

namespace Housing

variable {v : View working ι Site Activity} {i : ι} {a : Activity}

theorem start (errands : ι → Errand) (site : Site) (fresh : site.catalogue.rows = []) :
    Housing store ⟨site, fun _ => [], fun i => (errands i).first⟩ := by
  have first (errand : Errand) : errand.first.record? = none ∧ errand.first.saved? = none := by
    cases errand with
    | chore work => cases work <;> exact ⟨rfl, rfl⟩
    | upload admission source =>
        refine ⟨rfl, ?_⟩
        change (Activity.intake (.first admission source)).saved? = none
        unfold Intake.first
        split <;> rfl
  refine ⟨?_, fun i r here => ?_, fun i key here => ?_⟩
  · simp [fresh]
  · rw [(first (errands i)).1] at here
    cases here
  · rw [(first (errands i)).2] at here
    cases here

theorem drift (inv : Housing store v) (drifted : Site.guarded.drifts v.shared site) :
    Housing store { v with shared := site } := by
  obtain ⟨table, files, -⟩ := drifted
  refine ⟨?_, ?_, ?_⟩
  · rw [table, files]
    exact inv.rows
  · rw [files]
    exact inv.records
  · rw [files]
    exact inv.saved

theorem row_of_call (inv : Housing store v) (accounted : Accounted store errands v)
    (allowed : (v.stages i).call? = some c) (responds : v.shared.Responds c reply site)
    (mem : r ∈ site.catalogue.rows) : Sheltered store v.shared.files r := by
  obtain ⟨now, written⟩ := responds.step.table.written accounted.exclusive.keyed mem
  cases written with
  | kept mem => exact inv.rows r mem
  | claimed old among ready same =>
      subst same
      exact ⟨(inv.rows old among).original, (inv.rows old among).result⟩
  | stored record old among named same =>
      subst same
      have sheltered := inv.records i record (Activity.record?_of_update allowed)
      exact ⟨sheltered.original, sheltered.result⟩
  | created draft completed =>
      obtain ⟨admission, upload, kind, id, key, errand, stage⟩ := accounted.creating_of_create allowed
      have fits := accounted.does i
      rw [errand, stage] at fits
      obtain ⟨-, path, -, noResult, -, -, rfl, -⟩ := fits
      have housed := inv.saved i (uploadKey store id upload) (by rw [stage]; rfl)
      obtain ⟨-, path_, -, -, result_, -⟩ := Draft.columns_of_complete completed
      simp only [Draft.withUsual, path, noResult, Option.some.injEq] at path_ result_
      refine ⟨path_ ▸ housed, fun key named => ?_⟩
      rw [result_] at named
      cases named

variable [DecidableEq ι]

theorem call (inv : Housing store v) (accounted : Accounted store errands v)
    (allowed : (v.stages i).call? = some c) (responds : v.shared.Responds c reply site)
    (step : (v.stages i).Step c reply a) : Housing store (v.move i ⟨c, reply⟩ site a) := by
  have same := responds.hasDirectory
  constructor
  case rows => exact fun r mem => (inv.row_of_call accounted allowed responds mem).congr same
  case records =>
    refine View.forall_move_stages (fun _ (stage : Activity) => ∀ r, stage.record? = some r →
      Sheltered store site.files r) ?_ fun j _ r here => (inv.records j r here).congr same
    intro r after
    rcases step.revision after with ⟨id, event⟩ | ⟨old, here, revision⟩
    · cases event
      exact (inv.rows r responds.step.table.mem_of_found).congr same
    · exact (revision.sheltered (inv.records i old here) (inv.saved i)).congr same
  case saved =>
    refine View.forall_move_stages (fun _ (stage : Activity) => ∀ key, stage.saved? = some key →
      store.Housed site.files key) ?_ fun j _ key here => (inv.saved j key here).congr same
    intro key after
    rcases step.saved after with before | saves
    · exact (inv.saved i key before).congr same
    · exact accounted.store_eq ▸ responds.housed saves

theorem preserves : Preserves Site.guarded acting
    fun v => GivenOnce v.pasts → Accounted store errands v ∧ Housing store v where
  call v i c reply site inv allowed answered := by
    obtain ⟨a, step⟩ := (v.stages i).step_total allowed reply
    refine ⟨a, step, fun given => ?_⟩
    have before := given.of_suffix View.suffix_move_pasts
    obtain ⟨accounted, housing⟩ := inv before
    exact ⟨accounted.call before allowed answered.step step,
      housing.call accounted allowed answered step⟩
  drift v site inv drifted given := (inv given).imp (·.drift drifted) (·.drift drifted)

theorem of_reaches (errands : ι → Errand) (site : Site) (empty : site.catalogue.rows = [])
    {e : Ensemble working ι Site (Except Failure Unit)}
    (reached : Ensemble.Reaches Site.guarded (.start site fun i => (errands i).service.run) e)
    (given : GivenOnce fun i => (e.threads i).past) : ∃ stages,
      Accounted site.store errands ⟨e.shared, fun i => (e.threads i).past, stages⟩ ∧
        Housing site.store ⟨e.shared, fun i => (e.threads i).past, stages⟩ := by
  have started : Ensemble.Kept acting
      (fun v => GivenOnce v.pasts → Accounted site.store errands v ∧ Housing site.store v)
      (.start site fun i => (errands i).service.run) :=
    Ensemble.kept_start (fun i => (errands i).first)
      (fun _ => ⟨.start errands site empty, .start errands site empty⟩) fun i => (errands i).follows
  obtain ⟨stages, inv, -⟩ := Ensemble.kept_of_reaches preserves started reached
  exact ⟨stages, inv given⟩

end Housing

end ImagePipeline.Workflow
