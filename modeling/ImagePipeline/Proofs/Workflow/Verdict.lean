import ImagePipeline.Proofs.Asset.Resaving
import ImagePipeline.Proofs.Workflow.Faultless
import ImagePipeline.Proofs.Workflow.Outcomes

namespace ImagePipeline.Workflow

open Asset (LocalStore FileTree)
open Routine

/-- How an attempt that is left alone ends. -/
inductive Verdict where
  | made (result : Picture) (key : String)
  | failed (reason : String) (cause : Failure)
  | stuck (cause : Failure)

namespace Verdict

def result : Verdict → Except Failure Unit
  | made .. => .ok ()
  | failed _ cause => .error cause
  | stuck cause => .error cause

def finish (now : Instant) : Verdict → Progress → Progress
  | made result key, p => p.complete (some key) (some result.width) (some result.height) now
  | failed reason _, p => p.fail (some reason) now
  | stuck _, p => p

end Verdict

def judge {α : Type} (what : String) (expected : Failure → Bool) (outcome : Except Failure α)
    (files : FileTree) (next : α → Verdict × FileTree) : Verdict × FileTree :=
  match outcome with
  | .ok value => next value
  | .error cause =>
    (if expected cause then .failed (what ++ ": " ++ cause.text) cause else .stuck cause, files)

def verdict (store : LocalStore) (stages : Stages) (r : Record) (files : FileTree) :
    Verdict × FileTree :=
  let fetched := ((store.fetch r.uploadPath).run files).1
  judge "failed to get original file" isReadTrouble fetched files fun bytes =>
  judge "failed to decode original image" Failure.isApp (stages.decode bytes) files fun picture =>
  judge "processing failed" (fun _ => true) (stages.process r.processingType picture) files fun result =>
  judge "encoding failed" Failure.isApp (stages.encode result) files fun encoded =>
  let saved := (store.save store.processedSpace (resultFile r) (.bytes encoded)).run files
  judge "failed to save processed file" Failure.isApp saved.1 saved.2 fun key => (.made result key, saved.2)

variable {α : Type} {store : LocalStore} {stages : Stages} {site after : Site}
  {record old r r' : Record} {id what : String} {expected : Failure → Bool} {files files' : FileTree}

structure SameVerdict (store : LocalStore) (v v' : Verdict × FileTree) : Prop where
  verdict : v'.1 = v.1
  object : ∀ result key, v.1 = .made result key → store.object? v'.2 key = store.object? v.2 key

theorem sameVerdict_judge {outcome outcome' : Except Failure α} {next next' : α → Verdict × FileTree}
    (outcomes : outcome' = outcome)
    (onward : ∀ value, outcome = .ok value → SameVerdict store (next value) (next' value)) :
    SameVerdict store (judge what expected outcome files next)
      (judge what expected outcome' files' next') := by
  subst outcomes
  cases outcome' with
  | ok value => exact onward value rfl
  | error cause =>
      refine ⟨rfl, fun result key made => ?_⟩
      simp only [judge] at made
      split at made <;> cases made

theorem sameVerdict_of_fetched (image : SameImage r r')
    (fetched : ((store.fetch r.uploadPath).run files').1 = ((store.fetch r.uploadPath).run files).1)
    (alike : store.SavesAlike store.processedSpace (resultFile r) files files') :
    SameVerdict store (verdict store stages r files) (verdict store stages r' files') := by
  unfold verdict
  rw [image.original, image.kind, image.resultFile_eq]
  refine sameVerdict_judge fetched fun bytes _ => ?_
  refine sameVerdict_judge rfl fun picture _ => ?_
  refine sameVerdict_judge rfl fun result _ => ?_
  refine sameVerdict_judge rfl fun encoded _ => ?_
  obtain ⟨result_, object⟩ := alike (.bytes encoded)
  refine sameVerdict_judge result_ fun key saved => ⟨rfl, fun other named made => ?_⟩
  obtain ⟨-, rfl⟩ := Verdict.made.inj made
  have named := LocalStore.save_saved store store.processedSpace (resultFile r) (.bytes encoded) files
  rw [saved] at named
  rw [named.object?_eq.1]
  dsimp only
  exact object

def Site.written (record : Record) (site : Site) : Site := { site with
  catalogue := site.catalogue.modify record.id fun old => Catalogue.overwrite old record site.clock }

def Verdict.conclude (record : Record) (site : Site) (v : Verdict × FileTree) :
    Except Failure Unit × Site :=
  let site := { site with files := v.2 }
  (v.1.result, match v.1 with
    | stuck _ => site
    | v => site.written (record.advance (v.finish site.clock)))

theorem run_now (site : Site) : (Routine.tell (call .now) : Service Instant).run.run Site.answer site =
    (.ok site.clock, site) := rfl

theorem run_update (record : Record) (faultless : site.faults = [])
    (found : site.catalogue.find? record.id = some old) :
    (Routine.ask (call (.update record)) : Service Record).run.run Site.answer site =
      (.ok (Catalogue.overwrite old record site.clock), site.written record) :=
  (site.answer_of_faultless faultless (.update record)).trans (Site.perform_update_found found)

theorem run_recordFailure (faultless : site.faults = [])
    (found : site.catalogue.find? record.id = some old) (message : String) :
    (recordFailure record message).run.run Site.answer site =
      (.ok (), site.written (record.markFailed message site.clock)) := by
  unfold recordFailure
  rw [run_bind_ok (run_now site)]
  refine run_recover_ok ?_
  rw [run_bind_ok (run_update (record.markFailed message site.clock) faultless found)]
  rfl

theorem run_stage {body : Service α} {rest : α → Service Unit} {outcome : Except Failure α}
    {next : α → Verdict × FileTree} (ran : body.run.run Site.answer site = (outcome, after))
    (faultless : after.faults = []) (found : after.catalogue.find? record.id = some old)
    (onward : ∀ value, outcome = .ok value → (rest value).run.run Site.answer after =
      Verdict.conclude record after (next value)) :
    (stage record what expected body >>= rest).run.run Site.answer site =
      Verdict.conclude record after (judge what expected outcome after.files next) := by
  cases outcome with
  | ok value =>
      have passed : (stage record what expected body).run.run Site.answer site = (.ok value, after) :=
        run_recover_ok ran
      rw [run_bind_ok passed]
      exact onward value rfl
  | error cause =>
      cases known : expected cause with
      | true =>
          have failed : (stage record what expected body).run.run Site.answer site =
              (.error cause, after.written
                (record.markFailed (what ++ ": " ++ cause.text) after.clock)) := by
            unfold stage
            rw [run_recover_error ran, if_pos known,
              run_bind_ok (run_recordFailure faultless found _)]
            rfl
          rw [run_bind_error failed, judge, if_pos known]
          rfl
      | false =>
          have stuck : (stage record what expected body).run.run Site.answer site =
              (.error cause, after) := by
            unfold stage
            rw [run_recover_error ran, known]
            rfl
          rw [run_bind_error stuck, judge, known]
          rfl

theorem run_readUpload (faultless : site.faults = []) : (readUpload record).run.run Site.answer site =
    (((site.store.fetch record.uploadPath).run site.files).1, site) := by
  have kept := LocalStore.fetch_files site.store record.uploadPath site.files
  rcases ran : (site.store.fetch record.uploadPath).run site.files with ⟨fetched, files⟩
  rw [ran] at kept
  have opened : (Routine.ask (call (.openUpload record.uploadPath)) : Service ByteArray).run.run
      Site.answer site = (fetched, site) := by
    refine (site.answer_of_faultless faultless (.openUpload record.uploadPath)).trans ?_
    rw [Site.perform_openUpload_eq, Site.onFiles_eq ran, show files = site.files from kept]
  unfold readUpload
  cases fetched with
  | error cause => exact run_bind_error opened
  | ok content =>
      rw [run_bind_ok opened]
      exact site.answer_of_faultless faultless (.readUpload content)

theorem run_processClaimed (record : Record) (faultless : site.faults = [])
    (found : site.catalogue.find? record.id = some old) :
    (processClaimed record).run.run Site.answer site =
      Verdict.conclude record site (verdict site.store site.stages record site.files) := by
  have decoding (bytes : ByteArray) : (Routine.ask (call (.decode bytes)) : Service Picture).run.run
      Site.answer site = (site.stages.decode bytes, site) := site.answer_of_faultless faultless (.decode bytes)
  have processing (picture : Picture) : (Routine.ask (call (.process record.processingType picture)) :
      Service Picture).run.run Site.answer site =
        (site.stages.process record.processingType picture, site) :=
    site.answer_of_faultless faultless (.process record.processingType picture)
  have encoding (result : Picture) : (Routine.ask (call (.encode result)) : Service ByteArray).run.run
      Site.answer site = (site.stages.encode result, site) :=
    site.answer_of_faultless faultless (.encode result)
  unfold processClaimed verdict
  refine run_stage (run_readUpload faultless) faultless found fun bytes _ => ?_
  refine run_stage (decoding bytes) faultless found fun picture _ => ?_
  refine run_stage (processing picture) faultless found fun result _ => ?_
  refine run_stage (encoding result) faultless found fun encoded _ => ?_
  have saving : (Routine.ask (call (.saveProcessed (resultFile record) encoded)) :
      Service String).run.run Site.answer site =
        site.onFiles (site.store.save site.store.processedSpace (resultFile record) (.bytes encoded)) :=
    (site.answer_of_faultless faultless _).trans (Site.perform_saveProcessed_eq _ _)
  rcases ran : (site.store.save site.store.processedSpace (resultFile record) (.bytes encoded)).run
    site.files with ⟨saved, files⟩
  rw [Site.onFiles_eq ran] at saving
  refine run_stage saving faultless found fun key _ => ?_
  have stored : (stage (record.markCompleted key result.width result.height site.clock)
      "failed to record completion" isTableTrouble
      (Routine.ask (call (.update (record.markCompleted key result.width result.height site.clock))))).run.run
        Site.answer { site with files } = _ :=
    run_recover_ok (run_update _ faultless found)
  rw [run_bind_ok (run_now _)]
  exact run_bind_ok stored

theorem run_claimed (faultless : site.faults = []) (keyed : site.catalogue.Keyed)
    (found : site.catalogue.find? id = some r) (ready : r.canBeProcessed = true) :
    (claimed id).run.run Site.answer site =
      (.ok true, { site with catalogue := site.catalogue.modify id fun r => r.claimedAt site.clock }) := by
  have claim : (Routine.ask (call (.claim id)) : Service Unit).run.run Site.answer site = _ :=
    (site.answer_of_faultless faultless (.claim id)).trans (Site.perform_claim_ready keyed found ready)
  exact run_recover_ok (run_bind_ok claim)

theorem run_processImage (site : Site) (faultless : site.faults = []) (keyed : site.catalogue.Keyed)
    (found : site.catalogue.find? id = some r) (ready : r.canBeProcessed = true) :
    let v := verdict site.store site.stages r site.files
    (site.run (processImage id)).1 = v.1.result ∧ (site.run (processImage id)).2.files = v.2 ∧
      (site.run (processImage id)).2.catalogue.find? id =
        some (r.advance fun p => v.1.finish site.clock (p.start site.clock)) := by
  intro v
  obtain rfl := Catalogue.id_of_find? found
  let begun : Site := { site with
    catalogue := site.catalogue.modify r.id fun r => r.claimedAt site.clock }
  have held : begun.catalogue.find? r.id = some (r.claimedAt site.clock) :=
    Catalogue.find?_modify_found found _ fun _ => rfl
  have ran : site.run (processImage r.id) = Verdict.conclude (r.markProcessing site.clock) begun v := by
    unfold Site.run processImage processRecord
    rw [run_bind_ok (run_lookUp_ok faultless found), if_pos ready,
      run_bind_ok (run_claimed faultless keyed found ready)]
    refine (run_bind_ok (run_now begun)).trans ?_
    exact run_processClaimed (r.markProcessing site.clock) faultless held
  have written (record : Record) (named : record.id = r.id) :
      (begun.written record).catalogue.find? r.id =
        some (Catalogue.overwrite (r.claimedAt site.clock) record site.clock) := by
    rw [Site.written, named]
    exact Catalogue.find?_modify_found held _ fun _ => rfl
  rw [ran]
  clear_value v
  obtain ⟨how, files⟩ := v
  cases how with
  | made result key => exact ⟨rfl, rfl, written (r.markProcessing _ |>.markCompleted ..) rfl⟩
  | failed reason cause => exact ⟨rfl, rfl, written (r.markProcessing _ |>.markFailed ..) rfl⟩
  | stuck cause => exact ⟨rfl, rfl, held⟩

end ImagePipeline.Workflow
