import ImagePipeline.Proofs.Workflow.Consistency
import ImagePipeline.Proofs.Workflow.Locality
import ImagePipeline.Proofs.Workflow.Recording
import ImagePipeline.Proofs.Workflow.Verdict

namespace ImagePipeline

def Record.timeless (r : Record) : Record := { r with updatedAt := default, processedAt := none }

namespace Workflow

open Asset (LocalStore FileTree exists_directory_of_locate)
open Script (Ran)

variable {r a b record : Record} {id : String} {first site site' : Site} {p p' : Attempt} {c : Call}
  {reply : working.Reply c} {events : List (Event working)} {result : Except Failure Unit}

def SameUpload (a b : Record) : Prop := ∃ progress, b = { a with toProgress := progress }

namespace SameUpload

theorem refl (a : Record) : SameUpload a a := ⟨a.toProgress, rfl⟩

theorem trans (first : SameUpload a b) (second : SameUpload b r) : SameUpload a r := by
  obtain ⟨_, rfl⟩ := first
  obtain ⟨progress, rfl⟩ := second
  exact ⟨progress, rfl⟩

theorem sameImage (same : SameUpload a b) : SameImage a b := by
  obtain ⟨_, rfl⟩ := same
  exact ⟨rfl, rfl, rfl⟩

theorem overwrite (row : SameUpload r a) (record : SameUpload r b) (now : Instant) :
    SameUpload r (Catalogue.overwrite a b now) := by
  obtain ⟨_, rfl⟩ := row
  obtain ⟨_, rfl⟩ := record
  exact ⟨_, rfl⟩

theorem of_revision {activity : Activity} {event : Event working} (same : SameUpload r a)
    (revision : Revision activity event a b) : SameUpload r b := by
  cases revision with
  | kept => exact same
  | _ => exact same.trans ⟨_, rfl⟩

end SameUpload

/-- The image of the record can be processed, and its result will not take the place of its upload. -/
structure Site.Processable (site : Site) (r : Record) : Prop where
  keyed : site.catalogue.Keyed
  found : site.catalogue.find? r.id = some r
  ready : r.canBeProcessed = true
  consistent : r.toProgress.Consistent
  housed : site.store.Housed site.files r.uploadPath
  apart : ∀ path, site.store.locate r.uploadPath = .ok path →
    site.store.locate (resultKey site.store r) ≠ .ok path

structure Site.Undisturbed (first : Site) (r : Record) (site : Site) : Prop where
  keyed : site.catalogue.Keyed
  row : ∃ row, site.catalogue.find? r.id = some row ∧ SameUpload r row ∧ row.toProgress.Consistent
  equipment : site.equipment = first.equipment
  files : first.store.Resaved first.store.processedSpace (resultFile r) first.files site.files

structure Attempt.On (r : Record) (p : Attempt) : Prop where
  looks : ∀ other, p = looking other → other = r.id
  holds : ∀ record, p.record? = some record → SameUpload r record
  fit : (Activity.attempt p).Fit

theorem Attempt.On.start (r : Record) : (looking r.id).On r where
  looks _ same := (Attempt.looking.inj same).symm
  holds _ here := by cases here
  fit := trivial

theorem Site.Responds.files_cases (responds : site.Responds c reply site')
    (allowed : p.call? = some c) : site'.files = site.files ∨
      ∃ record result encoded source, p = .saving record result encoded ∧
        site'.files =
          ((site.store.save site.store.processedSpace (resultFile record) source).run site.files).2 := by
  rcases p.files_cases allowed with elsewhere | ⟨key, rfl⟩ | ⟨record, result, content, rfl, rfl⟩
  · exact .inl (responds.step.files.files_eq elsewhere)
  · have opened := responds.step.files
    generalize site'.files = files at opened ⊢
    cases opened <;> exact .inl rfl
  · cases responds with
    | answered answered =>
        rcases answered with performed | ⟨failure, refused⟩
        · rw [perform_saveProcessed_eq] at performed
          obtain ⟨-, files⟩ := onFiles_split performed
          exact .inr ⟨record, result, content, .bytes content, rfl, files⟩
        · exact .inl (congrArg (·.2.files) refused)
    | tornResult _ _ part cause begins ran =>
        exact .inr ⟨record, result, content, .stream part (some cause), rfl,
          congrArg Prod.snd ran.symm⟩

namespace Site.Undisturbed

theorem start (ready : site.Processable r) : site.Undisturbed r site where
  keyed := ready.keyed
  row := ⟨r, ready.found, .refl r, ready.consistent⟩
  equipment := rfl
  files := .refl

theorem drift (kept : first.Undisturbed r site) (drifted : Site.guarded.drifts site site') :
    first.Undisturbed r site' where
  keyed := drifted.1 ▸ kept.keyed
  row := drifted.1 ▸ kept.row
  equipment := drifted.2.2.trans kept.equipment
  files := drifted.2.1 ▸ kept.files

theorem store_eq (kept : first.Undisturbed r site) : site.store = first.store :=
  congrArg Prod.fst kept.equipment

theorem row_call (kept : first.Undisturbed r site) (on : p.On r) (allowed : p.call? = some c)
    (table : TableStep site.catalogue c reply site'.catalogue) :
    ∃ row, site'.catalogue.find? r.id = some row ∧ SameUpload r row ∧ row.toProgress.Consistent := by
  obtain ⟨row, found, same, consistent⟩ := kept.row
  generalize site'.catalogue = after at table ⊢
  cases table with
  | found => exact ⟨row, found, same, consistent⟩
  | apart => exact ⟨row, found, same, consistent⟩
  | created => cases p <;> cases allowed
  | deleted => cases p <;> cases allowed
  | @stored record _ _ now change =>
      have mine := on.holds record (by cases p <;> cases allowed <;> rfl)
      have fits := on.fit.update allowed
      have named : record.id = r.id := mine.sameImage.id
      obtain ⟨old, there, rfl, -⟩ := Catalogue.store_ok change
      rw [named, found] at there
      cases there
      exact ⟨_, named ▸ Catalogue.find?_store_self change, same.overwrite mine now, fits⟩
  | @claimed other _ now change =>
      have named : other = r.id := by
        cases p <;> cases allowed
        exact (on.holds _ rfl).sameImage.id
      subst named
      obtain ⟨old, there, ready, claimed⟩ := Catalogue.find?_claim_self kept.keyed change
      rw [found] at there
      cases there
      exact ⟨_, claimed, same.trans ⟨_, rfl⟩, Record.consistent_claimedAt consistent ready now⟩

theorem call (kept : first.Undisturbed r site) (on : p.On r) (allowed : p.call? = some c)
    (responds : site.Responds c reply site') : first.Undisturbed r site' where
  keyed := responds.step.table.keyed kept.keyed
  row := kept.row_call on allowed responds.step.table
  equipment := responds.step.equipment.trans kept.equipment
  files := by
    rcases responds.files_cases allowed with same | ⟨record, result, encoded, source, rfl, saved⟩
    · rw [same]
      exact kept.files
    · rw [kept.store_eq, (on.holds record rfl).sameImage.resultFile_eq] at saved
      exact kept.files.tail ⟨source, saved⟩

end Site.Undisturbed

theorem Attempt.On.step (on : p.On r) (kept : first.Undisturbed r site) (step : p.Step c reply p')
    (table : TableStep site.catalogue c reply site'.catalogue) : p'.On r where
  looks other same := (step.ne_looking other same).elim
  holds record after := by
    rcases step.revision after with ⟨other, event⟩ | ⟨old, here, revision⟩
    · cases event
      have looked := step.looking_of_found
      obtain ⟨row, found, same, -⟩ := kept.row
      have there := table.found_of_ok rfl
      rw [on.looks other looked, found] at there
      cases there
      exact same
    · exact (on.holds old here).of_revision revision
  fit := Activity.Step.fit (.attempt step) on.fit

theorem Site.Undisturbed.ran (kept : first.Undisturbed r site)
    (ran : Ran Site.guarded.meanwhile (processImage r.id).run site events result site') :
    first.Undisturbed r site' := by
  obtain ⟨_, -, kept', -⟩ := Attempt.ran (fun site _ p => first.Undisturbed r site ∧ p.On r)
    (fun inv allowed answered step => by
      obtain ⟨kept, on⟩ := inv
      obtain ⟨between, drifted, responds⟩ := answered
      have kept' := kept.drift drifted
      exact ⟨kept'.call on allowed responds, on.step kept' step responds.step.table⟩)
    ⟨kept, .start r⟩ ran
  exact kept'

def Site.unfailing (site : Site) : Site := { site with faults := [] }

theorem run_unfailing (keyed : site.catalogue.Keyed) (found : site.catalogue.find? id = some r)
    (ready : r.canBeProcessed = true) :
    let v := verdict site.store site.stages r site.files
    (site.unfailing.run (processImage id)).1 = v.1.result ∧
      (site.unfailing.run (processImage id)).2.files = v.2 ∧
      (site.unfailing.run (processImage id)).2.catalogue.find? id =
        some (r.advance fun p => v.1.finish site.clock (p.start site.clock)) :=
  run_processImage site.unfailing rfl keyed found ready

def Retried (id : String) (site site' : Site) : Prop :=
  (∃ events result, Ran Site.guarded.meanwhile (processImage id).run site events result site') ∧
    ∃ row, site'.catalogue.find? id = some row ∧ row.canBeProcessed = true

theorem Site.Undisturbed.retried (kept : first.Undisturbed r site)
    (attempts : Relation.ReflTransGen (Retried r.id) site site') : first.Undisturbed r site' := by
  induction attempts with
  | refl => exact kept
  | tail _ attempt ih =>
      obtain ⟨⟨events, result, ran⟩, -⟩ := attempt
      exact ih.ran ran

theorem timeless_finish (same : SameUpload a b) (consistent : a.toProgress.Consistent)
    (ready : a.canBeProcessed = true) (consistent' : b.toProgress.Consistent)
    (ready' : b.canBeProcessed = true) (v : Verdict) (now now' : Instant) :
    (b.advance fun p => v.finish now' (p.start now')).timeless =
      (a.advance fun p => v.finish now (p.start now)).timeless := by
  obtain ⟨path, width, height⟩ := consistent.noResult ready
  obtain ⟨path', width', height'⟩ := consistent'.noResult ready'
  obtain ⟨progress, rfl⟩ := same
  cases v with
  | made => rfl
  | failed => rfl
  | stuck cause =>
      -- the row is left as it was claimed, with the columns that it had before
      simp only at path' width' height'
      simp only [Record.timeless, Record.advance, Verdict.finish, Progress.start, path, width, height,
        path', width', height']

theorem made_of_processedPath {v : Verdict} {now : Instant} {key : String}
    (consistent : r.toProgress.Consistent) (ready : r.canBeProcessed = true)
    (named : (r.advance fun p => v.finish now (p.start now)).processedPath = some key) :
    ∃ result, v = .made result key := by
  cases v with
  | made result other =>
      cases named
      exact ⟨result, rfl⟩
  | failed => cases named
  | stuck cause =>
      have none_ : r.processedPath = none := (consistent.noResult ready).1
      exact absurd (none_.symm.trans named) nofun

/-- The two ways of ending are the same but for times: what is returned, the row of the image, and the
object that the row names. -/
def SameEnd (store : LocalStore) (id : String) (out out' : Except Failure Unit × Site) : Prop :=
  out'.1 = out.1 ∧ ∃ row row', out.2.catalogue.find? id = some row ∧
    out'.2.catalogue.find? id = some row' ∧ row'.timeless = row.timeless ∧
      ∀ key, row.processedPath = some key →
        store.object? out'.2.files key = store.object? out.2.files key

theorem Site.Undisturbed.sameVerdict (kept : first.Undisturbed r site) (ready : first.Processable r)
    (same : SameUpload r a) : SameVerdict first.store
      (verdict first.store first.stages r first.files)
      (verdict site.store site.stages a site.files) := by
  have equipped : site.stages = first.stages := congrArg (·.2.2) kept.equipment
  rw [kept.store_eq, equipped]
  refine sameVerdict_of_fetched same.sameImage ?_ kept.files.savesAlike
  refine first.store.fetch_congr r.uploadPath fun path located => ?_
  obtain ⟨directory, name, placed, here⟩ := ready.housed
  obtain rfl : directory ++ [name] = path := Except.ok.inj (placed.symm.trans located)
  exact kept.files.walk_inside here fun path leads same => ready.apart _ located (same ▸ leads)

theorem sameEnd_of_retried (ready : site.Processable r)
    (attempts : Relation.ReflTransGen (Retried r.id) site site') :
    SameEnd site.store r.id (site.unfailing.run (processImage r.id))
      (site'.unfailing.run (processImage r.id)) := by
  have kept := (Site.Undisturbed.start ready).retried attempts
  have again : ∃ row, site'.catalogue.find? r.id = some row ∧ row.canBeProcessed = true := by
    cases attempts with
    | refl => exact ⟨r, ready.found, ready.ready⟩
    | tail _ attempt => exact attempt.2
  obtain ⟨row, found, ready'⟩ := again
  obtain ⟨row', there, same, consistent⟩ := kept.row
  obtain rfl : row' = row := Option.some.inj (there.symm.trans found)
  have verdicts := kept.sameVerdict ready same
  obtain ⟨result, files, written⟩ := run_unfailing ready.keyed ready.found ready.ready
  obtain ⟨result', files', written'⟩ := run_unfailing kept.keyed found ready'
  refine ⟨?_, _, _, written, written', ?_, ?_⟩
  · rw [result, result', verdicts.verdict]
  · rw [verdicts.verdict]
    exact timeless_finish same ready.consistent ready.ready consistent ready' _ _ _
  · intro key named
    obtain ⟨result, made⟩ := made_of_processedPath ready.consistent ready.ready named
    rw [files, files']
    exact verdicts.object result key made

theorem Lodged.apart {store : LocalStore} {files : FileTree} {path : Asset.Path}
    (lodged : Lodged store files r) (located : store.locate r.uploadPath = .ok path) :
    store.locate (resultKey store r) ≠ .ok path := by
  intro leads
  obtain ⟨filename, named⟩ := lodged.named
  rw [named] at located
  obtain ⟨directory, rfl⟩ := exists_directory_of_locate lodged.plain leads
  obtain ⟨directory', same⟩ :=
    exists_directory_of_locate (uploadFile_plain lodged.uuid filename) located
  have names := List.singleton_inj.mp (List.append_inj' same rfl).2
  exact uploadFile_ne_resultFile r filename names.symm

theorem preserves_sound_guarded {ι : Type} [DecidableEq ι] :
    Preserves Site.guarded acting (Sound (ι := ι)) where
  call v i c reply site inv allowed answered := by
    obtain ⟨a, step⟩ := (v.stages i).step_total allowed reply
    have responds : v.shared.Responds c reply site := answered
    exact ⟨a, step, inv.call allowed responds.step.table step⟩
  drift v site inv drifted := inv.drift drifted.1

theorem processable_of_reached {ι : Type} [DecidableEq ι] (errands : ι → Errand) (site : Site)
    (empty : site.catalogue.rows = []) {e : Ensemble working ι Site (Except Failure Unit)}
    (reached : Ensemble.Reaches Site.guarded (.start site fun i => (errands i).service.run) e)
    (given : GivenOnce fun i => (e.threads i).past) (found : e.shared.catalogue.find? r.id = some r)
    (ready : r.canBeProcessed = true) : e.shared.Processable r := by
  obtain ⟨_, accounted, housing⟩ := Housing.of_reaches errands site empty reached given
  have sound : e.Kept acting Sound := by
    refine Ensemble.kept_of_reaches preserves_sound_guarded ?_ reached
    refine Ensemble.kept_start (fun i => (errands i).first) ⟨?_, ?_, fun i => (errands i).fit_first⟩
      fun i => (errands i).follows
    · simp [Catalogue.Keyed, empty]
    · simp [Catalogue.Consistent, empty]
  obtain ⟨_, sound, -⟩ := sound
  have mem := Catalogue.mem_of_find? found
  have same : e.shared.store = site.store := accounted.store_eq
  have lodged : Lodged e.shared.store e.shared.files r :=
    same ▸ .of_traced (accounted.rows r mem) given (housing.rows r mem)
  exact ⟨sound.keyed, found, ready, sound.rows r mem, lodged.housed, fun _ => lodged.apart⟩

/-- A stage of an attempt that fails as is expected of it is the last one: the record is put to the table
as failed, with the text of the failure, and the failure is passed on, also when the table does not take
the record. Whatever attempts were made on an image, if it can be processed then an attempt that is left
alone returns what it would have returned before them, and leaves the same row, but for times, and the same
result. That presumes of the image what holds wherever errands side by side can lead. -/
theorem failures_reported_and_retried :
    (∀ site id events result site',
      Ran Site.guarded.meanwhile (processImage id).run site events result site' →
        ∀ e ∈ events, ∀ what cause, StageFailure e what cause →
          Reported id e what cause events result site') ∧
    (∀ site r site', site.Processable r → Relation.ReflTransGen (Retried r.id) site site' →
      SameEnd site.store r.id (site.unfailing.run (processImage r.id))
        (site'.unfailing.run (processImage r.id))) ∧
    ∀ (ι : Type) [DecidableEq ι] (errands : ι → Errand) (site : Site), site.catalogue.rows = [] →
      ∀ e : Ensemble working ι Site (Except Failure Unit),
        Ensemble.Reaches Site.guarded (.start site fun i => (errands i).service.run) e →
        (GivenOnce fun i => (e.threads i).past) →
        ∀ r, e.shared.catalogue.find? r.id = some r → r.canBeProcessed = true →
          e.shared.Processable r :=
  ⟨fun _ _ _ _ _ ran _ mem _ _ fails => reported_of_stageFailure ran mem fails,
    fun _ _ _ ready attempts => sameEnd_of_retried ready attempts,
    fun _ _ errands site empty _ reached given _ found ready =>
      processable_of_reached errands site empty reached given found ready⟩

def lockedOut : Site := { twoDots.shared with
  faults := [⟨.update, .foreign .database "database is locked", 1, 0⟩] }

def lockedTrace : List (Event working) := (processImage Turn.former.image).run.trace Site.answer lockedOut

def lockedAfter : Site := (lockedOut.run (processImage Turn.former.image)).2

def refusedUpdates (events : List (Event working)) : List (String × String × Bool) :=
  events.filterMap fun
    | ⟨.update record, .error cause⟩ => some (record.status, cause.text, isTableTrouble cause)
    | _ => none

theorem meanwhile_answer (c : Call) (site : Site) :
    Site.guarded.meanwhile c site (site.answer c).1 (site.answer c).2 := by
  unfold Site.answer
  split
  · exact ⟨site, ⟨rfl, rfl, rfl⟩, .answered (.inl rfl)⟩
  · next target _ =>
      cases planned : site.consult target with
      | mk failure after =>
          have drifted : Site.guarded.drifts site after := by
            have after_eq : after = (site.consult target).2 := by rw [planned]
            rw [after_eq]
            exact ⟨rfl, rfl, rfl⟩
          cases failure with
          | some failure => exact ⟨after, drifted, .answered (.inr ⟨failure, rfl⟩)⟩
          | none => exact ⟨after, drifted, .answered (.inl rfl)⟩

theorem lockedOut_seen :
    refusedUpdates lockedTrace = [(Status.completed.name, "database is locked", true)] ∧
    (lockedAfter.catalogue.find? Turn.former.image).map (fun r => (r.status, r.errorMessage)) =
      some (Status.failed.name, some "failed to record completion: database is locked") ∧
    (twoDots.shared.catalogue.find? Turn.former.image).map (fun r => (r.id, r.canBeProcessed)) =
      some (Turn.former.image, true) ∧
    ((lockedOut.unfailing.run (processImage Turn.former.image)).2.catalogue.find?
      Turn.former.image).map (·.status) = some Status.completed.name := by
  decide +kernel

theorem stageFailure_of_refused {status text : String} {events : List (Event working)}
    (refused : (status, text, true) ∈ refusedUpdates events) (completed : status = Status.completed.name) :
    ∃ e ∈ events, ∃ cause : Failure, cause.text = text ∧
      StageFailure e "failed to record completion" cause := by
  obtain ⟨⟨c, reply⟩, mem, told⟩ := List.mem_filterMap.mp refused
  cases c with
  | update record =>
      cases reply with
      | ok row => cases told
      | error cause =>
          simp only [Option.some.injEq, Prod.mk.injEq] at told
          obtain ⟨rfl, rfl, known⟩ := told
          exact ⟨_, mem, cause, rfl, .completing completed known⟩
  | _ => cases told

theorem lockedOut_retried :
    (∃ e ∈ lockedTrace, ∃ cause : Failure, cause.text = "database is locked" ∧
      Reported Turn.former.image e "failed to record completion" cause lockedTrace
        (lockedOut.run (processImage Turn.former.image)).1 lockedAfter) ∧
    (lockedAfter.catalogue.find? Turn.former.image).map (fun r => (r.status, r.errorMessage)) =
      some (Status.failed.name, some "failed to record completion: database is locked") ∧
    ((lockedOut.unfailing.run (processImage Turn.former.image)).2.catalogue.find?
      Turn.former.image).map (·.status) = some Status.completed.name ∧
    SameEnd lockedOut.store Turn.former.image
      (lockedOut.unfailing.run (processImage Turn.former.image))
      (lockedAfter.unfailing.run (processImage Turn.former.image)) := by
  obtain ⟨reported, same, reachable⟩ := failures_reported_and_retried
  obtain ⟨refused, failed, there, completed⟩ := lockedOut_seen
  have ran : Ran Site.guarded.meanwhile (processImage Turn.former.image).run lockedOut lockedTrace
      (lockedOut.run (processImage Turn.former.image)).1 lockedAfter :=
    Script.ran_trace Site.guarded.meanwhile meanwhile_answer _ _
  obtain ⟨e, mem, cause, text, fails⟩ := stageFailure_of_refused
    (refused ▸ List.mem_singleton_self _) rfl
  refine ⟨⟨e, mem, cause, text, reported _ _ _ _ _ ran e mem _ _ fails⟩, failed, completed, ?_⟩
  obtain ⟨r, found, told⟩ := Option.map_eq_some_iff.mp there
  obtain ⟨named, ready⟩ := Prod.mk.inj told
  rw [← named] at found ran failed ⊢
  have processable : twoDots.shared.Processable r :=
    reachable Turn (fun _ => .upload ⟨12, [".png"]⟩ dot) oneRoom rfl twoDots
      (Ensemble.reaches_play Site.responds_answerBy _ _) twoDots_givenOnce r found ready
  have attempt : Retried r.id lockedOut lockedAfter := by
    obtain ⟨row, found, told⟩ := Option.map_eq_some_iff.mp failed
    refine ⟨⟨_, _, ran⟩, row, found, ?_⟩
    simp [Progress.canBeProcessed, (Prod.mk.inj told).1]
  exact same lockedOut r lockedAfter ⟨processable.keyed, found, ready, processable.consistent,
    processable.housed, processable.apart⟩ (.single attempt)

end Workflow

end ImagePipeline
