import ImagePipeline.Proofs.Asset.LocalStore
import ImagePipeline.Proofs.Image.Failing
import ImagePipeline.Proofs.Table
import ImagePipeline.Proofs.Workflow.Attempt
import ImagePipeline.Proofs.Workflow.Interleaving
/-!
# Attempts that leave a record as being processed

Where nothing fails but the picture itself, an attempt ends with a completed record or with a failed
one that says why, unless decoding or encoding fails in a way that is not expected of it. The record
then stays as the claim left it.
-/

namespace ImagePipeline

def Stages.Wedge (stages : Stages) (kind : String) (content : ByteArray) : Prop :=
  (∃ cause, stages.decode content = .error cause ∧ cause.isApp = false) ∨
    ∃ picture result cause, stages.decode content = .ok picture ∧
      stages.process kind picture = .ok result ∧ stages.encode result = .error cause ∧
        cause.isApp = false

/-- A failure of the codec on the content is reported neither by decoding nor by encoding. -/
def Processor.Wedges (codec : Codec) (processor : Processor) (kind : String) (content : ByteArray) :
    Prop :=
  Decode.Escapes codec content ∨ ∃ picture result, Decode.decode codec content = .ok picture ∧
    processor.process kind picture = .ok result ∧
      Encode.Escapes codec result processor.plan.outputQuality

theorem Processor.wedge_stages {codec : Codec} {processor : Processor} {kind : String}
    {content : ByteArray} :
    (processor.stages codec).Wedge kind content ↔ processor.Wedges codec kind content := by
  unfold Stages.Wedge Wedges
  rw [Decode.escapes_iff]
  refine or_congr Iff.rfl (exists₂_congr fun picture result => ?_)
  rw [Encode.escapes_iff]
  exact ⟨fun ⟨cause, decoded, processed, failed⟩ => ⟨decoded, processed, cause, failed⟩,
    fun ⟨decoded, processed, cause, failed⟩ => ⟨cause, decoded, processed, failed⟩⟩

namespace Workflow

def Settled (table : Catalogue) (id : String) : Prop :=
  ∃ row, table.find? id = some row ∧ (row.status = Status.completed.name ∨
    row.status = Status.failed.name ∧ ∃ reason, row.errorMessage = some reason ∧ reason ≠ "")

/-- The record may be processed, its upload can be read and its result saved, and no call is to fail. -/
structure Prepared (site : Site) (record : Record) (content : ByteArray) : Prop where
  faultless : site.faults = []
  keyed : site.catalogue.Keyed
  found : site.catalogue.find? record.id = some record
  ready : record.canBeProcessed = true
  upload : (Site.perform (.openUpload record.uploadPath) site).1 = .ok content
  room : ∀ result : ByteArray, result.isEmpty = false →
    ∃ key, (Site.perform (.saveProcessed (resultFile record) result) site).1 = .ok key

namespace Site

variable {site now : Site}

theorem onFiles_fst {α : Type} (table : Catalogue) (operation : Asset.OnFiles α) :
    ({ site with catalogue := table }.onFiles operation).1 = (site.onFiles operation).1 := rfl

theorem onFiles_faults {α : Type} (operation : Asset.OnFiles α) :
    (site.onFiles operation).2.faults = site.faults := rfl

theorem perform_openUpload (key : String) :
    (perform (.openUpload key) site).2 = site := by
  change { site with files := ((site.store.fetch key).run site.files).2 } = site
  rw [Asset.LocalStore.fetch_files]

end Site

structure Untouched (site now : Site) (row : Record) : Prop where
  rest : now = { site with catalogue := now.catalogue }
  keyed : now.catalogue.Keyed
  found : now.catalogue.find? row.id = some row

structure Calm (now : Site) (id : String) : Prop where
  faultless : now.faults = []
  present : ∃ row, now.catalogue.find? id = some row

/-- What holds at each stage of an attempt at a prepared site. -/
def Going (site : Site) (record : Record) (content : ByteArray) (now : Site) : Attempt → Prop
  | .looking id => Untouched site now record ∧ id = record.id
  | .claiming r => Untouched site now record ∧ r = record
  | .starting r => Untouched site now (record.claimedAt site.clock) ∧ r = record
  | .opening r => Untouched site now (record.claimedAt site.clock) ∧
      r = record.markProcessing site.clock
  | .reading r bytes => Untouched site now (record.claimedAt site.clock) ∧
      r = record.markProcessing site.clock ∧ bytes = content
  | .decoding r bytes => Untouched site now (record.claimedAt site.clock) ∧
      r = record.markProcessing site.clock ∧ bytes = content
  | .processing r picture => Untouched site now (record.claimedAt site.clock) ∧
      r = record.markProcessing site.clock ∧ site.stages.decode content = .ok picture
  | .encoding r result => Untouched site now (record.claimedAt site.clock) ∧
      r = record.markProcessing site.clock ∧ ∃ picture, site.stages.decode content = .ok picture ∧
        site.stages.process record.processingType picture = .ok result
  | .saving r _ bytes => Untouched site now (record.claimedAt site.clock) ∧
      r = record.markProcessing site.clock ∧ bytes.isEmpty = false ∧
        ¬ site.stages.Wedge record.processingType content
  | .completing r _ _ => Calm now record.id ∧ r.id = record.id ∧
      ¬ site.stages.Wedge record.processingType content
  | .storing completed => Calm now record.id ∧ completed.id = record.id ∧
      completed.status = Status.completed.name ∧
        ¬ site.stages.Wedge record.processingType content
  | .failing r message _ => Calm now record.id ∧ r.id = record.id ∧ message ≠ "" ∧
      ¬ site.stages.Wedge record.processingType content
  | .reporting failed _ => Calm now record.id ∧ failed.id = record.id ∧
      (failed.status = Status.failed.name ∧
        ∃ reason, failed.errorMessage = some reason ∧ reason ≠ "") ∧
        ¬ site.stages.Wedge record.processingType content
  | .ended _ =>
      Settled now.catalogue record.id ∧ ¬ site.stages.Wedge record.processingType content ∨
        now.catalogue.find? record.id = some (record.claimedAt site.clock) ∧
          site.stages.Wedge record.processingType content

variable {site now : Site} {record r : Record} {content : ByteArray}

theorem Untouched.calm (untouched : Untouched site now r) (faultless : site.faults = []) :
    Calm now r.id where
  faultless := by rw [untouched.rest, faultless]
  present := ⟨r, untouched.found⟩

theorem Untouched.stages_eq (untouched : Untouched site now r) : now.stages = site.stages := by
  rw [untouched.rest]

theorem Untouched.clock_eq (untouched : Untouched site now r) : now.clock = site.clock := by
  rw [untouched.rest]

theorem going_afterFailure {what : String} {expected : Failure → Bool} {cause : Failure}
    (untouched : Untouched site now (record.claimedAt site.clock)) (faultless : site.faults = [])
    (named : r.id = record.id)
    (exact_ : expected cause = true ↔ ¬ site.stages.Wedge record.processingType content) :
    Going site record content now (.afterFailure r what expected cause) := by
  unfold Attempt.afterFailure
  split
  case isTrue known =>
    refine ⟨untouched.calm faultless, named, ?_, exact_.mp known⟩
    intro empty
    have length := congrArg String.length empty
    simp at length
  case isFalse unknown =>
    exact .inr ⟨untouched.found, not_not.mp (mt exact_.mpr unknown)⟩

/-! ## One call of the attempt -/

def GoesOn (site : Site) (record : Record) (content : ByteArray) (p : Attempt) (c : Call)
    (answered : working.Reply c × Site) : Prop :=
  ∃ p', Attempt.Step p c answered.1 p' ∧ Going site record content answered.2 p'

theorem goesOn_claiming (prepared : Prepared site record content)
    (untouched : Untouched site now record) :
    GoesOn site record content (.claiming record) (.claim record.id)
      (Site.perform (.claim record.id) now) := by
  obtain ⟨table, claimed⟩ :=
    Catalogue.claim_of_ready now.clock untouched.found prepared.ready
  obtain ⟨row, found, -, after⟩ := Catalogue.find?_claim_self untouched.keyed claimed
  rw [untouched.found] at found
  cases found
  have performed : Site.perform (.claim record.id) now =
      (.ok (), { now with catalogue := table }) := by
    simp only [Site.perform, Site.onTable, claimed]
    rfl
  rw [performed]
  refine ⟨_, .claimed record, ⟨?_, untouched.keyed.claim claimed, ?_⟩, rfl⟩
  · rw [untouched.rest]
  · exact untouched.clock_eq ▸ after

theorem goesOn_decoding (prepared : Prepared site record content)
    (untouched : Untouched site now (record.claimedAt site.clock)) :
    GoesOn site record content (.decoding (record.markProcessing site.clock) content)
      (.decode content) (Site.perform (.decode content) now) := by
  change GoesOn _ _ _ _ (.decode content) (now.stages.decode content, now)
  rw [untouched.stages_eq]
  cases decoded : site.stages.decode content with
  | ok picture => exact ⟨_, .decoded _ _ picture, untouched, rfl, decoded⟩
  | error cause =>
      refine ⟨_, .notDecoded _ _ cause,
        going_afterFailure untouched prepared.faultless rfl ⟨?_, fun sound => ?_⟩⟩
      · rintro known (⟨cause', failed, passes⟩ | ⟨picture, result, cause', decoded', -⟩)
        · cases decoded.symm.trans failed
          exact absurd (passes.symm.trans known) Bool.false_ne_true
        · cases decoded.symm.trans decoded'
      · cases known : cause.isApp with
        | true => rfl
        | false => exact absurd (.inl ⟨cause, decoded, known⟩) sound

theorem goesOn_processing (prepared : Prepared site record content) {picture : Picture}
    (untouched : Untouched site now (record.claimedAt site.clock))
    (decoded : site.stages.decode content = .ok picture) :
    GoesOn site record content (.processing (record.markProcessing site.clock) picture)
      (.process record.processingType picture)
      (Site.perform (.process record.processingType picture) now) := by
  change GoesOn _ _ _ _ (.process record.processingType picture)
    (now.stages.process record.processingType picture, now)
  rw [untouched.stages_eq]
  cases processed : site.stages.process record.processingType picture with
  | ok result =>
      exact ⟨_, .processed (record.markProcessing site.clock) picture result, untouched, rfl, picture,
        decoded, processed⟩
  | error cause =>
      refine ⟨_, .notProcessed (record.markProcessing site.clock) picture cause,
        going_afterFailure untouched prepared.faultless rfl ⟨?_, fun _ => rfl⟩⟩
      rintro - (⟨cause', failed, -⟩ | ⟨picture', result, cause', decoded', processed', -⟩)
      · cases decoded.symm.trans failed
      · cases decoded.symm.trans decoded'
        cases processed.symm.trans processed'

theorem goesOn_encoding (prepared : Prepared site record content) {picture result : Picture}
    (untouched : Untouched site now (record.claimedAt site.clock))
    (decoded : site.stages.decode content = .ok picture)
    (processed : site.stages.process record.processingType picture = .ok result) :
    GoesOn site record content (.encoding (record.markProcessing site.clock) result)
      (.encode result) (Site.perform (.encode result) now) := by
  -- now that decoding and processing have succeeded, only the encoding can leave the row behind
  have wedge_iff : site.stages.Wedge record.processingType content ↔
      ∃ cause, site.stages.encode result = .error cause ∧ cause.isApp = false := by
    constructor
    · rintro (⟨cause, failed, -⟩ | ⟨picture', result', cause, decoded', processed', failed⟩)
      · cases decoded.symm.trans failed
      · cases decoded.symm.trans decoded'
        cases processed.symm.trans processed'
        exact ⟨cause, failed⟩
    · exact fun ⟨cause, failed⟩ => .inr ⟨picture, result, cause, decoded, processed, failed⟩
  change GoesOn _ _ _ _ (.encode result) (now.stages.encode result, now)
  rw [untouched.stages_eq]
  cases encoded : site.stages.encode result with
  | ok bytes =>
      refine ⟨_, .encoded _ result bytes, untouched, rfl,
        site.stages.nonempty_of_encode encoded, ?_⟩
      rw [wedge_iff]
      rintro ⟨cause, failed, -⟩
      cases encoded.symm.trans failed
  | error cause =>
      refine ⟨_, .notEncoded _ result cause,
        going_afterFailure untouched prepared.faultless rfl ?_⟩
      rw [wedge_iff, ← Bool.not_eq_false]
      refine not_congr ⟨fun passes => ⟨cause, encoded, passes⟩, ?_⟩
      rintro ⟨cause', failed, passes⟩
      cases encoded.symm.trans failed
      exact passes

theorem goesOn_saving (prepared : Prepared site record content) {result : Picture}
    {bytes : ByteArray} (untouched : Untouched site now (record.claimedAt site.clock))
    (shown : bytes.isEmpty = false)
    (sound : ¬ site.stages.Wedge record.processingType content) :
    GoesOn site record content (.saving (record.markProcessing site.clock) result bytes)
      (.saveProcessed (resultFile record) bytes)
      (Site.perform (.saveProcessed (resultFile record) bytes) now) := by
  obtain ⟨key, saved⟩ := prepared.room bytes shown
  have calm := untouched.calm prepared.faultless
  have same : (Site.perform (.saveProcessed (resultFile record) bytes) now).1 = .ok key := by
    rw [untouched.rest, Site.perform, Site.onFiles_fst, ← saved, Site.perform]
  refine ⟨.completing (record.markProcessing site.clock) result key, ?_, ⟨?_, ?_⟩, rfl, sound⟩
  · rw [same]
    exact .saved (record.markProcessing site.clock) result bytes key
  · rw [Site.perform, Site.onFiles_faults, calm.faultless]
  · rw [Site.perform_catalogue _ rfl]
    exact calm.present

theorem Calm.store {id : String} (calm : Calm now id) (named : r.id = id)
    (settled : r.status = Status.completed.name ∨ r.status = Status.failed.name ∧
      ∃ reason, r.errorMessage = some reason ∧ reason ≠ "") :
    ∃ row, (Site.perform (.update r) now).1 = .ok row ∧
      Settled (Site.perform (.update r) now).2.catalogue id := by
  subst named
  obtain ⟨old, found⟩ := calm.present
  have stored := Catalogue.store_of_found now.clock found
  have performed : Site.perform (.update r) now = (.ok (Catalogue.overwrite old r now.clock),
      { now with catalogue := now.catalogue.modify r.id fun old =>
          Catalogue.overwrite old r now.clock }) := by
    simp only [Site.perform, Site.onTable, stored]
  rw [performed]
  exact ⟨_, rfl, _, Catalogue.find?_store_self stored, settled⟩

theorem goesOn (prepared : Prepared site record content) {p : Attempt} {c : Call}
    (going : Going site record content now p) (allowed : p.call? = some c) :
    GoesOn site record content p c (Site.perform c now) := by
  cases p with
  | ended how => cases allowed
  | looking id =>
      obtain ⟨untouched, rfl⟩ := going
      cases allowed
      change GoesOn _ _ _ _ (.find record.id) (now.catalogue.find record.id, now)
      rw [Catalogue.find_eq_ok.mpr untouched.found]
      refine ⟨_, .found record.id record, ?_⟩
      rw [if_pos prepared.ready]
      exact ⟨untouched, rfl⟩
  | claiming r =>
      obtain ⟨untouched, rfl⟩ := going
      cases allowed
      exact goesOn_claiming prepared untouched
  | starting r =>
      obtain ⟨untouched, rfl⟩ := going
      cases allowed
      exact ⟨_, .started r now.clock, untouched, by rw [untouched.clock_eq]⟩
  | opening r =>
      obtain ⟨untouched, rfl⟩ := going
      cases allowed
      have same : (Site.perform (.openUpload record.uploadPath) now).1 = .ok content := by
        rw [untouched.rest, Site.perform, Site.onFiles_fst, ← prepared.upload, Site.perform]
      refine ⟨.reading (record.markProcessing site.clock) content, ?_, ?_, rfl, rfl⟩
      · exact same ▸ .opened (record.markProcessing site.clock) content
      · exact (Site.perform_openUpload _).symm ▸ untouched
  | reading r bytes =>
      obtain ⟨untouched, rfl, rfl⟩ := going
      cases allowed
      exact ⟨_, .read _ bytes bytes, untouched, rfl, rfl⟩
  | decoding r bytes =>
      obtain ⟨untouched, rfl, rfl⟩ := going
      cases allowed
      exact goesOn_decoding prepared untouched
  | processing r picture =>
      obtain ⟨untouched, rfl, decoded⟩ := going
      cases allowed
      exact goesOn_processing prepared untouched decoded
  | encoding r result =>
      obtain ⟨untouched, rfl, picture, decoded, processed⟩ := going
      cases allowed
      exact goesOn_encoding prepared untouched decoded processed
  | saving r result bytes =>
      obtain ⟨untouched, rfl, shown, sound⟩ := going
      cases allowed
      exact goesOn_saving prepared untouched shown sound
  | completing r result key =>
      obtain ⟨calm, named, sound⟩ := going
      cases allowed
      exact ⟨_, .finished r result key now.clock, calm, named, rfl, sound⟩
  | failing r message cause =>
      obtain ⟨calm, named, given, sound⟩ := going
      cases allowed
      exact ⟨_, .stamped r message cause now.clock, calm, named, ⟨rfl, message, rfl, given⟩, sound⟩
  | storing completed =>
      obtain ⟨calm, named, done, sound⟩ := going
      cases allowed
      obtain ⟨row, stored, settled⟩ := calm.store named (.inl done)
      refine ⟨.ended (.completed completed), ?_, .inl ⟨settled, sound⟩⟩
      rw [stored]
      exact .stored completed row
  | reporting failed cause =>
      obtain ⟨calm, named, explained, sound⟩ := going
      cases allowed
      obtain ⟨row, stored, settled⟩ := calm.store named (.inr explained)
      refine ⟨.broken cause, ?_, .inl ⟨settled, sound⟩⟩
      rw [stored]
      exact .reported failed cause row

theorem Going.faultless {p : Attempt} (prepared : Prepared site record content)
    (going : Going site record content now p) (unended : p.call? ≠ none) : now.faults = [] := by
  have early {r : Record} (untouched : Untouched site now r) : now.faults = [] :=
    (untouched.calm prepared.faultless).faultless
  cases p with
  | looking => exact early going.1
  | claiming => exact early going.1
  | starting => exact early going.1
  | opening => exact early going.1
  | reading => exact early going.1
  | decoding => exact early going.1
  | processing => exact early going.1
  | encoding => exact early going.1
  | saving => exact early going.1
  | completing => exact going.1.faultless
  | storing => exact going.1.faultless
  | failing => exact going.1.faultless
  | reporting => exact going.1.faultless
  | ended => exact absurd rfl unended

theorem attempt_ends (prepared : Prepared site record content) : ∃ how : Ending,
    Going site record content (site.run (processImage record.id)).2 (.ended how) := by
  have begun : Going site record content site (.looking record.id) :=
    ⟨⟨rfl, prepared.keyed, prepared.found⟩, rfl⟩
  have onwards (now : Site) (p : Attempt) (c : Call) (going : Going site record content now p)
      (allowed : p.call? = some c) : GoesOn site record content p c (now.answer c) := by
    have faultless := Going.faultless prepared going (allowed ▸ Option.some_ne_none c)
    rw [Site.answer_of_faultless faultless]
    exact goesOn prepared going allowed
  obtain ⟨p, going, how, rfl, -⟩ :=
    Script.Follows.run (I := working) Site.answer (Going site record content)
      (processImage_follows record.id) onwards begun
  exact ⟨how, going⟩

theorem not_settled_of_stays (table : Catalogue) (clock : Instant)
    (stays : table.find? record.id = some (record.claimedAt clock)) : ¬ Settled table record.id := by
  rintro ⟨row, found, outcome⟩
  rw [stays] at found
  cases found
  rcases outcome with completed | ⟨failed, -⟩
  · change Status.processing.name = Status.completed.name at completed
    exact absurd completed (by decide)
  · change Status.processing.name = Status.failed.name at failed
    exact absurd failed (by decide)

def misledPicture : ByteArray :=
  ⟨#[
    0x89, 0x50, 0x4e, 0x47, 0x0d, 0x0a, 0x1a, 0x0a, 0x00, 0x00, 0x00, 0x0d, 0x49, 0x48, 0x44, 0x52,
    0x00, 0x00, 0x00, 0x03, 0x00, 0x00, 0x00, 0x02, 0x08, 0x02, 0x00, 0x00, 0x00, 0x12, 0x16, 0xf1,
    0x4d, 0x00, 0x00, 0x00, 0x08, 0x65, 0x58, 0x49, 0x66, 0x67, 0x61, 0x72, 0x62, 0x61, 0x67, 0x65,
    0x21, 0x8c, 0x99, 0x91, 0x39, 0x00, 0x00, 0x00, 0x14, 0x49, 0x44, 0x41, 0x54, 0x78, 0x9c, 0x63,
    0x60, 0x64, 0x62, 0x66, 0x61, 0x65, 0x63, 0xe7, 0xe0, 0x64, 0x80, 0xb3, 0x00, 0x03, 0x20, 0x00,
    0x5b, 0x46, 0xc7, 0x3b, 0x6b, 0x00, 0x00, 0x00, 0x00, 0x49, 0x45, 0x4e, 0x44, 0xae, 0x42, 0x60,
    0x82]⟩

def shelved : Record := { (default : Record) with
  id := "a"
  uploadPath := "in/a.png"
  processingType := ProcessingType.resize.name
  status := Status.pending.name }

def shelving : Asset.LocalStore := ⟨["data"], "in", "out"⟩

def shelf (content : ByteArray) : Site := { Site.stocked [shelved] with
  store := shelving
  files := ⟨[(["data"], .directory), (["data", "in"], .directory), (["data", "out"], .directory),
    (["data", "in", "a.png"], .file content)]⟩ }

theorem shelving_locate_upload :
    shelving.locate "in/a.png" = .ok ["data", "in", "a.png"] :=
  Asset.eq_ok_of_toOption (by decide +kernel)

theorem shelving_locate_result : shelving.locate (Asset.objectKey "out" (resultFile shelved)) =
    .ok ["data", "out", "a_resize.jpg"] :=
  Asset.eq_ok_of_toOption (by decide +kernel)

theorem prepared_shelf (content : ByteArray) : Prepared (shelf content) shelved content where
  faultless := rfl
  keyed := show (⟨[shelved]⟩ : Catalogue).Keyed by decide
  found := rfl
  ready := rfl
  upload := by
    have fetched : ((shelf content).store.fetch shelved.uploadPath).run (shelf content).files =
        (.ok content, (shelf content).files) :=
      Asset.LocalStore.fetch_of_located shelving_locate_upload rfl
    rw [Site.perform_openUpload_eq, Site.onFiles_eq fetched]
  room result shown := by
    have missing : (shelf content).files.walk ["data", "out", "a_resize.jpg"] = .error .notFound :=
      rfl
    have known : (shelf content).files.walk ["data", "out", "a_resize.jpg"] ≠
        .error .nameTooLong := by
      rw [missing]
      exact nofun
    have saved := Asset.LocalStore.save_of_located shelving_locate_result known rfl shown
    refine ⟨Asset.objectKey "out" (resultFile shelved), ?_⟩
    rw [Site.perform_saveProcessed_eq]
    exact congrArg Prod.fst (Site.onFiles_eq saved)

end Workflow

end ImagePipeline
