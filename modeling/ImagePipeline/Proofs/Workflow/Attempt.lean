import ImagePipeline.Proofs.Script.Contract
import ImagePipeline.Workflow.Processing

namespace ImagePipeline.Workflow

open Script (Follows)
open Routine

/-- How an attempt ends. -/
inductive Ending where
  | completed (record : Record)
  | passedBy (record : Record)
  | outrun
  | broken (cause : Failure)

def Ending.result : Ending → Except Failure Unit
  | .broken cause => .error cause
  | _ => .ok ()

inductive Attempt where
  | looking (id : String)
  | claiming (record : Record)
  | starting (record : Record)
  | opening (record : Record)
  | reading (record : Record) (content : ByteArray)
  | decoding (record : Record) (bytes : ByteArray)
  | processing (record : Record) (picture : Picture)
  | encoding (record : Record) (result : Picture)
  | saving (record : Record) (result : Picture) (encoded : ByteArray)
  | completing (record : Record) (result : Picture) (key : String)
  | storing (completed : Record)
  | failing (record : Record) (message : String) (cause : Failure)
  | reporting (failed : Record) (cause : Failure)
  | ended (how : Ending)

namespace Attempt

def call? : Attempt → Option Call
  | looking id => some (.find id)
  | claiming record => some (.claim record.id)
  | starting _ => some .now
  | opening record => some (.openUpload record.uploadPath)
  | reading _ content => some (.readUpload content)
  | decoding _ bytes => some (.decode bytes)
  | processing record picture => some (.process record.processingType picture)
  | encoding _ result => some (.encode result)
  | saving record _ encoded => some (.saveProcessed (resultFile record) encoded)
  | completing .. => some .now
  | storing completed => some (.update completed)
  | failing .. => some .now
  | reporting failed _ => some (.update failed)
  | ended _ => none

def broken (cause : Failure) : Attempt := ended (.broken cause)

/-- Where a failure of a stage leads: it is written to the record if it is expected of the stage. -/
def afterFailure (record : Record) (what : String) (expected : Failure → Bool) (cause : Failure) :
    Attempt :=
  if expected cause then failing record (what ++ ": " ++ cause.text) cause else broken cause

inductive Step : Attempt → (c : Call) → working.Reply c → Attempt → Prop where
  | found (id record) : Step (looking id) (.find id) (.ok record)
      (if record.canBeProcessed then claiming record else ended (.passedBy record))
  | notFound (id cause) : Step (looking id) (.find id) (.error cause) (broken cause)
  | claimed (record) : Step (claiming record) (.claim record.id) (.ok ()) (starting record)
  | refused (record cause) : Step (claiming record) (.claim record.id) (.error cause)
      (if cause.isA .alreadyProcessing then ended .outrun else broken cause)
  | started (record) (now : Instant) :
      Step (starting record) .now now (opening (record.markProcessing now))
  | opened (record content) :
      Step (opening record) (.openUpload record.uploadPath) (.ok content) (reading record content)
  | notOpened (record cause) : Step (opening record) (.openUpload record.uploadPath) (.error cause)
      (afterFailure record "failed to get original file" isReadTrouble cause)
  | read (record content bytes) :
      Step (reading record content) (.readUpload content) (.ok bytes) (decoding record bytes)
  | notRead (record content cause) : Step (reading record content) (.readUpload content) (.error cause)
      (afterFailure record "failed to get original file" isReadTrouble cause)
  | decoded (record bytes picture) :
      Step (decoding record bytes) (.decode bytes) (.ok picture) (processing record picture)
  | notDecoded (record bytes cause) : Step (decoding record bytes) (.decode bytes) (.error cause)
      (afterFailure record "failed to decode original image" Failure.isApp cause)
  | processed (record picture result) : Step (processing record picture)
      (.process record.processingType picture) (.ok result) (encoding record result)
  | notProcessed (record picture cause) : Step (processing record picture)
      (.process record.processingType picture) (.error cause)
      (afterFailure record "processing failed" (fun _ => true) cause)
  | encoded (record result bytes) :
      Step (encoding record result) (.encode result) (.ok bytes) (saving record result bytes)
  | notEncoded (record result cause) : Step (encoding record result) (.encode result) (.error cause)
      (afterFailure record "encoding failed" Failure.isApp cause)
  | saved (record result bytes key) : Step (saving record result bytes)
      (.saveProcessed (resultFile record) bytes) (.ok key) (completing record result key)
  | notSaved (record result bytes cause) : Step (saving record result bytes)
      (.saveProcessed (resultFile record) bytes) (.error cause)
      (afterFailure record "failed to save processed file" Failure.isApp cause)
  | finished (record result key) (now : Instant) : Step (completing record result key) .now now
      (storing (record.markCompleted key result.width result.height now))
  | stored (completed row) :
      Step (storing completed) (.update completed) (.ok row) (ended (.completed completed))
  | notStored (completed cause) : Step (storing completed) (.update completed) (.error cause)
      (afterFailure completed "failed to record completion" isTableTrouble cause)
  | stamped (record message cause) (now : Instant) :
      Step (failing record message cause) .now now (reporting (record.markFailed message now) cause)
  | reported (failed cause row) :
      Step (reporting failed cause) (.update failed) (.ok row) (broken cause)
  | notReported (failed cause trouble) : Step (reporting failed cause) (.update failed) (.error trouble)
      (broken (if isTableTrouble trouble then cause else trouble))

def held? : Attempt → Option Record
  | starting record => some record
  | opening record => some record
  | reading record _ => some record
  | decoding record _ => some record
  | processing record _ => some record
  | encoding record _ => some record
  | saving record _ _ => some record
  | completing record _ _ => some record
  | storing completed => some completed
  | failing record _ _ => some record
  | reporting failed _ => some failed
  | _ => none

def holding? (p : Attempt) : Option String := p.held?.map (·.id)

def image? : Attempt → Option String
  | looking id => some id
  | claiming record => some record.id
  | p => p.holding?

variable {p p' : Attempt} {c : Call} {reply : working.Reply c} {id : String}

theorem Step.looking_of_found {record : Record} (step : p.Step (.find id) (.ok record) p') :
    p = looking id := by
  cases step
  rfl

theorem step_total (allowed : p.call? = some c) (reply : working.Reply c) :
    ∃ p', Step p c reply p' := by
  cases p with
  | ended how => cases allowed
  | starting record => cases allowed; exact ⟨_, .started record reply⟩
  | completing record result key => cases allowed; exact ⟨_, .finished record result key reply⟩
  | failing record message cause => cases allowed; exact ⟨_, .stamped record message cause reply⟩
  | looking id =>
      cases allowed
      cases reply with
      | ok record => exact ⟨_, .found id record⟩
      | error cause => exact ⟨_, .notFound id cause⟩
  | claiming record =>
      cases allowed
      cases reply with
      | ok _ => exact ⟨_, .claimed record⟩
      | error cause => exact ⟨_, .refused record cause⟩
  | opening record =>
      cases allowed
      cases reply with
      | ok content => exact ⟨_, .opened record content⟩
      | error cause => exact ⟨_, .notOpened record cause⟩
  | reading record content =>
      cases allowed
      cases reply with
      | ok bytes => exact ⟨_, .read record content bytes⟩
      | error cause => exact ⟨_, .notRead record content cause⟩
  | decoding record bytes =>
      cases allowed
      cases reply with
      | ok picture => exact ⟨_, .decoded record bytes picture⟩
      | error cause => exact ⟨_, .notDecoded record bytes cause⟩
  | processing record picture =>
      cases allowed
      cases reply with
      | ok result => exact ⟨_, .processed record picture result⟩
      | error cause => exact ⟨_, .notProcessed record picture cause⟩
  | encoding record result =>
      cases allowed
      cases reply with
      | ok bytes => exact ⟨_, .encoded record result bytes⟩
      | error cause => exact ⟨_, .notEncoded record result cause⟩
  | saving record result bytes =>
      cases allowed
      cases reply with
      | ok key => exact ⟨_, .saved record result bytes key⟩
      | error cause => exact ⟨_, .notSaved record result bytes cause⟩
  | storing completed =>
      cases allowed
      cases reply with
      | ok row => exact ⟨_, .stored completed row⟩
      | error cause => exact ⟨_, .notStored completed cause⟩
  | reporting failed cause =>
      cases allowed
      cases reply with
      | ok row => exact ⟨_, .reported failed cause row⟩
      | error trouble => exact ⟨_, .notReported failed cause trouble⟩

theorem image?_of_holding? (held : p.holding? = some id) : p.image? = some id := by
  cases p with
  | looking => cases held
  | claiming => cases held
  | _ => exact held

theorem holding?_of_ended (ended : p.call? = none) : p.holding? = none := by
  cases p with
  | ended how => rfl
  | _ => cases ended

theorem image?_of_ended (ended : p.call? = none) : p.image? = none := by
  cases p with
  | ended how => rfl
  | _ => cases ended

theorem holding?_of_update {record : Record} (allowed : p.call? = some (.update record)) :
    p.holding? = some record.id := by
  cases p <;> cases allowed <;> rfl

inductive Course (p : Attempt) (c : Call) (reply : working.Reply c) (p' : Attempt) : Prop where
  | works (id : String) (held : p.holding? = some id) (after : p'.holding? = some id ∨ p'.call? = none)
  | claims (record : Record) (before : p = claiming record) (after : p' = starting record)
      (event : (⟨c, reply⟩ : Event working) = ⟨.claim record.id, .ok ()⟩)
  | finds (id : String) (record : Record) (before : p = looking id) (after : p' = claiming record)
      (event : (⟨c, reply⟩ : Event working) = ⟨.find id, .ok record⟩)
  | leaves (free : p.holding? = none) (after : p'.call? = none)

theorem after_afterFailure (record : Record) (what : String) (expected : Failure → Bool)
    (cause : Failure) : (afterFailure record what expected cause).holding? = some record.id ∨
      (afterFailure record what expected cause).call? = none := by
  unfold afterFailure
  split
  · exact .inl rfl
  · exact .inr rfl

theorem Step.course (step : Step p c reply p') : Course p c reply p' := by
  cases step with
  | found id record =>
      split
      · exact .finds id record rfl rfl rfl
      · exact .leaves rfl rfl
  | notFound => exact .leaves rfl rfl
  | claimed record => exact .claims record rfl rfl rfl
  | refused record cause => split <;> exact .leaves rfl rfl
  | started record => exact .works record.id rfl (.inl rfl)
  | opened record => exact .works record.id rfl (.inl rfl)
  | read record => exact .works record.id rfl (.inl rfl)
  | decoded record => exact .works record.id rfl (.inl rfl)
  | processed record => exact .works record.id rfl (.inl rfl)
  | encoded record => exact .works record.id rfl (.inl rfl)
  | saved record => exact .works record.id rfl (.inl rfl)
  | finished record => exact .works record.id rfl (.inl rfl)
  | stamped record => exact .works record.id rfl (.inl rfl)
  | stored completed => exact .works completed.id rfl (.inr rfl)
  | reported failed => exact .works failed.id rfl (.inr rfl)
  | notReported failed => exact .works failed.id rfl (.inr rfl)
  | notOpened record => exact .works record.id rfl (after_afterFailure ..)
  | notRead record => exact .works record.id rfl (after_afterFailure ..)
  | notDecoded record => exact .works record.id rfl (after_afterFailure ..)
  | notProcessed record => exact .works record.id rfl (after_afterFailure ..)
  | notEncoded record => exact .works record.id rfl (after_afterFailure ..)
  | notSaved record => exact .works record.id rfl (after_afterFailure ..)
  | notStored completed => exact .works completed.id rfl (after_afterFailure ..)

theorem Step.holds (step : Step p c reply p') (held : p.holding? = some id) :
    p'.holding? = some id ∨ p'.call? = none := by
  cases step.course with
  | works other held' after =>
      rw [held] at held'
      cases held'
      exact after
  | claims record before => subst before; cases held
  | finds other record before => subst before; cases held
  | leaves free after => exact .inr after

theorem Step.held_before (step : Step p c reply p') (held : p'.holding? = some id) :
    p.holding? = some id ∨ (⟨c, reply⟩ : Event working) = ⟨.claim id, .ok ()⟩ := by
  cases step.course with
  | works other before after =>
      rcases after with after | ended
      · rw [held] at after
        cases after
        exact .inl before
      · rw [holding?_of_ended ended] at held
        cases held
  | claims record before after event => subst after; cases held; exact .inr event
  | finds other record before after => subst after; cases held
  | leaves free ended =>
      rw [holding?_of_ended ended] at held
      cases held

theorem Step.image?_eq (step : Step p c reply p')
    (honest : ∀ id record, (⟨c, reply⟩ : Event working) = ⟨.find id, .ok record⟩ → record.id = id) :
    p'.image? = p.image? ∨ p'.image? = none := by
  cases step.course with
  | works id held after =>
      rcases after with after | ended
      · rw [image?_of_holding? held, image?_of_holding? after]
        exact .inl rfl
      · exact .inr (image?_of_ended ended)
  | claims record before after => subst before after; exact .inl rfl
  | finds id record before after event =>
      subst before after
      exact .inl (congrArg some (honest id record event))
  | leaves free ended => exact .inr (image?_of_ended ended)

theorem Step.held_of_claimed (step : Step p (.claim id) (.ok ()) p') : p'.holding? = some id := by
  cases step
  rfl

theorem Step.ended_of_stored {record row : Record} (step : Step p (.update record) (.ok row) p') :
    p'.call? = none := by
  cases step <;> rfl

end Attempt

def attempting : Contract working Attempt where
  may p c := p.call? = some c
  moves := Attempt.Step

def EndsIn {α : Type} (here : Attempt → α → Prop) (lost : Failure → Attempt) (p : Attempt) :
    Except Failure α → Prop
  | .ok value => here p value
  | .error cause => p = lost cause

theorem recordFailure_follows (record : Record) (message : String) (cause : Failure) :
    Follows attempting (EndsIn (fun p _ => p = .broken cause) .broken)
      (.failing record message cause) (recordFailure record message).run := by
  apply follows_bind
  apply follows_tell
  refine ⟨rfl, fun now p moved => ?_⟩
  cases moved
  apply follows_recover
  apply follows_bind
  refine ⟨rfl, fun reply p moved => ?_⟩
  cases moved with
  | reported failed cause row => exact rfl
  | notReported failed cause trouble =>
      cases expected : isTableTrouble trouble with
      | true =>
          simp only [Follows, expected, if_true]
          exact rfl
      | false => simp only [Follows, expected, Bool.false_eq_true, if_false, EndsIn]

theorem stage_follows {α : Type} {here : Attempt → α → Prop} {p : Attempt} {record : Record}
    {what : String} {expected : Failure → Bool} {body : Service α}
    (follows : Follows attempting (EndsIn here (.afterFailure record what expected)) p body.run) :
    Follows attempting (EndsIn here .broken) p (stage record what expected body).run := by
  apply follows_recover
  apply follows.mono
  intro p result holds
  cases result with
  | ok value => exact holds
  | error cause =>
      change p = .afterFailure record what expected cause at holds
      subst holds
      cases known : expected cause with
      | false => simp only [Attempt.afterFailure, known, Bool.false_eq_true, if_false, EndsIn]
      | true =>
          simp only [Attempt.afterFailure, known, if_true]
          apply follows_bind
          apply (recordFailure_follows record _ cause).mono
          intro p result holds
          cases result with
          | ok _ => exact follows_throw holds
          | error failure => exact holds

theorem readUpload_follows (record : Record) :
    Follows attempting (EndsIn (fun p bytes => p = .decoding record bytes)
        (.afterFailure record "failed to get original file" isReadTrouble))
      (.opening record) (readUpload record).run := by
  apply follows_bind
  refine ⟨rfl, fun reply p moved => ?_⟩
  cases moved with
  | notOpened record cause => exact rfl
  | opened record content =>
      refine ⟨rfl, fun reply p moved => ?_⟩
      cases moved with
      | read record content bytes => exact rfl
      | notRead record content cause => exact rfl

def Closes (p : Attempt) (result : Except Failure Unit) : Prop :=
  ∃ how, p = .ended how ∧ result = how.result

theorem follows_closes {α : Type} (here : Attempt → α → Prop) {p : Attempt} {body : Service α}
    {rest : α → Service Unit} (first : Follows attempting (EndsIn here .broken) p body.run)
    (then_ : ∀ p value, here p value → Follows attempting Closes p (rest value).run) :
    Follows attempting Closes p (body >>= rest).run := by
  apply follows_bind
  apply first.mono
  intro p result holds
  cases result with
  | ok value => exact then_ p value holds
  | error cause => exact ⟨.broken cause, holds, rfl⟩

theorem processClaimed_follows (record : Record) :
    Follows attempting Closes (.opening record) (processClaimed record).run := by
  apply follows_closes _ (stage_follows (readUpload_follows record))
  rintro p bytes rfl
  apply follows_closes (fun p picture => p = .processing record picture)
  · apply stage_follows
    refine ⟨rfl, fun reply p moved => ?_⟩
    cases moved <;> exact rfl
  rintro p picture rfl
  apply follows_closes (fun p result => p = .encoding record result)
  · apply stage_follows
    refine ⟨rfl, fun reply p moved => ?_⟩
    cases moved <;> exact rfl
  rintro p result rfl
  apply follows_closes (fun p encoded => p = .saving record result encoded)
  · apply stage_follows
    refine ⟨rfl, fun reply p moved => ?_⟩
    cases moved <;> exact rfl
  rintro p encoded rfl
  apply follows_closes (fun p key => p = .completing record result key)
  · apply stage_follows
    refine ⟨rfl, fun reply p moved => ?_⟩
    cases moved <;> exact rfl
  rintro p key rfl
  apply follows_bind
  apply follows_tell
  refine ⟨rfl, fun now p moved => ?_⟩
  cases moved
  apply follows_closes (fun p _ =>
    p = .ended (.completed (record.markCompleted key result.width result.height now)))
  · apply stage_follows
    refine ⟨rfl, fun reply p moved => ?_⟩
    cases moved <;> exact rfl
  rintro p row rfl
  exact ⟨_, rfl, rfl⟩

theorem claimed_follows (record : Record) :
    Follows attempting (EndsIn (fun p held =>
        p = if held then .starting record else .ended .outrun) .broken)
      (.claiming record) (claimed record.id).run := by
  apply follows_recover
  apply follows_bind
  refine ⟨rfl, fun reply p moved => ?_⟩
  cases moved with
  | claimed record => exact rfl
  | refused record cause =>
      cases known : cause.isA .alreadyProcessing with
      | true =>
          simp only [Follows, known, if_true]
          exact rfl
      | false => simp only [Follows, known, Bool.false_eq_true, if_false, EndsIn]

theorem processImage_follows (id : String) :
    Follows attempting Closes (.looking id) (processImage id).run := by
  apply follows_closes (fun p record => p = if record.canBeProcessed then .claiming record
    else .ended (.passedBy record))
  · refine ⟨rfl, fun reply p moved => ?_⟩
    cases moved <;> exact rfl
  rintro p record rfl
  cases ready : record.canBeProcessed with
  | false =>
      simp only [processRecord, ready, Bool.false_eq_true, if_false]
      exact ⟨_, rfl, rfl⟩
  | true =>
      simp only [processRecord, ready, if_true]
      apply follows_closes _ (claimed_follows record)
      rintro p held rfl
      cases held with
      | false => exact ⟨_, rfl, rfl⟩
      | true =>
          apply follows_bind
          apply follows_tell
          refine ⟨rfl, fun now p moved => ?_⟩
          cases moved
          exact processClaimed_follows (record.markProcessing now)

end ImagePipeline.Workflow
