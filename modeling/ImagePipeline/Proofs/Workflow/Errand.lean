import ImagePipeline.Proofs.Workflow.Attempt
import ImagePipeline.Workflow.Upload

namespace ImagePipeline.Workflow

open Script (Follows)
open Routine

inductive Removal where
  | looking (id : String)
  | clearing (id : String) (record : Record)
  | deleting (id : String)
  | ended

namespace Removal

def call? : Removal → Option Call
  | looking id => some (.find id)
  | clearing _ record => some (.deleteAssets (some record.uploadPath) record.processedPath)
  | deleting id => some (.delete id)
  | ended => none

inductive Step : Removal → (c : Call) → working.Reply c → Removal → Prop where
  | found (id record) : Step (looking id) (.find id) (.ok record) (clearing id record)
  | notFound (id cause) : Step (looking id) (.find id) (.error cause) ended
  | cleared (id record) : Step (clearing id record)
      (.deleteAssets (some record.uploadPath) record.processedPath) (.ok ()) (deleting id)
  | notCleared (id record cause) : Step (clearing id record)
      (.deleteAssets (some record.uploadPath) record.processedPath) (.error cause)
      (if cause.isApp then deleting id else ended)
  | deleted (id reply) : Step (deleting id) (.delete id) reply ended

def image? : Removal → Option String
  | looking id => some id
  | clearing id _ => some id
  | deleting id => some id
  | ended => none

theorem Step.image?_eq {p p' : Removal} {c : Call} {reply : working.Reply c}
    (step : Step p c reply p') : p'.image? = p.image? ∨ p'.image? = none := by
  cases step with
  | found id record => exact .inl rfl
  | notFound => exact .inr rfl
  | cleared id record => exact .inl rfl
  | notCleared id record cause =>
      split
      · exact .inl rfl
      · exact .inr rfl
  | deleted => exact .inr rfl

theorem step_total {p : Removal} {c : Call} (allowed : p.call? = some c) (reply : working.Reply c) :
    ∃ p', Step p c reply p' := by
  cases p with
  | ended => cases allowed
  | deleting id => cases allowed; exact ⟨_, .deleted id reply⟩
  | looking id =>
      cases allowed
      cases reply with
      | ok record => exact ⟨_, .found id record⟩
      | error cause => exact ⟨_, .notFound id cause⟩
  | clearing id record =>
      cases allowed
      cases reply with
      | ok _ => exact ⟨_, .cleared id record⟩
      | error cause => exact ⟨_, .notCleared id record cause⟩

end Removal

def removing : Contract working Removal where
  may p c := p.call? = some c
  moves := Removal.Step

theorem remove_follows (id : String) :
    Follows removing (fun p _ => p = .ended) (.looking id) (remove id).run := by
  apply follows_bind
  refine ⟨rfl, fun reply p moved => ?_⟩
  cases moved with
  | notFound id cause => exact rfl
  | found id record =>
      apply follows_bind
      apply follows_recover
      refine ⟨rfl, fun reply p moved => ?_⟩
      cases moved with
      | cleared id record =>
          refine ⟨rfl, fun reply p moved => ?_⟩
          cases moved
          exact rfl
      | notCleared id record cause =>
          cases known : cause.isApp with
          | false => simp only [Follows, known, Bool.false_eq_true, if_false]
          | true =>
              simp only [Follows, known, if_true]
              refine ⟨rfl, fun reply p moved => ?_⟩
              cases moved
              exact rfl

inductive Intake where
  | naming (upload : Upload) (kind : ProcessingType) (extension : String)
  | saving (upload : Upload) (kind : ProcessingType) (extension id : String)
  | dating (upload : Upload) (kind : ProcessingType) (id key : String)
  | creating (draft : Draft) (kind : ProcessingType) (id key : String)
  | discarding (key : String)
  | announcing (kind : ProcessingType) (id : String)
  | ended

namespace Intake

def call? : Intake → Option Call
  | naming .. => some .newId
  | saving upload _ extension id => some (.saveUpload (id ++ extension) upload.source)
  | dating .. => some .now
  | creating draft .. => some (.create draft)
  | discarding key => some (.deleteAsset (some key))
  | announcing kind id => some (.publish id kind)
  | ended => none

inductive Step : Intake → (c : Call) → working.Reply c → Intake → Prop where
  | named (upload kind extension) (id : String) :
      Step (naming upload kind extension) .newId id (saving upload kind extension id)
  | saved (upload kind extension id key) : Step (saving upload kind extension id)
      (.saveUpload (id ++ extension) upload.source) (.ok key) (dating upload kind id key)
  | notSaved (upload kind extension id cause) : Step (saving upload kind extension id)
      (.saveUpload (id ++ extension) upload.source) (.error cause) ended
  | dated (upload kind id key) (now : Instant) : Step (dating upload kind id key) .now now
      (creating (upload.draft id key kind now) kind id key)
  | created (draft kind id key row) :
      Step (creating draft kind id key) (.create draft) (.ok row) (announcing kind id)
  | notCreated (draft kind id key cause) :
      Step (creating draft kind id key) (.create draft) (.error cause) (discarding key)
  | discarded (key reply) : Step (discarding key) (.deleteAsset (some key)) reply ended
  | announced (kind id reply) : Step (announcing kind id) (.publish id kind) reply ended

theorem step_total {p : Intake} {c : Call} (allowed : p.call? = some c) (reply : working.Reply c) :
    ∃ p', Step p c reply p' := by
  cases p with
  | ended => cases allowed
  | naming upload kind extension => cases allowed; exact ⟨_, .named upload kind extension reply⟩
  | dating upload kind id key => cases allowed; exact ⟨_, .dated upload kind id key reply⟩
  | discarding key => cases allowed; exact ⟨_, .discarded key reply⟩
  | announcing kind id => cases allowed; exact ⟨_, .announced kind id reply⟩
  | saving upload kind extension id =>
      cases allowed
      cases reply with
      | ok key => exact ⟨_, .saved upload kind extension id key⟩
      | error cause => exact ⟨_, .notSaved upload kind extension id cause⟩
  | creating draft kind id key =>
      cases allowed
      cases reply with
      | ok row => exact ⟨_, .created draft kind id key row⟩
      | error cause => exact ⟨_, .notCreated draft kind id key cause⟩

def first (admission : Admission) (upload : Upload) : Intake :=
  match admission.check upload.filename upload.size upload.kind with
  | .ok (kind, extension) => naming upload kind extension
  | .error _ => ended

end Intake

def takingIn : Contract working Intake where
  may p c := p.call? = some c
  moves := Intake.Step

theorem discard_follows (key : String) :
    Follows takingIn (fun p _ => p = .ended) (.discarding key) (Upload.discard key).run := by
  apply follows_recover
  refine ⟨rfl, fun reply p moved => ?_⟩
  cases moved
  cases reply with
  | ok _ => exact rfl
  | error cause =>
      cases known : cause.isApp with
      | true =>
          simp only [Follows, known, if_true]
          exact rfl
      | false => simp only [Follows, known, Bool.false_eq_true, if_false]

theorem record_follows (draft : Draft) (kind : ProcessingType) (id key : String) :
    Follows takingIn (fun p result => match result with
      | .ok _ => p = .announcing kind id
      | .error _ => p = .ended) (.creating draft kind id key) (Upload.record draft key).run := by
  apply follows_recover
  refine ⟨rfl, fun reply p moved => ?_⟩
  cases moved with
  | created => exact rfl
  | notCreated draft kind id key cause =>
      simp only [Follows, if_true]
      apply follows_bind
      apply (discard_follows key).mono
      intro p result ended
      cases result with
      | ok _ => exact follows_throw ended
      | error _ => exact ended

theorem announce_follows (kind : ProcessingType) (id : String) :
    Follows takingIn (fun p _ => p = .ended) (.announcing kind id) (Upload.announce id kind).run := by
  apply follows_recover
  apply follows_bind
  refine ⟨rfl, fun reply p moved => ?_⟩
  cases moved
  cases reply with
  | ok _ => exact rfl
  | error cause =>
      cases known : cause.isApp with
      | true =>
          simp only [Follows, known, if_true]
          exact rfl
      | false => simp only [Follows, known, Bool.false_eq_true, if_false]

theorem accept_follows (admission : Admission) (upload : Upload) :
    Follows takingIn (fun p _ => p = .ended) (.first admission upload)
      (upload.accept admission).run := by
  unfold Intake.first Upload.accept
  cases admission.check upload.filename upload.size upload.kind with
  | error issue => exact rfl
  | ok admitted =>
      obtain ⟨kind, extension⟩ := admitted
      apply follows_bind
      apply follows_pure
      apply follows_bind
      apply follows_tell
      refine ⟨rfl, fun id p moved => ?_⟩
      cases moved
      apply follows_bind
      refine ⟨rfl, fun reply p moved => ?_⟩
      cases moved with
      | notSaved => exact rfl
      | saved upload kind extension id key =>
          apply follows_bind
          apply follows_tell
          refine ⟨rfl, fun now p moved => ?_⟩
          cases moved
          apply follows_bind
          apply (record_follows _ kind id key).mono
          intro p result holds
          cases result with
          | error _ => exact holds
          | ok row =>
              subst holds
              apply follows_bind
              apply (announce_follows kind id).mono
              intro p result ended
              cases result with
              | ok _ => exact follows_pure ended
              | error _ => exact ended

/-- What is done for an image that was taken in. -/
inductive Chore where
  | process (id : String)
  | handle (id : String)
  | remove (id : String)

inductive Errand where
  | upload (admission : Admission) (source : Upload)
  | chore (chore : Chore)

namespace Chore

def image : Chore → String
  | process id => id
  | handle id => id
  | remove id => id

def service : Chore → Service Unit
  | process id => processImage id
  | handle id => Workflow.handle id
  | remove id => Workflow.remove id

end Chore

def Errand.service : Errand → Service Unit
  | upload admission source => do
    let _ ← source.accept admission
  | chore work => work.service

inductive Activity where
  | peeking (id : String)
  | attempt (p : Attempt)
  | removal (p : Removal)
  | intake (p : Intake)

namespace Activity

def call? : Activity → Option Call
  | peeking id => some (.find id)
  | attempt p => p.call?
  | removal p => p.call?
  | intake p => p.call?

inductive Step : Activity → (c : Call) → working.Reply c → Activity → Prop where
  | peeked (id record) : Step (peeking id) (.find id) (.ok record) (attempt (.looking id))
  | notPeeked (id cause) : Step (peeking id) (.find id) (.error cause) (attempt (.broken cause))
  | attempt {p p' : Attempt} {c : Call} {reply : working.Reply c} (step : p.Step c reply p') :
      Step (attempt p) c reply (attempt p')
  | removal {p p' : Removal} {c : Call} {reply : working.Reply c} (step : p.Step c reply p') :
      Step (removal p) c reply (removal p')
  | intake {p p' : Intake} {c : Call} {reply : working.Reply c} (step : p.Step c reply p') :
      Step (intake p) c reply (intake p')

def holding? : Activity → Option String
  | attempt p => p.holding?
  | _ => none

variable {a a' : Activity} {c : Call} {reply : working.Reply c} {id : String}

theorem step_total (allowed : a.call? = some c) (reply : working.Reply c) :
    ∃ a', Step a c reply a' := by
  cases a with
  | peeking id =>
      cases allowed
      cases reply with
      | ok record => exact ⟨_, .peeked id record⟩
      | error cause => exact ⟨_, .notPeeked id cause⟩
  | attempt p =>
      obtain ⟨p', step⟩ := Attempt.step_total allowed reply
      exact ⟨_, .attempt step⟩
  | removal p =>
      obtain ⟨p', step⟩ := Removal.step_total allowed reply
      exact ⟨_, .removal step⟩
  | intake p =>
      obtain ⟨p', step⟩ := Intake.step_total allowed reply
      exact ⟨_, .intake step⟩

theorem holding?_of_ended (ended : a.call? = none) : a.holding? = none := by
  cases a with
  | attempt p => exact p.holding?_of_ended ended
  | _ => rfl

theorem holding?_of_update {record : Record} (allowed : a.call? = some (.update record)) :
    a.holding? = some record.id := by
  cases a with
  | peeking => cases allowed
  | attempt p => exact p.holding?_of_update allowed
  | removal p => cases p <;> cases allowed
  | intake p => cases p <;> cases allowed

theorem Step.holds (step : Step a c reply a') (held : a.holding? = some id) :
    a'.holding? = some id ∨ a'.call? = none := by
  cases step with
  | attempt step => exact step.holds held
  | _ => cases held

theorem Step.held_before (step : Step a c reply a') (held : a'.holding? = some id) :
    a.holding? = some id ∨ (⟨c, reply⟩ : Event working) = ⟨.claim id, .ok ()⟩ := by
  cases step with
  | attempt step => exact step.held_before held
  | _ => cases held

theorem Step.held_of_claimed (step : Step a (.claim id) (.ok ()) a') : a'.holding? = some id := by
  cases step with
  | attempt step => exact step.held_of_claimed
  | removal step => cases step
  | intake step => cases step

theorem Step.ended_of_stored {record row : Record} (step : Step a (.update record) (.ok row) a') :
    a'.call? = none := by
  cases step with
  | attempt step => exact step.ended_of_stored
  | removal step => cases step
  | intake step => cases step

end Activity

def acting : Contract working Activity where
  may p c := p.call? = some c
  moves := Activity.Step

namespace Chore

def first : Chore → Activity
  | process id => .attempt (.looking id)
  | handle id => .peeking id
  | remove id => .removal (.looking id)

end Chore

def Errand.first : Errand → Activity
  | upload admission source => .intake (.first admission source)
  | chore work => work.first

def Chore.Does (chore : Chore) : Activity → Prop
  | .peeking id => chore = .handle id
  | .attempt p => ∀ id, p.image? = some id → chore = .process id ∨ chore = .handle id
  | .removal p => ∀ id, p.image? = some id → chore = .remove id
  | .intake _ => False

theorem Chore.does_first (chore : Chore) : chore.Does chore.first := by
  cases chore with
  | process id => intro other same; cases same; exact .inl rfl
  | handle id => exact rfl
  | remove id => intro other same; cases same; exact rfl

theorem Chore.Does.step {chore : Chore} {a a' : Activity} {c : Call} {reply : working.Reply c}
    (does : chore.Does a) (step : a.Step c reply a')
    (honest : ∀ id record, (⟨c, reply⟩ : Event working) = ⟨.find id, .ok record⟩ → record.id = id) :
    chore.Does a' := by
  cases step with
  | peeked id record => intro other same; cases same; exact .inr does
  | notPeeked id cause => intro other same; cases same
  | attempt step =>
      intro id same
      rcases step.image?_eq honest with kept | ended
      · exact does id (kept ▸ same)
      · rw [ended] at same
        cases same
  | removal step =>
      intro id same
      rcases step.image?_eq with kept | ended
      · exact does id (kept ▸ same)
      · rw [ended] at same
        cases same
  | intake => exact does

theorem Chore.Does.image_eq {chore : Chore} {a : Activity} {id : String} (does : chore.Does a)
    (held : a.holding? = some id) : chore.image = id := by
  cases a with
  | attempt p =>
      rcases does id (p.image?_of_holding? held) with rfl | rfl
      · rfl
      · rfl
  | _ => cases held

variable {α : Type}

theorem acting_of_attempting {post : Attempt → α → Prop} {p : Attempt} {script : Script working α}
    (follows : Follows attempting post p script) :
    Follows acting (fun q value => ∃ p', q = .attempt p' ∧ post p' value) (.attempt p) script := by
  apply follows.embed
  · intro p c allowed
    exact allowed
  · intro p c reply q moved
    cases moved with
    | attempt step => exact ⟨_, rfl, step⟩

theorem acting_of_removing {post : Removal → α → Prop} {p : Removal} {script : Script working α}
    (follows : Follows removing post p script) :
    Follows acting (fun q value => ∃ p', q = .removal p' ∧ post p' value) (.removal p) script := by
  apply follows.embed
  · intro p c allowed
    exact allowed
  · intro p c reply q moved
    cases moved with
    | removal step => exact ⟨_, rfl, step⟩

theorem acting_of_takingIn {post : Intake → α → Prop} {p : Intake} {script : Script working α}
    (follows : Follows takingIn post p script) :
    Follows acting (fun q value => ∃ p', q = .intake p' ∧ post p' value) (.intake p) script := by
  apply follows.embed
  · intro p c allowed
    exact allowed
  · intro p c reply q moved
    cases moved with
    | intake step => exact ⟨_, rfl, step⟩

def Ending.outcome : Ending → Except Failure Unit
  | .broken cause => if cause.isA .imageNotFound then .ok () else .error cause
  | _ => .ok ()

def Settles (a : Activity) (result : Except Failure Unit) : Prop :=
  ∃ how : Ending, a = .attempt (.ended how) ∧ result = how.outcome

theorem handle_follows (id : String) :
    Follows acting Settles (.peeking id) (handle id).run := by
  apply follows_recover
  apply follows_bind
  refine ⟨rfl, fun reply p moved => ?_⟩
  cases moved with
  | notPeeked id cause =>
      cases known : cause.isA .imageNotFound with
      | true =>
          simp only [Follows, known, if_true]
          exact ⟨.broken cause, rfl, by simp only [Ending.outcome, known, if_true]⟩
      | false =>
          simp only [Follows, known, Bool.false_eq_true, if_false]
          exact ⟨.broken cause, rfl, by simp [Ending.outcome, known]⟩
  | peeked id record =>
      apply (acting_of_attempting (processImage_follows id)).mono
      rintro q result ⟨p, rfl, how, rfl, rfl⟩
      cases how with
      | broken cause =>
          cases known : cause.isA .imageNotFound with
          | true =>
              simp only [Ending.result, known, if_true]
              exact ⟨.broken cause, rfl, by simp only [Ending.outcome, known, if_true]⟩
          | false =>
              simp only [Ending.result, known, Bool.false_eq_true, if_false]
              exact ⟨.broken cause, rfl, by simp [Ending.outcome, known]⟩
      | completed record => exact ⟨.completed record, rfl, rfl⟩
      | passedBy record => exact ⟨.passedBy record, rfl, rfl⟩
      | outrun => exact ⟨.outrun, rfl, rfl⟩

theorem Chore.follows (chore : Chore) :
    Follows acting (fun _ _ => True) chore.first chore.service.run := by
  cases chore with
  | process id =>
      exact (acting_of_attempting (processImage_follows id)).mono fun _ _ _ => trivial
  | handle id => exact (handle_follows id).mono fun _ _ _ => trivial
  | remove id => exact (acting_of_removing (remove_follows id)).mono fun _ _ _ => trivial

theorem Errand.follows (errand : Errand) :
    Follows acting (fun _ _ => True) errand.first errand.service.run := by
  cases errand with
  | chore work => exact work.follows
  | upload admission source =>
      apply follows_bind
      apply (acting_of_takingIn (accept_follows admission source)).mono
      intro a result _
      cases result with
      | ok row => exact follows_pure trivial
      | error cause => trivial

end ImagePipeline.Workflow
