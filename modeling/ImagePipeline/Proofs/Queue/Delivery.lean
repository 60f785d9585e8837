import ImagePipeline.Proofs.Script.Contract
import ImagePipeline.Queue.Consumer

namespace ImagePipeline.Queue

open Script (Follows)
open Routine

def Entry.task (entry : Entry) : Except (List Issue) Task :=
  ((entry.fields.lookup payloadField).getD (.text "")).task

def Message.entry (message : Message) : Entry := ⟨message.id, message.fields⟩

def Genuine (published : String → Entry → Prop) :
    (r : ConsumeRequest) → consuming.Reply r → Prop
  | .claim stream .., .ok entries => ∀ entry ∈ entries, published stream entry
  | .read .., .ok answer => ∀ batch ∈ answer, ∀ entry ∈ batch.2, published batch.1 entry
  | _, _ => True

def justHandled : (r : ConsumeRequest) → consuming.Reply r → Option String
  | .handle task, .ok () => some task.imageId
  | _, _ => none

/-- The entry of this stream and identifier holds no task, or the one that was just handled. -/
def DoneWith (published : String → Entry → Prop) (handled : Option String) (stream id : String) :
    Prop :=
  ∃ entry, published stream entry ∧ entry.id = id ∧
    ∀ task, entry.task = .ok task → handled = some task.imageId

def delivering (published : String → Entry → Prop) : Contract consuming (Option String) where
  may handled r := ∀ stream group id, r = .acknowledge stream group id →
    DoneWith published handled stream id
  moves _ r reply handled := Genuine published r reply ∧ handled = justHandled r reply

namespace Consumer

variable {published : String → Entry → Prop} {handled : Option String}

def Fetches (published : String → Entry → Prop) (_ : Option String) :
    Except Failure (List Message) → Prop
  | .ok messages => ∀ message ∈ messages, published message.stream message.entry
  | .error _ => True

theorem ensureGroups_follows (consumer : Consumer) :
    Follows (delivering published) (fun _ _ => True) handled consumer.ensureGroups.run := by
  unfold ensureGroups
  induction consumer.streams generalizing handled with
  | nil => trivial
  | cons stream rest ih =>
      apply follows_then
      · apply follows_recovered
        · exact ⟨nofun, fun _ _ _ => trivial⟩
        · exact fun _ _ => trivial
      · exact fun _ _ => ih

theorem claimStale_follows (consumer : Consumer) (streams : List String) :
    Follows (delivering published) (Fetches published) handled (consumer.claimStale streams).run := by
  induction streams generalizing handled with
  | nil => exact fun message mem => absurd mem List.not_mem_nil
  | cons stream rest ih =>
      apply follows_bind
      refine ⟨nofun, fun reply handled moved => ?_⟩
      cases reply with
      | error cause => trivial
      | ok entries =>
          cases nothing : entries.isEmpty with
          | true =>
              simp only [Follows, nothing, if_true]
              exact ih
          | false =>
              simp only [Follows, nothing, Bool.false_eq_true, if_false]
              intro message mem
              obtain ⟨entry, among, rfl⟩ := List.mem_map.mp mem
              exact moved.1 entry among

theorem readNew_follows (consumer : Consumer) :
    Follows (delivering published) (Fetches published) handled consumer.readNew.run := by
  apply follows_bind
  refine ⟨nofun, fun reply handled moved => ?_⟩
  cases reply with
  | error cause => trivial
  | ok answer =>
      intro message mem
      obtain ⟨batch, among, mem⟩ := List.mem_flatMap.mp mem
      obtain ⟨entry, within, rfl⟩ := List.mem_map.mp mem
      exact moved.1 batch among entry within

theorem fetch_follows (consumer : Consumer) :
    Follows (delivering published) (Fetches published) handled consumer.fetch.run := by
  apply follows_bind
  apply (claimStale_follows consumer consumer.streams).mono
  intro handled result fetched
  cases result with
  | error cause => trivial
  | ok claimed =>
      cases nothing : claimed.isEmpty with
      | true =>
          simp only [nothing, if_true]
          exact readNew_follows consumer
      | false =>
          simp only [nothing, Bool.false_eq_true, if_false]
          exact fetched

theorem attempts_follows (consumer : Consumer) {body : Routine consuming (List Message)}
    (follows : ∀ handled, Follows (delivering published) (Fetches published) handled body.run) :
    Follows (delivering published) (Fetches published) handled
      (Retry.attempts consumer.strategy Failure.isQueue
        (fun seconds => Routine.ask (request (.pause seconds))) body).run := by
  unfold Retry.attempts
  generalize consumer.strategy.delay = delay
  induction consumer.strategy.retries generalizing handled delay with
  | zero => exact follows handled
  | succ retries ih =>
      apply follows_recover
      apply (follows handled).mono
      intro handled result fetched
      cases result with
      | ok messages => exact fetched
      | error cause =>
          by_cases worth : cause.isQueue
          · simp only [worth, if_true]
            apply follows_bind
            refine ⟨nofun, fun reply handled moved => ?_⟩
            cases reply with
            | ok _ => exact ih _
            | error refusal => trivial
          · simp only [worth, Bool.false_eq_true, if_false]
            trivial

theorem fetchWithRetry_follows (consumer : Consumer) :
    Follows (delivering published) (fun handled result => match result with
      | .ok (some messages) => Fetches published handled (.ok messages)
      | _ => True) handled consumer.fetchWithRetry.run := by
  apply follows_recover
  apply follows_bind
  apply (attempts_follows consumer fun _ => fetch_follows consumer).mono
  intro handled result fetched
  cases result with
  | ok messages => exact fetched
  | error cause =>
      by_cases known : cause.isQueue
      · simp only [known, if_true]
        trivial
      · simp only [known, Bool.false_eq_true, if_false]

theorem acknowledge_follows (consumer : Consumer) {message : Message}
    (done : DoneWith published handled message.stream message.id) :
    Follows (delivering published) (fun _ _ => True) handled (consumer.acknowledge message).run := by
  apply follows_recovered
  · refine ⟨?_, fun _ _ _ => trivial⟩
    intro stream group id same
    cases same
    exact done
  · exact fun _ _ => trivial

theorem handled_follows (task : Task) :
    Follows (delivering published) (fun after result =>
      result = .ok true ∧ after = some task.imageId ∨ result = .ok false) handled
      (Consumer.handled task).run := by
  apply follows_recover
  apply follows_bind
  refine ⟨nofun, fun reply after moved => ?_⟩
  cases reply with
  | ok _ => exact .inl ⟨rfl, moved.2⟩
  | error cause => exact .inr rfl

theorem exceededDeliveries_eq (consumer : Consumer) (unlimited : consumer.maxDeliveries ≤ 0)
    (message : Message) : consumer.exceededDeliveries message = pure false := by
  simp only [exceededDeliveries, unlimited, if_true]

theorem dispatch_of_malformed (consumer : Consumer) (unlimited : consumer.maxDeliveries ≤ 0)
    {message : Message} {issues : List Issue} (malformed : message.payload.task = .error issues) :
    consumer.dispatch message = (do
      consumer.acknowledge message
      return true) := by
  rw [dispatch, exceededDeliveries_eq consumer unlimited, malformed]
  cases message.redelivered <;> rfl

theorem dispatch_of_task (consumer : Consumer) (unlimited : consumer.maxDeliveries ≤ 0)
    {message : Message} {task : Task} (holds : message.payload.task = .ok task) :
    consumer.dispatch message = (do
      if ← Consumer.handled task then
        consumer.acknowledge message
        return true
      else return false) := by
  rw [dispatch, exceededDeliveries_eq consumer unlimited, holds]
  cases message.redelivered <;> rfl

theorem dispatch_follows (consumer : Consumer) (unlimited : consumer.maxDeliveries ≤ 0)
    {message : Message} (known : published message.stream message.entry) :
    Follows (delivering published) (fun _ _ => True) handled (consumer.dispatch message).run := by
  cases holds : message.payload.task with
  | error issues =>
      have done : DoneWith published handled message.stream message.id := by
        refine ⟨message.entry, known, rfl, fun task same => ?_⟩
        have absent : message.payload.task = .ok task := same
        rw [holds] at absent
        cases absent
      rw [dispatch_of_malformed consumer unlimited holds]
      exact follows_then (acknowledge_follows consumer done) fun _ _ => trivial
  | ok task =>
      rw [dispatch_of_task consumer unlimited holds]
      apply follows_bind
      apply (handled_follows task).mono
      rintro after result (⟨rfl, rfl⟩ | rfl)
      · have done : DoneWith published (some task.imageId) message.stream message.id := by
          refine ⟨message.entry, known, rfl, fun other same => ?_⟩
          have present : message.payload.task = .ok other := same
          rw [holds] at present
          cases present
          rfl
        exact follows_then (acknowledge_follows consumer done) fun _ _ => trivial
      · trivial

theorem dispatchAll_follows (consumer : Consumer) (unlimited : consumer.maxDeliveries ≤ 0)
    (messages : List Message)
    (known : ∀ message ∈ messages, published message.stream message.entry) :
    Follows (delivering published) (fun _ _ => True) handled (consumer.dispatchAll messages).run := by
  induction messages generalizing handled with
  | nil => trivial
  | cons message rest ih =>
      apply follows_bind
      apply follows_tell
      refine ⟨nofun, fun stop handled moved => ?_⟩
      cases stop with
      | true => trivial
      | false =>
          apply follows_then
          · exact dispatch_follows consumer unlimited (known message List.mem_cons_self)
          · exact fun _ _ => ih fun other among => known other (List.mem_cons_of_mem _ among)

theorem turn_follows (consumer : Consumer) (unlimited : consumer.maxDeliveries ≤ 0) :
    Follows (delivering published) (fun _ _ => True) handled consumer.turn.run := by
  apply follows_bind
  apply (fetchWithRetry_follows consumer).mono
  intro handled result fetched
  cases result with
  | error cause => trivial
  | ok answer =>
      cases answer with
      | some messages => exact dispatchAll_follows consumer unlimited messages fetched
      | none => exact ⟨nofun, fun reply handled moved => trivial⟩

theorem loop_follows (consumer : Consumer) (unlimited : consumer.maxDeliveries ≤ 0) (turns : Nat) :
    Follows (delivering published) (fun _ _ => True) handled (consumer.loop turns).run := by
  induction turns generalizing handled with
  | zero => trivial
  | succ turns ih =>
      apply follows_bind
      apply follows_tell
      refine ⟨nofun, fun stop handled moved => ?_⟩
      cases stop with
      | true => trivial
      | false => exact follows_then (turn_follows consumer unlimited) fun _ _ => ih

theorem run_follows (consumer : Consumer) (unlimited : consumer.maxDeliveries ≤ 0) (turns : Nat) :
    Follows (delivering published) (fun _ _ => True) handled (consumer.run turns).run := by
  exact follows_then (ensureGroups_follows consumer) fun _ _ => loop_follows consumer unlimited turns

end Consumer

end ImagePipeline.Queue
