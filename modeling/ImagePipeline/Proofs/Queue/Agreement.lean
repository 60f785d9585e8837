import ImagePipeline.Proofs.Queue.Acknowledgement
import ImagePipeline.Proofs.Script.Repetition
import Mathlib.Data.List.Nodup
import Mathlib.Logic.Function.Basic

namespace ImagePipeline.Queue

open Script (Ran)
open Routine

theorem partitionStream_injective (topic : String) : Function.Injective (partitionStream topic) := by
  have readBack : Function.LeftInverse (fun text => Nat.ofDigitChars 10 text.toList 0) Nat.repr :=
    fun n => by simp only [Nat.toList_repr, Nat.ofDigitChars_ten_toDigits]
  intro m n same
  exact readBack.injective ((String.append_right_inj (topic ++ ":")).mp same)

theorem nodup_streamsOf (topic : String) (partitions : Int) : (streamsOf topic partitions).Nodup := by
  unfold streamsOf
  split
  · exact List.nodup_singleton topic
  · exact List.nodup_range.map (partitionStream_injective topic)

theorem streamFor_mem_streamsOf (topic : String) (partitions : Int) (imageId : String) :
    streamFor topic partitions imageId ∈ streamsOf topic partitions := by
  unfold streamFor streamsOf
  split
  · exact List.mem_singleton_self topic
  · have positive : 0 < partitions.toNat := by omega
    exact List.mem_map_of_mem (List.mem_range.mpr (Nat.mod_lt _ positive))

def Vain (stream payload : String) : Event publishing → Prop
  | ⟨.append stream' payload', reply⟩ =>
    stream' = stream ∧ payload' = payload ∧ ∃ cause, reply = .error cause ∧ cause.isQueue = true
  | ⟨.pause _, reply⟩ => reply = .ok ()

namespace Publisher

def reported : Except Failure String → Except Failure String
  | .ok id => .ok id
  | .error cause => .error (if cause.isQueue then sendingFailed cause else cause)

/-- Every attempt is to append an entry, and how the last one ended is the result. It ended in an answer,
or in a pause before the next one that failed. -/
def Appends (stream payload : String) (events : List (Event publishing))
    (result : Except Failure String) : Prop :=
  ∃ vain last, (∀ e ∈ vain, Vain stream payload e) ∧ events = vain ++ [last] ∧
    (last = ⟨.append stream payload, result⟩ ∨
      ∃ seconds cause, last = ⟨.pause seconds, .error cause⟩ ∧ result = .error cause)

variable {σ : Type} {answers : (r : PublishRequest) → σ → publishing.Reply r → σ → Prop}
  {state state' : σ} {events : List (Event publishing)} {result : Except Failure String}
  {stream payload : String}

theorem Appends.after {before : List (Event publishing)} (appends : Appends stream payload events result)
    (vain : ∀ e ∈ before, Vain stream payload e) : Appends stream payload (before ++ events) result := by
  obtain ⟨more, last, all, rfl, ends⟩ := appends
  exact ⟨before ++ more, last, List.forall_mem_append.mpr ⟨vain, all⟩, (List.append_assoc ..).symm, ends⟩

theorem ran_loop {retries : Nat} {delay backoff : Float}
    (ran : Ran answers (Retry.loop Failure.isQueue
      (fun seconds => Routine.ask (I := publishing) (Script.request (I := publishing) (.pause seconds)))
      backoff
      (Routine.ask (I := publishing) (Script.request (I := publishing) (.append stream payload)))
      retries delay).run state events result state') : Appends stream payload events result := by
  have once {state state' : σ} {events : List (Event publishing)} {result : Except Failure String}
      (ran : Ran answers (Routine.ask (I := publishing)
        (Script.request (I := publishing) (.append stream payload))).run state events result state') :
      Appends stream payload events result := by
    obtain ⟨rfl, -⟩ := Script.ran_request ran
    exact ⟨[], _, nofun, rfl, .inl rfl⟩
  induction retries generalizing state events delay with
  | zero => exact once ran
  | succ retries ih =>
      rcases Retry.ran_loop_succ ran with
        ⟨tried, -⟩ | ⟨cause, _, _, known, tried, ⟨refusal, _, rfl, rfl, paused⟩ | ⟨_, _, _, rfl, paused, again⟩⟩
      · exact once tried
      all_goals
        obtain ⟨rfl, -⟩ := Script.ran_request tried
        obtain ⟨rfl, -⟩ := Script.ran_request paused
        have failed : Vain stream payload ⟨.append stream payload, .error cause⟩ :=
          ⟨rfl, rfl, cause, rfl, known⟩
      · exact ⟨[_], _, List.forall_mem_singleton.mpr failed, rfl, .inr ⟨delay, refusal, rfl, rfl⟩⟩
      · have vain : ∀ e ∈ [⟨.append stream payload, .error cause⟩, ⟨.pause delay, .ok ()⟩],
            Vain stream payload e :=
          List.forall_mem_cons.mpr ⟨failed, List.forall_mem_singleton.mpr rfl⟩
        exact (ih again).after vain

theorem ran_publish {publisher : Publisher} {task : Task}
    (ran : Ran answers (publisher.publish task).run state events result state') :
    ∃ ended, Appends (streamFor publisher.topic publisher.partitions task.imageId) task.wire events ended ∧
      result = reported ended := by
  rcases ran_recover ran with ⟨sent, passes⟩ | ⟨cause, _, _, _, known, rfl, sent, rfl, rfl, -⟩
  · refine ⟨result, ran_loop sent, ?_⟩
    cases result with
    | ok id => rfl
    | error cause => simp [reported, passes cause rfl]
  · exact ⟨.error cause, (List.append_nil _).symm ▸ ran_loop sent, by simp [reported, known]⟩

theorem publishOffered_eq (publisher : Publisher) (task : Task) :
    publisher.publishOffered (.text task.imageId) (.text task.kind.name) = publisher.publish task := by
  have made : Task.ofMembers (some (.text task.imageId)) (some (.text task.kind.name)) = .ok task :=
    Task.ofMembers_eq_ok_iff.mpr ⟨rfl, rfl⟩
  simp only [publishOffered, made]

/-- Whenever the task is published it is appended to the stream, and what that came to is reported. -/
def PutsOn (publisher : Publisher) (stream : String) (task : Task) : Prop :=
  ∀ (σ : Type) (answers : (r : PublishRequest) → σ → publishing.Reply r → σ → Prop) (state state' : σ)
    (events : List (Event publishing)) (result : Except Failure String),
    Ran answers (publisher.publishOffered (.text task.imageId) (.text task.kind.name)).run state events
      result state' →
    ∃ ended, Appends stream task.wire events ended ∧ result = reported ended

theorem putsOn_streamFor (publisher : Publisher) (task : Task) :
    publisher.PutsOn (streamFor publisher.topic publisher.partitions task.imageId) task := by
  intro σ answers state state' events result ran
  rw [publishOffered_eq] at ran
  exact ran_publish ran

end Publisher

namespace Consumer

/-- An entry that holds the written task, as text or as bytes, is read as the task, and unless it came
too often the handler gets it. -/
def HandsOver (consumer : Consumer) (stream : String) (task : Task) : Prop :=
  ∀ payload : Payload, payload.text? = some task.wire → payload.task = .ok task ∧
    ∀ (id : String) (redelivered : Bool) (answer : (r : ConsumeRequest) → consuming.Reply r),
      let message := Message.ofEntry stream redelivered ⟨id, [(payloadField, payload)]⟩
      consumer.QueueFailsAsQueue answer message → ¬ consumer.Exceeded answer message →
      ∃ counted done, (done = true ↔ answer (.handle task) = .ok ()) ∧
        (counted = [] ∨ counted = [.deliveries stream consumer.group id]) ∧
        (consumer.dispatch message).run.transcript answer =
          (.ok done, counted ++ .handle task ::
            if done then [.acknowledge stream consumer.group id] else [])

theorem transcript_of_within {consumer : Consumer}
    {answer : (r : ConsumeRequest) → consuming.Reply r} {message : Message} {task : Task}
    (queueOnly : consumer.QueueFailsAsQueue answer message) (carries : message.payload.Carries task)
    (within : ¬ consumer.Exceeded answer message) :
    ∃ counted done, (done = true ↔ answer (.handle task) = .ok ()) ∧
      (counted = [] ∨ counted = [.deliveries message.stream consumer.group message.id]) ∧
      (consumer.dispatch message).run.transcript answer =
        (.ok done, counted ++ .handle task ::
          if done then [.acknowledge message.stream consumer.group message.id] else []) := by
  obtain ⟨exceeded, counted, before, above, quiet⟩ := transcript_cameTooOften queueOnly
  obtain ⟨done, succeeds, run⟩ := transcript_of_task queueOnly carries
  obtain rfl : exceeded = false := Bool.eq_false_iff.mpr fun found => within (above.mp found)
  refine ⟨counted, done, succeeds, quiet, ?_⟩
  rw [dispatch_eq]
  exact Script.transcript_bind_ok before run

theorem handsOver (consumer : Consumer) (stream : String) (task : Task) :
    consumer.HandsOver stream task := by
  intro payload written
  have carries : payload.Carries task := Payload.carries_of_wire written
  refine ⟨Payload.task_eq_ok_iff.mpr carries, ?_⟩
  intro id redelivered answer message queueOnly within
  exact transcript_of_within queueOnly carries within

end Consumer

/-- All tasks of an image go to one of the streams of the topic, and a consumer of these hands the
handler each task as it was published. -/
theorem published_dispatched (publisher : Publisher) (consumer : Consumer)
    (same : consumer.streams = streamsOf publisher.topic publisher.partitions) (imageId : String) :
    consumer.streams.Nodup ∧ ∃ stream ∈ consumer.streams,
      stream = streamFor publisher.topic publisher.partitions imageId ∧
      ∀ task : Task, task.imageId = imageId →
        publisher.PutsOn stream task ∧ consumer.HandsOver stream task ∧
        (Payload.text task.wire).text? = some task.wire ∧
        (Payload.bytes task.wire.toUTF8).text? = some task.wire := by
  rw [same]
  refine ⟨nodup_streamsOf _ _, _, streamFor_mem_streamsOf _ _ imageId, rfl, ?_⟩
  rintro task rfl
  exact ⟨publisher.putsOn_streamFor task, consumer.handsOver _ task, rfl, Payload.text?_toUTF8 _⟩

def awkwardTask : Task := ⟨"a\"\\\x01é😀", .watermark, by decide⟩

def spreadPublisher : Publisher := { (default : Publisher) with topic := "images", partitions := 3 }

def spreadConsumer : Consumer :=
  { Consumer.patientConsumer with streams := ["images:0", "images:1", "images:2"] }

theorem awkwardTask_dispatched :
    spreadConsumer.streams = streamsOf spreadPublisher.topic spreadPublisher.partitions ∧
    ∃ stream ∈ ["images:0", "images:1", "images:2"], spreadPublisher.PutsOn stream awkwardTask ∧
      ∃ counted, (spreadConsumer.dispatch (Message.ofEntry stream true
          ⟨"1-0", [("data", .bytes awkwardTask.wire.toUTF8)]⟩)).run.transcript Consumer.unreachableQueue =
        (.ok true, counted ++ [.handle awkwardTask, .acknowledge stream "workers" "1-0"]) := by
  have same : spreadConsumer.streams = streamsOf spreadPublisher.topic spreadPublisher.partitions := by
    decide
  obtain ⟨-, stream, mem, -, agree⟩ := published_dispatched spreadPublisher spreadConsumer same
    awkwardTask.imageId
  obtain ⟨puts, hands, -, bytes⟩ := agree awkwardTask rfl
  refine ⟨same, stream, mem, puts, ?_⟩
  obtain ⟨counted, done, succeeds, -, run⟩ :=
    (hands _ bytes).2 "1-0" true Consumer.unreachableQueue
      ⟨by rintro cause ⟨⟩; rfl, by rintro cause ⟨⟩; rfl⟩ (by rintro ⟨-, -, count, ⟨⟩, -⟩)
  obtain rfl : done = true := succeeds.mpr rfl
  exact ⟨counted, run⟩

end ImagePipeline.Queue
