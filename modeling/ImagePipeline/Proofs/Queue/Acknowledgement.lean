import ImagePipeline.Proofs.Script.Running
import ImagePipeline.Proofs.Task
import ImagePipeline.Queue.Consumer

namespace ImagePipeline

namespace Queue

def ConsumeRequest.acknowledges : ConsumeRequest → Bool
  | .acknowledge .. => true
  | _ => false

def ConsumeRequest.handles : ConsumeRequest → Bool
  | .handle _ => true
  | _ => false

namespace Consumer

def Exceeded (consumer : Consumer) (answer : (r : ConsumeRequest) → consuming.Reply r)
    (message : Message) : Prop :=
  message.redelivered = true ∧ 0 < consumer.maxDeliveries ∧
    ∃ count, answer (.deliveries message.stream consumer.group message.id) = .ok (some count) ∧
      consumer.maxDeliveries < count

/-- The message came too often, carries no task, or its task can be handled. -/
def Settled (consumer : Consumer) (answer : (r : ConsumeRequest) → consuming.Reply r)
    (message : Message) : Prop :=
  consumer.Exceeded answer message ∨ (∀ task, ¬ message.payload.Carries task) ∨
    ∃ task, message.payload.Carries task ∧ answer (.handle task) = .ok ()

variable {consumer : Consumer} {answer : (r : ConsumeRequest) → consuming.Reply r}
  {message : Message} {task : Task}

/-- What is expected of the queue: where it fails, it is the queue that fails. -/
structure QueueFailsAsQueue (consumer : Consumer) (answer : (r : ConsumeRequest) → consuming.Reply r)
    (message : Message) : Prop where
  counting : ∀ cause, answer (.deliveries message.stream consumer.group message.id) = .error cause →
    cause.isQueue = true
  acknowledging : ∀ cause, answer (.acknowledge message.stream consumer.group message.id) =
    .error cause → cause.isQueue = true

theorem transcript_acknowledge (queueOnly : consumer.QueueFailsAsQueue answer message) :
    (consumer.acknowledge message).run.transcript answer =
      (.ok (), [.acknowledge message.stream consumer.group message.id]) := by
  cases reply : answer (.acknowledge message.stream consumer.group message.id) with
  | ok _ => exact Script.transcript_recover_ok (congrArg (·, [_]) reply)
  | error cause =>
      have asked : (Routine.ask (request
          (.acknowledge message.stream consumer.group message.id))).run.transcript answer =
            (.error cause, [.acknowledge message.stream consumer.group message.id]) :=
        congrArg (·, [_]) reply
      have known := queueOnly.acknowledging cause reply
      exact Script.transcript_recover_error asked known rfl

theorem transcript_acknowledged (queueOnly : consumer.QueueFailsAsQueue answer message) :
    (do consumer.acknowledge message; return true : Routine consuming Bool).run.transcript answer =
      (.ok true, [.acknowledge message.stream consumer.group message.id]) :=
  Script.transcript_bind_ok (transcript_acknowledge queueOnly) rfl

theorem transcript_handled (answer : (r : consuming.Request) → consuming.Reply r) (task : Task) :
    ∃ done, (Consumer.handled task).run.transcript answer = (.ok done, [.handle task]) ∧
      (done = true ↔ answer (.handle task) = .ok ()) := by
  cases reply : answer (.handle task) with
  | ok _ =>
      have asked : (Routine.ask (request (.handle task))).run.transcript answer =
          (.ok (), [.handle task]) := congrArg (·, [_]) reply
      refine ⟨true, Script.transcript_recover_ok ?_, by simp⟩
      exact Script.transcript_bind_ok asked rfl
  | error cause =>
      have asked : (Routine.ask (request (.handle task))).run.transcript answer =
          (.error cause, [.handle task]) := congrArg (·, [_]) reply
      refine ⟨false, ?_, by simp⟩
      exact Script.transcript_recover_error (Script.transcript_bind_error asked) rfl rfl

def cameTooOften (consumer : Consumer) (message : Message) : Routine consuming Bool :=
  if message.redelivered then consumer.exceededDeliveries message else pure false

theorem transcript_cameTooOften (queueOnly : consumer.QueueFailsAsQueue answer message) :
    ∃ exceeded counted,
      (consumer.cameTooOften message).run.transcript answer = (.ok exceeded, counted) ∧
      (exceeded = true ↔ consumer.Exceeded answer message) ∧
      (counted = [] ∨ counted = [.deliveries message.stream consumer.group message.id]) := by
  unfold cameTooOften
  cases again : message.redelivered with
  | false => exact ⟨false, [], rfl, by simp [Exceeded, again], .inl rfl⟩
  | true =>
      by_cases unlimited : consumer.maxDeliveries ≤ 0
      · have within : ¬ consumer.Exceeded answer message := fun exceeded =>
          absurd exceeded.2.1 (Int.not_lt.mpr unlimited)
        refine ⟨false, [], ?_, by simp [within], .inl rfl⟩
        simp only [exceededDeliveries, unlimited, if_true]
        rfl
      · simp only [exceededDeliveries, unlimited, if_true, if_false]
        have limited : 0 < consumer.maxDeliveries := Int.not_le.mp unlimited
        cases reply : answer (.deliveries message.stream consumer.group message.id) with
        | ok count =>
            have asked : (Routine.ask (request
                (.deliveries message.stream consumer.group message.id))).run.transcript answer =
                (.ok count, [.deliveries message.stream consumer.group message.id]) :=
              congrArg (·, [_]) reply
            refine ⟨decide (consumer.maxDeliveries < count.getD 0), _,
              Script.transcript_recover_ok (Script.transcript_bind_ok asked rfl), ?_, .inr rfl⟩
            cases count with
            | none => simpa [Exceeded, reply] using Int.le_of_lt limited
            | some count => simp [Exceeded, reply, again, limited]
        | error cause =>
            have asked : (Routine.ask (request
                (.deliveries message.stream consumer.group message.id))).run.transcript answer =
                (.error cause, [.deliveries message.stream consumer.group message.id]) :=
              congrArg (·, [_]) reply
            have known := queueOnly.counting cause reply
            exact ⟨false, _, Script.transcript_recover_error (Script.transcript_bind_error asked)
              known rfl, by simp [Exceeded, reply], .inr rfl⟩

def dispatchWithin (consumer : Consumer) (message : Message) : Routine consuming Bool := do
  match message.payload.task with
  | .error _ =>
    consumer.acknowledge message
    return true
  | .ok task =>
    if ← Consumer.handled task then
      consumer.acknowledge message
      return true
    else return false

theorem dispatch_eq (consumer : Consumer) (message : Message) :
    consumer.dispatch message = (do
      if ← consumer.cameTooOften message then
        consumer.acknowledge message
        return true
      else consumer.dispatchWithin message) := by
  unfold dispatch cameTooOften
  cases message.redelivered <;> rfl

theorem transcript_of_malformed (queueOnly : consumer.QueueFailsAsQueue answer message)
    (malformed : ∀ task, ¬ message.payload.Carries task) :
    (consumer.dispatchWithin message).run.transcript answer =
      (.ok true, [.acknowledge message.stream consumer.group message.id]) := by
  cases read : message.payload.task with
  | error issues =>
      simp only [dispatchWithin, read]
      exact transcript_acknowledged queueOnly
  | ok task => exact absurd (Payload.task_eq_ok_iff.mp read) (malformed task)

theorem transcript_of_task (queueOnly : consumer.QueueFailsAsQueue answer message)
    (carries : message.payload.Carries task) :
    ∃ done, (done = true ↔ answer (.handle task) = .ok ()) ∧
      (consumer.dispatchWithin message).run.transcript answer =
        (.ok done, .handle task ::
          if done then [.acknowledge message.stream consumer.group message.id] else []) := by
  obtain ⟨done, handled, succeeds⟩ := transcript_handled answer task
  refine ⟨done, succeeds, ?_⟩
  simp only [dispatchWithin, Payload.task_eq_ok_iff.mpr carries]
  cases done with
  | true => exact Script.transcript_bind_ok handled (transcript_acknowledged queueOnly)
  | false => exact Script.transcript_bind_ok handled rfl

/-- A message is acknowledged exactly if it is settled, and then once; its task is handled exactly if
there is one and the message did not come too often, and then once. -/
theorem dispatch_settles (queueOnly : consumer.QueueFailsAsQueue answer message) :
    ∃ acknowledged asked,
      (consumer.dispatch message).run.transcript answer = (.ok acknowledged, asked) ∧
      (acknowledged = true ↔ consumer.Settled answer message) ∧
      asked.filter ConsumeRequest.acknowledges =
        (if acknowledged then [.acknowledge message.stream consumer.group message.id] else []) ∧
      (∀ task, message.payload.Carries task → ¬ consumer.Exceeded answer message →
        asked.filter ConsumeRequest.handles = [.handle task]) ∧
      (consumer.Exceeded answer message ∨ (∀ task, ¬ message.payload.Carries task) →
        asked.filter ConsumeRequest.handles = []) := by
  obtain ⟨exceeded, counted, before, above, quiet⟩ := transcript_cameTooOften queueOnly
  have noAcknowledge : counted.filter ConsumeRequest.acknowledges = [] := by
    rcases quiet with rfl | rfl <;> rfl
  have noHandle : counted.filter ConsumeRequest.handles = [] := by
    rcases quiet with rfl | rfl <;> rfl
  rw [dispatch_eq]
  cases exceeded with
  | true =>
      have above := above.mp rfl
      refine ⟨true, _, Script.transcript_bind_ok before (transcript_acknowledged queueOnly), ?_⟩
      refine ⟨by simp [Settled, above], ?_, fun _ _ within => absurd above within, fun _ => ?_⟩
      · simp [noAcknowledge, ConsumeRequest.acknowledges]
      · simp [noHandle, ConsumeRequest.handles]
  | false =>
      have within : ¬ consumer.Exceeded answer message := fun exceeded => nomatch above.mpr exceeded
      by_cases malformed : ∀ task, ¬ message.payload.Carries task
      · have run := transcript_of_malformed queueOnly malformed
        refine ⟨true, _, Script.transcript_bind_ok before run, by simp [Settled, malformed], ?_⟩
        refine ⟨?_, fun task carries => absurd carries (malformed task), fun _ => ?_⟩
        · simp [noAcknowledge, ConsumeRequest.acknowledges]
        · simp [noHandle, ConsumeRequest.handles]
      · obtain ⟨task, carries⟩ := Classical.not_forall_not.mp malformed
        have only : ∀ other, message.payload.Carries other → other = task := fun other also =>
          Except.ok.inj ((Payload.task_eq_ok_iff.mpr also).symm.trans
            (Payload.task_eq_ok_iff.mpr carries))
        obtain ⟨done, succeeds, run⟩ := transcript_of_task queueOnly carries
        refine ⟨done, _, Script.transcript_bind_ok before run, ?_, ?_, ?_, ?_⟩
        · refine ⟨fun acknowledged => .inr (.inr ⟨task, carries, succeeds.mp acknowledged⟩), ?_⟩
          rintro (exceeded | none | ⟨other, also, handled⟩)
          · exact absurd exceeded within
          · exact absurd carries (none task)
          · cases only other also
            exact succeeds.mpr handled
        · rw [List.filter_append, noAcknowledge]
          cases done <;> rfl
        · rintro other also -
          cases only other also
          rw [List.filter_append, noHandle]
          cases done <;> rfl
        · rintro (exceeded | none)
          · exact absurd exceeded within
          · exact absurd carries (none task)

def thumbnailTask : Task := ⟨"7", .thumbnail, by decide⟩

def redeliveredMessage : Message :=
  ⟨"images", "1-0", [("data", .bytes
    "\x7b\"extra\": 1, \"image_id\": \"7\", \"processing_type\": \"thumbnail\"\x7d".toUTF8)], true⟩

def patientConsumer : Consumer := { (default : Consumer) with group := "workers", maxDeliveries := 3 }

def unreachableQueue : (r : ConsumeRequest) → consuming.Reply r
  | .createGroup .. => .error (.foreign .queueUnreachable "down")
  | .claim .. => .error (.foreign .queueUnreachable "down")
  | .read .. => .error (.foreign .queueUnreachable "down")
  | .deliveries .. => .error (.foreign .queueUnreachable "down")
  | .acknowledge .. => .error (.foreign .queueUnreachable "down")
  | .handle _ => .ok ()
  | .pause _ => .ok ()
  | .wait _ => ()
  | .stopWished => false

theorem redeliveredMessage_carries : redeliveredMessage.payload.Carries thumbnailTask := by
  have read : redeliveredMessage.payload.task.toOption = some thumbnailTask := by decide +kernel
  refine Payload.task_eq_ok_iff.mp ?_
  cases holds : redeliveredMessage.payload.task with
  | ok task =>
      rw [holds] at read
      cases read
      rfl
  | error issues =>
      rw [holds] at read
      cases read

theorem unreachableQueue_failsAsQueue :
    patientConsumer.QueueFailsAsQueue unreachableQueue redeliveredMessage where
  counting := by
    rintro cause ⟨⟩
    rfl
  acknowledging := by
    rintro cause ⟨⟩
    rfl

theorem unreachableQueue_dispatch_settles :
    patientConsumer.QueueFailsAsQueue unreachableQueue redeliveredMessage ∧
    ∃ asked,
      (patientConsumer.dispatch redeliveredMessage).run.transcript unreachableQueue =
        (.ok true, asked) ∧
      asked.filter ConsumeRequest.acknowledges = [.acknowledge "images" "workers" "1-0"] ∧
      asked.filter ConsumeRequest.handles = [.handle thumbnailTask] := by
  refine ⟨unreachableQueue_failsAsQueue, ?_⟩
  obtain ⟨acknowledged, asked, run, settles, acknowledges, handles, -⟩ :=
    dispatch_settles unreachableQueue_failsAsQueue
  have settled : acknowledged = true :=
    settles.mpr (.inr (.inr ⟨thumbnailTask, redeliveredMessage_carries, rfl⟩))
  have within : ¬ patientConsumer.Exceeded unreachableQueue redeliveredMessage := by
    rintro ⟨-, -, count, counted, -⟩
    cases counted
  subst settled
  exact ⟨asked, run, acknowledges, handles thumbnailTask redeliveredMessage_carries within⟩

end Consumer

end Queue

end ImagePipeline
