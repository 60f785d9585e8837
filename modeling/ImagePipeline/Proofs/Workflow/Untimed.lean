import ImagePipeline.Proofs.Workflow.Attempt

namespace ImagePipeline

/-- The record without the times that processing sets; whether it was processed before stays. -/
def Record.untimed (r : Record) : Record :=
  { r with updatedAt := default, processedAt := r.processedAt.map fun _ => default }

theorem Record.untimed_markCompleted (r : Record) (key : String) (width height : Int) (now : Instant) :
    (r.markCompleted key width height now).untimed =
      r.untimed.markCompleted key width height default := by
  obtain ⟨⟨status, path, width, height, reason, updated, _ | processed⟩⟩ := r <;> rfl

namespace Workflow

def Call.untimed : Call → Call
  | update record => update record.untimed
  | c => c

theorem Call.untimed_cases {c c' : Call} (alike : c.untimed = c'.untimed) : c = c' ∨
    ∃ record record', c = update record ∧ c' = update record' ∧ record.untimed = record'.untimed := by
  cases c with
  | update record =>
      cases c' with
      | update record' => exact .inr ⟨record, record', rfl, rfl, Call.update.inj alike⟩
      | _ => cases alike
  | _ =>
      cases c' with
      | update record' => cases alike
      | _ => exact .inl alike

def Event.untimed : Event working → Event working
  | ⟨.now, _⟩ => ⟨.now, default⟩
  | ⟨.find id, reply⟩ => ⟨.find id, reply.map Record.untimed⟩
  | ⟨.update record, reply⟩ => ⟨.update record.untimed, reply.map Record.untimed⟩
  | event => event

def Ending.untimed : Ending → Ending
  | completed record => completed record.untimed
  | passedBy record => passedBy record.untimed
  | outrun => outrun
  | broken cause => broken cause

theorem Ending.result_untimed (how : Ending) : how.untimed.result = how.result := by
  cases how <;> rfl

namespace Attempt

def untimed : Attempt → Attempt
  | looking id => looking id
  | claiming record => claiming record.untimed
  | starting record => starting record.untimed
  | opening record => opening record.untimed
  | reading record content => reading record.untimed content
  | decoding record bytes => decoding record.untimed bytes
  | processing record picture => processing record.untimed picture
  | encoding record result => encoding record.untimed result
  | saving record result encoded => saving record.untimed result encoded
  | completing record result key => completing record.untimed result key
  | storing completed => storing completed.untimed
  | failing record message cause => failing record.untimed message cause
  | reporting failed cause => reporting failed.untimed cause
  | ended how => ended how.untimed

variable {p p' q q' : Attempt} {c c' : Call} {reply : working.Reply c} {reply' : working.Reply c'}

theorem call?_untimed (p : Attempt) : p.untimed.call? = p.call?.map Call.untimed := by
  cases p <;> rfl

theorem untimed_afterFailure (record : Record) (what : String) (expected : Failure → Bool)
    (cause : Failure) : (afterFailure record what expected cause).untimed =
      afterFailure record.untimed what expected cause := by
  unfold afterFailure
  split <;> rfl

theorem Step.untimed (step : p.Step c reply p') :
    p.untimed.Step (Event.untimed ⟨c, reply⟩).request (Event.untimed ⟨c, reply⟩).reply p'.untimed := by
  cases step with
  | found id record =>
      have after := Step.found id record.untimed
      rw [show record.untimed.canBeProcessed = record.canBeProcessed from rfl] at after
      split
      · next ready =>
          rw [if_pos ready] at after
          exact after
      · next unready =>
          rw [if_neg unready] at after
          exact after
  | refused record cause =>
      have after := Step.refused record.untimed cause
      split
      · next outrun =>
          rw [if_pos outrun] at after
          exact after
      · next other =>
          rw [if_neg other] at after
          exact after
  | notFound id cause => exact .notFound id cause
  | claimed record => exact .claimed record.untimed
  | started record now => exact .started record.untimed default
  | opened record content => exact .opened record.untimed content
  | read record content bytes => exact .read record.untimed content bytes
  | decoded record bytes picture => exact .decoded record.untimed bytes picture
  | processed record picture result => exact .processed record.untimed picture result
  | encoded record result bytes => exact .encoded record.untimed result bytes
  | saved record result bytes key => exact .saved record.untimed result bytes key
  | finished record result key now =>
      have after := Step.finished record.untimed result key default
      rw [← record.untimed_markCompleted key _ _ now] at after
      exact after
  | stored completed row => exact .stored completed.untimed row.untimed
  | stamped record message cause now => exact .stamped record.untimed message cause default
  | reported failed cause row => exact .reported failed.untimed cause row.untimed
  | notReported failed cause trouble => exact .notReported failed.untimed cause trouble
  | notOpened record cause => rw [untimed_afterFailure]; exact .notOpened record.untimed cause
  | notRead record content cause =>
      rw [untimed_afterFailure]; exact .notRead record.untimed content cause
  | notDecoded record bytes cause =>
      rw [untimed_afterFailure]; exact .notDecoded record.untimed bytes cause
  | notProcessed record picture cause =>
      rw [untimed_afterFailure]; exact .notProcessed record.untimed picture cause
  | notEncoded record result cause =>
      rw [untimed_afterFailure]; exact .notEncoded record.untimed result cause
  | notSaved record result bytes cause =>
      rw [untimed_afterFailure]; exact .notSaved record.untimed result bytes cause
  | notStored completed cause =>
      rw [untimed_afterFailure]; exact .notStored completed.untimed cause

theorem Step.unique (left : p.Step c reply q) (right : p.Step c reply q') : q = q' := by
  cases left <;> cases right <;> rfl

theorem untimed_step (alike : p.untimed = q.untimed) (left : p.Step c reply p')
    (right : q.Step c' reply' q')
    (answered : Event.untimed ⟨c, reply⟩ = Event.untimed ⟨c', reply'⟩) : p'.untimed = q'.untimed := by
  have left := left.untimed
  have right := right.untimed
  rw [alike, answered] at left
  exact left.unique right

end Attempt

end Workflow

end ImagePipeline
