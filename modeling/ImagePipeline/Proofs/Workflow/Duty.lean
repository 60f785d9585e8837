import ImagePipeline.Proofs.Queue.Delivery
import ImagePipeline.Proofs.Script.Substitution
import ImagePipeline.Proofs.Workflow.Errand
import ImagePipeline.Workflow.Worker

namespace ImagePipeline.Workflow

open Script (Follows)
open Queue (ConsumeRequest Consumer Genuine delivering)

abbrev onDuty : Interface := Queue.consuming.both working

def attend : (r : ConsumeRequest) → Script onDuty (Queue.consuming.Reply r)
  | .handle task => (handle task.imageId).run.inRight
  | r => .ask (.inl r) .done

def worker (consumer : Consumer) (turns : Nat) : Script onDuty (Except Failure Bool) :=
  (consumer.run turns).run.substitute attend

def Shift.call (c : Call) (shift : Shift) : working.Reply c × Shift :=
  ((shift.site.answer c).1, { shift with site := (shift.site.answer c).2 })

/-- With the calls of its handler laid open, a worker does what it does where tasks are handled whole. -/
theorem run_worker (consumer : Consumer) (turns : Nat) (shift : Shift) :
    (worker consumer turns).run (Script.answerBoth Shift.answer Shift.call) shift =
      (consumer.run turns).run.run Shift.answer shift := by
  have attended : (fun r shift => (attend r).run (Script.answerBoth Shift.answer Shift.call) shift) =
      Shift.answer := by
    funext r shift
    cases r with
    | handle task =>
        refine (Script.run_inRight _ _ _ shift).trans ?_
        exact Script.run_within Shift.site (fun site shift => { shift with site }) (fun _ _ => rfl)
          (fun _ _ _ => rfl) (fun _ => rfl) _ shift
    | _ => rfl
  rw [worker, Script.run_substitute, attended]

inductive Duty where
  | waiting
  | handling (id : String) (a : Activity)

namespace Duty

def Free : Duty → Prop
  | waiting => True
  | handling _ a => a.call? = none

def holding? : Duty → Option String
  | waiting => none
  | handling _ a => a.holding?

def handled? : Duty → Option String
  | handling id (.attempt (.ended how)) => if how.outcome.toBool then some id else none
  | _ => none

theorem holding?_of_free {d : Duty} (free : d.Free) : d.holding? = none := by
  cases d with
  | waiting => rfl
  | handling id a => exact a.holding?_of_ended free

def May (published : String → Queue.Entry → Prop) (d : Duty) : onDuty.Request → Prop
  | .inl (.handle _) => False
  | .inl r => d.Free ∧ (delivering published).may d.handled? r
  | .inr c => d.Free ∧ (∃ id, c = .find id) ∨ ∃ id a, d = handling id a ∧ a.call? = some c

inductive Step (published : String → Queue.Entry → Prop) :
    Duty → (r : onDuty.Request) → onDuty.Reply r → Duty → Prop where
  | asked (d r reply) (genuine : Genuine published r reply) : Step published d (.inl r) reply waiting
  | begun (d id reply a) (free : d.Free) (step : (Activity.peeking id).Step (.find id) reply a) :
      Step published d (.inr (.find id)) reply (handling id a)
  | worked (id a c reply a') (allowed : a.call? = some c) (step : a.Step c reply a') :
      Step published (handling id a) (.inr c) reply (handling id a')

end Duty

def serving (published : String → Queue.Entry → Prop) : Contract onDuty Duty where
  may := Duty.May published
  moves := Duty.Step published

variable {published : String → Queue.Entry → Prop}

theorem handling_follows {id : String} {d : Duty} (free : d.Free) :
    Follows (serving published) (fun d' result => ∃ how : Ending,
      d' = .handling id (.attempt (.ended how)) ∧ result = how.outcome) d
      ((handle id).run.inRight (I := Queue.consuming)) := by
  have stands := Script.follows_substitute (D := serving published)
    (fun r => .ask (.inr r) .done)
    (fun a d => d = .handling id a ∨ a = .peeking id ∧ d.Free) ?_ (handle_follows id)
    (.inr ⟨rfl, free⟩)
  · apply stands.mono
    rintro d' result ⟨a, here, how, rfl, rfl⟩
    rcases here with rfl | ⟨peeking, -⟩
    · exact ⟨how, rfl, rfl⟩
    · cases peeking
  · -- a handler at its first stage is not known to the duty before its first call is answered
    intro a d c here allowed
    rcases here with rfl | ⟨rfl, free⟩
    · refine ⟨.inr ⟨id, a, rfl, allowed⟩, fun reply d' moved => ?_⟩
      cases moved with
      | worked _ _ _ _ a' _ step => exact ⟨a', step, .inl rfl⟩
      | begun _ other _ a' ended =>
          have calls : a.call? = some (.find other) := allowed
          rw [show a.call? = none from ended] at calls
          cases calls
    · cases allowed
      refine ⟨.inl ⟨free, id, rfl⟩, fun reply d' moved => ?_⟩
      cases moved with
      | begun _ _ _ a' _ step => exact ⟨a', step, .inl rfl⟩
      | worked other a _ _ a' calls =>
          rw [show a.call? = none from free] at calls
          cases calls

theorem attend_follows {handled : Option String} {d : Duty} {r : ConsumeRequest}
    (here : d.Free ∧ d.handled? = handled) (allowed : (delivering published).may handled r) :
    Follows (serving published) (fun d' reply => ∃ handled',
      (delivering published).moves handled r reply handled' ∧ d'.Free ∧ d'.handled? = handled') d
      (attend r) := by
  obtain ⟨free, rfl⟩ := here
  cases r with
  | handle task =>
      apply (handling_follows free).mono
      rintro d' result ⟨how, rfl, rfl⟩
      refine ⟨_, ⟨trivial, rfl⟩, rfl, ?_⟩
      change (if how.outcome.toBool then some task.imageId else none) = _
      cases how.outcome with
      | ok _ => rfl
      | error _ => rfl
  | _ =>
      refine ⟨⟨free, allowed⟩, fun reply d' moved => ?_⟩
      cases moved with
      | asked _ _ _ genuine => exact ⟨_, ⟨genuine, rfl⟩, trivial, rfl⟩

theorem worker_follows (consumer : Consumer) (unlimited : consumer.maxDeliveries ≤ 0) (turns : Nat) :
    Follows (serving published) (fun _ _ => True) .waiting (worker consumer turns) := by
  apply (Script.follows_substitute attend (fun handled d => d.Free ∧ d.handled? = handled)
    (fun handled d r here allowed => attend_follows here allowed)
    (Consumer.run_follows consumer unlimited turns) ⟨trivial, rfl⟩).mono
  exact fun _ _ _ => trivial

end ImagePipeline.Workflow
