import ImagePipeline.Proofs.Queue.Acknowledgement
import ImagePipeline.Proofs.Queue.Delivery
import ImagePipeline.Proofs.Script.Ensemble
import ImagePipeline.Proofs.Script.Substitution
import Mathlib.Data.Set.Card
/-!
# How often the handler gets one message

One message is handed out again and again, to any consumers of a group, until one of them acknowledges
it. The group counts the deliveries, and the consumers read this number at a time of their own. Each
delivery after the first is told apart by the number of those before it (`Handout`), which is below
what it reads (`Fits.counted`); so the handler is invoked within the limit by those that read a number
(`invocations_within_limit`). One that comes to read when the message is acknowledged finds no number,
and invokes the handler in any case (`acknowledgedBetween_exceeds`).
-/

namespace ImagePipeline.Queue

open Script (Follows)
open Routine

/-! ## One message and its group -/

structure Place where
  stream : String
  group : String
  id : String
  deriving DecidableEq

/-- How often a message was handed out, and whether it was acknowledged. -/
structure Tally where
  delivered : Nat
  acknowledged : Bool

def Tally.ready (tally : Tally) (again : Bool) : Bool :=
  if again then decide (0 < tally.delivered) && !tally.acknowledged else tally.delivered == 0

abbrev handingOut : Interface where
  Request := Bool
  Reply _ := Bool

abbrev served : Interface := handingOut.both consuming

namespace Tally

def Answered (place : Place) : (r : ConsumeRequest) → consuming.Reply r → Tally → Tally → Prop
  | .deliveries stream group id, reply, tally, after => after = tally ∧
      (⟨stream, group, id⟩ = place → match reply with
        | .ok (some count) => tally.acknowledged = false ∧ count = tally.delivered
        | .ok none => tally.acknowledged = true
        | .error _ => True)
  | .acknowledge stream group id, reply, tally, after =>
      after = { tally with acknowledged := true } ∨
        after = tally ∧ (⟨stream, group, id⟩ = place → reply ≠ .ok ())
  | _, _, tally, after => after = tally

def around (place : Place) : Surroundings served Tally where
  answers
    | .inl again, tally, given, after =>
      if given then tally.ready again = true ∧ after = { tally with delivered := tally.delivered + 1 }
      else after = tally
    | .inr r, tally, reply, after => Tally.Answered place r reply tally after
  drifts _ _ := False

variable {place : Place} {r : ConsumeRequest} {reply : consuming.Reply r} {tally after : Tally}

theorem Answered.delivered (answered : Tally.Answered place r reply tally after) :
    after.delivered = tally.delivered := by
  cases r with
  | deliveries => exact congrArg Tally.delivered answered.1
  | acknowledge =>
      rcases answered with rfl | ⟨rfl, -⟩
      · rfl
      · rfl
  | _ => exact congrArg Tally.delivered answered

theorem Answered.acknowledged (answered : Tally.Answered place r reply tally after)
    (already : tally.acknowledged = true) : after.acknowledged = true := by
  cases r with
  | deliveries =>
      obtain ⟨rfl, -⟩ := answered
      exact already
  | acknowledge =>
      rcases answered with rfl | ⟨rfl, -⟩
      · rfl
      · exact already
  | _ =>
      cases answered
      exact already

end Tally

def delivery (consumer : Consumer) (stream : String) (entry : Entry) (again : Bool) :
    Script served (Except Failure Bool) :=
  .ask (.inl again) fun given : Bool =>
    if given then (consumer.dispatch (Message.ofEntry stream again entry)).run.inRight
    else pure (.ok false)

def dispatchLog (past : List (Event served)) : List (Event consuming) :=
  past.filterMap fun
    | ⟨.inl _, _⟩ => none
    | ⟨.inr r, reply⟩ => some ⟨r, reply⟩

abbrev Invoked (log : List (Event consuming)) : Prop := ∃ e ∈ log, e.request.handles = true

abbrev Dropped (log : List (Event consuming)) : Prop :=
  (∃ e ∈ log, e.request.acknowledges = true) ∧ ¬ Invoked log

def givesNoNumber : Event consuming → Bool
  | ⟨.deliveries .., .ok (some _)⟩ => false
  | ⟨.deliveries .., _⟩ => true
  | _ => false

/-! ## What one dispatch may ask -/

def counting (place : Place) (reply : Except Failure (Option Int)) : Event consuming :=
  ⟨.deliveries place.stream place.group place.id, reply⟩

section Asking

variable (place : Place) (limit : Int) (number : Nat)

def Passes (log : List (Event consuming)) : Prop :=
  number = 0 ∧ log = [] ∨ ∃ reply, log = [counting place reply] ∧
    ∀ count, reply = .ok (some count) → count ≤ limit

def Exceeds (log : List (Event consuming)) : Prop :=
  ∃ count, log = [counting place (.ok (some count))] ∧ limit < count

def Asks (log : List (Event consuming)) : ConsumeRequest → Prop
  | .deliveries stream group id => 0 < number ∧ log = [] ∧ ⟨stream, group, id⟩ = place
  | .handle _ => Passes place limit number log
  | .acknowledge .. => Invoked log ∨ Exceeds place limit log
  | _ => False

def asking : Contract consuming (List (Event consuming)) where
  may := Asks place limit number
  moves log r reply log' := log' = ⟨r, reply⟩ :: log

end Asking

namespace Consumer

variable {consumer : Consumer} {message : Message} {task : Task} {limit : Int} {number : Nat}
  {place : Place} {log : List (Event consuming)}

theorem cameTooOften_asks (limited : consumer.maxDeliveries = limit) (positive : 0 < limit)
    (here : place = ⟨message.stream, consumer.group, message.id⟩)
    (again : message.redelivered = true ↔ 0 < number) :
    Follows (asking place limit number) (fun log result => ∀ exceeded, result = .ok exceeded →
      if exceeded then Exceeds place limit log else Passes place limit number log) []
      (consumer.cameTooOften message).run := by
  subst here limited
  unfold cameTooOften
  cases redelivered : message.redelivered with
  | false =>
      have first : number = 0 := by simpa [redelivered] using again
      rintro _ ⟨⟩
      exact .inl ⟨first, rfl⟩
  | true =>
      simp only [if_true, exceededDeliveries, Int.not_le.mpr positive, if_false]
      apply follows_recover
      apply follows_bind
      refine ⟨⟨again.mp redelivered, rfl, rfl⟩, ?_⟩
      rintro reply log rfl
      cases reply with
      | error cause =>
          cases known : cause.isQueue with
          | false =>
              simp only [Follows, known, Bool.false_eq_true, if_false]
              rintro _ ⟨⟩
          | true =>
              simp only [Follows, known, if_true]
              rintro _ ⟨⟩
              exact .inr ⟨.error cause, rfl, fun _ same => by cases same⟩
      | ok found =>
          rintro _ ⟨⟩
          split
          · next exceeded =>
              have above : consumer.maxDeliveries < found.getD 0 := of_decide_eq_true exceeded
              cases found with
              | none => exact absurd above (Int.not_lt.mpr (Int.le_of_lt positive))
              | some count => exact ⟨count, rfl, above⟩
          · next within =>
              have below : found.getD 0 ≤ consumer.maxDeliveries := by simpa using within
              refine .inr ⟨.ok found, rfl, ?_⟩
              rintro count ⟨⟩
              exact below

theorem acknowledge_asks (may : Invoked log ∨ Exceeds place limit log) :
    Follows (asking place limit number) (fun _ _ => True) log (consumer.acknowledge message).run :=
  follows_recovered ⟨may, fun _ _ _ => trivial⟩ fun _ _ => trivial

theorem handled_asks (passes : Passes place limit number log) :
    Follows (asking place limit number) (fun log _ => Invoked log) log (Consumer.handled task).run := by
  apply follows_recover
  apply follows_bind
  refine ⟨passes, ?_⟩
  rintro reply log rfl
  have invoked : Invoked (⟨.handle task, reply⟩ :: log) := ⟨_, List.mem_cons_self, rfl⟩
  cases reply with
  | ok _ => exact invoked
  | error cause => exact invoked

theorem dispatch_asks (limited : consumer.maxDeliveries = limit) (positive : 0 < limit)
    (here : place = ⟨message.stream, consumer.group, message.id⟩)
    (again : message.redelivered = true ↔ 0 < number) (holds : message.payload.task = .ok task) :
    Follows (asking place limit number) (fun _ _ => True) [] (consumer.dispatch message).run := by
  rw [dispatch_eq]
  apply follows_bind
  apply (cameTooOften_asks limited positive here again).mono
  intro log result counted
  cases result with
  | error cause => trivial
  | ok exceeded =>
      have counted := counted exceeded rfl
      cases exceeded with
      | true => exact follows_then (acknowledge_asks (.inr counted)) fun _ _ => trivial
      | false =>
          simp only [Bool.false_eq_true, if_false] at counted ⊢
          simp only [dispatchWithin, holds]
          apply follows_bind
          apply (handled_asks counted).mono
          intro log result invoked
          cases result with
          | error cause => trivial
          | ok done =>
              cases done with
              | true => exact follows_then (acknowledge_asks (.inl invoked)) fun _ _ => trivial
              | false => trivial

end Consumer

/-! ## Deliveries among others -/

/-- A message that was handed out: how often it had been before, and what was asked since. -/
structure Handout where
  number : Nat
  log : List (Event consuming)

def handling (place : Place) (limit : Int) : Contract served (Option Handout) where
  may
    | none, .inl _ => True
    | some handout, .inr r => Asks place limit handout.number handout.log r
    | _, _ => False
  moves
    | none, .inl again, given, stage =>
      if given then ∃ number, stage = some ⟨number, []⟩ ∧ (again = true ↔ 0 < number)
      else stage = none
    | some handout, .inr r, reply, stage =>
      stage = some ⟨handout.number, ⟨r, reply⟩ :: handout.log⟩
    | _, _, _, _ => False

section Deliveries

variable {place : Place} {limit : Int} {number : Nat} {tally after : Tally} {handout : Handout}
  {r : ConsumeRequest} {reply : consuming.Reply r} {log : List (Event consuming)}

theorem delivery_follows {consumer : Consumer} {stream : String} {entry : Entry} {task : Task}
    (limited : consumer.maxDeliveries = limit) (positive : 0 < limit)
    (here : place = ⟨stream, consumer.group, entry.id⟩) (holds : entry.task = .ok task)
    (again : Bool) :
    Follows (handling place limit) (fun _ _ => True) none (delivery consumer stream entry again) := by
  refine ⟨trivial, fun given stage moved => ?_⟩
  cases given with
  | false => trivial
  | true =>
      obtain ⟨number, rfl, first⟩ := moved
      have asks : Follows (asking place limit number) (fun _ _ => True) []
          (consumer.dispatch (Message.ofEntry stream again entry)).run :=
        Consumer.dispatch_asks limited positive here first holds
      have answers : ∀ log stage r, stage = some ⟨number, log⟩ →
          (asking place limit number).may log r →
          Follows (handling place limit) (fun stage' reply => ∃ log',
            (asking place limit number).moves log r reply log' ∧ stage' = some ⟨number, log'⟩)
            stage (.ask (.inr r) .done) := by
        rintro log _ r rfl may
        exact ⟨may, fun reply stage' moved => ⟨_, rfl, moved⟩⟩
      exact (Script.follows_substitute _ (fun log stage => stage = some ⟨number, log⟩) answers asks
        rfl).mono fun _ _ _ => trivial

structure Handout.Fits (place : Place) (limit : Int) (tally : Tally) (handout : Handout) : Prop where
  orderly : ∀ e earlier, e :: earlier <:+ handout.log →
    Asks place limit handout.number earlier e.request
  delivered : handout.number < tally.delivered
  counted : ∀ count : Int, counting place (.ok (some count)) ∈ handout.log →
    handout.number < count ∧ count ≤ tally.delivered
  emptied : counting place (.ok none) ∈ handout.log → tally.acknowledged = true

namespace Handout.Fits

theorem of_start (first : number < tally.delivered) : Fits place limit tally ⟨number, []⟩ where
  orderly e earlier suffix := absurd (List.suffix_nil.mp suffix) (List.cons_ne_nil e earlier)
  delivered := first
  counted _ mem := absurd mem List.not_mem_nil
  emptied mem := absurd mem List.not_mem_nil

theorem grow (fits : handout.Fits place limit tally) (more : tally.delivered ≤ after.delivered)
    (stays : tally.acknowledged = true → after.acknowledged = true) :
    handout.Fits place limit after where
  orderly := fits.orderly
  delivered := fits.delivered.trans_le more
  counted count mem := by
    obtain ⟨above, below⟩ := fits.counted count mem
    exact ⟨above, below.trans (Int.ofNat_le.mpr more)⟩
  emptied mem := stays (fits.emptied mem)

theorem answered (fits : handout.Fits place limit tally)
    (answered : Tally.Answered place r reply tally after) : handout.Fits place limit after :=
  fits.grow (Nat.le_of_eq answered.delivered.symm) answered.acknowledged

theorem ask (fits : handout.Fits place limit tally)
    (asks : Asks place limit handout.number handout.log r)
    (answered : Tally.Answered place r reply tally after) :
    Fits place limit after ⟨handout.number, ⟨r, reply⟩ :: handout.log⟩ := by
  have later := fits.answered answered
  constructor
  case orderly =>
    intro e earlier suffix
    rcases List.suffix_cons_iff.mp suffix with same | suffix
    · obtain ⟨rfl, rfl⟩ := List.cons_eq_cons.mp same
      exact asks
    · exact fits.orderly e earlier suffix
  case delivered => exact later.delivered
  case counted =>
    intro count mem
    rcases List.mem_cons.mp mem with same | mem
    · cases same
      obtain ⟨rfl, -, rfl⟩ := answered.1, answered.2 rfl
      exact ⟨Int.ofNat_lt.mpr fits.delivered, le_refl _⟩
    · exact later.counted count mem
  case emptied =>
    intro mem
    rcases List.mem_cons.mp mem with same | mem
    · cases same
      exact answered.1 ▸ answered.2 rfl
    · exact later.emptied mem

theorem invokes_once (fits : handout.Fits place limit tally) :
    handout.log.countP (fun e => e.request.handles) ≤ 1 := by
  have orderly := fits.orderly
  generalize handout.log = log at orderly
  induction log with
  | nil => exact Nat.zero_le 1
  | cons e rest ih =>
      have earlier := ih fun e' earlier suffix =>
        orderly e' earlier (suffix.trans (List.suffix_cons e rest))
      cases e with
      | mk r reply =>
          cases r with
          | handle task =>
              have quiet : rest.countP (fun e => e.request.handles) = 0 := by
                rcases orderly _ rest List.suffix_rfl with ⟨-, rfl⟩ | ⟨reply, rfl, -⟩
                · rfl
                · rfl
              rw [List.countP_cons, quiet]
              exact Nat.le_refl 1
          | _ => exact earlier

theorem number_lt (fits : handout.Fits place limit tally) (positive : 0 < limit)
    (invoked : Invoked handout.log) (known : ∀ e ∈ handout.log, givesNoNumber e = false) :
    (handout.number : Int) < limit := by
  obtain ⟨⟨r, reply⟩, mem, handles⟩ := invoked
  obtain ⟨later, earlier, whole⟩ := List.append_of_mem mem
  have suffix : ⟨r, reply⟩ :: earlier <:+ handout.log := ⟨later, whole.symm⟩
  cases r with
  | handle task =>
      rcases fits.orderly _ _ suffix with ⟨first, -⟩ | ⟨counted, rfl, within⟩
      · rw [first]
        exact positive
      · have read : counting place counted ∈ handout.log :=
          suffix.subset (List.mem_cons_of_mem _ List.mem_cons_self)
        have number := known _ read
        rcases counted with cause | none | count
        · cases number
        · cases number
        · exact (fits.counted count read).1.trans_le (within count rfl)
  | _ => cases handles

theorem read_alone (fits : handout.Fits place limit tally) {reply other : Except Failure (Option Int)}
    (read : counting place reply ∈ handout.log) (again : counting place other ∈ handout.log) :
    reply = other := by
  have first : ∀ {reply}, counting place reply ∈ handout.log → [counting place reply] <:+ handout.log := by
    intro reply mem
    obtain ⟨later, earlier, whole⟩ := List.append_of_mem mem
    have suffix : counting place reply :: earlier <:+ handout.log := ⟨later, whole.symm⟩
    obtain ⟨-, rfl, -⟩ := fits.orderly _ _ suffix
    exact suffix
  have same : [counting place reply] = [counting place other] :=
    (List.suffix_of_suffix_length_le (first read) (first again) (Nat.le_refl 1)).eq_of_length rfl
  simpa [counting] using same

theorem dropped (fits : handout.Fits place limit tally) (dropped : Dropped handout.log) :
    ∃ count, counting place (.ok (some count)) ∈ handout.log ∧ limit < count ∧
      count ≤ tally.delivered ∧ 0 < handout.number := by
  obtain ⟨⟨⟨r, reply⟩, mem, acknowledges⟩, quiet⟩ := dropped
  obtain ⟨later, earlier, whole⟩ := List.append_of_mem mem
  have suffix : ⟨r, reply⟩ :: earlier <:+ handout.log := ⟨later, whole.symm⟩
  have before : earlier <:+ handout.log := (List.suffix_cons _ _).trans suffix
  cases r with
  | acknowledge stream group id =>
      rcases fits.orderly _ _ suffix with ⟨e, mem, handles⟩ | ⟨count, rfl, above⟩
      · exact absurd ⟨e, before.subset mem, handles⟩ quiet
      · have read : counting place (.ok (some count)) ∈ handout.log :=
          before.subset List.mem_cons_self
        exact ⟨count, read, above, (fits.counted count read).2, (fits.orderly _ _ before).1⟩
  | _ => cases acknowledges

end Handout.Fits

structure Standing (place : Place) (limit : Int) (tally : Tally) (stage : Option Handout)
    (past : List (Event served)) : Prop where
  logged : dispatchLog past = (stage.map Handout.log).getD []
  fits : ∀ handout ∈ stage, handout.Fits place limit tally
  again : ∀ handout ∈ stage, 0 < handout.number → ⟨.inl true, true⟩ ∈ past

theorem Standing.exists_handout {stage : Option Handout} {past : List (Event served)}
    (standing : Standing place limit tally stage past) {e : Event consuming}
    (mem : e ∈ dispatchLog past) :
    ∃ handout, stage = some handout ∧ handout.log = dispatchLog past := by
  have logged := standing.logged
  cases stage with
  | none =>
      rw [logged] at mem
      exact absurd mem List.not_mem_nil
  | some handout => exact ⟨handout, rfl, logged.symm⟩

theorem Standing.invokes_once {stage : Option Handout} {past : List (Event served)}
    (standing : Standing place limit tally stage past) :
    (dispatchLog past).countP (fun event => event.request.handles) ≤ 1 := by
  rw [standing.logged]
  cases stage with
  | none => exact Nat.zero_le 1
  | some handout => exact (standing.fits handout rfl).invokes_once

theorem Standing.grow {stage : Option Handout} {past : List (Event served)}
    (standing : Standing place limit tally stage past) (more : tally.delivered ≤ after.delivered)
    (stays : tally.acknowledged = true → after.acknowledged = true) :
    Standing place limit after stage past where
  logged := standing.logged
  fits handout mem := (standing.fits handout mem).grow more stays
  again := standing.again

/-- What holds of all deliveries of a message: no two have the same number. -/
structure Tallied {ι : Type} (place : Place) (limit : Int)
    (v : View served ι Tally (Option Handout)) : Prop where
  standing : ∀ i, Standing place limit v.shared (v.stages i) (v.pasts i)
  distinct : ∀ i j number, (v.stages i).map Handout.number = some number →
    (v.stages j).map Handout.number = some number → i = j

namespace Tallied

variable {ι : Type} [DecidableEq ι] {v : View served ι Tally (Option Handout)} {i : ι} {again : Bool}
  {event : Event served} {shared : Tally} {stage : Option Handout}

theorem distinct_move (inv : Tallied place limit v)
    (same : stage.map Handout.number = (v.stages i).map Handout.number) (j k : ι) (number : Nat)
    (first : ((v.move i event shared stage).stages j).map Handout.number = some number)
    (second : ((v.move i event shared stage).stages k).map Handout.number = some number) : j = k := by
  have stays : ∀ j, ((v.move i event shared stage).stages j).map Handout.number =
      (v.stages j).map Handout.number :=
    View.forall_move_stages
      (fun j stage => Option.map Handout.number stage = (v.stages j).map Handout.number) same
      fun _ _ => rfl
  exact inv.distinct j k number (stays j ▸ first) (stays k ▸ second)

theorem refuse (inv : Tallied place limit v) (asked : v.stages i = none) :
    Tallied place limit (v.move i ⟨.inl again, false⟩ v.shared none) := by
  constructor
  case standing =>
    refine View.forall_move (fun _ => Standing place limit v.shared) ?_ fun j _ => inv.standing j
    have before := inv.standing i
    rw [asked] at before
    exact ⟨before.logged, nofun, nofun⟩
  case distinct => exact inv.distinct_move (congrArg _ asked.symm)

theorem handOut (inv : Tallied place limit v) (asked : v.stages i = none)
    (ready : v.shared.ready again = true) :
    Tallied place limit (v.move i ⟨.inl again, true⟩
      { v.shared with delivered := v.shared.delivered + 1 } (some ⟨v.shared.delivered, []⟩)) := by
  constructor
  case standing =>
    refine View.forall_move (fun _ => Standing place limit _) ?_ fun j _ =>
      (inv.standing j).grow (Nat.le_succ _) id
    have before := inv.standing i
    rw [asked] at before
    refine ⟨before.logged, ?_, ?_⟩
    · rintro _ ⟨⟩
      exact .of_start (Nat.lt_succ_self _)
    · rintro _ ⟨⟩ numbered
      cases again with
      | true => exact List.mem_cons_self
      | false =>
          have first : v.shared.delivered = 0 := by simpa [Tally.ready] using ready
          exact absurd first (Nat.ne_of_gt numbered)
  case distinct =>
    -- the number of this delivery is greater than that of any before
    have fresh : ∀ j, (v.stages j).map Handout.number ≠ some v.shared.delivered := by
      intro j taken
      obtain ⟨handout, mem, same⟩ := Option.map_eq_some_iff.mp taken
      exact Nat.ne_of_lt ((inv.standing j).fits handout mem).delivered same
    intro j k number first second
    by_cases left : j = i <;> by_cases right : k = i
    · rw [left, right]
    · subst left
      rw [View.move_stages_self] at first
      rw [View.move_stages_of_ne right, ← first] at second
      exact absurd second (fresh k)
    · subst right
      rw [View.move_stages_self] at second
      rw [View.move_stages_of_ne left, ← second] at first
      exact absurd first (fresh j)
    · rw [View.move_stages_of_ne left] at first
      rw [View.move_stages_of_ne right] at second
      exact inv.distinct j k number first second

theorem ask (inv : Tallied place limit v) (held : v.stages i = some handout)
    (asks : Asks place limit handout.number handout.log r)
    (answered : Tally.Answered place r reply v.shared after) :
    Tallied place limit (v.move i ⟨.inr r, reply⟩ after
      (some ⟨handout.number, ⟨r, reply⟩ :: handout.log⟩)) := by
  constructor
  case standing =>
    refine View.forall_move (fun _ => Standing place limit after) ?_ fun j _ =>
      (inv.standing j).grow (Nat.le_of_eq answered.delivered.symm) answered.acknowledged
    have before := inv.standing i
    rw [held] at before
    refine ⟨congrArg (_ :: ·) before.logged, ?_, ?_⟩
    · rintro _ ⟨⟩
      exact (before.fits handout rfl).ask asks answered
    · rintro _ ⟨⟩ numbered
      exact List.mem_cons_of_mem _ (before.again handout rfl numbered)
  case distinct => exact inv.distinct_move (by rw [held]; rfl)

end Tallied

theorem Tallied.encard_le {ι : Type} {v : View served ι Tally (Option Handout)}
    (inv : Tallied place limit v) (positive : 0 < limit) :
    {i | Invoked (dispatchLog (v.pasts i)) ∧
      ∀ event ∈ dispatchLog (v.pasts i), givesNoNumber event = false}.encard ≤ limit.toNat := by
  let number := fun i => ((v.stages i).map Handout.number).getD 0
  have numbered : ∀ i ∈ {i | Invoked (dispatchLog (v.pasts i)) ∧
      ∀ event ∈ dispatchLog (v.pasts i), givesNoNumber event = false},
      (v.stages i).map Handout.number = some (number i) ∧ (number i : Int) < limit := by
    rintro i ⟨invoked, known⟩
    have ⟨event, mem, _⟩ := invoked
    obtain ⟨handout, held, log⟩ := (inv.standing i).exists_handout mem
    rw [← log] at invoked known
    have below := ((inv.standing i).fits handout held).number_lt positive invoked known
    exact ⟨by simp [number, held], by simpa [number, held] using below⟩
  have within : Set.MapsTo number _ (Finset.range limit.toNat : Set Nat) := fun i mem => by
    have below := (numbered i mem).2
    simp only [Finset.coe_range, Set.mem_Iio]
    omega
  have apart : Set.InjOn number _ := fun i first j second same =>
    inv.distinct i j (number i) (numbered i first).1 (same ▸ (numbered j second).1)
  have few := Set.encard_le_encard_of_injOn within apart
  rwa [Set.encard_coe_eq_coe_finsetCard, Finset.card_range] at few

theorem preserves_tallied {ι : Type} [DecidableEq ι] :
    Preserves (Tally.around place) (handling place limit) (@Tallied ι place limit) where
  drift _ _ _ drifted := drifted.elim
  call v i r reply shared inv allowed answered := by
    cases r with
    | inl again =>
        cases asked : v.stages i with
        | some handout =>
            rw [asked] at allowed
            exact allowed.elim
        | none =>
            cases reply with
            | false =>
                obtain rfl : shared = v.shared := answered
                exact ⟨none, rfl, inv.refuse asked⟩
            | true =>
                obtain ⟨ready, rfl⟩ := answered
                refine ⟨_, ⟨v.shared.delivered, rfl, ?_⟩, inv.handOut asked ready⟩
                cases again <;> simp_all [Tally.ready]
    | inr r =>
        cases held : v.stages i with
        | none =>
            rw [held] at allowed
            exact allowed.elim
        | some handout =>
            rw [held] at allowed
            exact ⟨_, rfl, inv.ask held allowed answered⟩

end Deliveries

/-! ## The limit -/

abbrev deliveries {ι : Type} (consumers : ι → Consumer) (stream : String) (entry : Entry)
    (again : ι → Bool) : Ensemble served ι Tally (Except Failure Bool) :=
  .start ⟨0, false⟩ fun i => delivery (consumers i) stream entry (again i)

/-- Of the deliveries that do not ask for the number in vain, no more than the limit invoke the
handler. A message is dropped only after a number above the limit was read, on a later delivery. -/
theorem invocations_within_limit {ι : Type} [DecidableEq ι] {stream group : String} {entry : Entry}
    {task : Task} (holds : entry.task = .ok task) {limit : Int} (positive : 0 < limit)
    (consumers : ι → Consumer) (grouped : ∀ i, (consumers i).group = group)
    (limited : ∀ i, (consumers i).maxDeliveries = limit) (again : ι → Bool)
    (e : Ensemble served ι Tally (Except Failure Bool))
    (reached : Ensemble.Reaches (Tally.around ⟨stream, group, entry.id⟩)
      (deliveries consumers stream entry again) e) :
    {i | Invoked (dispatchLog (e.threads i).past) ∧
        ∀ event ∈ dispatchLog (e.threads i).past, givesNoNumber event = false}.encard ≤ limit.toNat ∧
    (∀ i, (dispatchLog (e.threads i).past).countP (fun event => event.request.handles) ≤ 1) ∧
    (∀ i, Dropped (dispatchLog (e.threads i).past) →
      ⟨.inl true, true⟩ ∈ (e.threads i).past ∧
      ∃ count, limit < count ∧ count ≤ e.shared.delivered ∧
        ∀ reply, counting ⟨stream, group, entry.id⟩ reply ∈ dispatchLog (e.threads i).past ↔
          reply = .ok (some count)) ∧
    ∀ i, counting ⟨stream, group, entry.id⟩ (.ok none) ∈ dispatchLog (e.threads i).past →
      e.shared.acknowledged = true := by
  generalize here : (⟨stream, group, entry.id⟩ : Place) = place at reached ⊢
  have kept : e.Kept (handling place limit) (Tallied place limit) := by
    refine Ensemble.kept_of_reaches preserves_tallied (Ensemble.kept_start (fun _ => none) ?_ ?_) reached
    · exact ⟨fun i => ⟨rfl, nofun, nofun⟩, nofun⟩
    · intro i
      exact delivery_follows (limited i) positive (by rw [grouped i, here]) holds (again i)
  obtain ⟨stages, inv, -⟩ := kept
  have standing : ∀ i, Standing place limit e.shared (stages i) (e.threads i).past := inv.standing
  refine ⟨inv.encard_le positive, fun i => (standing i).invokes_once, fun i dropped => ?_,
    fun i mem => ?_⟩
  · obtain ⟨event, mem, -⟩ := dropped.1
    obtain ⟨handout, held, log⟩ := (standing i).exists_handout mem
    have fits := (standing i).fits handout held
    rw [← log] at dropped ⊢
    obtain ⟨count, read, above, counted, numbered⟩ := fits.dropped dropped
    refine ⟨(standing i).again handout held numbered, count, above, counted, fun reply => ?_⟩
    exact ⟨fun also => fits.read_alone also read, fun same => same ▸ read⟩
  · obtain ⟨handout, held, log⟩ := (standing i).exists_handout mem
    rw [← log] at mem
    exact ((standing i).fits handout held).emptied mem

def Tally.answer (fails : Bool) : (r : served.Request) → Tally → served.Reply r × Tally
  | .inl again, tally =>
    if tally.ready again then (true, { tally with delivered := tally.delivered + 1 }) else (false, tally)
  | .inr (.deliveries ..), tally =>
    (.ok (if tally.acknowledged then none else some tally.delivered), tally)
  | .inr (.acknowledge ..), tally => (.ok (), { tally with acknowledged := true })
  | .inr (.handle _), tally =>
    (if fails then .error (.app .processingFailed none) else .ok (), tally)
  | .inr (.createGroup ..), tally => (.ok (), tally)
  | .inr (.claim ..), tally => (.ok [], tally)
  | .inr (.read ..), tally => (.ok [], tally)
  | .inr (.pause _), tally => (.ok (), tally)
  | .inr (.wait _), tally => ((), tally)
  | .inr .stopWished, tally => (false, tally)

theorem Tally.answers_answer (place : Place) (fails : Bool) (r : served.Request) (tally : Tally) :
    (Tally.around place).answers r tally (Tally.answer fails r tally).1
      (Tally.answer fails r tally).2 := by
  cases r with
  | inl again =>
      cases ready : tally.ready again with
      | true => simp [Tally.around, Tally.answer, ready]
      | false => simp [Tally.around, Tally.answer, ready]
  | inr r =>
      cases r with
      | deliveries stream group id =>
          refine ⟨rfl, fun _ => ?_⟩
          cases acknowledged : tally.acknowledged with
          | true => simp [Tally.answer, acknowledged]
          | false => simp [Tally.answer, acknowledged]
      | acknowledge stream group id => exact .inl rfl
      | _ => rfl

def strictConsumer : Consumer := { (default : Consumer) with group := "workers", maxDeliveries := 1 }

def thumbnailEntry : Entry := ⟨"1-0", [(payloadField, .text Consumer.thumbnailTask.wire)]⟩

abbrev twoDeliveries : Ensemble served Bool Tally (Except Failure Bool) :=
  deliveries (fun _ => strictConsumer) "tasks" thumbnailEntry id

def failedOnce : Ensemble served Bool Tally (Except Failure Bool) :=
  twoDeliveries.play Tally.answer
    [(false, false), (false, true), (true, false), (true, false), (true, false)]

theorem thumbnailEntry_holds : thumbnailEntry.task = .ok Consumer.thumbnailTask :=
  Payload.task_eq_ok_iff.mpr (Payload.carries_of_wire rfl)

theorem failedOnce_dropped :
    Invoked (dispatchLog (failedOnce.threads false).past) ∧
    Dropped (dispatchLog (failedOnce.threads true).past) ∧
    {i | Invoked (dispatchLog (failedOnce.threads i).past) ∧
      ∀ event ∈ dispatchLog (failedOnce.threads i).past, givesNoNumber event = false}.encard ≤ 1 ∧
    ∃ count : Int, 1 < count ∧ count ≤ failedOnce.shared.delivered ∧
      counting ⟨"tasks", "workers", "1-0"⟩ (.ok (some count)) ∈
        dispatchLog (failedOnce.threads true).past := by
  have invoked : Invoked (dispatchLog (failedOnce.threads false).past) := by decide +kernel
  have dropped : Dropped (dispatchLog (failedOnce.threads true).past) := by decide +kernel
  obtain ⟨few, -, drops, -⟩ := invocations_within_limit thumbnailEntry_holds (by decide)
    (fun _ => strictConsumer) (fun _ => rfl) (fun _ => rfl) id failedOnce
    (Ensemble.reaches_play (Tally.answers_answer _) _ _)
  obtain ⟨-, count, above, counted, read⟩ := drops true dropped
  exact ⟨invoked, dropped, few, count, above, counted, (read _).mpr rfl⟩

def readFails : Event consuming → Bool
  | ⟨.deliveries .., .error _⟩ => true
  | _ => false

def acknowledgedBetween : Ensemble served Bool Tally (Except Failure Bool) :=
  twoDeliveries.play Tally.answer
    [(false, false), (true, false), (false, false), (false, false), (true, false), (true, false)]

theorem acknowledgedBetween_exceeds :
    ¬ ∀ e : Ensemble served Bool Tally (Except Failure Bool),
      Ensemble.Reaches (Tally.around ⟨"tasks", "workers", "1-0"⟩) twoDeliveries e →
      (∀ i, ∀ event ∈ dispatchLog (e.threads i).past, readFails event = false) →
      {i | Invoked (dispatchLog (e.threads i).past)}.encard ≤ 1 := by
  intro within
  have reads : ∀ i, ∀ event ∈ dispatchLog (acknowledgedBetween.threads i).past,
      readFails event = false := by decide +kernel
  have both : ∀ i, Invoked (dispatchLog (acknowledgedBetween.threads i).past) := by decide +kernel
  have one := within acknowledgedBetween (Ensemble.reaches_play (Tally.answers_answer _) _ _) reads
  have same := Set.encard_le_one_iff.mp one false true (both false) (both true)
  cases same

end ImagePipeline.Queue
