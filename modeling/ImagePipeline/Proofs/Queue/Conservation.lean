import ImagePipeline.Proofs.Queue.Acknowledgement
import ImagePipeline.Proofs.Script.Repetition
/-!
# Between fetching and dispatching no message is lost

A run of a consumer is a course of turns (`Turn.events`). Each turn looks whether a stop is wished for,
fetches, and dispatches what it was given, looking again before each message. As long as nobody wishes
for a stop, what is handed out and what is dispatched is the same (`run_conserves`), since fetching is
over as soon as anything is handed out (`Fetching.last`).
-/

namespace ImagePipeline.Queue

open Script (Follows Ran within)
open Routine

def handedOut : Event consuming → List Message
  | ⟨.claim stream .., .ok entries⟩ => entries.map (Message.ofEntry stream true)
  | ⟨.read .., .ok answer⟩ => answer.flatMap fun batch => batch.2.map (Message.ofEntry batch.1 false)
  | _ => []

namespace ConsumeRequest

def createsGroup : ConsumeRequest → Bool
  | .createGroup .. => true
  | _ => false

def reads : ConsumeRequest → Bool
  | .read .. => true
  | _ => false

def fetches : ConsumeRequest → Bool
  | .claim .. | .read .. | .pause _ | .wait _ => true
  | _ => false

def dispatches : ConsumeRequest → Bool
  | .deliveries .. | .acknowledge .. | .handle _ => true
  | _ => false

end ConsumeRequest

def failsAsQueue : Event consuming → Bool
  | ⟨.claim .., .error cause⟩ => cause.isQueue
  | ⟨.read .., .error cause⟩ => cause.isQueue
  | ⟨.deliveries .., .error cause⟩ => cause.isQueue
  | ⟨.acknowledge .., .error cause⟩ => cause.isQueue
  | _ => true

def check (wished : Bool) : Event consuming := ⟨.stopWished, wished⟩

def wished? : Event consuming → Option Bool
  | ⟨.stopWished, wished⟩ => some wished
  | _ => none

abbrev StopLasts (events : List (Event consuming)) : Prop :=
  events.Pairwise fun earlier later => wished? earlier = some true → wished? later ≠ some false

structure Dispatch where
  message : Message
  acknowledged : Bool
  events : List (Event consuming)

def dispatchEvents (dispatches : List Dispatch) (broken : Bool) : List (Event consuming) :=
  dispatches.flatMap (fun d => check false :: d.events) ++ if broken then [check true] else []

structure Turn where
  fetching : List (Event consuming)
  dispatches : List Dispatch
  broken : Bool

namespace Turn

def handedOut (turn : Turn) : List Message := turn.fetching.flatMap Queue.handedOut

def dispatched (turn : Turn) : List Message := turn.dispatches.map (·.message)

def events (turn : Turn) : List (Event consuming) :=
  check false :: (turn.fetching ++ dispatchEvents turn.dispatches turn.broken)

theorem stop_seen {turn : Turn} (broken : turn.broken = true) : check true ∈ turn.events := by
  simp [events, dispatchEvents, broken]

theorem unbroken_of_lasts {turn : Turn} {later : List (Event consuming)}
    (lasts : StopLasts (turn.events ++ later)) (goesOn : check false ∈ later) : turn.broken = false :=
  Bool.eq_false_iff.mpr fun broken =>
    (List.pairwise_append.mp lasts).2.2 _ (stop_seen broken) _ goesOn rfl rfl

end Turn

/-- A run of a consumer: it creates groups, takes turns, and may have ended because a stop was wished
for. -/
structure Course where
  groups : List (Event consuming)
  turns : List Turn
  ended : Bool

namespace Course

def dispatched (course : Course) : List Message := course.turns.flatMap (·.dispatched)

def events (course : Course) : List (Event consuming) :=
  course.groups ++ course.turns.flatMap (·.events) ++ if course.ended then [check true] else []

end Course

namespace Consumer

variable {σ : Type} {answers : (r : ConsumeRequest) → σ → consuming.Reply r → σ → Prop}
  {state state' : σ} {events more : List (Event consuming)} {consumer : Consumer}
  {messages : List Message} {message : Message}

/-! ## Fetching -/

def foundNothing (consumer : Consumer) (stream : String) : Event consuming :=
  ⟨.claim stream consumer.group consumer.name consumer.claimIdleMs, .ok []⟩

/-- Requests of a fetch, retries included, and the messages they lead to. -/
structure Fetching (consumer : Consumer) (events : List (Event consuming)) (messages : List Message) :
    Prop where
  fetches : ∀ e ∈ events, e.request.fetches = true
  given : events.flatMap handedOut = messages
  last : ∀ e ∈ events.dropLast, handedOut e = []
  polled : ∀ before e after, events = before ++ e :: after → e.request.reads = true →
    consumer.streams.map consumer.foundNothing <:+ before

namespace Fetching

theorem single {e : Event consuming} (fetches : e.request.fetches = true)
    (reads : e.request.reads = false) : Fetching consumer [e] (handedOut e) where
  fetches := by simpa using fetches
  given := by simp
  last := by simp
  polled := by
    intro before other after whole wanted
    obtain ⟨rfl, rfl, -⟩ : before = [] ∧ e = other ∧ after = [] := by
      cases before with
      | nil => simpa using whole
      | cons => simp at whole
    rw [reads] at wanted
    cases wanted

theorem append (first : Fetching consumer events []) (second : Fetching consumer more messages) :
    Fetching consumer (events ++ more) messages where
  fetches := List.forall_mem_append.mpr ⟨first.fetches, second.fetches⟩
  given := by rw [List.flatMap_append, first.given, second.given, List.nil_append]
  last := by
    have quiet : ∀ e ∈ events, handedOut e = [] := List.flatMap_eq_nil_iff.mp first.given
    intro e mem
    rw [List.dropLast_append] at mem
    split at mem
    · exact first.last e mem
    · exact (List.mem_append.mp mem).elim (quiet e) (second.last e)
  polled := by
    intro before e after whole wanted
    rcases List.append_eq_append_iff.mp whole with ⟨between, rfl, rest⟩ | ⟨between, early, rest⟩
    · have suffix := second.polled between e after rest wanted
      exact suffix.trans (List.suffix_append _ _)
    · cases between with
      | nil =>
          have suffix := second.polled [] e after rest.symm wanted
          rw [List.suffix_nil.mp suffix]
          exact List.nil_suffix
      | cons head tail =>
          obtain ⟨rfl, -⟩ := List.cons_eq_cons.mp rest
          exact first.polled before e tail early wanted

end Fetching

theorem fetching_of_foundNothing (streams : List String) :
    Fetching consumer (streams.map consumer.foundNothing) [] := by
  induction streams with
  | nil => exact ⟨by simp, by simp, by simp, by simp⟩
  | cons stream rest ih =>
      have here : Fetching consumer [consumer.foundNothing stream] [] := .single rfl rfl
      exact here.append ih

theorem ran_claimStale {streams : List String} {result : Except Failure (List Message)}
    (ran : Ran answers (consumer.claimStale streams).run state events result state') :
    (result = .ok [] ∧ events = streams.map consumer.foundNothing) ∨
      (∃ messages, result = .ok messages ∧ messages ≠ [] ∧ Fetching consumer events messages) ∨
      ∃ cause, result = .error cause ∧ Fetching consumer events [] ∧
        ((∀ e ∈ events, failsAsQueue e = true) → cause.isQueue = true) := by
  induction streams generalizing state events with
  | nil =>
      obtain ⟨rfl, rfl, -⟩ := ran
      exact .inl ⟨rfl, rfl⟩
  | cons stream rest ih =>
      rcases ran_bind ran with
        ⟨cause, rfl, asked⟩ | ⟨entries, between, first, second, rfl, asked, following⟩
      · obtain ⟨rfl, -⟩ := Script.ran_request asked
        refine .inr (.inr ⟨cause, rfl, .single rfl rfl, fun fails => ?_⟩)
        exact fails _ List.mem_cons_self
      · obtain ⟨rfl, -⟩ := Script.ran_request asked
        cases entries with
        | nil =>
            have here : Fetching consumer [consumer.foundNothing stream] [] := .single rfl rfl
            rcases ih following with
              ⟨rfl, rfl⟩ | ⟨messages, rfl, some_, fetched⟩ | ⟨cause, rfl, fetched, known⟩
            · exact .inl ⟨rfl, rfl⟩
            · exact .inr (.inl ⟨messages, rfl, some_, here.append fetched⟩)
            · refine .inr (.inr ⟨cause, rfl, here.append fetched, fun fails => ?_⟩)
              exact known fun e mem => fails e (List.mem_append_right _ mem)
        | cons entry entries =>
            obtain ⟨rfl, rfl, -⟩ := following
            exact .inr (.inl ⟨_, rfl, by simp, .single rfl rfl⟩)

theorem fetching_of_read (reply : Except Failure (List (String × List Entry))) :
    Fetching consumer
      (consumer.streams.map consumer.foundNothing ++
        [⟨.read consumer.group consumer.name consumer.streams consumer.blockMs, reply⟩])
      (handedOut ⟨.read consumer.group consumer.name consumer.streams consumer.blockMs, reply⟩) := by
  have before : Fetching consumer (consumer.streams.map consumer.foundNothing) [] :=
    fetching_of_foundNothing consumer.streams
  have quiet := List.flatMap_eq_nil_iff.mp before.given
  constructor
  case fetches => exact List.forall_mem_append.mpr ⟨before.fetches, by simp [ConsumeRequest.fetches]⟩
  case given => rw [List.flatMap_append, before.given, List.flatMap_singleton, List.nil_append]
  case last => simpa using quiet
  case polled =>
    intro earlier e after whole wanted
    rcases List.append_eq_append_iff.mp whole with ⟨between, rfl, rest⟩ | ⟨between, early, rest⟩
    · cases between with
      | nil => simp
      | cons head tail => simp at rest
    · cases between with
      | nil => simp [early]
      | cons head tail =>
          -- what comes before the read asks for no read
          have mem : head ∈ consumer.streams.map consumer.foundNothing := by simp [early]
          obtain ⟨stream, -, rfl⟩ := List.mem_map.mp mem
          obtain ⟨rfl, -⟩ := List.cons_eq_cons.mp rest
          cases wanted

def PauseFailed (events : List (Event consuming)) (cause : Failure) : Prop :=
  ∃ seconds, [⟨.pause seconds, .error cause⟩] <:+ events

theorem PauseFailed.after {cause : Failure} (failed : PauseFailed events cause)
    (before : List (Event consuming)) : PauseFailed (before ++ events) cause :=
  failed.imp fun _ last => last.trans (List.suffix_append before events)

def Fetched (consumer : Consumer) (events : List (Event consuming)) :
    Except Failure (List Message) → Prop
  | .ok messages => Fetching consumer events messages
  | .error cause => Fetching consumer events [] ∧
      ((∀ e ∈ events, failsAsQueue e = true) → cause.isQueue = true ∨ PauseFailed events cause)

theorem ran_fetch {result : Except Failure (List Message)}
    (ran : Ran answers consumer.fetch.run state events result state') :
    Fetched consumer events result := by
  rcases ran_bind ran with
    ⟨cause, rfl, claimed⟩ | ⟨claimed, between, first, second, rfl, before, following⟩
  · rcases ran_claimStale claimed with ⟨⟨⟩, -⟩ | ⟨messages, ⟨⟩, -⟩ | ⟨cause, ⟨⟩, fetching, known⟩
    exact ⟨fetching, fun fails => .inl (known fails)⟩
  · rcases ran_claimStale before with ⟨⟨⟩, rfl⟩ | ⟨messages, ⟨⟩, some_, fetched⟩ | ⟨cause, ⟨⟩, -⟩
    · rcases ran_bind following with ⟨cause, rfl, asked⟩ | ⟨answer, _, _, _, rfl, asked, done⟩
      · obtain ⟨rfl, -⟩ := Script.ran_request asked
        exact ⟨fetching_of_read (.error cause), fun fails =>
          .inl (fails _ (List.mem_append_right _ List.mem_cons_self))⟩
      · obtain ⟨rfl, -⟩ := Script.ran_request asked
        obtain ⟨rfl, rfl, -⟩ := done
        exact fetching_of_read (.ok answer)
    · have shown : claimed.isEmpty = false := by simpa using some_
      simp only [shown, Bool.false_eq_true, if_false] at following
      obtain ⟨rfl, rfl, -⟩ := following
      simpa [Fetched] using fetched

theorem ran_attempts {body : Routine consuming (List Message)}
    (fetches : ∀ {state state' : σ} {events : List (Event consuming)}
      {result : Except Failure (List Message)},
      Ran answers body.run state events result state' → Fetched consumer events result)
    {retries : Nat} {delay : Float} {result : Except Failure (List Message)}
    (ran : Ran answers (Retry.loop Failure.isQueue (fun seconds => Routine.ask (request (.pause seconds)))
      consumer.strategy.backoff body retries delay).run state events result state') :
    Fetched consumer events result := by
  induction retries generalizing state events delay with
  | zero => exact fetches ran
  | succ retries ih =>
      rcases Retry.ran_loop_succ ran with
        ⟨tried, -⟩ | ⟨_, _, first, -, tried, ⟨refusal, _, rfl, rfl, paused⟩ | ⟨_, _, _, rfl, paused, again⟩⟩
      · exact fetches tried
      · obtain ⟨rfl, -⟩ := Script.ran_request paused
        have failed : Fetching consumer first [] := (fetches tried).1
        exact ⟨failed.append (.single rfl rfl), fun _ => .inr ⟨delay, List.suffix_append _ _⟩⟩
      · obtain ⟨rfl, -⟩ := Script.ran_request paused
        -- an attempt that failed has handed out nothing, so what is handed out is that of the next ones
        have failed : Fetching consumer first [] := (fetches tried).1
        have pausing : Fetching consumer (first ++ [⟨.pause delay, .ok ()⟩]) [] :=
          failed.append (.single rfl rfl)
        have again := ih again
        rw [← List.append_assoc]
        cases result with
        | ok messages => exact pausing.append again
        | error cause =>
            exact ⟨pausing.append again.1, fun fails =>
              (again.2 fun e mem => fails e (List.mem_append_right _ mem)).imp_right (.after · _)⟩

theorem ran_fetchWithRetry {result : Except Failure (Option (List Message))}
    (ran : Ran answers consumer.fetchWithRetry.run state events result state')
    (fails : ∀ e ∈ events, failsAsQueue e = true) :
    (∃ messages, result = .ok messages ∧ Fetching consumer events (messages.getD [])) ∨
      ∃ cause, result = .error cause ∧ Fetching consumer events [] ∧ PauseFailed events cause := by
  have fetched {state'' : σ} {events : List (Event consuming)} {result : Except Failure (List Message)}
      (ran : Ran answers (Retry.attempts consumer.strategy Failure.isQueue
        (fun seconds => Routine.ask (request (.pause seconds))) consumer.fetch).run state events result
        state'') :
      Fetched consumer events result := ran_attempts ran_fetch ran
  rcases ran_recover ran with ⟨done, unknown⟩ | ⟨cause, _, first, _, -, rfl, tried, following⟩
  · rcases ran_bind done with ⟨cause, rfl, tried⟩ | ⟨messages, _, _, _, rfl, tried, ended⟩
    · rcases (fetched tried).2 fails with known | failed
      · rw [unknown cause rfl] at known
        cases known
      · exact .inr ⟨cause, rfl, (fetched tried).1, failed⟩
    · obtain ⟨rfl, rfl, -⟩ := ended
      rw [List.append_nil]
      exact .inl ⟨some messages, rfl, fetched tried⟩
  · rcases ran_bind tried with ⟨_, ⟨⟩, tried⟩ | ⟨_, _, _, _, rfl, -, -, ⟨⟩, -⟩
    obtain ⟨rfl, rfl, -⟩ := following
    rw [List.append_nil]
    exact .inl ⟨none, rfl, (fetched tried).1⟩

/-! ## Dispatching -/

abbrev dispatching : Contract consuming Unit :=
  within (fun r : ConsumeRequest => r.dispatches = true) (failsAsQueue · = true)

theorem acknowledge_keeps : Follows dispatching (fun _ result => result = .ok ()) ()
    (consumer.acknowledge message).run := by
  apply follows_recover
  refine ⟨rfl, fun reply _ fails => ?_⟩
  cases reply with
  | ok _ => rfl
  | error cause =>
      have known : cause.isQueue = true := fails
      simp only [Follows, known, if_true]
      rfl

theorem acknowledged_keeps : Follows dispatching (fun _ result => ∃ done, result = .ok done) ()
    (do consumer.acknowledge message; return true : Routine consuming Bool).run := by
  apply follows_bind
  apply acknowledge_keeps.mono
  rintro ⟨⟩ result rfl
  exact ⟨true, rfl⟩

theorem cameTooOften_keeps : Follows dispatching (fun _ result => ∃ exceeded, result = .ok exceeded) ()
    (consumer.cameTooOften message).run := by
  unfold cameTooOften exceededDeliveries
  split
  · split
    · exact ⟨false, rfl⟩
    · apply follows_recover
      apply follows_bind
      refine ⟨rfl, fun reply _ fails => ?_⟩
      cases reply with
      | ok count => exact ⟨_, rfl⟩
      | error cause =>
          have known : cause.isQueue = true := fails
          simp only [Follows, known, if_true]
          exact ⟨false, rfl⟩
  · exact ⟨false, rfl⟩

theorem handled_keeps (task : Task) :
    Follows dispatching (fun _ result => ∃ done, result = .ok done) ()
      (Consumer.handled task).run := by
  apply follows_recover
  apply follows_bind
  refine ⟨rfl, fun reply _ _ => ?_⟩
  cases reply with
  | ok _ => exact ⟨true, rfl⟩
  | error cause => exact ⟨false, rfl⟩

theorem dispatchWithin_keeps : Follows dispatching (fun _ result => ∃ done, result = .ok done) ()
    (consumer.dispatchWithin message).run := by
  unfold dispatchWithin
  split
  · exact acknowledged_keeps
  · next task _ =>
      apply follows_bind
      apply (handled_keeps task).mono
      rintro ⟨⟩ result ⟨done, rfl⟩
      cases done with
      | true => exact acknowledged_keeps
      | false => exact ⟨false, rfl⟩

theorem dispatch_keeps : Follows dispatching (fun _ result => ∃ done, result = .ok done) ()
    (consumer.dispatch message).run := by
  rw [dispatch_eq]
  apply follows_bind
  apply cameTooOften_keeps.mono
  rintro ⟨⟩ result ⟨exceeded, rfl⟩
  cases exceeded with
  | true => exact acknowledged_keeps
  | false => exact dispatchWithin_keeps

theorem handedOut_of_dispatches {e : Event consuming} (dispatches : e.request.dispatches = true) :
    handedOut e = [] := by
  obtain ⟨r, reply⟩ := e
  cases r with
  | deliveries | acknowledge | handle => rfl
  | _ => cases dispatches

theorem handedOut_of_createsGroup {e : Event consuming} (creates : e.request.createsGroup = true) :
    handedOut e = [] := by
  obtain ⟨r, reply⟩ := e
  cases r with
  | createGroup => rfl
  | _ => cases creates

/-! ## Turns -/

/-- Messages were dispatched one after the other, each dispatch run to its end, and all of them unless
that was broken off. -/
structure Carried (consumer : Consumer) (answers : (r : ConsumeRequest) → σ → consuming.Reply r → σ → Prop)
    (messages : List Message) (dispatches : List Dispatch) (broken : Bool) : Prop where
  each : ∀ d ∈ dispatches, (∀ e ∈ d.events, e.request.dispatches = true) ∧ ∃ before after,
    Ran answers (consumer.dispatch d.message).run before d.events (.ok d.acknowledged) after
  inOrder : dispatches.map (·.message) <+: messages
  whole : broken = false ↔ dispatches.map (·.message) = messages

structure Orderly (consumer : Consumer) (answers : (r : ConsumeRequest) → σ → consuming.Reply r → σ → Prop)
    (turn : Turn) : Prop where
  fetching : Fetching consumer turn.fetching turn.handedOut
  carried : Carried consumer answers turn.handedOut turn.dispatches turn.broken

theorem ran_dispatchAll {result : Except Failure Unit}
    (ran : Ran answers (consumer.dispatchAll messages).run state events result state')
    (fails : ∀ e ∈ events, failsAsQueue e = true) :
    ∃ dispatches broken, events = dispatchEvents dispatches broken ∧ result = .ok () ∧
      Carried consumer answers messages dispatches broken := by
  induction messages generalizing state events with
  | nil =>
      obtain ⟨rfl, rfl, -⟩ := ran
      exact ⟨[], false, rfl, rfl, nofun, List.nil_prefix, by simp⟩
  | cons message rest ih =>
      obtain ⟨wished, between, _, second, rfl, asked, following⟩ := ran_tell ran
      obtain ⟨rfl, -⟩ := Script.ran_request asked
      cases wished with
      | true =>
          obtain ⟨rfl, rfl, -⟩ := following
          exact ⟨[], true, rfl, rfl, nofun, List.nil_prefix, by simp⟩
      | false =>
          have later : ∀ e ∈ second, failsAsQueue e = true := fun e mem =>
            fails e (List.mem_append_right _ mem)
          rcases ran_bind following with
            ⟨cause, rfl, dispatched⟩ | ⟨acknowledged, _, first, others, rfl, dispatched, remaining⟩
          · obtain ⟨-, done, same⟩ := Script.ran_within dispatch_keeps dispatched later
            cases same
          · obtain ⟨quiet, -⟩ := Script.ran_within dispatch_keeps dispatched fun e mem =>
              later e (List.mem_append_left _ mem)
            obtain ⟨dispatches, broken, rfl, rfl, carried⟩ := ih remaining fun e mem =>
              later e (List.mem_append_right _ mem)
            refine ⟨⟨message, acknowledged, first⟩ :: dispatches, broken, ?_, rfl, ?_, ?_, ?_⟩
            · simp [dispatchEvents, check]
            · exact List.forall_mem_cons.mpr ⟨⟨quiet, _, _, dispatched⟩, carried.each⟩
            · exact List.cons_prefix_cons.mpr ⟨rfl, carried.inOrder⟩
            · simpa using carried.whole

theorem ran_turn {result : Except Failure Unit}
    (ran : Ran answers consumer.turn.run state events result state')
    (fails : ∀ e ∈ events, failsAsQueue e = true) :
    ∃ turn : Turn, check false :: events = turn.events ∧ Orderly consumer answers turn ∧
      (result = .ok () ∨ ∃ cause, result = .error cause ∧ PauseFailed events cause) := by
  rcases ran_bind ran with ⟨cause, rfl, fetched⟩ | ⟨fetched, _, first, second, rfl, before, following⟩
  · rcases ran_fetchWithRetry fetched fails with ⟨_, ⟨⟩, -⟩ | ⟨_, ⟨⟩, fetching, failed⟩
    refine ⟨⟨events, [], false⟩, by simp [Turn.events, dispatchEvents], ⟨?_, ?_⟩, .inr ⟨cause, rfl, failed⟩⟩
    · rwa [Turn.handedOut, fetching.given]
    · exact ⟨nofun, List.nil_prefix, by simp [Turn.handedOut, fetching.given]⟩
  · rcases ran_fetchWithRetry before (fun e mem => fails e (List.mem_append_left _ mem)) with
      ⟨messages, same, fetching⟩ | ⟨_, ⟨⟩, -⟩
    cases same
    cases fetched with
    | none =>
        obtain ⟨told, _, _, _, rfl, waited, rfl, rfl, -⟩ := Script.ran_bind following
        obtain ⟨rfl, -⟩ := Script.ran_request waited
        have waiting : Fetching consumer [⟨.wait fetchFailurePause, told⟩] [] := .single rfl rfl
        have all := fetching.append waiting
        refine ⟨⟨first ++ [⟨.wait fetchFailurePause, told⟩], [], false⟩, ?_, ⟨?_, ?_⟩, .inl rfl⟩
        · simp [Turn.events, dispatchEvents]
        · rwa [Turn.handedOut, all.given]
        · exact ⟨nofun, List.nil_prefix, by simpa [Turn.handedOut] using all.given⟩
    | some messages =>
        obtain ⟨dispatches, broken, rfl, rfl, carried⟩ := ran_dispatchAll following fun e mem =>
          fails e (List.mem_append_right _ mem)
        have given : first.flatMap handedOut = messages := fetching.given
        refine ⟨⟨first, dispatches, broken⟩, rfl, ⟨?_, ?_⟩, .inl rfl⟩
        · rwa [Turn.handedOut, given]
        · rwa [Turn.handedOut, given]

theorem ran_loop {limit : Nat} {result : Except Failure Bool}
    (ran : Ran answers (consumer.loop limit).run state events result state')
    (fails : ∀ e ∈ events, failsAsQueue e = true) (lasts : StopLasts events) :
    ∃ (turns : List Turn) (ended : Bool),
      events = turns.flatMap (·.events) ++ (if ended then [check true] else []) ∧
      (∀ turn ∈ turns, Orderly consumer answers turn) ∧
      (∀ turn ∈ turns.dropLast, turn.broken = false) ∧
      match result with
      | .ok stopped => stopped = ended ∧ (stopped = false → turns.length = limit)
      | .error cause => ended = false ∧ PauseFailed events cause := by
  induction limit generalizing state events with
  | zero =>
      obtain ⟨rfl, rfl, -⟩ := ran
      exact ⟨[], false, rfl, nofun, nofun, rfl, fun _ => rfl⟩
  | succ limit ih =>
      obtain ⟨wished, _, _, second, rfl, asked, following⟩ := ran_tell ran
      obtain ⟨rfl, -⟩ := Script.ran_request asked
      cases wished with
      | true =>
          obtain ⟨rfl, rfl, -⟩ := following
          exact ⟨[], true, rfl, nofun, nofun, rfl, nofun⟩
      | false =>
          have later : ∀ e ∈ second, failsAsQueue e = true := fun e mem =>
            fails e (List.mem_append_right _ mem)
          rcases ran_bind following with
            ⟨cause, rfl, turned⟩ | ⟨⟨⟩, _, first, others, rfl, turned, remaining⟩
          · obtain ⟨turn, whole, orderly, ends⟩ := ran_turn turned later
            rcases ends with ⟨⟨⟩⟩ | ⟨_, ⟨⟩, failed⟩
            refine ⟨[turn], false, ?_, List.forall_mem_singleton.mpr orderly, nofun, rfl, failed.after _⟩
            simpa [check] using whole
          · obtain ⟨turn, whole, orderly, -⟩ := ran_turn turned fun e mem =>
              later e (List.mem_append_left _ mem)
            have split : [check false] ++ (first ++ others) = turn.events ++ others := by
              rw [← whole]
              rfl
            have lasting : StopLasts (turn.events ++ others) := split ▸ lasts
            obtain ⟨turns, ended, rfl, each, early, ends⟩ := ih remaining
              (fun e mem => later e (List.mem_append_right _ mem)) (List.pairwise_append.mp lasting).2.1
            refine ⟨turn :: turns, ended, ?_, List.forall_mem_cons.mpr ⟨orderly, each⟩, ?_, ?_⟩
            · rw [List.flatMap_cons, List.append_assoc]
              exact split
            · cases turns with
              | nil => exact nofun
              | cons next turns =>
                  have began : check false ∈ (next :: turns).flatMap (·.events) :=
                    List.mem_append_left _ List.mem_cons_self
                  have unbroken := Turn.unbroken_of_lasts lasting (List.mem_append_left _ began)
                  exact List.forall_mem_cons.mpr ⟨unbroken, early⟩
            · cases result with
              | ok stopped => exact ⟨ends.1, fun unended => congrArg (· + 1) (ends.2 unended)⟩
              | error cause => exact ⟨ends.1, (ends.2.after first).after _⟩

/-! ## A whole run -/

theorem Carried.handedOut_eq {dispatches : List Dispatch} {broken : Bool}
    (carried : Carried consumer answers messages dispatches broken) :
    (dispatchEvents dispatches broken).flatMap handedOut = [] := by
  rw [List.flatMap_eq_nil_iff]
  intro e mem
  rcases List.mem_append.mp mem with mem | mem
  · obtain ⟨d, among, mem⟩ := List.mem_flatMap.mp mem
    rcases List.mem_cons.mp mem with rfl | mem
    · rfl
    · exact handedOut_of_dispatches ((carried.each d among).1 e mem)
  · split at mem
    · cases List.mem_singleton.mp mem
      rfl
    · cases mem

theorem Orderly.handedOut_eq {turn : Turn} (orderly : Orderly consumer answers turn) :
    turn.events.flatMap handedOut = turn.handedOut := by
  rw [Turn.events, List.flatMap_cons, List.flatMap_append, orderly.carried.handedOut_eq,
    List.append_nil]
  rfl

theorem handedOut_turns {turns : List Turn} (each : ∀ turn ∈ turns, Orderly consumer answers turn) :
    (turns.flatMap (·.events)).flatMap handedOut = turns.flatMap (·.handedOut) := by
  induction turns with
  | nil => rfl
  | cons turn rest ih =>
      obtain ⟨orderly, later⟩ := List.forall_mem_cons.mp each
      rw [List.flatMap_cons, List.flatMap_append, orderly.handedOut_eq, ih later, List.flatMap_cons]

theorem dispatched_eq {turns : List Turn} (each : ∀ turn ∈ turns, Orderly consumer answers turn)
    (unbroken : ∀ turn ∈ turns, turn.broken = false) :
    turns.flatMap (·.dispatched) = turns.flatMap (·.handedOut) := by
  induction turns with
  | nil => rfl
  | cons turn rest ih =>
      obtain ⟨orderly, later⟩ := List.forall_mem_cons.mp each
      obtain ⟨here, others⟩ := List.forall_mem_cons.mp unbroken
      have all : turn.dispatched = turn.handedOut := orderly.carried.whole.mp here
      rw [List.flatMap_cons, List.flatMap_cons, all, ih later others]

theorem dispatched_prefix {turns : List Turn} (each : ∀ turn ∈ turns, Orderly consumer answers turn)
    (early : ∀ turn ∈ turns.dropLast, turn.broken = false) :
    turns.flatMap (·.dispatched) <+: turns.flatMap (·.handedOut) := by
  rcases List.eq_nil_or_concat turns with rfl | ⟨before, last, rfl⟩
  · exact List.nil_prefix
  · rw [List.concat_eq_append] at *
    rw [List.dropLast_concat] at early
    obtain ⟨sooner, orderly⟩ := List.forall_mem_append.mp each
    have inOrder := (orderly last List.mem_cons_self).carried.inOrder
    rw [List.flatMap_append, List.flatMap_append, dispatched_eq sooner early,
      List.prefix_append_right_inj]
    simpa [Turn.dispatched] using inOrder

theorem ensureGroups_keeps (streams : List String) :
    Follows (within (fun r : ConsumeRequest => r.createsGroup = true) fun _ => True) (fun _ _ => True) ()
      (streams.forM fun stream => (Routine.ask (request (.createGroup stream consumer.group))).recover
        groupExists fun _ => pure () : Routine consuming Unit).run := by
  induction streams with
  | nil => trivial
  | cons stream rest ih =>
      apply follows_then
      · apply follows_recovered
        · exact ⟨rfl, fun _ _ _ => trivial⟩
        · exact fun _ _ => trivial
      · exact fun _ _ => ih

/-- A run is a course of turns, of which all but the last are whole. What it dispatches is what it was
handed out, each message once and in order, unless a stop was wished for; then only the end of the last
turn is left, and nothing is asked any more but whether a stop is wished for. It fails only if the groups
cannot be created or a pause between two attempts to fetch fails. -/
theorem run_conserves {limit : Nat} {result : Except Failure Bool}
    (ran : Ran answers (consumer.run limit).run state events result state')
    (fails : ∀ e ∈ events, failsAsQueue e = true) (lasts : StopLasts events) :
    ∃ course : Course, events = course.events ∧
      (∀ e ∈ course.groups, e.request.createsGroup = true) ∧
      (∀ turn ∈ course.turns, Orderly consumer answers turn) ∧
      (∀ turn ∈ course.turns.dropLast, turn.broken = false) ∧
      course.dispatched <+: events.flatMap handedOut ∧
      (course.dispatched = events.flatMap handedOut ∨ check true ∈ events) ∧
      match result with
      | .ok stopped => stopped = course.ended ∧ (stopped = false → course.turns.length = limit)
      | .error cause => course.ended = false ∧ (course.turns = [] ∨ PauseFailed events cause) := by
  have grouped {state'' : σ} {first : List (Event consuming)} {result : Except Failure Unit}
      (ran : Ran answers consumer.ensureGroups.run state first result state'') :
      ∀ e ∈ first, e.request.createsGroup = true :=
    (Script.ran_within (ensureGroups_keeps consumer.streams) ran fun _ _ => trivial).1
  have quiet {first : List (Event consuming)} (groups : ∀ e ∈ first, e.request.createsGroup = true) :
      first.flatMap handedOut = [] :=
    List.flatMap_eq_nil_iff.mpr fun e mem => handedOut_of_createsGroup (groups e mem)
  rcases ran_bind ran with ⟨cause, rfl, refused⟩ | ⟨⟨⟩, _, first, second, rfl, created, looping⟩
  · have groups := grouped refused
    refine ⟨⟨events, [], false⟩, by simp [Course.events], groups, nofun, nofun, ?_, .inl ?_, rfl, .inl rfl⟩
    · exact List.nil_prefix
    · exact (quiet groups).symm
  · have groups := grouped created
    obtain ⟨turns, ended, rfl, each, early, ends⟩ := ran_loop looping
      (fun e mem => fails e (List.mem_append_right _ mem)) (List.pairwise_append.mp lasts).2.1
    have given : (first ++ (turns.flatMap (·.events) ++ if ended then [check true] else [])).flatMap
        handedOut = turns.flatMap (·.handedOut) := by
      rw [List.flatMap_append, List.flatMap_append, quiet groups, handedOut_turns each]
      cases ended <;> simp [check, handedOut]
    refine ⟨⟨first, turns, ended⟩, by simp [Course.events], groups, each, early, ?_, ?_, ?_⟩
    · rw [given]
      exact dispatched_prefix each early
    -- a turn is broken off only by a stop, and then the stop was seen in its events
    · by_cases unbroken : ∀ turn ∈ turns, turn.broken = false
      · exact .inl (given ▸ dispatched_eq each unbroken)
      · obtain ⟨turn, among, broken⟩ := by simpa using unbroken
        have within := List.mem_flatMap.mpr ⟨turn, among, Turn.stop_seen broken⟩
        exact .inr (List.mem_append_right _ (List.mem_append_left _ within))
    · cases result with
      | ok stopped => exact ends
      | error cause => exact ⟨ends.1, .inr (ends.2.after first)⟩

def pairConsumer : Consumer := { (default : Consumer) with
  streams := ["images:0", "images:1"]
  group := "workers"
  strategy := .standard }

def interruptedQueue (r : ConsumeRequest) (asked : Nat) : consuming.Reply r × Nat :=
  (match r with
    | .createGroup .. => .ok ()
    | .claim .. =>
      if asked = 4 then .error (.foreign .queueUnreachable "down")
      else if asked = 7 then .ok [⟨"1-0", []⟩, ⟨"2-0", []⟩]
      else .ok []
    | .read .. => .ok []
    | .deliveries .. => .ok none
    | .acknowledge .. => .ok ()
    | .handle _ => .ok ()
    | .pause _ => .ok ()
    | .wait _ => ()
    | .stopWished => decide (10 ≤ asked), asked + 1)

def acknowledged? : Event consuming → Option String
  | ⟨.acknowledge _ _ id, _⟩ => some id
  | _ => none

def interruptedRun : List (Event consuming) := (pairConsumer.run 3).run.trace interruptedQueue 0

theorem interruptedRun_conserves :
    (∀ e ∈ interruptedRun, failsAsQueue e = true) ∧ StopLasts interruptedRun ∧
    (interruptedRun.flatMap handedOut).map (·.id) = ["1-0", "2-0"] ∧
    interruptedRun.filterMap acknowledged? = ["1-0"] ∧
    ∃ course : Course, interruptedRun = course.events ∧
      course.dispatched <+: interruptedRun.flatMap handedOut := by
  have fails : ∀ e ∈ interruptedRun, failsAsQueue e = true := by decide +kernel
  have lasts : StopLasts interruptedRun := by decide +kernel
  refine ⟨fails, lasts, by decide +kernel, by decide +kernel, ?_⟩
  obtain ⟨course, whole, -, -, -, inOrder, -⟩ :=
    run_conserves (Script.ran_trace (fun _ _ _ _ => True) (fun _ _ => trivial) (pairConsumer.run 3).run 0)
      fails lasts
  exact ⟨course, whole, inOrder⟩

end Consumer

end ImagePipeline.Queue
