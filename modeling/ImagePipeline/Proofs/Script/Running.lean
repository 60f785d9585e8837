import ImagePipeline.Proofs.Script.Contract

namespace ImagePipeline

namespace Script

variable {I : Interface} {α β σ : Type} {answers : (r : I.Request) → σ → I.Reply r → σ → Prop}

/-- A run of a script from one state to another, with what it was answered, the earliest first. -/
def Ran (answers : (r : I.Request) → σ → I.Reply r → σ → Prop) :
    Script I α → σ → List (Event I) → α → σ → Prop
  | .done result, state, events, value, state' => events = [] ∧ result = value ∧ state = state'
  | .ask r next, state, events, value, state' =>
    ∃ reply between rest, events = ⟨r, reply⟩ :: rest ∧ answers r state reply between ∧
      Ran answers (next reply) between rest value state'

theorem ran_bind {script : Script I α} {rest : α → Script I β} {state state' : σ}
    {events : List (Event I)} {value : β} (ran : Ran answers (script >>= rest) state events value state') :
    ∃ result between first second, events = first ++ second ∧
      Ran answers script state first result between ∧
      Ran answers (rest result) between second value state' := by
  induction script generalizing state events with
  | done result => exact ⟨result, state, [], events, rfl, ⟨rfl, rfl, rfl⟩, ran⟩
  | ask r next ih =>
      obtain ⟨reply, after, later, rfl, answered, ran⟩ := ran
      obtain ⟨result, between, first, second, rfl, before, following⟩ := ih reply ran
      exact ⟨result, between, ⟨r, reply⟩ :: first, second, rfl,
        ⟨reply, after, first, rfl, answered, before⟩, following⟩

theorem ran_request {r : I.Request} {reply : I.Reply r} {state state' : σ} {events : List (Event I)}
    (ran : Ran answers (request r) state events reply state') :
    events = [⟨r, reply⟩] ∧ answers r state reply state' := by
  obtain ⟨given, between, rest, rfl, answered, rfl, rfl, rfl⟩ := ran
  exact ⟨rfl, answered⟩

theorem ran_request_alone {answer : (r : I.Request) → σ → I.Reply r × σ} {r : I.Request}
    {reply : I.Reply r} {state state' : σ} {events : List (Event I)}
    (ran : Ran (fun r s reply s' => answer r s = (reply, s')) (request r) state events reply state') :
    events = [⟨r, (answer r state).1⟩] ∧ reply = (answer r state).1 ∧ state' = (answer r state).2 := by
  obtain ⟨rfl, answered⟩ := ran_request ran
  rw [answered]
  exact ⟨rfl, rfl, rfl⟩

def within (allowed : I.Request → Prop) (expected : Event I → Prop) : Contract I Unit where
  may _ r := allowed r
  moves _ r reply _ := expected ⟨r, reply⟩

theorem ran_within {allowed : I.Request → Prop} {expected : Event I → Prop} {post : α → Prop}
    {script : Script I α} {state state' : σ} {events : List (Event I)} {value : α}
    (follows : Follows (within allowed expected) (fun _ => post) () script)
    (ran : Ran answers script state events value state') (as : ∀ e ∈ events, expected e) :
    (∀ e ∈ events, allowed e.request) ∧ post value := by
  induction script generalizing state events with
  | done result =>
      obtain ⟨rfl, rfl, -⟩ := ran
      exact ⟨nofun, follows⟩
  | ask r next ih =>
      obtain ⟨reply, between, rest, rfl, -, ran⟩ := ran
      obtain ⟨first, later⟩ := List.forall_mem_cons.mp as
      obtain ⟨others, ended⟩ := ih reply (follows.2 reply () first) ran later
      exact ⟨List.forall_mem_cons.mpr ⟨follows.1, others⟩, ended⟩

theorem Follows.ran {P : Type} {C : Contract I P} {post : P → α → Prop}
    (Inv : σ → List (Event I) → P → Prop)
    (step : ∀ state past p r reply state', Inv state past p → C.may p r →
      answers r state reply state' →
        ∃ p', C.moves p r reply p' ∧ Inv state' (past ++ [⟨r, reply⟩]) p')
    {script : Script I α} {p : P} {state state' : σ} {events : List (Event I)} {value : α}
    (follows : Follows C post p script) (past : List (Event I)) (holds : Inv state past p)
    (ran : Ran answers script state events value state') :
    ∃ p', Inv state' (past ++ events) p' ∧ post p' value := by
  induction script generalizing p state past events with
  | done result =>
      obtain ⟨rfl, rfl, rfl⟩ := ran
      exact ⟨p, (List.append_nil past).symm ▸ holds, follows⟩
  | ask r next ih =>
      obtain ⟨reply, between, rest, rfl, answered, ran⟩ := ran
      obtain ⟨p', moved, holds'⟩ := step state past p r reply between holds follows.1 answered
      rw [List.append_cons]
      exact ih reply (follows.2 reply p' moved) _ holds' ran

def trace (answer : (r : I.Request) → σ → I.Reply r × σ) : Script I α → σ → List (Event I)
  | .done _, _ => []
  | .ask r next, state =>
    ⟨r, (answer r state).1⟩ :: trace answer (next (answer r state).1) (answer r state).2

theorem ran_trace (answers : (r : I.Request) → σ → I.Reply r → σ → Prop)
    {answer : (r : I.Request) → σ → I.Reply r × σ}
    (sound : ∀ r state, answers r state (answer r state).1 (answer r state).2) (script : Script I α)
    (state : σ) : Ran answers script state (script.trace answer state) (script.run answer state).1
      (script.run answer state).2 := by
  induction script generalizing state with
  | done result => exact ⟨rfl, rfl, rfl⟩
  | ask r next ih => exact ⟨_, _, _, rfl, sound r state, ih _ _⟩

theorem trace_request {answer : (r : I.Request) → σ → I.Reply r × σ} {r : I.Request} {reply : I.Reply r}
    {state state' : σ} (answered : answer r state = (reply, state')) :
    (request r).trace answer state = [⟨r, reply⟩] := by
  change [Event.mk r (answer r state).1] = _
  rw [answered]

theorem trace_bind (answer : (r : I.Request) → σ → I.Reply r × σ) (script : Script I α)
    (rest : α → Script I β) (state : σ) :
    (script >>= rest).trace answer state = script.trace answer state ++
      (rest (script.run answer state).1).trace answer (script.run answer state).2 := by
  induction script generalizing state with
  | done result => rfl
  | ask r next ih => exact congrArg (List.cons _) (ih _ _)

section Transcript

variable {answer : (r : I.Request) → I.Reply r}

def transcript (answer : (r : I.Request) → I.Reply r) : Script I α → α × List I.Request
  | .done value => (value, [])
  | .ask r next =>
    let rest := transcript answer (next (answer r))
    (rest.1, r :: rest.2)

theorem transcript_bind {script : Script I α} {rest : α → Script I β} {value : α} {result : β}
    {asked more : List I.Request} (first : script.transcript answer = (value, asked))
    (second : (rest value).transcript answer = (result, more)) :
    (script >>= rest).transcript answer = (result, asked ++ more) := by
  induction script generalizing asked with
  | done _ =>
      cases first
      exact second
  | ask r next ih =>
      cases first
      have later := ih (answer r) rfl
      exact congrArg (fun rest : β × List I.Request => (rest.1, r :: rest.2)) later

variable {body : Routine I α} {rest : α → Routine I β} {expected : Failure → Bool}
  {handler : Failure → Routine I α} {value : α} {cause : Failure} {asked more : List I.Request}

theorem transcript_bind_ok {result : Except Failure β}
    (first : body.run.transcript answer = (.ok value, asked))
    (second : (rest value).run.transcript answer = (result, more)) :
    (body >>= rest).run.transcript answer = (result, asked ++ more) :=
  transcript_bind first second

theorem transcript_bind_error (first : body.run.transcript answer = (.error cause, asked)) :
    (body >>= rest).run.transcript answer = (.error cause, asked) :=
  (transcript_bind first rfl).trans (congrArg (Prod.mk _) (List.append_nil asked))

theorem transcript_recover_ok (first : body.run.transcript answer = (.ok value, asked)) :
    (body.recover expected handler).run.transcript answer = (.ok value, asked) :=
  (transcript_bind first rfl).trans (congrArg (Prod.mk _) (List.append_nil asked))

theorem transcript_recover_error {result : Except Failure α}
    (first : body.run.transcript answer = (.error cause, asked)) (known : expected cause = true)
    (second : (handler cause).run.transcript answer = (result, more)) :
    (body.recover expected handler).run.transcript answer = (result, asked ++ more) := by
  apply transcript_bind first
  simp only [known, if_true]
  exact second

end Transcript

end Script

namespace Routine

variable {I : Interface} {α β σ : Type} {answers : (r : I.Request) → σ → I.Reply r → σ → Prop}
  {state state' : σ} {events : List (Event I)}

open Script (Ran)

theorem ran_bind {body : Routine I α} {rest : α → Routine I β} {result : Except Failure β}
    (ran : Ran answers (body >>= rest).run state events result state') :
    (∃ cause, result = .error cause ∧ Ran answers body.run state events (.error cause) state') ∨
      ∃ value between first second, events = first ++ second ∧
        Ran answers body.run state first (.ok value) between ∧
        Ran answers (rest value).run between second result state' := by
  obtain ⟨outcome, between, first, second, rfl, before, following⟩ := Script.ran_bind ran
  cases outcome with
  | ok value => exact .inr ⟨value, between, first, second, rfl, before, following⟩
  | error cause =>
      obtain ⟨rfl, rfl, rfl⟩ := following
      exact .inl ⟨cause, rfl, (List.append_nil first).symm ▸ before⟩

theorem ran_then_pure {body : Routine I α} {given value : β}
    (ran : Ran answers (body >>= fun _ => pure given).run state events (.ok value) state') :
    value = given := by
  rcases ran_bind ran with ⟨_, impossible, -⟩ | ⟨_, _, _, _, -, -, done⟩
  · cases impossible
  · cases done.2.1
    rfl

theorem ran_tell {script : Script I α} {rest : α → Routine I β} {result : Except Failure β}
    (ran : Ran answers (tell script >>= rest).run state events result state') :
    ∃ value between first second, events = first ++ second ∧
      Ran answers script state first value between ∧
      Ran answers (rest value).run between second result state' := by
  rcases ran_bind ran with ⟨cause, -, told⟩ | ⟨value, between, first, second, rfl, told, following⟩
  · obtain ⟨_, _, _, _, -, -, done⟩ := Script.ran_bind told
    cases done.2.1
  · obtain ⟨given, _, _, _, rfl, before, rfl, same, rfl⟩ := Script.ran_bind told
    cases same
    exact ⟨value, _, _, second, by rw [List.append_nil], before, following⟩

theorem ran_recover {body : Routine I α} {expected : Failure → Bool}
    {handler : Failure → Routine I α} {result : Except Failure α}
    (ran : Ran answers (body.recover expected handler).run state events result state') :
    (Ran answers body.run state events result state' ∧
        ∀ cause, result = .error cause → expected cause = false) ∨
      ∃ cause between first second, expected cause = true ∧ events = first ++ second ∧
        Ran answers body.run state first (.error cause) between ∧
        Ran answers (handler cause).run between second result state' := by
  obtain ⟨outcome, between, first, second, rfl, before, following⟩ := Script.ran_bind ran
  cases outcome with
  | ok value =>
      obtain ⟨rfl, rfl, rfl⟩ := following
      exact .inl ⟨(List.append_nil first).symm ▸ before, nofun⟩
  | error cause =>
      change Ran answers (if expected cause then handler cause else throw cause : Routine I α).run
        between second result state' at following
      cases known : expected cause with
      | true =>
          simp only [known, if_true] at following
          exact .inr ⟨cause, between, first, second, known, rfl, before, following⟩
      | false =>
          simp only [known, Bool.false_eq_true, if_false] at following
          obtain ⟨rfl, rfl, rfl⟩ := following
          refine .inl ⟨(List.append_nil first).symm ▸ before, ?_⟩
          rintro _ ⟨⟩
          exact known

section Computed

variable {answer : (r : I.Request) → σ → I.Reply r × σ} {body : Routine I α} {rest : α → Routine I β}
  {expected : Failure → Bool} {handler : Failure → Routine I α} {between : σ} {value : α}
  {cause : Failure}

theorem run_bind_ok (ran : body.run.run answer state = (.ok value, between)) :
    (body >>= rest).run.run answer state = (rest value).run.run answer between := by
  refine (Script.run_bind answer body.run _ state).trans ?_
  rw [ran]
  rfl

theorem run_bind_error (ran : body.run.run answer state = (.error cause, between)) :
    (body >>= rest).run.run answer state = (.error cause, between) := by
  refine (Script.run_bind answer body.run _ state).trans ?_
  rw [ran]
  rfl

theorem trace_bind_ok (ran : body.run.run answer state = (.ok value, between)) :
    (body >>= rest).run.trace answer state =
      body.run.trace answer state ++ (rest value).run.trace answer between := by
  refine (Script.trace_bind answer body.run _ state).trans ?_
  rw [ran]
  rfl

theorem run_bind_pure (answer : (r : I.Request) → σ → I.Reply r × σ) (body : Routine I α)
    (f : α → β) (state : σ) : (body >>= fun value => pure (f value)).run.run answer state =
      ((body.run.run answer state).1.map f, (body.run.run answer state).2) := by
  cases ran : body.run.run answer state with
  | mk result after =>
      cases result with
      | ok value => exact run_bind_ok ran
      | error cause => exact run_bind_error ran

theorem run_recover_ok (ran : body.run.run answer state = (.ok value, between)) :
    (body.recover expected handler).run.run answer state = (.ok value, between) := by
  refine (Script.run_bind answer body.run _ state).trans ?_
  rw [ran]
  rfl

theorem run_recover_error (ran : body.run.run answer state = (.error cause, between)) :
    (body.recover expected handler).run.run answer state =
      if expected cause then (handler cause).run.run answer between else (.error cause, between) := by
  refine (Script.run_bind answer body.run _ state).trans ?_
  rw [ran]
  change (if expected cause then handler cause else throw cause : Routine I α).run.run answer between = _
  split <;> rfl

end Computed

end Routine

end ImagePipeline
