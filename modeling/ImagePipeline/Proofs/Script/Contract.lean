import ImagePipeline.Routine
/-!
# Contracts of scripts

A contract says which requests a program may put at each of its stages, and to which stage an answer
leads. `Script.Follows` is the weakest precondition of a script for a contract: every request is
allowed at its stage, whatever was answered before, and the end meets a postcondition on stage and
value. The rules below follow the ways in which services are put together: one after the other, with
failures that pass (`Routine.follows_bind`) or are recovered from (`Routine.follows_recover`).
-/

namespace ImagePipeline

/-- A request that was answered. -/
structure Event (I : Interface) where
  request : I.Request
  reply : I.Reply request

structure Contract (I : Interface) (P : Type) where
  may : P → I.Request → Prop
  moves : P → (r : I.Request) → I.Reply r → P → Prop

def logging (I : Interface) : Contract I (List (Event I)) where
  may _ _ := True
  moves past r reply past' := past' = ⟨r, reply⟩ :: past

namespace Script

variable {I J : Interface} {P Q α β σ : Type}

def Follows (C : Contract I P) (post : P → α → Prop) : P → Script I α → Prop
  | p, .done value => post p value
  | p, .ask r next => C.may p r ∧ ∀ reply p', C.moves p r reply p' → Follows C post p' (next reply)

variable {C : Contract I P} {D : Contract I Q}

theorem Follows.mono {post weaker : P → α → Prop} {p : P} {script : Script I α}
    (follows : Follows C post p script) (weaken : ∀ p value, post p value → weaker p value) :
    Follows C weaker p script := by
  induction script generalizing p with
  | done value => exact weaken p value follows
  | ask r next ih => exact ⟨follows.1, fun reply p' moved => ih reply (follows.2 reply p' moved)⟩

theorem follows_bind {post : P → β → Prop} {p : P} {script : Script I α} {rest : α → Script I β}
    (follows : Follows C (fun p value => Follows C post p (rest value)) p script) :
    Follows C post p (script >>= rest) := by
  induction script generalizing p with
  | done value => exact follows
  | ask r next ih => exact ⟨follows.1, fun reply p' moved => ih reply (follows.2 reply p' moved)⟩

theorem Follows.embed {embed : P → Q} {post : P → α → Prop} {p : P} {script : Script I α}
    (follows : Follows C post p script)
    (may : ∀ p r, C.may p r → D.may (embed p) r)
    (moves : ∀ p r reply q, D.moves (embed p) r reply q → ∃ p', q = embed p' ∧ C.moves p r reply p') :
    Follows D (fun q value => ∃ p', q = embed p' ∧ post p' value) (embed p) script := by
  induction script generalizing p with
  | done value => exact ⟨p, rfl, follows⟩
  | ask r next ih =>
      refine ⟨may p r follows.1, fun reply q moved => ?_⟩
      obtain ⟨p', rfl, moved'⟩ := moves p r reply q moved
      exact ih reply (follows.2 reply p' moved')

theorem Follows.run (answer : (r : I.Request) → σ → I.Reply r × σ) (Inv : σ → P → Prop)
    {post : P → α → Prop} {p : P} {script : Script I α} {state : σ}
    (follows : Follows C post p script)
    (answered : ∀ state p r, Inv state p → C.may p r →
      ∃ p', C.moves p r (answer r state).1 p' ∧ Inv (answer r state).2 p')
    (holds : Inv state p) :
    ∃ p', Inv (script.run answer state).2 p' ∧ post p' (script.run answer state).1 := by
  induction script generalizing p state with
  | done value => exact ⟨p, holds, follows⟩
  | ask r next ih =>
      obtain ⟨p', moved, holds'⟩ := answered state p r holds follows.1
      exact ih (answer r state).1 (follows.2 _ p' moved) holds'

theorem run_keeps {answer : (r : I.Request) → σ → I.Reply r × σ} (seen : σ → β)
    (keeps : ∀ r state, seen (answer r state).2 = seen state) (script : Script I α) (state : σ) :
    seen (script.run answer state).2 = seen state := by
  induction script generalizing state with
  | done value => rfl
  | ask r next ih => exact (ih (answer r state).1 (answer r state).2).trans (keeps r state)

end Script

namespace Routine

variable {I : Interface} {P α β : Type} {C : Contract I P}

open Script

theorem follows_pure {post : P → Except Failure α → Prop} {p : P} {value : α}
    (holds : post p (.ok value)) : Follows C post p (pure value : Routine I α).run :=
  holds

theorem follows_throw {post : P → Except Failure α → Prop} {p : P} {failure : Failure}
    (holds : post p (.error failure)) : Follows C post p (throw failure : Routine I α).run :=
  holds

theorem follows_tell {post : P → Except Failure α → Prop} {p : P} {script : Script I α}
    (follows : Follows C (fun p value => post p (.ok value)) p script) :
    Follows C post p (Routine.tell script).run :=
  Script.follows_bind follows

theorem follows_bind {post : P → Except Failure β → Prop} {p : P} {body : Routine I α}
    {rest : α → Routine I β}
    (follows : Follows C (fun p result => match result with
      | .ok value => Follows C post p (rest value).run
      | .error failure => post p (.error failure)) p body.run) :
    Follows C post p (body >>= rest).run := by
  apply Script.follows_bind
  apply follows.mono
  intro p result holds
  cases result with
  | ok value => exact holds
  | error failure => exact holds

theorem follows_recover {post : P → Except Failure α → Prop} {p : P} {body : Routine I α}
    {expected : Failure → Bool} {handler : Failure → Routine I α}
    (follows : Follows C (fun p result => match result with
      | .ok value => post p (.ok value)
      | .error failure =>
        if expected failure then Follows C post p (handler failure).run
        else post p (.error failure)) p body.run) :
    Follows C post p (body.recover expected handler).run := by
  apply Script.follows_bind
  apply follows.mono
  intro p result holds
  cases result with
  | ok value => exact holds
  | error failure =>
      change Follows C post p
        (if expected failure then handler failure else throw failure : Routine I α).run
      cases handled : expected failure with
      | true => simpa only [handled, if_true] using holds
      | false =>
          simp only [handled, Bool.false_eq_true, if_false] at holds ⊢
          exact holds

/-! Where nothing is asked of the end, one part after the other keeps to the contract. -/

theorem follows_then {p : P} {body : Routine I α} {rest : α → Routine I β}
    (first : Follows C (fun _ _ => True) p body.run)
    (second : ∀ p value, Follows C (fun _ _ => True) p (rest value).run) :
    Follows C (fun _ _ => True) p (body >>= rest).run := by
  apply follows_bind
  apply first.mono
  intro p result _
  cases result with
  | ok value => exact second p value
  | error failure => trivial

theorem follows_recovered {p : P} {body : Routine I α} {expected : Failure → Bool}
    {handler : Failure → Routine I α} (follows : Follows C (fun _ _ => True) p body.run)
    (handles : ∀ p failure, Follows C (fun _ _ => True) p (handler failure).run) :
    Follows C (fun _ _ => True) p (body.recover expected handler).run := by
  apply follows_recover
  apply follows.mono
  intro p result _
  cases result with
  | ok value => trivial
  | error failure =>
      change if expected failure then Follows C (fun _ _ => True) p (handler failure).run else True
      split
      · exact handles p failure
      · trivial

theorem follows_tolerant {p : P} {body : Routine I α} {expected : Failure → Bool}
    (value : Failure → α) (follows : Follows C (fun _ _ => True) p body.run) :
    Follows C (fun _ result => ∀ cause, result = .error cause → expected cause = false) p
      (body.recover expected fun cause => pure (value cause)).run := by
  apply follows_recover
  apply follows.mono
  intro p result _
  cases result with
  | ok _ => exact nofun
  | error cause =>
      cases known : expected cause with
      | true =>
          simp only [known, if_true]
          exact follows_pure nofun
      | false =>
          simp only [known, Bool.false_eq_true, if_false]
          rintro _ ⟨⟩
          exact known

end Routine

end ImagePipeline
