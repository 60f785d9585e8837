import ImagePipeline.Proofs.Script.Contract

namespace ImagePipeline

abbrev Interface.both (I J : Interface) : Interface where
  Request := I.Request ⊕ J.Request
  Reply
    | .inl r => I.Reply r
    | .inr r => J.Reply r

namespace Script

variable {I J : Interface} {P Q α σ : Type}

def substitute (answering : (r : I.Request) → Script J (I.Reply r)) : Script I α → Script J α
  | .done value => .done value
  | .ask r next => answering r >>= fun reply => (next reply).substitute answering

variable {C : Contract I P} {D : Contract J Q}

theorem follows_substitute (answering : (r : I.Request) → Script J (I.Reply r)) (at_ : P → Q → Prop)
    (answers : ∀ p q r, at_ p q → C.may p r →
      Follows D (fun q' reply => ∃ p', C.moves p r reply p' ∧ at_ p' q') q (answering r))
    {post : P → α → Prop} {p : P} {q : Q} {script : Script I α} (follows : Follows C post p script)
    (here : at_ p q) :
    Follows D (fun q' value => ∃ p', at_ p' q' ∧ post p' value) q (script.substitute answering) := by
  induction script generalizing p q with
  | done value => exact ⟨p, here, follows⟩
  | ask r next ih =>
      apply follows_bind
      apply (answers p q r here follows.1).mono
      rintro q' reply ⟨p', moved, there⟩
      exact ih reply (follows.2 reply p' moved) there

theorem run_substitute (answer : (r : J.Request) → σ → J.Reply r × σ)
    (answering : (r : I.Request) → Script J (I.Reply r)) (script : Script I α) (state : σ) :
    (script.substitute answering).run answer state =
      script.run (fun r state => (answering r).run answer state) state := by
  induction script generalizing state with
  | done value => rfl
  | ask r next ih =>
      rw [substitute, run_bind]
      exact ih _ _

def inRight (script : Script J α) : Script (I.both J) α :=
  script.substitute fun r => .ask (.inr r) .done

def answerBoth (left : (r : I.Request) → σ → I.Reply r × σ)
    (right : (r : J.Request) → σ → J.Reply r × σ) :
    (r : (I.both J).Request) → σ → (I.both J).Reply r × σ
  | .inl r => left r
  | .inr r => right r

theorem run_inRight (left : (r : I.Request) → σ → I.Reply r × σ)
    (right : (r : J.Request) → σ → J.Reply r × σ) (script : Script J α) (state : σ) :
    (script.inRight (I := I)).run (answerBoth left right) state = script.run right state :=
  run_substitute _ _ script state

theorem run_within {τ : Type} {answer : (r : I.Request) → τ → I.Reply r × τ} (part : σ → τ)
    (put : τ → σ → σ) (part_put : ∀ t s, part (put t s) = t)
    (put_put : ∀ t u s, put t (put u s) = put t s) (put_part : ∀ s, put (part s) s = s)
    (script : Script I α) (state : σ) :
    script.run (fun r s => ((answer r (part s)).1, put (answer r (part s)).2 s)) state =
      ((script.run answer (part state)).1, put (script.run answer (part state)).2 state) := by
  induction script generalizing state with
  | done value => simp only [run, put_part]
  | ask r next ih =>
      simp only [run]
      rw [ih, part_put, put_put]

end Script

end ImagePipeline
