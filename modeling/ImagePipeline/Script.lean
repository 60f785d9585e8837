/-!
Programs that ask their surroundings questions.

A script is a finite tree: it either is done with a value or puts one request and continues with the
answer. Every service of this library is a script over atomic requests, so one definition serves both
a run against a single state (`Script.run`) and any interleaving of several scripts over a shared
state. Main statements: a run of two scripts in sequence is the run of the first followed by the run
of the second (`run_bind`), and scripts form a lawful monad.
-/

namespace ImagePipeline

/-- The requests a script may make, and the type of the answer to each. -/
structure Interface where
  Request : Type
  Reply : Request → Type

/-- A program over an interface: finished, or waiting for the answer to a request. -/
inductive Script (I : Interface) (α : Type) : Type where
  | done (value : α)
  | ask (request : I.Request) (next : I.Reply request → Script I α)

namespace Script

variable {I : Interface} {α β γ σ : Type}

def bind : Script I α → (α → Script I β) → Script I β
  | .done value, rest => rest value
  | .ask request next, rest => .ask request fun reply => bind (next reply) rest

instance : Monad (Script I) where
  pure := .done
  bind := bind

def request (r : I.Request) : Script I (I.Reply r) := .ask r .done

def run (answer : (r : I.Request) → σ → I.Reply r × σ) : Script I α → σ → α × σ
  | .done value, state => (value, state)
  | .ask r next, state =>
    let (reply, state) := answer r state
    run answer (next reply) state

theorem bind_done (script : Script I α) : bind script .done = script := by
  induction script with
  | done => rfl
  | ask r next ih => simp only [bind, ih]

theorem bind_assoc (script : Script I α) (f : α → Script I β) (g : β → Script I γ) :
    bind (bind script f) g = bind script fun a => bind (f a) g := by
  induction script with
  | done => rfl
  | ask r next ih => simp only [bind, ih]

instance : LawfulMonad (Script I) := LawfulMonad.mk' _ bind_done (fun _ _ => rfl) bind_assoc

@[simp] theorem run_pure (answer : (r : I.Request) → σ → I.Reply r × σ) (value : α) (state : σ) :
    run answer (pure value) state = (value, state) := rfl

theorem run_bind (answer : (r : I.Request) → σ → I.Reply r × σ) (script : Script I α)
    (rest : α → Script I β) (state : σ) :
    run answer (script >>= rest) state =
      run answer (rest (run answer script state).1) (run answer script state).2 := by
  induction script generalizing state with
  | done => rfl
  | ask r next ih => exact ih (answer r state).1 (answer r state).2

end Script

end ImagePipeline
