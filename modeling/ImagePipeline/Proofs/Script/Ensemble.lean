import ImagePipeline.Proofs.Script.Contract
import Mathlib.Logic.Function.Basic
import Mathlib.Logic.Relation
/-!
# Scripts that share a state

An ensemble is any number of threads, each at some place of its script and with the answers it got so
far, over one shared state. A step answers one request of one thread, or lets the surroundings change
the state by themselves; any order of such steps is a run.

A view adds to an ensemble the stage of a contract at which each thread stands. An invariant of views
that every allowed request preserves (`Preserves`) holds in all that an ensemble reaches, together
with the contract of each thread (`Ensemble.kept_of_reaches`).
-/

namespace ImagePipeline

variable {I : Interface} {ι σ P α : Type}

/-- A script under way: what it asked and was answered, the latest first, and what it still does. -/
structure Thread (I : Interface) (α : Type) where
  past : List (Event I)
  rest : Script I α

namespace Thread

def start (script : Script I α) : Thread I α := ⟨[], script⟩

def Running (t : Thread I α) : Prop := ∃ r next, t.rest = .ask r next

def answered (t : Thread I α) (r : I.Request) (reply : I.Reply r)
    (next : I.Reply r → Script I α) : Thread I α :=
  ⟨⟨r, reply⟩ :: t.past, next reply⟩

end Thread

structure Surroundings (I : Interface) (σ : Type) where
  answers : (r : I.Request) → σ → I.Reply r → σ → Prop
  drifts : σ → σ → Prop

structure Ensemble (I : Interface) (ι σ α : Type) where
  shared : σ
  threads : ι → Thread I α

namespace Ensemble

def start (shared : σ) (scripts : ι → Script I α) : Ensemble I ι σ α :=
  ⟨shared, fun i => .start (scripts i)⟩

variable [DecidableEq ι]

inductive Step (S : Surroundings I σ) : Ensemble I ι σ α → Ensemble I ι σ α → Prop where
  | call {e : Ensemble I ι σ α} {shared : σ} (i : ι) (r : I.Request) (next : I.Reply r → Script I α)
      (reply : I.Reply r) (waiting : (e.threads i).rest = .ask r next)
      (answered : S.answers r e.shared reply shared) :
      Step S e ⟨shared, Function.update e.threads i ((e.threads i).answered r reply next)⟩
  | drift {e : Ensemble I ι σ α} {shared : σ} (drifted : S.drifts e.shared shared) :
      Step S e ⟨shared, e.threads⟩

abbrev Reaches (S : Surroundings I σ) : Ensemble I ι σ α → Ensemble I ι σ α → Prop :=
  Relation.ReflTransGen (Step S)

end Ensemble

structure View (I : Interface) (ι σ P : Type) where
  shared : σ
  pasts : ι → List (Event I)
  stages : ι → P

namespace View

variable [DecidableEq ι]

def move (v : View I ι σ P) (i : ι) (event : Event I) (shared : σ) (stage : P) : View I ι σ P :=
  ⟨shared, Function.update v.pasts i (event :: v.pasts i), Function.update v.stages i stage⟩

variable {v : View I ι σ P} {i j : ι} {event : Event I} {shared : σ} {stage : P}

@[simp] theorem move_shared : (v.move i event shared stage).shared = shared := rfl

@[simp] theorem move_stages_self : (v.move i event shared stage).stages i = stage :=
  Function.update_self ..

@[simp] theorem move_pasts_self : (v.move i event shared stage).pasts i = event :: v.pasts i :=
  Function.update_self ..

theorem move_stages_of_ne (other : j ≠ i) :
    (v.move i event shared stage).stages j = v.stages j :=
  Function.update_of_ne other ..

theorem move_pasts_of_ne (other : j ≠ i) : (v.move i event shared stage).pasts j = v.pasts j :=
  Function.update_of_ne other ..

theorem map_move_stages {β : Type} (seen : P → β) :
    (fun j => seen ((v.move i event shared stage).stages j)) =
      Function.update (fun j => seen (v.stages j)) i (seen stage) :=
  Function.comp_update seen v.stages i stage

theorem suffix_move_pasts (j : ι) : v.pasts j <:+ (v.move i event shared stage).pasts j := by
  by_cases same : j = i
  · subst same
    rw [move_pasts_self]
    exact List.suffix_cons event _
  · simp only [move_pasts_of_ne same, List.suffix_rfl]

theorem own_suffix_move_pasts : (event :: v.pasts i) <:+ (v.move i event shared stage).pasts i := by
  simp only [move_pasts_self, List.suffix_rfl]

theorem mem_move_pasts {other : Event I}
    (mem : other ∈ (v.move i event shared stage).pasts j) :
    j = i ∧ other = event ∨ other ∈ v.pasts j := by
  by_cases same : j = i
  · subst same
    rw [move_pasts_self] at mem
    exact (List.mem_cons.mp mem).imp_left fun latest => ⟨rfl, latest⟩
  · rw [move_pasts_of_ne same] at mem
    exact .inr mem

theorem forall_move (holds : ι → P → List (Event I) → Prop)
    (self : holds i stage (event :: v.pasts i))
    (others : ∀ j, j ≠ i → holds j (v.stages j) (v.pasts j)) (j : ι) :
    holds j ((v.move i event shared stage).stages j) ((v.move i event shared stage).pasts j) := by
  by_cases same : j = i
  · subst same
    rw [move_stages_self, move_pasts_self]
    exact self
  · rw [move_stages_of_ne same, move_pasts_of_ne same]
    exact others j same

theorem forall_move_stages (holds : ι → P → Prop) (self : holds i stage)
    (others : ∀ j, j ≠ i → holds j (v.stages j)) (j : ι) :
    holds j ((v.move i event shared stage).stages j) :=
  forall_move (fun j stage _ => holds j stage) self others j

end View

structure Preserves [DecidableEq ι] (S : Surroundings I σ) (C : Contract I P)
    (Inv : View I ι σ P → Prop) : Prop where
  call : ∀ v i r reply shared, Inv v → C.may (v.stages i) r → S.answers r v.shared reply shared →
    ∃ p, C.moves (v.stages i) r reply p ∧ Inv (v.move i ⟨r, reply⟩ shared p)
  drift : ∀ v shared, Inv v → S.drifts v.shared shared → Inv { v with shared }

namespace Ensemble

variable {S : Surroundings I σ} {C : Contract I P} {Inv : View I ι σ P → Prop}

/-- The threads stand at stages of the contract, and the invariant holds of the view. -/
def Kept (C : Contract I P) (Inv : View I ι σ P → Prop) (e : Ensemble I ι σ α) : Prop :=
  ∃ stages : ι → P, Inv ⟨e.shared, fun i => (e.threads i).past, stages⟩ ∧
    ∀ i, Script.Follows C (fun _ _ => True) (stages i) (e.threads i).rest

theorem kept_start {shared : σ} {scripts : ι → Script I α} (stages : ι → P)
    (holds : Inv ⟨shared, fun _ => [], stages⟩)
    (follows : ∀ i, Script.Follows C (fun _ _ => True) (stages i) (scripts i)) :
    Kept C Inv (start shared scripts) :=
  ⟨stages, holds, follows⟩

variable [DecidableEq ι]

theorem kept_of_step (preserves : Preserves S C Inv) {e e' : Ensemble I ι σ α} (kept : Kept C Inv e)
    (step : Step S e e') : Kept C Inv e' := by
  obtain ⟨stages, holds, follows⟩ := kept
  cases step with
  | drift drifted => exact ⟨stages, preserves.drift _ _ holds drifted, follows⟩
  | @call shared i r next reply waiting answered =>
      have allowed := follows i
      rw [waiting] at allowed
      obtain ⟨p, moved, holds'⟩ := preserves.call _ i r reply shared holds allowed.1 answered
      have pasts : (fun j => (Function.update e.threads i ((e.threads i).answered r reply next) j).past) =
          Function.update (fun j => (e.threads j).past) i (⟨r, reply⟩ :: (e.threads i).past) :=
        Function.comp_update Thread.past e.threads i _
      refine ⟨Function.update stages i p, ?_, ?_⟩
      · rw [pasts]
        exact holds'
      · intro j
        by_cases same : j = i
        · subst same
          simpa [Thread.answered] using allowed.2 reply p moved
        · simpa [same] using follows j

theorem kept_of_reaches (preserves : Preserves S C Inv) {e e' : Ensemble I ι σ α}
    (kept : Kept C Inv e) (reaches : Reaches S e e') : Kept C Inv e' := by
  induction reaches with
  | refl => exact kept
  | tail _ step ih => exact kept_of_step preserves ih step

/-! ## What a thread was answered -/

theorem logged_of_reaches {e e' : Ensemble I ι σ α} {i : ι} {post : List (Event I) → α → Prop}
    (follows : Script.Follows (logging I) post (e.threads i).past (e.threads i).rest)
    (reaches : Reaches S e e') :
    Script.Follows (logging I) post (e'.threads i).past (e'.threads i).rest := by
  induction reaches with
  | refl => exact follows
  | tail _ step ih =>
      cases step with
      | drift => exact ih
      | call j r next reply waiting answered =>
          by_cases same : i = j
          · subst same
            rw [waiting] at ih
            simpa only [Function.update_self, Thread.answered] using ih.2 reply _ rfl
          · simpa only [Function.update_of_ne same] using ih

theorem logged_of_done {shared : σ} {scripts : ι → Script I α} {e : Ensemble I ι σ α} {i : ι}
    {value : α} {post : List (Event I) → α → Prop} (reaches : Reaches S (start shared scripts) e)
    (ended : (e.threads i).rest = .done value)
    (follows : Script.Follows (logging I) post [] (scripts i)) : post (e.threads i).past value := by
  have logged := logged_of_reaches (i := i) follows reaches
  rw [ended] at logged
  exact logged

/-! ## Schedules -/

def next (answer : (r : I.Request) → σ → I.Reply r × σ) (i : ι) (e : Ensemble I ι σ α) :
    Ensemble I ι σ α :=
  match (e.threads i).rest with
  | .done _ => e
  | .ask r next => ⟨(answer r e.shared).2,
      Function.update e.threads i ((e.threads i).answered r (answer r e.shared).1 next)⟩

def play {κ : Type} (answer : κ → (r : I.Request) → σ → I.Reply r × σ) :
    List (ι × κ) → Ensemble I ι σ α → Ensemble I ι σ α
  | [], e => e
  | (i, way) :: rest, e => play answer rest (e.next (answer way) i)

theorem next_of_done {answer : (r : I.Request) → σ → I.Reply r × σ} {e : Ensemble I ι σ α} {i : ι}
    {value : α} (ended : (e.threads i).rest = .done value) : e.next answer i = e := by
  unfold next
  rw [ended]

theorem next_of_ask {answer : (r : I.Request) → σ → I.Reply r × σ} {e : Ensemble I ι σ α} {i : ι}
    {r : I.Request} {rest : I.Reply r → Script I α} (waiting : (e.threads i).rest = .ask r rest) :
    e.next answer i = ⟨(answer r e.shared).2,
      Function.update e.threads i ((e.threads i).answered r (answer r e.shared).1 rest)⟩ := by
  unfold next
  rw [waiting]

theorem threads_next_of_ne (answer : (r : I.Request) → σ → I.Reply r × σ) {i j : ι} (distinct : j ≠ i)
    (e : Ensemble I ι σ α) : (e.next answer i).threads j = e.threads j := by
  unfold next
  split
  · rfl
  · exact Function.update_of_ne distinct ..

theorem play_append {κ : Type} (answer : κ → (r : I.Request) → σ → I.Reply r × σ)
    (moves more : List (ι × κ)) (e : Ensemble I ι σ α) :
    e.play answer (moves ++ more) = (e.play answer moves).play answer more := by
  induction moves generalizing e with
  | nil => rfl
  | cons move rest ih => exact ih _

theorem reaches_next {answer : (r : I.Request) → σ → I.Reply r × σ}
    (sound : ∀ r state, S.answers r state (answer r state).1 (answer r state).2) (i : ι)
    (e : Ensemble I ι σ α) : Reaches S e (e.next answer i) := by
  unfold next
  split
  · exact .refl
  · rename_i r rest waiting
    exact .single (.call i r rest _ waiting (sound r e.shared))

theorem reaches_play {κ : Type} {answer : κ → (r : I.Request) → σ → I.Reply r × σ}
    (sound : ∀ way r state, S.answers r state (answer way r state).1 (answer way r state).2)
    (moves : List (ι × κ)) (e : Ensemble I ι σ α) : Reaches S e (e.play answer moves) := by
  induction moves generalizing e with
  | nil => exact .refl
  | cons move rest ih => exact (reaches_next (sound move.2) move.1 e).trans (ih _)

theorem reaches_play_of_drifts {κ : Type} {answer : κ → (r : I.Request) → σ → I.Reply r × σ}
    (drift : κ → σ → σ) (drifts : ∀ way state, S.drifts state (drift way state))
    (sound : ∀ way r state,
      S.answers r (drift way state) (answer way r state).1 (answer way r state).2)
    (moves : List (ι × κ)) (e : Ensemble I ι σ α) : Reaches S e (e.play answer moves) := by
  induction moves generalizing e with
  | nil => exact .refl
  | cons move rest ih =>
      obtain ⟨i, way⟩ := move
      refine Relation.ReflTransGen.trans ?_ (ih _)
      unfold next
      split
      · exact .refl
      · rename_i r next waiting
        have drifted : Step S e ⟨drift way e.shared, e.threads⟩ := .drift (drifts way e.shared)
        exact .head drifted (.single (.call i r next _ waiting (sound way r e.shared)))

end Ensemble

end ImagePipeline
