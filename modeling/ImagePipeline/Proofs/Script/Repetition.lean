import ImagePipeline.Proofs.Script.Running
import ImagePipeline.Retry
import Mathlib.Logic.Function.Iterate

namespace ImagePipeline

namespace Retry

open Script (Ran)

variable {I : Interface} {α δ σ : Type}

def Retried (worthRetrying : Failure → Bool) (outcome : Except Failure α) : Prop :=
  ∃ cause, outcome = .error cause ∧ worthRetrying cause = true

/-- Of at most `most` attempts, the one after `last` others is the last. -/
structure LastAttempt (worthRetrying : Failure → Bool) (outcomes : ℕ → Except Failure α)
    (most last : ℕ) : Prop where
  allowed : last < most
  retried : ∀ i < last, Retried worthRetrying (outcomes i)
  final : last + 1 < most → ¬ Retried worthRetrying (outcomes last)

/-- Of at most `most` attempts, the pause after the attempt numbered `broken` fails, and none before it. -/
structure BrokenPause (worthRetrying : Failure → Bool) (outcomes : ℕ → Except Failure α)
    (pauses : ℕ → Except Failure Unit) (most broken : ℕ) (cause : Failure) : Prop where
  allowed : broken + 1 < most
  retried : ∀ i ≤ broken, Retried worthRetrying (outcomes i)
  rested : ∀ i < broken, pauses i = .ok ()
  refused : pauses broken = .error cause

section Course

variable [Mul δ]

def pauseLength (delay backoff : δ) (i : ℕ) : δ := (· * backoff)^[i] delay

def turns (attempt : ℕ → Event I) (pause : ℕ → δ → Event I) (delay backoff : δ) (count : ℕ) :
    List (Event I) :=
  (List.range count).flatMap fun i => [attempt i, pause i (pauseLength delay backoff i)]

/-- Attempts with a pause after each but the last. -/
def course (attempt : ℕ → Event I) (pause : ℕ → δ → Event I) (delay backoff : δ) (last : ℕ) :
    List (Event I) :=
  turns attempt pause delay backoff last ++ [attempt last]

theorem turns_succ (attempt : ℕ → Event I) (pause : ℕ → δ → Event I) (delay backoff : δ) (count : ℕ) :
    turns attempt pause delay backoff (count + 1) =
      attempt 0 :: pause 0 delay ::
        turns (fun i => attempt (i + 1)) (fun i => pause (i + 1)) (delay * backoff) backoff count := by
  unfold turns
  rw [List.range_succ_eq_map, List.flatMap_cons, List.flatMap_map]
  rfl

theorem course_succ (attempt : ℕ → Event I) (pause : ℕ → δ → Event I) (delay backoff : δ) (last : ℕ) :
    course attempt pause delay backoff (last + 1) =
      attempt 0 :: pause 0 delay ::
        course (fun i => attempt (i + 1)) (fun i => pause (i + 1)) (delay * backoff) backoff last := by
  unfold course
  rw [turns_succ]
  rfl

end Course

namespace LastAttempt

variable {worthRetrying : Failure → Bool} {outcomes : ℕ → Except Failure α} {most last : ℕ}

theorem first (done : most = 0 ∨ ¬ Retried worthRetrying (outcomes 0)) :
    LastAttempt worthRetrying outcomes (most + 1) 0 where
  allowed := Nat.succ_pos most
  retried i less := absurd less (Nat.not_lt_zero i)
  final more := done.resolve_left (by omega)

theorem later (failed : Retried worthRetrying (outcomes 0))
    (rest : LastAttempt worthRetrying (fun i => outcomes (i + 1)) most last) :
    LastAttempt worthRetrying outcomes (most + 1) (last + 1) where
  allowed := Nat.succ_lt_succ rest.allowed
  retried
    | 0, _ => failed
    | i + 1, less => rest.retried i (Nat.lt_of_succ_lt_succ less)
  final more := rest.final (Nat.lt_of_succ_lt_succ more)

theorem most_eq_of_retried (ended : LastAttempt worthRetrying outcomes most last)
    (failed : Retried worthRetrying (outcomes last)) : most = last + 1 := by
  have exhausted : ¬ last + 1 < most := fun more => ended.final more failed
  have allowed := ended.allowed
  omega

theorem retried_iff (ended : LastAttempt worthRetrying outcomes most last) :
    Retried worthRetrying (outcomes last) ↔ ∀ i < most, Retried worthRetrying (outcomes i) := by
  constructor
  · intro failed i less
    have most_eq := ended.most_eq_of_retried failed
    by_cases before : i < last
    · exact ended.retried i before
    · obtain rfl : i = last := by omega
      exact failed
  · intro all
    exact all last ended.allowed

end LastAttempt

namespace BrokenPause

variable {worthRetrying : Failure → Bool} {outcomes : ℕ → Except Failure α}
  {pauses : ℕ → Except Failure Unit} {most broken : ℕ} {cause : Failure}

theorem first (failed : Retried worthRetrying (outcomes 0)) (refused : pauses 0 = .error cause) :
    BrokenPause worthRetrying outcomes pauses (most + 2) 0 cause where
  allowed := by omega
  retried i least := Nat.le_zero.mp least ▸ failed
  rested i less := absurd less (Nat.not_lt_zero i)
  refused := refused

theorem later (failed : Retried worthRetrying (outcomes 0)) (rested : pauses 0 = .ok ())
    (rest : BrokenPause worthRetrying (fun i => outcomes (i + 1)) (fun i => pauses (i + 1)) most broken
      cause) : BrokenPause worthRetrying outcomes pauses (most + 1) (broken + 1) cause where
  allowed := Nat.succ_lt_succ rest.allowed
  retried
    | 0, _ => failed
    | i + 1, least => rest.retried i (Nat.le_of_succ_le_succ least)
  rested
    | 0, _ => rested
    | i + 1, less => rest.rested i (Nat.lt_of_succ_lt_succ less)
  refused := rest.refused

end BrokenPause

section Loop

variable [Mul δ] {answers : (r : I.Request) → σ → I.Reply r → σ → Prop} {worthRetrying : Failure → Bool}
  {pausing : δ → Routine I Unit} {body : Routine I α} {delay backoff : δ} {retries : ℕ}
  {state state' : σ} {events : List (Event I)} {result : Except Failure α}

theorem ran_loop_succ
    (ran : Ran answers (loop worthRetrying pausing backoff body (retries + 1) delay).run state events result
      state') :
    (Ran answers body.run state events result state' ∧ ¬ Retried worthRetrying result) ∨
      ∃ cause between first, worthRetrying cause = true ∧
        Ran answers body.run state first (.error cause) between ∧
        ((∃ refusal second, result = .error refusal ∧ events = first ++ second ∧
            Ran answers (pausing delay).run between second (.error refusal) state') ∨
          ∃ later second rest, events = first ++ (second ++ rest) ∧
            Ran answers (pausing delay).run between second (.ok ()) later ∧
            Ran answers (loop worthRetrying pausing backoff body retries (delay * backoff)).run later rest
              result state') := by
  rcases Routine.ran_recover ran with ⟨tried, passes⟩ | ⟨cause, between, first, _, known, rfl, tried, after⟩
  · refine .inl ⟨tried, ?_⟩
    rintro ⟨cause, failed, known⟩
    rw [passes cause failed] at known
    cases known
  · refine .inr ⟨cause, between, first, known, tried, ?_⟩
    rcases Routine.ran_bind after with
      ⟨refusal, refused, waited⟩ | ⟨⟨⟩, later, second, rest, rfl, waited, again⟩
    · exact .inl ⟨refusal, _, refused, rfl, waited⟩
    · exact .inr ⟨later, second, rest, rfl, waited, again⟩

theorem ran_loop (before after : ℕ → σ) (attempt : ℕ → Event I) (pause : ℕ → δ → Event I)
    (outcomes : ℕ → Except Failure α) (pauses : ℕ → δ → Except Failure Unit)
    (tried : ∀ {i state' events result}, Ran answers body.run (before i) events result state' →
      events = [attempt i] ∧ result = outcomes i ∧ state' = after i)
    (paused : ∀ {i length state' events result},
      Ran answers (pausing length).run (after i) events result state' →
        events = [pause i length] ∧ result = pauses i length ∧ state' = before (i + 1))
    (ran : Ran answers (loop worthRetrying pausing backoff body retries delay).run (before 0) events
      result state') :
    (∃ last, LastAttempt worthRetrying outcomes (retries + 1) last ∧
        (∀ i < last, pauses i (pauseLength delay backoff i) = .ok ()) ∧ result = outcomes last ∧
        state' = after last ∧ events = course attempt pause delay backoff last) ∨
      ∃ broken cause, BrokenPause worthRetrying outcomes
          (fun i => pauses i (pauseLength delay backoff i)) (retries + 1) broken cause ∧
        result = .error cause ∧ state' = before (broken + 1) ∧
        events = turns attempt pause delay backoff (broken + 1) := by
  induction retries generalizing before after attempt pause outcomes pauses delay events with
  | zero =>
      obtain ⟨rfl, rfl, rfl⟩ := tried ran
      exact .inl ⟨0, .first (.inl rfl), nofun, rfl, rfl, rfl⟩
  | succ retries ih =>
      rcases ran_loop_succ ran with
        ⟨only, final⟩ | ⟨cause, _, _, known, failed, ⟨refusal, _, rfl, rfl, waited⟩ |
          ⟨_, _, _, rfl, waited, again⟩⟩
      · obtain ⟨rfl, rfl, rfl⟩ := tried only
        exact .inl ⟨0, .first (.inr final), nofun, rfl, rfl, rfl⟩
      · obtain ⟨rfl, failure, rfl⟩ := tried failed
        obtain ⟨rfl, refused, rfl⟩ := paused waited
        exact .inr ⟨0, refusal, .first ⟨cause, failure.symm, known⟩ refused.symm, rfl, rfl, rfl⟩
      · obtain ⟨rfl, failure, rfl⟩ := tried failed
        obtain ⟨rfl, rested, rfl⟩ := paused waited
        have retried : Retried worthRetrying (outcomes 0) := ⟨cause, failure.symm, known⟩
        -- what follows is a run against the same sequences without their first members
        rcases ih (fun i => before (i + 1)) (fun i => after (i + 1)) (fun i => attempt (i + 1))
          (fun i => pause (i + 1)) (fun i => outcomes (i + 1)) (fun i => pauses (i + 1)) tried paused again
          with ⟨last, ended, rests, rfl, rfl, rfl⟩ | ⟨broken, refusal, breaks, rfl, rfl, rfl⟩
        · refine .inl ⟨last + 1, .later retried ended, ?_, rfl, rfl, ?_⟩
          · intro i less
            cases i with
            | zero => exact rested.symm
            | succ i => exact rests i (Nat.lt_of_succ_lt_succ less)
          · exact (course_succ attempt pause delay backoff last).symm
        · refine .inr ⟨broken + 1, refusal, .later retried rested.symm breaks, rfl, rfl, ?_⟩
          exact (turns_succ attempt pause delay backoff (broken + 1)).symm

end Loop

inductive TryRequest (δ : Type) where
  | attempt
  | pause (length : δ)

abbrev trying (α δ : Type) : Interface where
  Request := TryRequest δ
  Reply
    | .attempt => Except Failure α
    | .pause _ => Except Failure Unit

def answerInTurn (outcomes : ℕ → Except Failure α) (pauses : ℕ → δ → Except Failure Unit) :
    (r : (trying α δ).Request) → ℕ → (trying α δ).Reply r × ℕ
  | .attempt, made => (outcomes made, made + 1)
  | .pause length, made => (pauses (made - 1) length, made)

def tryAgain [Mul δ] (strategy : RetryStrategy δ) (worthRetrying : Failure → Bool) :
    Routine (trying α δ) α :=
  attempts strategy worthRetrying
    (fun length => Routine.ask (Script.request (I := trying α δ) (.pause length)))
    (Routine.ask (Script.request (I := trying α δ) .attempt))

end Retry

theorem RetryStrategy.retries_succ {δ : Type} (strategy : RetryStrategy δ) :
    strategy.retries + 1 = (max strategy.attempts 1).toNat := by
  unfold retries
  omega

namespace Retry

variable {α δ : Type} [Mul δ]

def attempted (outcomes : ℕ → Except Failure α) (i : ℕ) : Event (trying α δ) :=
  ⟨TryRequest.attempt, outcomes i⟩

def paused (pauses : ℕ → δ → Except Failure Unit) (i : ℕ) (length : δ) : Event (trying α δ) :=
  ⟨TryRequest.pause length, pauses i length⟩

theorem tryAgain_ends (strategy : RetryStrategy δ) (worthRetrying : Failure → Bool)
    (outcomes : ℕ → Except Failure α) (pauses : ℕ → δ → Except Failure Unit) :
    (∃ last, LastAttempt worthRetrying outcomes (max strategy.attempts 1).toNat last ∧
      (∀ i < last, pauses i (pauseLength strategy.delay strategy.backoff i) = .ok ()) ∧
      (tryAgain strategy worthRetrying).run.run (answerInTurn outcomes pauses) 0 =
        (outcomes last, last + 1) ∧
      (tryAgain strategy worthRetrying).run.trace (answerInTurn outcomes pauses) 0 =
        course (attempted outcomes) (paused pauses) strategy.delay strategy.backoff last) ∨
    ∃ broken cause, BrokenPause worthRetrying outcomes
        (fun i => pauses i (pauseLength strategy.delay strategy.backoff i))
        (max strategy.attempts 1).toNat broken cause ∧
      (tryAgain strategy worthRetrying).run.run (answerInTurn outcomes pauses) 0 =
        (.error cause, broken + 1) ∧
      (tryAgain strategy worthRetrying).run.trace (answerInTurn outcomes pauses) 0 =
        turns (attempted outcomes) (paused pauses) strategy.delay strategy.backoff (broken + 1) := by
  have ran := Script.ran_trace
    (fun r made reply made' => answerInTurn outcomes pauses r made = (reply, made'))
    (fun _ _ => rfl) (tryAgain strategy worthRetrying).run 0
  rw [← strategy.retries_succ]
  rcases ran_loop id Nat.succ (attempted outcomes) (paused pauses) outcomes pauses
    (fun tried => Script.ran_request_alone tried) (fun waited => Script.ran_request_alone waited) ran
    with ⟨last, ended, rests, result, made, events⟩ | ⟨broken, cause, breaks, result, made, events⟩
  · exact .inl ⟨last, ended, rests, Prod.ext result made, events⟩
  · exact .inr ⟨broken, cause, breaks, Prod.ext result made, events⟩

theorem plain_of_rest {seconds : Float} {cause : Failure} (refused : rest seconds = .error cause) :
    cause.isQueue = false ∧ ∀ detail, cause ≠ .app .queueFailed detail := by
  unfold rest at refused
  simp only at refused
  split at refused
  · cases refused
    exact ⟨rfl, nofun⟩
  · split at refused
    · cases refused
      exact ⟨rfl, nofun⟩
    · split at refused
      · cases refused
        exact ⟨rfl, nofun⟩
      · cases refused

def flaky (made : ℕ) : Except Failure String :=
  if made < 2 then .error (.foreign .queue "failure") else .ok "ok"

example : (tryAgain (⟨5, 3, 2⟩ : RetryStrategy ℕ) Failure.isQueue).run.trace
    (answerInTurn flaky fun _ _ => .ok ()) 0 =
      [attempted flaky 0, paused (fun _ _ => .ok ()) 0 3, attempted flaky 1,
        paused (fun _ _ => .ok ()) 1 6, attempted flaky 2] := rfl

end Retry

end ImagePipeline
