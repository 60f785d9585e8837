import ImagePipeline.Proofs.Queue.Agreement

namespace ImagePipeline.Queue

open Retry (LastAttempt BrokenPause Retried course turns pauseLength)

def repliedInTurn (replies : ℕ → Except Failure String) (pauses : ℕ → Float → Except Failure Unit) :
    (r : publishing.Request) → ℕ → publishing.Reply r × ℕ
  | .append .., made => (replies made, made + 1)
  | .pause seconds, made => (pauses (made - 1) seconds, made)

def taken : Event publishing → Bool
  | ⟨.append .., reply⟩ => Except.isOk reply
  | ⟨.pause _, _⟩ => false

namespace Publisher

variable {replies : ℕ → Except Failure String} {pauses : ℕ → Float → Except Failure Unit} {last count : ℕ}
  {delay backoff : Float} {stream payload : String}

abbrev appendsPausing (stream payload : String) (replies : ℕ → Except Failure String)
    (pauses : ℕ → Float → Except Failure Unit) (delay backoff : Float) (count : ℕ) :
    List (Event publishing) :=
  turns (fun i => ⟨.append stream payload, replies i⟩) (fun i seconds => ⟨.pause seconds, pauses i seconds⟩)
    delay backoff count

abbrev appends (stream payload : String) (replies : ℕ → Except Failure String)
    (pauses : ℕ → Float → Except Failure Unit) (delay backoff : Float) (last : ℕ) :
    List (Event publishing) :=
  course (fun i => ⟨.append stream payload, replies i⟩) (fun i seconds => ⟨.pause seconds, pauses i seconds⟩)
    delay backoff last

theorem countP_taken_eq_zero (failed : ∀ i < count, Retried Failure.isQueue (replies i)) :
    (appendsPausing stream payload replies pauses delay backoff count).countP taken = 0 := by
  rw [List.countP_eq_zero]
  intro e mem
  obtain ⟨i, among, mem⟩ := List.mem_flatMap.mp mem
  obtain ⟨cause, failed, -⟩ := failed i (List.mem_range.mp among)
  rcases List.mem_pair.mp mem with rfl | rfl
  · simp [taken, failed, Except.isOk, Except.toBool]
  · simp [taken]

theorem countP_taken_le_one (failed : ∀ i < last, Retried Failure.isQueue (replies i)) :
    (appends stream payload replies pauses delay backoff last).countP taken ≤ 1 := by
  rw [appends, course, List.countP_append, countP_taken_eq_zero failed, Nat.zero_add]
  exact List.countP_le_length

theorem append_of_mem_pausing {stream' payload' : String} {reply : Except Failure String}
    (mem : ⟨.append stream' payload', reply⟩ ∈
      appendsPausing stream payload replies pauses delay backoff count) :
    stream' = stream ∧ payload' = payload := by
  obtain ⟨i, -, mem⟩ := List.mem_flatMap.mp mem
  rcases List.mem_pair.mp mem with same | same
  · cases same
    exact ⟨rfl, rfl⟩
  · cases same

theorem append_of_mem {stream' payload' : String} {reply : Except Failure String}
    (mem : ⟨.append stream' payload', reply⟩ ∈ appends stream payload replies pauses delay backoff last) :
    stream' = stream ∧ payload' = payload := by
  rcases List.mem_append.mp mem with mem | mem
  · exact append_of_mem_pausing mem
  · cases List.mem_singleton.mp mem
    exact ⟨rfl, rfl⟩

theorem reported_eq_queueFailed_iff {reply : Except Failure String}
    (other : ∀ detail, reply ≠ .error (.app .queueFailed detail)) :
    (∃ detail, reported reply = .error (.app .queueFailed detail)) ↔
      Retried Failure.isQueue reply := by
  cases reply with
  | ok id => simp [reported, Retried]
  | error cause =>
      cases known : cause.isQueue with
      | true => simp [reported, Retried, known, sendingFailed]
      | false =>
          refine iff_of_false ?_ (by simp [Retried, known])
          rintro ⟨detail, failed⟩
          exact other detail (by simpa [reported, known] using failed)

theorem reported_of_passed {reply : Except Failure String}
    (passes : ∀ cause, reply = .error cause → cause.isQueue = false) : reported reply = reply := by
  cases reply with
  | ok id => rfl
  | error cause => simp [reported, passes cause rfl]

/-- Sending is to append until an answer is not worth another attempt or the attempts are used up, unless
a pause fails before that. -/
def Sends (strategy : RetryStrategy Float) (stream payload : String) (replies : ℕ → Except Failure String)
    (pauses : ℕ → Float → Except Failure Unit) (events : List (Event publishing)) (made : ℕ)
    (result : Except Failure String) : Prop :=
  (∃ last, LastAttempt Failure.isQueue replies (max strategy.attempts 1).toNat last ∧
      (∀ i < last, pauses i (pauseLength strategy.delay strategy.backoff i) = .ok ()) ∧
      result = replies last ∧ made = last + 1 ∧
      events = appends stream payload replies pauses strategy.delay strategy.backoff last) ∨
    ∃ broken cause, BrokenPause Failure.isQueue replies
        (fun i => pauses i (pauseLength strategy.delay strategy.backoff i))
        (max strategy.attempts 1).toNat broken cause ∧
      result = .error cause ∧ made = broken + 1 ∧
      events = appendsPausing stream payload replies pauses strategy.delay strategy.backoff (broken + 1)

namespace Sends

variable {strategy : RetryStrategy Float} {events : List (Event publishing)} {made : ℕ}
  {result : Except Failure String}

theorem once (sends : Sends strategy stream payload replies pauses events made result) :
    events.countP taken ≤ 1 := by
  rcases sends with ⟨last, ended, -, -, -, rfl⟩ | ⟨broken, cause, breaks, -, -, rfl⟩
  · exact countP_taken_le_one ended.retried
  · rw [countP_taken_eq_zero fun i less => breaks.retried i (Nat.le_of_lt_succ less)]
    exact Nat.zero_le 1

theorem alike (sends : Sends strategy stream payload replies pauses events made result)
    {stream' payload' : String} {reply : Except Failure String}
    (mem : ⟨.append stream' payload', reply⟩ ∈ events) : stream' = stream ∧ payload' = payload := by
  rcases sends with ⟨last, -, -, -, -, rfl⟩ | ⟨broken, cause, -, -, -, rfl⟩
  · exact append_of_mem mem
  · exact append_of_mem_pausing mem

theorem gaveUp_iff (sends : Sends strategy stream payload replies pauses events made result)
    (replied : ∀ i detail, replies i ≠ .error (.app .queueFailed detail))
    (paused : ∀ i seconds cause, pauses i seconds = .error cause →
      cause.isQueue = false ∧ ∀ detail, cause ≠ .app .queueFailed detail) :
    (∃ detail, reported result = .error (.app .queueFailed detail)) ↔
      (∀ i < (max strategy.attempts 1).toNat, Retried Failure.isQueue (replies i)) ∧
        ∀ i, i + 1 < (max strategy.attempts 1).toNat →
          pauses i (pauseLength strategy.delay strategy.backoff i) = .ok () := by
  rcases sends with ⟨last, ended, rests, rfl, -, -⟩ | ⟨broken, cause, breaks, rfl, -, -⟩
  · rw [reported_eq_queueFailed_iff (replied last)]
    refine ⟨fun failed => ⟨ended.retried_iff.mp failed, fun i more => rests i ?_⟩,
      fun all => ended.retried_iff.mpr all.1⟩
    have most_eq := ended.most_eq_of_retried failed
    omega
  · obtain ⟨foreign, other⟩ := paused broken _ cause breaks.refused
    refine iff_of_false ?_ fun all => ?_
    · rintro ⟨detail, failed⟩
      exact other detail (by simpa [reported, foreign] using failed)
    · cases (all.2 broken breaks.allowed).symm.trans breaks.refused

end Sends

section Turns

variable (publisher : Publisher) (task : Task) (replies : ℕ → Except Failure String)
  (pauses : ℕ → Float → Except Failure Unit)

theorem ran_appends {strategy : RetryStrategy Float} {made : ℕ} {events : List (Event publishing)}
    {result : Except Failure String}
    (ran : Script.Ran (fun r made reply made' => repliedInTurn replies pauses r made = (reply, made'))
      (Retry.attempts strategy Failure.isQueue
        (fun seconds => Routine.ask (I := publishing) (Script.request (I := publishing) (.pause seconds)))
        (Routine.ask (I := publishing) (Script.request (I := publishing) (.append stream payload)))).run
      0 events result made) : Sends strategy stream payload replies pauses events made result := by
  unfold Sends
  rw [← strategy.retries_succ]
  exact Retry.ran_loop id Nat.succ _ _ replies pauses (fun tried => Script.ran_request_alone tried)
    (fun waited => Script.ran_request_alone waited) ran

theorem publish_ends :
    ∃ result made, Sends publisher.strategy
        (streamFor publisher.topic publisher.partitions task.imageId) task.wire replies pauses
        ((publisher.publish task).run.trace (repliedInTurn replies pauses) 0) made result ∧
      (publisher.publish task).run.run (repliedInTurn replies pauses) 0 = (reported result, made) := by
  have ran := Script.ran_trace
    (fun r made reply made' => repliedInTurn replies pauses r made = (reply, made'))
    (fun _ _ => rfl) (publisher.publish task).run 0
  rcases Routine.ran_recover ran with ⟨sent, passes⟩ | ⟨cause, _, _, _, known, joined, sent, thrown⟩
  · refine ⟨_, _, ran_appends replies pauses sent, Prod.ext ?_ rfl⟩
    exact (reported_of_passed passes).symm
  · obtain ⟨rfl, threw, made⟩ := thrown
    rw [List.append_nil] at joined
    refine ⟨_, _, joined ▸ ran_appends replies pauses sent, Prod.ext (threw.symm.trans ?_) made.symm⟩
    simp [reported, known]

end Turns

structure SentInTurn (publisher : Publisher) (task : Task) (replies : ℕ → Except Failure String)
    (pauses : ℕ → Float → Except Failure Unit) (sending : Routine publishing String) : Prop where
  ends : ∃ result made, Sends publisher.strategy
      (streamFor publisher.topic publisher.partitions task.imageId) task.wire replies pauses
      (sending.run.trace (repliedInTurn replies pauses) 0) made result ∧
    sending.run.run (repliedInTurn replies pauses) 0 = (reported result, made)
  once : (sending.run.trace (repliedInTurn replies pauses) 0).countP taken ≤ 1
  alike : ∀ {stream payload reply},
    ⟨.append stream payload, reply⟩ ∈ sending.run.trace (repliedInTurn replies pauses) 0 →
      stream = streamFor publisher.topic publisher.partitions task.imageId ∧ payload = task.wire
  /-- Unless the queue or a pause itself says that the queue failed. -/
  gaveUp : (∀ i detail, replies i ≠ .error (.app .queueFailed detail)) →
    (∀ i seconds cause, pauses i seconds = .error cause →
      cause.isQueue = false ∧ ∀ detail, cause ≠ .app .queueFailed detail) →
    ((∃ detail, (sending.run.run (repliedInTurn replies pauses) 0).1 =
        .error (.app .queueFailed detail)) ↔
      (∀ i < (max publisher.strategy.attempts 1).toNat, Retried Failure.isQueue (replies i)) ∧
        ∀ i, i + 1 < (max publisher.strategy.attempts 1).toNat →
          pauses i (pauseLength publisher.strategy.delay publisher.strategy.backoff i) = .ok ())

theorem sentInTurn (publisher : Publisher) (task : Task) (replies : ℕ → Except Failure String)
    (pauses : ℕ → Float → Except Failure Unit) :
    SentInTurn publisher task replies pauses (publisher.publish task) := by
  obtain ⟨result, made, sends, run⟩ := publish_ends publisher task replies pauses
  refine ⟨⟨result, made, sends, run⟩, sends.once, fun mem => sends.alike mem, fun replied paused => ?_⟩
  rw [run]
  exact sends.gaveUp_iff replied paused

/-- Whatever is tried again ends with the outcome of the last attempt, after as many pauses as there were
attempts before it, or else with the first pause that fails. So does publishing, where the offered task is
one. -/
theorem repeated_until_settled {α δ : Type} [Mul δ] (strategy : RetryStrategy δ)
    (worthRetrying : Failure → Bool) (outcomes : ℕ → Except Failure α)
    (rests : ℕ → δ → Except Failure Unit) (publisher : Publisher) (imageId kind : Json)
    (replies : ℕ → Except Failure String) (pauses : ℕ → Float → Except Failure Unit) :
    ((∃ last, LastAttempt worthRetrying outcomes (max strategy.attempts 1).toNat last ∧
        (∀ i < last, rests i (pauseLength strategy.delay strategy.backoff i) = .ok ()) ∧
        (Retry.tryAgain strategy worthRetrying).run.run (Retry.answerInTurn outcomes rests) 0 =
          (outcomes last, last + 1) ∧
        (Retry.tryAgain strategy worthRetrying).run.trace (Retry.answerInTurn outcomes rests) 0 =
          course (Retry.attempted outcomes) (Retry.paused rests) strategy.delay strategy.backoff last) ∨
      ∃ broken cause, BrokenPause worthRetrying outcomes
          (fun i => rests i (pauseLength strategy.delay strategy.backoff i))
          (max strategy.attempts 1).toNat broken cause ∧
        (Retry.tryAgain strategy worthRetrying).run.run (Retry.answerInTurn outcomes rests) 0 =
          (.error cause, broken + 1) ∧
        (Retry.tryAgain strategy worthRetrying).run.trace (Retry.answerInTurn outcomes rests) 0 =
          turns (Retry.attempted outcomes) (Retry.paused rests) strategy.delay strategy.backoff
            (broken + 1)) ∧
    (∀ issues, Task.ofMembers (some imageId) (some kind) = .error issues →
      (publisher.publishOffered imageId kind).run.run (repliedInTurn replies pauses) 0 =
        (.error (.invalid issues), 0) ∧
      (publisher.publishOffered imageId kind).run.trace (repliedInTurn replies pauses) 0 = []) ∧
    ∀ task, Task.ofMembers (some imageId) (some kind) = .ok task →
      publisher.SentInTurn task replies pauses (publisher.publishOffered imageId kind) := by
  refine ⟨Retry.tryAgain_ends strategy worthRetrying outcomes rests, fun issues refused => ?_,
    fun task accepted => ?_⟩
  · simp only [publishOffered, refused]
    exact ⟨rfl, rfl⟩
  · simp only [publishOffered, accepted]
    exact publisher.sentInTurn task replies pauses

theorem twicePublisher_gaveUp :
    let publisher := { (default : Publisher) with strategy := ⟨2, 1, 1⟩ }
    ∃ detail, ((publisher.publishOffered (.text "a") (.text "watermark")).run.run
      (repliedInTurn (fun _ => .error (.foreign .queueUnreachable "down")) fun _ => Retry.rest) 0).1 =
        .error (.app .queueFailed detail) := by
  intro publisher
  obtain ⟨-, -, sends⟩ := repeated_until_settled (α := Unit) publisher.strategy Failure.isQueue
    (fun _ => .ok ()) (fun _ => Retry.rest) publisher (.text "a") (.text "watermark")
    (fun _ => .error (.foreign .queueUnreachable "down")) fun _ => Retry.rest
  refine ((sends ⟨"a", .watermark, by decide⟩ rfl).gaveUp (by rintro i detail ⟨⟩)
    fun i seconds cause refused => Retry.plain_of_rest refused).mpr ⟨fun i _ => ⟨_, rfl, rfl⟩, fun i more => ?_⟩
  have only : i + 1 < 2 := more
  obtain rfl : i = 0 := by omega
  exact show Retry.rest 1 = .ok () from rfl

def onceFailing (made : ℕ) : Except Failure String :=
  if made = 0 then .error (.foreign .queue "failure") else .ok "1-0"

theorem negativeDelay_ends_early : ¬ ∀ strategy : RetryStrategy Float,
    ∃ last, LastAttempt Failure.isQueue onceFailing (max strategy.attempts 1).toNat last ∧
      (Retry.tryAgain strategy Failure.isQueue).run.run
        (Retry.answerInTurn onceFailing fun _ => Retry.rest) 0 = (onceFailing last, last + 1) := by
  intro law
  obtain ⟨last, ended, run⟩ := law ⟨3, -1, 2⟩
  have refused : (Retry.tryAgain (⟨3, -1, 2⟩ : RetryStrategy Float) Failure.isQueue).run.run
      (Retry.answerInTurn onceFailing fun _ => Retry.rest) 0 = (.error .negativePause, 1) := rfl
  obtain ⟨outcome, made⟩ := Prod.mk.inj (run.symm.trans refused)
  obtain rfl : last = 0 := by omega
  cases outcome

end Publisher

end ImagePipeline.Queue
