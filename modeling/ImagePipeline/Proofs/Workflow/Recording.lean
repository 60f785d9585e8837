import ImagePipeline.Proofs.Script.Running
import ImagePipeline.Proofs.Workflow.Provenance

namespace ImagePipeline

def Surroundings.meanwhile {I : Interface} {σ : Type} (S : Surroundings I σ) (r : I.Request) (state : σ)
    (reply : I.Reply r) (state' : σ) : Prop :=
  ∃ between, S.drifts state between ∧ S.answers r between reply state'

structure Progress.FailedFor (p : Progress) (reason : String) : Prop where
  status : p.status = Status.failed.name
  reason : p.errorMessage = some reason
  noResult : p.processedPath = none ∧ p.width = none ∧ p.height = none

theorem Progress.failedFor_fail (p : Progress) (reason : String) (now : Instant) :
    (p.fail (some reason) now).FailedFor reason :=
  ⟨rfl, rfl, rfl, rfl, rfl⟩

namespace Workflow

open Script (Ran)

/-- A stage failed as is expected of it, with what is said of that. -/
inductive StageFailure : Event working → String → Failure → Prop where
  | opening {key cause} (expected : isReadTrouble cause = true) :
      StageFailure ⟨.openUpload key, .error cause⟩ "failed to get original file" cause
  | reading {content cause} (expected : isReadTrouble cause = true) :
      StageFailure ⟨.readUpload content, .error cause⟩ "failed to get original file" cause
  | decoding {bytes cause} (expected : cause.isApp = true) :
      StageFailure ⟨.decode bytes, .error cause⟩ "failed to decode original image" cause
  | processing {kind picture cause} :
      StageFailure ⟨.process kind picture, .error cause⟩ "processing failed" cause
  | encoding {picture cause} (expected : cause.isApp = true) :
      StageFailure ⟨.encode picture, .error cause⟩ "encoding failed" cause
  | saving {name content cause} (expected : cause.isApp = true) :
      StageFailure ⟨.saveProcessed name content, .error cause⟩ "failed to save processed file" cause
  | completing {record cause} (completed : record.status = Status.completed.name)
      (expected : isTableTrouble cause = true) :
      StageFailure ⟨.update record, .error cause⟩ "failed to record completion" cause

variable {id what : String} {cause : Failure} {e : Event working} {past events : List (Event working)}
  {result : Except Failure Unit} {site site' : Site} {p p' : Attempt} {c : Call}
  {reply : working.Reply c}

theorem StageFailure.unique {what' : String} {cause' : Failure} (fails : StageFailure e what cause)
    (also : StageFailure e what' cause') : what' = what ∧ cause' = cause := by
  cases fails <;> cases also <;> exact ⟨rfl, rfl⟩

def Clean (past : List (Event working)) : Prop := ∀ e ∈ past, ∀ what cause, ¬ StageFailure e what cause

theorem clean_nil : Clean [] := by simp [Clean]

theorem Clean.snoc (clean : Clean past) (quiet : ∀ what cause, ¬ StageFailure e what cause) :
    Clean (past ++ [e]) := by
  intro other mem
  rcases List.mem_append.mp mem with before | latest
  · exact clean other before
  · rw [List.mem_singleton.mp latest]
    exact quiet

/-- After the event the failure was put to the table, and nothing else was done. It was passed on unless
the table failed in a way that is not expected of it, and if the table took it, the row tells of it. -/
def Reported (id : String) (e : Event working) (what : String) (cause : Failure)
    (events : List (Event working)) (result : Except Failure Unit) (site : Site) : Prop :=
  ∃ before now failed reply, events = before ++ [e, ⟨.now, now⟩, ⟨.update failed, reply⟩] ∧
    Clean before ∧ failed.id = id ∧ failed.toProgress.FailedFor (what ++ ": " ++ cause.text) ∧
    ((∀ trouble, reply = .error trouble → isTableTrouble trouble = true) → result = .error cause) ∧
    ∀ row, reply = .ok row → site.catalogue.find? id = some row ∧
      row.toProgress.FailedFor (what ++ ": " ++ cause.text)

theorem TableStep.stored_row {table table' : Catalogue} {record row : Record}
    (step : TableStep table (.update record) (.ok row) table') : ∃ old now,
      table.find? record.id = some old ∧ row = Catalogue.overwrite old record now ∧
        table'.find? record.id = some row := by
  cases step with
  | apart silent => cases silent
  | stored now change =>
      have after := Catalogue.find?_store_self change
      obtain ⟨old, found, written, -⟩ := Catalogue.store_ok change
      exact ⟨old, now, found, written, after⟩

def Attempt.Recounts (id : String) (site : Site) (past : List (Event working)) : Attempt → Prop
  | looking other => other = id ∧ Clean past
  | claiming record => record.id = id ∧ Clean past
  | starting record => record.id = id ∧ Clean past
  | opening record => record.id = id ∧ Clean past
  | reading record _ => record.id = id ∧ Clean past
  | decoding record _ => record.id = id ∧ Clean past
  | processing record _ => record.id = id ∧ Clean past
  | encoding record _ => record.id = id ∧ Clean past
  | saving record _ _ => record.id = id ∧ Clean past
  | completing record _ _ => record.id = id ∧ Clean past
  | storing completed => completed.id = id ∧ Clean past ∧
      completed.status = Status.completed.name
  | failing record message cause => record.id = id ∧ ∃ before e what, past = before ++ [e] ∧
      Clean before ∧ StageFailure e what cause ∧ message = what ++ ": " ++ cause.text
  | reporting failed cause => failed.id = id ∧ ∃ before e what now, past = before ++ [e, ⟨.now, now⟩] ∧
      Clean before ∧ StageFailure e what cause ∧
        failed.toProgress.FailedFor (what ++ ": " ++ cause.text)
  | ended how => Clean past ∨ ∃ e what cause, StageFailure e what cause ∧
      Reported id e what cause past how.result site

theorem Attempt.recounts_afterFailure {record : Record} {expected : Failure → Bool} (named : record.id = id)
    (clean : Clean past) (fails : expected cause = true → StageFailure e what cause)
    (only : ∀ what cause', StageFailure e what cause' → expected cause = true) :
    (afterFailure record what expected cause).Recounts id site (past ++ [e]) := by
  unfold afterFailure
  split
  · next known => exact ⟨named, past, e, what, rfl, clean, fails known, rfl⟩
  · next unknown => exact .inl (clean.snoc fun what cause failed => unknown (only what cause failed))

theorem Attempt.Recounts.step (recounts : p.Recounts id site past) (step : p.Step c reply p')
    (table : TableStep site.catalogue c reply site'.catalogue) :
    p'.Recounts id site' (past ++ [⟨c, reply⟩]) := by
  cases step with
  | found other record =>
      obtain ⟨rfl, clean⟩ := recounts
      split
      · exact ⟨table.honest other record rfl, clean.snoc (by rintro _ _ ⟨⟩)⟩
      · exact .inl (clean.snoc (by rintro _ _ ⟨⟩))
  | refused => split <;> exact .inl (recounts.2.snoc (by rintro _ _ ⟨⟩))
  | notFound => exact .inl (recounts.2.snoc (by rintro _ _ ⟨⟩))
  | stored => exact .inl (recounts.2.1.snoc (by rintro _ _ ⟨⟩))
  | finished => exact ⟨recounts.1, recounts.2.snoc (by rintro _ _ ⟨⟩), rfl⟩
  | claimed | started | opened | read | decoded | processed | encoded | saved =>
      exact ⟨recounts.1, recounts.2.snoc (by rintro _ _ ⟨⟩)⟩
  | notOpened =>
      exact recounts_afterFailure recounts.1 recounts.2 .opening (by rintro _ _ ⟨⟩; assumption)
  | notRead =>
      exact recounts_afterFailure recounts.1 recounts.2 .reading (by rintro _ _ ⟨⟩; assumption)
  | notDecoded =>
      exact recounts_afterFailure recounts.1 recounts.2 .decoding (by rintro _ _ ⟨⟩; assumption)
  | notProcessed =>
      exact recounts_afterFailure recounts.1 recounts.2 (fun _ => .processing) fun _ _ _ => rfl
  | notEncoded =>
      exact recounts_afterFailure recounts.1 recounts.2 .encoding (by rintro _ _ ⟨⟩; assumption)
  | notSaved =>
      exact recounts_afterFailure recounts.1 recounts.2 .saving (by rintro _ _ ⟨⟩; assumption)
  | notStored =>
      obtain ⟨named, clean, completed⟩ := recounts
      exact recounts_afterFailure named clean (.completing completed) (by rintro _ _ ⟨⟩; assumption)
  | stamped record message cause now =>
      obtain ⟨named, before, e, what, rfl, clean, fails, rfl⟩ := recounts
      exact ⟨named, before, e, what, now, List.append_assoc .., clean, fails,
        record.failedFor_fail _ now⟩
  | reported failed cause row =>
      obtain ⟨named, before, e, what, now, rfl, clean, fails, tells⟩ := recounts
      refine .inr ⟨e, what, cause, fails, before, now, failed, .ok row, List.append_assoc .., clean, named,
        tells, fun _ => rfl, ?_⟩
      rintro _ ⟨⟩
      obtain ⟨old, later, -, rfl, after⟩ := table.stored_row
      exact ⟨named ▸ after, tells.status, tells.reason, tells.noResult⟩
  | notReported failed cause trouble =>
      obtain ⟨named, before, e, what, now, rfl, clean, fails, tells⟩ := recounts
      refine .inr ⟨e, what, cause, fails, before, now, failed, .error trouble, List.append_assoc .., clean,
        named, tells, fun put_up => ?_, ?_⟩
      · rw [if_pos (put_up trouble rfl)]
        rfl
      · rintro row ⟨⟩

theorem Reported.only {e' : Event working} {what' : String} {cause' : Failure}
    (recorded : Reported id e what cause events result site) (mem : e' ∈ events)
    (fails : StageFailure e' what' cause') : e' = e := by
  obtain ⟨before, now, failed, reply, rfl, clean, -, tells, -⟩ := recorded
  rcases List.mem_append.mp mem with earlier | late
  · exact absurd fails (clean e' earlier what' cause')
  · simp only [List.mem_cons, List.not_mem_nil, or_false] at late
    rcases late with rfl | rfl | rfl
    · rfl
    · cases fails
    · cases fails with
      | completing completed =>
          rw [tells.status] at completed
          exact absurd completed (by decide)

theorem Attempt.ran {σ : Type} {answers : (c : Call) → σ → working.Reply c → σ → Prop} {state state' : σ}
    (Inv : σ → List (Event working) → Attempt → Prop)
    (onward : ∀ {state past p c reply state' p'}, Inv state past p → p.call? = some c →
      answers c state reply state' → p.Step c reply p' → Inv state' (past ++ [⟨c, reply⟩]) p')
    (start : Inv state [] (.looking id))
    (ran : Ran answers (processImage id).run state events result state') :
    ∃ how : Ending, result = how.result ∧ Inv state' events (.ended how) := by
  have step (state : σ) (past : List (Event working)) (p : Attempt) (c : Call)
      (reply : working.Reply c) (state' : σ) (inv : Inv state past p) (allowed : p.call? = some c)
      (answered : answers c state reply state') :
      ∃ p', p.Step c reply p' ∧ Inv state' (past ++ [⟨c, reply⟩]) p' := by
    obtain ⟨p', step⟩ := Attempt.step_total allowed reply
    exact ⟨p', step, onward inv allowed answered step⟩
  obtain ⟨p, inv, how, rfl, same⟩ := (processImage_follows id).ran Inv step [] start ran
  exact ⟨how, same, inv⟩

theorem reported_of_stageFailure
    (ran : Ran Site.guarded.meanwhile (processImage id).run site events result site') (mem : e ∈ events)
    (fails : StageFailure e what cause) : Reported id e what cause events result site' := by
  obtain ⟨how, rfl, recounts⟩ := Attempt.ran (fun site past p => p.Recounts id site past)
    (fun recounts _ answered step => by
      obtain ⟨between, drifted, responds⟩ := answered
      exact recounts.step step (drifted.1 ▸ responds.step.table)) ⟨rfl, clean_nil⟩ ran
  rcases recounts with clean | ⟨e', what', cause', fails', recorded⟩
  · exact absurd fails (clean e mem what cause)
  · obtain rfl := recorded.only mem fails
    obtain ⟨rfl, rfl⟩ := fails.unique fails'
    exact recorded

end Workflow

end ImagePipeline
