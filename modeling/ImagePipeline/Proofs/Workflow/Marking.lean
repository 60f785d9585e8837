import ImagePipeline.Proofs.Workflow.Consistency
import ImagePipeline.Proofs.Workflow.Provenance
import ImagePipeline.Proofs.Workflow.Writing
/-!
# What the time of processing tells

An attempt that saved its result marks the record completed, which sets the time of processing if there
is none yet, and then writes the record. If that write is refused, the record is written as failed with
the time that it was given, so a later attempt finds a time and keeps it. Hence the row of a completed
image tells when it was marked by the attempt that wrote the row, or by an earlier one whose write was
refused (`processedAt_tells_completion`).
-/

namespace ImagePipeline.Workflow

variable {ι : Type} {errands : ι → Errand} {site : Site} {table table' : Catalogue} {c : Call}
  {reply : working.Reply c} {pasts pasts' : ι → List (Event working)} {past : List (Event working)}
  {r found : Record} {id : String} {now t : Instant}

/-! ## Attempts as seen from their past -/

structure Began (past : List (Event working)) (found : Record) : Prop where
  looked : ⟨.find found.id, .ok found⟩ ∈ past
  claimed : ⟨.claim found.id, .ok ()⟩ ∈ past

def SavedResult (past : List (Event working)) (found : Record) : Prop :=
  ∃ content key earlier, past = ⟨.saveProcessed (resultFile found) content, .ok key⟩ :: earlier ∧
    Began earlier found

def Marks (past : List (Event working)) (found : Record) (t : Instant) : Prop :=
  ∃ earlier, past = ⟨.now, t⟩ :: earlier ∧ SavedResult earlier found

def FirstMarked (pasts : ι → List (Event working)) (id : String) (t : Instant) : Prop :=
  ∃ i past found, past <:+ pasts i ∧ Marks past found t ∧ found.id = id ∧ found.processedAt = none

def Refused (pasts : ι → List (Event working)) (id : String) : Prop :=
  ∃ i record cause, ⟨.update record, .error cause⟩ ∈ pasts i ∧ record.id = id ∧
    record.status = Status.completed.name

/-- The time of processing, if any, is that of a mark whose record was not taken. -/
def Leftover (pasts : ι → List (Event working)) (r : Record) : Prop :=
  ∀ t, r.processedAt = some t → FirstMarked pasts r.id t ∧ Refused pasts r.id

def Completes (past : List (Event working)) (found : Record) (t : Instant) (r : Record) : Prop :=
  ∃ record earlier, (⟨.update record, .ok r⟩ :: earlier) <:+ past ∧ Marks earlier found t ∧
    found.id = r.id

/-- A completed row has the time of its own mark, or the one that the attempt found. -/
def Told (pasts : ι → List (Event working)) (r : Record) : Prop :=
  if r.status = Status.completed.name then
    ∃ i found t, Completes (pasts i) found t r ∧ r.processedAt = some (found.processedAt.getD t) ∧
      Leftover pasts found
  else Leftover pasts r

section Mono

variable (earlier : ∀ i, pasts i <:+ pasts' i)

include earlier

theorem FirstMarked.mono (marked : FirstMarked pasts id t) : FirstMarked pasts' id t := by
  obtain ⟨i, past, found, suffix, marks⟩ := marked
  exact ⟨i, past, found, suffix.trans (earlier i), marks⟩

theorem Refused.mono (refused : Refused pasts id) : Refused pasts' id := by
  obtain ⟨i, record, cause, mem, named⟩ := refused
  exact ⟨i, record, cause, (earlier i).subset mem, named⟩

theorem Leftover.mono (left : Leftover pasts r) : Leftover pasts' r := fun t timed =>
  (left t timed).imp (FirstMarked.mono earlier) (Refused.mono earlier)

theorem Told.mono (told : Told pasts r) : Told pasts' r := by
  unfold Told at told ⊢
  split
  · next completed =>
      rw [if_pos completed] at told
      obtain ⟨i, found, t, ⟨record, since, wrote, marks⟩, timed, left⟩ := told
      exact ⟨i, found, t, ⟨record, since, wrote.trans (earlier i), marks⟩, timed, left.mono earlier⟩
  · next other =>
      rw [if_neg other] at told
      exact told.mono earlier

end Mono

theorem Began.cons (began : Began past found) (event : Event working) :
    Began (event :: past) found :=
  ⟨List.mem_cons_of_mem _ began.looked, List.mem_cons_of_mem _ began.claimed⟩

theorem leftover_of_none (untimed : r.processedAt = none) : Leftover pasts r := by
  intro t timed
  rw [untimed] at timed
  cases timed

theorem Leftover.congr (left : Leftover pasts found) (named : r.id = found.id)
    (timed : r.processedAt = found.processedAt) : Leftover pasts r := by
  intro t
  rw [named, timed]
  exact left t

theorem told_of_leftover (left : Leftover pasts r) (other : r.status ≠ Status.completed.name) :
    Told pasts r := by
  unfold Told
  rwa [if_neg other]

theorem Told.leftover_of_ready (told : Told pasts r) (ready : r.canBeProcessed = true) :
    Leftover pasts r := by
  unfold Told at told
  rwa [if_neg] at told
  intro completed
  rw [Progress.canBeProcessed, completed] at ready
  exact absurd ready (by decide)

/-! ## One attempt -/

structure Resumes (found record : Record) : Prop where
  id : record.id = found.id
  file : resultFile record = resultFile found
  timed : record.processedAt = found.processedAt

def Resumed (pasts : ι → List (Event working)) (past : List (Event working)) (record : Record) : Prop :=
  ∃ found, Began past found ∧ Leftover pasts found ∧ Resumes found record

def Attempt.Knows (pasts : ι → List (Event working)) (past : List (Event working)) : Attempt → Prop
  | looking _ => True
  | claiming record => ⟨.find record.id, .ok record⟩ ∈ past ∧ Leftover pasts record
  | starting record => Resumed pasts past record
  | opening record => Resumed pasts past record
  | reading record _ => Resumed pasts past record
  | decoding record _ => Resumed pasts past record
  | processing record _ => Resumed pasts past record
  | encoding record _ => Resumed pasts past record
  | saving record _ _ => Resumed pasts past record
  | completing record _ _ =>
    ∃ found, SavedResult past found ∧ Leftover pasts found ∧ Resumes found record
  | storing completed => completed.status = Status.completed.name ∧ ∃ found t, Marks past found t ∧
      Leftover pasts found ∧ completed.id = found.id ∧
      completed.processedAt = some (found.processedAt.getD t)
  | failing record _ _ => Leftover pasts record
  | reporting failed _ => failed.status = Status.failed.name ∧ Leftover pasts failed
  | ended _ => True

theorem Resumed.cons {record : Record} (resumed : Resumed pasts past record) (event : Event working) :
    Resumed pasts (event :: past) record := by
  obtain ⟨found, began, left, resumes⟩ := resumed
  exact ⟨found, began.cons event, left, resumes⟩

theorem Resumed.leftover {record : Record} (resumed : Resumed pasts past record) :
    Leftover pasts record := by
  obtain ⟨found, -, left, resumes⟩ := resumed
  exact left.congr resumes.id resumes.timed

theorem Attempt.knows_afterFailure {record : Record} (what : String) (expected : Failure → Bool)
    (cause : Failure) (left : Leftover pasts record) :
    (afterFailure record what expected cause).Knows pasts past := by
  unfold afterFailure
  split
  · exact left
  · trivial

theorem leftover_of_refused {i : ι} {record : Record} {cause : Failure}
    (suffix : (⟨.update record, .error cause⟩ :: past) <:+ pasts i) (marks : Marks past found t)
    (completed : record.status = Status.completed.name) (left : Leftover pasts found)
    (named : record.id = found.id) (timed : record.processedAt = some (found.processedAt.getD t)) :
    Leftover pasts record := by
  intro when_ known
  refine ⟨?_, i, record, cause, suffix.subset List.mem_cons_self, rfl, completed⟩
  rw [timed] at known
  cases before : found.processedAt with
  | some t =>
      rw [before] at known
      exact named ▸ (left when_ (before.trans known)).1
  | none =>
      rw [before] at known
      cases known
      exact ⟨i, past, found, (List.suffix_cons _ _).trans suffix, marks, named.symm, before⟩

theorem Attempt.Knows.step {p p' : Attempt} {i : ι} (knows : p.Knows pasts past)
    (step : p.Step c reply p') (suffix : (⟨c, reply⟩ :: past) <:+ pasts i)
    (told : ∀ id record, (⟨c, reply⟩ : Event working) = ⟨.find id, .ok record⟩ →
      record.id = id ∧ Told pasts record) :
    p'.Knows pasts (⟨c, reply⟩ :: past) := by
  cases step with
  | found id record =>
      obtain ⟨rfl, known⟩ := told id record rfl
      split
      · next ready => exact ⟨List.mem_cons_self, known.leftover_of_ready ready⟩
      · trivial
  | refused record cause => split <;> trivial
  | claimed record =>
      obtain ⟨looked, left⟩ := knows
      exact ⟨record, ⟨List.mem_cons_of_mem _ looked, List.mem_cons_self⟩, left, rfl, rfl, rfl⟩
  | started record now =>
      obtain ⟨found, began, left, resumes⟩ := knows
      exact ⟨found, began.cons _, left, resumes.id, resumes.file, resumes.timed⟩
  | saved record result bytes key =>
      obtain ⟨found, began, left, resumes⟩ := knows
      exact ⟨found, ⟨bytes, key, past, resumes.file ▸ rfl, began⟩, left, resumes⟩
  | finished record result key now =>
      obtain ⟨found, saved, left, resumes⟩ := knows
      refine ⟨rfl, found, now, ⟨past, rfl, saved⟩, left, resumes.id, ?_⟩
      exact congrArg (fun time => some (Option.getD time now)) resumes.timed
  | stamped record message cause now => exact ⟨rfl, knows⟩
  | notStored completed cause =>
      obtain ⟨status, found, t, marks, left, named, timed⟩ := knows
      exact knows_afterFailure _ _ _ (leftover_of_refused suffix marks status left named timed)
  -- up to the saving nothing has been marked as completed, so what was left before is left again
  | notOpened | notRead | notDecoded | notProcessed | notEncoded | notSaved =>
      exact knows_afterFailure _ _ _ knows.leftover
  | opened | read | decoded | processed | encoded => exact knows.cons _
  | notFound | stored | reported | notReported => trivial

theorem Attempt.Knows.mono {p : Attempt} (knows : p.Knows pasts past)
    (earlier : ∀ i, pasts i <:+ pasts' i) : p.Knows pasts' past := by
  have resumed {record : Record} (resumed : Resumed pasts past record) : Resumed pasts' past record := by
    obtain ⟨found, began, left, resumes⟩ := resumed
    exact ⟨found, began, left.mono earlier, resumes⟩
  cases p with
  | looking => trivial
  | ended => trivial
  | claiming record => exact ⟨knows.1, knows.2.mono earlier⟩
  | completing record result key =>
      obtain ⟨found, saved, left, resumes⟩ := knows
      exact ⟨found, saved, left.mono earlier, resumes⟩
  | storing completed =>
      obtain ⟨status, found, t, marks, left, timed⟩ := knows
      exact ⟨status, found, t, marks, left.mono earlier, timed⟩
  | failing => exact Leftover.mono earlier knows
  | reporting failed cause => exact ⟨knows.1, knows.2.mono earlier⟩
  | _ => exact resumed knows

/-! ## All threads -/

def Activity.Knows (pasts : ι → List (Event working)) (past : List (Event working)) : Activity → Prop
  | attempt p => p.Knows pasts past
  | intake (.creating draft ..) => draft.status = some Status.pending.name ∧ draft.processedAt = none
  | _ => True

theorem Activity.Knows.mono {a : Activity} (knows : a.Knows pasts past)
    (earlier : ∀ i, pasts i <:+ pasts' i) : a.Knows pasts' past := by
  cases a with
  | attempt p => exact Attempt.Knows.mono knows earlier
  | intake p => cases p <;> exact knows
  | _ => trivial

theorem Activity.Knows.step {a a' : Activity} {i : ι} (knows : a.Knows pasts past)
    (step : a.Step c reply a') (suffix : (⟨c, reply⟩ :: past) <:+ pasts i)
    (told : ∀ id record, (⟨c, reply⟩ : Event working) = ⟨.find id, .ok record⟩ →
      record.id = id ∧ Told pasts record) :
    a'.Knows pasts (⟨c, reply⟩ :: past) := by
  cases step with
  | attempt step => exact Attempt.Knows.step knows step suffix told
  | intake step =>
      cases step with
      | dated => exact ⟨rfl, rfl⟩
      | _ => trivial
  | _ => trivial

theorem Errand.knows_first (errand : Errand) : errand.first.Knows pasts past := by
  cases errand with
  | chore work => cases work <;> trivial
  | upload admission source =>
      change (Activity.intake (.first admission source)).Knows pasts past
      unfold Intake.first
      split <;> trivial

theorem Activity.Knows.told {a : Activity} {i : ι} {old record : Record} (knows : a.Knows pasts past)
    (allowed : a.call? = some (.update record)) (named : old.id = record.id)
    (suffix : (⟨.update record, .ok (Catalogue.overwrite old record now)⟩ :: past) <:+ pasts i) :
    Told pasts (Catalogue.overwrite old record now) := by
  cases a with
  | peeking => cases allowed
  | removal p => cases p <;> cases allowed
  | intake p => cases p <;> cases allowed
  | attempt p =>
      cases p <;> cases allowed
      case storing.refl =>
        obtain ⟨status, found, t, marks, left, mine, timed⟩ := knows
        unfold Told
        rw [if_pos (show (Catalogue.overwrite old record now).status = _ from status)]
        exact ⟨i, found, t, ⟨record, past, suffix, marks, mine.symm.trans named.symm⟩, timed, left⟩
      case reporting.refl cause =>
        obtain ⟨status, left⟩ := knows
        refine told_of_leftover (left.congr named rfl) ?_
        change record.status ≠ _
        rw [status]
        decide

theorem Activity.Knows.created {a : Activity} {draft : Draft} (knows : a.Knows pasts past)
    (allowed : a.call? = some (.create draft)) (completed : (draft.withUsual now).complete = .ok r) :
    Told pasts' r := by
  have pending : draft.status = some Status.pending.name ∧ draft.processedAt = none := by
    cases a with
    | peeking => cases allowed
    | attempt p => cases p <;> cases allowed
    | removal p => cases p <;> cases allowed
    | intake p =>
        cases p <;> cases allowed
        exact knows
  have status : r.status = Status.pending.name := by
    simpa [Draft.withUsual, pending.1] using (Draft.complete_ok completed).1.symm
  have untimed : r.processedAt = none := by
    simpa [Draft.withUsual, pending.2] using (Draft.times_of_complete completed).2.2
  refine told_of_leftover (leftover_of_none untimed) ?_
  rw [status]
  decide

structure Timed (v : View working ι Site Activity) : Prop where
  keyed : v.shared.catalogue.Keyed
  rows : ∀ r ∈ v.shared.catalogue.rows, Told v.pasts r
  knows : ∀ i, (v.stages i).Knows v.pasts (v.pasts i)

variable [DecidableEq ι]

theorem Timed.rows_move {v : View working ι Site Activity} {i : ι} {a : Activity} (inv : Timed v)
    (allowed : (v.stages i).call? = some c) (change : TableStep v.shared.catalogue c reply table)
    (mem : r ∈ table.rows) : Told (v.move i ⟨c, reply⟩ site a).pasts r := by
  have earlier : ∀ j, v.pasts j <:+ (v.move i ⟨c, reply⟩ site a).pasts j := View.suffix_move_pasts
  obtain ⟨now, written⟩ := change.written inv.keyed mem
  cases written with
  | kept mem => exact (inv.rows r mem).mono earlier
  | created draft completed => exact (inv.knows i).created allowed completed
  | stored record old mem named same =>
      subst same
      exact ((inv.knows i).mono earlier).told allowed named View.own_suffix_move_pasts
  | claimed old among ready same =>
      subst same
      have left := ((inv.rows old among).mono earlier).leftover_of_ready ready
      exact told_of_leftover (left.congr rfl rfl) (show Status.processing.name ≠ _ by decide)

theorem Timed.preserves : Preserves Site.around acting (Timed (ι := ι)) where
  call v i c reply site inv allowed answered := by
    obtain ⟨a, step⟩ := (v.stages i).step_total allowed reply
    have change := tableStep_of_answered answered
    have earlier : ∀ j, v.pasts j <:+ (v.move i ⟨c, reply⟩ site a).pasts j := View.suffix_move_pasts
    refine ⟨a, step, change.keyed inv.keyed, fun r mem => inv.rows_move allowed change mem, ?_⟩
    refine View.forall_move (fun _ (stage : Activity) past => stage.Knows _ past) ?_
      fun j _ => (inv.knows j).mono earlier
    refine ((inv.knows i).mono earlier).step step View.own_suffix_move_pasts fun id record event => ?_
    refine ⟨change.honest id record event, ?_⟩
    cases event
    exact (inv.rows record change.mem_of_found).mono earlier
  drift v site inv same := ⟨same ▸ inv.keyed, same ▸ inv.rows, inv.knows⟩

/-- In every table that errands side by side reach from an empty one, the time of processing of a
completed record is that at which the attempt that wrote the row marked it completed, unless the attempt
found one, which it kept. The time of any other record, like one that is found, is that of a mark whose
record was not taken by the table. So where the table took every completed record of an image, there is
a time exactly if the record is completed, and it is that of its own mark. -/
theorem processedAt_tells_completion (errands : ι → Errand) (site : Site)
    (fresh : site.catalogue.rows = []) (e : Ensemble working ι Site (Except Failure Unit))
    (reached : Ensemble.Reaches Site.around (.start site fun i => (errands i).service.run) e)
    (r : Record) (mem : r ∈ e.shared.catalogue.rows) :
    let pasts := fun i => (e.threads i).past
    (r.status = Status.completed.name → ∃ i found t, Completes (pasts i) found t r ∧
      r.processedAt = some (found.processedAt.getD t) ∧ Leftover pasts found) ∧
    (r.status ≠ Status.completed.name → Leftover pasts r) ∧
    (¬ Refused pasts r.id → (r.processedAt ≠ none ↔ r.status = Status.completed.name) ∧
      (r.status = Status.completed.name → ∃ i found t, Completes (pasts i) found t r ∧
        r.processedAt = some t)) := by
  intro pasts
  have started : Ensemble.Kept acting Timed (.start site fun i => (errands i).service.run) := by
    refine Ensemble.kept_start (fun i => (errands i).first) ?_ fun i => (errands i).follows
    refine ⟨?_, ?_, fun i => (errands i).knows_first⟩
    · simp [Catalogue.Keyed, fresh]
    · simp [fresh]
  obtain ⟨stages, inv, -⟩ := Ensemble.kept_of_reaches Timed.preserves started reached
  have told : Told pasts r := inv.rows r mem
  unfold Told at told
  by_cases completed : r.status = Status.completed.name
  · rw [if_pos completed] at told
    obtain ⟨i, found, t, completes, timed, left⟩ := told
    refine ⟨fun _ => ⟨i, found, t, completes, timed, left⟩, fun other => absurd completed other, ?_⟩
    intro taken
    refine ⟨⟨fun _ => completed, fun _ => by simp [timed]⟩, fun _ => ⟨i, found, t, completes, ?_⟩⟩
    cases before : found.processedAt with
    | none => rw [timed, before]; rfl
    | some earlier =>
        obtain ⟨-, -, -, -, named⟩ := completes
        exact absurd (named ▸ (left earlier before).2) taken
  · rw [if_neg completed] at told
    refine ⟨fun other => absurd other completed, fun _ => told, fun taken => ?_⟩
    refine ⟨⟨fun timed => ?_, fun other => absurd other completed⟩, fun other => absurd other completed⟩
    obtain ⟨t, known⟩ := Option.ne_none_iff_exists'.mp timed
    exact absurd (told t known).2 taken

inductive Try where
  | intake
  | earlier
  | later
  deriving DecidableEq

def triedTwice : Try → Errand
  | .intake => .upload ⟨12, [".png"]⟩ dot
  | .earlier => .chore (.process (Site.idNumber 1))
  | .later => .chore (.process (Site.idNumber 1))

def untaken : Ensemble working Try Site (Except Failure Unit) :=
  (Ensemble.start oneRoom fun i => (triedTwice i).service.run).play Site.answerLater
    (.replicate 5 (.intake, none, 0) ++ .replicate 10 (.earlier, none, 1) ++
      [(.earlier, some (.foreign .database "locked"), 1)] ++ .replicate 2 (.earlier, none, 1))

def takenLater : Ensemble working Try Site (Except Failure Unit) :=
  untaken.play Site.answerLater (.replicate 11 (.later, none, 1))

theorem reaches_playLater (moves : List (ι × Option Failure × Nat))
    (e : Ensemble working ι Site (Except Failure Unit)) :
    Ensemble.Reaches Site.around e (e.play Site.answerLater moves) :=
  Ensemble.reaches_play_of_drifts (fun way site => { site with clock := site.clock.later way.2 })
    (fun _ _ => rfl) (fun way c _ => Site.answered_answerBy way.1 c _) moves e

theorem takenLater_seen : takenLater.shared.catalogue.rows.map (fun r =>
    (r.status, r.processedAt, r.updatedAt)) =
      [(Status.completed.name, some ⟨10000000⟩, ⟨24000000⟩)] := by
  decide +kernel

theorem takenLater_tells : ∃ r ∈ takenLater.shared.catalogue.rows,
    r.status = Status.completed.name ∧ r.processedAt = some ⟨10000000⟩ ∧
      ∃ i found t, Completes (takenLater.threads i).past found t r ∧
        r.processedAt = some (found.processedAt.getD t) ∧
        Leftover (fun i => (takenLater.threads i).past) found := by
  obtain ⟨r, only, columns⟩ := List.map_eq_singleton_iff.mp takenLater_seen
  simp only [Prod.mk.injEq] at columns
  obtain ⟨completed, timed, -⟩ := columns
  have mem : r ∈ takenLater.shared.catalogue.rows := only ▸ List.mem_singleton_self r
  exact ⟨r, mem, completed, timed, (processedAt_tells_completion triedTwice oneRoom rfl takenLater
    ((reaches_playLater _ _).trans (reaches_playLater _ _)) r mem).1 completed⟩

theorem untaken_seen :
    untaken.shared.catalogue.rows.map (fun r => (r.status, r.processedAt)) =
      [(Status.failed.name, some ⟨10000000⟩)] := by
  decide +kernel

theorem untaken_keeps_time : ¬ ∀ e : Ensemble working Try Site (Except Failure Unit),
    Ensemble.Reaches Site.around (.start oneRoom fun i => (triedTwice i).service.run) e →
    ∀ r ∈ e.shared.catalogue.rows, r.processedAt ≠ none ↔ r.status = Status.completed.name := by
  intro claim
  obtain ⟨r, only, columns⟩ := List.map_eq_singleton_iff.mp untaken_seen
  obtain ⟨failed, timed⟩ := Prod.mk.inj columns
  have mem : r ∈ untaken.shared.catalogue.rows := only ▸ List.mem_singleton_self r
  have completed := (claim untaken (reaches_playLater _ _) r mem).mp (by simp [timed])
  rw [failed] at completed
  exact absurd completed (by decide)

end ImagePipeline.Workflow
