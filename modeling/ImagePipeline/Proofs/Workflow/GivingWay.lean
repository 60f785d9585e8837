import ImagePipeline.Proofs.Workflow.Exclusion

namespace ImagePipeline

def Progress.Unfinished (p : Progress) : Prop :=
  p.status ∈ [Status.pending.name, Status.processing.name, Status.failed.name]

namespace Progress

theorem unfinished_of_ready {p : Progress} (ready : p.canBeProcessed = true) : p.Unfinished := by
  simp only [canBeProcessed, Bool.or_eq_true, beq_iff_eq] at ready
  rcases ready with pending | failed
  · simp [Unfinished, pending]
  · simp [Unfinished, failed]

theorem unfinished_of_processing {p : Progress} (processing : p.status = Status.processing.name) :
    p.Unfinished := by
  simp [Unfinished, processing]

theorem finished_of_completed {p : Progress} (completed : p.status = Status.completed.name) :
    ¬ p.Unfinished := by
  rw [Unfinished, completed]
  decide

theorem finished_of_unready {p : Progress} (unready : p.canBeProcessed = false)
    (idle : p.status ≠ Status.processing.name) : ¬ p.Unfinished := by
  simp only [canBeProcessed, Bool.or_eq_false_iff, beq_eq_false_iff_ne] at unready
  simp [Unfinished, unready.1, unready.2, idle]

end Progress

namespace Workflow

/-- The image is completed, or does not exist any more. -/
def Finished (table : Catalogue) (id : String) : Prop :=
  ∀ row, table.find? id = some row → ¬ row.Unfinished

variable {ι : Type} {table table' : Catalogue} {id : String} {c : Call} {reply : working.Reply c}

theorem Finished.act {holding : ι → Option String} {i : ι} {a : Activity}
    (finished : Finished table id) (inv : Exclusive table holding) (here : holding i = a.holding?)
    (allowed : a.call? = some c) (barren : ∀ draft, c ≠ .create draft)
    (change : TableStep table c reply table') : Finished table' id := by
  cases change.row inv.keyed id with
  | same kept => exact fun row found => finished row (kept ▸ found)
  | created draft => exact absurd rfl (barren draft)
  | claimed row now found ready => exact absurd (Progress.unfinished_of_ready ready) (finished row found)
  | deleted gone =>
      intro row found
      rw [gone] at found
      cases found
  | stored record old row named found =>
      -- who writes the row back holds the image, so the row would say that it is being processed
      have writer := here.trans (named ▸ a.holding?_of_update allowed)
      have processing := inv.marked i id old writer found
      exact absurd (Progress.unfinished_of_processing processing) (finished old found)

theorem Finished.delete {other : String} (finished : Finished table id)
    (deleted : table.delete other = .ok table') : Finished table' id := by
  intro row found
  by_cases same : id = other
  · subst same
    rw [Catalogue.find?_delete_self deleted] at found
    cases found
  · rw [Catalogue.find?_delete_of_ne deleted same] at found
    exact finished row found

theorem TableStep.finished {record row : Record}
    (change : TableStep table (.update record) (.ok row) table')
    (completed : record.status = Status.completed.name) : Finished table' record.id := by
  cases change with
  | apart silent => cases silent
  | stored now stored =>
      obtain ⟨old, -, overwritten, -⟩ := Catalogue.store_ok stored
      intro other found
      rw [Catalogue.find?_store_self stored] at found
      cases found
      rw [overwritten]
      exact Progress.finished_of_completed completed

def Fails (event : Event working) (cause : Failure) : Prop :=
  ∀ site, (Site.refuse cause event.request site).1 = event.reply

/-- The last call of a handler found that another one has the image, or one of its calls failed as if
there were no such image. -/
inductive GaveWay (id : String) : List (Event working) → Prop where
  | busy (record : Record) (earlier : List (Event working))
      (processing : record.status = Status.processing.name) :
      GaveWay id (⟨.find id, .ok record⟩ :: earlier)
  | outrun (cause : Failure) (earlier : List (Event working))
      (known : cause.isA .alreadyProcessing = true) : GaveWay id (⟨.claim id, .error cause⟩ :: earlier)
  | missing (event : Event working) (calls : List (Event working)) (cause : Failure)
      (mem : event ∈ calls) (fails : Fails event cause) (known : cause.isA .imageNotFound = true) :
      GaveWay id calls

def Blamed (calls : List (Event working)) (cause : Failure) : Prop :=
  ∃ event ∈ calls, Fails event cause

variable {calls : List (Event working)} {cause : Failure}

theorem Blamed.later (blamed : Blamed calls cause) (event : Event working) :
    Blamed (event :: calls) cause := by
  obtain ⟨earlier, mem, fails⟩ := blamed
  exact ⟨earlier, List.mem_cons_of_mem _ mem, fails⟩

theorem blamed_of_latest {event : Event working} (fails : Fails event cause) :
    Blamed (event :: calls) cause :=
  ⟨event, List.mem_cons_self, fails⟩

def Ending.Accounted (table : Catalogue) (calls : List (Event working)) (id : String) : Ending → Prop
  | completed _ => Finished table id
  | passedBy _ => Finished table id ∨ GaveWay id calls
  | outrun => GaveWay id calls
  | broken cause => Blamed calls cause

def Attempt.Accounted (table : Catalogue) (calls : List (Event working)) (id : String) :
    Attempt → Prop
  | storing completed => completed.status = Status.completed.name
  | failing _ _ cause => Blamed calls cause
  | reporting _ cause => Blamed calls cause
  | ended how => how.Accounted table calls id
  | _ => True

theorem Ending.Accounted.settled {how : Ending} (accounted : how.Accounted table calls id)
    (succeeds : how.outcome.toBool = true) : Finished table id ∨ GaveWay id calls := by
  cases how with
  | completed record => exact .inl accounted
  | passedBy record => exact accounted
  | outrun => exact .inr accounted
  | broken cause =>
      obtain ⟨event, mem, fails⟩ := accounted
      cases known : cause.isA .imageNotFound with
      | true => exact .inr (.missing event calls cause mem fails known)
      | false =>
          simp only [outcome, known, Bool.false_eq_true, if_false] at succeeds
          cases succeeds

theorem Ending.Accounted.mono {how : Ending} (accounted : how.Accounted table calls id)
    (stays : Finished table id → Finished table' id) : how.Accounted table' calls id := by
  cases how with
  | completed record => exact stays accounted
  | passedBy record => exact accounted.imp_left stays
  | outrun => exact accounted
  | broken cause => exact accounted

namespace Attempt

variable {p p' : Attempt}

theorem Accounted.mono (accounted : p.Accounted table calls id)
    (stays : Finished table id → Finished table' id) : p.Accounted table' calls id := by
  cases p with
  | ended how => exact Ending.Accounted.mono accounted stays
  | _ => exact accounted

theorem accounted_afterFailure {record : Record} {what : String} {expected : Failure → Bool}
    (blamed : Blamed calls cause) :
    (afterFailure record what expected cause).Accounted table calls id := by
  unfold afterFailure
  split
  · exact blamed
  · exact blamed

theorem Step.accounted (step : Step p c reply p') (accounted : p.Accounted table calls id)
    (about : ∀ other, p.image? = some other → other = id) (change : TableStep table c reply table') :
    p'.Accounted table' (⟨c, reply⟩ :: calls) id := by
  cases step with
  | found looked record =>
      obtain rfl := about looked rfl
      cases ready : record.canBeProcessed with
      | true => trivial
      | false =>
          by_cases processing : record.status = Status.processing.name
          · exact .inr (.busy record calls processing)
          · cases change with
            | apart silent => cases silent
            | found holds =>
                left
                intro row found
                rw [holds] at found
                cases found
                exact Progress.finished_of_unready ready processing
  | refused record cause =>
      cases known : cause.isA .alreadyProcessing with
      | true =>
          obtain rfl := about record.id rfl
          exact .outrun cause calls known
      | false => exact blamed_of_latest fun _ => rfl
  | finished => rfl
  | stored completed row =>
      obtain rfl := about completed.id rfl
      exact change.finished accounted
  | stamped => exact accounted.later _
  | reported => exact accounted.later _
  | notReported failed cause trouble =>
      change Blamed _ (if isTableTrouble trouble then cause else trouble)
      split
      · exact accounted.later _
      · exact blamed_of_latest fun _ => rfl
  | notFound => exact blamed_of_latest fun _ => rfl
  | notOpened => exact accounted_afterFailure (blamed_of_latest fun _ => rfl)
  | notRead => exact accounted_afterFailure (blamed_of_latest fun _ => rfl)
  | notDecoded => exact accounted_afterFailure (blamed_of_latest fun _ => rfl)
  | notProcessed => exact accounted_afterFailure (blamed_of_latest fun _ => rfl)
  | notEncoded => exact accounted_afterFailure (blamed_of_latest fun _ => rfl)
  | notSaved => exact accounted_afterFailure (blamed_of_latest fun _ => rfl)
  | notStored => exact accounted_afterFailure (blamed_of_latest fun _ => rfl)
  | _ => trivial

end Attempt

end Workflow

end ImagePipeline
