import ImagePipeline.Proofs.Workflow.Errand
import ImagePipeline.Proofs.Workflow.Interleaving

namespace ImagePipeline

/-- A result goes with completion only, and a reason that is not empty with failure only. -/
def Progress.Consistent (p : Progress) : Prop :=
  (if p.status = Status.completed.name
    then p.processedPath ≠ none ∧ p.width ≠ none ∧ p.height ≠ none
    else p.processedPath = none ∧ p.width = none ∧ p.height = none) ∧
  (if p.status = Status.failed.name
    then ∃ reason, p.errorMessage = some reason ∧ reason ≠ ""
    else p.errorMessage = none)

namespace Progress

theorem consistent_complete (p : Progress) (path : String) (width height : Int) (now : Instant) :
    (p.complete (some path) (some width) (some height) now).Consistent := by
  simp [Consistent, complete, Status.name]

theorem consistent_fail (p : Progress) {reason : String} (given : reason ≠ "") (now : Instant) :
    (p.fail (some reason) now).Consistent := by
  simp [Consistent, fail, Status.name, given]

theorem Consistent.noResult {p : Progress} (consistent : p.Consistent)
    (ready : p.canBeProcessed = true) :
    p.processedPath = none ∧ p.width = none ∧ p.height = none := by
  have other : p.status ≠ Status.completed.name := by
    intro completed
    rw [canBeProcessed, completed] at ready
    exact absurd ready (by decide)
  have result := consistent.1
  rwa [if_neg other] at result

end Progress

theorem Record.consistent_claimedAt {r : Record} (consistent : r.Consistent)
    (ready : r.canBeProcessed = true) (now : Instant) : (r.claimedAt now).Consistent := by
  simp [Progress.Consistent, claimedAt, Status.name, consistent.noResult ready]

structure Draft.Pending (d : Draft) : Prop where
  status : d.status = some Status.pending.name
  noResult : d.processedPath = none ∧ d.width = none ∧ d.height = none
  noReason : d.errorMessage = none

theorem Draft.Pending.consistent_complete {d : Draft} {row : Record} {now : Instant}
    (pending : d.Pending) (completed : (d.withUsual now).complete = .ok row) :
    row.toProgress.Consistent := by
  obtain ⟨status, path, width, height, reason⟩ := Draft.complete_ok completed
  have isPending : row.status = Status.pending.name := by
    simpa [Draft.withUsual, pending.status] using status.symm
  obtain ⟨noPath, noWidth, noHeight⟩ := pending.noResult
  have noReason := pending.noReason
  simp [Progress.Consistent, isPending, path, width, height, reason, Draft.withUsual, noPath, noWidth,
    noHeight, noReason, Status.name]

namespace Catalogue

variable {table table' : Catalogue} {id : String} {r row : Record} {d : Draft} {now : Instant}

def Consistent (table : Catalogue) : Prop := ∀ r ∈ table.rows, r.toProgress.Consistent

theorem consistent_modify {change : Record → Record} (consistent : table.Consistent)
    (changed : ∀ r ∈ table.rows, r.id = id → (change r).toProgress.Consistent) :
    (table.modify id change).Consistent := by
  intro r mem
  obtain ⟨old, among, rfl⟩ := List.mem_map.mp mem
  by_cases named : old.id = id
  · simpa [named] using changed old among named
  · simpa [named] using consistent old among

theorem consistent_create (consistent : table.Consistent) (pending : d.Pending)
    (created : table.create d now = .ok (row, table')) : table'.Consistent := by
  obtain ⟨completed, -, rfl⟩ := create_ok created
  intro r mem
  rcases List.mem_append.mp mem with old | new
  · exact consistent r old
  · rw [List.mem_singleton.mp new]
    exact pending.consistent_complete completed

theorem consistent_store (consistent : table.Consistent) (written : r.toProgress.Consistent)
    (stored : table.store r now = .ok (row, table')) : table'.Consistent := by
  obtain ⟨old, -, -, rfl⟩ := store_ok stored
  exact consistent_modify consistent fun _ _ _ => written

theorem consistent_delete (consistent : table.Consistent)
    (deleted : table.delete id = .ok table') : table'.Consistent := by
  rw [delete_ok deleted]
  exact fun r mem => consistent r (List.mem_of_mem_filter mem)

theorem consistent_claim (keyed : table.Keyed) (consistent : table.Consistent)
    (claimed : table.claim id now = .ok table') : table'.Consistent := by
  obtain ⟨r, found, ready, rfl⟩ := claim_ok keyed claimed
  apply consistent_modify consistent
  intro other among named
  obtain rfl := keyed.eq_of_id_eq among (mem_of_find? found) (named.trans (id_of_find? found).symm)
  exact Record.consistent_claimedAt (consistent other among) ready now

end Catalogue

namespace Workflow

variable {ι : Type} {errands : ι → Errand}

def Activity.Fit : Activity → Prop
  | attempt (.storing completed) => completed.toProgress.Consistent
  | attempt (.failing _ message _) => message ≠ ""
  | attempt (.reporting failed _) => failed.toProgress.Consistent
  | intake (.creating draft ..) => draft.Pending
  | _ => True

theorem fit_afterFailure (record : Record) (what : String) (expected : Failure → Bool)
    (cause : Failure) : (Activity.attempt (.afterFailure record what expected cause)).Fit := by
  unfold Attempt.afterFailure
  split
  · intro empty
    have length := congrArg String.length empty
    simp at length
  · trivial

variable {a a' : Activity} {c : Call} {reply : working.Reply c}

theorem Activity.Step.fit (step : a.Step c reply a') (fit : a.Fit) : a'.Fit := by
  cases step with
  | peeked => trivial
  | notPeeked => trivial
  | removal => trivial
  | intake step =>
      cases step with
      | dated upload kind id key now => exact ⟨rfl, ⟨rfl, rfl, rfl⟩, rfl⟩
      | _ => trivial
  | attempt step =>
      cases step with
      | found id record => split <;> trivial
      | refused record cause => split <;> trivial
      | finished record result key now => exact record.consistent_complete key _ _ now
      | stamped record message cause now => exact record.consistent_fail fit now
      | notOpened => exact fit_afterFailure ..
      | notRead => exact fit_afterFailure ..
      | notDecoded => exact fit_afterFailure ..
      | notProcessed => exact fit_afterFailure ..
      | notEncoded => exact fit_afterFailure ..
      | notSaved => exact fit_afterFailure ..
      | notStored => exact fit_afterFailure ..
      | _ => trivial

theorem Activity.Fit.update {record : Record} (fit : a.Fit)
    (allowed : a.call? = some (.update record)) : record.toProgress.Consistent := by
  cases a with
  | peeking => cases allowed
  | removal p => cases p <;> cases allowed
  | intake p => cases p <;> cases allowed
  | attempt p => cases p <;> cases allowed <;> exact fit

theorem Activity.Fit.create {draft : Draft} (fit : a.Fit)
    (allowed : a.call? = some (.create draft)) : draft.Pending := by
  cases a with
  | peeking => cases allowed
  | removal p => cases p <;> cases allowed
  | attempt p => cases p <;> cases allowed
  | intake p =>
      cases p <;> cases allowed
      exact fit

theorem Errand.fit_first (errand : Errand) : errand.first.Fit := by
  cases errand with
  | chore work => cases work <;> trivial
  | upload admission source =>
      change (Activity.intake (.first admission source)).Fit
      unfold Intake.first
      split <;> trivial

structure Sound (v : View working ι Site Activity) : Prop where
  keyed : v.shared.catalogue.Keyed
  rows : v.shared.catalogue.Consistent
  fit : ∀ i, (v.stages i).Fit

theorem Sound.drift {v : View working ι Site Activity} {site : Site} (inv : Sound v)
    (same : site.catalogue = v.shared.catalogue) : Sound { v with shared := site } :=
  ⟨same ▸ inv.keyed, same ▸ inv.rows, inv.fit⟩

theorem TableStep.consistent {table table' : Catalogue} (step : TableStep table c reply table')
    (keyed : table.Keyed) (consistent : table.Consistent) (fit : a.Fit)
    (allowed : a.call? = some c) : table'.Consistent := by
  cases step with
  | found => exact consistent
  | apart => exact consistent
  | created now change => exact Catalogue.consistent_create consistent (fit.create allowed) change
  | stored now change => exact Catalogue.consistent_store consistent (fit.update allowed) change
  | deleted change => exact Catalogue.consistent_delete consistent change
  | claimed now change => exact Catalogue.consistent_claim keyed consistent change

variable [DecidableEq ι]

theorem Sound.call {v : View working ι Site Activity} {i : ι} {site : Site} (inv : Sound v)
    (allowed : (v.stages i).call? = some c) (table : TableStep v.shared.catalogue c reply site.catalogue)
    (step : (v.stages i).Step c reply a) : Sound (v.move i ⟨c, reply⟩ site a) where
  keyed := table.keyed inv.keyed
  rows := table.consistent inv.keyed inv.rows (inv.fit i) allowed
  fit := View.forall_move_stages (fun _ (stage : Activity) => stage.Fit) (step.fit (inv.fit i))
    fun j _ => inv.fit j

theorem preserves_sound : Preserves Site.around acting (Sound (ι := ι)) where
  call v i c reply site inv allowed answered := by
    obtain ⟨a, step⟩ := (v.stages i).step_total allowed reply
    exact ⟨a, step, inv.call allowed (tableStep_of_answered answered) step⟩
  drift v site inv same := inv.drift same

/-- In every table that errands side by side reach from a consistent one, every record is consistent. -/
theorem records_consistent (errands : ι → Errand) (site : Site) (keyed : site.catalogue.Keyed)
    (consistent : site.catalogue.Consistent) (e : Ensemble working ι Site (Except Failure Unit))
    (reached : Ensemble.Reaches Site.around
      (.start site fun i => (errands i).service.run) e) :
    ∀ r ∈ e.shared.catalogue.rows, r.toProgress.Consistent := by
  have kept : e.Kept acting Sound := by
    apply Ensemble.kept_of_reaches preserves_sound _ reached
    refine Ensemble.kept_start (fun i => (errands i).first) ?_ fun i => (errands i).follows
    exact ⟨keyed, consistent, fun i => (errands i).fit_first⟩
  obtain ⟨_, inv, -⟩ := kept
  exact inv.rows

def errandsOfOne : Fin 3 → Errand
  | 0 => .chore (.handle "a")
  | 1 => .chore (.process "a")
  | 2 => .chore (.remove "b")

def retried : Site := .stocked
  [{ (default : Record) with
      id := "a"
      status := Status.failed.name
      errorMessage := some "decoding failed" }]

def claimedAgain : Ensemble working (Fin 3) Site (Except Failure Unit) :=
  (Ensemble.start retried fun i => (errandsOfOne i).service.run).play Site.answerBy
    [(1, none), (0, none), (2, none), (0, none), (0, none), (0, none),
      (0, some (.app .storageFailed none)), (0, none), (0, none), (1, none)]

theorem consistent_retried : retried.catalogue.Consistent := by
  intro r mem
  obtain rfl := List.mem_singleton.mp mem
  exact ⟨⟨rfl, rfl, rfl⟩, "decoding failed", rfl, by decide⟩

theorem claimedAgain_consistent :
    claimedAgain.shared.catalogue.rows.map (·.status) = [Status.processing.name] ∧
      ∀ r ∈ claimedAgain.shared.catalogue.rows, r.toProgress.Consistent :=
  ⟨rfl, records_consistent errandsOfOne retried (by decide) consistent_retried claimedAgain
    (Ensemble.reaches_play Site.answered_answerBy _ _)⟩

end Workflow

end ImagePipeline
