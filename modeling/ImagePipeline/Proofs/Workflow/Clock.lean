import ImagePipeline.Proofs.Workflow.Integrity
import ImagePipeline.Proofs.Workflow.Writing
import Mathlib.Order.Basic

namespace ImagePipeline

instance : Preorder Instant where
  le_refl a := Int.le_refl a.micros
  le_trans _ _ _ := Int.le_trans

theorem Instant.le_later (t : Instant) (seconds : Nat) : t ≤ t.later seconds := by
  change t.micros ≤ t.micros + (seconds : Int) * 1000000
  omega

@[simp] theorem WrittenTime.instant?_ofInstant (t : Instant) : (ofInstant t).instant? = some t := by
  simp [instant?, ofInstant]

/-- The record was created before it was changed, and processed in between. -/
structure Record.Ordered (r : Record) : Prop where
  changed : r.createdAt ≤ r.updatedAt
  processed : ∀ t, r.processedAt = some t → r.createdAt ≤ t ∧ t ≤ r.updatedAt

def Catalogue.Advances (table table' : Catalogue) : Prop :=
  ∀ r ∈ table.rows, ∀ r' ∈ table'.rows, r'.id = r.id →
    r'.createdAt = r.createdAt ∧ r.updatedAt ≤ r'.updatedAt

theorem Catalogue.Keyed.advances {table : Catalogue} (keyed : table.Keyed) : table.Advances table := by
  intro r mem r' mem' named
  rw [keyed.eq_of_id_eq mem' mem named]
  exact ⟨rfl, le_rfl⟩

theorem Catalogue.store_of_update {table table' : Catalogue} {draft : Draft} {row : Record}
    {now : Instant} (updated : table.update draft now = .ok (row, table')) :
    ∃ record, table.store record now = .ok (row, table') := by
  unfold update at updated
  cases found : table.find (draft.id.getD "") with
  | error cause => simp [found, bind, Except.bind] at updated
  | ok stored =>
      simp only [found, bind, Except.bind] at updated
      split at updated
      · cases updated
      · exact ⟨_, updated⟩

namespace Workflow

variable {ι : Type} {errands : ι → Errand} {site site' : Site} {table table' : Catalogue} {c : Call}
  {reply : working.Reply c} {r r' : Record} {clock now : Instant}

namespace Site

theorem append_clock (stream payload : String) :
    (site.append stream payload).2.clock = site.clock := by
  rcases site.append_eq stream payload with ⟨cause, faults, sent⟩ | ⟨faults, sent⟩ <;> rw [sent]

theorem aside_clock : Aside Site.clock := fun _ _ _ _ _ => rfl

theorem perform_clock (c : Call) : (perform c site).2.clock = site.clock := by
  cases publishes : c.publishes with
  | false => exact perform_keeps aside_clock c publishes
  | true =>
      cases c <;> cases publishes
      exact publish_keeps Site.clock (fun site stream payload => append_clock stream payload) _ _

theorem Responds.clock_eq (responds : site.Responds c reply site') : site'.clock = site.clock := by
  cases responds with
  | answered answered =>
      rcases answered with performed | ⟨failure, refused⟩
      · exact (congrArg (·.2.clock) performed).trans (perform_clock c)
      · exact (congrArg (·.2.clock) refused).trans (refuse_keeps aside_clock failure c)
  | _ => rfl

theorem Responds.now_eq (responds : site.Responds .now now site') : now = site.clock := by
  cases responds with
  | answered answered =>
      rcases answered with performed | ⟨failure, refused⟩
      · exact congrArg Prod.fst performed
      · exact congrArg Prod.fst refused

theorem updateDraft_eq (draft : Draft) :
    (∃ cause faults, site.updateDraft draft = (.error cause, { site with faults })) ∨
      ∃ faults, site.updateDraft draft =
        onTable (fun table => table.update draft site.clock) { site with faults } := by
  unfold updateDraft consult
  rcases FaultPlan.consult .update site.faults with ⟨_ | cause, faults⟩
  · exact .inr ⟨faults, rfl⟩
  · exact .inl ⟨cause, faults, rfl⟩

theorem updateDraft_cases (draft : Draft) :
    (site.updateDraft draft).2.catalogue = site.catalogue ∨ ∃ record row,
      site.catalogue.store record site.clock = .ok (row, (site.updateDraft draft).2.catalogue) := by
  rcases site.updateDraft_eq draft with ⟨cause, faults, updated⟩ | ⟨faults, updated⟩
  · rw [updated]
    exact .inl rfl
  · have paired : ((site.updateDraft draft).1, (site.updateDraft draft).2) = _ := updated
    rcases onTable_cases _ paired with ⟨row, -, change⟩ | ⟨failure, -, same⟩
    · obtain ⟨record, stored⟩ := Catalogue.store_of_update change
      exact .inr ⟨record, row, stored⟩
    · exact .inl same

/-- Only services change the table and the files, and the clock does not go back. -/
def ticking : Surroundings working Site where
  answers c site reply site' := site.Responds c reply site'
  drifts site site' := Site.guarded.drifts site site' ∧ site.clock ≤ site'.clock

end Site

theorem ticking_reaches_play [DecidableEq ι] (moves : List (ι × Option Failure × Nat))
    (e : Ensemble working ι Site (Except Failure Unit)) :
    Ensemble.Reaches Site.ticking e (e.play Site.answerLater moves) := by
  have drifts (way : Option Failure × Nat) (site : Site) :
      Site.ticking.drifts site { site with clock := site.clock.later way.2 } :=
    ⟨⟨rfl, rfl, rfl⟩, site.clock.le_later way.2⟩
  exact Ensemble.reaches_play_of_drifts _ drifts
    (fun way c _ => Site.responds_answerBy way.1 c _) moves e

theorem TableChange.eq_of_find {id : String} {reply : Except Failure Record}
    (change : TableChange table now (.find id) reply table') : table' = table := by
  cases change <;> rfl

theorem TableChange.advances (change : TableChange table clock c reply table') (keyed : table.Keyed)
    (before : ∀ r ∈ table.rows, r.updatedAt ≤ clock) : table.Advances table' := by
  intro r mem r' mem' named
  cases change.written keyed mem' with
  | kept among => exact keyed.advances r mem r' among named
  | created draft completed =>
      cases change with
      | apart silent => cases silent
      | created change =>
          have absent := (Catalogue.create_ok change).2.1
          rw [named, keyed.find?_of_mem mem] at absent
          cases absent
  | stored record old among stored same =>
      subst same
      obtain rfl := keyed.eq_of_id_eq among mem named
      exact ⟨rfl, before old mem⟩
  | claimed old among ready same =>
      subst same
      obtain rfl := keyed.eq_of_id_eq among mem named
      exact ⟨rfl, before old mem⟩

structure Current (table : Catalogue) (clock : Instant) (r : Record) : Prop where
  created : ∀ row ∈ table.rows, row.id = r.id → row.createdAt = r.createdAt
  past : r.createdAt ≤ clock
  processed : ∀ t, r.processedAt = some t → r.createdAt ≤ t ∧ t ≤ clock

theorem Current.of_row (ordered : r.Ordered) (keyed : table.Keyed) (mem : r ∈ table.rows)
    (past : r.updatedAt ≤ clock) : Current table clock r where
  created _ among named := congrArg Record.createdAt (keyed.eq_of_id_eq among mem named)
  past := ordered.changed.trans past
  processed t timed := (ordered.processed t timed).imp_right (·.trans past)

theorem Current.overwrite {old : Record} (current : Current table clock r) (mem : old ∈ table.rows)
    (named : old.id = r.id) : (Catalogue.overwrite old r clock).Ordered := by
  have created := current.created old mem named
  refine ⟨?_, fun t timed => ?_⟩
  · exact created ▸ current.past
  · have times := current.processed t timed
    exact ⟨created ▸ times.1, times.2⟩

structure Ages (event : Event working) (r r' : Record) : Prop where
  id : r'.id = r.id
  created : r'.createdAt = r.createdAt
  processed : r'.processedAt = r.processedAt ∨
    ∃ now, event = ⟨.now, now⟩ ∧ r'.processedAt = some (r.processedAt.getD now)

theorem Revision.ages {a : Activity} {event : Event working} (revision : Revision a event r r') :
    Ages event r r' := by
  cases revision with
  | completed result key now stage clock => exact ⟨rfl, rfl, .inr ⟨now, clock, rfl⟩⟩
  | _ => exact ⟨rfl, rfl, .inl rfl⟩

theorem Current.ages (current : Current table clock r) (ages : Ages ⟨c, reply⟩ r r')
    (now : ∀ now, (⟨c, reply⟩ : Event working) = ⟨.now, now⟩ → now = clock) :
    Current table clock r' where
  created row mem named := (current.created row mem (named.trans ages.id)).trans ages.created.symm
  past := ages.created ▸ current.past
  processed t timed := by
    rw [ages.created]
    rcases ages.processed with same | ⟨when_, event, marked⟩
    · exact current.processed t (same ▸ timed)
    · rw [marked] at timed
      cases before : r.processedAt with
      | some earlier =>
          rw [before] at timed
          exact current.processed t (before.trans timed)
      | none =>
          rw [before] at timed
          cases timed
          have here := now when_ event
          subst here
          exact ⟨current.past, le_rfl⟩

def Activity.Dated (clock : Instant) : Activity → Prop
  | .intake (.creating draft ..) => draft.processedAt = none ∧ ∃ t ≤ clock,
      draft.createdAt = some (.ofInstant t) ∧ draft.updatedAt = some (.ofInstant t)
  | _ => True

theorem Activity.Dated.later {a : Activity} (dated : a.Dated clock) (later : clock ≤ now) :
    a.Dated now := by
  cases a with
  | intake p =>
      cases p with
      | creating draft kind id key =>
          obtain ⟨unprocessed, t, past, times⟩ := dated
          exact ⟨unprocessed, t, past.trans later, times⟩
      | _ => trivial
  | _ => trivial

theorem Activity.Step.dated {a a' : Activity} (step : a.Step c reply a')
    (now : ∀ now, (⟨c, reply⟩ : Event working) = ⟨.now, now⟩ → now = clock) : a'.Dated clock := by
  cases step with
  | intake step =>
      cases step with
      | dated upload kind id key when_ => exact ⟨rfl, when_, (now when_ rfl).le, rfl, rfl⟩
      | _ => trivial
  | _ => trivial

theorem Activity.Dated.ordered {a : Activity} {draft : Draft} (dated : a.Dated clock)
    (allowed : a.call? = some (.create draft)) (completed : (draft.withUsual now).complete = .ok r) :
    r.Ordered ∧ r.updatedAt ≤ clock := by
  cases a with
  | peeking => cases allowed
  | attempt p => cases p <;> cases allowed
  | removal p => cases p <;> cases allowed
  | intake p =>
      cases p <;> cases allowed
      obtain ⟨unprocessed, t, past, created, changed⟩ := dated
      obtain ⟨created_, changed_, processed_⟩ := Draft.times_of_complete completed
      simp [Draft.withUsual, created] at created_
      simp [Draft.withUsual, changed] at changed_
      simp [Draft.withUsual, unprocessed] at processed_
      subst created_
      refine ⟨⟨changed_.le, fun when_ timed => ?_⟩, changed_ ▸ past⟩
      rw [processed_] at timed
      cases timed

structure Timely (v : View working ι Site Activity) : Prop where
  rows : ∀ r ∈ v.shared.catalogue.rows, r.Ordered ∧ r.updatedAt ≤ v.shared.clock
  records : ∀ i r, (v.stages i).record? = some r → Current v.shared.catalogue v.shared.clock r
  drafts : ∀ i, (v.stages i).Dated v.shared.clock

namespace Timely

variable {store : Asset.LocalStore} {v : View working ι Site Activity} {i j : ι} {a : Activity}

theorem rows_of_change (inv : Timely v) (keyed : v.shared.catalogue.Keyed)
    (allowed : (v.stages i).call? = some c)
    (change : TableChange v.shared.catalogue v.shared.clock c reply table) (mem : r ∈ table.rows) :
    r.Ordered ∧ r.updatedAt ≤ v.shared.clock := by
  cases change.written keyed mem with
  | kept mem => exact inv.rows r mem
  | created draft completed => exact (inv.drafts i).ordered allowed completed
  | stored record old among named same =>
      subst same
      have current := inv.records i record (Activity.record?_of_update allowed)
      exact ⟨current.overwrite among named, le_rfl⟩
  | claimed old among ready same =>
      subst same
      obtain ⟨ordered, past⟩ := inv.rows old among
      refine ⟨⟨ordered.changed.trans past, fun t timed => ?_⟩, le_rfl⟩
      exact (ordered.processed t timed).imp_right (·.trans past)

theorem current_of_change (inv : Timely v) (accounted : Accounted store errands v)
    (given : GivenOnce v.pasts) (allowed : (v.stages i).call? = some c)
    (step : TableStep v.shared.catalogue c reply table)
    (change : TableChange v.shared.catalogue v.shared.clock c reply table)
    (here : (v.stages j).record? = some r) : Current table v.shared.clock r := by
  have current := inv.records j r here
  refine ⟨fun row mem named => ?_, current.past, current.processed⟩
  cases change.written accounted.exclusive.keyed mem with
  | kept mem => exact current.created row mem named
  | stored record old among same changed =>
      subst changed
      exact current.created old among named
  | claimed old among ready changed =>
      subst changed
      exact current.created old among named
  | created draft completed =>
      obtain ⟨k, upload, origin, -⟩ := accounted.records j r here
      rw [← named] at origin
      exact absurd origin (accounted.not_origin_of_create given allowed step)

theorem drift (inv : Timely v) (drifted : Site.ticking.drifts v.shared site) :
    Timely { v with shared := site } := by
  obtain ⟨⟨same, -⟩, later⟩ := drifted
  refine ⟨fun r mem => ?_, fun i r here => ?_, fun i => (inv.drafts i).later later⟩
  · obtain ⟨ordered, past⟩ := inv.rows r (same ▸ mem)
    exact ⟨ordered, past.trans later⟩
  · obtain ⟨created, past, processed⟩ := inv.records i r here
    refine ⟨same ▸ created, past.trans later, fun t timed => ?_⟩
    exact (processed t timed).imp_right (·.trans later)

variable [DecidableEq ι]

theorem call (inv : Timely v) (accounted : Accounted store errands v) (given : GivenOnce v.pasts)
    (allowed : (v.stages i).call? = some c) (responds : v.shared.Responds c reply site)
    (step : (v.stages i).Step c reply a) : Timely (v.move i ⟨c, reply⟩ site a) := by
  have keyed := accounted.exclusive.keyed
  have change := responds.change
  have now : ∀ now, (⟨c, reply⟩ : Event working) = ⟨.now, now⟩ → now = v.shared.clock := by
    intro now event
    cases event
    exact responds.now_eq
  have current : ∀ j r, (v.stages j).record? = some r → Current site.catalogue v.shared.clock r :=
    fun j r here => inv.current_of_change accounted given allowed responds.step.table change here
  constructor
  case rows =>
    rw [View.move_shared, responds.clock_eq]
    exact fun r mem => inv.rows_of_change keyed allowed change mem
  case records =>
    rw [View.move_shared, responds.clock_eq]
    refine View.forall_move_stages (fun _ (stage : Activity) => ∀ r, stage.record? = some r →
      Current site.catalogue v.shared.clock r) ?_ fun j _ => current j
    intro r after
    rcases step.revision after with ⟨id, event⟩ | ⟨old, here, revision⟩
    · cases event
      have mem := responds.step.table.mem_of_found
      obtain ⟨ordered, past⟩ := inv.rows r mem
      exact change.eq_of_find ▸ .of_row ordered keyed mem past
    · exact (current i old here).ages revision.ages now
  case drafts =>
    rw [View.move_shared, responds.clock_eq]
    exact View.forall_move_stages (fun _ (stage : Activity) => stage.Dated v.shared.clock)
      (step.dated now) fun j _ => inv.drafts j

theorem preserves : Preserves Site.ticking acting
    fun v => GivenOnce v.pasts → Accounted store errands v ∧ Timely v where
  call v i c reply site inv allowed answered := by
    obtain ⟨a, step⟩ := (v.stages i).step_total allowed reply
    refine ⟨a, step, fun given => ?_⟩
    have before := given.of_suffix View.suffix_move_pasts
    obtain ⟨accounted, timely⟩ := inv before
    exact ⟨accounted.call before allowed answered.step step,
      timely.call accounted before allowed answered step⟩
  drift v site inv drifted given := (inv given).imp (·.drift drifted.1) (·.drift drifted)

end Timely

/-- In every table that errands side by side reach from an empty one while the clock never goes back,
every record was created before it was changed, and processed in between. No step from there, no update
whatever record or draft it is given, changes when a row was created or makes it changed earlier. -/
theorem times_ordered [DecidableEq ι] (errands : ι → Errand) (site : Site)
    (fresh : site.catalogue.rows = []) (e : Ensemble working ι Site (Except Failure Unit))
    (reached : Ensemble.Reaches Site.ticking (.start site fun i => (errands i).service.run) e)
    (given : GivenOnce fun i => (e.threads i).past) :
    (∀ r ∈ e.shared.catalogue.rows, r.createdAt ≤ r.updatedAt ∧
      ∀ t, r.processedAt = some t → r.createdAt ≤ t ∧ t ≤ r.updatedAt) ∧
    (∀ e', Ensemble.Step Site.ticking e e' → e.shared.catalogue.Advances e'.shared.catalogue) ∧
    (∀ record reply site', e.shared.Responds (.update record) reply site' →
      e.shared.catalogue.Advances site'.catalogue) ∧
    (∀ draft, e.shared.catalogue.Advances (e.shared.updateDraft draft).2.catalogue) := by
  have started : Ensemble.Kept acting
      (fun v => GivenOnce v.pasts → Accounted site.store errands v ∧ Timely v)
      (.start site fun i => (errands i).service.run) := by
    refine Ensemble.kept_start (fun i => (errands i).first) ?_ fun i => (errands i).follows
    have first (errand : Errand) : errand.first.record? = none ∧ errand.first.Dated site.clock := by
      cases errand with
      | chore work => cases work <;> exact ⟨rfl, trivial⟩
      | upload admission source =>
          refine ⟨rfl, ?_⟩
          change (Activity.intake (.first admission source)).Dated site.clock
          unfold Intake.first
          split <;> trivial
    refine fun _ => ⟨.start errands site fresh, ?_, fun i r here => ?_, fun i => (first (errands i)).2⟩
    · simp [fresh]
    · rw [(first (errands i)).1] at here
      cases here
  obtain ⟨stages, inv, -⟩ := Ensemble.kept_of_reaches Timely.preserves started reached
  obtain ⟨accounted, timely⟩ := inv given
  have keyed : e.shared.catalogue.Keyed := accounted.exclusive.keyed
  have before : ∀ r ∈ e.shared.catalogue.rows, r.updatedAt ≤ e.shared.clock :=
    fun r mem => (timely.rows r mem).2
  refine ⟨fun r mem => ?_, fun e' step => ?_, fun record reply site' responds => ?_, fun draft => ?_⟩
  · obtain ⟨⟨changed, processed⟩, -⟩ := timely.rows r mem
    exact ⟨changed, processed⟩
  · cases step with
    | call i c next reply waiting answered =>
        exact (Site.Responds.change answered).advances keyed before
    | drift drifted =>
        obtain ⟨⟨same, -⟩, -⟩ := drifted
        exact same ▸ keyed.advances
  · exact responds.change.advances keyed before
  · rcases e.shared.updateDraft_cases draft with same | ⟨record, row, stored⟩
    · exact same ▸ keyed.advances
    · exact (TableChange.stored stored).advances keyed before

def slowDot : Ensemble working Party Site (Except Failure Unit) :=
  (Ensemble.start oneRoom fun i => (party i).service.run).play Site.answerLater
    (.replicate 5 (.sender, none, 1) ++ .replicate 1 (.remover, none, 1) ++
      .replicate 12 (.worker, none, 1))

theorem slowDot_seen :
    slowDot.shared.catalogue.rows.map (fun r => (r.createdAt, r.processedAt, r.updatedAt)) =
      [(⟨3000000⟩, some ⟨16000000⟩, ⟨17000000⟩)] ∧
    issued (slowDot.threads .sender).past = [Site.idNumber 1] ∧
      issued (slowDot.threads .worker).past = [] ∧ issued (slowDot.threads .remover).past = [] := by
  decide +kernel

theorem slowDot_times_ordered :
    slowDot.shared.catalogue.rows.map (fun r => (r.createdAt, r.processedAt, r.updatedAt)) =
      [(⟨3000000⟩, some ⟨16000000⟩, ⟨17000000⟩)] ∧
    ∀ r ∈ slowDot.shared.catalogue.rows, r.createdAt ≤ r.updatedAt ∧
      ∀ t, r.processedAt = some t → r.createdAt ≤ t ∧ t ≤ r.updatedAt := by
  obtain ⟨times, once⟩ := slowDot_seen
  have reached : Ensemble.Reaches Site.ticking (.start oneRoom fun i => (party i).service.run) slowDot :=
    ticking_reaches_play _ _
  exact ⟨times, (times_ordered party oneRoom rfl slowDot reached (givenOnce_of_party once)).1⟩

end Workflow

end ImagePipeline
