import ImagePipeline.Proofs.Workflow.Duty
import ImagePipeline.Proofs.Workflow.GivingWay
/-!
# Which tasks are lost

Any number of workers of one group take entries off one queue. An entry that was given out and is not
acknowledged may be given out again at any time, also while the worker that got it first is at work.
The task of an image that is not finished is then off the queue exactly if a worker acknowledged it
after giving way to another one (`lost_iff_givenUp`): what it gave way to may still fail, or may have
failed to write down that it failed.
-/

namespace ImagePipeline.Workflow

open Queue (ConsumeRequest Consumer Genuine)

/-! ## The queue between workers -/

def Shift.Served : (r : ConsumeRequest) → Queue.consuming.Reply r → Shift → Shift → Prop
  | .claim stream _ _ _, .ok entries, shift, after => after = shift ∧
      ∀ entry ∈ entries, ⟨entry, stream⟩ ∈ shift.site.queue ∧ (stream, entry.id) ∈ shift.delivered
  | .read _ _ streams _, .ok answer, shift, after => after.site = shift.site ∧
      after.delivered =
        (answer.flatMap fun batch => batch.2.map fun entry => (batch.1, entry.id)) ++
          shift.delivered ∧
      ∀ batch ∈ answer, batch.1 ∈ streams ∧ ∀ entry ∈ batch.2,
        ⟨entry, batch.1⟩ ∈ shift.site.queue ∧ (batch.1, entry.id) ∉ shift.delivered
  | .acknowledge stream _ id, .ok _, shift, after => after = { shift with
      site := shift.site.acknowledge stream id
      acknowledged := shift.acknowledged ++ [id] }
  | _, _, shift, after => after = shift

/-- Besides what workers do, images may be removed, and entries may be given out to workers that are
gone. Nothing else happens to the table and the queue. -/
def Shift.around : Surroundings onDuty Shift where
  answers
    | .inl r, shift, reply, after => Shift.Served r reply shift after
    | .inr c, shift, reply, after =>
      ∃ site, shift.site.Answered c reply site ∧ after = { shift with site }
  drifts shift after := after.site.queue = shift.site.queue ∧ shift.delivered ⊆ after.delivered ∧
    (after.site.catalogue = shift.site.catalogue ∨
      ∃ id, shift.site.catalogue.delete id = .ok after.site.catalogue)

namespace Shift.Served

variable {shift after : Shift} {r : ConsumeRequest} {reply : Queue.consuming.Reply r}

theorem site (served : Shift.Served r reply shift after) :
    after.site = shift.site ∨ ∃ stream group id, (⟨.inl r, reply⟩ : Event onDuty) =
      ⟨.inl (.acknowledge stream group id), .ok ()⟩ ∧
        after.site = shift.site.acknowledge stream id := by
  cases r with
  | claim stream group consumer idle =>
      cases reply with
      | ok entries => exact .inl (congrArg Shift.site served.1)
      | error cause => exact .inl (congrArg Shift.site served)
  | read group consumer streams block =>
      cases reply with
      | ok answer => exact .inl served.1
      | error cause => exact .inl (congrArg Shift.site served)
  | acknowledge stream group id =>
      cases reply with
      | ok _ => exact .inr ⟨stream, group, id, rfl, congrArg Shift.site served⟩
      | error cause => exact .inl (congrArg Shift.site served)
  | _ => exact .inl (congrArg Shift.site served)

theorem catalogue (served : Shift.Served r reply shift after) :
    after.site.catalogue = shift.site.catalogue := by
  rcases served.site with same | ⟨stream, group, id, -, acknowledged⟩
  · rw [same]
  · rw [acknowledged]
    rfl

theorem queue (served : Shift.Served r reply shift after) :
    after.site.queue = shift.site.queue ∨
      ∃ stream group id, (⟨.inl r, reply⟩ : Event onDuty) =
        ⟨.inl (.acknowledge stream group id), .ok ()⟩ ∧
        after.site.queue = shift.site.queue.filter fun entry => entry.place != (stream, id) := by
  rcases served.site with same | ⟨stream, group, id, event, acknowledged⟩
  · exact .inl (congrArg Site.queue same)
  · exact .inr ⟨stream, group, id, event, congrArg Site.queue acknowledged⟩

theorem acknowledged {stream group id : String}
    (served : Shift.Served (.acknowledge stream group id) (.ok ()) shift after) :
    ∀ entry ∈ after.site.queue, entry.place ≠ (stream, id) := by
  intro entry mem
  rw [show after.site = shift.site.acknowledge stream id from congrArg Shift.site served] at mem
  exact bne_iff_ne.mp (List.mem_filter.mp mem).2

theorem genuine (served : Shift.Served r reply shift after) {published : String → Queue.Entry → Prop}
    (known : ∀ entry ∈ shift.site.queue, published entry.stream entry.toEntry) :
    Genuine published r reply := by
  cases r with
  | claim stream group consumer idle =>
      cases reply with
      | ok entries => exact fun entry mem => known _ (served.2 entry mem).1
      | error cause => trivial
  | read group consumer streams block =>
      cases reply with
      | ok answer =>
          exact fun batch among entry mem => known _ ((served.2.2 batch among).2 entry mem).1
      | error cause => trivial
  | _ => trivial

end Shift.Served

/-! ## Schedules -/

def Shift.serve : (r : ConsumeRequest) → Shift → Queue.consuming.Reply r × Shift
  | .claim stream _ _ _, shift =>
    let idle := shift.site.queue.filter fun entry =>
      entry.stream == stream && shift.delivered.contains entry.place
    (.ok (idle.map (·.toEntry)), shift)
  | .handle _, shift => (.ok (), shift)
  | r, shift => shift.answer r

def Shift.answerBy (way : Option Failure) : (r : onDuty.Request) → Shift → onDuty.Reply r × Shift :=
  Script.answerBoth Shift.serve fun c shift =>
    let answered := Site.answerBy way c shift.site
    (answered.1, { shift with site := answered.2 })

theorem Shift.next?_some {streams : List String} {shift : Shift} {entry : QueuedEntry}
    (next : shift.next? streams = some entry) :
    entry ∈ shift.site.queue ∧ entry.stream ∈ streams ∧ entry.place ∉ shift.delivered := by
  unfold Shift.next? at next
  have chosen := List.find?_some next
  simp only [List.contains_eq_mem, Bool.and_eq_true, decide_eq_true_eq, Bool.not_eq_true',
    decide_eq_false_iff_not] at chosen
  exact ⟨List.mem_of_find?_eq_some next, chosen⟩

theorem Shift.served_serve (r : ConsumeRequest) (shift : Shift) :
    Shift.Served r (shift.serve r).1 shift (shift.serve r).2 := by
  cases r with
  | claim stream group consumer idle =>
      refine ⟨rfl, fun entry mem => ?_⟩
      obtain ⟨queued, among, rfl⟩ := List.mem_map.mp mem
      obtain ⟨waiting, idle⟩ := List.mem_filter.mp among
      obtain ⟨here, given⟩ := Bool.and_eq_true_iff.mp idle
      obtain rfl := eq_of_beq here
      exact ⟨waiting, List.contains_iff_mem.mp given⟩
  | read group consumer streams block =>
      cases next : shift.next? streams with
      | none =>
          have nothing : shift.serve (.read group consumer streams block) =
              (.ok [], { shift with stopping := true }) := by
            simp only [serve, answer, next]
          rw [nothing]
          exact ⟨rfl, rfl, fun _ mem => absurd mem List.not_mem_nil⟩
      | some entry =>
          have given : shift.serve (.read group consumer streams block) =
              (.ok [(entry.stream, [entry.toEntry])],
                { shift with delivered := entry.place :: shift.delivered }) := by
            simp only [serve, answer, next]
          rw [given]
          obtain ⟨waiting, wanted, fresh⟩ := Shift.next?_some next
          refine ⟨rfl, rfl, fun batch mem => ?_⟩
          obtain rfl := List.mem_singleton.mp mem
          refine ⟨wanted, fun one mem => ?_⟩
          obtain rfl := List.mem_singleton.mp mem
          exact ⟨waiting, fresh⟩
  | _ => rfl

theorem Shift.answered_answerBy (way : Option Failure) (r : onDuty.Request) (shift : Shift) :
    Shift.around.answers r shift (answerBy way r shift).1 (answerBy way r shift).2 := by
  cases r with
  | inl r => exact shift.served_serve r
  | inr c => exact ⟨_, Site.answered_answerBy way c shift.site, rfl⟩

/-! ## Calls of a handler -/

namespace Site

variable {site : Site}

theorem onFiles_queue {α : Type} (operation : Asset.OnFiles α) :
    (site.onFiles operation).2.queue = site.queue := rfl

theorem onTable_queue {α : Type} (change : Catalogue → Except Failure (α × Catalogue)) :
    (site.onTable change).2.queue = site.queue := by
  unfold onTable
  split <;> rfl

theorem refuse_queue (failure : Failure) (c : Call) : (refuse failure c site).2.queue = site.queue := by
  cases c <;> rfl

end Site

theorem Chore.Does.queue {id : String} {a : Activity} {c : Call} {site after : Site}
    {reply : working.Reply c} (does : (Chore.handle id).Does a) (allowed : a.call? = some c)
    (answered : site.Answered c reply after) : after.queue = site.queue := by
  rcases answered with performed | ⟨failure, refused⟩
  · rw [show after = (Site.perform c site).2 from congrArg Prod.snd performed]
    cases a with
    | peeking => cases allowed; rfl
    | intake => exact does.elim
    | removal p =>
        cases p with
        | ended => cases allowed
        | looking other => cases does other rfl
        | clearing other record => cases does other rfl
        | deleting other => cases does other rfl
    | attempt p =>
        cases p <;> cases allowed
        case opening.refl => rw [Site.perform, Site.onFiles_queue]
        case saving.refl => rw [Site.perform, Site.onFiles_queue]
        case claiming.refl => rw [Site.perform, Site.onTable_queue]
        case storing.refl => rw [Site.perform, Site.onTable_queue]
        case reporting.refl => rw [Site.perform, Site.onTable_queue]
        all_goals rfl
  · rw [show after = (Site.refuse failure c site).2 from congrArg Prod.snd refused]
    exact Site.refuse_queue failure c

/-! ## What a worker answers for -/

def sinceQueue : List (Event onDuty) → List (Event working)
  | ⟨.inr c, reply⟩ :: past => ⟨c, reply⟩ :: sinceQueue past
  | _ => []

/-- The worker acknowledged the entry right after its handler gave way. -/
def GivenUp (entry : QueuedEntry) (image : String) (past : List (Event onDuty)) : Prop :=
  ∃ group earlier,
    ⟨.inl (.acknowledge entry.stream group entry.id), .ok ()⟩ :: earlier <:+ past ∧
      GaveWay image (sinceQueue earlier)

theorem GivenUp.mono {entry : QueuedEntry} {image : String} {past longer : List (Event onDuty)}
    (givenUp : GivenUp entry image past) (since : past <:+ longer) :
    GivenUp entry image longer := by
  obtain ⟨group, earlier, suffix, gaveWay⟩ := givenUp
  exact ⟨group, earlier, suffix.trans since, gaveWay⟩

def Duty.Accounted (table : Catalogue) (calls : List (Event working)) : Duty → Prop
  | waiting => True
  | handling id a => (Chore.handle id).Does a ∧ ∀ p, a = .attempt p → p.Accounted table calls id

namespace Duty

variable {table table' : Catalogue} {calls : List (Event working)} {d : Duty} {id : String} {c : Call}

theorem Accounted.mono (accounted : d.Accounted table calls)
    (stays : ∀ id, Finished table id → Finished table' id) : d.Accounted table' calls := by
  cases d with
  | waiting => trivial
  | handling id a => exact ⟨accounted.1, fun p same => (accounted.2 p same).mono (stays id)⟩

theorem Accounted.settled (accounted : d.Accounted table calls) (handled : d.handled? = some id) :
    Finished table id ∨ GaveWay id calls := by
  cases d with
  | waiting => cases handled
  | handling other a =>
      cases a with
      | attempt p =>
          cases p with
          | ended how =>
              change (if how.outcome.toBool then some other else none) = some id at handled
              split at handled
              · cases handled
                exact (accounted.2 _ rfl).settled (by assumption)
              · cases handled
          | _ => cases handled
      | _ => cases handled

theorem accounted_step {a a' : Activity} {reply : working.Reply c}
    (accounted : (handling id a).Accounted table calls) (step : a.Step c reply a')
    (change : TableStep table c reply table') :
    (handling id a').Accounted table' (⟨c, reply⟩ :: calls) := by
  refine ⟨accounted.1.step step change.honest, ?_⟩
  rintro p' rfl
  cases step with
  | peeked => trivial
  | notPeeked id cause => exact blamed_of_latest fun _ => rfl
  | attempt step =>
      refine step.accounted (accounted.2 _ rfl) (fun other same => ?_) change
      rcases accounted.1 other same with process | handle
      · cases process
      · cases handle
        rfl

theorem accounted_peeking : (handling id (.peeking id)).Accounted table calls :=
  ⟨rfl, fun p same => by cases same⟩

theorem May.resumes {published : String → Queue.Entry → Prop} (may : d.May published (.inr c))
    (accounted : d.Accounted table calls) :
    ∃ id a, a.call? = some c ∧ d.holding? = a.holding? ∧ (handling id a).Accounted table calls ∧
      ∀ reply a', a.Step c reply a' →
        (serving published).moves d (.inr c) reply (.handling id a') := by
  rcases may with ⟨free, id, rfl⟩ | ⟨id, a, rfl, allowed⟩
  · refine ⟨id, .peeking id, rfl, holding?_of_free free, accounted_peeking, fun reply a' step => ?_⟩
    exact .begun d id reply a' free step
  · exact ⟨id, a, allowed, rfl, accounted, fun reply a' step => .worked id a c reply a' allowed step⟩

end Duty

/-! ## All workers -/

variable {ι : Type} {published : List QueuedEntry}

/-- Every entry that was published and holds a task is still on the queue, or it is accounted for. -/
structure Guarded (published : List QueuedEntry) (v : View onDuty ι Shift Duty) : Prop where
  exclusive : Exclusive v.shared.site.catalogue fun i => (v.stages i).holding?
  queued : ∀ entry ∈ v.shared.site.queue, entry ∈ published
  accounted : ∀ i, (v.stages i).Accounted v.shared.site.catalogue (sinceQueue (v.pasts i))
  acknowledged : ∀ i stream group id, ⟨.inl (.acknowledge stream group id), .ok ()⟩ ∈ v.pasts i →
    ∀ entry ∈ v.shared.site.queue, entry.place ≠ (stream, id)
  kept : ∀ entry ∈ published, ∀ task, entry.task = .ok task → entry ∈ v.shared.site.queue ∨
    Finished v.shared.site.catalogue task.imageId ∨ ∃ i, GivenUp entry task.imageId (v.pasts i)

def among (published : List QueuedEntry) (stream : String) (entry : Queue.Entry) : Prop :=
  ⟨entry, stream⟩ ∈ published

namespace Guarded

variable {v : View onDuty ι Shift Duty} {shift : Shift} {i : ι}

theorem givenUp_of_move [DecidableEq ι] {entry : QueuedEntry} {image : String} {event : Event onDuty}
    {d : Duty} (givenUp : ∃ j, GivenUp entry image (v.pasts j)) :
    ∃ j, GivenUp entry image ((v.move i event shift d).pasts j) := by
  obtain ⟨j, givenUp⟩ := givenUp
  exact ⟨j, givenUp.mono (View.suffix_move_pasts j)⟩

theorem drift (inv : Guarded published v) (drifted : Shift.around.drifts v.shared shift) :
    Guarded published { v with shared := shift } := by
  obtain ⟨queue, -, change⟩ := drifted
  have stays (id : String) (finished : Finished v.shared.site.catalogue id) :
      Finished shift.site.catalogue id := by
    rcases change with same | ⟨other, deleted⟩
    · exact same.symm ▸ finished
    · exact finished.delete deleted
  constructor
  case exclusive =>
    rcases change with same | ⟨other, deleted⟩
    · exact same.symm ▸ inv.exclusive
    · exact inv.exclusive.delete deleted
  case queued => exact fun entry mem => inv.queued entry (queue ▸ mem)
  case accounted => exact fun j => (inv.accounted j).mono stays
  case acknowledged =>
    exact fun j stream group id mem entry among =>
      inv.acknowledged j stream group id mem entry (queue ▸ among)
  case kept =>
    intro entry mem task holds
    rcases inv.kept entry mem task holds with waiting | finished | givenUp
    · exact .inl (queue.symm ▸ waiting)
    · exact .inr (.inl (stays _ finished))
    · exact .inr (.inr givenUp)

variable [DecidableEq ι]

theorem call {c : Call} {reply : working.Reply c} {site : Site} (inv : Guarded published v)
    (may : (v.stages i).May (among published) (.inr c))
    (answered : v.shared.site.Answered c reply site) :
    ∃ d, (serving (among published)).moves (v.stages i) (.inr c) reply d ∧
      Guarded published (v.move i ⟨.inr c, reply⟩ { v.shared with site } d) := by
  obtain ⟨id, a, allowed, here, accounted, moves⟩ := may.resumes (inv.accounted i)
  obtain ⟨a', step⟩ := a.step_total allowed reply
  have change := tableStep_of_answered answered
  have barren := accounted.1.creates_nothing allowed
  have queue := accounted.1.queue allowed answered
  have stays (other : String) (finished : Finished v.shared.site.catalogue other) :
      Finished site.catalogue other :=
    finished.act inv.exclusive here allowed barren change
  refine ⟨.handling id a', moves reply a' step, ?_⟩
  constructor
  case exclusive =>
    rw [View.map_move_stages]
    exact inv.exclusive.act here allowed barren step change
  case queued => exact fun entry mem => inv.queued entry (queue ▸ mem)
  case accounted =>
    apply View.forall_move fun _ d past => Duty.Accounted site.catalogue (sinceQueue past) d
    · exact Duty.accounted_step accounted step change
    · exact fun j _ => (inv.accounted j).mono stays
  case acknowledged =>
    intro j stream group other mem entry among
    rw [show (v.move i ⟨.inr c, reply⟩ { v.shared with site } (.handling id a')).shared.site.queue =
      v.shared.site.queue from queue] at among
    rcases View.mem_move_pasts mem with ⟨-, latest⟩ | earlier
    · cases latest
    · exact inv.acknowledged j stream group other earlier entry among
  case kept =>
    intro entry mem task holds
    rcases inv.kept entry mem task holds with waiting | finished | givenUp
    · exact .inl (queue.symm ▸ waiting)
    · exact .inr (.inl (stays _ finished))
    · exact .inr (.inr (givenUp_of_move givenUp))

theorem request {r : ConsumeRequest} {reply : Queue.consuming.Reply r}
    (distinct : (published.map (·.place)).Nodup) (inv : Guarded published v)
    (may : (v.stages i).May (among published) (.inl r))
    (served : Shift.Served r reply v.shared shift) :
    ∃ d, (serving (among published)).moves (v.stages i) (.inl r) reply d ∧
      Guarded published (v.move i ⟨.inl r, reply⟩ shift d) := by
  have free : (v.stages i).Free := by
    cases r with
    | handle => exact may.elim
    | _ => exact may.1
  have kept := served.catalogue
  have fewer : ∀ entry ∈ shift.site.queue, entry ∈ v.shared.site.queue := by
    intro entry mem
    rcases served.queue with same | ⟨stream, group, id, -, filtered⟩
    · exact same ▸ mem
    · rw [filtered] at mem
      exact List.mem_of_mem_filter mem
  refine ⟨.waiting, .asked _ r reply (served.genuine inv.queued), ?_⟩
  constructor
  case exclusive =>
    have same : (fun j => ((v.move i ⟨.inl r, reply⟩ shift .waiting).stages j).holding?) =
        fun j => (v.stages j).holding? := by
      rw [View.map_move_stages Duty.holding?]
      exact Function.update_eq_self_iff.mpr (Duty.holding?_of_free free).symm
    rw [same, View.move_shared, kept]
    exact inv.exclusive
  case queued => exact fun entry mem => inv.queued entry (fewer entry mem)
  case accounted =>
    rw [View.move_shared, kept]
    apply View.forall_move fun _ d past =>
      Duty.Accounted v.shared.site.catalogue (sinceQueue past) d
    · trivial
    · exact fun j _ => inv.accounted j
  case acknowledged =>
    intro j stream group id mem entry among
    rcases View.mem_move_pasts mem with ⟨-, latest⟩ | earlier
    · cases latest
      exact served.acknowledged entry among
    · exact inv.acknowledged j stream group id earlier entry (fewer entry among)
  case kept =>
    intro entry mem task holds
    rw [View.move_shared, kept]
    rcases inv.kept entry mem task holds with waiting | finished | givenUp
    · rcases served.queue with same | ⟨stream, group, id, event, filtered⟩
      · exact .inl (same.symm ▸ waiting)
      · by_cases named : entry.place = (stream, id)
        · -- no other entry has this place, so the task that was just handled is the one it holds
          cases named
          cases event
          obtain ⟨other, known, same, handled⟩ := may.2 entry.stream group entry.id rfl
          have one : (⟨other, entry.stream⟩ : QueuedEntry) = entry :=
            List.inj_on_of_nodup_map distinct known mem (Prod.ext rfl same)
          rw [← one] at holds
          rcases (inv.accounted i).settled (handled task holds) with finished | gaveWay
          · exact .inr (.inl finished)
          · refine .inr (.inr ⟨i, group, v.pasts i, ?_, gaveWay⟩)
            simp only [View.move_pasts_self, List.suffix_rfl]
        · exact .inl (filtered.symm ▸ List.mem_filter.mpr ⟨waiting, bne_iff_ne.mpr named⟩)
    · exact .inr (.inl finished)
    · exact .inr (.inr (givenUp_of_move givenUp))

end Guarded

theorem preserves_guarded [DecidableEq ι] (distinct : (published.map (·.place)).Nodup) :
    Preserves Shift.around (serving (among published)) (Guarded (ι := ι) published) where
  call v i r reply shift inv allowed answered := by
    cases r with
    | inl r => exact inv.request distinct allowed answered
    | inr c =>
        obtain ⟨site, answered, rfl⟩ := answered
        exact inv.call allowed answered
  drift v shift inv drifted := inv.drift drifted

/-! ## Workers side by side -/

abbrev crew (consumers : ι → Consumer) (turns : ι → Nat) (shift : Shift) :
    Ensemble onDuty ι Shift (Except Failure Bool) :=
  .start shift fun i => worker (consumers i) (turns i)

/-- Of the entries that are on the queue at first, one that holds the task of an unfinished image is off
the queue exactly if a worker acknowledged it after its handler gave way. -/
theorem lost_iff_givenUp [DecidableEq ι] (consumers : ι → Consumer)
    (unlimited : ∀ i, (consumers i).maxDeliveries ≤ 0) (turns : ι → Nat) (shift : Shift)
    (keyed : shift.site.catalogue.Keyed) (distinct : (shift.site.queue.map (·.place)).Nodup)
    (entry : QueuedEntry) (published : entry ∈ shift.site.queue) (task : Task)
    (holds : entry.task = .ok task) (e : Ensemble onDuty ι Shift (Except Failure Bool))
    (reached : Ensemble.Reaches Shift.around (crew consumers turns shift) e) (row : Record)
    (found : e.shared.site.catalogue.find? task.imageId = some row) (unfinished : row.Unfinished) :
    entry ∉ e.shared.site.queue ↔ ∃ i, GivenUp entry task.imageId (e.threads i).past := by
  have kept : e.Kept (serving (among shift.site.queue)) (Guarded shift.site.queue) := by
    apply Ensemble.kept_of_reaches (preserves_guarded distinct) _ reached
    refine Ensemble.kept_start (fun _ => .waiting) ?_ fun i =>
      worker_follows (consumers i) (unlimited i) (turns i)
    constructor
    case exclusive =>
      refine ⟨keyed, fun i j id held => ?_, fun i id row held => ?_⟩
      · cases held
      · cases held
    case queued => exact fun _ mem => mem
    case accounted => exact fun _ => trivial
    case acknowledged => exact fun _ _ _ _ mem => absurd mem List.not_mem_nil
    case kept => exact fun _ mem _ _ => .inl mem
  obtain ⟨stages, inv, -⟩ := kept
  constructor
  · intro lost
    rcases inv.kept entry published task holds with waiting | finished | givenUp
    · exact absurd waiting lost
    · exact absurd unfinished (finished row found)
    · exact givenUp
  · -- what was acknowledged once never comes back
    rintro ⟨i, group, earlier, suffix, -⟩ waiting
    have event := suffix.subset List.mem_cons_self
    exact inv.acknowledged i entry.stream group entry.id event entry waiting rfl

def resizeA : Task := ⟨"a", .resize, by decide⟩

def queuedA : QueuedEntry := ⟨⟨"1-0", [(Queue.payloadField, .text resizeA.wire)]⟩, "tasks"⟩

def oneTask : Shift := .start { Site.stocked
    [{ (default : Record) with id := resizeA.imageId, status := Status.pending.name }] with
  queue := [queuedA] }

def member : Consumer := { (default : Consumer) with streams := ["tasks"], group := "workers" }

def overtaken : Ensemble onDuty (Fin 2) Shift (Except Failure Bool) :=
  (crew (fun _ => member) (fun _ => 2) oneTask).play Shift.answerBy
    (List.replicate 8 (0, none) ++ List.replicate 7 (1, none) ++
      [(0, none), (0, some (.app .storageFailed none)), (0, none), (0, none)])

theorem overtaken_givenUp :
    (overtaken.shared.site.catalogue.find? resizeA.imageId).map (·.status) =
      some Status.failed.name ∧ ∃ i, GivenUp queuedA resizeA.imageId (overtaken.threads i).past := by
  have failed : (overtaken.shared.site.catalogue.find? resizeA.imageId).map (·.status) =
      some Status.failed.name := by decide +kernel
  obtain ⟨row, found, status⟩ := Option.map_eq_some_iff.mp failed
  have unfinished : row.Unfinished := by
    rw [Progress.Unfinished, status]
    decide
  have lost : queuedA ∉ overtaken.shared.site.queue := by
    have emptied : overtaken.shared.site.queue.isEmpty = true := by decide +kernel
    rw [List.isEmpty_iff.mp emptied]
    exact List.not_mem_nil
  refine ⟨failed, ?_⟩
  exact (lost_iff_givenUp (fun _ => member) (fun _ => by decide) (fun _ => 2) oneTask (by decide)
    (by decide) queuedA List.mem_cons_self resizeA (by decide +kernel) overtaken
    (Ensemble.reaches_play Shift.answered_answerBy _ _) row found unfinished).mp lost

def stranded : Ensemble onDuty (Fin 1) Shift (Except Failure Bool) :=
  (crew (fun _ => member) (fun _ => 2) oneTask).play Shift.answerBy
    (List.replicate 9 (0, none) ++ [(0, some (.app .storageFailed none)), (0, none),
      (0, some (.foreign .database ""))] ++ List.replicate 6 (0, none))

theorem stranded_lost : queuedA.task = .ok resizeA ∧
    ¬ ∀ e : Ensemble onDuty (Fin 1) Shift (Except Failure Bool),
      Ensemble.Reaches Shift.around (crew (fun _ => member) (fun _ => 2) oneTask) e →
      ∀ row, e.shared.site.catalogue.find? resizeA.imageId = some row → row.Unfinished →
        queuedA ∈ e.shared.site.queue := by
  refine ⟨by decide +kernel, fun keeps => ?_⟩
  have processing : (stranded.shared.site.catalogue.find? resizeA.imageId).map (·.status) =
      some Status.processing.name := by decide +kernel
  obtain ⟨row, found, status⟩ := Option.map_eq_some_iff.mp processing
  have waiting := keeps stranded (Ensemble.reaches_play Shift.answered_answerBy _ _) row found
    (Progress.unfinished_of_processing status)
  have emptied : stranded.shared.site.queue.isEmpty = true := by decide +kernel
  rw [List.isEmpty_iff.mp emptied] at waiting
  cases waiting

end ImagePipeline.Workflow
