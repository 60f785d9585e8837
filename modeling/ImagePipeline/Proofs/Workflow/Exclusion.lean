import ImagePipeline.Proofs.Workflow.Errand
import ImagePipeline.Proofs.Workflow.Interleaving
/-!
# One worker at a time, and completion for good

Workers of one image act on what they read before they claimed it, so nothing in a worker alone keeps
two of them apart. What does is an invariant of all threads and the table (`Exclusive`): the row of an
image that some attempt holds says that it is being processed, and no other attempt holds it. A
completed row is therefore held by nobody, and no claim of it succeeds (`Closed`).
-/

namespace ImagePipeline.Workflow

variable {ι : Type} {chores : ι → Chore}

/-- Nobody else holds an image that somebody holds, and its row says that it is being processed. -/
structure Exclusive (table : Catalogue) (holding : ι → Option String) : Prop where
  keyed : table.Keyed
  alone : ∀ i j id, holding i = some id → holding j = some id → i = j
  marked : ∀ i id row, holding i = some id → table.find? id = some row →
    row.status = Status.processing.name

namespace Exclusive

variable {table table' : Catalogue} {holding : ι → Option String} {i : ι} {c : Call}
  {reply : working.Reply c} {a a' : Activity}

theorem unheld_of_claimed {id : String} (inv : Exclusive table holding)
    (change : TableStep table (.claim id) (.ok ()) table') (j : ι) : holding j ≠ some id := by
  intro held
  obtain ⟨row, now, found, ready, -⟩ := change.claimed_row inv.keyed
  have processing := inv.marked j id row held found
  rw [Progress.canBeProcessed, processing] at ready
  exact absurd ready (by decide)

theorem delete {id : String} (inv : Exclusive table holding) (deleted : table.delete id = .ok table') :
    Exclusive table' holding := by
  refine ⟨inv.keyed.delete deleted, inv.alone, fun j other row held found => ?_⟩
  by_cases same : other = id
  · subst same
    rw [Catalogue.find?_delete_self deleted] at found
    cases found
  · rw [Catalogue.find?_delete_of_ne deleted same] at found
    exact inv.marked j other row held found

theorem act_of_unheld [DecidableEq ι] (inv : Exclusive table holding)
    (here : holding i = a.holding?) (allowed : a.call? = some c) (step : a.Step c reply a')
    (change : TableStep table c reply table')
    (unheld : ∀ draft row, (⟨c, reply⟩ : Event working) = ⟨.create draft, .ok row⟩ →
      ∀ j, holding j ≠ some row.id) :
    Exclusive table' (Function.update holding i a'.holding?) := by
  have others : ∀ j id, j ≠ i → a'.holding? = some id → holding j ≠ some id := by
    intro j id other held same
    rcases step.held_before held with before | claim
    · exact other (inv.alone j i id same (here.trans before))
    · cases claim
      exact inv.unheld_of_claimed change j same
  constructor
  case keyed => exact change.keyed inv.keyed
  case alone =>
    intro j k id left right
    by_cases atJ : j = i
    · by_cases atK : k = i
      · rw [atJ, atK]
      · subst atJ
        rw [Function.update_self] at left
        rw [Function.update_of_ne atK] at right
        exact absurd right (others k id atK left)
    · rw [Function.update_of_ne atJ] at left
      by_cases atK : k = i
      · subst atK
        rw [Function.update_self] at right
        exact absurd left (others j id atJ right)
      · rw [Function.update_of_ne atK] at right
        exact inv.alone j k id left right
  case marked =>
    intro j id row held found
    have earlier : holding j = some id ∨ (⟨c, reply⟩ : Event working) = ⟨.claim id, .ok ()⟩ := by
      by_cases atJ : j = i
      · subst atJ
        rw [Function.update_self] at held
        exact (step.held_before held).imp_left here.trans
      · rw [Function.update_of_ne atJ] at held
        exact .inl held
    cases change.row inv.keyed id with
    | same kept =>
        rcases earlier with before | claim
        · exact inv.marked j id row before (kept ▸ found)
        · cases claim
          obtain ⟨old, now, -, -, after⟩ := change.claimed_row inv.keyed
          rw [after] at found
          cases found
          rfl
    | claimed old now _ _ after =>
        rw [after] at found
        cases found
        rfl
    | deleted gone =>
        rw [gone] at found
        cases found
    | created draft new fresh after =>
        obtain rfl := Catalogue.id_of_find? after
        rcases earlier with before | claim
        · exact absurd before (unheld draft new rfl j)
        · cases claim
    | stored record _ _ named =>
        -- who writes the row back holds the image, and stops holding it by that
        have writer := here.trans (named ▸ a.holding?_of_update allowed)
        by_cases atJ : j = i
        · subst atJ
          rw [Function.update_self, a'.holding?_of_ended step.ended_of_stored] at held
          cases held
        · rw [Function.update_of_ne atJ] at held
          exact absurd (inv.alone j i id held writer) atJ

theorem act [DecidableEq ι] (inv : Exclusive table holding) (here : holding i = a.holding?)
    (allowed : a.call? = some c) (barren : ∀ draft, c ≠ .create draft) (step : a.Step c reply a')
    (change : TableStep table c reply table') :
    Exclusive table' (Function.update holding i a'.holding?) := by
  refine inv.act_of_unheld here allowed step change fun draft row event => ?_
  cases event
  exact absurd rfl (barren draft)

end Exclusive

/-! ## Chores -/

structure Orderly (chores : ι → Chore) (v : View working ι Site Activity) : Prop where
  exclusive : Exclusive v.shared.catalogue fun i => (v.stages i).holding?
  does : ∀ i, (chores i).Does (v.stages i)
  claims : ∀ i id, ⟨.claim id, .ok ()⟩ ∈ v.pasts i →
    (v.stages i).holding? = some id ∨ (v.stages i).call? = none

theorem Chore.Does.creates_nothing {chore : Chore} {a : Activity} (does : chore.Does a)
    {c : Call} (allowed : a.call? = some c) (draft : Draft) : c ≠ .create draft := by
  rintro rfl
  cases a with
  | peeking => cases allowed
  | attempt p => cases p <;> cases allowed
  | removal p => cases p <;> cases allowed
  | intake => exact does

theorem Chore.Does.removes {chore : Chore} {a : Activity} {id : String} (does : chore.Does a)
    (allowed : a.call? = some (.delete id)) : chore = .remove id := by
  cases a with
  | peeking => cases allowed
  | attempt p => cases p <;> cases allowed
  | removal p =>
      cases p <;> cases allowed
      exact does id rfl
  | intake => exact does.elim

variable {v : View working ι Site Activity} {i : ι} {c : Call} {reply : working.Reply c}
  {site : Site} {a : Activity}

def Holds (id : String) (t : Thread working (Except Failure Unit)) : Prop :=
  ⟨.claim id, .ok ()⟩ ∈ t.past ∧ t.Running

theorem Orderly.holding_of_holds {e : Ensemble working ι Site (Except Failure Unit)}
    {stages : ι → Activity} {id : String}
    (inv : Orderly chores ⟨e.shared, fun i => (e.threads i).past, stages⟩)
    (follows : ∀ i, Script.Follows acting (fun _ _ => True) (stages i) (e.threads i).rest)
    (holds : Holds id (e.threads i)) : (stages i).holding? = some id := by
  obtain ⟨mem, c, next, waiting⟩ := holds
  have allowed := follows i
  rw [waiting] at allowed
  rcases inv.claims i id mem with held | ended
  · exact held
  · have asks : (stages i).call? = some c := allowed.1
    rw [show (stages i).call? = none from ended] at asks
    cases asks

variable [DecidableEq ι]

theorem Orderly.call (inv : Orderly chores v) (allowed : (v.stages i).call? = some c)
    (answered : v.shared.Answered c reply site) (step : (v.stages i).Step c reply a) :
    Orderly chores (v.move i ⟨c, reply⟩ site a) := by
  have table := tableStep_of_answered answered
  constructor
  case exclusive =>
    rw [View.map_move_stages]
    exact inv.exclusive.act rfl allowed ((inv.does i).creates_nothing allowed) step table
  case does =>
    apply View.forall_move_stages fun j stage => (chores j).Does stage
    · exact (inv.does i).step step table.honest
    · exact fun j _ => inv.does j
  case claims =>
    intro j id mem
    rcases View.mem_move_pasts mem with ⟨rfl, latest⟩ | earlier
    · cases latest
      rw [View.move_stages_self]
      exact .inl step.held_of_claimed
    · by_cases atJ : j = i
      · subst atJ
        rw [View.move_stages_self]
        rcases inv.claims j id earlier with held | ended
        · exact step.holds held
        · rw [ended] at allowed
          cases allowed
      · rw [View.move_stages_of_ne atJ]
        exact inv.claims j id earlier

theorem preserves_orderly : Preserves Site.around acting (Orderly chores) where
  call v i c reply site inv allowed answered := by
    obtain ⟨a, step⟩ := (v.stages i).step_total allowed reply
    exact ⟨a, step, inv.call allowed answered step⟩
  drift v site inv same := ⟨same ▸ inv.exclusive, inv.does, inv.claims⟩

/-! ## Completed rows -/

def Call.touchesFiles : Call → Bool
  | openUpload _ => true
  | readUpload _ => true
  | saveProcessed .. => true
  | _ => false

def touches (events : List (Event working)) : List (Event working) :=
  events.filter fun event => event.request.touchesFiles

theorem Chore.Does.holding_of_touching {chore : Chore} (does : chore.Does a)
    (allowed : a.call? = some c) (touching : c.touchesFiles = true) :
    a.holding? = some chore.image := by
  have some_ : ∃ id, a.holding? = some id := by
    cases a with
    | peeking => cases allowed; cases touching
    | intake => exact does.elim
    | removal p => cases p <;> cases allowed <;> cases touching
    | attempt p =>
        cases p <;> cases allowed
        case opening.refl record => exact ⟨record.id, rfl⟩
        case reading.refl record _ => exact ⟨record.id, rfl⟩
        case saving.refl record _ _ => exact ⟨record.id, rfl⟩
        all_goals cases touching
  obtain ⟨id, held⟩ := some_
  rw [held, does.image_eq held]

/-- The row of the image is final: it is as it was, or was removed, and nobody works on the image. -/
structure Closed (chores : ι → Chore) (id : String) (row : Record)
    (before : ι → List (Event working)) (v : View working ι Site Activity) : Prop where
  final : v.shared.catalogue.find? id = some row ∨ v.shared.catalogue.find? id = none ∧
    ∃ i, chores i = .remove id ∧ ⟨.delete id, .ok ()⟩ ∈ v.pasts i
  free : ∀ i, (v.stages i).holding? ≠ some id
  untouched : ∀ i, (chores i).image = id → touches (v.pasts i) = touches (before i)

variable {id : String} {row : Record} {before : ι → List (Event working)}

theorem Closed.call (completed : row.status = Status.completed.name) (inv : Orderly chores v)
    (closed : Closed chores id row before v) (allowed : (v.stages i).call? = some c)
    (answered : v.shared.Answered c reply site) (step : (v.stages i).Step c reply a) :
    Closed chores id row before (v.move i ⟨c, reply⟩ site a) := by
  have table := tableStep_of_answered answered
  -- a completed row cannot be claimed, so nobody starts to hold the image again
  have unclaimed : ∀ other, v.shared.catalogue.find? id = some other →
      other.canBeProcessed = true → False := by
    intro other found ready
    rcases closed.final with final | ⟨gone, -⟩
    · rw [final] at found
      cases found
      rw [Progress.canBeProcessed, completed] at ready
      exact absurd ready (by decide)
    · rw [gone] at found
      cases found
  constructor
  case final =>
    cases table.row inv.exclusive.keyed id with
    | same kept =>
        rcases closed.final with final | ⟨gone, j, removes, mem⟩
        · exact .inl (kept.trans final)
        · exact .inr ⟨kept.trans gone, j, removes, (View.suffix_move_pasts j).subset mem⟩
    | created draft => exact absurd rfl ((inv.does i).creates_nothing allowed draft)
    | claimed other now found ready => exact (unclaimed other found ready).elim
    | stored record _ _ named =>
        exact absurd (named ▸ (v.stages i).holding?_of_update allowed) (closed.free i)
    | deleted gone =>
        refine .inr ⟨gone, i, (inv.does i).removes allowed, ?_⟩
        rw [View.move_pasts_self]
        exact List.mem_cons_self
  case free =>
    refine View.forall_move_stages (fun _ (stage : Activity) => stage.holding? ≠ some id) ?_ ?_
    · intro held
      rcases step.held_before held with earlier | claim
      · exact closed.free i earlier
      · cases claim
        obtain ⟨other, now, found, ready, -⟩ := table.claimed_row inv.exclusive.keyed
        exact unclaimed other found ready
    · exact fun j _ => closed.free j
  case untouched =>
    intro j about
    by_cases atJ : j = i
    · subst atJ
      rw [View.move_pasts_self, ← closed.untouched j about]
      -- only who holds the image may touch its files
      have apart : c.touchesFiles = false := by
        cases touching : c.touchesFiles with
        | false => rfl
        | true =>
            have held := (inv.does j).holding_of_touching allowed touching
            exact absurd (about ▸ held) (closed.free j)
      simp [touches, apart]
    · rw [View.move_pasts_of_ne atJ]
      exact closed.untouched j about

theorem preserves_closed (completed : row.status = Status.completed.name) :
    Preserves Site.around acting fun v => Orderly chores v ∧ Closed chores id row before v where
  call v i c reply site inv allowed answered := by
    obtain ⟨a, step⟩ := (v.stages i).step_total allowed reply
    exact ⟨a, step, inv.1.call allowed answered step,
      inv.2.call completed inv.1 allowed answered step⟩
  drift v site inv same := by
    refine ⟨preserves_orderly.drift v site inv.1 same, ?_⟩
    constructor
    case final => exact same ▸ inv.2.final
    case free => exact inv.2.free
    case untouched => exact inv.2.untouched

/-! ## Chores side by side -/

abbrev sideBySide (chores : ι → Chore) (site : Site) :
    Ensemble working ι Site (Except Failure Unit) :=
  .start site fun i => (chores i).service.run

theorem kept_of_chores {site : Site} (keyed : site.catalogue.Keyed)
    {e : Ensemble working ι Site (Except Failure Unit)}
    (reached : Ensemble.Reaches Site.around (sideBySide chores site) e) :
    e.Kept acting (Orderly chores) := by
  apply Ensemble.kept_of_reaches preserves_orderly _ reached
  refine Ensemble.kept_start (fun i => (chores i).first) ?_ fun i => (chores i).follows
  have idle (i : ι) (id : String) : (chores i).first.holding? ≠ some id := by
    cases chores i <;> exact nofun
  refine ⟨⟨keyed, ?_, ?_⟩, fun i => (chores i).does_first, fun i id mem => absurd mem List.not_mem_nil⟩
  · exact fun i j id held => absurd held (idle i id)
  · exact fun i id row held => absurd held (idle i id)

/-- In all that chores side by side reach, an image is held by one thread at most, and a completed row
stays until the image is removed, with no file of it read or written any more. -/
theorem single_claimant_and_final_completion (chores : ι → Chore) (site : Site)
    (keyed : site.catalogue.Keyed) (e : Ensemble working ι Site (Except Failure Unit))
    (reached : Ensemble.Reaches Site.around (sideBySide chores site) e) :
    (∀ id i j, Holds id (e.threads i) → Holds id (e.threads j) → i = j) ∧
    ∀ id row, e.shared.catalogue.find? id = some row → row.status = Status.completed.name →
      ∀ later, Ensemble.Reaches Site.around e later →
        (later.shared.catalogue.find? id = some row ∨ later.shared.catalogue.find? id = none ∧
          ∃ i, chores i = .remove id ∧ ⟨.delete id, .ok ()⟩ ∈ (later.threads i).past) ∧
        ∀ i, (chores i).image = id →
          touches (later.threads i).past = touches (e.threads i).past := by
  obtain ⟨stages, inv, follows⟩ := kept_of_chores keyed reached
  constructor
  · intro id i j left right
    exact inv.exclusive.alone i j id (inv.holding_of_holds follows left) (inv.holding_of_holds follows right)
  · intro id row found completed later onwards
    have closed : Closed chores id row (fun i => (e.threads i).past)
        ⟨e.shared, fun i => (e.threads i).past, stages⟩ := by
      constructor
      case final => exact .inl found
      case free =>
        intro i held
        have processing := inv.exclusive.marked i id row held found
        rw [completed] at processing
        exact absurd processing (by decide)
      case untouched => exact fun i _ => rfl
    have kept : e.Kept acting fun v => Orderly chores v ∧
        Closed chores id row (fun i => (e.threads i).past) v := ⟨stages, ⟨inv, closed⟩, follows⟩
    obtain ⟨_, ⟨-, after⟩, -⟩ :=
      Ensemble.kept_of_reaches (preserves_closed completed) kept onwards
    exact ⟨after.final, after.untouched⟩

inductive Hand where
  | early
  | late
  | tidy
  deriving DecidableEq

def crowd : Hand → Chore
  | .early => .process "a"
  | .late => .handle "a"
  | .tidy => .remove "b"

def crowded : Site := .stocked
  [{ (default : Record) with id := "a", status := Status.pending.name },
    { (default : Record) with id := "b", status := Status.completed.name }]

def claimedOnce : Ensemble working Hand Site (Except Failure Unit) :=
  (sideBySide crowd crowded).play Site.answerBy
    [(.late, none), (.late, none), (.early, none), (.early, none), (.late, none), (.tidy, none)]

theorem claimedOnce_single_claimant : Holds "a" (claimedOnce.threads .early) ∧
    (∀ i, Holds "a" (claimedOnce.threads i) → i = .early) ∧
    ∀ later, Ensemble.Reaches Site.around claimedOnce later →
      later.shared.catalogue.find? "b" = claimedOnce.shared.catalogue.find? "b" ∨
        later.shared.catalogue.find? "b" = none ∧
          ∃ i, crowd i = .remove "b" ∧ ⟨.delete "b", .ok ()⟩ ∈ (later.threads i).past := by
  obtain ⟨alone, final⟩ := single_claimant_and_final_completion crowd crowded (by decide)
    claimedOnce (Ensemble.reaches_play Site.answered_answerBy _ _)
  have holds : Holds "a" (claimedOnce.threads .early) := ⟨List.mem_cons_self, _, _, rfl⟩
  refine ⟨holds, fun i also => alone "a" i .early also holds, fun later onwards => ?_⟩
  exact (final "b" _ rfl rfl later onwards).1

end ImagePipeline.Workflow
