import ImagePipeline.Image.Formats
import ImagePipeline.Proofs.Script.Contract
import ImagePipeline.Proofs.Script.Ensemble
import ImagePipeline.Proofs.Table
import ImagePipeline.Workflow.Site
/-!
# Services side by side at a site

Any number of services may work at one site at the same time: between two calls of one of them others
are answered, and the files, the queue, the clock and the planned failures may change by themselves.
Every call is atomic, and any call may fail. `TableStep` is all that the table sees of this.
-/

namespace ImagePipeline.Workflow

def Site.Answered (c : Call) (site : Site) (reply : working.Reply c) (site' : Site) : Prop :=
  (reply, site') = Site.perform c site ∨ ∃ failure, (reply, site') = Site.refuse failure c site

/-- Only services change the table. -/
def Site.around : Surroundings working Site where
  answers c site reply site' := site.Answered c reply site'
  drifts site site' := site'.catalogue = site.catalogue

def Call.changesTable : Call → Bool
  | create _ => true
  | update _ => true
  | delete _ => true
  | claim _ => true
  | _ => false

def Apart : (c : Call) → working.Reply c → Prop
  | .create _, .ok _ => False
  | .find _, .ok _ => False
  | .update _, .ok _ => False
  | .delete _, .ok _ => False
  | .claim _, .ok _ => False
  | _, _ => True

inductive TableStep (table : Catalogue) : (c : Call) → working.Reply c → Catalogue → Prop where
  | created {draft row table'} (now : Instant) (change : table.create draft now = .ok (row, table')) :
      TableStep table (.create draft) (.ok row) table'
  | found {id row} (holds : table.find? id = some row) : TableStep table (.find id) (.ok row) table
  | stored {record row table'} (now : Instant) (change : table.store record now = .ok (row, table')) :
      TableStep table (.update record) (.ok row) table'
  | deleted {id table'} (change : table.delete id = .ok table') :
      TableStep table (.delete id) (.ok ()) table'
  | claimed {id table'} (now : Instant) (change : table.claim id now = .ok table') :
      TableStep table (.claim id) (.ok ()) table'
  | apart {c reply} (silent : Apart c reply) : TableStep table c reply table

/-- What an answered call does to the table at a time. -/
inductive TableChange (table : Catalogue) (now : Instant) :
    (c : Call) → working.Reply c → Catalogue → Prop where
  | created {draft row table'} (change : table.create draft now = .ok (row, table')) :
      TableChange table now (.create draft) (.ok row) table'
  | found {id row} (holds : table.find? id = some row) :
      TableChange table now (.find id) (.ok row) table
  | stored {record row table'} (change : table.store record now = .ok (row, table')) :
      TableChange table now (.update record) (.ok row) table'
  | deleted {id table'} (change : table.delete id = .ok table') :
      TableChange table now (.delete id) (.ok ()) table'
  | claimed {id table'} (change : table.claim id now = .ok table') :
      TableChange table now (.claim id) (.ok ()) table'
  | apart {c reply} (silent : Apart c reply) : TableChange table now c reply table

theorem TableChange.step {table table' : Catalogue} {now : Instant} {c : Call}
    {reply : working.Reply c} (change : TableChange table now c reply table') :
    TableStep table c reply table' := by
  cases change with
  | created change => exact .created now change
  | found holds => exact .found holds
  | stored change => exact .stored now change
  | deleted change => exact .deleted change
  | claimed change => exact .claimed now change
  | apart silent => exact .apart silent

theorem TableStep.change {table table' : Catalogue} {c : Call} {reply : working.Reply c}
    (step : TableStep table c reply table') : ∃ now, TableChange table now c reply table' := by
  cases step with
  | created now change => exact ⟨now, .created change⟩
  | found holds => exact ⟨default, .found holds⟩
  | stored now change => exact ⟨now, .stored change⟩
  | deleted change => exact ⟨default, .deleted change⟩
  | claimed now change => exact ⟨now, .claimed change⟩
  | apart silent => exact ⟨default, .apart silent⟩

theorem TableStep.keyed {table table' : Catalogue} {c : Call} {reply : working.Reply c}
    (step : TableStep table c reply table') (keyed : table.Keyed) : table'.Keyed := by
  cases step with
  | created now change => exact keyed.create change
  | found => exact keyed
  | stored now change => exact keyed.store change
  | deleted change => exact keyed.delete change
  | claimed now change => exact keyed.claim change
  | apart => exact keyed

inductive RowStep (id : String) (table table' : Catalogue) : Event working → Prop where
  | same {event} (kept : table'.find? id = table.find? id) : RowStep id table table' event
  | created (draft : Draft) (row : Record) (fresh : table.find? id = none)
      (found : table'.find? id = some row) : RowStep id table table' ⟨.create draft, .ok row⟩
  | claimed (row : Record) (now : Instant) (found : table.find? id = some row)
      (ready : row.canBeProcessed = true) (after : table'.find? id = some (row.claimedAt now)) :
      RowStep id table table' ⟨.claim id, .ok ()⟩
  | stored (record old row : Record) (named : record.id = id) (found : table.find? id = some old)
      (after : table'.find? id = some row) : RowStep id table table' ⟨.update record, .ok row⟩
  | deleted (gone : table'.find? id = none) : RowStep id table table' ⟨.delete id, .ok ()⟩

theorem TableStep.row {table table' : Catalogue} {c : Call} {reply : working.Reply c}
    (step : TableStep table c reply table') (keyed : table.Keyed) (id : String) :
    RowStep id table table' ⟨c, reply⟩ := by
  cases step with
  | found => exact .same rfl
  | apart => exact .same rfl
  | created now change =>
      obtain ⟨-, fresh, rfl⟩ := Catalogue.create_ok change
      rename_i draft row
      by_cases named : row.id = id
      · subst named
        exact .created draft row fresh (by simp [Catalogue.find?_append, fresh])
      · exact .same (by simp [Catalogue.find?_append, named])
  | stored now change =>
      rename_i record row
      by_cases named : record.id = id
      · subst named
        obtain ⟨old, found, -, -⟩ := Catalogue.store_ok change
        exact .stored record old row rfl found (Catalogue.find?_store_self change)
      · exact .same (Catalogue.find?_store_of_ne change (Ne.symm named))
  | deleted change =>
      rename_i other
      by_cases named : other = id
      · subst named
        exact .deleted (Catalogue.find?_delete_self change)
      · exact .same (Catalogue.find?_delete_of_ne change (Ne.symm named))
  | claimed now change =>
      rename_i other
      by_cases named : other = id
      · subst named
        obtain ⟨row, found, ready, after⟩ := Catalogue.find?_claim_self keyed change
        exact .claimed row now found ready after
      · exact .same (Catalogue.find?_claim_of_ne keyed change (Ne.symm named))

theorem TableStep.claimed_row {table table' : Catalogue} {id : String}
    (step : TableStep table (.claim id) (.ok ()) table') (keyed : table.Keyed) :
    ∃ row now, table.find? id = some row ∧ row.canBeProcessed = true ∧
      table'.find? id = some (row.claimedAt now) := by
  cases step with
  | apart silent => cases silent
  | claimed now change =>
      obtain ⟨row, found, ready, after⟩ := Catalogue.find?_claim_self keyed change
      exact ⟨row, now, found, ready, after⟩

theorem TableStep.deleted_row {table table' : Catalogue} {id : String}
    (step : TableStep table (.delete id) (.ok ()) table') :
    (∃ row, table.find? id = some row) ∧ table'.find? id = none := by
  cases step with
  | apart silent => cases silent
  | deleted change => exact ⟨Catalogue.found_of_delete change, Catalogue.find?_delete_self change⟩

theorem TableStep.honest {table table' : Catalogue} {c : Call} {reply : working.Reply c}
    (step : TableStep table c reply table') (id : String) (record : Record)
    (event : (⟨c, reply⟩ : Event working) = ⟨.find id, .ok record⟩) : record.id = id := by
  cases event
  cases step with
  | found holds => exact Catalogue.id_of_find? holds
  | apart silent => cases silent

namespace Site

variable {α β : Type} {site : Site}

theorem perform_saveUpload_eq (name : String) (source : Asset.Source) :
    perform (.saveUpload name source) site =
      site.onFiles (site.store.save site.store.uploadSpace name source) := rfl

theorem perform_saveProcessed_eq (name : String) (content : ByteArray) :
    perform (.saveProcessed name content) site =
      site.onFiles (site.store.save site.store.processedSpace name (.bytes content)) := rfl

theorem perform_openUpload_eq (key : String) : perform (.openUpload key) site =
    site.onFiles (site.store.fetch key) := rfl

theorem perform_deleteAsset_eq (key : Option String) : perform (.deleteAsset key) site =
    site.onFiles (site.store.delete key) := rfl

def Keeps {γ : Type} (seen : Site → γ) (action : ExceptT Failure (StateM Site) α) : Prop :=
  ∀ site, seen (action.run site).2 = seen site

theorem consult_catalogue (site : Site) (target : Target) :
    (site.consult target).2.catalogue = site.catalogue := rfl

theorem onFiles_catalogue (operation : Asset.OnFiles α) :
    (site.onFiles operation).2.catalogue = site.catalogue := rfl

theorem deleteAsset_catalogue (key : Option String) :
    (site.deleteAsset key).2.catalogue = site.catalogue := by
  have kept := consult_catalogue site .deleteAsset
  unfold deleteAsset
  rcases consulted : site.consult .deleteAsset with ⟨_ | failure, after⟩
  · rw [consulted] at kept
    exact kept
  · rw [consulted] at kept
    exact kept

section Keeping

variable {γ : Type} {seen : Site → γ}

theorem keeps_bind {action : ExceptT Failure (StateM Site) α}
    {rest : α → ExceptT Failure (StateM Site) β} (keeps : Keeps seen action)
    (then_ : ∀ value, Keeps seen (rest value)) : Keeps seen (action >>= rest) := by
  intro site
  have kept := keeps site
  have step : (action >>= rest).run site =
      (ExceptT.bindCont rest (action.run site).1).run (action.run site).2 := rfl
  rw [step]
  rcases ran : action.run site with ⟨result, after⟩
  rw [ran] at kept
  cases result with
  | ok value => exact (then_ value after).trans kept
  | error failure => exact kept

theorem keeps_tryCatch {action : ExceptT Failure (StateM Site) α}
    {handler : Failure → ExceptT Failure (StateM Site) α} (keeps : Keeps seen action)
    (handles : ∀ failure, Keeps seen (handler failure)) : Keeps seen (tryCatch action handler) := by
  intro site
  have kept := keeps site
  have step (next : Except Failure α → StateM Site (Except Failure α)) :
      (action.run >>= next) site = next (action.run site).1 (action.run site).2 := rfl
  rw [ExceptT.run_tryCatch, step]
  rcases ran : action.run site with ⟨result, after⟩
  rw [ran] at kept
  cases result with
  | ok value => exact kept
  | error failure => exact (handles failure after).trans kept

theorem keeps_deleteEach (delete : Option String → ExceptT Failure (StateM Site) Unit)
    (keeps : ∀ key, Keeps seen (delete key)) (paths : List (Option String))
    (first : Option Failure) : Keeps seen (Asset.deleteEach delete paths first) := by
  induction paths generalizing first with
  | nil =>
      intro site
      cases first <;> rfl
  | cons path rest ih =>
      apply keeps_bind
      · apply keeps_tryCatch
        · exact keeps_bind (keeps path) fun _ site => rfl
        · exact fun failure site => rfl
      · exact fun failed => ih _

end Keeping

theorem append_catalogue (stream payload : String) :
    (site.append stream payload).2.catalogue = site.catalogue := by
  have kept := consult_catalogue site .append
  unfold append
  rcases consulted : site.consult .append with ⟨_ | failure, after⟩
  · rw [consulted] at kept
    exact kept
  · rw [consulted] at kept
    exact kept

theorem publish_catalogue (id : String) (kind : ProcessingType) :
    (site.publish id kind).2.catalogue = site.catalogue := by
  apply Script.run_keeps catalogue
  intro r site
  cases r with
  | append stream payload => exact append_catalogue stream payload
  | pause seconds => rfl

theorem perform_catalogue (c : Call) (elsewhere : c.changesTable = false) :
    (perform c site).2.catalogue = site.catalogue := by
  cases c with
  | create => cases elsewhere
  | update => cases elsewhere
  | delete => cases elsewhere
  | claim => cases elsewhere
  | saveUpload name source => rw [perform, onFiles_catalogue]
  | saveProcessed name content => rw [perform, onFiles_catalogue]
  | openUpload key => rw [perform, onFiles_catalogue]
  | openProcessed key =>
      cases key with
      | some key => rw [perform, onFiles_catalogue]
      | none => rfl
  | deleteAsset key => rw [perform, onFiles_catalogue]
  | deleteAssets upload processed =>
      exact keeps_deleteEach _ (fun key site => deleteAsset_catalogue key) [upload, processed]
        none site
  | publish id kind => exact publish_catalogue id kind
  | _ => rfl

theorem refuse_catalogue (failure : Failure) (c : Call) :
    (refuse failure c site).2.catalogue = site.catalogue := by
  cases c <;> rfl

theorem onTable_ok {value : α} {table : Catalogue}
    (change : Catalogue → Except Failure (α × Catalogue))
    (changed : change site.catalogue = .ok (value, table)) :
    site.onTable change = (.ok value, { site with catalogue := table }) := by
  unfold onTable
  rw [changed]

theorem onTable_error {cause : Failure} (change : Catalogue → Except Failure (α × Catalogue))
    (refused : change site.catalogue = .error cause) : site.onTable change = (.error cause, site) := by
  unfold onTable
  rw [refused]

theorem onFiles_eq {operation : Asset.OnFiles α} {result : Except Failure α} {files : Asset.FileTree}
    (ran : operation.run site.files = (result, files)) :
    site.onFiles operation = (result, { site with files }) := by
  unfold onFiles
  rw [ran]

theorem consult_of_faultless (faultless : site.faults = []) (target : Target) :
    site.consult target = (none, site) := by
  cases site
  cases faultless
  rfl

theorem answer_of_faultless (faultless : site.faults = []) (c : Call) :
    site.answer c = perform c site := by
  unfold answer
  cases c.target? with
  | none => rfl
  | some target => simp only [consult_of_faultless faultless]

theorem onTable_cases (change : Catalogue → Except Failure (α × Catalogue))
    {result : Except Failure α} {site' : Site} (answered : (result, site') = site.onTable change) :
    (∃ value, result = .ok value ∧ change site.catalogue = .ok (value, site'.catalogue)) ∨
      ∃ failure, result = .error failure ∧ site'.catalogue = site.catalogue := by
  unfold onTable at answered
  split at answered
  case h_1 value table changed =>
    cases answered
    exact .inl ⟨value, rfl, changed⟩
  case h_2 failure refused =>
    cases answered
    exact .inr ⟨failure, rfl, rfl⟩

end Site

theorem ok_of_paired {changed : Except Failure Catalogue} {table : Catalogue}
    (paired : (do return ((), ← changed) : Except Failure (Unit × Catalogue)) = .ok ((), table)) :
    changed = .ok table := by
  cases changed with
  | ok _ => cases paired; rfl
  | error _ => cases paired

theorem change_of_performed {c : Call} {site site' : Site} {reply : working.Reply c}
    (performed : (reply, site') = Site.perform c site) :
    TableChange site.catalogue site.clock c reply site'.catalogue := by
  cases elsewhere : c.changesTable with
  | false =>
      have same : site'.catalogue = site.catalogue :=
        (congrArg (·.2.catalogue) performed).trans (Site.perform_catalogue c elsewhere)
      rw [same]
      cases c with
      | find id =>
          cases performed
          cases found : site.catalogue.find id with
          | ok row => exact .found (Catalogue.find_eq_ok.mp found)
          | error failure => exact .apart trivial
      | create => cases elsewhere
      | update => cases elsewhere
      | delete => cases elsewhere
      | claim => cases elsewhere
      | _ => exact .apart trivial
  | true =>
      cases c with
      | create draft =>
          rcases Site.onTable_cases (·.create draft site.clock) performed with
            ⟨row, rfl, change⟩ | ⟨failure, rfl, same⟩
          · exact .created change
          · exact same ▸ .apart trivial
      | update record =>
          rcases Site.onTable_cases (·.store record site.clock) performed with
            ⟨row, rfl, change⟩ | ⟨failure, rfl, same⟩
          · exact .stored change
          · exact same ▸ .apart trivial
      | delete id =>
          rcases Site.onTable_cases (fun table => return ((), ← table.delete id)) performed with
            ⟨⟨⟩, rfl, change⟩ | ⟨failure, rfl, same⟩
          · exact .deleted (ok_of_paired change)
          · exact same ▸ .apart trivial
      | claim id =>
          rcases Site.onTable_cases (fun table => return ((), ← table.claim id site.clock))
            performed with ⟨⟨⟩, rfl, change⟩ | ⟨failure, rfl, same⟩
          · exact .claimed (ok_of_paired change)
          · exact same ▸ .apart trivial
      | _ => cases elsewhere

theorem change_of_answered {c : Call} {site site' : Site} {reply : working.Reply c}
    (answered : site.Answered c reply site') :
    TableChange site.catalogue site.clock c reply site'.catalogue := by
  rcases answered with performed | ⟨failure, refused⟩
  · exact change_of_performed performed
  · have same : site'.catalogue = site.catalogue :=
      (congrArg (·.2.catalogue) refused).trans (Site.refuse_catalogue failure c)
    rw [same]
    cases c with
    | _ => cases refused; exact .apart trivial

theorem tableStep_of_answered {c : Call} {site site' : Site} {reply : working.Reply c}
    (answered : site.Answered c reply site') :
    TableStep site.catalogue c reply site'.catalogue :=
  (change_of_answered answered).step

def Site.answerBy : Option Failure → (c : Call) → Site → working.Reply c × Site
  | none => perform
  | some failure => refuse failure

theorem Site.answered_answerBy (way : Option Failure) (c : Call) (site : Site) :
    site.Answered c (answerBy way c site).1 (answerBy way c site).2 := by
  cases way with
  | none => exact .inl rfl
  | some failure => exact .inr ⟨failure, rfl⟩

def Site.answerLater (way : Option Failure × Nat) (c : Call) (site : Site) : working.Reply c × Site :=
  answerBy way.1 c { site with clock := site.clock.later way.2 }

/-- A site with some rows and nothing else. -/
def Site.stocked (rows : List Record) : Site where
  catalogue := ⟨rows⟩
  scan := .usual
  files := ⟨[]⟩
  store := default
  publisher := default
  stages := Processor.stages .basic default
  queue := []
  sent := 0
  issued := 0
  clock := default
  faults := []

end ImagePipeline.Workflow
