import ImagePipeline.Proofs.Script.Repetition
import ImagePipeline.Proofs.Task
import ImagePipeline.Proofs.Workflow.Provenance

namespace ImagePipeline.Workflow

open Asset (LocalStore FileTree Source Path objectKey)
open Asset.LocalStore (Saved Deleted OnlyAt)
open Script (Ran)

def Appended (stream payload : String) (site : Site) : Except Failure String → Site → Prop
  | .ok _, site' => ∃ id,
      site'.queue = site.queue ++ [⟨⟨id, [(Queue.payloadField, .text payload)]⟩, stream⟩]
  | .error _, site' => site'.queue = site.queue

namespace Site

variable {site site' : Site} {stream payload : String} {result : Except Failure String}

theorem append_appended (stream payload : String) (site : Site) :
    Appended stream payload site (site.append stream payload).1 (site.append stream payload).2 := by
  rcases site.append_eq stream payload with ⟨cause, faults, sent⟩ | ⟨faults, sent⟩ <;> rw [sent]
  · rfl
  · exact ⟨_, rfl⟩

def publishes (r : Queue.publishing.Request) (site : Site) (reply : Queue.publishing.Reply r)
    (site' : Site) : Prop :=
  (reply, site') = answerPublisher r site

theorem appended_of_loop (stream payload : String) (backoff : Float) (retries : Nat) (delay : Float)
    {site : Site} {events : List (Event Queue.publishing)}
    (ran : Ran publishes (Retry.loop Failure.isQueue
      (fun seconds => Routine.ask (Script.request (I := Queue.publishing) (.pause seconds))) backoff
      (Routine.ask (Script.request (I := Queue.publishing) (.append stream payload))) retries
      delay).run site events result site') : Appended stream payload site result site' := by
  have once {site site' : Site} {events : List (Event Queue.publishing)}
      {result : Except Failure String}
      (ran : Ran publishes (Routine.ask (Script.request (I := Queue.publishing)
        (.append stream payload))).run site events result site') :
      Appended stream payload site result site' := by
    have appended := append_appended stream payload site
    rw [← show (result, site') = site.append stream payload from (Script.ran_request ran).2] at appended
    exact appended
  induction retries generalizing site events delay with
  | zero => exact once ran
  | succ retries ih =>
      rcases Retry.ran_loop_succ ran with
        ⟨tried, -⟩ | ⟨_, between, _, -, before, ⟨_, _, rfl, -, paused⟩ | ⟨later, _, _, -, paused, again⟩⟩
      · exact once tried
      · obtain rfl : site' = between := congrArg Prod.snd (Script.ran_request paused).2
        exact show site'.queue = site.queue from once before
      · have same : between.queue = site.queue := once before
        obtain rfl : later = between := congrArg Prod.snd (Script.ran_request paused).2
        have appended := ih _ again
        cases result with
        | error cause => exact Eq.trans appended same
        | ok id =>
            obtain ⟨entry, queued⟩ := appended
            exact ⟨entry, same ▸ queued⟩

end Site

def Announced (publisher : Queue.Publisher) (id kind : String) (queue queue' : List QueuedEntry) :
    Prop :=
  queue' = queue ∨ ∃ (entry : QueuedEntry) (task : Task), queue' = queue ++ [entry] ∧
    entry.stream = Queue.streamFor publisher.topic publisher.partitions id ∧
    entry.fields = [(Queue.payloadField, .text task.wire)] ∧ task.imageId = id ∧ task.kind.name = kind

namespace Site

theorem announced_of_appended {site site' : Site} {task : Task} {result : Except Failure String}
    (appended : Appended (Queue.streamFor site.publisher.topic site.publisher.partitions task.imageId)
      task.wire site result site') :
    Announced site.publisher task.imageId task.kind.name site.queue site'.queue := by
  cases result with
  | error cause => exact .inl appended
  | ok _ =>
      obtain ⟨id, queued⟩ := appended
      exact .inr ⟨_, task, queued, rfl, rfl, rfl, rfl⟩

theorem publish_announced (id : String) (kind : ProcessingType) (site : Site) :
    Announced site.publisher id kind.name site.queue (site.publish id kind).2.queue := by
  have ran := Script.ran_trace publishes (fun _ _ => rfl)
    (site.publisher.publishOffered (.text id) (.text kind.name)).run site
  change Ran publishes _ site _ (site.publish id kind).1 (site.publish id kind).2 at ran
  generalize (site.publish id kind).1 = result at ran
  generalize (site.publish id kind).2 = site' at ran ⊢
  unfold Queue.Publisher.publishOffered at ran
  split at ran
  case h_2 => exact .inl (congrArg queue ran.2.2.symm)
  case h_1 task made =>
    obtain ⟨named, typed⟩ := Task.ofMembers_eq_ok_iff.mp made
    obtain rfl : id = task.imageId := by simpa using named
    have sameKind : kind.name = task.kind.name := by simpa using typed
    rw [sameKind]
    rcases Routine.ran_recover ran with ⟨sends, -⟩ | ⟨cause, between, first, second, -, -, sends, thrown⟩
    · exact announced_of_appended (appended_of_loop _ _ _ _ _ sends)
    · obtain ⟨-, -, rfl⟩ := thrown
      exact announced_of_appended (appended_of_loop _ _ _ _ _ sends)

variable {site site' between : Site} {c : Call} {reply : working.Reply c}

theorem Responds.queue_eq (responds : site.Responds c reply site') (quiet : c.publishes = false) :
    site'.queue = site.queue := by
  have aside : Aside queue := fun _ _ _ _ _ => rfl
  cases responds with
  | answered answered =>
      rcases answered with performed | ⟨failure, refused⟩
      · exact (congrArg (·.2.queue) performed).trans (perform_keeps aside c quiet)
      · exact (congrArg (·.2.queue) refused).trans (refuse_keeps aside failure c)
  | _ => rfl

theorem Responds.announced {id : String} {kind : ProcessingType} {reply : Except Failure String}
    (responds : site.Responds (.publish id kind) reply site') :
    Announced site.publisher id kind.name site.queue site'.queue := by
  cases responds with
  | answered answered =>
      rcases answered with performed | ⟨failure, refused⟩
      · have same : site' = (site.publish id kind).2 := congrArg Prod.snd performed
        rw [same]
        exact publish_announced id kind site
      · exact .inl (congrArg (·.2.queue) refused)

end Site

theorem TableStep.table_eq {table table' : Catalogue} {c : Call} {reply : working.Reply c}
    (step : TableStep table c reply table') (elsewhere : c.changesTable = false) : table' = table := by
  cases step with
  | found => rfl
  | apart => rfl
  | _ => cases elsewhere

theorem TableStep.table_eq_of_refused {table table' : Catalogue} {draft : Draft} {cause : Failure}
    (step : TableStep table (.create draft) (.error cause) table') : table' = table := by
  cases step
  rfl

theorem TableStep.rows_of_created {table table' : Catalogue} {draft : Draft} {row : Record}
    (step : TableStep table (.create draft) (.ok row) table') : table'.rows = table.rows ++ [row] := by
  cases step with
  | created now change =>
      obtain ⟨-, -, rfl⟩ := Catalogue.create_ok change
      rfl
  | apart silent => cases silent

structure FilesOnly (site site' : Site) : Prop where
  catalogue : site'.catalogue = site.catalogue
  queue : site'.queue = site.queue
  equipment : site'.equipment = site.equipment

section Parts

variable {site site' between : Site} {c : Call} {reply : working.Reply c} {key : String} {draft : Draft}
  {events : List (Event working)}

theorem FilesOnly.trans (first : FilesOnly site between) (second : FilesOnly between site') :
    FilesOnly site site' :=
  ⟨second.catalogue.trans first.catalogue, second.queue.trans first.queue,
    second.equipment.trans first.equipment⟩

theorem FilesOnly.store (filesOnly : FilesOnly site site') : site'.store = site.store :=
  congrArg Prod.fst filesOnly.equipment

theorem Site.Responds.filesOnly (responds : site.Responds c reply site') (quiet : c.publishes = false)
    (still : c.changesTable = false) : FilesOnly site site' :=
  ⟨responds.step.table.table_eq still, responds.queue_eq quiet, responds.step.equipment⟩

structure Discarded (key : String) (site : Site) (events : List (Event working)) (site' : Site) :
    Prop extends FilesOnly site site' where
  asked : ∃ reply, ⟨.deleteAsset (some key), reply⟩ ∈ events ∧
    (reply = .ok () → key.isEmpty = false → site.store.object? site'.files key = none)
  apart : ∀ path, site.store.locate key ≠ .ok path → site'.files.file? path = site.files.file? path

theorem discarded_of_ran {result : Except Failure Unit}
    (ran : Ran Site.guarded.answers (Upload.discard key).run site events result site') :
    Discarded key site events site' := by
  have once {events : List (Event working)} {result : Except Failure Unit} {site' : Site}
      (ran : Ran Site.guarded.answers (Routine.ask (call (.deleteAsset (some key)))).run site events
        result site') : Discarded key site events site' := by
    obtain ⟨rfl, answered⟩ := Script.ran_request ran
    have responds : site.Responds (.deleteAsset (some key)) result site' := answered
    have files := responds.step.files
    refine ⟨responds.filesOnly rfl rfl, ⟨_, List.mem_cons_self, ?_⟩, fun path elsewhere => ?_⟩
    · rintro rfl named
      exact files.deleted_ok named
    · apply files.frame
      rintro ⟨other, same, located⟩
      cases same
      exact elsewhere located
  rcases Routine.ran_recover ran with ⟨asked, -⟩ | ⟨cause, between, first, second, -, rfl, asked, later⟩
  · exact once asked
  · obtain ⟨rfl, -, rfl⟩ := later
    rw [List.append_nil]
    exact once asked

structure Recorded (draft : Draft) (site : Site) (row : Record) (site' : Site) : Prop where
  rows : site'.catalogue.rows = site.catalogue.rows ++ [row]
  columns : ∃ now, (draft.withUsual now).complete = .ok row
  files : site'.files = site.files
  queue : site'.queue = site.queue
  equipment : site'.equipment = site.equipment

theorem recorded_of_ran {result : Except Failure Record}
    (ran : Ran Site.guarded.answers (Upload.record draft key).run site events result site') :
    (∃ row, result = .ok row ∧ Recorded draft site row site') ∨
      ∃ cause, result = .error cause ∧ Discarded key site events site' := by
  rcases Routine.ran_recover ran with ⟨asked, never⟩ | ⟨cause, between, first, second, -, rfl, asked, later⟩
  · obtain ⟨rfl, answered⟩ := Script.ran_request asked
    have responds : site.Responds (.create draft) result site' := answered
    cases result with
    | error cause => cases never cause rfl
    | ok row =>
        have step := responds.step
        exact .inl ⟨row, rfl, step.table.rows_of_created, step.table.completed,
          step.files.files_eq rfl, responds.queue_eq rfl, step.equipment⟩
  · obtain ⟨rfl, answered⟩ := Script.ran_request asked
    have responds : site.Responds (.create draft) (.error cause) between := answered
    have files : between.files = site.files := responds.step.files.files_eq rfl
    have filesOnly : FilesOnly site between :=
      ⟨responds.step.table.table_eq_of_refused, responds.queue_eq rfl, responds.step.equipment⟩
    have done {result : Except Failure Unit} {second : List (Event working)} {site' : Site}
        (ran : Ran Site.guarded.answers (Upload.discard key).run between second result site') :
        Discarded key site (⟨.create draft, .error cause⟩ :: second) site' := by
      have discarded := discarded_of_ran ran
      obtain ⟨reply, mem, gone⟩ := discarded.asked
      rw [filesOnly.store] at gone
      refine ⟨filesOnly.trans discarded.toFilesOnly, ⟨reply, List.mem_cons_of_mem _ mem, gone⟩, ?_⟩
      intro path elsewhere
      rw [← files]
      exact discarded.apart path (filesOnly.store.symm ▸ elsewhere)
    rcases Routine.ran_bind later with
      ⟨other, rfl, discarding⟩ | ⟨_, after, front, back, rfl, discarding, thrown⟩
    · exact .inr ⟨other, rfl, done discarding⟩
    · obtain ⟨rfl, rfl, rfl⟩ := thrown
      rw [List.append_nil]
      exact .inr ⟨cause, rfl, done discarding⟩

theorem announced_of_ran {id : String} {kind : ProcessingType} {result : Except Failure Unit}
    (ran : Ran Site.guarded.answers (Upload.announce id kind).run site events result site') :
    (site'.catalogue = site.catalogue ∧ site'.files = site.files ∧
        Announced site.publisher id kind.name site.queue site'.queue) ∧
      ∀ cause, result = .error cause →
        cause.isApp = false ∧ ⟨.publish id kind, .error cause⟩ ∈ events := by
  have once {events : List (Event working)} {result : Except Failure String} {site' : Site}
      (ran : Ran Site.guarded.answers (Routine.ask (call (.publish id kind))).run site events
        result site') : events = [⟨.publish id kind, result⟩] ∧ site'.catalogue = site.catalogue ∧
          site'.files = site.files ∧
          Announced site.publisher id kind.name site.queue site'.queue := by
    obtain ⟨rfl, answered⟩ := Script.ran_request ran
    have responds : site.Responds (.publish id kind) result site' := answered
    exact ⟨rfl, responds.step.table.table_eq rfl, responds.step.files.files_eq rfl,
      responds.announced⟩
  rcases Routine.ran_recover ran with ⟨body, never⟩ | ⟨cause, between, first, second, -, rfl, body, later⟩
  · rcases Routine.ran_bind body with ⟨cause, rfl, asked⟩ | ⟨_, between, first, second, rfl, asked, done⟩
    · obtain ⟨rfl, announced⟩ := once asked
      refine ⟨announced, ?_⟩
      rintro _ ⟨⟩
      exact ⟨never cause rfl, List.mem_singleton_self _⟩
    · obtain ⟨rfl, rfl, rfl⟩ := done
      exact ⟨(once asked).2, nofun⟩
  · obtain ⟨rfl, rfl, rfl⟩ := later
    rcases Routine.ran_bind body with ⟨_, -, asked⟩ | ⟨_, _, _, _, -, -, done⟩
    · exact ⟨(once asked).2, nofun⟩
    · cases done.2.1

def BrokeOff (upload : Upload) (site : Site) (id : String) (site' : Site) : Prop :=
  ∃ given path, Tears upload.source given ∧ given.broken ≠ none ∧
    site.store.locate (uploadKey site.store id upload) = .ok path ∧
    site'.files.file? path = some given.content ∧ OnlyAt path site.files site'.files

/-- The upload left no trace, if what was saved could be deleted, or its file in part. -/
structure Traceless (upload : Upload) (site : Site) (events : List (Event working)) (site' : Site) :
    Prop where
  catalogue : site'.catalogue = site.catalogue
  queue : site'.queue = site.queue
  files : (∀ key reply, ⟨.deleteAsset key, reply⟩ ∈ events → reply = .ok ()) →
    (∀ path, site'.files.file? path = site.files.file? path) ∨
      ∃ id, ⟨.newId, id⟩ ∈ events ∧ BrokeOff upload site id site'

theorem Traceless.mono {upload : Upload} {site site' : Site} {events more : List (Event working)}
    (traceless : Traceless upload site events site') (among : events ⊆ more) :
    Traceless upload site more site' := by
  refine ⟨traceless.catalogue, traceless.queue, fun succeeds => ?_⟩
  rcases traceless.files fun key reply mem => succeeds key reply (among mem) with same | ⟨id, mem, broke⟩
  · exact .inl same
  · exact .inr ⟨id, among mem, broke⟩

/-- The upload has one record more, its file, and at most one entry of the queue more. -/
structure Admitted (upload : Upload) (site : Site) (row : Record) (site' : Site) : Prop where
  rows : site'.catalogue.rows = site.catalogue.rows ++ [row]
  pending : row.status = Status.pending.name
  original : site.store.object? site'.files row.uploadPath = some upload.source.content
  others : ∀ path, site.store.locate row.uploadPath ≠ .ok path →
    site'.files.file? path = site.files.file? path
  queue : Announced site.publisher row.id row.processingType site.queue site'.queue

structure Kept (upload : Upload) (site : Site) (id key : String) (site' : Site) : Prop
    extends FilesOnly site site' where
  keyed : key = uploadKey site.store id upload
  there : site.store.object? site'.files key = some upload.source.content
  apart : ∀ path, site.store.locate key ≠ .ok path → site'.files.file? path = site.files.file? path

variable {id : String} {upload : Upload}

theorem Kept.traceless (kept : Kept upload site id key between)
    (discarded : Discarded key between events site')
    (fresh : ∀ path, site.store.locate (uploadKey site.store id upload) = .ok path →
      site.files.file? path = none) : Traceless upload site events site' := by
  have filesOnly := kept.toFilesOnly.trans discarded.toFilesOnly
  refine ⟨filesOnly.catalogue, filesOnly.queue, fun succeeds => .inl fun path => ?_⟩
  obtain ⟨reply, asked, gone⟩ := discarded.asked
  have apart := discarded.apart path
  rw [kept.store] at gone apart
  by_cases located : site.store.locate key = .ok path
  · have named : key.isEmpty = false := by simp [kept.keyed, uploadKey, objectKey]
    have nothing := gone (succeeds _ reply asked) named
    rw [LocalStore.object?_of_located located] at nothing
    rw [nothing, fresh path (kept.keyed ▸ located)]
  · exact (apart located).trans (kept.apart path located)

theorem Kept.admitted {row : Record} {kind : ProcessingType} {now : Instant}
    (kept : Kept upload site id key between) {recorded : Site}
    (created : Recorded (upload.draft id key kind now) between row recorded)
    (announced : site'.catalogue = recorded.catalogue ∧ site'.files = recorded.files ∧
      Announced recorded.publisher id kind.name recorded.queue site'.queue) :
    Admitted upload site row site' := by
  obtain ⟨catalogue, files, queue⟩ := announced
  obtain ⟨stamp, completed⟩ := created.columns
  obtain ⟨sameId, path, typed, status, -⟩ := Draft.columns_of_complete completed
  simp only [Draft.withUsual, Upload.draft, Option.some.injEq] at sameId path typed status
  have publisher : recorded.publisher = site.publisher :=
    congrArg (·.2.1) (created.equipment.trans kept.equipment)
  rw [created.queue, kept.queue, publisher, sameId, typed] at queue
  have sameFiles : site'.files = between.files := files.trans created.files
  constructor
  case rows => rw [catalogue, created.rows, kept.catalogue]
  case pending => exact Option.some.inj (show some row.status = some Status.pending.name from status.symm)
  case original => rw [← path, sameFiles, kept.there]
  case others =>
    intro other elsewhere
    rw [sameFiles]
    exact kept.apart other (path ▸ elsewhere)
  case queue => exact queue

theorem Kept.ended {kind : ProcessingType} {now : Instant} {result : Except Failure Record}
    (kept : Kept upload site id key between)
    (ran : Ran Site.guarded.answers (do
        let row ← Upload.record (upload.draft id key kind now) key
        Upload.announce id kind
        return row : Service Record).run between events result site')
    (fresh : ∀ path, site.store.locate (uploadKey site.store id upload) = .ok path →
      site.files.file? path = none)
    (publisher : ∀ cause, ⟨.publish id kind, .error cause⟩ ∈ events → cause.isApp = true) :
    match result with
    | .error _ => Traceless upload site events site'
    | .ok row => Admitted upload site row site' := by
  rcases Routine.ran_bind ran with
    ⟨cause, rfl, recording⟩ | ⟨row, recorded, _, _, rfl, recording, announces⟩
  · rcases recorded_of_ran recording with ⟨_, impossible, -⟩ | ⟨_, -, discarded⟩
    · cases impossible
    · exact kept.traceless discarded fresh
  rcases recorded_of_ran recording with ⟨_, same, created⟩ | ⟨_, impossible, -⟩
  · cases same
    rcases Routine.ran_bind announces with
      ⟨cause, rfl, announcing⟩ | ⟨_, _, _, _, rfl, announcing, done⟩
    · obtain ⟨other, mem⟩ := (announced_of_ran announcing).2 cause rfl
      rw [publisher cause (List.mem_append_right _ mem)] at other
      cases other
    · obtain ⟨rfl, rfl, rfl⟩ := done
      exact kept.admitted created (announced_of_ran announcing).1
  · cases impossible

theorem kept_of_calls {named saved dated : Site} {now : Instant}
    (issued : site.Responds .newId id named)
    (saving : named.Responds (.saveUpload (uploadFile id upload.filename) upload.source) (.ok key) saved)
    (dating : saved.Responds .now now dated) : Kept upload site id key dated := by
  have first := issued.filesOnly rfl rfl
  have second := saving.filesOnly rfl rfl
  have third := dating.filesOnly rfl rfl
  have write := saving.step.files
  rw [first.store, issued.step.files.files_eq rfl] at write
  obtain ⟨keyed, there⟩ := write.savedUpload_ok
  refine ⟨(first.trans second).trans third, keyed, ?_, fun path elsewhere => ?_⟩
  · rw [dating.step.files.files_eq rfl, there]
  · rw [dating.step.files.files_eq rfl]
    exact write.frame fun reached => elsewhere (keyed ▸ reached)

theorem traceless_of_calls {named : Site} {cause : Failure}
    (issued : site.Responds .newId id named)
    (saving : named.Responds (.saveUpload (uploadFile id upload.filename) upload.source)
      (.error cause) site')
    (mem : ⟨.newId, id⟩ ∈ events)
    (fresh : ∀ path, site.store.locate (uploadKey site.store id upload) = .ok path →
      site.files.file? path = none) : Traceless upload site events site' := by
  have first := issued.filesOnly rfl rfl
  have filesOnly := first.trans (saving.filesOnly rfl rfl)
  have write := saving.step.files
  rw [first.store, issued.step.files.files_eq rfl] at write
  refine ⟨filesOnly.catalogue, filesOnly.queue, fun _ => ?_⟩
  rcases write.savedUpload_error fresh with same | ⟨given, path, torn, breaks, located, there, elsewhere⟩
  · exact .inl same
  · exact .inr ⟨id, mem, given, path, torn, breaks, located, there, elsewhere⟩

end Parts

/-- Taking in an upload fails without a trace, or gives a record with all that belongs to it. The file
may be left in part if writing it broke off. -/
theorem accept_all_or_nothing {admission : Admission} {upload : Upload} {site site' : Site}
    {events : List (Event working)} {result : Except Failure Record}
    (ran : Ran Site.guarded.answers (upload.accept admission).run site events result site')
    (fresh : ∀ id path, ⟨.newId, id⟩ ∈ events →
      site.store.locate (uploadKey site.store id upload) = .ok path → site.files.file? path = none)
    (publisher : ∀ id kind cause, ⟨.publish id kind, .error cause⟩ ∈ events → cause.isApp = true) :
    match result with
    | .error _ => Traceless upload site events site'
    | .ok row => Admitted upload site row site' := by
  unfold Upload.accept at ran
  cases checked : admission.check upload.filename upload.size upload.kind with
  | error cause =>
      rw [checked] at ran
      obtain ⟨rfl, rfl, rfl⟩ := ran
      exact ⟨rfl, rfl, fun _ => .inl fun _ => rfl⟩
  | ok admitted =>
      obtain ⟨kind, extension⟩ := admitted
      obtain ⟨-, rfl⟩ := Admission.check_ok checked
      rw [checked] at ran
      rcases Routine.ran_bind ran with ⟨_, -, never⟩ | ⟨_, _, _, _, rfl, done, naming⟩
      · cases never.2.1
      obtain ⟨rfl, same, rfl⟩ := done
      cases same
      obtain ⟨id, named, _, _, rfl, told, saves⟩ := Routine.ran_tell naming
      obtain ⟨rfl, issued⟩ := Script.ran_request told
      have unused := fun path => fresh id path List.mem_cons_self
      rcases Routine.ran_bind saves with ⟨cause, rfl, asked⟩ | ⟨key, saved, _, _, rfl, asked, dates⟩
      · obtain ⟨rfl, saving⟩ := Script.ran_request asked
        exact traceless_of_calls issued saving List.mem_cons_self unused
      obtain ⟨rfl, saving⟩ := Script.ran_request asked
      obtain ⟨now, dated, _, _, rfl, told, records⟩ := Routine.ran_tell dates
      obtain ⟨rfl, dating⟩ := Script.ran_request told
      have kept := kept_of_calls issued saving dating
      have ended := kept.ended records unused fun cause mem => publisher id kind cause (by simp [mem])
      cases result with
      | error cause => exact ended.mono fun _ mem => by simp [mem]
      | ok row => exact ended

def failures (events : List (Event working)) : List Failure :=
  events.filterMap fun
    | ⟨.publish _ _, .error cause⟩ => some cause
    | ⟨.deleteAsset _, .error cause⟩ => some cause
    | _ => none

def withoutQueue (c : Call) : (site : Site) → working.Reply c × Site :=
  Site.answerBy (if c.publishes then some (.app .queueFailed none) else none) c

def unqueued : Except Failure Record × Site :=
  (dot.accept ⟨12, [".png"]⟩).run.run withoutQueue oneRoom

theorem unqueued_admitted :
    ∃ row, unqueued.1 = .ok row ∧ Admitted dot oneRoom row unqueued.2 := by
  have seen : unqueued.1.toOption.isSome = true ∧ (failures ((dot.accept ⟨12, [".png"]⟩).run.trace
      withoutQueue oneRoom)).all Failure.isApp = true := by decide +kernel
  have ran : Ran Site.guarded.answers (dot.accept ⟨12, [".png"]⟩).run oneRoom
      ((dot.accept ⟨12, [".png"]⟩).run.trace withoutQueue oneRoom) unqueued.1 unqueued.2 :=
    Script.ran_trace _ (fun c site => Site.responds_answerBy _ c site) _ oneRoom
  have run := accept_all_or_nothing ran (fun _ path _ _ => oneRoom_clean path)
    fun id kind cause mem => List.all_eq_true.mp seen.2 cause (List.mem_filterMap.mpr ⟨_, mem, rfl⟩)
  change match unqueued.1 with
    | .error _ => Traceless dot oneRoom _ unqueued.2
    | .ok row => Admitted dot oneRoom row unqueued.2 at run
  cases outcome : unqueued.1 with
  | error cause =>
      rw [outcome] at seen
      cases seen.1
  | ok row =>
      rw [outcome] at run
      exact ⟨row, rfl, run⟩

def cutDot : Upload :=
  { dot with source := .stream ⟨#[0x50]⟩ (some (.foreign .device "connection reset")) }

theorem cutDot_leaves_part : ¬ ∀ events cause site',
    Ran Site.guarded.answers (cutDot.accept ⟨12, [".png"]⟩).run oneRoom events (.error cause) site' →
    (∀ key reply, ⟨.deleteAsset key, reply⟩ ∈ events → reply = .ok ()) →
    ∀ path, site'.files.file? path = oneRoom.files.file? path := by
  intro claim
  have seen : ((cutDot.accept ⟨12, [".png"]⟩).run.run (Site.answerBy none) oneRoom).1.toOption.isNone ∧
      (failures ((cutDot.accept ⟨12, [".png"]⟩).run.trace (Site.answerBy none) oneRoom)).isEmpty ∧
      (((cutDot.accept ⟨12, [".png"]⟩).run.run (Site.answerBy none) oneRoom).2.files.file?
        ["data", "all", Site.idNumber 1 ++ ".png"]).isSome := by decide +kernel
  have ran := Script.ran_trace Site.guarded.answers (Site.responds_answerBy none)
    (cutDot.accept ⟨12, [".png"]⟩).run oneRoom
  obtain ⟨failed, quiet, left⟩ := seen
  generalize (cutDot.accept ⟨12, [".png"]⟩).run.run (Site.answerBy none) oneRoom = outcome at *
  obtain ⟨result, site'⟩ := outcome
  cases result with
  | ok row => cases failed
  | error cause =>
      have same := claim _ cause site' ran ?_ ["data", "all", Site.idNumber 1 ++ ".png"]
      · rw [show site'.files.file? _ = _ from same, oneRoom_clean] at left
        cases left
      · intro key reply mem
        cases reply with
        | ok _ => rfl
        | error trouble =>
            have among : trouble ∈ failures _ := List.mem_filterMap.mpr ⟨_, mem, rfl⟩
            rw [List.isEmpty_iff.mp quiet] at among
            cases among

end ImagePipeline.Workflow
