import ImagePipeline.Proofs.Asset.Deletions
import ImagePipeline.Proofs.Workflow.Interleaving

namespace ImagePipeline.Workflow

open Asset (LocalStore FileTree Source Path)
open Asset.LocalStore (Saved Deleted)

variable {store : LocalStore} {files files' : FileTree} {path : Path}

structure Cleared (store : LocalStore) (files : FileTree) (keys : List (Option String))
    (result : Except Failure Unit) (files' : FileTree) : Prop where
  apart : ∀ path, (∀ key at_, some key ∈ keys → store.locate key = .ok at_ → path ≠ at_) →
    files'.file? path = files.file? path
  fewer : ∀ path, files'.file? path = files.file? path ∨ files'.file? path = none
  gone : result = .ok () → ∀ key, some key ∈ keys → key.isEmpty = false →
    store.object? files' key = none

theorem Cleared.refused {cause : Failure} (keys : List (Option String)) :
    Cleared store files keys (.error cause) files :=
  ⟨fun _ _ => rfl, fun _ => .inl rfl, nofun⟩

theorem Cleared.file?_eq_none {keys : List (Option String)} {result : Except Failure Unit}
    (cleared : Cleared store files keys result files') (absent : files.file? path = none) :
    files'.file? path = none :=
  (cleared.fewer path).elim (·.trans absent) id

theorem Cleared.object?_eq_none {keys : List (Option String)} {result : Except Failure Unit}
    (cleared : Cleared store files keys result files') {key : String}
    (absent : store.object? files key = none) : store.object? files' key = none := by
  rw [LocalStore.object?_eq_none_iff] at *
  exact fun path located => cleared.file?_eq_none (absent path located)

theorem Cleared.cons {given : Option String} {keys : List (Option String)}
    {first later result : Except Failure Unit} {between : FileTree}
    (deleted : Deleted store files given first between)
    (cleared : Cleared store between keys later files')
    (both : result = .ok () → first = .ok () ∧ later = .ok ()) :
    Cleared store files (given :: keys) result files' where
  apart path distinct := by
    have rest := cleared.apart path fun key at_ mem => distinct key at_ (List.mem_cons_of_mem _ mem)
    refine rest.trans (deleted.apart fun key at_ same => ?_)
    exact distinct key at_ (same ▸ List.mem_cons_self)
  fewer path := by
    rcases cleared.fewer path with same | gone
    · rw [same]
      exact deleted.file?_eq path
    · exact .inr gone
  gone succeeded key mem named := by
    obtain ⟨rfl, rfl⟩ := both succeeded
    rcases List.mem_cons.mp mem with rfl | mem
    · exact cleared.object?_eq_none (deleted.object?_eq_none named)
    · exact cleared.gone rfl key mem named

namespace Site

variable {site : Site}

theorem deleteAsset_eq (key : Option String) :
    (∃ cause faults, site.deleteAsset key = (.error cause, { site with faults })) ∨
      ∃ faults, site.deleteAsset key = onFiles (site.store.delete key) { site with faults } := by
  unfold deleteAsset consult
  rcases FaultPlan.consult .deleteAsset site.faults with ⟨_ | cause, faults⟩
  · exact .inr ⟨faults, rfl⟩
  · exact .inl ⟨cause, faults, rfl⟩

theorem deleteAsset_store (key : Option String) : (site.deleteAsset key).2.store = site.store := by
  rcases site.deleteAsset_eq key with ⟨cause, faults, deleted⟩ | ⟨faults, deleted⟩ <;>
    rw [deleted]
  rfl

theorem deleteAsset_deleted (key : Option String) :
    Deleted site.store site.files key (site.deleteAsset key).1 (site.deleteAsset key).2.files := by
  rcases site.deleteAsset_eq key with ⟨cause, faults, deleted⟩ | ⟨faults, deleted⟩
  · rw [deleted]
    exact .refused key cause
  · rw [deleted]
    exact Asset.LocalStore.delete_deleted site.store key site.files

def failure? : Except Failure Unit → Option Failure
  | .ok _ => none
  | .error cause => some cause

theorem deleteEach_cons (key : Option String) (rest : List (Option String)) (before : Option Failure)
    (site : Site) : (Asset.deleteEach (fun key site => deleteAsset key site) (key :: rest) before :
        ExceptT Failure (StateM Site) Unit).run site =
      (Asset.deleteEach (fun key site => deleteAsset key site) rest
        (before <|> failure? (site.deleteAsset key).1) : ExceptT Failure (StateM Site) Unit).run
          (site.deleteAsset key).2 := by
  let delete (key : Option String) : ExceptT Failure (StateM Site) Unit := fun site => deleteAsset key site
  refine (congrFun (Asset.deleteEach_cons_run delete key rest before) site).trans ?_
  change (Asset.deleteEach delete rest (before <|> Asset.failureOf (site.deleteAsset key).1)).run
    (site.deleteAsset key).2 = _
  cases (site.deleteAsset key).1 <;> rfl

theorem deleteEach_cleared (keys : List (Option String)) (before : Option Failure) (site : Site) :
    ∃ result site', (Asset.deleteEach (fun key site => deleteAsset key site) keys before :
        ExceptT Failure (StateM Site) Unit).run site = (result, site') ∧
      site'.store = site.store ∧ (result = .ok () → before = none) ∧
      Cleared site.store site.files keys result site'.files := by
  induction keys generalizing before site with
  | nil =>
      cases before with
      | none => exact ⟨.ok (), site, rfl, rfl, fun _ => rfl, ⟨fun _ _ => rfl, fun _ => .inl rfl, nofun⟩⟩
      | some cause => exact ⟨.error cause, site, rfl, rfl, nofun, .refused _⟩
  | cons key rest ih =>
      have deleted := site.deleteAsset_deleted key
      have store := site.deleteAsset_store key
      rcases ran : site.deleteAsset key with ⟨first, between⟩
      rw [ran] at deleted store
      have step := deleteEach_cons key rest before site
      rw [ran] at step
      obtain ⟨result, site', later, kept, quiet, cleared⟩ := ih (before <|> failure? first) between
      refine ⟨result, site', step.trans later, kept.trans store, ?_, ?_⟩
      · intro succeeded
        have none_ := quiet succeeded
        cases before with
        | none => rfl
        | some cause => cases none_
      · rw [show between.store = site.store from store] at cleared
        refine .cons deleted cleared fun succeeded => ⟨?_, succeeded⟩
        have none_ := quiet succeeded
        cases first with
        | ok _ => rfl
        | error cause => cases before <;> cases none_

def equipment (site : Site) : LocalStore × Queue.Publisher × Stages :=
  (site.store, site.publisher, site.stages)

theorem onFiles_split {α : Type} {site' : Site} {operation : Asset.OnFiles α}
    {result : Except Failure α} (performed : (result, site') = site.onFiles operation) :
    result = (operation.run site.files).1 ∧ site'.files = (operation.run site.files).2 :=
  ⟨congrArg Prod.fst performed, congrArg (·.2.files) performed⟩

theorem onTable_files {α : Type} (change : Catalogue → Except Failure (α × Catalogue)) :
    (site.onTable change).2.files = site.files := by
  unfold onTable
  split <;> rfl

theorem append_eq (stream payload : String) :
    (∃ cause faults, site.append stream payload = (.error cause, { site with faults })) ∨
      ∃ faults, site.append stream payload =
        (.ok (toString (site.sent + 1) ++ "-0"),
          { site with
            faults
            sent := site.sent + 1
            queue := site.queue ++
              [⟨⟨toString (site.sent + 1) ++ "-0", [(Queue.payloadField, .text payload)]⟩, stream⟩] }) := by
  unfold append consult
  rcases FaultPlan.consult .append site.faults with ⟨_ | cause, faults⟩
  · exact .inr ⟨faults, rfl⟩
  · exact .inl ⟨cause, faults, rfl⟩

theorem publish_keeps {γ : Type} (seen : Site → γ)
    (keeps : ∀ site stream payload, seen (append stream payload site).2 = seen site)
    (id : String) (kind : ProcessingType) : seen (site.publish id kind).2 = seen site := by
  apply Script.run_keeps seen
  intro r site
  cases r with
  | append stream payload => exact keeps site stream payload
  | pause seconds => rfl

theorem append_files (stream payload : String) :
    (site.append stream payload).2.files = site.files := by
  rcases site.append_eq stream payload with ⟨cause, faults, sent⟩ | ⟨faults, sent⟩ <;> rw [sent]

theorem append_equipment (stream payload : String) :
    (site.append stream payload).2.equipment = site.equipment := by
  rcases site.append_eq stream payload with ⟨cause, faults, sent⟩ | ⟨faults, sent⟩ <;> rw [sent] <;> rfl

def Aside {γ : Type} (seen : Site → γ) : Prop :=
  ∀ site catalogue files faults issued,
    seen { site with catalogue, files, faults, issued } = seen site

end Site

def Call.publishes : Call → Bool
  | publish .. => true
  | _ => false

namespace Site

section Aside

variable {γ : Type} {seen : Site → γ}

theorem deleteAsset_keeps (aside : Aside seen) (key : Option String) :
    seen (site.deleteAsset key).2 = seen site := by
  rcases site.deleteAsset_eq key with ⟨cause, faults, deleted⟩ | ⟨faults, deleted⟩ <;>
    rw [deleted]
  · exact aside site site.catalogue site.files faults site.issued
  · exact aside site site.catalogue _ faults site.issued

theorem onTable_keeps {α : Type} (aside : Aside seen)
    (change : Catalogue → Except Failure (α × Catalogue)) : seen (site.onTable change).2 = seen site := by
  unfold onTable
  split
  · exact aside site _ site.files site.faults site.issued
  · rfl

theorem onFiles_keeps {α : Type} (aside : Aside seen) (operation : Asset.OnFiles α) :
    seen (site.onFiles operation).2 = seen site :=
  aside site site.catalogue _ site.faults site.issued

theorem perform_keeps (aside : Aside seen) (c : Call) (quiet : c.publishes = false) :
    seen (perform c site).2 = seen site := by
  cases c with
  | publish => cases quiet
  | create => exact onTable_keeps aside _
  | update => exact onTable_keeps aside _
  | delete => exact onTable_keeps aside _
  | claim => exact onTable_keeps aside _
  | saveUpload name source => exact onFiles_keeps aside _
  | saveProcessed name content => exact onFiles_keeps aside _
  | openUpload key => exact onFiles_keeps aside _
  | deleteAsset key => exact onFiles_keeps aside _
  | openProcessed key =>
      cases key with
      | some key => exact onFiles_keeps aside _
      | none => rfl
  | deleteAssets upload processed =>
      exact keeps_deleteEach _ (fun key site => deleteAsset_keeps aside key) [upload, processed] none
        site
  | newId => exact aside site site.catalogue site.files site.faults _
  | _ => rfl

theorem refuse_keeps (aside : Aside seen) (failure : Failure) (c : Call) :
    seen (refuse failure c site).2 = seen site := by
  cases c with
  | newId => exact aside site site.catalogue site.files site.faults _
  | _ => rfl

end Aside

theorem aside_equipment : Aside equipment := fun _ _ _ _ _ => rfl

theorem perform_equipment (c : Call) : (perform c site).2.equipment = site.equipment := by
  cases publishes : c.publishes with
  | false => exact perform_keeps aside_equipment c publishes
  | true =>
      cases c <;> cases publishes
      exact publish_keeps equipment (fun site stream payload => append_equipment stream payload) _ _

theorem refuse_equipment (failure : Failure) (c : Call) :
    (refuse failure c site).2.equipment = site.equipment :=
  refuse_keeps aside_equipment failure c

end Site

def Call.usesFiles : Call → Bool
  | saveUpload .. => true
  | saveProcessed .. => true
  | openUpload _ => true
  | deleteAsset _ => true
  | deleteAssets .. => true
  | _ => false

theorem Site.perform_files {site : Site} (c : Call) (elsewhere : c.usesFiles = false) :
    (perform c site).2.files = site.files := by
  cases c with
  | saveUpload => cases elsewhere
  | saveProcessed => cases elsewhere
  | openUpload => cases elsewhere
  | deleteAsset => cases elsewhere
  | deleteAssets => cases elsewhere
  | create => exact onTable_files _
  | update => exact onTable_files _
  | delete => exact onTable_files _
  | claim => exact onTable_files _
  | openProcessed key =>
      cases key with
      | some key => exact LocalStore.fetch_files site.store key site.files
      | none => rfl
  | publish id kind =>
      exact publish_keeps files (fun site stream payload => append_files stream payload) id kind
  | _ => rfl

theorem Site.refuse_files {site : Site} (failure : Failure) (c : Call) :
    (refuse failure c site).2.files = site.files := by
  cases c <;> rfl

def Tears (source given : Source) : Prop :=
  given = source ∨ ∃ part cause, part.data.toList <+: source.content.data.toList ∧
    given = .stream part (some cause)

/-- What an answered call does to the files. -/
inductive FileStep (store : LocalStore) (files : FileTree) :
    (c : Call) → working.Reply c → FileTree → Prop where
  | savedUpload {name source given result files'} (torn : Tears source given)
      (saved : Saved store store.uploadSpace name given files result files') :
      FileStep store files (.saveUpload name source) result files'
  | savedResult {name content given result files'} (torn : Tears (.bytes content) given)
      (saved : Saved store store.processedSpace name given files result files') :
      FileStep store files (.saveProcessed name content) result files'
  | opened {key reply} (there : ∀ content, reply = .ok content →
      store.object? files key = some content) : FileStep store files (.openUpload key) reply files
  | deleted {key result files'} (deleted : Deleted store files key result files') :
      FileStep store files (.deleteAsset key) result files'
  | cleared {upload processed result files'}
      (cleared : Cleared store files [upload, processed] result files') :
      FileStep store files (.deleteAssets upload processed) result files'
  | apart {c reply} (elsewhere : c.usesFiles = false) : FileStep store files c reply files

def Call.Reaches (store : LocalStore) (path : Path) : Call → Prop
  | saveUpload name _ => store.locate (Asset.objectKey store.uploadSpace name) = .ok path
  | saveProcessed name _ => store.locate (Asset.objectKey store.processedSpace name) = .ok path
  | deleteAsset key => ∃ k, key = some k ∧ store.locate k = .ok path
  | deleteAssets upload processed => ∃ k, some k ∈ [upload, processed] ∧ store.locate k = .ok path
  | _ => False

namespace FileStep

variable {c : Call} {reply : working.Reply c} {name key : String} {source : Source}
  {content : ByteArray}

theorem frame (step : FileStep store files c reply files') (beyond : ¬ c.Reaches store path) :
    files'.file? path = files.file? path := by
  cases step with
  | savedUpload torn saved =>
      refine saved.apart fun at_ located => ?_
      rintro rfl
      exact beyond located
  | savedResult torn saved =>
      refine saved.apart fun at_ located => ?_
      rintro rfl
      exact beyond located
  | opened => rfl
  | deleted deleted =>
      refine deleted.apart fun key at_ same located => ?_
      rintro rfl
      exact beyond ⟨key, same, located⟩
  | cleared cleared =>
      refine cleared.apart path fun key at_ mem located => ?_
      rintro rfl
      exact beyond ⟨key, mem, located⟩
  | apart => rfl

theorem files_eq (step : FileStep store files c reply files') (elsewhere : c.usesFiles = false) :
    files' = files := by
  cases step with
  | apart => rfl
  | _ => cases elsewhere

theorem saved_of_tears {space : String} {given : Source} (torn : Tears source given)
    (saved : Saved store space name given files (.ok key) files') :
    key = Asset.objectKey space name ∧ store.object? files' key = some source.content := by
  rcases torn with rfl | ⟨part, cause, -, rfl⟩
  · exact saved.object?_eq
  · cases saved with
    | kept _ _ whole => cases whole

theorem savedUpload_ok (step : FileStep store files (.saveUpload name source) (.ok key) files') :
    key = Asset.objectKey store.uploadSpace name ∧ store.object? files' key = some source.content := by
  cases step with
  | savedUpload torn saved => exact saved_of_tears torn saved
  | apart elsewhere => cases elsewhere

theorem savedUpload_error {cause : Failure}
    (step : FileStep store files (.saveUpload name source) (.error cause) files')
    (fresh : ∀ path, store.locate (Asset.objectKey store.uploadSpace name) = .ok path →
      files.file? path = none) :
    (∀ path, files'.file? path = files.file? path) ∨ ∃ given path, Tears source given ∧
      given.broken ≠ none ∧ store.locate (Asset.objectKey store.uploadSpace name) = .ok path ∧
      files'.file? path = some given.content ∧ LocalStore.OnlyAt path files files' := by
  cases step with
  | apart elsewhere => cases elsewhere
  | @savedUpload _ _ given _ _ torn saved =>
      cases saved with
      | refused => exact .inl fun _ => rfl
      | broken path _ failure located breaks there elsewhere =>
          exact .inr ⟨given, path, torn, by rw [breaks]; exact nofun, located, there, elsewhere⟩
      | empty path located _ _ gone elsewhere =>
          refine .inl fun other => ?_
          by_cases same : other = path
          · rw [same, gone, fresh path located]
          · exact elsewhere other same

theorem savedResult_ok (step : FileStep store files (.saveProcessed name content) (.ok key) files') :
    key = Asset.objectKey store.processedSpace name ∧ store.object? files' key = some content := by
  cases step with
  | savedResult torn saved => exact saved_of_tears torn saved
  | apart elsewhere => cases elsewhere

theorem deleted_ok (step : FileStep store files (.deleteAsset (some key)) (.ok ()) files')
    (named : key.isEmpty = false) : store.object? files' key = none := by
  cases step with
  | deleted deleted => exact deleted.object?_eq_none named
  | apart elsewhere => cases elsewhere

theorem cleared_ok {upload processed : Option String}
    (step : FileStep store files (.deleteAssets upload processed) (.ok ()) files')
    (mem : some key ∈ [upload, processed]) (named : key.isEmpty = false) :
    store.object? files' key = none := by
  cases step with
  | cleared cleared => exact cleared.gone rfl key mem named
  | apart elsewhere => cases elsewhere

theorem appears (step : FileStep store files c reply files') (there : files'.file? path ≠ none) :
    files.file? path ≠ none ∨
      (∃ name source, c = .saveUpload name source ∧
        store.locate (Asset.objectKey store.uploadSpace name) = .ok path) ∨
      ∃ name content, c = .saveProcessed name content ∧
        store.locate (Asset.objectKey store.processedSpace name) = .ok path := by
  by_cases reached : c.Reaches store path
  · cases step with
    | savedUpload => exact .inr (.inl ⟨_, _, rfl, reached⟩)
    | savedResult => exact .inr (.inr ⟨_, _, rfl, reached⟩)
    | opened => exact .inl there
    | apart => exact .inl there
    | deleted deleted =>
        rcases deleted.file?_eq path with same | gone
        · exact .inl (same ▸ there)
        · exact absurd gone there
    | cleared cleared =>
        rcases cleared.fewer path with same | gone
        · exact .inl (same ▸ there)
        · exact absurd gone there
  · exact .inl (step.frame reached ▸ there)

theorem savedResult_there {outcome : Except Failure String}
    (step : FileStep store files (.saveProcessed name content) outcome files')
    (something : content.isEmpty = false) (there : files.file? path ≠ none) :
    files'.file? path ≠ none := by
  cases step with
  | apart elsewhere => cases elsewhere
  | savedResult torn saved =>
      cases saved with
      | refused => exact there
      | broken at_ _ _ _ _ written elsewhere =>
          by_cases same : path = at_
          · subst same
            rw [written]
            exact nofun
          · rwa [elsewhere path same]
      | empty at_ _ whole nothing =>
          rcases torn with rfl | ⟨part, cause, -, rfl⟩
          · have empty : content.isEmpty = true := nothing
            rw [something] at empty
            cases empty
          · cases whole
      | kept at_ _ _ _ written elsewhere =>
          by_cases same : path = at_
          · subst same
            rw [written]
            exact nofun
          · rwa [elsewhere path same]

theorem opened_ok (step : FileStep store files (.openUpload key) (.ok content) files') :
    store.object? files key = some content := by
  cases step with
  | opened there => exact there content rfl
  | apart elsewhere => cases elsewhere

end FileStep

def Truthful (stages : Stages) : (c : Call) → working.Reply c → Prop
  | .readUpload content, .ok bytes => bytes = content
  | .decode bytes, .ok picture => stages.decode bytes = .ok picture
  | .process kind picture, .ok result => stages.process kind picture = .ok result
  | .encode picture, .ok bytes => stages.encode picture = .ok bytes
  | _, _ => True

/-- A site answers a call, where saving may break off, and an identifier may be any text. -/
inductive Site.Responds (site : Site) : (c : Call) → working.Reply c → Site → Prop where
  | answered {c reply site'} (answered : site.Answered c reply site') : Responds site c reply site'
  | named (id : String) (issued : Nat) : Responds site .newId id { site with issued }
  | tornUpload {result files} (name : String) (source : Source) (part : ByteArray) (cause : Failure)
      (begins : part.data.toList <+: source.content.data.toList)
      (ran : (site.store.save site.store.uploadSpace name (.stream part (some cause))).run site.files =
        (result, files)) : Responds site (.saveUpload name source) result { site with files }
  | tornResult {result files} (name : String) (content part : ByteArray) (cause : Failure)
      (begins : part.data.toList <+: content.data.toList)
      (ran : (site.store.save site.store.processedSpace name (.stream part (some cause))).run
        site.files = (result, files)) :
      Responds site (.saveProcessed name content) result { site with files }

theorem Site.responds_answerBy (way : Option Failure) (c : Call) (site : Site) :
    site.Responds c (answerBy way c site).1 (answerBy way c site).2 :=
  .answered (site.answered_answerBy way c)

structure SiteStep (site : Site) (c : Call) (reply : working.Reply c) (site' : Site) : Prop where
  table : TableStep site.catalogue c reply site'.catalogue
  files : FileStep site.store site.files c reply site'.files
  truthful : Truthful site.stages c reply
  equipment : site'.equipment = site.equipment

variable {site site' : Site} {c : Call} {reply : working.Reply c}

theorem fileStep_of_performed (performed : (reply, site') = Site.perform c site) :
    FileStep site.store site.files c reply site'.files := by
  cases elsewhere : c.usesFiles with
  | false =>
      have same : site'.files = site.files :=
        (congrArg (·.2.files) performed).trans (Site.perform_files c elsewhere)
      rw [same]
      exact .apart elsewhere
  | true =>
      cases c with
      | saveUpload name source =>
          have saved := LocalStore.save_saved site.store site.store.uploadSpace name source site.files
          rw [Site.perform_saveUpload_eq] at performed
          obtain ⟨result, files⟩ := Site.onFiles_split performed
          rw [← result, ← files] at saved
          exact .savedUpload (.inl rfl) saved
      | saveProcessed name content =>
          have saved := LocalStore.save_saved site.store site.store.processedSpace name
            (.bytes content) site.files
          rw [Site.perform_saveProcessed_eq] at performed
          obtain ⟨result, files⟩ := Site.onFiles_split performed
          rw [← result, ← files] at saved
          exact .savedResult (.inl rfl) saved
      | openUpload key =>
          rw [Site.perform_openUpload_eq] at performed
          obtain ⟨result, files⟩ := Site.onFiles_split performed
          rw [files, LocalStore.fetch_files]
          exact .opened fun content fetched => LocalStore.object?_of_fetched (result ▸ fetched)
      | deleteAsset key =>
          have deleted := LocalStore.delete_deleted site.store key site.files
          rw [Site.perform_deleteAsset_eq] at performed
          obtain ⟨result, files⟩ := Site.onFiles_split performed
          rw [← result, ← files] at deleted
          exact .deleted deleted
      | deleteAssets upload processed =>
          obtain ⟨result, after, ran, -, -, cleared⟩ :=
            Site.deleteEach_cleared [upload, processed] none site
          cases performed.trans ran
          exact .cleared cleared
      | _ => cases elsewhere

theorem fileStep_of_refused {failure : Failure}
    (refused : (reply, site') = Site.refuse failure c site) :
    FileStep site.store site.files c reply site'.files := by
  have same : site'.files = site.files :=
    (congrArg (·.2.files) refused).trans (Site.refuse_files failure c)
  rw [same]
  cases c with
  | saveUpload => cases refused; exact .savedUpload (.inl rfl) (.refused failure)
  | saveProcessed => cases refused; exact .savedResult (.inl rfl) (.refused failure)
  | openUpload => cases refused; exact .opened nofun
  | deleteAsset => cases refused; exact .deleted (.refused _ failure)
  | deleteAssets => cases refused; exact .cleared (.refused _)
  | _ => exact .apart rfl

theorem truthful_of_answered (answered : site.Answered c reply site') :
    Truthful site.stages c reply := by
  rcases answered with performed | ⟨failure, refused⟩
  · cases c with
    | readUpload content => cases performed; rfl
    | decode bytes =>
        cases reply with
        | ok picture => exact (congrArg Prod.fst performed).symm
        | error cause => trivial
    | process kind picture =>
        cases reply with
        | ok result => exact (congrArg Prod.fst performed).symm
        | error cause => trivial
    | encode picture =>
        cases reply with
        | ok bytes => exact (congrArg Prod.fst performed).symm
        | error cause => trivial
    | _ => trivial
  · cases c with
    | _ => cases refused; trivial

theorem Site.Responds.step (responds : site.Responds c reply site') : SiteStep site c reply site' := by
  cases responds with
  | answered answered =>
      have equipment : site'.equipment = site.equipment := by
        rcases answered with performed | ⟨failure, refused⟩
        · exact (congrArg (·.2.equipment) performed).trans (Site.perform_equipment c)
        · exact (congrArg (·.2.equipment) refused).trans (Site.refuse_equipment failure c)
      refine ⟨tableStep_of_answered answered, ?_, truthful_of_answered answered, equipment⟩
      rcases answered with performed | ⟨failure, refused⟩
      · exact fileStep_of_performed performed
      · exact fileStep_of_refused refused
  | named id issued => exact ⟨.apart trivial, .apart rfl, trivial, rfl⟩
  | tornUpload name source part cause begins ran =>
      have saved := LocalStore.save_saved site.store site.store.uploadSpace name
        (.stream part (some cause)) site.files
      rw [ran] at saved
      exact ⟨.apart trivial, .savedUpload (.inr ⟨part, cause, begins, rfl⟩) saved, trivial, rfl⟩
  | tornResult name content part cause begins ran =>
      have saved := LocalStore.save_saved site.store site.store.processedSpace name
        (.stream part (some cause)) site.files
      rw [ran] at saved
      exact ⟨.apart trivial, .savedResult (.inr ⟨part, cause, begins, rfl⟩) saved, trivial, rfl⟩

def Site.guarded : Surroundings working Site where
  answers c site reply site' := site.Responds c reply site'
  drifts site site' :=
    site'.catalogue = site.catalogue ∧ site'.files = site.files ∧ site'.equipment = site.equipment

def oneRoom : Site := { Site.stocked [] with
  store := ⟨["data"], "all", "all"⟩
  files := ⟨[(["data"], .directory), (["data", "all"], .directory)]⟩ }

theorem oneRoom_clean (path : Path) : oneRoom.files.file? path = none := by
  rw [Option.eq_none_iff_forall_ne_some]
  intro bytes found
  have node := FileTree.node?_of_file? found
  have directories : ∀ entry ∈ oneRoom.files.nodes, entry.2 = .directory := by
    simp [oneRoom]
  unfold FileTree.node? at node
  split at node
  · cases node
  · obtain ⟨before, after, nodes, -⟩ := List.lookup_eq_some_iff.mp node
    have directory := directories (path, .file bytes) (by rw [nodes]; simp)
    cases directory

end ImagePipeline.Workflow
