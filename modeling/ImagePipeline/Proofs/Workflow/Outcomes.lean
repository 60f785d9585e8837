import ImagePipeline.Proofs.Workflow.Claiming
import ImagePipeline.Proofs.Workflow.Housing
import ImagePipeline.Proofs.Workflow.Untimed

namespace ImagePipeline.Workflow

open Asset (LocalStore FileTree Path Source objectKey exists_directory_of_space exists_directory_of_locate)
open Asset.FileTree (AlikeBut)

variable {ι : Type} {store : LocalStore} {site site' : Site} {table table' : Catalogue} {c c' : Call}
  {reply : working.Reply c} {files files' : FileTree} {a b r : Record} {id : String} {path other : Path}
  {p p' : Attempt} {now : Instant}

/-- How a call comes out. -/
inductive Outcome where
  | served
  | failed (cause : Failure)
  | torn (length : Nat) (cause : Failure)

def Outcome.answer : Outcome → (c : Call) → Site → working.Reply c × Site
  | served, c, site => Site.perform c site
  | failed cause, c, site => Site.refuse cause c site
  | torn length cause, .saveProcessed name content, site =>
    site.onFiles (site.store.save site.store.processedSpace name
      (.stream (content.extract 0 length) (some cause)))
  | torn _ cause, c, site => Site.refuse cause c site

theorem Outcome.answer_torn (length : Nat) (cause : Failure) (name : String) (content : ByteArray)
    (site : Site) : (torn length cause).answer (.saveProcessed name content) site =
      site.onFiles (site.store.save site.store.processedSpace name
        (.stream (content.extract 0 length) (some cause))) := rfl

theorem Outcome.responds_answer (outcome : Outcome) (c : Call) (site : Site) :
    site.Responds c (outcome.answer c site).1 (outcome.answer c site).2 := by
  cases outcome with
  | served => exact .answered (.inl rfl)
  | failed cause => exact .answered (.inr ⟨cause, rfl⟩)
  | torn length cause =>
      cases c with
      | saveProcessed name content =>
          have begins : (content.extract 0 length).data.toList <+: content.data.toList := by
            rw [ByteArray.data_extract, Array.toList_extract]
            exact List.take_prefix _ _
          rcases ran : (site.store.save site.store.processedSpace name
            (.stream (content.extract 0 length) (some cause))).run site.files with ⟨result, files⟩
          rw [answer_torn, Site.onFiles_eq ran]
          exact .tornResult name content _ cause begins ran
      | _ => exact .answered (.inr ⟨cause, rfl⟩)

def Site.respond (way : Outcome × Instant) (c : Call) (site : Site) : working.Reply c × Site :=
  way.1.answer c { site with clock := way.2 }

/-- The records are of one image, with the same files. -/
structure SameImage (a b : Record) : Prop where
  id : b.id = a.id
  original : b.uploadPath = a.uploadPath
  kind : b.processingType = a.processingType

theorem SameImage.refl (a : Record) : SameImage a a := ⟨rfl, rfl, rfl⟩

theorem SameImage.symm (same : SameImage a b) : SameImage b a :=
  ⟨same.id.symm, same.original.symm, same.kind.symm⟩

theorem SameImage.trans (first : SameImage a b) (second : SameImage b r) : SameImage a r :=
  ⟨second.id.trans first.id, second.original.trans first.original, second.kind.trans first.kind⟩

theorem SameImage.resultFile_eq (same : SameImage a b) : resultFile b = resultFile a := by
  simp only [resultFile, same.id, same.kind]

theorem SameImage.resultKey_eq (same : SameImage a b) : resultKey store b = resultKey store a := by
  rw [resultKey, resultKey, same.resultFile_eq]

theorem sameImage_of_untimed (alike : a.untimed = b.untimed) : SameImage a b :=
  ⟨(congrArg Record.id alike).symm, (congrArg Record.uploadPath alike).symm,
    (congrArg Record.processingType alike).symm⟩

structure Lodged (store : LocalStore) (files : FileTree) (r : Record) : Prop where
  uuid : IsUuid r.id
  typed : ∃ kind : ProcessingType, r.processingType = kind.name
  named : ∃ filename, r.uploadPath = objectKey store.uploadSpace (uploadFile r.id filename)
  housed : store.Housed files r.uploadPath

namespace Lodged

theorem congr (lodged : Lodged store files a) (image : SameImage a b)
    (same : files'.HasDirectory = files.HasDirectory) : Lodged store files' b := by
  obtain ⟨uuid, ⟨kind, typed⟩, ⟨filename, named⟩, housed⟩ := lodged
  refine ⟨image.id ▸ uuid, ⟨kind, image.kind.trans typed⟩, ⟨filename, ?_⟩, ?_⟩
  · rw [image.id, image.original, named]
  · exact image.original ▸ housed.congr same

theorem plain (lodged : Lodged store files r) : Asset.Path.Plain (resultFile r) := by
  obtain ⟨kind, typed⟩ := lodged.typed
  exact resultFile_plain lodged.uuid typed

theorem walk_result (mine : Lodged store files a) (yours : Lodged store files b)
    (distinct : a.id ≠ b.id) (located : store.locate (resultKey store a) = .ok path)
    (alike : AlikeBut path files files') (located' : store.locate (resultKey store b) = .ok other) :
    files'.walk other = files.walk other ∧ files'.walk other.dropLast = files.walk other.dropLast := by
  obtain ⟨directory, leads⟩ := exists_directory_of_space store store.processedSpace
  obtain rfl := leads _ _ mine.plain located
  obtain rfl := leads _ _ yours.plain located'
  have apart : directory ++ [resultFile a] ≠ directory ++ [resultFile b] := by
    intro same
    have names := List.singleton_inj.mp (List.append_cancel_left same)
    rw [resultFile_eq, resultFile_eq] at names
    exact distinct (mine.uuid.append_inj yours.uuid names).1
  refine ⟨alike.walk_eq fun within => apart (within.eq_of_length (by simp)), ?_⟩
  rw [List.dropLast_concat]
  refine alike.walk_eq fun within => ?_
  have shorter := within.length_le
  rw [List.length_append, List.length_singleton] at shorter
  omega

theorem walk_original (mine : Lodged store files a) (yours : Lodged store files b)
    (located : store.locate (resultKey store a) = .ok path) (alike : AlikeBut path files files')
    (located' : store.locate b.uploadPath = .ok other) : files'.walk other = files.walk other := by
  obtain ⟨filename, named⟩ := yours.named
  have apart : path ≠ other := by
    rintro rfl
    have plain := uploadFile_plain yours.uuid filename
    rw [named] at located'
    obtain ⟨directory, rfl⟩ := exists_directory_of_locate mine.plain located
    obtain ⟨directory', same⟩ := exists_directory_of_locate plain located'
    have names := List.singleton_inj.mp (List.append_inj' same rfl).2
    have about : b.id = a.id := by
      rw [resultFile_eq, uploadFile] at names
      exact (mine.uuid.append_inj yours.uuid names).1.symm
    rw [about] at names
    exact uploadFile_ne_resultFile a filename names.symm
  obtain ⟨directory, name, placed, here⟩ := yours.housed
  obtain rfl : directory ++ [name] = other := Except.ok.inj (placed.symm.trans located')
  exact alike.walk_inside here apart

end Lodged

structure Attempt.Concerns (table : Catalogue) (id : String) (p : Attempt) : Prop where
  looks : ∀ other, p = looking other → other = id
  holds : ∀ r, p.record? = some r → ∃ row, table.find? id = some row ∧ SameImage row r

structure Confined (store : LocalStore) (id : String) (site site' : Site) : Prop where
  others : ∀ other, other ≠ id → site'.catalogue.find? other = site.catalogue.find? other
  ids : site'.catalogue.rows.map (·.id) = site.catalogue.rows.map (·.id)
  row : ∀ row, site.catalogue.find? id = some row →
    ∃ row', site'.catalogue.find? id = some row' ∧ SameImage row row'
  files : site'.files = site.files ∨ ∃ row path, site.catalogue.find? id = some row ∧
    store.locate (resultKey store row) = .ok path ∧ AlikeBut path site.files site'.files
  equipment : site'.equipment = site.equipment

theorem Attempt.Concerns.id_eq (concerns : p.Concerns table id) (here : p.record? = some r) :
    r.id = id := by
  obtain ⟨row, found, image⟩ := concerns.holds r here
  exact image.id.trans (Catalogue.id_of_find? found)

theorem TableChange.confined (change : TableChange table now c reply table') (keyed : table.Keyed)
    (concerns : p.Concerns table id) (allowed : p.call? = some c) :
    (∀ other, other ≠ id → table'.find? other = table.find? other) ∧
      table'.rows.map (·.id) = table.rows.map (·.id) ∧
      ∀ row, table.find? id = some row → ∃ row', table'.find? id = some row' ∧ SameImage row row' := by
  cases change with
  | found => exact ⟨fun _ _ => rfl, rfl, fun row found => ⟨row, found, .refl row⟩⟩
  | apart => exact ⟨fun _ _ => rfl, rfl, fun row found => ⟨row, found, .refl row⟩⟩
  | created => cases p <;> cases allowed
  | deleted => cases p <;> cases allowed
  | @stored record _ _ change =>
      have here : p.record? = some record := by cases p <;> cases allowed <;> rfl
      obtain rfl := concerns.id_eq here
      obtain ⟨found, there, image⟩ := concerns.holds record here
      have after := Catalogue.find?_store_self change
      refine ⟨fun other => Catalogue.find?_store_of_ne change, ?_, fun row known => ⟨_, after, ?_⟩⟩
      · obtain ⟨old, -, -, rfl⟩ := Catalogue.store_ok change
        exact Catalogue.ids_modify _ fun _ => rfl
      · obtain ⟨old, known', rfl, -⟩ := Catalogue.store_ok change
        rw [known] at there known'
        cases there
        cases known'
        exact ⟨rfl, image.original, image.kind⟩
  | @claimed named _ change =>
      have here : ∃ record, p = .claiming record ∧ named = record.id := by
        cases p <;> cases allowed
        exact ⟨_, rfl, rfl⟩
      obtain ⟨record, rfl, rfl⟩ := here
      obtain rfl := concerns.id_eq (r := record) rfl
      obtain ⟨found, there, -, after⟩ := Catalogue.find?_claim_self keyed change
      refine ⟨fun other => Catalogue.find?_claim_of_ne keyed change, ?_, fun row known => ⟨_, after, ?_⟩⟩
      · obtain ⟨old, -, -, rfl⟩ := Catalogue.claim_ok keyed change
        exact Catalogue.ids_modify _ fun _ => rfl
      · rw [known] at there
        cases there
        exact ⟨rfl, rfl, rfl⟩

theorem Outcome.touched_of_save (outcome : Outcome) (name : String) (content : ByteArray) (site : Site) :
    site.store.TouchedAt (objectKey site.store.processedSpace name) site.files
      (outcome.answer (.saveProcessed name content) site).2.files := by
  have written (source : Source) {out : working.Reply (.saveProcessed name content) × Site}
      (same : out = site.onFiles (site.store.save site.store.processedSpace name source)) :
      site.store.TouchedAt (objectKey site.store.processedSpace name) site.files out.2.files := by
    have touched := site.store.save_touched site.store.processedSpace name source site.files
    rcases ran : (site.store.save site.store.processedSpace name source).run site.files with
      ⟨result, files⟩
    rw [ran] at touched
    rw [same, Site.onFiles_eq ran]
    exact touched
  cases outcome with
  | failed cause => exact .inl rfl
  | served => exact written (.bytes content) (Site.perform_saveProcessed_eq name content)
  | torn length cause => exact written _ (answer_torn length cause name content site)

theorem confined_answer (site : Site) (concerns : p.Concerns site.catalogue id)
    (keyed : site.catalogue.Keyed)
    (store_eq : site.store = store) (allowed : p.call? = some c) (outcome : Outcome) :
    Confined store id site (outcome.answer c site).2 := by
  have responds := outcome.responds_answer c site
  obtain ⟨others, ids, row⟩ := responds.change.confined keyed concerns allowed
  refine ⟨others, ids, row, ?_, responds.step.equipment⟩
  rcases p.files_cases allowed with elsewhere | ⟨key, rfl⟩ | ⟨record, result, content, rfl, rfl⟩
  · exact .inl (responds.step.files.files_eq elsewhere)
  · have opened := responds.step.files
    generalize (outcome.answer (.openUpload key) site).2.files = files at opened ⊢
    cases opened <;> exact .inl rfl
  · obtain ⟨row, found, image⟩ := concerns.holds record rfl
    have touched := outcome.touched_of_save (resultFile record) content site
    rcases touched with same | ⟨path, located, alike⟩
    · exact .inl same
    · rw [store_eq, image.resultFile_eq] at located
      exact .inr ⟨row, path, found, located, alike⟩

/-- The sites are alike in what an attempt on the image sees. -/
structure Alike (store : LocalStore) (id : String) (site site' : Site) : Prop where
  row : (site'.catalogue.find? id).map Record.untimed = (site.catalogue.find? id).map Record.untimed
  equipment : site'.equipment = site.equipment
  original : ∀ row path, site.catalogue.find? id = some row → store.locate row.uploadPath = .ok path →
    site'.files.walk path = site.files.walk path
  result : ∀ row path, site.catalogue.find? id = some row →
    store.locate (resultKey store row) = .ok path → site'.files.walk path = site.files.walk path ∧
      site'.files.walk path.dropLast = site.files.walk path.dropLast

structure AnsweredAlike (store : LocalStore) (id : String) (c c' : Call) (out : working.Reply c × Site)
    (out' : working.Reply c' × Site) : Prop where
  event : Event.untimed ⟨c, out.1⟩ = Event.untimed ⟨c', out'.1⟩
  after : Alike store id out.2 out'.2

theorem Alike.refl (store : LocalStore) (id : String) (site : Site) : Alike store id site site :=
  ⟨rfl, rfl, fun _ _ _ _ => rfl, fun _ _ _ _ => ⟨rfl, rfl⟩⟩

theorem Alike.row_some (alike : Alike store id site site') (found : site.catalogue.find? id = some r) :
    ∃ r', site'.catalogue.find? id = some r' ∧ r'.untimed = r.untimed := by
  have row := alike.row
  rw [found] at row
  exact Option.map_eq_some_iff.mp row

theorem Alike.symm (alike : Alike store id site site') : Alike store id site' site := by
  have other {row : Record} (found : site'.catalogue.find? id = some row) :
      ∃ old, site.catalogue.find? id = some old ∧ SameImage row old := by
    have row := alike.row
    rw [found] at row
    obtain ⟨old, found, same⟩ := Option.map_eq_some_iff.mp row.symm
    exact ⟨old, found, (sameImage_of_untimed same).symm⟩
  refine ⟨alike.row.symm, alike.equipment.symm, fun row path found located => ?_,
    fun row path found located => ?_⟩
  · obtain ⟨old, there, image⟩ := other found
    exact (alike.original old path there (image.original ▸ located)).symm
  · obtain ⟨old, there, image⟩ := other found
    obtain ⟨here, above⟩ := alike.result old path there (image.resultKey_eq ▸ located)
    exact ⟨here.symm, above.symm⟩

theorem Alike.change {after after' : Site} (alike : Alike store id site site')
    (row : (after'.catalogue.find? id).map Record.untimed =
      (after.catalogue.find? id).map Record.untimed)
    (image : ∀ row, after.catalogue.find? id = some row →
      ∃ old, site.catalogue.find? id = some old ∧ SameImage old row)
    (files : after.files = site.files) (files' : after'.files = site'.files)
    (equipment : after.equipment = site.equipment) (equipment' : after'.equipment = site'.equipment) :
    Alike store id after after' := by
  refine ⟨row, by rw [equipment, equipment', alike.equipment], fun row path found located => ?_,
    fun row path found located => ?_⟩
  · obtain ⟨old, there, same⟩ := image row found
    rw [files, files']
    exact alike.original old path there (same.original ▸ located)
  · obtain ⟨old, there, same⟩ := image row found
    rw [files, files']
    exact alike.result old path there (same.resultKey_eq ▸ located)

theorem Alike.kept {after after' : Site} (alike : Alike store id site site')
    (table : after.catalogue = site.catalogue) (table' : after'.catalogue = site'.catalogue)
    (files : after.files = site.files) (files' : after'.files = site'.files)
    (equipment : after.equipment = site.equipment) (equipment' : after'.equipment = site'.equipment) :
    Alike store id after after' := by
  refine alike.change ?_ (fun row found => ⟨row, table ▸ found, .refl row⟩) files files' equipment
    equipment'
  rw [table, table']
  exact alike.row

theorem Alike.trans {between : Site} (first : Alike store id site between)
    (second : Alike store id between site') : Alike store id site site' := by
  refine ⟨second.row.trans first.row, second.equipment.trans first.equipment,
    fun row path found located => ?_, fun row path found located => ?_⟩
  · obtain ⟨row', there, same⟩ := first.row_some found
    have image := sameImage_of_untimed same
    exact (second.original row' path there (image.original ▸ located)).trans
      (first.original row path found located)
  · obtain ⟨row', there, same⟩ := first.row_some found
    have image := sameImage_of_untimed same
    obtain ⟨here, above⟩ := second.result row' path there (image.resultKey_eq ▸ located)
    obtain ⟨here', above'⟩ := first.result row path found located
    exact ⟨here.trans here', above.trans above'⟩

theorem alike_of_confined {other : String} (confined : Confined store other site site')
    (distinct : id ≠ other) (lodged : ∀ row ∈ site.catalogue.rows, Lodged store site.files row) :
    Alike store id site site' := by
  have row := confined.others id distinct
  refine ⟨by rw [row], confined.equipment, fun mine path found located => ?_,
    fun mine path found located => ?_⟩
  · rcases confined.files with same | ⟨yours, at_, there, leads, alike⟩
    · rw [same]
    · exact (lodged yours (Catalogue.mem_of_find? there)).walk_original
        (lodged mine (Catalogue.mem_of_find? found)) leads alike located
  · rcases confined.files with same | ⟨yours, at_, there, leads, alike⟩
    · rw [same]
      exact ⟨rfl, rfl⟩
    · refine (lodged yours (Catalogue.mem_of_find? there)).walk_result
        (lodged mine (Catalogue.mem_of_find? found)) ?_ leads alike located
      rw [Catalogue.id_of_find? there, Catalogue.id_of_find? found]
      exact distinct.symm

namespace Site

theorem perform_update_found {record old : Record} (found : site.catalogue.find? record.id = some old) :
    perform (.update record) site = (.ok (Catalogue.overwrite old record site.clock),
      { site with catalogue :=
          site.catalogue.modify record.id fun old => Catalogue.overwrite old record site.clock }) :=
  onTable_ok (fun table => table.store record site.clock)
    (Catalogue.store_of_found site.clock found)

end Site

section Answers

variable (alike : Alike store id site site')

include alike

theorem find_alike : AnsweredAlike store id (.find id) (.find id) (Site.perform (.find id) site)
    (Site.perform (.find id) site') := by
  refine ⟨?_, alike.kept rfl rfl rfl rfl rfl rfl⟩
  have row := alike.row
  have same : (site.catalogue.find id).map Record.untimed =
      (site'.catalogue.find id).map Record.untimed := by
    unfold Catalogue.find
    cases found : site.catalogue.find? id with
    | none =>
        rw [found] at row
        rw [Option.map_eq_none_iff.mp row]
    | some r =>
        obtain ⟨r', found', untimed⟩ := alike.row_some found
        rw [found']
        exact congrArg Except.ok untimed.symm
  exact congrArg (fun reply => (⟨.find id, reply⟩ : Event working)) same

theorem claim_alike (keyed : site.catalogue.Keyed) (keyed' : site'.catalogue.Keyed) :
    AnsweredAlike store id (.claim id) (.claim id) (Site.perform (.claim id) site)
      (Site.perform (.claim id) site') := by
  cases found : site.catalogue.find? id with
  | none =>
      have row := alike.row
      rw [found] at row
      rw [Site.perform_claim_none found, Site.perform_claim_none (Option.map_eq_none_iff.mp row)]
      exact ⟨rfl, alike⟩
  | some r =>
      obtain ⟨r', found', untimed⟩ := alike.row_some found
      have readiness := congrArg (fun r : Record => r.canBeProcessed) untimed
      have claimed := congrArg (fun r : Record => some (r.claimedAt default)) untimed
      cases ready : r.canBeProcessed with
      | false =>
          rw [Site.perform_claim_unready keyed found ready,
            Site.perform_claim_unready keyed' found' (readiness.trans ready)]
          exact ⟨rfl, alike⟩
      | true =>
          rw [Site.perform_claim_ready keyed found ready,
            Site.perform_claim_ready keyed' found' (readiness.trans ready)]
          have after {table : Catalogue} {r : Record} (found : table.find? id = some r) (now : Instant) :
              (table.modify id fun r => r.claimedAt now).find? id = some (r.claimedAt now) :=
            Catalogue.find?_modify_found found _ fun _ => rfl
          refine ⟨rfl, alike.change ?_ ?_ rfl rfl rfl rfl⟩
          · rw [after found', after found]
            exact claimed
          · intro row there
            rw [after found] at there
            cases there
            exact ⟨r, found, rfl, rfl, rfl⟩

theorem update_alike {record record' : Record} (image : SameImage r record)
    (found : site.catalogue.find? id = some r) (same : record.untimed = record'.untimed) :
    AnsweredAlike store id (.update record) (.update record') (Site.perform (.update record) site)
      (Site.perform (.update record') site') := by
  obtain ⟨r', found', untimed⟩ := alike.row_some found
  obtain rfl : record.id = id := image.id.trans (Catalogue.id_of_find? found)
  have named : record'.id = record.id := (sameImage_of_untimed same).id
  have row : (Catalogue.overwrite r' record' site'.clock).untimed =
      (Catalogue.overwrite r record site.clock).untimed := by
    have id_ : r'.id = r.id := (sameImage_of_untimed untimed).id.symm
    have created : r'.untimed.createdAt = r.untimed.createdAt := by rw [untimed]
    change r'.createdAt = r.createdAt at created
    have whole : { record'.untimed with id := r'.id, createdAt := r'.createdAt } =
        { record.untimed with id := r.id, createdAt := r.createdAt } := by
      rw [same, id_, created]
    exact whole
  have after {table : Catalogue} {old : Record} (found : table.find? record.id = some old)
      (written : Record) (now : Instant) :
      (table.modify record.id fun old => Catalogue.overwrite old written now).find? record.id =
        some (Catalogue.overwrite old written now) :=
    Catalogue.find?_modify_found found _ fun _ => rfl
  rw [Site.perform_update_found found, Site.perform_update_found (named ▸ found')]
  refine ⟨?_, alike.change ?_ ?_ rfl rfl rfl rfl⟩
  · change (⟨.update record.untimed, .ok (Catalogue.overwrite r record site.clock).untimed⟩ :
        Event working) =
      ⟨.update record'.untimed, .ok (Catalogue.overwrite r' record' site'.clock).untimed⟩
    rw [row, same]
  · rw [named, after found', after found]
    exact congrArg some row
  · intro row there
    rw [after found] at there
    cases there
    exact ⟨r, found, rfl, image.original, image.kind⟩

theorem Alike.store_eq : site'.store = site.store := congrArg Prod.fst alike.equipment

theorem open_alike (same : site.store = store) (found : site.catalogue.find? id = some r) :
    AnsweredAlike store id (.openUpload r.uploadPath) (.openUpload r.uploadPath)
      (Site.perform (.openUpload r.uploadPath) site) (Site.perform (.openUpload r.uploadPath) site') := by
  have fetched := site.store.fetch_congr r.uploadPath fun path located =>
    alike.original r path found (same ▸ located)
  rw [Site.perform_openUpload_eq, Site.perform_openUpload_eq, alike.store_eq]
  have kept := LocalStore.fetch_files site.store r.uploadPath site.files
  have kept' := LocalStore.fetch_files site.store r.uploadPath site'.files
  rcases ran : (site.store.fetch r.uploadPath).run site.files with ⟨result, files⟩
  rcases ran' : (site.store.fetch r.uploadPath).run site'.files with ⟨result', files'⟩
  rw [ran, ran'] at fetched
  rw [ran] at kept
  rw [ran'] at kept'
  rw [Site.onFiles_eq ran, Site.onFiles_eq ran', show result' = result from fetched]
  exact ⟨rfl, alike.kept rfl rfl kept kept' rfl rfl⟩

omit alike in
theorem walks_of_touched (lodged : Lodged store files r)
    (touched : store.TouchedAt (resultKey store r) files files') :
    (∀ path, store.locate r.uploadPath = .ok path → files'.walk path = files.walk path) ∧
      ∀ path, store.locate (resultKey store r) = .ok path →
        files'.walk path.dropLast = files.walk path.dropLast := by
  rcases touched with rfl | ⟨at_, leads, alike⟩
  · exact ⟨fun _ _ => rfl, fun _ _ => rfl⟩
  · refine ⟨fun path located => lodged.walk_original lodged leads alike located, fun path located => ?_⟩
    obtain rfl : at_ = path := Except.ok.inj (leads.symm.trans located)
    exact alike.walk_dropLast

theorem save_alike (same : site.store = store) (found : site.catalogue.find? id = some r)
    (lodged : Lodged store site.files r) (found' : site'.catalogue.find? id = some b)
    (lodged' : Lodged store site'.files b) (source : Source) (content : ByteArray) :
    AnsweredAlike store id (.saveProcessed (resultFile r) content) (.saveProcessed (resultFile r) content)
      (site.onFiles (site.store.save site.store.processedSpace (resultFile r) source))
      (site'.onFiles (site'.store.save site'.store.processedSpace (resultFile r) source)) := by
  have image : SameImage b r := by
    obtain ⟨b', there, untimed⟩ := alike.row_some found
    rw [found'] at there
    cases there
    exact sameImage_of_untimed untimed
  have lodged' := lodged'.congr image rfl
  rw [alike.store_eq, same]
  cases located : store.locate (resultKey store r) with
  | error cause =>
      rw [Site.onFiles_eq (LocalStore.save_run_unlocated located),
        Site.onFiles_eq (LocalStore.save_run_unlocated located)]
      exact ⟨rfl, alike⟩
  | ok path =>
      obtain ⟨here, above⟩ := alike.result r path found located
      obtain ⟨saved, there⟩ := LocalStore.save_congr source located here above
      have walks := walks_of_touched lodged
        (store.save_touched store.processedSpace (resultFile r) source site.files)
      have walks' := walks_of_touched lodged'
        (store.save_touched store.processedSpace (resultFile r) source site'.files)
      rcases ran : (store.save store.processedSpace (resultFile r) source).run site.files with
        ⟨result, files⟩
      rcases ran' : (store.save store.processedSpace (resultFile r) source).run site'.files with
        ⟨result', files'⟩
      rw [ran, ran'] at saved there
      rw [ran] at walks
      rw [ran'] at walks'
      rw [Site.onFiles_eq ran, Site.onFiles_eq ran', show result' = result from saved]
      refine ⟨rfl, alike.row, alike.equipment, fun row at_ known leads => ?_,
        fun row at_ known leads => ?_⟩
      · obtain rfl : r = row := Option.some.inj (found.symm.trans known)
        exact (walks'.1 at_ leads).trans ((alike.original r at_ found leads).trans (walks.1 at_ leads).symm)
      · obtain rfl : r = row := Option.some.inj (found.symm.trans known)
        obtain rfl : path = at_ := Except.ok.inj (located.symm.trans leads)
        exact ⟨there, (walks'.2 path leads).trans (above.trans (walks.2 path leads).symm)⟩

theorem refused_alike (allowed : p.call? = some c) (cause : Failure) :
    AnsweredAlike store id c c (Site.refuse cause c site) (Site.refuse cause c site') := by
  cases p <;> cases allowed <;> exact ⟨rfl, alike⟩

theorem served_alike (same : site.store = store) (keyed : site.catalogue.Keyed)
    (keyed' : site'.catalogue.Keyed) (lodged : ∀ row ∈ site.catalogue.rows, Lodged store site.files row)
    (lodged' : ∀ row ∈ site'.catalogue.rows, Lodged store site'.files row)
    (concerns : p.Concerns site.catalogue id) (allowed : p.call? = some c) :
    AnsweredAlike store id c c (Site.perform c site) (Site.perform c site') := by
  have equipped : site'.stages = site.stages := congrArg (·.2.2) alike.equipment
  cases p with
  | ended => cases allowed
  | looking other =>
      cases allowed
      obtain rfl := concerns.looks other rfl
      exact find_alike alike
  | claiming record =>
      cases allowed
      obtain rfl := concerns.id_eq (r := record) rfl
      exact claim_alike alike keyed keyed'
  | opening record =>
      cases allowed
      obtain ⟨row, found, image⟩ := concerns.holds record rfl
      rw [image.original]
      exact open_alike alike same found
  | decoding record bytes =>
      cases allowed
      refine ⟨?_, alike⟩
      rw [Site.perform, Site.perform, equipped]
  | processing record picture =>
      cases allowed
      refine ⟨?_, alike⟩
      rw [Site.perform, Site.perform, equipped]
  | encoding record result =>
      cases allowed
      refine ⟨?_, alike⟩
      rw [Site.perform, Site.perform, equipped]
  | saving record result encoded =>
      cases allowed
      obtain ⟨row, found, image⟩ := concerns.holds record rfl
      obtain ⟨row', found', -⟩ := alike.row_some found
      rw [image.resultFile_eq]
      exact save_alike alike same found (lodged row (Catalogue.mem_of_find? found)) found'
        (lodged' row' (Catalogue.mem_of_find? found')) (.bytes encoded) encoded
  | storing record =>
      cases allowed
      obtain ⟨row, found, image⟩ := concerns.holds record rfl
      exact update_alike alike image found rfl
  | reporting record cause =>
      cases allowed
      obtain ⟨row, found, image⟩ := concerns.holds record rfl
      exact update_alike alike image found rfl
  | _ =>
      cases allowed
      exact ⟨rfl, alike⟩

end Answers

theorem answered_alike (alike : Alike store id site site') (same : site.store = store)
    (keyed : site.catalogue.Keyed) (keyed' : site'.catalogue.Keyed)
    (lodged : ∀ row ∈ site.catalogue.rows, Lodged store site.files row)
    (lodged' : ∀ row ∈ site'.catalogue.rows, Lodged store site'.files row)
    (concerns : p.Concerns site.catalogue id) (untimed : p.untimed = p'.untimed)
    (allowed : p.call? = some c) (allowed' : p'.call? = some c') (outcome : Outcome) :
    AnsweredAlike store id c c' (outcome.answer c site) (outcome.answer c' site') := by
  have calls : c.untimed = c'.untimed := by
    have both := p.call?_untimed.symm.trans ((congrArg Attempt.call? untimed).trans p'.call?_untimed)
    rw [allowed, allowed'] at both
    exact Option.some.inj both
  rcases Call.untimed_cases calls with rfl | ⟨record, record', rfl, rfl, records⟩
  · cases outcome with
    | served => exact served_alike alike same keyed keyed' lodged lodged' concerns allowed
    | failed cause => exact refused_alike alike allowed cause
    | torn length cause =>
        cases p with
        | saving record result encoded =>
            cases allowed
            obtain ⟨row, found, image⟩ := concerns.holds record rfl
            obtain ⟨row', found', -⟩ := alike.row_some found
            rw [Outcome.answer_torn, Outcome.answer_torn, image.resultFile_eq]
            exact save_alike alike same found (lodged row (Catalogue.mem_of_find? found)) found'
              (lodged' row' (Catalogue.mem_of_find? found')) _ encoded
        | ended => cases allowed
        | _ =>
            cases allowed
            exact ⟨rfl, alike⟩
  · have here : p.record? = some record := by cases p <;> cases allowed <;> rfl
    obtain ⟨row, found, image⟩ := concerns.holds record here
    have refused (cause : Failure) : AnsweredAlike store id (.update record) (.update record')
        (Site.refuse cause (.update record) site) (Site.refuse cause (.update record') site') := by
      refine ⟨?_, alike⟩
      change (⟨.update record.untimed, .error cause⟩ : Event working) =
        ⟨.update record'.untimed, .error cause⟩
      rw [records]
    cases outcome with
    | served => exact update_alike alike image found records
    | failed cause => exact refused cause
    | torn length cause => exact refused cause

end ImagePipeline.Workflow
