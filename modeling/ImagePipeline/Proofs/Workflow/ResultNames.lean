import ImagePipeline.Proofs.Asset.Keys
import ImagePipeline.Proofs.Workflow.Housing
import ImagePipeline.Proofs.Workflow.Recording

namespace ImagePipeline

namespace Text

theorem splitExtension_append {stem tail : List Char} {last : Char} (visible : inExtension last = true)
    (plain : ∀ c ∈ tail, inExtension c = true) :
    splitExtensionChars (stem ++ last :: '.' :: tail) = (stem ++ [last], '.' :: tail) := by
  have behind : ∀ c ∈ tail.reverse, inExtension c = true := fun c mem => plain c (List.mem_reverse.mp mem)
  have reversed : (stem ++ last :: '.' :: tail).reverse =
      tail.reverse ++ '.' :: last :: stem.reverse := by simp
  have dot : inExtension '.' = false := by decide
  obtain ⟨other, apart⟩ : last ≠ '.' ∧ last ≠ '/' := by simpa [inExtension] using visible
  unfold splitExtensionChars
  simp only [reversed, List.takeWhile_append_of_pos behind, List.dropWhile_append_of_pos behind]
  simp [dot, other, apart]

theorem extension_of_toList {name : String} {stem tail : List Char} {last : Char}
    (written : name.toList = stem ++ last :: '.' :: tail) (visible : inExtension last = true)
    (plain : ∀ c ∈ tail, inExtension c = true) : extension name = String.ofList ('.' :: tail) := by
  rw [extension, written, splitExtension_append visible plain]

end Text

namespace Workflow

open Asset (objectKey)
open Script (Ran)
open Routine (ran_bind)

theorem exists_last_of_kind (kind : ProcessingType) :
    ∃ stem last, kind.name.toList = stem ++ [last] ∧ Text.inExtension last = true := by
  cases kind with
  | resize => exact ⟨"resiz".toList, 'e', rfl, by decide⟩
  | thumbnail => exact ⟨"thumbnai".toList, 'l', rfl, by decide⟩
  | watermark => exact ⟨"watermar".toList, 'k', rfl, by decide⟩

theorem extension_resultKey (space : String) {r : Record} {kind : ProcessingType}
    (typed : r.processingType = kind.name) :
    Text.extension (objectKey space (resultFile r)) = Encode.outputExtension := by
  obtain ⟨stem, last, name, visible⟩ := exists_last_of_kind kind
  have written : (objectKey space (resultFile r)).toList =
      ((Asset.trimSlashes space ++ "/" ++ r.id ++ "_").toList ++ stem) ++
        last :: '.' :: ['j', 'p', 'g'] := by
    simp [objectKey, resultFile, typed, name, Encode.outputExtension]
  rw [Text.extension_of_toList written visible (by simp [Text.inExtension])]
  rfl

theorem resultName_resultKey (filename space : String) {r : Record} {kind : ProcessingType}
    (typed : r.processingType = kind.name) :
    resultName filename r.processingType (objectKey space (resultFile r)) =
      Text.withoutExtension filename ++ "_" ++ r.processingType ++ ".jpg" := by
  rw [resultName, extension_resultKey space typed]
  rfl

/-- The result that the record names was saved before under the name of its file. -/
def Backed (past : List (Event working)) (r : Record) : Prop :=
  ∀ key, r.processedPath = some key →
    ∃ content, ⟨.saveProcessed (resultFile r) content, .ok key⟩ ∈ past

def Attempt.Backed (past : List (Event working)) : Attempt → Prop
  | completing record _ key => ∃ content, ⟨.saveProcessed (resultFile record) content, .ok key⟩ ∈ past
  | storing completed => Workflow.Backed past completed
  | reporting failed _ => Workflow.Backed past failed
  | _ => True

section Backed

variable {past more : List (Event working)} {r : Record} {p p' : Attempt} {c : Call}
  {reply : working.Reply c}

theorem Backed.append (backed : Backed past r) (more : List (Event working)) :
    Backed (past ++ more) r := by
  intro key named
  obtain ⟨content, mem⟩ := backed key named
  exact ⟨content, List.mem_append_left _ mem⟩

theorem Attempt.backed_afterFailure (record : Record) (what : String) (expected : Failure → Bool)
    (cause : Failure) : (afterFailure record what expected cause).Backed past := by
  unfold afterFailure
  split <;> trivial

theorem Attempt.Backed.step (backed : p.Backed past) (step : p.Step c reply p') :
    p'.Backed (past ++ [⟨c, reply⟩]) := by
  cases step with
  | found id record => split <;> trivial
  | refused record cause => split <;> trivial
  | saved record result bytes key => exact ⟨bytes, List.mem_append_right _ List.mem_cons_self⟩
  | finished record result key now =>
      intro other named
      obtain rfl : key = other := Option.some.inj named
      obtain ⟨content, mem⟩ := backed
      exact ⟨content, List.mem_append_left _ mem⟩
  | stamped record message cause now => exact nofun
  | notOpened | notRead | notDecoded | notProcessed | notEncoded | notSaved | notStored =>
      exact backed_afterFailure ..
  | _ => trivial

theorem Attempt.Backed.of_update (backed : p.Backed past) (allowed : p.call? = some (.update r)) :
    Workflow.Backed past r := by
  cases p <;> cases allowed <;> exact backed

structure Attempt.Covered (past : List (Event working)) (p : Attempt) : Prop where
  stage : p.Backed past
  written : ∀ r reply, ⟨.update r, reply⟩ ∈ past → Workflow.Backed past r

theorem Attempt.Covered.step (covered : p.Covered past) (allowed : p.call? = some c)
    (step : p.Step c reply p') : p'.Covered (past ++ [⟨c, reply⟩]) where
  stage := covered.stage.step step
  written := by
    intro r other mem
    rcases List.mem_append.mp mem with before | now
    · exact (covered.written r other before).append _
    · cases List.mem_singleton.mp now
      exact (covered.stage.of_update allowed).append _

theorem backed_of_processImage {σ : Type} {answers : (c : Call) → σ → working.Reply c → σ → Prop}
    {id : String} {state state' : σ} {events : List (Event working)} {result : Except Failure Unit}
    (ran : Ran answers (processImage id).run state events result state') {reply : Except Failure Record}
    (wrote : ⟨.update r, reply⟩ ∈ events) : Backed events r := by
  have first : (Attempt.looking id).Covered [] := ⟨trivial, by simp⟩
  obtain ⟨_, -, covered⟩ := Attempt.ran (fun _ past p => p.Covered past)
    (fun covered allowed _ step => covered.step allowed step) first ran
  exact covered.written r reply wrote

end Backed

/-- A record whose result processing made: one with the kind and the result that a run of processing
wrote, whatever happened around it and in whichever store it saved, or one in a table to which errands
side by side led. -/
inductive Made (r : Record) : Prop where
  | written {σ : Type} (answers : (c : Call) → σ → working.Reply c → σ → Prop) (id : String)
      (state state' : σ) (events : List (Event working)) (result : Except Failure Unit)
      (ran : Ran answers (processImage id).run state events result state')
      (stored : ∀ name content key, ⟨.saveProcessed name content, .ok key⟩ ∈ events →
        Asset.Gave name key)
      (row : Record) (reply : Except Failure Record) (wrote : ⟨.update row, reply⟩ ∈ events)
      (typed : r.processingType = row.processingType) (kept : r.processedPath = row.processedPath)
      (known : ∃ kind : ProcessingType, row.processingType = kind.name) : Made r
  | reached {ι : Type} [DecidableEq ι] (errands : ι → Errand) (start : Site)
      (empty : start.catalogue.rows = []) (e : Ensemble working ι Site (Except Failure Unit))
      (reached : Ensemble.Reaches Site.guarded (.start start fun i => (errands i).service.run) e)
      (given : GivenOnce fun i => (e.threads i).past) (mem : r ∈ e.shared.catalogue.rows) : Made r

theorem Made.resultName_eq {r : Record} {key : String} (made : Made r) (named : r.processedPath = some key) :
    resultName r.uploadFilename r.processingType key =
      Text.withoutExtension r.uploadFilename ++ "_" ++ r.processingType ++ ".jpg" := by
  cases made with
  | written answers id state state' events result ran stored row reply wrote typed kept known =>
      obtain ⟨kind, known⟩ := known
      obtain ⟨content, saved⟩ := backed_of_processImage ran wrote key (kept.symm.trans named)
      obtain ⟨space, rfl⟩ := (stored _ content key saved).exists_space
      rw [typed]
      exact resultName_resultKey r.uploadFilename space known
  | reached errands start empty e reached given mem =>
      obtain ⟨stages, accounted, -⟩ := Housing.of_reaches errands start empty reached given
      have traced := accounted.rows r mem
      obtain ⟨kind, typed⟩ := traced.typed
      obtain ⟨i, upload, -, ofUpload⟩ := traced
      rcases ofUpload.result with nothing | own
      · cases nothing.symm.trans named
      · cases own.symm.trans named
        exact resultName_resultKey r.uploadFilename start.store.processedSpace typed

section Named

variable {σ : Type} {answers : (c : Call) → σ → working.Reply c → σ → Prop} {id : String}
  {state state' : σ} {events : List (Event working)} {content : ByteArray} {name : String}

theorem uploadedFile_named
    (ran : Ran answers (uploadedFile id).run state events (.ok (content, name)) state') :
    ∃ r, ⟨.find id, .ok r⟩ ∈ events ∧ name = r.uploadFilename := by
  rcases ran_bind ran with ⟨_, impossible, -⟩ | ⟨r, _, _, _, rfl, looked, opens⟩
  · cases impossible
  obtain ⟨rfl, -⟩ := Script.ran_request looked
  rcases ran_bind opens with ⟨_, impossible, -⟩ | ⟨_, _, _, _, rfl, -, reads⟩
  · cases impossible
  rcases ran_bind reads with ⟨_, impossible, -⟩ | ⟨_, _, _, _, rfl, -, done⟩
  · cases impossible
  cases done.2.1
  exact ⟨r, List.mem_cons_self, rfl⟩

theorem processedFile_named
    (ran : Ran answers (processedFile id).run state events (.ok (content, name)) state') :
    ∃ r key, ⟨.find id, .ok r⟩ ∈ events ∧ r.isProcessed = true ∧ r.processedPath = some key ∧
      name = resultName r.uploadFilename r.processingType key := by
  rcases ran_bind ran with ⟨_, impossible, -⟩ | ⟨r, _, _, _, rfl, looked, gives⟩
  · cases impossible
  obtain ⟨rfl, -⟩ := Script.ran_request looked
  cases done : r.isProcessed with
  | false =>
      rw [done] at gives
      rcases ran_bind gives with ⟨_, impossible, -⟩ | ⟨_, _, _, _, -, thrown, -⟩
      · cases impossible
      · cases thrown.2.1
  | true =>
      rw [done] at gives
      rcases ran_bind gives with ⟨_, impossible, -⟩ | ⟨_, _, _, _, rfl, -, names⟩
      · cases impossible
      cases named : r.processedPath with
      | none =>
          rw [named] at names
          cases names.2.1
      | some key =>
          rw [named] at names
          cases names.2.1
          exact ⟨r, key, List.mem_cons_self, done, named, rfl⟩

end Named

end Workflow

end ImagePipeline
