import ImagePipeline.Proofs.Asset.Keys
import ImagePipeline.Proofs.Workflow.Provenance

namespace ImagePipeline

namespace Workflow

open Script (Ran Follows)

def Supported (formats : List String) (filename : String) : Prop :=
  ∃ format ∈ formats, Text.lowerCase (Text.extension filename) = Text.lowerCase format

namespace Admission

variable {maxSize size : Int} {formats : List String} {filename : String} {kind : ProcessingType}

theorem contains_formats :
    (ofFormats maxSize formats).formats.contains (extensionOf filename) = true ↔
      Supported formats filename := by
  simp only [ofFormats, List.contains_iff_mem, List.mem_map, extensionOf, Supported,
    @eq_comm _ (Text.lowerCase (Text.extension filename))]

theorem check_supported (small : size ≤ maxSize) (supported : Supported formats filename) :
    (ofFormats maxSize formats).check filename size kind.name = .ok (kind, extensionOf filename) := by
  have fits : ¬(ofFormats maxSize formats).maxSize < size := Int.not_lt.mpr small
  simp only [check, ProcessingType.ofName?_name, if_neg fits, if_pos (contains_formats.mpr supported)]

theorem check_unsupported (small : size ≤ maxSize) (foreign : ¬Supported formats filename) :
    (ofFormats maxSize formats).check filename size kind.name =
      .error (unsupported (extensionOf filename)) := by
  have fits : ¬(ofFormats maxSize formats).maxSize < size := Int.not_lt.mpr small
  simp only [check, ProcessingType.ofName?_name, if_neg fits,
    if_neg (mt contains_formats.mp foreign)]

end Admission

def blamesFormat : Event working → Bool
  | ⟨.saveUpload .., .error (.app .invalidFormat _)⟩ => true
  | ⟨.create _, .error (.app .invalidFormat _)⟩ => true
  | _ => false

/-- No upload is saved, and a record is not refused but for some causes. -/
def afterwards (causes : Failure → Prop) : Contract working Unit :=
  Script.within (fun c => ∀ name source, c ≠ .saveUpload name source) fun e =>
    ∀ draft cause, e = ⟨.create draft, .error cause⟩ → causes cause

def FailsFor {α : Type} (causes : Failure → Prop) (result : Except Failure α) : Prop :=
  ∀ cause, result = .error cause → cause.isApp = false ∨ causes cause

section Recording

variable (causes : Failure → Prop)

theorem discard_tolerant (key : String) :
    Follows (afterwards causes) (fun _ result => ∀ cause, result = .error cause → cause.isApp = false) ()
      (Upload.discard key).run :=
  Routine.follows_tolerant _ ⟨nofun, fun _ _ _ => trivial⟩

theorem announce_tolerant (id : String) (kind : ProcessingType) :
    Follows (afterwards causes) (fun _ result => ∀ cause, result = .error cause → cause.isApp = false) ()
      (Upload.announce id kind).run :=
  Routine.follows_tolerant _
    (Routine.follows_then ⟨nofun, fun _ _ _ => trivial⟩ fun _ _ => Routine.follows_pure trivial)

theorem record_failsFor (draft : Draft) (key : String) :
    Follows (afterwards causes) (fun _ => FailsFor causes) () (Upload.record draft key).run := by
  refine Routine.follows_recover ⟨nofun, fun reply _ refused => ?_⟩
  cases reply with
  | ok row => exact nofun
  | error cause =>
      refine Routine.follows_bind ((discard_tolerant causes key).mono fun _ result foreign => ?_)
      cases result with
      | error other =>
          rintro _ ⟨⟩
          exact .inl (foreign other rfl)
      | ok _ =>
          apply Routine.follows_throw
          rintro _ ⟨⟩
          exact .inr (refused draft cause rfl)

theorem recording_failsFor (upload : Upload) (id key : String) (kind : ProcessingType) :
    Follows (afterwards causes) (fun _ => FailsFor causes) () (do
      let now ← Routine.tell (call .now)
      let row ← Upload.record (upload.draft id key kind now) key
      Upload.announce id kind
      return row : Service Record).run := by
  refine Routine.follows_bind (Routine.follows_tell ⟨nofun, fun now _ _ => ?_⟩)
  refine Routine.follows_bind ((record_failsFor causes _ key).mono fun _ result fails => ?_)
  cases result with
  | error cause =>
      rintro _ ⟨⟩
      exact fails cause rfl
  | ok row =>
      refine Routine.follows_bind ((announce_tolerant causes id kind).mono fun _ result foreign => ?_)
      cases result with
      | ok _ => exact Routine.follows_pure nofun
      | error cause =>
          rintro _ ⟨⟩
          exact .inl (foreign cause rfl)

end Recording

section Accepting

variable {σ : Type} {answers : (c : Call) → σ → working.Reply c → σ → Prop} {maxSize : Int}
  {formats : List String} {upload : Upload} {kind : ProcessingType} {state state' : σ}
  {events : List (Event working)} {result : Except Failure Record}

theorem accept_unsupported (typed : upload.kind = kind.name) (small : upload.size ≤ maxSize)
    (ran : Ran answers (upload.accept (.ofFormats maxSize formats)).run state events result state')
    (foreign : ¬Supported formats upload.filename) :
    events = [] ∧ state' = state ∧
      result = .error (Admission.unsupported (Admission.extensionOf upload.filename)) := by
  unfold Upload.accept at ran
  rw [typed, Admission.check_unsupported small foreign] at ran
  obtain ⟨rfl, rfl, rfl⟩ := ran
  exact ⟨rfl, rfl, rfl⟩

theorem accept_supported (typed : upload.kind = kind.name) (small : upload.size ≤ maxSize)
    (ran : Ran answers (upload.accept (.ofFormats maxSize formats)).run state events result state')
    (supported : Supported formats upload.filename) :
    ∃ id reply rest,
      events = ⟨.newId, id⟩ :: ⟨.saveUpload (uploadFile id upload.filename) upload.source, reply⟩ :: rest ∧
      (∀ e ∈ rest, ∀ name source, e.request ≠ .saveUpload name source) ∧
      ((∀ e ∈ events, blamesFormat e = false) → ∀ detail, result ≠ .error (.app .invalidFormat detail)) := by
  unfold Upload.accept at ran
  rw [typed, Admission.check_supported small supported] at ran
  rcases Routine.ran_bind ran with ⟨_, -, never⟩ | ⟨_, _, _, _, rfl, done, naming⟩
  · cases never.2.1
  obtain ⟨rfl, same, rfl⟩ := done
  cases same
  obtain ⟨id, _, _, _, rfl, told, saves⟩ := Routine.ran_tell naming
  obtain ⟨rfl, -⟩ := Script.ran_request told
  rcases Routine.ran_bind saves with ⟨cause, rfl, asked⟩ | ⟨key, _, _, rest, rfl, asked, records⟩
  · obtain ⟨rfl, -⟩ := Script.ran_request asked
    refine ⟨id, .error cause, [], rfl, by simp, fun quiet => ?_⟩
    rintro detail ⟨⟩
    cases quiet _ (List.mem_cons_of_mem _ List.mem_cons_self)
  · obtain ⟨rfl, -⟩ := Script.ran_request asked
    refine ⟨id, .ok key, rest, rfl, ?_, fun quiet detail same => ?_⟩
    · exact (Script.ran_within (recording_failsFor (fun _ => True) upload id key kind) records
        fun _ _ _ _ _ => trivial).1
    · have refusals : ∀ e ∈ rest, ∀ draft cause, e = ⟨.create draft, .error cause⟩ →
          ∀ detail, cause ≠ .app .invalidFormat detail := by
        rintro _ mem draft _ rfl detail rfl
        have calm := quiet _ (List.mem_append_right _ (List.mem_append_right _ (List.mem_append_right _ mem)))
        cases calm
      have told := (Script.ran_within (recording_failsFor _ upload id key kind) records refusals).2
      rcases told _ same with foreign | other
      · cases foreign
      · exact other detail rfl

/-- An upload is taken in if its extension is one of the formats in lower case, and refused for its
format at once if it is not. The only file that is saved has the identifier and the extension for its
name, which leads nowhere: its key has one component after the namespace, in a store of either kind. -/
theorem accept_unsteered
    (ran : Ran answers (upload.accept (.ofFormats maxSize formats)).run state events result state')
    (typed : upload.kind = kind.name) (small : upload.size ≤ maxSize)
    (issued : ∀ id, ⟨.newId, id⟩ ∈ events → IsUuid id) :
    ((∀ e ∈ events, blamesFormat e = false) →
      ((∀ detail, result ≠ .error (.app .invalidFormat detail)) ↔ Supported formats upload.filename)) ∧
    (¬Supported formats upload.filename → events = [] ∧ state' = state ∧
      result = .error (Admission.unsupported (Admission.extensionOf upload.filename))) ∧
    (Supported formats upload.filename →
      ∃ id name reply rest, name = id ++ Text.lowerCase (Text.extension upload.filename) ∧
        events = ⟨.newId, id⟩ :: ⟨.saveUpload name upload.source, reply⟩ :: rest ∧
        (∀ e ∈ rest, ∀ other source, e.request ≠ .saveUpload other source) ∧
        '/' ∉ name.toList ∧ name ≠ "." ∧ name ≠ ".." ∧ Asset.OneBelow name) := by
  refine ⟨fun quiet => ⟨fun taken => ?_, fun supported => ?_⟩, fun foreign => ?_, fun supported => ?_⟩
  · refine Classical.byContradiction fun foreign => ?_
    obtain ⟨-, -, refused⟩ := accept_unsupported typed small ran foreign
    exact taken _ refused
  · obtain ⟨_, _, _, -, -, unblamed⟩ := accept_supported typed small ran supported
    exact unblamed quiet
  · exact accept_unsupported typed small ran foreign
  · obtain ⟨id, reply, rest, rfl, once, -⟩ := accept_supported typed small ran supported
    have plain := uploadFile_plain (issued id List.mem_cons_self) upload.filename
    exact ⟨id, _, reply, rest, rfl, rfl, once, plain.single, plain.downward.2.1, plain.downward.2.2,
      Asset.oneBelow_of_single plain.single⟩

end Accepting

def detour : Upload := { dot with filename := "../../etc//.images/..dot.v2.PNG" }

def detourTrace : List (Event working) :=
  (detour.accept (.ofFormats 12 [".JPEG", ".Png"])).run.trace (Site.answerBy none) oneRoom

def detourAnswer : Except Failure Record :=
  ((detour.accept (.ofFormats 12 [".JPEG", ".Png"])).run.run (Site.answerBy none) oneRoom).1

theorem detour_unsteered : Supported [".JPEG", ".Png"] detour.filename ∧
    (∀ detail, detourAnswer ≠ .error (.app .invalidFormat detail)) ∧
    ∃ reply rest, detourTrace =
      ⟨.newId, Site.idNumber 1⟩ :: ⟨.saveUpload (Site.idNumber 1 ++ ".png") detour.source, reply⟩ :: rest ∧
      Asset.OneBelow (Site.idNumber 1 ++ ".png") := by
  have ending : Text.lowerCase (Text.extension detour.filename) = ".png" := by decide +kernel
  have supported : Supported [".JPEG", ".Png"] detour.filename :=
    ⟨".Png", by simp, ending.trans (by decide +kernel)⟩
  have uuid : IsUuid (Site.idNumber 1) := by decide +kernel
  have once : issued detourTrace = [Site.idNumber 1] := by decide +kernel
  have quiet : detourTrace.all (blamesFormat · = false) = true := by decide +kernel
  have only {id : String} (mem : ⟨.newId, id⟩ ∈ detourTrace) : id = Site.idNumber 1 := by
    have among : id ∈ issued detourTrace := List.mem_filterMap.mpr ⟨_, mem, rfl⟩
    simpa [once] using among
  have ran : Ran Site.guarded.answers (detour.accept (.ofFormats 12 [".JPEG", ".Png"])).run oneRoom
      detourTrace detourAnswer _ := Script.ran_trace _ (Site.responds_answerBy none) _ oneRoom
  have typed : detour.kind = ProcessingType.resize.name := rfl
  obtain ⟨taken, -, named⟩ := accept_unsteered ran typed (by decide) fun id mem => only mem ▸ uuid
  obtain ⟨id, name, reply, rest, rfl, trace, -, -, -, -, below⟩ := named supported
  obtain rfl : id = Site.idNumber 1 := only (trace ▸ List.mem_cons_self)
  rw [ending] at trace below
  exact ⟨supported, (taken (by simpa using quiet)).mpr supported, reply, rest, trace, below⟩

end Workflow

end ImagePipeline
