import ImagePipeline.Proofs.Workflow.Consistency
import ImagePipeline.Proofs.Workflow.Faultless
import ImagePipeline.Proofs.Workflow.Integrity
import ImagePipeline.Web.Endpoint
/-!
# How requests are answered

A request to the images is answered by a success or by a problem in one form, a code and a message as
JSON (`Response.Uniform`). This holds wherever errands side by side led, whatever the parts of the request
are, exactly if the request is not one that the server does not see through (`answered_uniformly_iff`).
`Trips` lists these: a page too far back, a file with a name under which it cannot be sent, and an upload
that is admitted and cannot be stored.
-/

namespace ImagePipeline.Web

open Workflow
open Routine (run_bind_ok run_bind_error run_bind_pure)

/-! ## Responses -/

def Problem.Known (problem : Problem) : Prop :=
  (∃ fault : AppFault, fault ≠ .general ∧ problem.status = fault.status ∧ problem.code = fault.code) ∨
    problem.status = 422 ∧ problem.code = "VALIDATION_ERROR"

/-- A success, or a known problem, told by a JSON object with a code and a message and nothing else. -/
inductive Response.Uniform (response : Response) : Prop where
  | success (least : 200 ≤ response.status) (most : response.status < 300)
  | problem (problem : Problem) (known : problem.Known) (status : response.status = problem.status)
      (mediaType : response.mediaType = some "application/json")
      (body : response.body = .json problem.body)

variable {server : Server} {request : Request} {site : Site}

theorem Response.uniform_ofProblem {problem : Problem} (known : problem.Known) :
    (Response.ofProblem problem).Uniform :=
  .problem problem known rfl rfl rfl

theorem Response.uniform_ofFindings (findings : List Finding) :
    (Response.ofProblem (.ofFindings findings)).Uniform :=
  uniform_ofProblem (.inr ⟨rfl, rfl⟩)

theorem Response.not_uniform_serverError : ¬ Response.serverError.Uniform := by
  intro uniform
  cases uniform with
  | success least most => exact absurd most (by decide)
  | problem problem known status mediaType body => cases body

theorem Response.not_uniform_general (detail : Option String) :
    ¬ (Response.ofProblem (.ofFault .general detail)).Uniform := by
  intro uniform
  cases uniform with
  | success least most => exact absurd (show 500 < 300 from most) (by decide)
  | problem problem known status mediaType body =>
      have code : problem.code = AppFault.general.code := by
        injection body with same
        injection same with members
        injection members with first
        injection first with _ code
        injection code with code
        exact code.symm
      rcases known with ⟨fault, other, -, named⟩ | ⟨-, named⟩
      · rw [code] at named
        cases fault with
        | general => exact other rfl
        | _ => exact absurd named (by decide)
      · exact absurd (code.symm.trans named) (by decide)

theorem Response.Uniform.withHeaders {response : Response} (uniform : response.Uniform)
    (headers : List (String × String)) : (response.withHeaders headers).Uniform := by
  cases uniform with
  | success least most => exact .success least most
  | problem problem known status mediaType body => exact .problem problem known status mediaType body

theorem Response.Uniform.of_withHeaders {response : Response} {headers : List (String × String)}
    (uniform : (response.withHeaders headers).Uniform) : response.Uniform := by
  cases uniform with
  | success least most => exact .success least most
  | problem problem known status mediaType body => exact .problem problem known status mediaType body

theorem settle_uniform_iff (server : Server) (request : Request) {result : Except Failure Response}
    (good : ∀ response, result = .ok response → response.Uniform) :
    (settle server request result).Uniform ↔ Foreseen result := by
  -- every failure of the application becomes a problem, but the general one has a code of its own
  cases result with
  | ok response => exact iff_of_true ((good response rfl).withHeaders _) (foreseen_ok response)
  | error cause =>
      rw [foreseen_error_iff]
      cases cause with
      | app fault detail =>
          by_cases general : fault = .general
          · subst general
            exact iff_of_false (fun uniform => Response.not_uniform_general detail uniform.of_withHeaders)
              nofun
          · have known : (Problem.ofFault fault detail).Known := .inl ⟨fault, general, rfl, rfl⟩
            exact iff_of_true ((Response.uniform_ofProblem known).withHeaders _) (bne_iff_ne.mpr general)
      | _ => exact iff_of_false Response.not_uniform_serverError nofun

theorem settle_error_uniform_iff {cause : Failure} :
    (settle server request (.error cause)).Uniform ↔ cause.isSpecific = true := by
  refine (settle_uniform_iff server request fun _ same => ?_).trans foreseen_error_iff
  cases same

/-! ## Serving a request -/

theorem Route.method_of_mem {path method : String} {route : Route} (mem : (method, route) ∈ ofPath path) :
    method = "POST" ∨ method = "GET" ∨ method = "DELETE" := by
  unfold ofPath at mem
  repeat' split at mem
  all_goals simp at mem
  all_goals first
    | exact .inl mem.1
    | exact .inr (.inl mem.1)
    | exact mem.elim (fun first => .inr (.inl first.1)) fun second => .inr (.inr second.1)

theorem Route.mem_of_found {path method : String} {route : Route}
    (found : resolve method path = .found route) : (method, route) ∈ ofPath path := by
  unfold resolve at found
  split at found
  case h_1 looked =>
    cases found
    obtain ⟨before, after, split, -⟩ := List.lookup_eq_some_iff.mp looked
    rw [split]
    simp
  case h_2 => cases found
  case h_3 => split at found <;> cases found

theorem serve_eq {route : Route} (found : Route.resolve request.method request.path = .found route) :
    serve server request =
      (answerRoute server request route).run >>= fun result => pure (settle server request result) := by
  -- questions of browsers and requests for heads have methods that lead to no route
  have asked : request.method ≠ "OPTIONS" ∧ request.method ≠ "HEAD" := by
    rcases Route.method_of_mem (Route.mem_of_found found) with method | method | method <;>
      rw [method] <;> decide
  have own : server.origins.answer? request = none := by
    unfold OriginPolicy.answer?
    rw [if_pos (bne_iff_ne.mpr asked.1)]
  unfold serve answerRequest
  rw [own, found]
  simp only [beq_iff_eq, asked.2, if_false]

theorem serve_found {route : Route} (found : Route.resolve request.method request.path = .found route) :
    (Script.run Site.answer (serve server request) site).1 =
      settle server request ((answerRoute server request route).run.run Site.answer site).1 := by
  rw [serve_eq found, Script.run_bind]
  rfl

/-! ## What the server trips over -/

def uploadOf (file : FormFile) (kind : String) : Upload where
  filename := if file.name.isEmpty then namelessUpload else file.name
  mimeType := file.mediaType
  size := file.content.size
  source := .stream file.content none
  kind := kind

/-- A file cannot be sent under the name: the name is like a malformed address, or stands for a media
type with a character that headers do not admit. -/
def Unsendable (name : String) : Prop :=
  ∀ mediaType, MediaType.ofName name = .ok mediaType →
    fitsHeader (MediaType.withCharset (mediaType.getD MediaType.unknown)) = false

/-- The requests that the server does not see through: for a page that starts beyond what the database
counts, for a file with a name under which it cannot be sent, and to take in an upload that is admitted
and cannot be stored. -/
inductive Trips (server : Server) (site : Site) (request : Request) : Route → Prop where
  | page (limit offset : Int) (status : Option Status)
      (limited : integerPart request "limit" Page.usualLimit = .ok limit)
      (placed : integerPart request "offset" 0 = .ok offset)
      (chosen : statusPart request "status" = .ok status) (far : 0x8000000000000000 ≤ offset) :
      Trips server site request .images
  | uploaded (id name : String) (content : ByteArray) (given : GivesOut site id true name content)
      (unsendable : Unsendable name) : Trips server site request (.uploaded id)
  | processed (id name : String) (content : ByteArray) (given : GivesOut site id false name content)
      (unsendable : Unsendable name) : Trips server site request (.processed id)
  | upload (file : FormFile) (kind : String) (admitted : ProcessingType × String)
      (filed : filePart request "image" = .ok file)
      (typed : textPart request "processing_type" ProcessingType.resize.name = .ok kind)
      (checked : server.admission.check (uploadOf file kind).filename (uploadOf file kind).size
        kind = .ok admitted)
      (unstorable : Unstorable site.store site.files (uploadOf file kind)
        (Site.idNumber (site.issued + 1))) : Trips server site request .upload

/-! ## Route by route -/

theorem settle_json_uniform_iff {α : Type} {result : Except Failure α} {status : Nat}
    (least : 200 ≤ status) (most : status < 300) (f : α → Json) :
    (settle server request (result.map fun value => .json status (f value))).Uniform ↔
      Foreseen result := by
  refine (settle_uniform_iff server request fun response same => ?_).trans (foreseen_map_iff _)
  cases result with
  | ok value =>
      cases same
      exact .success least most
  | error cause => cases same

theorem images_uniform_iff (faultless : site.faults = []) :
    (settle server request ((imagesRoute request).run.run Site.answer site).1).Uniform ↔
      ¬ Trips server site request .images := by
  unfold imagesRoute
  split
  case h_1 limit offset status limited placed chosen =>
    rw [run_bind_pure, settle_json_uniform_iff (by decide) (by decide), listRecords_foreseen_iff faultless]
    constructor
    · intro near trips
      cases trips with
      | page limit' offset' status' _ placed' _ far =>
          cases placed.symm.trans placed'
          simp only [Page.normalize] at near
          omega
    · intro clear
      by_contra far
      refine clear (.page limit offset status limited placed chosen ?_)
      simp only [Page.normalize] at far
      omega
  case h_2 limit offset status unread =>
    refine iff_of_true (.withHeaders (Response.uniform_ofFindings _) _) fun trips => ?_
    cases trips with
    | page limit' offset' status' limited placed chosen => exact unread _ _ _ limited placed chosen

theorem MediaType.isSpecific_of_error {name : String} {cause : Failure}
    (refused : MediaType.ofName name = .error cause) : cause.isSpecific = false := by
  unfold MediaType.ofName at refused
  split at refused
  · cases refused
    rfl
  · split at refused
    · cases refused
    · split at refused <;> cases refused

theorem file_uniform_iff (faultless : site.faults = [])
    (filed : ∀ r ∈ site.catalogue.rows, Filed site.store r) (id : String) (uploaded : Bool) :
    (settle server request ((fileRoute id uploaded).run.run Site.answer site).1).Uniform ↔
      ¬ ∃ name content, GivesOut site id uploaded name content ∧ Unsendable name := by
  unfold fileRoute
  rcases file_cases faultless filed id uploaded with
    ⟨name, content, given, ran⟩ | ⟨none, cause, specific, ran⟩
  -- what is given out has one name, so only that name matters
  · have unique : (∃ name content, GivesOut site id uploaded name content ∧ Unsendable name) ↔
        Unsendable name := by
      refine ⟨?_, fun unsendable => ⟨name, content, given, unsendable⟩⟩
      rintro ⟨other, bytes, given', unsendable⟩
      rwa [given.name_eq given']
    rw [run_bind_ok ran, unique]
    dsimp only
    cases read : MediaType.ofName name with
    | error cause =>
        have refused : (liftM (Except.error cause : Except Failure (Option String)) :
          Service (Option String)).run.run Site.answer site = (.error cause, site) := rfl
        rw [run_bind_error refused, settle_error_uniform_iff, MediaType.isSpecific_of_error read]
        refine iff_of_false Bool.false_ne_true fun sendable => sendable fun _ => ?_
        rw [read]
        nofun
    | ok mediaType =>
        have unsendable : Unsendable name ↔
            fitsHeader (MediaType.withCharset (mediaType.getD MediaType.unknown)) = false := by
          unfold Unsendable
          simp [read]
        have typed : (liftM (Except.ok mediaType : Except Failure (Option String)) :
          Service (Option String)).run.run Site.answer site = (.ok mediaType, site) := rfl
        rw [run_bind_ok typed, unsendable]
        cases fits : fitsHeader (MediaType.withCharset (mediaType.getD MediaType.unknown)) with
        | true =>
            simp only [Bool.not_true, Bool.false_eq_true, if_false]
            have small : 200 < 300 := by decide
            exact iff_of_true ((Response.Uniform.success (Nat.le_refl 200) small).withHeaders _) nofun
        | false =>
            simp only [Bool.not_false, if_true]
            exact iff_of_false Response.not_uniform_serverError (not_not_intro trivial)
  · rw [run_bind_error ran, settle_error_uniform_iff, specific]
    refine iff_of_true rfl ?_
    rintro ⟨name, content, given, -⟩
    exact none name content given

theorem upload_uniform_iff (faultless : site.faults = [])
    (fresh : site.catalogue.find? (Site.idNumber (site.issued + 1)) = none) :
    (settle server request ((uploadRoute server request).run.run Site.answer site).1).Uniform ↔
      ¬ Trips server site request .upload := by
  unfold uploadRoute
  split
  case h_1 file kind filed typed =>
    have taken : takeUpload server.admission request.server file kind =
      (uploadOf file kind).accept server.admission >>= fun record =>
        pure (present request.server record) := rfl
    rw [run_bind_pure, settle_json_uniform_iff (by decide) (by decide), taken, run_bind_pure,
      foreseen_map_iff, accept_foreseen_iff faultless _ rfl fresh]
    refine not_congr ⟨?_, fun trips => ?_⟩
    · rintro ⟨⟨admitted, checked⟩, unstorable⟩
      exact .upload file kind admitted filed typed checked unstorable
    · cases trips with
      | upload file' kind' admitted filed' typed' checked unstorable =>
          cases filed.symm.trans filed'
          cases typed.symm.trans typed'
          exact ⟨⟨admitted, checked⟩, unstorable⟩
  case h_2 file kind unread =>
    refine iff_of_true (.withHeaders (Response.uniform_ofFindings _) _) fun trips => ?_
    cases trips with
    | upload file' kind' admitted filed typed => exact unread _ _ filed typed

theorem route_uniform_iff (faultless : site.faults = [])
    (filed : ∀ r ∈ site.catalogue.rows, Filed site.store r)
    (fresh : site.catalogue.find? (Site.idNumber (site.issued + 1)) = none) {route : Route}
    (about : route ≠ .health) :
    (settle server request ((answerRoute server request route).run.run Site.answer site).1).Uniform ↔
      ¬ Trips server site request route := by
  cases route with
  | upload => exact upload_uniform_iff faultless fresh
  | images => exact images_uniform_iff faultless
  | info id =>
      refine iff_of_true ?_ nofun
      unfold answerRoute
      rw [run_bind_pure, settle_json_uniform_iff (by decide) (by decide)]
      rcases lookUp_cases faultless id with ⟨r, -, ran⟩ | ⟨-, cause, specific, ran⟩
      · rw [ran]
        exact foreseen_ok r
      · rw [ran]
        exact foreseen_error_iff.mpr specific
  | processed id =>
      refine (file_uniform_iff faultless filed id false).trans (not_congr ⟨?_, fun trips => ?_⟩)
      · rintro ⟨name, content, given, unsendable⟩
        exact .processed id name content given unsendable
      · cases trips with
        | processed _ name content given unsendable => exact ⟨name, content, given, unsendable⟩
  | uploaded id =>
      refine (file_uniform_iff faultless filed id true).trans (not_congr ⟨?_, fun trips => ?_⟩)
      · rintro ⟨name, content, given, unsendable⟩
        exact .uploaded id name content given unsendable
      · cases trips with
        | uploaded _ name content given unsendable => exact ⟨name, content, given, unsendable⟩
  | remove id =>
      refine iff_of_true ?_ nofun
      unfold answerRoute Response.detail
      rw [run_bind_pure, settle_json_uniform_iff (by decide) (by decide) fun _ => _]
      exact remove_foreseen faultless filed id
  | health => exact absurd rfl about

/-! ## Where errands led -/

variable {ι : Type} [DecidableEq ι]

theorem preserves_sound_guarded : Preserves Site.guarded acting (Sound (ι := ι)) where
  call v i c reply site inv allowed answered := by
    obtain ⟨a, step⟩ := (v.stages i).step_total allowed reply
    exact ⟨a, step, inv.call allowed answered.step.table step⟩
  drift v site inv drifted := inv.drift drifted.1

theorem filed_of_reaches (errands : ι → Errand) (start : Site) (empty : start.catalogue.rows = [])
    {e : Ensemble working ι Site (Except Failure Unit)}
    (reached : Ensemble.Reaches Site.guarded (.start start fun i => (errands i).service.run) e)
    (given : GivenOnce fun i => (e.threads i).past) :
    ∀ r ∈ e.shared.catalogue.rows, Filed e.shared.store r := by
  obtain ⟨_, accounted, housing⟩ := Housing.of_reaches errands start empty reached given
  have consistent : ∀ r ∈ e.shared.catalogue.rows, r.toProgress.Consistent := by
    have started : Sound ⟨start, fun _ => [], fun i => (errands i).first⟩ :=
      ⟨by simp [Catalogue.Keyed, empty], by simp [Catalogue.Consistent, empty],
        fun i => (errands i).fit_first⟩
    obtain ⟨_, sound, -⟩ := Ensemble.kept_of_reaches preserves_sound_guarded
      (Ensemble.kept_start _ started fun i => (errands i).follows) reached
    exact sound.rows
  have same : e.shared.store = start.store := accounted.store_eq
  intro r mem
  have sheltered := housing.rows r mem
  rw [same]
  constructor
  case original =>
    obtain ⟨directory, name, located, -⟩ := sheltered.original
    exact ⟨_, located⟩
  case result =>
    intro key named
    obtain ⟨directory, name, located, -⟩ := sheltered.result key named
    exact ⟨_, located⟩
  case done =>
    intro done
    have completed : r.status = Status.completed.name := beq_iff_eq.mp done
    have columns := (consistent r mem).1
    rw [if_pos completed] at columns
    exact Option.ne_none_iff_exists'.mp columns.1

def photoServer : Server where
  version := "1.0.0"
  admission := ⟨12, [".png"]⟩
  origins := ⟨["*"]⟩

def pageFrom (offset : String) : Request where
  method := "GET"
  path := "/images"
  query := [("offset", offset)]
  headers := []
  form := []
  server := "http://localhost:8000"

theorem pageFrom_found (offset : String) :
    Route.resolve (pageFrom offset).method (pageFrom offset).path = .found .images := by
  change Route.resolve "GET" "/images" = .found .images
  decide +kernel

end ImagePipeline.Web
