import ImagePipeline.Proofs.Workflow.Interleaving
import ImagePipeline.Workflow.Processing

namespace ImagePipeline.Workflow

variable {site : Site} {id : String} {r : Record}

namespace Site

theorem perform_claim_none (missing : site.catalogue.find? id = none) :
    perform (.claim id) site = (.error (.app .imageNotFound none), site) := by
  refine onTable_error (fun table => return ((), ← table.claim id site.clock)) ?_
  rw [Catalogue.claim_of_none site.clock missing]
  rfl

theorem perform_claim_ready (keyed : site.catalogue.Keyed) (found : site.catalogue.find? id = some r)
    (ready : r.canBeProcessed = true) : perform (.claim id) site =
      (.ok (), { site with catalogue := site.catalogue.modify id fun r => r.claimedAt site.clock }) := by
  refine onTable_ok (fun table => return ((), ← table.claim id site.clock)) ?_
  rw [Catalogue.claim_of_found_ready site.clock keyed found ready]
  rfl

theorem perform_claim_unready (keyed : site.catalogue.Keyed) (found : site.catalogue.find? id = some r)
    (unready : r.canBeProcessed = false) :
    perform (.claim id) site = (.error (.app .alreadyProcessing none), site) := by
  refine onTable_error (fun table => return ((), ← table.claim id site.clock)) ?_
  rw [Catalogue.claim_of_unready site.clock keyed found unready]
  rfl

end Site

/-- How a claim ends and what it leaves behind follows from the record of the image. -/
structure ClaimAgrees (site : Site) (id : String) (result : Except Failure Unit) (site' : Site) :
    Prop where
  accepted_iff : result = .ok () ↔ ∃ r, site.catalogue.find? id = some r ∧ r.canBeProcessed = true
  accepted : result = .ok () → site' = { site with
    catalogue := site.catalogue.modify id fun r => r.markProcessing site.clock }
  advanced : result = .ok () → ∀ r, site.catalogue.find? id = some r →
    site'.catalogue.find? id = some (r.markProcessing site.clock) ∧
    r.markProcessing site.clock =
      { r with status := "processing", errorMessage := none, updatedAt := site.clock }
  others : ∀ other, other ≠ id → site'.catalogue.find? other = site.catalogue.find? other
  refused : result ≠ .ok () → site' = site
  absent_iff : result = .error (.app .imageNotFound none) ↔ site.catalogue.find? id = none
  busy_iff : result = .error (.app .alreadyProcessing none) ↔
    ∃ r, site.catalogue.find? id = some r ∧ r.status ≠ "pending" ∧ r.status ≠ "failed"

/-- What follows the look at the record is a claim if that would be accepted, and otherwise nothing. That
somebody else has the image is no failure. -/
structure Foresees (next : Except Failure Record → Script working (Except Failure Unit))
    (found : Except Failure Record) (id : String) (result : Except Failure Unit) : Prop where
  claims_iff : (∃ rest, next found = .ask (.claim id) rest) ↔ result = .ok ()
  skips_iff : next found = .done (.ok ()) ↔ result = .error (.app .alreadyProcessing none)
  fails_iff : ∀ cause, next found = .done (.error cause) ↔
    cause = .app .imageNotFound none ∧ result = .error cause

theorem canBeProcessed_eq_false_iff :
    r.canBeProcessed = false ↔ r.status ≠ "pending" ∧ r.status ≠ "failed" := by
  simp [Progress.canBeProcessed, Status.name]

theorem claim_cases (keyed : site.catalogue.Keyed) (id : String) :
    (∃ r, site.catalogue.find? id = some r ∧ r.canBeProcessed = true ∧
      Site.perform (.claim id) site = (.ok (), { site with
        catalogue := site.catalogue.modify id fun r => r.markProcessing site.clock })) ∨
    (∃ r, site.catalogue.find? id = some r ∧ r.canBeProcessed = false ∧
      Site.perform (.claim id) site = (.error (.app .alreadyProcessing none), site)) ∨
    site.catalogue.find? id = none ∧
      Site.perform (.claim id) site = (.error (.app .imageNotFound none), site) := by
  cases found : site.catalogue.find? id with
  | none => exact .inr (.inr ⟨rfl, Site.perform_claim_none found⟩)
  | some r =>
      cases ready : r.canBeProcessed with
      | true => exact .inl ⟨r, rfl, ready, Site.perform_claim_ready keyed found ready⟩
      | false => exact .inr (.inl ⟨r, rfl, ready, Site.perform_claim_unready keyed found ready⟩)

theorem ClaimAgrees.of_refused {cause : Failure}
    (unready : ∀ r, site.catalogue.find? id = some r → r.canBeProcessed = false)
    (absent_iff : cause = .app .imageNotFound none ↔ site.catalogue.find? id = none)
    (busy_iff : cause = .app .alreadyProcessing none ↔ ∃ r, site.catalogue.find? id = some r) :
    ClaimAgrees site id (.error cause) site where
  accepted_iff := by simpa using unready
  accepted := nofun
  advanced := nofun
  others _ _ := rfl
  refused _ := rfl
  absent_iff := by rw [← absent_iff, Except.error.injEq]
  busy_iff := by
    rw [Except.error.injEq, busy_iff]
    exact exists_congr fun r => (and_iff_left_of_imp fun found =>
      canBeProcessed_eq_false_iff.mp (unready r found)).symm

theorem claimAgrees (keyed : site.catalogue.Keyed) (id : String) :
    ClaimAgrees site id (Site.perform (.claim id) site).1 (Site.perform (.claim id) site).2 := by
  rcases claim_cases keyed id with ⟨r, found, ready, claim⟩ | ⟨r, found, busy, claim⟩ |
    ⟨missing, claim⟩
  · rw [claim]
    constructor
    case accepted_iff => exact iff_of_true rfl ⟨r, found, ready⟩
    case accepted => exact fun _ => rfl
    case advanced => exact fun _ old same => ⟨Catalogue.find?_modify_found same _ fun _ => rfl, rfl⟩
    case others => exact fun other distinct => Catalogue.find?_modify_of_ne _ distinct _ fun _ => rfl
    case refused => exact fun refused => absurd rfl refused
    case absent_iff => simp [found]
    case busy_iff => simp [found, ← canBeProcessed_eq_false_iff, ready]
  · rw [claim]
    exact .of_refused (by simp [found, busy]) (by simp [found]) (by simp [found])
  · rw [claim]
    exact .of_refused (by simp [missing]) (by simp [missing]) (by simp [missing])

def afterLookUp (found : Except Failure Record) : Script working (Except Failure Unit) :=
  (ExceptT.mk (pure found) >>= processRecord : Service Unit).run

theorem processImage_asks (id : String) : (processImage id).run = .ask (.find id) afterLookUp := rfl

theorem afterLookUp_ready (ready : r.canBeProcessed = true) :
    ∃ rest, afterLookUp (.ok r) = .ask (.claim r.id) rest := by
  change ∃ rest, (processRecord r).run = _
  rw [processRecord, if_pos ready]
  exact ⟨_, rfl⟩

theorem afterLookUp_busy (busy : r.canBeProcessed = false) :
    afterLookUp (.ok r) = .done (.ok ()) := by
  change (processRecord r).run = _
  rw [processRecord, if_neg (Bool.eq_false_iff.mp busy)]
  rfl

theorem foresees (keyed : site.catalogue.Keyed) (id : String) :
    Foresees afterLookUp (site.catalogue.find id) id (Site.perform (.claim id) site).1 := by
  rcases claim_cases keyed id with ⟨r, found, ready, claim⟩ | ⟨r, found, busy, claim⟩ |
    ⟨missing, claim⟩
  · obtain ⟨rest, next⟩ := afterLookUp_ready ready
    obtain rfl := Catalogue.id_of_find? found
    rw [claim, Catalogue.find_eq_ok.mpr found]
    exact ⟨iff_of_true ⟨rest, next⟩ rfl, by simp [next], by simp [next]⟩
  · have next := afterLookUp_busy busy
    rw [claim, Catalogue.find_eq_ok.mpr found]
    exact ⟨by simp [next], iff_of_true next rfl, by simp +contextual [next]⟩
  · have unknown : site.catalogue.find id = .error (.app .imageNotFound none) := by
      simp only [Catalogue.find, missing]
    have next : afterLookUp (.error (.app .imageNotFound none)) =
        .done (.error (.app .imageNotFound none)) := rfl
    rw [claim, unknown]
    exact ⟨by simp [next], by simp [next], by simp [next, eq_comm]⟩

/-- A claim of an image is accepted exactly if its record may be processed, and is then the transition of
the record. A worker that looks at the record goes on to claim the image exactly if a claim would be
accepted at that moment. -/
theorem claim_refines_transition (site : Site) (keyed : site.catalogue.Keyed) (id : String) :
    ClaimAgrees site id (Site.perform (.claim id) site).1 (Site.perform (.claim id) site).2 ∧
    (processImage id).run = .ask (.find id) afterLookUp ∧
    Site.perform (.find id) site = (site.catalogue.find id, site) ∧
    Foresees afterLookUp (site.catalogue.find id) id (Site.perform (.claim id) site).1 :=
  ⟨claimAgrees keyed id, processImage_asks id, rfl, foresees keyed id⟩

def mixed : Site := .stocked
  [{ (default : Record) with id := "a", status := "failed", errorMessage := some "decoding failed" },
    { (default : Record) with id := "b", status := "archived" }]

theorem mixed_claimed : mixed.catalogue.Keyed ∧
    (Site.perform (.claim "a") mixed).1 = .ok () ∧
    ((Site.perform (.claim "a") mixed).2.catalogue.find? "a").map (·.errorMessage) = some none ∧
    (Site.perform (.claim "b") mixed).1 = .error (.app .alreadyProcessing none) ∧
    (Site.perform (.claim "c") mixed).1 = .error (.app .imageNotFound none) ∧
    afterLookUp (mixed.catalogue.find "b") = .done (.ok ()) := by
  have keyed : mixed.catalogue.Keyed := by decide
  obtain ⟨failed, -⟩ := claim_refines_transition mixed keyed "a"
  obtain ⟨unknown, -, -, skipped⟩ := claim_refines_transition mixed keyed "b"
  obtain ⟨absent, -⟩ := claim_refines_transition mixed keyed "c"
  have accepted := failed.accepted_iff.mpr ⟨_, rfl, rfl⟩
  have busy := unknown.busy_iff.mpr ⟨_, rfl, by decide, by decide⟩
  refine ⟨keyed, accepted, ?_, busy, absent.absent_iff.mpr rfl, skipped.skips_iff.mpr busy⟩
  rw [(failed.advanced accepted _ rfl).1]
  rfl

end ImagePipeline.Workflow
