import ImagePipeline.Proofs.Script.Running
import ImagePipeline.Proofs.Workflow.Interleaving
import ImagePipeline.Workflow.Access

namespace ImagePipeline

namespace Page

def most (limit : Int) : ℕ := (normalize limit 0).limit.toNat

theorem most_bounds (limit : Int) : 1 ≤ most limit ∧ most limit ≤ 100 := by
  simp only [most, normalize, usualLimit, maxLimit]
  omega

theorem normalize_eq (limit offset : Int) : normalize limit offset = ⟨most limit, max offset 0⟩ := by
  simp only [most, normalize, usualLimit, maxLimit, mk.injEq, and_true]
  omega

end Page

namespace Catalogue

def matching (table : Catalogue) : Option Status → List Record
  | none => table.rows
  | some status => table.rows.filter fun r => r.status == status.name

def ordered (table : Catalogue) (scan : Scan) : Option Status → List Record
  | none => table.newest scan
  | some status => table.newestOf scan status.name

def paged (table : Catalogue) (scan : Scan) (status : Option Status) (page : Page) : List Record :=
  ((table.ordered scan status).drop page.offset.toNat).take page.limit.toNat

theorem ordered_perm (table : Catalogue) (scan : Scan) (status : Option Status) :
    (table.ordered scan status).Perm (table.matching status) := by
  cases status with
  | none => exact (List.mergeSort_perm _ _).trans (scan.perm _ _)
  | some status => exact (List.mergeSort_perm _ _).trans (scan.perm _ _)

theorem ordered_pairwise (table : Catalogue) (scan : Scan) (status : Option Status) :
    (table.ordered scan status).Pairwise fun a b => b.createdAt ≤ a.createdAt := by
  have sorted (rows : List Record) :
      (rows.mergeSort newerFirst).Pairwise fun a b => newerFirst a b = true := by
    apply List.pairwise_mergeSort
    · intro a b c first second
      exact decide_eq_true (Int.le_trans (of_decide_eq_true second) (of_decide_eq_true first))
    · intro a b
      rw [Bool.or_eq_true]
      exact (Int.le_total b.createdAt.micros a.createdAt.micros).imp decide_eq_true decide_eq_true
  cases status with
  | none => exact (sorted _).imp of_decide_eq_true
  | some status => exact (sorted _).imp of_decide_eq_true

theorem length_ordered_le (table : Catalogue) (scan : Scan) (status : Option Status) :
    (table.ordered scan status).length ≤ table.rows.length := by
  rw [(table.ordered_perm scan status).length_eq]
  cases status with
  | none => exact Nat.le_refl _
  | some status => exact List.length_filter_le _ _

theorem window_eq_paged (table : Catalogue) (scan : Scan) (status : Option Status) (limit offset : Int) :
    let page := Page.normalize limit offset
    (do
      checkBounds page.limit page.offset
      return window page.limit page.offset (table.ordered scan status)) =
        (checkBounds page.limit page.offset).map fun _ => table.paged scan status page := by
  intro page
  have positive : ¬ page.limit < 0 := by
    simp only [page, Page.normalize, Page.usualLimit, Page.maxLimit]
    omega
  cases checkBounds page.limit page.offset with
  | error cause => rfl
  | ok _ => exact congrArg Except.ok (if_neg positive)

end Catalogue

namespace Workflow

variable {site : Site}

theorem fits_iff (n : Int) :
    Draft.fits n = true ↔ -0x8000000000000000 ≤ n ∧ n < 0x8000000000000000 := by
  simp [Draft.fits]

theorem fits_normalize (limit offset : Int) : (Draft.fits (Page.normalize limit offset).limit &&
    Draft.fits (Page.normalize limit offset).offset) = decide (offset < 0x8000000000000000) := by
  rw [Bool.eq_iff_iff, Bool.and_eq_true, fits_iff, fits_iff, decide_eq_true_iff]
  simp only [Page.normalize, Page.usualLimit, Page.maxLimit]
  split <;> omega

theorem checkBounds_normalize (limit offset : Int) :
    Catalogue.checkBounds (Page.normalize limit offset).limit (Page.normalize limit offset).offset =
      if offset < 0x8000000000000000 then .ok () else .error .integerOutOfRange := by
  unfold Catalogue.checkBounds
  rw [fits_normalize]
  simp only [decide_eq_true_iff]

def listing (status : Option Status) (page : Page) : Service (List Record) :=
  match status with
  | none => Routine.ask (call (.list page.limit page.offset))
  | some status => Routine.ask (call (.listOf status.name page.limit page.offset))

def listed (status : Option Status) (page : Page) (answer : Except Failure (List Record)) : Event working :=
  match status with
  | none => ⟨.list page.limit page.offset, answer⟩
  | some status => ⟨.listOf status.name page.limit page.offset, answer⟩

theorem listRecords_eq (limit offset : Int) (status : Option Status) :
    listRecords limit offset (status.map (·.name)) = listing status (Page.normalize limit offset) := by
  cases status with
  | none => rfl
  | some status => cases status <;> rfl

theorem run_listing (faultless : site.faults = []) (limit offset : Int) (status : Option Status) :
    let page := Page.normalize limit offset
    let answer := (Catalogue.checkBounds page.limit page.offset).map fun _ =>
      site.catalogue.paged site.scan status page
    (listing status page).run.run Site.answer site = (answer, site) ∧
      (listing status page).run.trace Site.answer site = [listed status page answer] := by
  intro page answer
  have cut := site.catalogue.window_eq_paged site.scan status limit offset
  cases status with
  | none =>
      have answered : site.answer (.list page.limit page.offset) = (answer, site) := by
        rw [Site.answer_of_faultless faultless]
        exact congrArg (Prod.mk · site) cut
      exact ⟨answered, Script.trace_request (I := working) answered⟩
  | some status =>
      have answered : site.answer (.listOf status.name page.limit page.offset) = (answer, site) := by
        rw [Site.answer_of_faultless faultless]
        exact congrArg (Prod.mk · site) cut
      exact ⟨answered, Script.trace_request (I := working) answered⟩

end Workflow

end ImagePipeline
