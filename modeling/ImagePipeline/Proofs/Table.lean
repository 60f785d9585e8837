import ImagePipeline.Catalogue
import Mathlib.Data.List.Nodup

namespace ImagePipeline

def Record.claimedAt (r : Record) (now : Instant) : Record :=
  { r with status := Status.processing.name, errorMessage := none, updatedAt := now }

theorem Draft.values_of_complete {d : Draft} {row : Record} (completed : d.complete = .ok row) :
    (d.id = some row.id ∧ d.uploadPath = some row.uploadPath ∧
      d.processingType = some row.processingType ∧ d.status = some row.status ∧
      row.processedPath = d.processedPath ∧ row.width = d.width ∧ row.height = d.height ∧
      row.errorMessage = d.errorMessage) ∧
    d.createdAt.bind (·.instant?) = some row.createdAt ∧
      d.updatedAt.bind (·.instant?) = some row.updatedAt ∧
      row.processedAt = d.processedAt.bind (·.instant?) := by
  unfold complete at completed
  by_cases zoned : isZoned d.createdAt && isZoned d.updatedAt && isZoned d.processedAt
  · by_cases fitting : [d.size, d.width, d.height].all fun n => fits (n.getD 0)
    · simp only [zoned, fitting, Bool.not_true, Bool.false_eq_true, if_false] at completed
      split at completed
      · cases completed
        exact ⟨⟨by assumption, by assumption, by assumption, by assumption, rfl, rfl, rfl, rfl⟩,
          by assumption, by assumption, rfl⟩
      · cases completed
    · simp only [zoned, fitting, Bool.not_true, Bool.false_eq_true, if_false] at completed
      cases completed
  · simp only [zoned] at completed
    cases completed

theorem Draft.columns_of_complete {d : Draft} {row : Record} (completed : d.complete = .ok row) :
    d.id = some row.id ∧ d.uploadPath = some row.uploadPath ∧
      d.processingType = some row.processingType ∧ d.status = some row.status ∧
      row.processedPath = d.processedPath ∧ row.width = d.width ∧ row.height = d.height ∧
      row.errorMessage = d.errorMessage :=
  (values_of_complete completed).1

theorem Draft.times_of_complete {d : Draft} {row : Record} (completed : d.complete = .ok row) :
    d.createdAt.bind (·.instant?) = some row.createdAt ∧
      d.updatedAt.bind (·.instant?) = some row.updatedAt ∧
      row.processedAt = d.processedAt.bind (·.instant?) :=
  (values_of_complete completed).2

theorem Draft.complete_ok {d : Draft} {row : Record} (completed : d.complete = .ok row) :
    d.status = some row.status ∧ row.processedPath = d.processedPath ∧ row.width = d.width ∧
      row.height = d.height ∧ row.errorMessage = d.errorMessage :=
  (columns_of_complete completed).2.2.2

namespace Catalogue

variable {table table' : Catalogue} {id other : String} {r row : Record} {d : Draft} {now : Instant}

def Keyed (table : Catalogue) : Prop := (table.rows.map (·.id)).Nodup

instance : DecidablePred Keyed := fun table =>
  inferInstanceAs (Decidable (table.rows.map (·.id)).Nodup)

theorem id_of_find? (found : table.find? id = some r) : r.id = id := by
  simpa using List.find?_some found

theorem mem_of_find? (found : table.find? id = some r) : r ∈ table.rows :=
  List.mem_of_find?_eq_some found

theorem Keyed.eq_of_id_eq (keyed : table.Keyed) {a b : Record} (left : a ∈ table.rows)
    (right : b ∈ table.rows) (same : a.id = b.id) : a = b :=
  List.inj_on_of_nodup_map keyed left right same

theorem Keyed.find?_of_mem (keyed : table.Keyed) (mem : r ∈ table.rows) :
    table.find? r.id = some r := by
  cases found : table.find? r.id with
  | none =>
      have absent := List.find?_eq_none.mp found r mem
      simp at absent
  | some row =>
      rw [keyed.eq_of_id_eq (mem_of_find? found) mem (id_of_find? found)]

theorem Keyed.map_rows {β : Type} (keyed : table.Keyed) (seen : Record → β) :
    table.rows.map seen =
      (table.rows.map (·.id)).filterMap fun id => (table.find? id).map seen := by
  rw [List.filterMap_map, ← List.filterMap_eq_map]
  apply List.filterMap_congr
  intro r mem
  simp only [Function.comp_apply, keyed.find?_of_mem mem, Option.map_some]

theorem find_eq_ok : table.find id = .ok r ↔ table.find? id = some r := by
  unfold find
  cases table.find? id <;> simp

theorem find?_append (rows : List Record) :
    (⟨rows ++ [row]⟩ : Catalogue).find? id =
      ((⟨rows⟩ : Catalogue).find? id).or (if row.id = id then some row else none) := by
  simp only [find?, List.find?_append, List.find?_singleton, beq_iff_eq]

theorem ids_modify (change : Record → Record) (keeps : ∀ r, (change r).id = r.id) :
    (table.modify id change).rows.map (·.id) = table.rows.map (·.id) := by
  simp only [modify, List.map_map]
  apply List.map_congr_left
  intro r _
  by_cases same : r.id = id <;> simp [same, keeps]

theorem Keyed.modify (keyed : table.Keyed) (change : Record → Record)
    (keeps : ∀ r, (change r).id = r.id) : (table.modify id change).Keyed := by
  unfold Keyed
  rw [ids_modify change keeps]
  exact keyed

theorem find?_modify_found (found : table.find? id = some r) (change : Record → Record)
    (keeps : ∀ r, (change r).id = r.id) : (table.modify id change).find? id = some (change r) := by
  rw [find?_modify_self table id change keeps, found]
  rfl

theorem Keyed.mem_modify {old : Record} {change : Record → Record} (keyed : table.Keyed)
    (found : table.find? id = some old) (mem : r ∈ (table.modify id change).rows) :
    r ∈ table.rows ∨ r = change old := by
  obtain ⟨other, among, rfl⟩ := List.mem_map.mp mem
  by_cases named : other.id = id
  · have same := keyed.eq_of_id_eq among (mem_of_find? found) (named.trans (id_of_find? found).symm)
    exact .inr (by rw [same, id_of_find? found, beq_self_eq_true, if_pos rfl])
  · simp [named, among]

theorem create_ok (created : table.create d now = .ok (row, table')) :
    (d.withUsual now).complete = .ok row ∧ table.find? row.id = none ∧
      table' = ⟨table.rows ++ [row]⟩ := by
  unfold create at created
  cases completed : (d.withUsual now).complete with
  | error cause => simp [completed, bind, Except.bind] at created
  | ok r =>
      simp only [completed, bind, Except.bind, insert] at created
      cases found : table.find? r.id with
      | some _ => simp [found] at created
      | none =>
          simp only [found, Option.isSome_none, Bool.false_eq_true, if_false, pure, Except.pure,
            Except.ok.injEq, Prod.mk.injEq] at created
          obtain ⟨rfl, rfl⟩ := created
          exact ⟨rfl, found, rfl⟩

theorem Keyed.create (keyed : table.Keyed) (created : table.create d now = .ok (row, table')) :
    table'.Keyed := by
  obtain ⟨-, absent, rfl⟩ := create_ok created
  have fresh : row.id ∉ table.rows.map (·.id) := by
    intro mem
    obtain ⟨r, mem, same⟩ := List.mem_map.mp mem
    have found := keyed.find?_of_mem mem
    rw [same, absent] at found
    cases found
  simp only [Keyed, List.map_append, List.map_cons, List.map_nil]
  exact List.nodup_append.mpr ⟨keyed, List.nodup_singleton _, by
    intro a left b right
    simp only [List.mem_singleton] at right
    rintro rfl
    exact fresh (right ▸ left)⟩

theorem store_ok (stored : table.store r now = .ok (row, table')) :
    ∃ old, table.find? r.id = some old ∧ row = overwrite old r now ∧
      table' = table.modify r.id fun old => overwrite old r now := by
  unfold store at stored
  cases found : table.find? r.id with
  | none => simp [find, found, bind, Except.bind] at stored
  | some old =>
      simp only [find, found, bind, Except.bind, pure, Except.pure, Except.ok.injEq,
        Prod.mk.injEq] at stored
      exact ⟨old, rfl, stored.1.symm, stored.2.symm⟩

theorem store_of_found {old : Record} (now : Instant) (found : table.find? r.id = some old) :
    table.store r now =
      .ok (overwrite old r now, table.modify r.id fun old => overwrite old r now) := by
  simp [store, find, found, bind, Except.bind, pure, Except.pure]

theorem Keyed.store (keyed : table.Keyed) (stored : table.store r now = .ok (row, table')) :
    table'.Keyed := by
  obtain ⟨old, -, -, rfl⟩ := store_ok stored
  exact keyed.modify _ fun _ => rfl

theorem find?_store_self (stored : table.store r now = .ok (row, table')) :
    table'.find? r.id = some row := by
  obtain ⟨old, found, rfl, rfl⟩ := store_ok stored
  rw [find?_modify_self, found]
  · rfl
  · exact fun _ => rfl

theorem find?_store_of_ne (stored : table.store r now = .ok (row, table')) (distinct : id ≠ r.id) :
    table'.find? id = table.find? id := by
  obtain ⟨old, -, -, rfl⟩ := store_ok stored
  exact find?_modify_of_ne table distinct _ fun _ => rfl

theorem delete_ok (deleted : table.delete id = .ok table') :
    table' = ⟨table.rows.filter fun r => r.id != id⟩ := by
  unfold delete at deleted
  cases found : table.find? id with
  | none => simp [find, found, bind, Except.bind] at deleted
  | some old =>
      simp only [find, found, bind, Except.bind, pure, Except.pure, Except.ok.injEq] at deleted
      exact deleted.symm

theorem found_of_delete (deleted : table.delete id = .ok table') : ∃ r, table.find? id = some r := by
  cases found : table.find? id with
  | none => simp [delete, find, found, bind, Except.bind] at deleted
  | some r => exact ⟨r, rfl⟩

theorem Keyed.delete (keyed : table.Keyed) (deleted : table.delete id = .ok table') :
    table'.Keyed := by
  rw [delete_ok deleted]
  exact List.Nodup.sublist (List.filter_sublist.map _) keyed

theorem find?_delete_self (deleted : table.delete id = .ok table') : table'.find? id = none := by
  rw [delete_ok deleted]
  simp [find?]

theorem find?_delete_of_ne (deleted : table.delete id = .ok table') (distinct : other ≠ id) :
    table'.find? other = table.find? other := by
  rw [delete_ok deleted]
  simp only [find?, List.find?_filter]
  congr 1
  funext r
  by_cases same : r.id = other <;> simp [same, distinct]

theorem claim_ok (keyed : table.Keyed) (claimed : table.claim id now = .ok table') :
    ∃ r, table.find? id = some r ∧ r.canBeProcessed = true ∧
      table' = table.modify id fun r => r.claimedAt now := by
  by_cases free : table.rows.any (fun r =>
      r.id == id && [Status.pending.name, Status.failed.name].contains r.status) = true
  · simp only [claim, free, if_true, Except.ok.injEq] at claimed
    subst claimed
    obtain ⟨r, mem, claimable⟩ := List.any_eq_true.mp free
    obtain ⟨same, ready⟩ := Bool.and_eq_true_iff.mp claimable
    obtain rfl := eq_of_beq same
    refine ⟨r, keyed.find?_of_mem mem, ?_, ?_⟩
    · simpa [Progress.canBeProcessed] using ready
    · simp only [modify]
      congr 1
      apply List.map_congr_left
      intro other among
      by_cases same : other.id = r.id
      · -- a keyed table has no other row that could be claimed in place of this one
        obtain rfl := keyed.eq_of_id_eq among mem same
        rw [if_pos claimable]
        simp [Record.claimedAt]
      · simp [same]
  · simp only [claim, free, Bool.false_eq_true, if_false] at claimed
    split at claimed <;> cases claimed

theorem claim_of_ready (now : Instant) (found : table.find? id = some r) (ready : r.canBeProcessed = true) :
    ∃ table', table.claim id now = .ok table' := by
  have free : table.rows.any (fun r =>
      r.id == id && [Status.pending.name, Status.failed.name].contains r.status) = true := by
    refine List.any_eq_true.mpr ⟨r, mem_of_find? found, ?_⟩
    simpa [id_of_find? found, Progress.canBeProcessed] using ready
  simp only [claim, free, if_true]
  exact ⟨_, rfl⟩

theorem claim_of_found_ready (now : Instant) (keyed : table.Keyed) (found : table.find? id = some r)
    (ready : r.canBeProcessed = true) :
    table.claim id now = .ok (table.modify id fun r => r.claimedAt now) := by
  obtain ⟨table', claimed⟩ := claim_of_ready now found ready
  obtain ⟨-, -, -, rfl⟩ := claim_ok keyed claimed
  exact claimed

theorem claim_of_none (now : Instant) (missing : table.find? id = none) :
    table.claim id now = .error (.app .imageNotFound none) := by
  have nobody : ¬ table.rows.any (fun r =>
      r.id == id && [Status.pending.name, Status.failed.name].contains r.status) = true := by
    intro free
    obtain ⟨r, mem, claimable⟩ := List.any_eq_true.mp free
    exact List.find?_eq_none.mp missing r mem (Bool.and_eq_true_iff.mp claimable).1
  simp only [claim, nobody, missing, if_false, Option.isSome_none, Bool.false_eq_true]

theorem claim_of_unready (now : Instant) (keyed : table.Keyed) (found : table.find? id = some r)
    (unready : r.canBeProcessed = false) :
    table.claim id now = .error (.app .alreadyProcessing none) := by
  have nobody : ¬ table.rows.any (fun r =>
      r.id == id && [Status.pending.name, Status.failed.name].contains r.status) = true := by
    intro free
    obtain ⟨other, mem, claimable⟩ := List.any_eq_true.mp free
    obtain ⟨same, ready⟩ := Bool.and_eq_true_iff.mp claimable
    obtain rfl := keyed.eq_of_id_eq mem (mem_of_find? found)
      ((eq_of_beq same).trans (id_of_find? found).symm)
    have canBe : other.canBeProcessed = true := by simpa [Progress.canBeProcessed] using ready
    rw [unready] at canBe
    cases canBe
  simp only [claim, nobody, found, Option.isSome_some, if_true, Bool.false_eq_true, if_false]

theorem Keyed.claim (keyed : table.Keyed) (claimed : table.claim id now = .ok table') :
    table'.Keyed := by
  obtain ⟨r, -, -, rfl⟩ := claim_ok keyed claimed
  exact keyed.modify _ fun _ => rfl

theorem find?_claim_self (keyed : table.Keyed) (claimed : table.claim id now = .ok table') :
    ∃ r, table.find? id = some r ∧ r.canBeProcessed = true ∧
      table'.find? id = some (r.claimedAt now) := by
  obtain ⟨r, found, ready, rfl⟩ := claim_ok keyed claimed
  refine ⟨r, found, ready, ?_⟩
  rw [find?_modify_self, found]
  · rfl
  · exact fun _ => rfl

theorem find?_claim_of_ne (keyed : table.Keyed) (claimed : table.claim id now = .ok table')
    (distinct : other ≠ id) : table'.find? other = table.find? other := by
  obtain ⟨r, -, -, rfl⟩ := claim_ok keyed claimed
  exact find?_modify_of_ne table distinct _ fun _ => rfl

end Catalogue

end ImagePipeline
