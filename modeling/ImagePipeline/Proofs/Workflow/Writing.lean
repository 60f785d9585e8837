import ImagePipeline.Proofs.Workflow.Storing

namespace ImagePipeline

namespace Workflow

inductive Written (table : Catalogue) (now : Instant) (r : Record) : Event working → Prop where
  | kept {event} (mem : r ∈ table.rows) : Written table now r event
  | created (draft : Draft) (completed : (draft.withUsual now).complete = .ok r) :
      Written table now r ⟨.create draft, .ok r⟩
  | stored (record old : Record) (mem : old ∈ table.rows) (named : old.id = record.id)
      (same : r = Catalogue.overwrite old record now) : Written table now r ⟨.update record, .ok r⟩
  | claimed (old : Record) (mem : old ∈ table.rows) (ready : old.canBeProcessed = true)
      (same : r = old.claimedAt now) : Written table now r ⟨.claim old.id, .ok ()⟩

variable {table table' : Catalogue} {now : Instant} {c : Call} {reply : working.Reply c} {r : Record}

theorem TableChange.written (change : TableChange table now c reply table') (keyed : table.Keyed)
    (mem : r ∈ table'.rows) : Written table now r ⟨c, reply⟩ := by
  cases change with
  | found => exact .kept mem
  | apart => exact .kept mem
  | deleted change =>
      rw [Catalogue.delete_ok change] at mem
      exact .kept (List.mem_of_mem_filter mem)
  | created change =>
      obtain ⟨completed, -, rfl⟩ := Catalogue.create_ok change
      rcases List.mem_append.mp mem with old | new
      · exact .kept old
      · cases List.mem_singleton.mp new
        exact .created _ completed
  | stored change =>
      obtain ⟨old, found, rfl, rfl⟩ := Catalogue.store_ok change
      rcases keyed.mem_modify found mem with kept | rfl
      · exact .kept kept
      · exact .stored _ old (Catalogue.mem_of_find? found) (Catalogue.id_of_find? found) rfl
  | claimed change =>
      obtain ⟨old, found, ready, rfl⟩ := Catalogue.claim_ok keyed change
      rcases keyed.mem_modify found mem with kept | rfl
      · exact .kept kept
      · obtain rfl := Catalogue.id_of_find? found
        exact .claimed old (Catalogue.mem_of_find? found) ready rfl

theorem TableStep.written (step : TableStep table c reply table') (keyed : table.Keyed)
    (mem : r ∈ table'.rows) : ∃ now, Written table now r ⟨c, reply⟩ := by
  obtain ⟨now, change⟩ := step.change
  exact ⟨now, change.written keyed mem⟩

theorem Site.Responds.change {site site' : Site} (responds : site.Responds c reply site') :
    TableChange site.catalogue site.clock c reply site'.catalogue := by
  cases responds with
  | answered answered => exact change_of_answered answered
  | _ => exact .apart trivial

end Workflow

end ImagePipeline
