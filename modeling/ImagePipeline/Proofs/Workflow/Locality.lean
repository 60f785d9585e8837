import ImagePipeline.Proofs.Workflow.Integrity
import ImagePipeline.Proofs.Workflow.Outcomes
/-!
# Images are processed apart from each other

Attempts on images of distinct identifiers do not see each other. Each changes the row of its image and
the file of its result only (`Attended.confined_play`); and with one outcome for each of its calls it
goes through the same stages, whatever the others do in between and whenever it is its turn
(`agree_play`). So any two schedules that agree in the outcomes of each attempt leave the same table, but
for times, and the same files (`processing_local`).
-/

namespace ImagePipeline.Workflow

open Asset (LocalStore FileTree Path Source objectKey)
open Script (Follows)

variable {κ : Type} {ids : κ → String} {store : LocalStore} {first site site' : Site}
  {table table' : Catalogue} {c : Call} {reply : working.Reply c} {id : String} {r row : Record}
  {p p' : Attempt} {i j : κ}

/-! ## Names of results -/

theorem resultFile_inj {a b : Record} {kind kind' : ProcessingType} (typed : a.processingType = kind.name)
    (typed' : b.processingType = kind'.name) (same : resultFile a = resultFile b) :
    a.id = b.id ∧ kind = kind' := by
  rw [resultFile_eq, resultFile_eq, typed, typed'] at same
  -- no ending is the end of another one
  have apart : ∀ kind kind' : ProcessingType,
      ("_" ++ kind.name ++ Encode.outputExtension).toList <:+
        ("_" ++ kind'.name ++ Encode.outputExtension).toList → kind = kind' := by
    intro kind kind'
    cases kind <;> cases kind' <;> decide
  have ends (x y : String) : y.toList <:+ (x ++ y).toList := by
    rw [String.toList_append]
    exact List.suffix_append _ _
  have both := ends b.id ("_" ++ kind'.name ++ Encode.outputExtension)
  rw [← same] at both
  obtain rfl : kind = kind' := by
    rcases List.suffix_or_suffix_of_suffix (ends a.id _) both with left | right
    · exact apart _ _ left
    · exact (apart _ _ right).symm
  exact ⟨(String.append_left_inj _).mp same, rfl⟩

/-! ## One attempt -/

theorem Revision.sameImage {a : Activity} {event : Event working} {r' : Record}
    (revision : Revision a event r r') : SameImage r r' := by
  cases revision <;> exact ⟨rfl, rfl, rfl⟩

theorem Attempt.Step.ne_looking (step : p.Step c reply p') (other : String) : p' ≠ looking other := by
  rintro rfl
  cases step.course with
  | works _ _ after => rcases after with after | ended <;> contradiction
  | claims _ _ after => cases after
  | finds _ _ _ after => cases after
  | leaves _ ended => cases ended

theorem TableStep.found_of_ok {reply : Except Failure Record}
    (step : TableStep table (.find id) reply table') (ok : reply = .ok r) :
    table.find? id = some r := by
  cases step with
  | found holds => exact Except.ok.inj ok ▸ holds
  | apart silent =>
      subst ok
      cases silent

theorem Attempt.call?_eq_none (untimed : p.untimed = p'.untimed) (ended : p.call? = none) :
    p'.call? = none := by
  have both := p'.call?_untimed
  rw [← untimed, p.call?_untimed, ended] at both
  exact Option.map_eq_none_iff.mp both.symm

theorem Attempt.Concerns.start (id : String) (table : Catalogue) : (looking id).Concerns table id where
  looks _ same := (Attempt.looking.inj same).symm
  holds r here := by cases here

theorem Attempt.Concerns.step (concerns : p.Concerns table id) (step : p.Step c reply p')
    (change : TableStep table c reply table')
    (kept : ∀ row, table.find? id = some row → ∃ row', table'.find? id = some row' ∧ SameImage row row') :
    p'.Concerns table' id where
  looks other same := (step.ne_looking other same).elim
  holds r after := by
    rcases step.revision after with ⟨other, event⟩ | ⟨old, here, revision⟩
    · cases event
      have looked := step.looking_of_found
      obtain rfl := concerns.looks other looked
      obtain ⟨row', there, image⟩ := kept r (change.found_of_ok rfl)
      exact ⟨row', there, image.symm⟩
    · obtain ⟨row, found, image⟩ := concerns.holds old here
      obtain ⟨row', there, same⟩ := kept row found
      exact ⟨row', there, same.symm.trans (image.trans revision.sameImage)⟩

theorem Attempt.Concerns.mono (concerns : p.Concerns table id)
    (kept : ∀ row, table.find? id = some row → ∃ row', table'.find? id = some row' ∧ SameImage row row') :
    p.Concerns table' id where
  looks := concerns.looks
  holds r here := by
    obtain ⟨row, found, image⟩ := concerns.holds r here
    obtain ⟨row', there, same⟩ := kept row found
    exact ⟨row', there, same.symm.trans image⟩

namespace Confined

theorem refl (store : LocalStore) (id : String) (site : Site) : Confined store id site site :=
  ⟨fun _ _ => rfl, rfl, fun row found => ⟨row, found, .refl row⟩, .inl rfl, rfl⟩

theorem kept (confined : Confined store id site site') {other : String}
    (found : site.catalogue.find? other = some row) :
    ∃ row', site'.catalogue.find? other = some row' ∧ SameImage row row' := by
  by_cases own : other = id
  · subst own
    exact confined.row row found
  · exact ⟨row, (confined.others other own).trans found, .refl row⟩

theorem origin (confined : Confined store id site site') {other : String}
    (found : site'.catalogue.find? other = some row) :
    ∃ old, site.catalogue.find? other = some old ∧ SameImage old row := by
  cases before : site.catalogue.find? other with
  | some old =>
      obtain ⟨row', there, image⟩ := confined.kept before
      rw [found] at there
      cases there
      exact ⟨old, rfl, image⟩
  | none =>
      have named : other ∈ site'.catalogue.rows.map (·.id) :=
        List.mem_map.mpr ⟨row, Catalogue.mem_of_find? found, Catalogue.id_of_find? found⟩
      rw [confined.ids] at named
      obtain ⟨old, mem, same⟩ := List.mem_map.mp named
      exact absurd (beq_iff_eq.mpr same) (List.find?_eq_none.mp before old mem)

theorem file?_eq (confined : Confined store id site site') {path : Path}
    (apart : ∀ row, site.catalogue.find? id = some row → store.locate (resultKey store row) ≠ .ok path) :
    site'.files.file? path = site.files.file? path := by
  rcases confined.files with same | ⟨row, at_, found, located, alike⟩
  · rw [same]
  · exact alike.file?_of_ne fun same => apart row found (same ▸ located)

end Confined

/-! ## All attempts -/

/-- The thread stands at a stage of an attempt on the image. -/
structure Stands (id : String) (table : Catalogue) (t : Thread working (Except Failure Unit))
    (p : Attempt) : Prop where
  follows : Follows attempting Closes p t.rest
  concerns : p.Concerns table id

structure Attended (ids : κ → String) (first : Site)
    (e : Ensemble working κ Site (Except Failure Unit)) : Prop where
  keyed : e.shared.catalogue.Keyed
  ids_eq : e.shared.catalogue.rows.map (·.id) = first.catalogue.rows.map (·.id)
  store_eq : e.shared.store = first.store
  lodged : ∀ r ∈ e.shared.catalogue.rows, Lodged first.store e.shared.files r
  images : ∀ id r, e.shared.catalogue.find? id = some r →
    ∃ old, first.catalogue.find? id = some old ∧ SameImage old r
  others : ∀ id, (∀ i, ids i ≠ id) → e.shared.catalogue.find? id = first.catalogue.find? id
  files : ∀ path, (∀ i r, first.catalogue.find? (ids i) = some r →
    first.store.locate (resultKey first.store r) ≠ .ok path) →
      e.shared.files.file? path = first.files.file? path
  threads : ∀ i, ∃ p, Stands (ids i) e.shared.catalogue (e.threads i) p

theorem Stands.start (id : String) (table : Catalogue) :
    Stands id table (.start (processImage id).run) (.looking id) where
  follows := processImage_follows id
  concerns := .start id table

theorem Stands.ended {t : Thread working (Except Failure Unit)} {result : Except Failure Unit}
    (stands : Stands id table t p) (done : t.rest = .done result) :
    ∃ how, p = .ended how ∧ result = how.result := by
  have follows := stands.follows
  rw [done] at follows
  exact follows

theorem Stands.allowed {t : Thread working (Except Failure Unit)}
    {rest : working.Reply c → Script working (Except Failure Unit)} (stands : Stands id table t p)
    (waiting : t.rest = .ask c rest) : p.call? = some c := by
  have follows := stands.follows
  rw [waiting] at follows
  exact follows.1

theorem Stands.mono {t : Thread working (Except Failure Unit)} (stands : Stands id table t p)
    (kept : ∀ row, table.find? id = some row → ∃ row', table'.find? id = some row' ∧ SameImage row row') :
    Stands id table' t p :=
  ⟨stands.follows, stands.concerns.mono kept⟩

namespace Attended

variable {e e' : Ensemble working κ Site (Except Failure Unit)} {way : Outcome × Instant}
  {rest : working.Reply c → Script working (Except Failure Unit)}

theorem start (keyed : first.catalogue.Keyed)
    (lodged : ∀ r ∈ first.catalogue.rows, Lodged first.store first.files r) :
    Attended ids first (.start first fun i => (processImage (ids i)).run) where
  keyed := keyed
  ids_eq := rfl
  store_eq := rfl
  lodged := lodged
  images _ r found := ⟨r, found, .refl r⟩
  others _ _ := rfl
  files _ _ := rfl
  threads i := ⟨.looking (ids i), .start (ids i) first.catalogue⟩

theorem confined (attended : Attended ids first e)
    (stands : Stands (ids i) e.shared.catalogue (e.threads i) p)
    (allowed : p.call? = some c) (way : Outcome × Instant) :
    Confined first.store (ids i) e.shared (Site.respond way c e.shared).2 := by
  obtain ⟨others, ids_, row, files, equipment⟩ := confined_answer { e.shared with clock := way.2 }
    stands.concerns attended.keyed attended.store_eq allowed way.1
  exact ⟨others, ids_, row, files, equipment⟩

variable [DecidableEq κ]

theorem confined_next (attended : Attended ids first e) (way : Outcome × Instant) (i : κ) :
    Confined first.store (ids i) e.shared (e.next (Site.respond way) i).shared := by
  obtain ⟨p, stands⟩ := attended.threads i
  cases waiting : (e.threads i).rest with
  | done value =>
      rw [Ensemble.next_of_done waiting]
      exact .refl first.store (ids i) e.shared
  | ask c rest =>
      have follows := stands.follows
      rw [waiting] at follows
      rw [Ensemble.next_of_ask waiting]
      exact attended.confined stands follows.1 way

theorem stands_next (attended : Attended ids first e)
    (stands : Stands (ids i) e.shared.catalogue (e.threads i) p)
    (waiting : (e.threads i).rest = .ask c rest) (way : Outcome × Instant) :
    ∃ p', p.Step c (Site.respond way c e.shared).1 p' ∧
      Stands (ids i) (e.next (Site.respond way) i).shared.catalogue
        ((e.next (Site.respond way) i).threads i) p' := by
  have follows := stands.follows
  rw [waiting] at follows
  obtain ⟨allowed, onward⟩ := follows
  have confined := attended.confined stands allowed way
  obtain ⟨p', step⟩ := Attempt.step_total allowed (Site.respond way c e.shared).1
  refine ⟨p', step, ?_⟩
  rw [Ensemble.next_of_ask waiting]
  have change := (way.1.responds_answer c { e.shared with clock := way.2 }).step.table
  refine ⟨?_, stands.concerns.step step change confined.row⟩
  simpa only [Function.update_self, Thread.answered] using onward _ p' step

theorem stands_next_of_ne (attended : Attended ids first e) {way : Outcome × Instant}
    (stands : Stands (ids j) e.shared.catalogue (e.threads j) p) (distinct : j ≠ i) :
    Stands (ids j) (e.next (Site.respond way) i).shared.catalogue
      ((e.next (Site.respond way) i).threads j) p := by
  rw [Ensemble.threads_next_of_ne _ distinct]
  exact stands.mono fun _ found => (attended.confined_next way i).kept found

theorem hasDirectory_next (way : Outcome × Instant) (i : κ)
    (e : Ensemble working κ Site (Except Failure Unit)) :
    (e.next (Site.respond way) i).shared.files.HasDirectory = e.shared.files.HasDirectory := by
  cases waiting : (e.threads i).rest with
  | done value => rw [Ensemble.next_of_done waiting]
  | ask c rest =>
      rw [Ensemble.next_of_ask waiting]
      exact (way.1.responds_answer c { e.shared with clock := way.2 }).hasDirectory

theorem next (attended : Attended ids first e) (way : Outcome × Instant) (i : κ) :
    Attended ids first (e.next (Site.respond way) i) := by
  have confined := attended.confined_next way i
  have keyed : (e.next (Site.respond way) i).shared.catalogue.Keyed := by
    unfold Catalogue.Keyed
    rw [confined.ids]
    exact attended.keyed
  constructor
  case keyed => exact keyed
  case ids_eq => exact confined.ids.trans attended.ids_eq
  case store_eq => exact (congrArg Prod.fst confined.equipment).trans attended.store_eq
  case lodged =>
    intro r mem
    obtain ⟨old, found, image⟩ := confined.origin (keyed.find?_of_mem mem)
    exact (attended.lodged old (Catalogue.mem_of_find? found)).congr image (hasDirectory_next way i e)
  case images =>
    intro id r found
    obtain ⟨old, found, image⟩ := confined.origin found
    obtain ⟨oldest, there, before⟩ := attended.images id old found
    exact ⟨oldest, there, before.trans image⟩
  case others =>
    exact fun id apart => (confined.others id (apart i).symm).trans (attended.others id apart)
  case files =>
    intro path apart
    refine (confined.file?_eq fun row found => ?_).trans (attended.files path apart)
    obtain ⟨old, there, image⟩ := attended.images (ids i) row found
    exact image.resultKey_eq ▸ apart i old there
  case threads =>
    intro j
    by_cases own : j = i
    · subst own
      obtain ⟨p, stands⟩ := attended.threads j
      cases waiting : (e.threads j).rest with
      | done value =>
          rw [Ensemble.next_of_done waiting]
          exact ⟨p, stands⟩
      | ask c rest =>
          obtain ⟨p', -, onward⟩ := attended.stands_next stands waiting way
          exact ⟨p', onward⟩
    · obtain ⟨p, stands⟩ := attended.threads j
      exact ⟨p, attended.stands_next_of_ne stands own⟩

theorem play (attended : Attended ids first e) (moves : List (κ × Outcome × Instant)) :
    Attended ids first (e.play Site.respond moves) := by
  induction moves generalizing e with
  | nil => exact attended
  | cons move rest ih => exact ih (attended.next move.2 move.1)

theorem confined_play (attended : Attended ids first e) {moves : List (κ × Outcome × Instant)}
    (own : ∀ move ∈ moves, move.1 = i) :
    (∀ other, other ≠ ids i → (e.play Site.respond moves).shared.catalogue.find? other =
      e.shared.catalogue.find? other) ∧
    ∀ path, (∀ r, first.catalogue.find? (ids i) = some r →
      first.store.locate (resultKey first.store r) ≠ .ok path) →
        (e.play Site.respond moves).shared.files.file? path = e.shared.files.file? path := by
  induction moves generalizing e with
  | nil => exact ⟨fun _ _ => rfl, fun _ _ => rfl⟩
  | cons move rest ih =>
      obtain ⟨j, way⟩ := move
      obtain rfl : j = i := own _ List.mem_cons_self
      have confined := attended.confined_next way j
      obtain ⟨rows, files⟩ := ih (attended.next way j) fun move mem =>
        own move (List.mem_cons_of_mem _ mem)
      refine ⟨fun other distinct => (rows other distinct).trans (confined.others other distinct),
        fun path apart => (files path apart).trans (confined.file?_eq fun row found => ?_)⟩
      obtain ⟨old, there, image⟩ := attended.images (ids j) row found
      exact image.resultKey_eq ▸ apart old there

end Attended

/-! ## Two runs -/

/-- One attempt of two runs is at stages that differ in times only, and its image is alike in both. -/
def Agree (ids : κ → String) (store : LocalStore) (i : κ)
    (e e' : Ensemble working κ Site (Except Failure Unit)) : Prop :=
  ∃ p p', Stands (ids i) e.shared.catalogue (e.threads i) p ∧
    Stands (ids i) e'.shared.catalogue (e'.threads i) p' ∧ p.untimed = p'.untimed ∧
    Alike store (ids i) e.shared e'.shared

namespace Agree

variable {e e' : Ensemble working κ Site (Except Failure Unit)} {way way' : Outcome × Instant}

theorem symm (agree : Agree ids store i e e') : Agree ids store i e' e := by
  obtain ⟨p, p', stands, stands', untimed, alike⟩ := agree
  exact ⟨p', p, stands', stands, untimed.symm, alike.symm⟩

theorem done (agree : Agree ids store i e e') {result : Except Failure Unit}
    (ended : (e.threads i).rest = .done result) : (e'.threads i).rest = .done result := by
  obtain ⟨p, p', stands, stands', untimed, -⟩ := agree
  obtain ⟨how, rfl, rfl⟩ := stands.ended ended
  cases waiting : (e'.threads i).rest with
  | ask c rest =>
      have allowed := stands'.allowed waiting
      rw [Attempt.call?_eq_none untimed rfl] at allowed
      cases allowed
  | done result =>
      obtain ⟨how', rfl, rfl⟩ := stands'.ended waiting
      rw [← how'.result_untimed, ← Attempt.ended.inj untimed, how.result_untimed]

variable [DecidableEq κ]

theorem next_of_ne (agree : Agree ids first.store i e e') (attended' : Attended ids first e')
    (injective : Function.Injective ids) (way : Outcome × Instant) (distinct : i ≠ j) :
    Agree ids first.store i e (e'.next (Site.respond way) j) := by
  obtain ⟨p, p', stands, stands', untimed, alike⟩ := agree
  refine ⟨p, p', stands, attended'.stands_next_of_ne stands' distinct, untimed, alike.trans ?_⟩
  exact alike_of_confined (attended'.confined_next way j) (injective.ne distinct) attended'.lodged

theorem next (agree : Agree ids first.store i e e') (attended : Attended ids first e)
    (attended' : Attended ids first e') (outcome : way.1 = way'.1) :
    Agree ids first.store i (e.next (Site.respond way) i) (e'.next (Site.respond way') i) := by
  have same := agree
  obtain ⟨p, p', stands, stands', untimed, alike⟩ := agree
  cases waiting : (e.threads i).rest with
  | done value =>
      rw [Ensemble.next_of_done waiting, Ensemble.next_of_done (same.done waiting)]
      exact same
  | ask c rest =>
      cases waiting' : (e'.threads i).rest with
      | done value =>
          rw [same.symm.done waiting'] at waiting
          cases waiting
      | ask c' rest' =>
          obtain ⟨q, step, onward⟩ := attended.stands_next stands waiting way
          obtain ⟨q', step', onward'⟩ := attended'.stands_next stands' waiting' way'
          have dated : Alike first.store (ids i) { e.shared with clock := way.2 }
              { e'.shared with clock := way'.2 } :=
            ⟨alike.row, alike.equipment, alike.original, alike.result⟩
          obtain ⟨answered, after⟩ := answered_alike dated attended.store_eq attended.keyed
            attended'.keyed attended.lodged attended'.lodged stands.concerns untimed
            (stands.allowed waiting) (stands'.allowed waiting') way.1
          have event : Event.untimed ⟨c, (Site.respond way c e.shared).1⟩ =
              Event.untimed ⟨c', (Site.respond way' c' e'.shared).1⟩ := by
            unfold Site.respond
            rw [← outcome]
            exact answered
          refine ⟨q, q', onward, onward', Attempt.untimed_step untimed step step' event, ?_⟩
          rw [Ensemble.next_of_ask waiting, Ensemble.next_of_ask waiting']
          change Alike first.store (ids i) (way.1.answer c { e.shared with clock := way.2 }).2
            (way'.1.answer c' { e'.shared with clock := way'.2 }).2
          rw [← outcome]
          exact after

end Agree

def outcomes [DecidableEq κ] (i : κ) (moves : List (κ × Outcome × Instant)) : List Outcome :=
  moves.filterMap fun (mover, outcome, _) => if mover = i then some outcome else none

section Runs

variable [DecidableEq κ] {e e' : Ensemble working κ Site (Except Failure Unit)}

theorem agree_idle {idle : List (κ × Outcome × Instant)} (agree : Agree ids first.store i e e')
    (attended' : Attended ids first e') (injective : Function.Injective ids)
    (others : ∀ move ∈ idle, move.1 ≠ i) :
    Agree ids first.store i e (e'.play Site.respond idle) := by
  induction idle generalizing e' with
  | nil => exact agree
  | cons move rest ih =>
      have distinct : i ≠ move.1 := (others move List.mem_cons_self).symm
      exact ih (agree.next_of_ne attended' injective move.2 distinct) (attended'.next move.2 move.1)
        fun move mem => others move (List.mem_cons_of_mem _ mem)

theorem agree_play {moves moves' : List (κ × Outcome × Instant)} (agree : Agree ids first.store i e e')
    (attended : Attended ids first e) (attended' : Attended ids first e')
    (injective : Function.Injective ids) (same : outcomes i moves = outcomes i moves') :
    Agree ids first.store i (e.play Site.respond moves) (e'.play Site.respond moves') := by
  -- the moves of `i` in the second schedule are taken up one by one, each after those before it
  induction moves generalizing e e' moves' with
  | nil =>
      refine agree_idle agree attended' injective fun move mem own => ?_
      have none_ := List.filterMap_eq_nil_iff.mp same.symm move mem
      simp [own] at none_
  | cons move rest ih =>
      obtain ⟨j, way⟩ := move
      by_cases own : j = i
      · subst own
        have here : outcomes j ((j, way) :: rest) = way.1 :: outcomes j rest :=
          List.filterMap_cons_some (by simp)
        obtain ⟨idle, ⟨k, way'⟩, rest', rfl, others, mine, later⟩ :=
          List.filterMap_eq_cons_iff.mp (same.symm.trans here)
        have mover : k = j ∧ way'.1 = way.1 := by simpa using mine
        obtain ⟨rfl, outcome⟩ := mover
        rw [Ensemble.play_append]
        have waited := agree_idle agree attended' injective fun move mem own => by
          have none_ := others move mem
          simp [own] at none_
        have attended'' := attended'.play idle
        have onward := ih (waited.next attended attended'' outcome.symm) (attended.next way k)
          (attended''.next way' k) later.symm
        exact onward
      · have here : outcomes i ((j, way) :: rest) = outcomes i rest :=
          List.filterMap_cons_none (by simp [own])
        have later := (agree.symm.next_of_ne attended injective way (Ne.symm own)).symm
        exact ih later (attended.next way j) attended' (here.symm.trans same)

omit [DecidableEq κ] in
theorem same_of_agree (attended : Attended ids first e) (attended' : Attended ids first e')
    (agree : ∀ i, Agree ids first.store i e e') :
    e.shared.catalogue.rows.map Record.untimed = e'.shared.catalogue.rows.map Record.untimed ∧
      ∀ path, e.shared.files.file? path = e'.shared.files.file? path := by
  constructor
  · rw [attended.keyed.map_rows, attended'.keyed.map_rows, attended.ids_eq, attended'.ids_eq]
    congr 1
    funext id
    -- rows of images that no attempt is about are as they were at first in both
    by_cases known : ∃ i, ids i = id
    · obtain ⟨i, rfl⟩ := known
      obtain ⟨-, -, -, -, -, alike⟩ := agree i
      exact alike.row.symm
    · have apart := not_exists.mp known
      rw [attended.others id apart, attended'.others id apart]
  · intro path
    by_cases known : ∃ i r, first.catalogue.find? (ids i) = some r ∧
        first.store.locate (resultKey first.store r) = .ok path
    · obtain ⟨i, old, found, located⟩ := known
      obtain ⟨-, -, -, -, -, alike⟩ := agree i
      have there : (ids i) ∈ e.shared.catalogue.rows.map (·.id) := by
        rw [attended.ids_eq]
        exact List.mem_map.mpr ⟨old, Catalogue.mem_of_find? found, Catalogue.id_of_find? found⟩
      obtain ⟨row, mem, named⟩ := List.mem_map.mp there
      have known : e.shared.catalogue.find? (ids i) = some row := named ▸ attended.keyed.find?_of_mem mem
      obtain ⟨old', found', image⟩ := attended.images (ids i) row known
      rw [found] at found'
      cases found'
      have same := (alike.result row path known (image.resultKey_eq ▸ located)).1
      exact (FileTree.file?_congr same).symm
    · have apart : ∀ i r, first.catalogue.find? (ids i) = some r →
          first.store.locate (resultKey first.store r) ≠ .ok path :=
        fun i r found located => known ⟨i, r, found, located⟩
      rw [attended.files path apart, attended'.files path apart]

end Runs

/-! ## All runs -/

theorem Lodged.of_traced {ι : Type} {errands : ι → Errand} {pasts : ι → List (Event working)}
    {files : FileTree} (traced : Traced store errands pasts r) (given : GivenOnce pasts)
    (sheltered : Sheltered store files r) : Lodged store files r := by
  have uuid := traced.uuid given
  have typed := traced.typed
  obtain ⟨i, upload, origin, ofUpload⟩ := traced
  exact ⟨uuid, typed, ⟨upload.filename, ofUpload.original⟩, sheltered.original⟩

theorem attended_of_reached {ι : Type} [DecidableEq ι] (errands : ι → Errand) (site : Site)
    (empty : site.catalogue.rows = []) (e : Ensemble working ι Site (Except Failure Unit))
    (reached : Ensemble.Reaches Site.guarded (.start site fun i => (errands i).service.run) e)
    (given : GivenOnce fun i => (e.threads i).past) (ids : κ → String) :
    Attended ids e.shared (.start e.shared fun i => (processImage (ids i)).run) := by
  obtain ⟨stages, accounted, housing⟩ := Housing.of_reaches errands site empty reached given
  refine .start accounted.exclusive.keyed fun r mem => ?_
  have same : e.shared.store = site.store := accounted.store_eq
  rw [same]
  exact .of_traced (accounted.rows r mem) given (housing.rows r mem)

/-- Where errands side by side led, images of distinct identifiers are processed apart from each other.
The moves of one attempt, however its calls come out, change no row but that of its image and no file but
that of its result, and results of distinct images have distinct names. So two schedules in which the
calls of each attempt come out alike, in whatever order and at whatever times, leave tables that differ
in times only and the same files, and the attempts return the same. -/
theorem processing_local {ι : Type} [DecidableEq ι] [DecidableEq κ] (errands : ι → Errand) (site : Site)
    (empty : site.catalogue.rows = []) (e : Ensemble working ι Site (Except Failure Unit))
    (reached : Ensemble.Reaches Site.guarded (.start site fun i => (errands i).service.run) e)
    (given : GivenOnce fun i => (e.threads i).past) (ids : κ → String)
    (injective : Function.Injective ids) :
    (∀ moves own i, (∀ move ∈ own, move.1 = i) →
      let before := (Ensemble.start e.shared fun i => (processImage (ids i)).run).play Site.respond moves
      let after := before.play Site.respond own
      (∀ other, other ≠ ids i →
        after.shared.catalogue.find? other = before.shared.catalogue.find? other) ∧
      ∀ path, (∀ r, e.shared.catalogue.find? (ids i) = some r →
        e.shared.store.locate (objectKey e.shared.store.processedSpace (resultFile r)) ≠ .ok path) →
          after.shared.files.file? path = before.shared.files.file? path) ∧
    (∀ (a b : Record) (kind kind' : ProcessingType), a.processingType = kind.name →
      b.processingType = kind'.name → a.id ≠ b.id → resultFile a ≠ resultFile b) ∧
    ∀ moves moves', (∀ i, outcomes i moves = outcomes i moves') →
      let left := (Ensemble.start e.shared fun i => (processImage (ids i)).run).play Site.respond moves
      let right := (Ensemble.start e.shared fun i => (processImage (ids i)).run).play Site.respond moves'
      left.shared.catalogue.rows.map Record.untimed = right.shared.catalogue.rows.map Record.untimed ∧
      (∀ path, left.shared.files.file? path = right.shared.files.file? path) ∧
      ∀ i result, (left.threads i).rest = .done result ↔ (right.threads i).rest = .done result := by
  have attended : Attended ids e.shared (.start e.shared fun i => (processImage (ids i)).run) :=
    attended_of_reached errands site empty e reached given ids
  refine ⟨fun moves own i only => ?_, fun a b kind kind' typed typed' distinct same => ?_,
    fun moves moves' same => ?_⟩
  · exact (attended.play moves).confined_play only
  · exact distinct (resultFile_inj typed typed' same).1
  · have agree : ∀ i, Agree ids e.shared.store i
        ((Ensemble.start e.shared fun i => (processImage (ids i)).run).play Site.respond moves)
        ((Ensemble.start e.shared fun i => (processImage (ids i)).run).play Site.respond moves') := by
      intro i
      obtain ⟨p, stands⟩ := attended.threads i
      exact agree_play ⟨p, p, stands, stands, rfl, .refl _ _ _⟩ attended attended injective (same i)
    obtain ⟨tables, files⟩ := same_of_agree (attended.play moves) (attended.play moves') agree
    exact ⟨tables, files, fun i result => ⟨(agree i).done, (agree i).symm.done⟩⟩

/-! Two uploads of one picture; the result of the second breaks off while it is saved. -/

inductive Turn where
  | former
  | latter
  deriving DecidableEq

def Turn.image : Turn → String
  | former => Site.idNumber 1
  | latter => Site.idNumber 2

def twoDots : Ensemble working Turn Site (Except Failure Unit) :=
  (Ensemble.start oneRoom fun _ => (Errand.upload ⟨12, [".png"]⟩ dot).service.run).play Site.answerBy
    (.replicate 5 (.former, none) ++ .replicate 5 (.latter, none))

def Turn.outcomes : Turn → List Outcome
  | former => .replicate 11 .served
  | latter => .replicate 8 .served ++ [.torn 3 (.foreign .device "")] ++ .replicate 2 .served

def oneByOne : List (Turn × Outcome × Instant) :=
  Turn.former.outcomes.map (.former, ·, ⟨1000000⟩) ++ Turn.latter.outcomes.map (.latter, ·, ⟨2000000⟩)

def inTurns : List (Turn × Outcome × Instant) :=
  (Turn.latter.outcomes.zip Turn.former.outcomes).flatMap fun (one, other) =>
    [(.latter, one, ⟨3000000⟩), (.former, other, ⟨4000000⟩)]

def processedBy (moves : List (Turn × Outcome × Instant)) :
    Ensemble working Turn Site (Except Failure Unit) :=
  (Ensemble.start twoDots.shared fun turn => (processImage turn.image).run).play Site.respond moves

theorem twoDots_seen : issued (twoDots.threads .former).past = [Site.idNumber 1] ∧
    issued (twoDots.threads .latter).past = [Site.idNumber 2] ∧
    (processedBy oneByOne).shared.catalogue.rows.map (fun r => (r.status, r.updatedAt)) =
      [(Status.completed.name, ⟨1000000⟩), (Status.failed.name, ⟨2000000⟩)] ∧
    (processedBy inTurns).shared.catalogue.rows.map (fun r => (r.status, r.updatedAt)) =
      [(Status.completed.name, ⟨4000000⟩), (Status.failed.name, ⟨3000000⟩)] := by
  decide +kernel

theorem twoDots_givenOnce : GivenOnce fun turn => (twoDots.threads turn).past := by
  obtain ⟨former, latter, -⟩ := twoDots_seen
  have only (turn : Turn) (id : String) (mem : ⟨.newId, id⟩ ∈ (twoDots.threads turn).past) :
      id = turn.image := by
    have here : id ∈ issued (twoDots.threads turn).past := List.mem_filterMap.mpr ⟨_, mem, rfl⟩
    cases turn with
    | former => exact List.mem_singleton.mp (former ▸ here)
    | latter => exact List.mem_singleton.mp (latter ▸ here)
  have uuid : ∀ turn : Turn, IsUuid turn.image := by
    rintro (_ | _) <;> decide +kernel
  have apart : Turn.former.image ≠ Turn.latter.image := by decide +kernel
  refine ⟨fun turn id mem => only turn id mem ▸ uuid turn, fun turn other id left right => ?_⟩
  have same := (only turn id left).symm.trans (only other id right)
  cases turn <;> cases other
  · rfl
  · exact absurd same apart
  · exact absurd same.symm apart
  · rfl

theorem twoDots_processing_local :
    (processedBy oneByOne).shared.catalogue.rows.map (fun r => (r.status, r.updatedAt)) =
      [(Status.completed.name, ⟨1000000⟩), (Status.failed.name, ⟨2000000⟩)] ∧
    (processedBy inTurns).shared.catalogue.rows.map (fun r => (r.status, r.updatedAt)) =
      [(Status.completed.name, ⟨4000000⟩), (Status.failed.name, ⟨3000000⟩)] ∧
    (processedBy oneByOne).shared.catalogue.rows.map Record.untimed =
      (processedBy inTurns).shared.catalogue.rows.map Record.untimed ∧
    ∀ path, (processedBy oneByOne).shared.files.file? path =
      (processedBy inTurns).shared.files.file? path := by
  obtain ⟨-, -, left, right⟩ := twoDots_seen
  have injective : Function.Injective Turn.image := by
    have apart : Turn.former.image ≠ Turn.latter.image := by decide +kernel
    rintro (_ | _) (_ | _) same
    · rfl
    · exact absurd same apart
    · exact absurd same.symm apart
    · rfl
  obtain ⟨-, -, alike⟩ := processing_local (fun _ => .upload ⟨12, [".png"]⟩ dot) oneRoom rfl twoDots
    (Ensemble.reaches_play Site.responds_answerBy _ _) twoDots_givenOnce Turn.image injective
  have same : ∀ turn, outcomes turn oneByOne = outcomes turn inTurns := by
    rintro (_ | _) <;> simp [outcomes, oneByOne, inTurns, Turn.outcomes, List.replicate]
  have both := alike oneByOne inTurns same
  unfold processedBy at left right ⊢
  exact ⟨left, right, both.1, both.2.1⟩

end ImagePipeline.Workflow
