import ImagePipeline.Proofs.Json.Texts
import ImagePipeline.Task

namespace ImagePipeline

/-- The payload is the text of a JSON object whose two members are those of the task. -/
def Payload.Carries (payload : Payload) (task : Task) : Prop :=
  ∃ source members, payload.text? = some source ∧ Json.parse? source = some (.object members) ∧
    (Json.object members).member? Task.imageIdMember = some (.text task.imageId) ∧
    (Json.object members).member? Task.kindMember = some (.text task.kind.name)

namespace Task

theorem checkImageId_eq_ok_iff (value : Option Json) (id : { id : String // id ≠ "" }) :
    checkImageId value = .ok id ↔ value = some (.text id.val) := by
  constructor
  · intro checked
    cases value with
    | none => cases checked
    | some value =>
        cases value with
        | text given =>
            simp only [checkImageId] at checked
            split at checked <;> cases checked
            rfl
        | _ => cases checked
  · rintro rfl
    simp only [checkImageId, id.property, dite_false]

theorem checkKind_eq_ok_iff {value : Option Json} {kind : ProcessingType} :
    checkKind value = .ok kind ↔ value = some (.text kind.name) := by
  constructor
  · intro checked
    cases value with
    | none => cases checked
    | some value =>
        cases value with
        | text given =>
            simp only [checkKind] at checked
            split at checked <;> cases checked
            next found =>
              have named := List.find?_some found
              rw [eq_of_beq named]
        | _ => cases checked
  · rintro rfl
    simp only [checkKind, ProcessingType.ofName?_name]

theorem ofMembers_eq_ok_iff {imageId kind : Option Json} {task : Task} :
    ofMembers imageId kind = .ok task ↔
      imageId = some (.text task.imageId) ∧ kind = some (.text task.kind.name) := by
  rw [← checkImageId_eq_ok_iff imageId ⟨task.imageId, task.imageId_nonempty⟩, ← checkKind_eq_ok_iff]
  constructor
  · intro made
    unfold ofMembers at made
    split at made
    next id kind idOk kindOk =>
      cases made
      exact ⟨idOk, kindOk⟩
    · cases made
  · rintro ⟨idOk, kindOk⟩
    simp only [ofMembers, idOk, kindOk]

end Task

theorem Payload.task_eq_ok_iff {payload : Payload} {task : Task} :
    payload.task = .ok task ↔ payload.Carries task := by
  constructor
  · intro read
    unfold Payload.task at read
    split at read
    next source text =>
      unfold Task.parse at read
      split at read
      next value parsed =>
        cases value with
        | object members => exact ⟨source, members, text, parsed, Task.ofMembers_eq_ok_iff.mp read⟩
        | _ => cases read
      · cases read
    · cases read
  · rintro ⟨source, members, text, parsed, both⟩
    simp only [Payload.task, text, Task.parse, parsed, Task.ofJson]
    exact Task.ofMembers_eq_ok_iff.mpr both

namespace Payload

theorem text?_toUTF8 (source : String) : (Payload.bytes source.toUTF8).text? = some source :=
  dif_pos source.isValidUTF8

theorem carries_of_wire {payload : Payload} {task : Task} (written : payload.text? = some task.wire) :
    payload.Carries task := by
  have parsed := Json.parse_write_texts Task.imageIdMember task.imageId
    [(Task.kindMember, task.kind.name)]
  exact ⟨task.wire, _, written, parsed, rfl, rfl⟩

end Payload

end ImagePipeline
