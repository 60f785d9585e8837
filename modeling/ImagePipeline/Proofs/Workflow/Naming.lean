import ImagePipeline.Asset.LocalStore
import ImagePipeline.Workflow.Processing
import ImagePipeline.Workflow.Upload

namespace ImagePipeline

namespace Text

theorem slash_below_lowerRuns : ∀ run ∈ Case.lowerRuns, 47 < run.1 + run.2.2.2 := by decide +kernel

theorem toLower_ne_slash : ∀ n < 128, (Char.ofNat n).toLower = '/' → Char.ofNat n = '/' := by
  decide +kernel

theorem ofNat_ne_slash {n : Nat} (above : 47 < n) : Char.ofNat n ≠ '/' := by
  intro same
  have value := congrArg Char.toNat same
  by_cases valid : n.isValidChar
  · have written : (Char.ofNat n).toNat = n := by
      rw [Char.ofNat, dif_pos valid]
      rfl
    rw [written] at value
    exact absurd (value ▸ above) (by decide)
  · rw [Char.ofNat, dif_neg valid] at value
    exact absurd value (by decide)

theorem lowerChar_ne_slash {c : Char} (other : c ≠ '/') : Case.lowerChar c ≠ '/' := by
  unfold Case.lowerChar
  split
  · next ascii =>
      intro same
      have known := toLower_ne_slash c.toNat ascii
      rw [Char.ofNat_toNat] at known
      exact other (known same)
  · split
    · next first last stride distance found =>
        -- no run of the table leads as far down as the slash
        have run := slash_below_lowerRuns _ (List.mem_of_find?_eq_some found)
        have within := List.find?_some found
        simp only [Bool.and_eq_true, decide_eq_true_eq] at within run
        apply ofNat_ne_slash
        omega
    · exact other

theorem slash_notMem_lowerAfter {chars : List Char} (before : List Char) (free : '/' ∉ chars) :
    '/' ∉ Case.lowerAfter before chars := by
  induction chars generalizing before with
  | nil => simp [Case.lowerAfter]
  | cons c rest ih =>
      simp only [List.mem_cons, not_or] at free
      have later := ih (c :: before) free.2
      have here := lowerChar_ne_slash (Ne.symm free.1)
      simp only [Case.lowerAfter, List.mem_append, not_or]
      refine ⟨?_, later⟩
      split
      · split <;> decide
      · split
        · decide
        · simpa using here.symm

theorem lowerAfter_dot (before rest : List Char) :
    Case.lowerAfter before ('.' :: rest) = '.' :: Case.lowerAfter ('.' :: before) rest := rfl

theorem lowerCase_extension (filename : String) :
    '/' ∉ (lowerCase (extension filename)).toList ∧
      (lowerCase (extension filename) = "" ∨
        ∃ tail, (lowerCase (extension filename)).toList = '.' :: tail) := by
  simp only [lowerCase, extension, String.toList_ofList]
  rcases splitExtension_snd filename.toList with empty | ⟨tail, dotted, inside⟩
  · simp [empty, Case.lowerAfter]
  · rw [dotted]
    constructor
    · apply slash_notMem_lowerAfter
      intro mem
      rcases List.mem_cons.mp mem with dot | mem
      · exact absurd dot (by decide)
      · exact absurd (inside '/' mem) (by decide)
    · exact .inr ⟨_, lowerAfter_dot [] tail⟩

end Text

namespace Asset

structure Path.Plain (name : String) : Prop where
  downward : name ≠ "" ∧ name ≠ "." ∧ name ≠ ".."
  single : '/' ∉ name.toList

theorem Path.components_append {name : String} (single : '/' ∉ name.toList) (space : String) :
    Path.components (space ++ "/" ++ name) = Path.components space ++ [name] := by
  have alone : name.toList.splitOn '/' = [name.toList] := by
    apply List.splitOnP_eq_singleton
    intro c mem
    simpa using fun same : c = '/' => single (same ▸ mem)
  have cut : (space ++ "/" ++ name).toList = space.toList ++ '/' :: name.toList := by simp
  have whole : (space ++ "/" ++ name).toList.splitOn '/' =
      space.toList.splitOn '/' ++ name.toList.splitOn '/' := by
    rw [cut]
    exact List.splitOnP_append_cons _ _ (by simp)
  rw [components, whole, alone]
  simp [components]

theorem LocalStore.eq_resolve_of_locate {store : LocalStore} {key : String} {path : Path}
    (located : store.locate key = .ok path) : path = Path.resolve store.base key := by
  by_cases nul : Path.hasNul key = true
  · rw [locate, if_pos nul] at located
    cases located
  · by_cases below : Path.isBelow store.base (Path.resolve store.base key) = true
    · rw [locate, if_neg nul, if_pos below] at located
      exact (Except.ok.inj located).symm
    · rw [locate, if_neg nul, if_neg below] at located
      cases located

theorem Path.startsWith_append (space name : String) :
    (space ++ "/" ++ name).startsWith "/" = (space ++ "/").startsWith "/" := by
  rw [Bool.eq_iff_iff, String.startsWith_string_iff, String.startsWith_string_iff]
  simp only [String.toList_append]
  cases space.toList <;> simp

theorem Path.step_plain {name : String} (plain : Plain name) (reached : Path) :
    step reached name = reached ++ [name] := by
  rw [step, if_neg (by simpa using ⟨plain.downward.1, plain.downward.2.1⟩),
    if_neg (by simpa using plain.downward.2.2)]

theorem Path.resolve_slash (base : Path) (space : String) :
    resolve base (space ++ "/") =
      (components space).foldl step (if (space ++ "/").startsWith "/" then [] else base) := by
  have cut : components (space ++ "/") = components space ++ [""] := by
    simpa using components_append (by simp : '/' ∉ "".toList) space
  have stay (reached : Path) : step reached "" = reached := rfl
  rw [resolve, cut, List.foldl_append, List.foldl_cons, List.foldl_nil, stay]

theorem Path.resolve_append {name : String} (plain : Plain name) (base : Path) (space : String) :
    resolve base (space ++ "/" ++ name) = resolve base (space ++ "/") ++ [name] := by
  rw [resolve_slash, resolve, components_append plain.single, List.foldl_append, List.foldl_cons,
    List.foldl_nil, step_plain plain, startsWith_append]

theorem exists_directory_of_space (store : LocalStore) (space : String) :
    ∃ directory : Path, ∀ name path, Path.Plain name →
      store.locate (objectKey space name) = .ok path → path = directory ++ [name] := by
  refine ⟨Path.resolve store.base (trimSlashes space ++ "/"), fun name path plain located => ?_⟩
  rw [LocalStore.eq_resolve_of_locate located, objectKey, Path.resolve_append plain]

theorem exists_directory_of_locate {store : LocalStore} {space name : String} {path : Path}
    (plain : Path.Plain name) (located : store.locate (objectKey space name) = .ok path) :
    ∃ directory, path = directory ++ [name] := by
  obtain ⟨directory, leads⟩ := exists_directory_of_space store space
  exact ⟨directory, leads name path plain located⟩

end Asset

namespace Workflow

def uuidChar (place : Nat) (c : Char) : Bool :=
  if [8, 13, 18, 23].contains place then c == '-' else c.isDigit || ('a' ≤ c && c ≤ 'f')

def IsUuid (id : String) : Prop :=
  id.length = 36 ∧ id.toList.zipIdx.all fun (c, place) => uuidChar place c

instance : DecidablePred IsUuid := fun id =>
  inferInstanceAs (Decidable (id.length = 36 ∧ _))

variable {id other : String}

theorem IsUuid.slash_notMem (uuid : IsUuid id) : '/' ∉ id.toList := by
  intro mem
  obtain ⟨place, found⟩ := List.getElem?_of_mem mem
  have formed : uuidChar place '/' = true :=
    List.all_eq_true.mp uuid.2 ('/', place) (List.mem_zipIdx_iff_getElem?.mpr found)
  unfold uuidChar at formed
  split at formed <;> exact absurd formed (by decide)

theorem IsUuid.append_inj (uuid : IsUuid id) (also : IsUuid other) {a b : String}
    (same : id ++ a = other ++ b) : id = other ∧ a = b := by
  have chars : id.toList ++ a.toList = other.toList ++ b.toList := by
    simpa using congrArg String.toList same
  obtain ⟨left, right⟩ := List.append_inj chars
    (by rw [String.length_toList, String.length_toList, uuid.1, also.1])
  exact ⟨String.toList_inj.mp left, String.toList_inj.mp right⟩

theorem IsUuid.plain (uuid : IsUuid id) {rest : String} (free : '/' ∉ rest.toList) :
    Asset.Path.Plain (id ++ rest) := by
  have long (name : String) (short : name.length < 36) : id ++ rest ≠ name := by
    rintro rfl
    rw [String.length_append, uuid.1] at short
    omega
  refine ⟨⟨long "" (by decide), long "." (by decide), long ".." (by decide)⟩, ?_⟩
  simpa using ⟨uuid.slash_notMem, free⟩

/-- The path ends in a name that begins with the identifier. -/
def FileOf (id : String) (path : Asset.Path) : Prop :=
  ∃ directory rest, path = directory ++ [id ++ rest]

theorem FileOf.id_eq (uuid : IsUuid id) (also : IsUuid other) {path : Asset.Path}
    (left : FileOf id path) (right : FileOf other path) : id = other := by
  obtain ⟨directory, rest, rfl⟩ := left
  obtain ⟨directory', rest', same⟩ := right
  have names := (List.append_inj' same rfl).2
  exact (uuid.append_inj also (List.singleton_inj.mp names)).1

def uploadFile (id filename : String) : String := id ++ Admission.extensionOf filename

theorem resultFile_eq (record : Record) : resultFile record =
    record.id ++ ("_" ++ record.processingType ++ Encode.outputExtension) := by
  simp only [resultFile, String.append_assoc]

theorem uploadFile_plain (uuid : IsUuid id) (filename : String) :
    Asset.Path.Plain (uploadFile id filename) :=
  uuid.plain (Text.lowerCase_extension filename).1

theorem resultFile_plain {record : Record} {kind : ProcessingType} (uuid : IsUuid record.id)
    (typed : record.processingType = kind.name) : Asset.Path.Plain (resultFile record) := by
  rw [resultFile_eq, typed]
  apply uuid.plain
  cases kind <;> decide

theorem uploadFile_ne_resultFile (record : Record) (filename : String) :
    uploadFile record.id filename ≠ resultFile record := by
  intro same
  rw [uploadFile, resultFile_eq, String.append_right_inj] at same
  have shape := (Text.lowerCase_extension filename).2
  rw [Admission.extensionOf] at same
  rcases shape with empty | ⟨tail, dotted⟩
  · rw [same] at empty
    simpa using congrArg String.length empty
  · rw [same] at dotted
    simp at dotted

end Workflow

end ImagePipeline
