import ImagePipeline.Json.Reader
import ImagePipeline.Json.Writer

namespace ImagePipeline.Json

theorem hexValue?_hexDigit : ∀ n < 16, hexValue? (hexDigit n) = some n := by decide

theorem readText_plain {c : Char} (quote : c ≠ '"') (backslash : c ≠ '\\') (high : ¬ c.toNat < 32)
    (read rest : List Char) : readText read (c :: rest) = readText (c :: read) rest := by
  rw [readText.eq_def]
  split
  · next same => cases same
  · next same => exact absurd (List.cons.inj same).1 quote
  · next same => exact absurd (List.cons.inj same).1 backslash
  · next same => exact absurd (List.cons.inj same).1 backslash
  · next same =>
      obtain ⟨rfl, rfl⟩ := List.cons.inj same
      rw [if_neg (by simp [high, backslash])]

theorem readText_escape (read : List Char) (c : Char) (rest : List Char) :
    readText read (escape c ++ rest) = readText (c :: read) rest := by
  unfold escape
  -- five letters, the quote and the backslash
  iterate 7
    split
    · next same => simp [same, readText, escaped?]
  split
  · next low =>
      have high := hexValue?_hexDigit (c.toNat / 16) (by omega)
      have rest_ := hexValue?_hexDigit (c.toNat % 16) (by omega)
      have quad : hexQuad? '0' '0' (hexDigit (c.toNat / 16)) (hexDigit (c.toNat % 16)) =
          some c.toNat := by
        have zero : hexValue? '0' = some 0 := by decide
        simp only [hexQuad?, zero, high, rest_, Option.bind_eq_bind, Option.bind_some]
        exact congrArg some (by omega)
      have notHigh : isHighSurrogate c.toNat = false := by simp [isHighSurrogate]; omega
      have notLow : isLowSurrogate c.toNat = false := by simp [isLowSurrogate]; omega
      simp only [List.cons_append, List.nil_append, readText, quad, notHigh, notLow,
        Bool.false_eq_true, if_false, Char.ofNat_toNat]
  · next quote backslash _ _ _ _ _ high =>
      exact readText_plain quote backslash high read rest

theorem readText_flatMap_escape (read value rest : List Char) :
    readText read (value.flatMap escape ++ '"' :: rest) =
      some (String.ofList (read.reverse ++ value), rest) := by
  induction value generalizing read with
  | nil => simp [readText]
  | cons c value ih =>
      rw [List.flatMap_cons, List.append_assoc, readText_escape, ih]
      simp

theorem readText_quoted (value : String) (rest : List Char) :
    readText [] (value.toList.flatMap escape ++ '"' :: rest) = some (value, rest) := by
  rw [readText_flatMap_escape]
  simp

def writtenMembers : Bool → List (String × String) → List Char
  | _, [] => []
  | first, (name, value) :: rest =>
    (if first then [] else [',']) ++ (quoted name).toList ++ ':' :: (quoted value).toList ++
      writtenMembers false rest

def ofTexts (members : List (String × String)) : List (String × Json) :=
  members.map fun (name, value) => (name, .text value)

theorem toList_writeMembersTo (written : String) (first : Bool) (members : List (String × String)) :
    (writeMembersTo written first (ofTexts members)).toList =
      written.toList ++ writtenMembers first members := by
  induction members generalizing written first with
  | nil => simp [ofTexts, writeMembersTo, writtenMembers]
  | cons member rest ih =>
      obtain ⟨name, value⟩ := member
      have later := fun written => ih written false
      simp only [ofTexts] at later
      cases first <;> simp [ofTexts, writeMembersTo, writeTo, writtenMembers, later]

theorem quoted_append (value : String) (rest : List Char) :
    (quoted value).toList ++ rest = '"' :: (value.toList.flatMap escape ++ '"' :: rest) := by
  simp [quoted]

theorem readValue_quoted (fuel depth : Nat) (value : String) (rest : List Char) :
    readValue (fuel + 1) depth ((quoted value).toList ++ rest) = some (.text value, rest) := by
  rw [quoted_append]
  cases depth <;> rw [readValue] <;> simp [readText_quoted]

theorem skipGap_of_not_gap {c : Char} (solid : isGap c = false) (rest : List Char) :
    skipGap (c :: rest) = c :: rest := by
  simp [skipGap, solid]

def afterMember (fuel depth : Nat) (read : List (String × Json)) (rest : List Char) :
    Option (Json × List Char) :=
  match skipGap rest with
  | ',' :: rest => readMembers fuel depth read rest
  | '\x7d' :: rest => some (.object read.reverse, rest)
  | _ => none

theorem readMembers_quoted (fuel depth : Nat) (read : List (String × Json)) (name value : String)
    (rest : List Char) :
    readMembers (fuel + 2) depth read
        ((quoted name).toList ++ ':' :: ((quoted value).toList ++ rest)) =
      afterMember (fuel + 1) depth ((name, .text value) :: read) rest := by
  have opened : skipGap ((quoted value).toList ++ rest) = (quoted value).toList ++ rest := by
    rw [quoted_append, skipGap_of_not_gap (by decide)]
  rw [quoted_append name, readMembers, skipGap_of_not_gap (by decide)]
  simp only [readText_quoted]
  rw [skipGap_of_not_gap (by decide)]
  simp only [opened, readValue_quoted]
  rfl

theorem readMembers_writtenMembers (spare depth : Nat) (read : List (String × Json)) (rest : List Char)
    (name value : String) (members : List (String × String)) :
    readMembers (spare + members.length + 2) depth read
        (writtenMembers true ((name, value) :: members) ++ '\x7d' :: rest) =
      some (.object (read.reverse ++ ofTexts ((name, value) :: members)), rest) := by
  induction members generalizing read name value with
  | nil =>
      have member := readMembers_quoted spare depth read name value ('\x7d' :: rest)
      simpa [writtenMembers, afterMember, skipGap_of_not_gap (show isGap '\x7d' = false by decide),
        ofTexts] using member
  | cons following members ih =>
      obtain ⟨next, content⟩ := following
      have member := readMembers_quoted (spare + (members.length + 1)) depth read name value
        (',' :: (writtenMembers true ((next, content) :: members) ++ '\x7d' :: rest))
      have later := ih ((name, .text value) :: read) next content
      have fuel : spare + (members.length + 1) + 1 = spare + members.length + 2 := by omega
      rw [afterMember, skipGap_of_not_gap (show isGap ',' = false by decide), fuel] at member
      simp only [later] at member
      simpa [writtenMembers, ofTexts] using member

theorem length_le_writtenMembers (first : Bool) (members : List (String × String)) :
    members.length ≤ (writtenMembers first members).length := by
  induction members generalizing first with
  | nil => exact Nat.le_refl 0
  | cons member rest ih =>
      have later := ih false
      simp only [writtenMembers, List.length_append, List.length_cons]
      omega

theorem parse_write_texts (name value : String) (members : List (String × String)) :
    parse? (write (.object (ofTexts ((name, value) :: members)))) =
      some (.object (ofTexts ((name, value) :: members))) := by
  have written : (write (.object (ofTexts ((name, value) :: members)))).toList =
      '\x7b' :: (writtenMembers true ((name, value) :: members) ++ ['\x7d']) := by
    simp [write, writeTo, toList_writeMembersTo]
  have long := length_le_writtenMembers true ((name, value) :: members)
  obtain ⟨tail, shape⟩ : ∃ tail,
      writtenMembers true ((name, value) :: members) ++ ['\x7d'] = '"' :: tail := by
    simp [writtenMembers, quoted]
  have longer : members.length ≤ tail.length := by
    have lengths := congrArg List.length shape
    simp only [List.length_append, List.length_cons] at lengths long
    omega
  -- two steps of fuel for each character are enough to read a member in one
  obtain ⟨spare, enough⟩ : ∃ spare,
      2 * ('\x7b' :: '"' :: tail).length + 2 = spare + members.length + 2 + 1 := by
    refine ⟨2 * tail.length + 3 - members.length, ?_⟩
    simp only [List.length_cons]
    omega
  have inside := readMembers_writtenMembers spare 200 [] [] name value members
  rw [shape] at written inside
  rw [parse?, written, enough, skipGap_of_not_gap (by decide), maxDepth, readValue,
    skipGap_of_not_gap (show isGap '"' = false by decide)]
  simp [inside, skipGap]

end ImagePipeline.Json
