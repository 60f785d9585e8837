namespace ImagePipeline.Text

def inExtension (c : Char) : Bool := c != '.' && c != '/'

def splitExtensionChars (name : List Char) : List Char × List Char :=
  let tail := name.reverse.takeWhile inExtension
  match name.reverse.dropWhile inExtension with
  | '.' :: stem =>
    if (stem.takeWhile (· != '/')).any (· != '.') then (stem.reverse, '.' :: tail.reverse)
    else (name, [])
  | _ => (name, [])

theorem splitExtension_snd (name : List Char) :
    (splitExtensionChars name).2 = [] ∨
      ∃ tail, (splitExtensionChars name).2 = '.' :: tail ∧ ∀ c ∈ tail, inExtension c = true := by
  unfold splitExtensionChars
  split
  · split
    · refine .inr ⟨_, rfl, fun c hc => ?_⟩
      have := List.all_takeWhile (p := inExtension) (l := name.reverse)
      rw [List.all_eq_true] at this
      exact this c (List.mem_reverse.1 hc)
    · exact .inl rfl
  · exact .inl rfl

def extension (name : String) : String := String.ofList (splitExtensionChars name.toList).2

def withoutExtension (name : String) : String := String.ofList (splitExtensionChars name.toList).1

end ImagePipeline.Text
