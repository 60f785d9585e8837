import ImagePipeline.Text.Percent

namespace ImagePipeline.Text.Percent

def Transparent (plain : UInt8 → Bool) : Prop :=
  ∀ b, plain b = true → b.toNat < 128 ∧ Char.ofNat b.toNat ≠ '%'

theorem transparent_isPlain : Transparent isPlain := by
  intro b plain
  simp only [isPlain, Bool.and_eq_true, decide_eq_true_eq] at plain
  obtain ⟨small, written⟩ := plain
  refine ⟨small, fun percent => ?_⟩
  rw [percent] at written
  exact absurd written (by decide)

variable {plain : UInt8 → Bool}

theorem digitValue?_digit : ∀ n < 16, digitValue? (digit n) = some n := by
  decide

theorem toUTF8_ofNat : ∀ n < 128, (Char.ofNat n).toString.toUTF8.toList = [n.toUInt8] := by
  decide +kernel

theorem decodeBytes_cons {c : Char} (other : c ≠ '%') (rest : List Char) :
    decodeBytes (c :: rest) = c.toString.toUTF8.toList ++ decodeBytes rest := by
  rw [decodeBytes]
  exact fun _ _ _ percent => absurd percent other

theorem decodeBytes_encodeByte (transparent : Transparent plain) (b : UInt8) (rest : List Char) :
    decodeBytes (encodeByte plain b ++ rest) = b :: decodeBytes rest := by
  unfold encodeByte
  split
  · next written =>
      obtain ⟨small, other⟩ := transparent b written
      show decodeBytes (Char.ofNat b.toNat :: rest) = _
      rw [decodeBytes_cons other, toUTF8_ofNat _ small]
      simp
  · have high : b.toNat / 16 < 16 := by
      have small := b.toNat_lt
      omega
    have low : b.toNat % 16 < 16 := Nat.mod_lt _ (by decide)
    show decodeBytes ('%' :: digit (b.toNat / 16) :: digit (b.toNat % 16) :: rest) = _
    rw [decodeBytes]
    simp only [digitValue?_digit _ high, digitValue?_digit _ low, Nat.div_add_mod]
    simp

theorem mem_encodeByte {b : UInt8} {c : Char} (written : c ∈ encodeByte plain b) :
    (plain b = true ∧ c = Char.ofNat b.toNat) ∨ c = '%' ∨ ∃ n < 16, c = digit n := by
  unfold encodeByte at written
  split at written
  · next plainly =>
      exact .inl ⟨plainly, by simpa using written⟩
  · have small := b.toNat_lt
    simp only [List.mem_cons, List.not_mem_nil, or_false] at written
    rcases written with percent | high | low
    · exact .inr (.inl percent)
    · exact .inr (.inr ⟨_, by omega, high⟩)
    · exact .inr (.inr ⟨_, by omega, low⟩)

theorem toList_loop (bytes : ByteArray) (i : Nat) (read : List UInt8) :
    ByteArray.toList.loop bytes i read = read.reverse ++ bytes.data.toList.drop i := by
  fun_induction ByteArray.toList.loop bytes i read with
  | case1 i read inside ih =>
      have next : bytes.data.toList.drop i = bytes.get! i :: bytes.data.toList.drop (i + 1) := by
        rw [List.drop_eq_getElem_cons (by simpa using inside)]
        simp [ByteArray.get!, getElem!_pos bytes.data i inside]
      rw [ih, next]
      simp
  | case2 i read beyond =>
      have nothing : bytes.data.toList.drop i = [] := List.drop_of_length_le (by simpa using beyond)
      rw [nothing, List.append_nil]

theorem toByteArray_toList (bytes : ByteArray) : bytes.toList.toByteArray = bytes := by
  have same : bytes.toList = bytes.data.toList := toList_loop bytes 0 []
  rw [same, ByteArray.ext_iff, List.data_toByteArray, Array.toArray_toList]

theorem decodeBytes_flatMap (transparent : Transparent plain) (bytes : List UInt8) :
    decodeBytes (bytes.flatMap (encodeByte plain)) = bytes := by
  induction bytes with
  | nil => rfl
  | cons b rest ih => rw [List.flatMap_cons, decodeBytes_encodeByte transparent, ih]

theorem decode?_encodeBy (transparent : Transparent plain) (text : String) :
    decode? (encodeBy plain text) = some text := by
  unfold decode? encodeBy
  rw [String.toList_ofList, decodeBytes_flatMap transparent, toByteArray_toList]
  exact dif_pos text.isValidUTF8

theorem mem_encodeBy {text : String} {c : Char} (written : c ∈ (encodeBy plain text).toList) :
    (∃ b, plain b = true ∧ c = Char.ofNat b.toNat) ∨ c = '%' ∨ ∃ n < 16, c = digit n := by
  unfold encodeBy at written
  rw [String.toList_ofList] at written
  obtain ⟨b, -, among⟩ := List.mem_flatMap.mp written
  exact (mem_encodeByte among).imp_left fun plainly => ⟨b, plainly⟩

end ImagePipeline.Text.Percent
