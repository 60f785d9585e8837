namespace ImagePipeline.Association

variable {α β : Type} [BEq α]

theorem lookup_append_single (key other : α) (value : β) (pairs : List (α × β)) :
    (pairs ++ [(key, value)]).lookup other =
      (pairs.lookup other).or (if other == key then some value else none) := by
  induction pairs with
  | nil =>
    rw [List.nil_append, List.lookup_cons]
    cases other == key <;> rfl
  | cons pair pairs ih =>
    obtain ⟨k, v⟩ := pair
    rw [List.cons_append, List.lookup_cons, List.lookup_cons]
    cases other == k
    · exact ih
    · rfl

variable [LawfulBEq α]

theorem lookup_without_self (key : α) (pairs : List (α × β)) :
    (pairs.filter fun pair => pair.1 != key).lookup key = none := by
  induction pairs with
  | nil => rfl
  | cons pair pairs ih =>
    obtain ⟨k, v⟩ := pair
    by_cases same : k = key
    · rw [List.filter_cons_of_neg (by simp [same])]
      exact ih
    · rw [List.filter_cons_of_pos (by simp [same]), List.lookup_cons]
      simp only [beq_false_of_ne (Ne.symm same)]
      exact ih

theorem lookup_without_of_ne {key other : α} (distinct : other ≠ key) (pairs : List (α × β)) :
    (pairs.filter fun pair => pair.1 != key).lookup other = pairs.lookup other := by
  induction pairs with
  | nil => rfl
  | cons pair pairs ih =>
    obtain ⟨k, v⟩ := pair
    by_cases same : k = key
    · rw [List.filter_cons_of_neg (by simp [same]), ih, List.lookup_cons]
      simp only [same, beq_false_of_ne distinct]
    · rw [List.filter_cons_of_pos (by simp [same]), List.lookup_cons, List.lookup_cons, ih]

theorem lookup_replaced_self (key : α) (value : β) (pairs : List (α × β)) :
    (pairs.map fun pair => if pair.1 == key then (key, value) else pair).lookup key =
      (pairs.lookup key).map fun _ => value := by
  induction pairs with
  | nil => rfl
  | cons pair pairs ih =>
    obtain ⟨k, v⟩ := pair
    by_cases same : k = key
    · simp [same]
    · simp only [List.map_cons, beq_false_of_ne same, Bool.false_eq_true, if_false]
      rw [List.lookup_cons, List.lookup_cons, beq_false_of_ne (Ne.symm same)]
      exact ih

theorem lookup_replaced_of_ne {key other : α} (distinct : other ≠ key) (value : β)
    (pairs : List (α × β)) :
    (pairs.map fun pair => if pair.1 == key then (key, value) else pair).lookup other =
      pairs.lookup other := by
  induction pairs with
  | nil => rfl
  | cons pair pairs ih =>
    obtain ⟨k, v⟩ := pair
    by_cases same : k = key
    · simp only [List.map_cons, same, beq_self_eq_true, if_true]
      rw [List.lookup_cons, List.lookup_cons, beq_false_of_ne distinct]
      exact ih
    · simp only [List.map_cons, beq_false_of_ne same, Bool.false_eq_true, if_false]
      rw [List.lookup_cons, List.lookup_cons, ih]

end ImagePipeline.Association
