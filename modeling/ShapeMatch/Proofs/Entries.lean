import ShapeMatch.Schema.Validate

/-!
Laws of mappings as lists of entries in order of insertion. Looking a key up is determined
by what was stored last under it (`get?_put`, `get?_erase`), and storing what is there already
changes nothing (`put_eq_self`). Main statement: after the fields that validation changed are
put into a mapping, every listed key holds what its field was validated to
(`valueOf_foldl_patch`).
-/

namespace ShapeMatch

/-- Keys that are the same agree on every other key. -/
theorem Value.sameKey_congr {a b : Value} (h : a.sameKey b) (c : Value) :
    a.sameKey c = b.sameKey c := by
  rw [Bool.eq_iff_iff]
  constructor
  · intro hac
    exact Value.sameKey_trans (Value.sameKey_comm a b ▸ h) hac
  · intro hbc
    exact Value.sameKey_trans h hbc

namespace Entries

variable {α : Type}

/-- No two keys are the same. -/
def Distinct (es : Entries α) : Prop := es.Pairwise fun a b => ¬ a.1.sameKey b.1

theorem Distinct.eq_of_sameKey {es : Entries α} (h : Distinct es) {a b : Value × α} (ha : a ∈ es)
    (hb : b ∈ es) (hk : a.1.sameKey b.1) : a = b := by
  induction es with
  | nil => simp at ha
  | cons e rest ih =>
    obtain ⟨hhead, htail⟩ := List.pairwise_cons.mp h
    rcases List.mem_cons.mp ha with rfl | harest
    · rcases List.mem_cons.mp hb with rfl | hbrest
      · rfl
      · exact absurd hk (hhead b hbrest)
    · rcases List.mem_cons.mp hb with rfl | hbrest
      · exact absurd (Value.sameKey_comm a.1 b.1 ▸ hk) (hhead a harest)
      · exact ih htail harest hbrest

/-- What a mapping holds under a key. A missing key counts as one that holds no value. -/
def valueOf (k : Value) (es : Entries Value) : Value := (get? k es).getD .undefined

theorem get?_congr {k k' : Value} (h : k.sameKey k') (es : Entries α) :
    get? k es = get? k' es := by
  induction es with
  | nil => rfl
  | cons e rest ih =>
    obtain ⟨k₁, v₁⟩ := e
    simp only [get?, Value.sameKey_congr h, ih]

theorem valueOf_congr {k k' : Value} (h : k.sameKey k') (es : Entries Value) :
    valueOf k es = valueOf k' es := by
  rw [valueOf, get?_congr h]
  rfl

theorem mem_of_get? {k : Value} {es : Entries α} {v : α} (h : get? k es = some v) :
    ∃ k', (k', v) ∈ es ∧ k.sameKey k' := by
  induction es with
  | nil => simp [get?] at h
  | cons e rest ih =>
    obtain ⟨k₁, v₁⟩ := e
    rw [get?] at h
    split at h
    · rename_i hk
      cases h
      exact ⟨k₁, by simp, hk⟩
    · obtain ⟨k', hmem, hk'⟩ := ih h
      exact ⟨k', List.mem_cons_of_mem _ hmem, hk'⟩

/-- What a mapping holds under a key is nothing or the value of one of its entries. -/
theorem valueOf_cases (k : Value) (es : Entries Value) :
    valueOf k es = .undefined ∨ ∃ e ∈ es, e.2 = valueOf k es := by
  unfold valueOf
  cases hget : get? k es with
  | none => exact .inl rfl
  | some v =>
    obtain ⟨k', hmem, _⟩ := mem_of_get? hget
    exact .inr ⟨(k', v), hmem, rfl⟩

/-! ## Storing -/

theorem get?_put_same {k k' : Value} (h : k.sameKey k') (v : α) (es : Entries α) :
    get? k (put k' v es) = some v := by
  induction es with
  | nil => simp [put, get?, h]
  | cons e rest ih =>
    obtain ⟨k₁, v₁⟩ := e
    rw [put]
    split
    · rename_i hk
      simp [get?, Value.sameKey_congr h, hk]
    · rename_i hk
      rw [get?, Value.sameKey_congr h, if_neg hk]
      exact ih

theorem get?_put_other {k k' : Value} (h : ¬ k.sameKey k') (v : α) (es : Entries α) :
    get? k (put k' v es) = get? k es := by
  induction es with
  | nil => simp [put, get?, h]
  | cons e rest ih =>
    obtain ⟨k₁, v₁⟩ := e
    rw [put]
    split
    · rename_i hk
      have hne : ¬ k.sameKey k₁ := by
        intro hk₁
        exact h (Value.sameKey_trans hk₁ (Value.sameKey_comm k' k₁ ▸ hk))
      simp [get?, hne]
    · simp only [get?, ih]

theorem key_of_mem_put {k : Value} {v : α} {es : Entries α} {e : Value × α}
    (h : e ∈ put k v es) : e.1 = k ∨ ∃ e' ∈ es, e'.1 = e.1 := by
  induction es with
  | nil =>
    rw [put, List.mem_singleton] at h
    exact Or.inl (by rw [h])
  | cons e₁ rest ih =>
    obtain ⟨k₁, v₁⟩ := e₁
    rw [put] at h
    split at h
    · rcases List.mem_cons.mp h with rfl | hrest
      · exact Or.inr ⟨(k₁, v₁), by simp, rfl⟩
      · exact Or.inr ⟨e, List.mem_cons_of_mem _ hrest, rfl⟩
    · rcases List.mem_cons.mp h with rfl | hrest
      · exact Or.inr ⟨(k₁, v₁), by simp, rfl⟩
      · rcases ih hrest with heq | ⟨e', hmem, heq⟩
        · exact Or.inl heq
        · exact Or.inr ⟨e', List.mem_cons_of_mem _ hmem, heq⟩

theorem Distinct.put {es : Entries α} (h : Distinct es) (k : Value) (v : α) :
    Distinct (Entries.put k v es) := by
  induction es with
  | nil => exact List.pairwise_singleton _ _
  | cons e rest ih =>
    obtain ⟨k₁, v₁⟩ := e
    obtain ⟨hhead, htail⟩ := List.pairwise_cons.mp h
    rw [Entries.put]
    split
    · exact List.pairwise_cons.mpr ⟨hhead, htail⟩
    · rename_i hk
      refine List.pairwise_cons.mpr ⟨?_, ih htail⟩
      intro e he
      rcases key_of_mem_put he with heq | ⟨e', hmem, heq⟩
      · rw [heq, Value.sameKey_comm]
        exact hk
      · rw [← heq]
        exact hhead e' hmem

/-- Storing what is there already changes nothing. -/
theorem put_eq_self {k : Value} {v : α} {es : Entries α} (h : get? k es = some v) :
    put k v es = es := by
  induction es with
  | nil => simp [get?] at h
  | cons e rest ih =>
    obtain ⟨k₁, v₁⟩ := e
    rw [get?] at h
    rw [put]
    split at h
    · rename_i hk
      cases h
      rw [if_pos hk]
    · rename_i hk
      rw [if_neg hk, ih h]

/-! ## Removing -/

theorem erase_sublist (k : Value) (es : Entries α) : (erase k es).Sublist es := by
  induction es with
  | nil => exact List.Sublist.slnil
  | cons e rest ih =>
    obtain ⟨k₁, v₁⟩ := e
    rw [erase]
    split
    · exact List.sublist_cons_self _ _
    · exact ih.cons_cons _

theorem Distinct.erase {es : Entries α} (h : Distinct es) (k : Value) :
    Distinct (Entries.erase k es) :=
  h.sublist (erase_sublist k es)

theorem get?_eq_none {k : Value} {es : Entries α} (h : ∀ e ∈ es, ¬ k.sameKey e.1) :
    get? k es = none := by
  induction es with
  | nil => rfl
  | cons e rest ih =>
    obtain ⟨k₁, v₁⟩ := e
    rw [get?, if_neg (h (k₁, v₁) (by simp))]
    exact ih fun e he => h e (List.mem_cons_of_mem _ he)

theorem get?_erase_same {es : Entries α} (hd : Distinct es) {k k' : Value} (h : k.sameKey k') :
    get? k (erase k' es) = none := by
  induction es with
  | nil => rfl
  | cons e rest ih =>
    obtain ⟨k₁, v₁⟩ := e
    obtain ⟨hhead, htail⟩ := List.pairwise_cons.mp hd
    rw [erase]
    split
    · rename_i hk
      apply get?_eq_none
      intro e he hke
      have hk₁ : k₁.sameKey k := by
        rw [Value.sameKey_comm, Value.sameKey_congr h]
        exact hk
      exact hhead e he (Value.sameKey_trans hk₁ hke)
    · rename_i hk
      rw [get?, Value.sameKey_congr h, if_neg hk]
      exact ih htail

theorem get?_erase_other {k k' : Value} (h : ¬ k.sameKey k') (es : Entries α) :
    get? k (erase k' es) = get? k es := by
  induction es with
  | nil => rfl
  | cons e rest ih =>
    obtain ⟨k₁, v₁⟩ := e
    rw [erase]
    split
    · rename_i hk
      have hne : ¬ k.sameKey k₁ := by
        intro hk₁
        exact h (Value.sameKey_trans hk₁ (Value.sameKey_comm k' k₁ ▸ hk))
      rw [get?, if_neg hne]
    · simp only [get?, ih]

/-! ## Putting validated fields into a mapping -/

theorem Distinct.patch {es : Entries Value} (h : Distinct es) (c : Checked) :
    Distinct (Entries.patch es c) := by
  unfold Entries.patch
  split
  · exact h.erase c.key
  · exact h.put c.key _

theorem Distinct.foldl_patch {es : Entries Value} (h : Distinct es) (cs : List Checked) :
    Distinct (cs.foldl Entries.patch es) := by
  induction cs generalizing es with
  | nil => exact h
  | cons c rest ih => exact ih (h.patch c)

theorem valueOf_patch_same {es : Entries Value} (hd : Distinct es) (c : Checked) {k : Value}
    (h : k.sameKey c.key) : valueOf k (patch es c) = c.result := by
  unfold patch valueOf
  split
  · rename_i hresult
    rw [get?_erase_same hd h, hresult]
    rfl
  · rw [get?_put_same h]
    rfl

theorem get?_patch_other (es : Entries Value) (c : Checked) {k : Value}
    (h : ¬ k.sameKey c.key) : get? k (patch es c) = get? k es := by
  unfold patch
  split
  · rw [get?_erase_other h]
  · rw [get?_put_other h]

theorem get?_foldl_patch_other (es : Entries Value) {k : Value} {cs : List Checked}
    (h : ∀ c ∈ cs, ¬ k.sameKey c.key) : get? k (cs.foldl patch es) = get? k es := by
  induction cs generalizing es with
  | nil => rfl
  | cons c rest ih =>
    rw [List.foldl_cons, ih _ fun d hd => h d (List.mem_cons_of_mem _ hd)]
    exact get?_patch_other es c (h c (by simp))

theorem valueOf_foldl_patch_other (es : Entries Value) {k : Value} {cs : List Checked}
    (h : ∀ c ∈ cs, ¬ k.sameKey c.key) : valueOf k (cs.foldl patch es) = valueOf k es := by
  rw [valueOf, get?_foldl_patch_other es h]
  rfl

/-- After fields with distinct keys are put into a mapping, each key holds the result of its
field. -/
theorem valueOf_foldl_patch {es : Entries Value} (hd : Distinct es) {cs : List Checked}
    (hcs : cs.Pairwise fun a b => ¬ a.key.sameKey b.key) {c : Checked} (hc : c ∈ cs)
    (hself : c.key.sameKey c.key) : valueOf c.key (cs.foldl patch es) = c.result := by
  induction cs generalizing es with
  | nil => simp at hc
  | cons d rest ih =>
    obtain ⟨hhead, htail⟩ := List.pairwise_cons.mp hcs
    rw [List.foldl_cons]
    rcases List.mem_cons.mp hc with rfl | hrest
    · rw [valueOf_foldl_patch_other _ hhead]
      exact valueOf_patch_same hd c hself
    · exact ih (hd.patch d) htail hrest

/-- Putting a field into a mapping that holds its result already changes nothing. -/
theorem patch_eq_self {es : Entries Value} {c : Checked} (h : valueOf c.key es = c.result)
    (hne : c.result ≠ .undefined) : patch es c = es := by
  unfold patch
  split
  · rename_i hresult
    exact absurd hresult hne
  · cases hget : get? c.key es with
    | none =>
      rw [valueOf, hget] at h
      exact absurd h.symm hne
    | some w =>
      rw [valueOf, hget] at h
      exact put_eq_self (by rw [hget]; exact congrArg some h)

end Entries

end ShapeMatch
