import Mathlib.Data.List.Forall2

/-!
Computations that may fail. Lists are read and compiled member by member, as `List.mapM` does,
so that it is said here once when this succeeds and with which error it fails.
-/

namespace ShapeMatch

variable {ε ε' α β γ : Type}

theorem bind_ok {x : Except ε α} {f : α → Except ε β} {b : β} (h : x >>= f = .ok b) :
    ∃ a, x = .ok a ∧ f a = .ok b := by
  cases x with
  | error e => simp [bind, Except.bind] at h
  | ok a => exact ⟨a, rfl, h⟩

theorem map_ok {x : Except ε α} {f : α → β} {b : β} (h : (do return f (← x)) = Except.ok b) :
    ∃ a, x = .ok a ∧ f a = b := by
  obtain ⟨a, ha, hb⟩ := bind_ok h
  exact ⟨a, ha, Except.ok.inj hb⟩

theorem map_eq_ok {x : Except ε α} {f : α → β} {b : β} (h : x.map f = .ok b) :
    ∃ a, x = .ok a ∧ f a = b := by
  cases x with
  | error e => simp [Except.map] at h
  | ok a => exact ⟨a, rfl, Except.ok.inj h⟩

/-- If there is success or a known failure, then it fails just as is known. -/
theorem eq_error_iff {x : Except ε α} {bad : ε → Prop} (hbad : ∀ e, bad e → x = .error e)
    (h : (∃ a, x = .ok a) ∨ ∃ e, bad e) (e : ε) : x = .error e ↔ bad e := by
  refine ⟨fun hx => ?_, hbad e⟩
  rcases h with ⟨a, ha⟩ | ⟨e', he'⟩
  · rw [ha] at hx
    cases hx
  · obtain rfl : e' = e := Except.error.inj ((hbad e' he').symm.trans hx)
    exact he'

/-- If there is a known success or failure, then it succeeds just as is known. -/
theorem eq_ok_iff {x : Except ε α} {good : α → Prop} (hgood : ∀ a, good a → x = .ok a)
    (h : (∃ a, good a) ∨ ∃ e, x = .error e) (a : α) : x = .ok a ↔ good a := by
  refine ⟨fun hx => ?_, hgood a⟩
  rcases h with ⟨a', ha'⟩ | ⟨e, he⟩
  · obtain rfl : a' = a := Except.ok.inj ((hgood a' ha').symm.trans hx)
    exact ha'
  · rw [he] at hx
    cases hx

theorem mapM_eq_ok_iff {f : α → Except ε β} {as : List α} {bs : List β} :
    as.mapM f = .ok bs ↔ List.Forall₂ (fun a b => f a = .ok b) as bs := by
  induction as generalizing bs with
  | nil =>
    rw [List.mapM_nil, List.forall₂_nil_left_iff]
    exact ⟨fun h => (Except.ok.inj h).symm, fun h => congrArg Except.ok h.symm⟩
  | cons a rest ih =>
    rw [List.mapM_cons, List.forall₂_cons_left_iff]
    constructor
    · intro h
      obtain ⟨b, hb, htail⟩ := bind_ok h
      obtain ⟨cs, hcs, rfl⟩ := map_ok htail
      exact ⟨b, cs, hb, ih.mp hcs, rfl⟩
    · rintro ⟨b, cs, hb, hrest, rfl⟩
      rw [hb, ih.mpr hrest]
      rfl

/-- Two passes over a list succeed if they do so on each member. -/
theorem exists_mapM {f : α → Except ε β} {g : β → Except ε' γ} {as : List α} {cs : List γ}
    (h : List.Forall₂ (fun a c => ∃ b, f a = .ok b ∧ g b = .ok c) as cs) :
    ∃ bs, as.mapM f = .ok bs ∧ bs.mapM g = .ok cs := by
  induction h with
  | nil => exact ⟨[], rfl, rfl⟩
  | cons ha _ ih =>
    obtain ⟨b, hf, hg⟩ := ha
    obtain ⟨bs, hfs, hgs⟩ := ih
    refine ⟨b :: bs, ?_, ?_⟩
    · rw [List.mapM_cons, hf, hfs]
      rfl
    · rw [List.mapM_cons, hg, hgs]
      rfl

/-- The first member that fails decides. -/
theorem mapM_eq_error {f : α → Except ε β} {before : List α}
    (hbefore : ∀ b ∈ before, ∃ c, f b = .ok c) {a : α} {e : ε} (h : f a = .error e)
    (after : List α) : (before ++ a :: after).mapM f = .error e := by
  induction before with
  | nil =>
    rw [List.nil_append, List.mapM_cons, h]
    rfl
  | cons b rest ih =>
    obtain ⟨⟨c, hc⟩, hrest⟩ := List.forall_mem_cons.mp hbefore
    rw [List.cons_append, List.mapM_cons, hc, ih hrest]
    rfl

/-- A list is related to some list if each of its members is related to something. -/
theorem exists_forall₂_iff (R : α → β → Prop) (as : List α) :
    (∃ bs, List.Forall₂ R as bs) ↔ ∀ a ∈ as, ∃ b, R a b := by
  induction as with
  | nil => simp
  | cons a rest ih =>
    rw [List.forall_mem_cons, ← ih]
    constructor
    · rintro ⟨bs, h⟩
      cases h with
      | cons hb hrest => exact ⟨⟨_, hb⟩, _, hrest⟩
    · rintro ⟨⟨b, hb⟩, bs, hrest⟩
      exact ⟨b :: bs, .cons hb hrest⟩

/-- Of two lists that are related, the members at one index are related. -/
theorem exists_getElem?_of_forall₂ {R : α → β → Prop} {as : List α} {bs : List β}
    (h : List.Forall₂ R as bs) {i : Nat} {a : α} (ha : as[i]? = some a) :
    ∃ b, bs[i]? = some b ∧ R a b := by
  obtain ⟨hi, rfl⟩ := List.getElem?_eq_some_iff.mp ha
  have hi' : i < bs.length := h.length_eq ▸ hi
  exact ⟨bs[i], List.getElem?_eq_getElem hi', h.get hi hi'⟩

theorem exists_mem_of_forall₂ {R : α → β → Prop} {as : List α} {bs : List β}
    (h : List.Forall₂ R as bs) {a : α} (ha : a ∈ as) : ∃ b ∈ bs, R a b := by
  obtain ⟨i, hi⟩ := List.getElem?_of_mem ha
  obtain ⟨b, hb, hab⟩ := exists_getElem?_of_forall₂ h hi
  exact ⟨b, List.mem_of_getElem? hb, hab⟩

theorem exists_mem_zip {as : List α} {bs : List β} (hlength : as.length = bs.length) {b : β}
    (hb : b ∈ bs) : ∃ a, (a, b) ∈ as.zip bs := by
  obtain ⟨i, hi, rfl⟩ := List.mem_iff_getElem.mp hb
  exact ⟨as[i], List.mem_iff_getElem.mpr ⟨i, by simp; omega, by simp⟩⟩

/-- Either all members of a list are good, or there is a first one that is bad. -/
theorem forall_or_first {good : α → Prop} {bad : α → ε → Prop} {as : List α}
    (h : ∀ a ∈ as, good a ∨ ∃ e, bad a e) :
    (∀ a ∈ as, good a) ∨ ∃ before a after e,
      as = before ++ a :: after ∧ (∀ b ∈ before, good b) ∧ bad a e := by
  induction as with
  | nil => exact .inl (by simp)
  | cons a rest ih =>
    obtain ⟨ha, hrest⟩ := List.forall_mem_cons.mp h
    rcases ha with hgood | ⟨e, hbad⟩
    · rcases ih hrest with hall | ⟨before, b, after, e, rfl, hbefore, hbad⟩
      · exact .inl (List.forall_mem_cons.mpr ⟨hgood, hall⟩)
      · exact .inr ⟨a :: before, b, after, e, rfl, List.forall_mem_cons.mpr ⟨hgood, hbefore⟩, hbad⟩
    · exact .inr ⟨[], a, rest, e, rfl, by simp, hbad⟩

/-! ## Computations that agree -/

/-- Two computations fail in the same way, or both give results, which are related. -/
inductive Agree (Q : α → β → Prop) : Except ε α → Except ε β → Prop where
  | ok (a : α) (b : β) (h : Q a b) : Agree Q (.ok a) (.ok b)
  | error (e : ε) : Agree Q (.error e) (.error e)

namespace Agree

variable {δ : Type} {Q : α → β → Prop} {P : γ → δ → Prop}

theorem refl {Q : α → α → Prop} (hQ : ∀ a, Q a a) (x : Except ε α) : Agree Q x x := by
  cases x with
  | error e => exact .error e
  | ok a => exact .ok a a (hQ a)

theorem error_iff {x : Except ε α} {y : Except ε β} (h : Agree Q x y) (e : ε) :
    x = .error e ↔ y = .error e := by
  cases h <;> simp

theorem eq {x y : Except ε α} (h : Agree Eq x y) : x = y := by
  cases h with
  | ok a b hab => rw [hab]
  | error e => rfl

theorem bind {x : Except ε α} {y : Except ε β} (h : Agree Q x y) {f : α → Except ε γ}
    {g : β → Except ε δ} (hfg : ∀ a b, Q a b → Agree P (f a) (g b)) :
    Agree P (x >>= f) (y >>= g) := by
  cases h with
  | ok a b hab => exact hfg a b hab
  | error e => exact .error e

/-- The same member of both lists is the first one that fails, or none does. -/
theorem mapM {f : γ → Except ε α} {g : δ → Except ε β} {cs : List γ} {ds : List δ}
    (h : List.Forall₂ (fun c d => Agree Q (f c) (g d)) cs ds) :
    Agree (List.Forall₂ Q) (cs.mapM f) (ds.mapM g) := by
  induction h with
  | nil => exact .ok [] [] .nil
  | cons hcd _ ih =>
    rw [List.mapM_cons, List.mapM_cons]
    refine hcd.bind fun a b hab => ih.bind fun as bs hrest => ?_
    exact .ok _ _ (.cons hab hrest)

end Agree

end ShapeMatch
