import ShapeMatch.Proofs.Acceptance

/-!
Verdicts that decide. A schema decides a question about values if it keeps those for which it
holds and rejects all others, except that it raises where the first mismatch cannot be put into
words. A container decides it of all its members if the schemas inside do (`array_decides`,
`tuple_decides`, `object_decides`).
-/

namespace ShapeMatch

/-! ## The first failure -/

/-- The first of the members that is not good is bad. -/
def FirstFails {α : Type} (good bad : α → Prop) : List α → Prop
  | [] => False
  | a :: rest => bad a ∨ good a ∧ FirstFails good bad rest

theorem exists_bad_of_firstFails {α : Type} {good bad : α → Prop} {as : List α}
    (h : FirstFails good bad as) : ∃ a ∈ as, bad a := by
  induction as with
  | nil => exact h.elim
  | cons a rest ih =>
    rcases h with hbad | ⟨_, hrest⟩
    · exact ⟨a, by simp, hbad⟩
    · obtain ⟨b, hb, hbad⟩ := ih hrest
      exact ⟨b, by simp [hb], hbad⟩

theorem firstFails_iff {α : Type} {good bad : α → Prop} {as : List α} :
    FirstFails good bad as ↔
      ∃ before a after, as = before ++ a :: after ∧ (∀ b ∈ before, good b) ∧ bad a := by
  induction as with
  | nil => simp [FirstFails]
  | cons a rest ih =>
    rw [FirstFails, ih]
    constructor
    · rintro (hbad | ⟨hgood, before, b, after, rfl, hbefore, hbad⟩)
      · exact ⟨[], a, rest, rfl, by simp, hbad⟩
      · exact ⟨a :: before, b, after, rfl, List.forall_mem_cons.mpr ⟨hgood, hbefore⟩, hbad⟩
    · rintro ⟨before, b, after, heq, hbefore, hbad⟩
      cases before with
      | nil =>
        cases heq
        exact .inl hbad
      | cons c before =>
        cases heq
        obtain ⟨hgood, hrest⟩ := List.forall_mem_cons.mp hbefore
        exact .inr ⟨hgood, before, b, after, rfl, hrest, hbad⟩

theorem firstFails_append {α : Type} {good bad : α → Prop} (as bs : List α) :
    FirstFails good bad (as ++ bs) ↔
      FirstFails good bad as ∨ (∀ a ∈ as, good a) ∧ FirstFails good bad bs := by
  induction as with
  | nil => simp [FirstFails]
  | cons a rest ih =>
    rw [List.cons_append, FirstFails, ih, FirstFails, List.forall_mem_cons, and_or_left, or_assoc,
      and_assoc]

/-- If a good member is not bad then only one member can be the first that fails. -/
theorem FirstFails.both {α : Type} {good bad bad' : α → Prop} {as : List α}
    (hgood : ∀ a, good a → ¬ bad a ∧ ¬ bad' a) (h : FirstFails good bad as)
    (h' : FirstFails good bad' as) : ∃ a ∈ as, bad a ∧ bad' a := by
  induction as with
  | nil => exact h.elim
  | cons a rest ih =>
    rcases h with hbad | ⟨ha, hrest⟩
    · rcases h' with hbad' | ⟨ha, _⟩
      · exact ⟨a, by simp, hbad, hbad'⟩
      · exact absurd hbad (hgood a ha).1
    · rcases h' with hbad' | ⟨_, hrest'⟩
      · exact absurd hbad' (hgood a ha).2
      · obtain ⟨b, hb, hboth⟩ := ih hrest hrest'
        exact ⟨b, by simp [hb], hboth⟩

/-! ## Verdicts that decide -/

/-- A verdict on a question: the value is kept where `M` holds, words fail where `U` does, and
it is rejected where neither does. -/
inductive Verdict.Decides (M U : Prop) : Verdict → Prop where
  | kept (m : M) (u : ¬ U) : Decides M U .kept
  | rejected (f : Failure) (m : ¬ M) (u : ¬ U) : Decides M U (.rejected f)
  | wordless (m : ¬ M) (u : U) : Decides M U (.raised .unwritable)

namespace Verdict.Decides

variable {M U : Prop} {d : Verdict}

theorem kept_iff (h : d.Decides M U) : d = .kept ↔ M := by
  cases h <;> simp_all

theorem wordless_iff (h : d.Decides M U) : d = .raised .unwritable ↔ U := by
  cases h <;> simp_all

theorem rejected_iff (h : d.Decides M U) : (∃ f, d = .rejected f) ↔ ¬ M ∧ ¬ U := by
  cases h <;> simp_all

/-- Of the verdicts that are always in words, only whether they keep the value matters. -/
theorem of_worded (h : d = .kept ∧ M ∨ (∃ f, d = .rejected f) ∧ ¬ M) : d.Decides M False := by
  rcases h with ⟨rfl, m⟩ | ⟨⟨f, rfl⟩, m⟩
  · exact .kept m not_false
  · exact .rejected f m not_false

end Verdict.Decides

namespace Checked

/-- The same for the members of a container, of which the first one not kept decides. -/
inductive Decide (M U : Prop) (cs : List Checked) : Prop where
  | kept (m : M) (u : ¬ U) (h : ∀ c ∈ cs, c.counted = .kept)
  | rejected (f : Failure) (m : ¬ M) (u : ¬ U) (h : firstStop? cs = some (.rejected f))
  | wordless (m : ¬ M) (u : U) (h : firstStop? cs = some (.raised .unwritable))

theorem decide_nil : Decide True False [] := .kept trivial not_false (by simp)

theorem Decide.cons {c : Checked} {rest : List Checked} {M U M' U' : Prop}
    (hc : c.verdict.Decides M U) (hrest : Decide M' U' rest) :
    Decide (M ∧ M') (U ∨ M ∧ U') (c :: rest) := by
  obtain ⟨key, raw, verdict⟩ := c
  cases hc with
  | kept m u =>
    have hstop : firstStop? (⟨key, raw, .kept⟩ :: rest) = firstStop? rest := rfl
    have hiff : (U ∨ M ∧ U') ↔ U' := by simp [u, m]
    cases hrest with
    | kept m' u' h =>
      exact .kept ⟨m, m'⟩ (fun hu => u' (hiff.mp hu)) (List.forall_mem_cons.mpr ⟨rfl, h⟩)
    | rejected f m' u' h =>
      exact .rejected f (fun both => m' both.2) (fun hu => u' (hiff.mp hu)) (hstop.trans h)
    | wordless m' u' h =>
      exact .wordless (fun both => m' both.2) (hiff.mpr u') (hstop.trans h)
  | rejected f m u =>
    refine .rejected (f.under key) (fun both => m both.1) ?_ rfl
    rintro (hu | ⟨hm, _⟩)
    · exact u hu
    · exact m hm
  | wordless m u => exact .wordless (fun both => m both.1) (.inl u) rfl

/-- Members that decide a question each decide together whether all are good. -/
theorem Decide.of_members {α : Type} {M U : α → Prop} {as : List α} {cs : List Checked}
    (h : List.Forall₂ (fun a c => c.verdict.Decides (M a) (U a)) as cs) :
    Decide (∀ a ∈ as, M a) (FirstFails M U as) cs := by
  induction h with
  | nil => simpa [FirstFails] using decide_nil
  | cons hc _ ih =>
    rw [List.forall_mem_cons]
    exact Decide.cons hc ih

/-- The same for members that are numbered. -/
theorem Decide.of_indexed {α : Type} {M U : α → Prop} {as : List α} {ms : List (Value × Verdict)}
    (h : List.Forall₂ (fun a m => m.2.Decides (M a) (U a)) as ms) (n : Nat) :
    Decide (∀ a ∈ as, M a) (FirstFails M U as) (indexed n ms) := by
  apply Decide.of_members
  induction h generalizing n with
  | nil => exact .nil
  | cons hm _ ih => exact .cons hm (ih (n + 1))

theorem firstStop?_of_kept {cs : List Checked} (h : ∀ c ∈ cs, c.counted = .kept) :
    firstStop? cs = none := by
  rw [firstStop?_eq_none_iff]
  intro c hc
  simp [stop?, h c hc]

theorem all_isKept_of_kept {cs : List Checked} (h : ∀ c ∈ cs, c.counted = .kept) :
    cs.all isKept = true := by
  rw [List.all_eq_true]
  intro c hc
  simp [isKept, h c hc]

/-- The verdict on a container by those on its members: the first member that does not pass
decides, and the container is kept if all its members are. -/
structure Settles (cs : List Checked) (d : Verdict) : Prop where
  stopped : ∀ stop, firstStop? cs = some stop → d = stop
  kept : (∀ c ∈ cs, c.counted = .kept) → d = .kept

theorem settles_sequenceVerdict (form : SequenceForm) (cs : List Checked) :
    Settles cs (sequenceVerdict form cs) where
  stopped := by
    intro stop hstop
    rw [sequenceVerdict, hstop]
  kept := by
    intro hkept
    rw [sequenceVerdict, firstStop?_of_kept hkept]
    exact if_pos (all_isKept_of_kept hkept)

theorem settles_mappingVerdict (es : Entries Value) (cs : List Checked) :
    Settles cs (mappingVerdict es cs) where
  stopped := by
    intro stop hstop
    rw [mappingVerdict, hstop]
  kept := by
    intro hkept
    rw [mappingVerdict, firstStop?_of_kept hkept]
    exact if_pos (all_isKept_of_kept hkept)

theorem Decide.container {M U : Prop} {cs : List Checked} (h : Decide M U cs) {d : Verdict}
    (hd : Settles cs d) : d.Decides M U := by
  cases h with
  | kept m u h =>
    rw [hd.kept h]
    exact .kept m u
  | rejected f m u h =>
    rw [hd.stopped _ h]
    exact .rejected f m u
  | wordless m u h =>
    rw [hd.stopped _ h]
    exact .wordless m u

end Checked

namespace Schema

variable [RegexEngine]

theorem regex_decides (p : Pattern) (v : Value) :
    ((Schema.regex p).validate v).Decides (∃ t, v = .text t ∧ p.occursIn t = true) False := by
  apply Verdict.Decides.of_worded
  cases v with
  | text t => by_cases hocc : p.occursIn t <;> simp [Verdict.keepIf, hocc]
  | _ => simp

/-! ## Containers -/

theorem array_decides {s : Schema} {M U : Value → Prop}
    (h : ∀ v, (s.validate v).Decides (M v) (U v)) (v : Value) :
    ((Schema.array s).validate v).Decides (∃ form vs, v = .sequence form vs ∧ ∀ u ∈ vs, M u)
      (∃ form vs, v = .sequence form vs ∧ FirstFails M U vs) := by
  cases v with
  | sequence form vs =>
    have hmembers : List.Forall₂ (fun u m => m.2.Decides (M u) (U u)) vs
        (vs.map fun u => (u, s.validate u)) := by
      rw [List.forall₂_map_right_iff, List.forall₂_same]
      exact fun u _ => h u
    have hverdict := (Checked.Decide.of_indexed hmembers 0).container
      (Checked.settles_sequenceVerdict form _)
    simpa using hverdict
  | _ =>
    simp only [Schema.validate_array, Verdict.reject_mismatch]
    exact .rejected _ (by simp) (by simp)

theorem anyArray_decides (v : Value) :
    ((Schema.array .unknown).validate v).Decides (∃ form vs, v = .sequence form vs) False := by
  have hany : ∀ u, (Schema.unknown.validate u).Decides True False := by
    intro u
    exact .kept trivial not_false
  have hnone : ∀ vs : List Value, ¬ FirstFails (fun _ => True) (fun _ => False) vs := by
    intro vs h
    obtain ⟨_, _, hbad⟩ := exists_bad_of_firstFails h
    exact hbad
  simpa [hnone] using array_decides hany v

variable {α : Type} {M U : α → Value → Prop}

theorem validateItems_decide {ds : List α} {ss : List Schema}
    (h : List.Forall₂ (fun d s => ∀ v, (s.validate v).Decides (M d v) (U d v)) ds ss)
    {vs : List Value} (hlen : vs.length = ds.length) :
    List.Forall₂ (fun p m => m.2.Decides (M p.1 p.2) (U p.1 p.2)) (ds.zip vs)
      (validateItems ss vs) := by
  induction h generalizing vs with
  | nil =>
    rw [List.zip_nil_left]
    exact .nil
  | cons hs _ ih =>
    cases vs with
    | nil => simp at hlen
    | cons v rest => exact .cons (hs v) (ih (by simpa using hlen))

/-- Schemas that decide a question each decide it position by position. -/
theorem tuple_decides {ds : List α} {ss : List Schema}
    (h : List.Forall₂ (fun d s => ∀ v, (s.validate v).Decides (M d v) (U d v)) ds ss) (v : Value) :
    ((Schema.tuple ss).validate v).Decides
      (∃ form vs, v = .sequence form vs ∧ vs.length = ds.length ∧
        ∀ p ∈ ds.zip vs, M p.1 p.2)
      (∃ form vs, v = .sequence form vs ∧ vs.length = ds.length ∧
        FirstFails (fun p => M p.1 p.2) (fun p => U p.1 p.2) (ds.zip vs)) := by
  cases v with
  | sequence form vs =>
    simp only [Schema.validate_tuple, ← h.length_eq]
    by_cases hlen : vs.length = ds.length
    · have hmembers := Checked.Decide.of_indexed (validateItems_decide h hlen) 0
      simpa [hlen] using hmembers.container (Checked.settles_sequenceVerdict form _)
    · rw [if_neg hlen, Verdict.reject_wrongLength]
      exact .rejected _ (by simp [hlen]) (by simp [hlen])
  | _ =>
    simp only [Schema.validate_tuple, Verdict.reject_mismatch]
    exact .rejected _ (by simp) (by simp)

/-- Schemas that decide a question each decide it of what is held under each key. -/
theorem object_decides {ds : List (Value × α)} {fs : List (Value × Schema)}
    (h : List.Forall₂
      (fun d f => f.1 = d.1 ∧ ∀ v, (f.2.validate v).Decides (M d.2 v) (U d.2 v)) ds fs)
    (v : Value) :
    ((Schema.object fs).validate v).Decides
      (∃ (form : MappingForm) (es : Entries Value), v = .mapping form es ∧
        ∀ d ∈ ds, M d.2 (es.valueOf d.1))
      (∃ (form : MappingForm) (es : Entries Value), v = .mapping form es ∧
        FirstFails (fun d => M d.2 (es.valueOf d.1)) (fun d => U d.2 (es.valueOf d.1)) ds) := by
  cases v with
  | mapping form es =>
    have hmembers : List.Forall₂
        (fun d c => c.verdict.Decides (M d.2 (Entries.valueOf d.1 es))
          (U d.2 (Entries.valueOf d.1 es))) ds
        (fs.map (checked es)) := by
      rw [List.forall₂_map_right_iff]
      apply h.imp
      rintro d f ⟨hkey, hf⟩
      rw [← hkey]
      exact hf _
    have hverdict := (Checked.Decide.of_members hmembers).container
      (Checked.settles_mappingVerdict es _)
    rw [← validateFields_eq_map] at hverdict
    simpa using hverdict
  | _ =>
    simp only [Schema.validate_object, Verdict.reject_mismatch]
    exact .rejected _ (by simp) (by simp)

end Schema

end ShapeMatch
