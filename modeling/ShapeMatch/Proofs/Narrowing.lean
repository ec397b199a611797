import ShapeMatch.Proofs.HandedBack
import ShapeMatch.Regex.Engine

/-!
Narrowing. What an object schema makes of a mapping differs from it under the keys listed only
(`validate_narrowing`). Keys that stay keep their order, those whose values are taken away
disappear, and those whose values are filled in come last, in the order of the fields.
-/

namespace ShapeMatch

def Value.isAbsent : Value → Bool
  | .undefined => true
  | _ => false

theorem Value.isAbsent_iff (v : Value) : v.isAbsent ↔ v = .undefined := by
  cases v <;> simp [isAbsent]

namespace Entries

variable {α : Type}

/-! ## The keys of a mapping -/

theorem keys_put_of_present {k : Value} {es : Entries α} {u : α} (h : get? k es = some u) (v : α) :
    (put k v es).map Prod.fst = es.map Prod.fst := by
  induction es with
  | nil => simp [get?] at h
  | cons e rest ih =>
    obtain ⟨k₁, v₁⟩ := e
    rw [get?] at h
    rw [put]
    split at h
    · rename_i hk
      rw [if_pos hk, List.map_cons, List.map_cons]
    · rename_i hk
      rw [if_neg hk, List.map_cons, ih h, List.map_cons]

theorem put_of_missing {k : Value} {es : Entries α} (h : get? k es = none) (v : α) :
    put k v es = es ++ [(k, v)] := by
  induction es with
  | nil => rfl
  | cons e rest ih =>
    obtain ⟨k₁, v₁⟩ := e
    rw [get?] at h
    split at h
    · simp at h
    · rename_i hk
      rw [put, if_neg hk, ih h, List.cons_append]

theorem erase_eq_filter {es : Entries α} (hd : Distinct es) (k : Value) :
    erase k es = es.filter fun e => !k.sameKey e.1 := by
  induction es with
  | nil => rfl
  | cons e rest ih =>
    obtain ⟨k₁, v₁⟩ := e
    obtain ⟨hhead, htail⟩ := List.pairwise_cons.mp hd
    rw [erase, List.filter_cons]
    by_cases hk : k.sameKey k₁
    · have hrest : rest.filter (fun e => !k.sameKey e.1) = rest := by
        rw [List.filter_eq_self]
        intro e he
        have hne : ¬ k.sameKey e.1 := by
          rw [Value.sameKey_congr hk]
          exact hhead e he
        simpa using hne
      simp [hk, hrest]
    · simp [hk, ih htail]

/-- A field is put into a mapping under a key that is not there yet. -/
def adds (es : Entries Value) (c : Checked) : Bool :=
  !c.result.isAbsent && (get? c.key es).isNone

/-- A field takes the entry of a key out of a mapping. -/
def drops (c : Checked) (k : Value) : Bool := c.key.sameKey k && c.result.isAbsent

theorem keys_patch {es : Entries Value} (hd : Distinct es) (c : Checked) :
    (patch es c).map Prod.fst =
      (es.map Prod.fst).filter (fun k => !drops c k) ++ ([c].filter (adds es)).map Checked.key := by
  by_cases habsent : c.result.isAbsent
  · have hpatch : patch es c = erase c.key es := by
      rw [patch, (Value.isAbsent_iff _).mp habsent]
    have hnone : [c].filter (adds es) = [] := by simp [adds, habsent]
    rw [hpatch, erase_eq_filter hd, hnone, List.map_nil, List.append_nil, List.filter_map]
    simp only [drops, habsent, Bool.and_true]
    rfl
  · have hpatch : patch es c = put c.key c.result es := by
      unfold patch
      split
      · rename_i hresult
        exact absurd ((Value.isAbsent_iff _).mpr hresult) habsent
      · rfl
    have hall : (es.map Prod.fst).filter (fun k => !drops c k) = es.map Prod.fst := by
      simp [drops, habsent]
    rw [hpatch, hall]
    cases hget : get? c.key es with
    | none =>
      have hadds : [c].filter (adds es) = [c] := by simp [adds, habsent, hget]
      rw [put_of_missing hget, List.map_append, hadds]
      rfl
    | some u =>
      have hadds : [c].filter (adds es) = [] := by simp [adds, hget]
      rw [keys_put_of_present hget, hadds, List.map_nil, List.append_nil]

/-- By induction on the fields put in. Each one leaves the keys of the others alone, so that what
it adds is neither dropped later on nor changes what is added later on. -/
theorem keys_foldl_patch {es : Entries Value} (hd : Distinct es) {cs : List Checked}
    (hcs : cs.Pairwise fun a b => ¬ a.key.sameKey b.key) :
    (cs.foldl patch es).map Prod.fst =
      (es.map Prod.fst).filter (fun k => !cs.any fun c => drops c k) ++
        (cs.filter (adds es)).map Checked.key := by
  induction cs generalizing es with
  | nil => simp
  | cons c rest ih =>
    obtain ⟨hhead, htail⟩ := List.pairwise_cons.mp hcs
    have hother : ∀ d ∈ rest, ¬ d.key.sameKey c.key := by
      intro d hd
      rw [Value.sameKey_comm]
      exact hhead d hd
    have hadds : rest.filter (adds (patch es c)) = rest.filter (adds es) := by
      apply List.filter_congr
      intro d hd
      rw [adds, adds, get?_patch_other es c (hother d hd)]
    have hstays : (([c].filter (adds es)).map Checked.key).filter
        (fun k => !rest.any fun d => drops d k) = ([c].filter (adds es)).map Checked.key := by
      rw [List.filter_eq_self]
      intro k hk
      obtain ⟨d, hd, rfl⟩ := List.mem_map.mp hk
      obtain rfl := List.mem_singleton.mp (List.mem_filter.mp hd).1
      simp only [Bool.not_eq_true', List.any_eq_false, drops, Bool.and_eq_true, not_and]
      intro e he hsame
      exact absurd hsame (hother e he)
    have hsplit : (c :: rest).filter (adds es) = [c].filter (adds es) ++ rest.filter (adds es) := by
      rw [← List.filter_append]
      rfl
    rw [List.foldl_cons, ih (hd.patch c) htail, hadds, keys_patch hd c, List.filter_append, hstays,
      List.filter_filter, hsplit, List.map_append, List.append_assoc]
    simp only [List.any_cons, Bool.not_or, Bool.and_comm]

theorem get?_of_mem {es : Entries α} (hd : Distinct es) {e : Value × α} (he : e ∈ es) {k : Value}
    (hk : k.sameKey e.1) : get? k es = some e.2 := by
  induction es with
  | nil => simp at he
  | cons e₁ rest ih =>
    obtain ⟨k₁, v₁⟩ := e₁
    obtain ⟨hhead, htail⟩ := List.pairwise_cons.mp hd
    rw [get?]
    rcases List.mem_cons.mp he with rfl | hrest
    · rw [if_pos hk]
    · have hne : ¬ k.sameKey k₁ := by
        intro hk₁
        rw [Value.sameKey_congr hk₁] at hk
        exact hhead e hrest hk
      rw [if_neg hne, ih htail hrest]

theorem valueOf_of_mem {es : Entries Value} (hd : Distinct es) {e : Value × Value} (he : e ∈ es)
    {k : Value} (hk : k.sameKey e.1) : valueOf k es = e.2 := by
  rw [valueOf, get?_of_mem hd he hk]
  rfl

end Entries

namespace Schema

section

variable [RegexEngine]

/-- The entry disappears: its key is listed, and its value is validated to the absence of one. -/
def takesOut (fs : List (Value × Schema)) (e : Value × Value) : Bool :=
  fs.any fun f => f.1.sameKey e.1 && !e.2.isAbsent &&
    ((f.2.validate e.2).nested.value? e.2).any Value.isAbsent

/-- The field comes new: its key is missing, and the absence of a value is validated to a value. -/
def fillsIn (es : Entries Value) (f : Value × Schema) : Bool :=
  (Entries.get? f.1 es).isNone &&
    ((f.2.validate .undefined).nested.value? .undefined).any fun w => !w.isAbsent

theorem takesOut_iff (fs : List (Value × Schema)) (e : Value × Value) :
    takesOut fs e ↔
      ∃ f ∈ fs, f.1.sameKey e.1 ∧ e.2 ≠ .undefined ∧ f.2.Passes e.2 .undefined := by
  have hany : ∀ f : Value × Schema,
      ((f.2.validate e.2).nested.value? e.2).any Value.isAbsent ↔ f.2.Passes e.2 .undefined := by
    intro f
    rw [Option.any_eq_true]
    constructor
    · rintro ⟨w, hw, habsent⟩
      obtain rfl := (Value.isAbsent_iff w).mp habsent
      exact hw
    · intro h
      exact ⟨_, h, rfl⟩
  rw [takesOut, List.any_eq_true]
  refine exists_congr fun f => and_congr_right fun _ => ?_
  rw [Bool.and_eq_true, Bool.and_eq_true, hany, Bool.not_eq_true', ← Bool.not_eq_true,
    Value.isAbsent_iff, and_assoc]

theorem fillsIn_iff (es : Entries Value) (f : Value × Schema) :
    fillsIn es f ↔ Entries.get? f.1 es = none ∧ ∃ w, f.2.Passes .undefined w ∧ w ≠ .undefined := by
  rw [fillsIn, Bool.and_eq_true, Option.isNone_iff_eq_none, Option.any_eq_true]
  refine and_congr_right fun _ => exists_congr fun w => and_congr_right fun _ => ?_
  rw [Bool.not_eq_true', ← Bool.not_eq_true, Value.isAbsent_iff]

/-! ## The result of an object schema -/

variable {fs : List (Value × Schema)} {es : Entries Value}

/-- The fields that validation changes. -/
def changedFields (fs : List (Value × Schema)) (es : Entries Value) : List Checked :=
  (fs.map (checked es)).filter fun c => !c.isKept

theorem mem_changedFields {c : Checked} :
    c ∈ changedFields fs es ↔ ∃ f ∈ fs, checked es f = c ∧ ¬ c.isKept := by
  rw [changedFields, List.mem_filter, List.mem_map, Bool.not_eq_true', ← Bool.not_eq_true]
  constructor
  · rintro ⟨⟨f, hf, rfl⟩, hkept⟩
    exact ⟨f, hf, rfl, hkept⟩
  · rintro ⟨f, hf, rfl, hkept⟩
    exact ⟨⟨f, hf, rfl⟩, hkept⟩

theorem passes_result {f : Value × Schema} (h : f.2.LetsPass (es.valueOf f.1)) :
    f.2.Passes (es.valueOf f.1) (checked es f).result := by
  obtain ⟨u, hu⟩ := h
  have hresult : (checked es f).result = u := Checked.result_of_passes hu
  rw [hresult]
  exact hu

/-- Whether an entry disappears can be told from its own value: the field that drops it has looked
at this value. -/
theorem takesOut_eq (hes : Entries.Distinct es) (hpass : ∀ f ∈ fs, f.2.LetsPass (es.valueOf f.1))
    {e : Value × Value} (he : e ∈ es) :
    ((changedFields fs es).any fun c => Entries.drops c e.1) = takesOut fs e := by
  rw [Bool.eq_iff_iff, takesOut_iff, List.any_eq_true]
  constructor
  · rintro ⟨c, hc, hdrops⟩
    obtain ⟨f, hf, rfl, hkept⟩ := mem_changedFields.mp hc
    rw [Entries.drops, Bool.and_eq_true, Value.isAbsent_iff] at hdrops
    obtain ⟨hsame, hresult⟩ := hdrops
    have hraw : es.valueOf f.1 = e.2 := Entries.valueOf_of_mem hes he hsame
    have hpasses := passes_result (hpass f hf)
    have hne := Checked.raw_ne_undefined ((checked_stop?_iff es f).mpr hpasses) hkept hresult
    rw [hresult, hraw] at hpasses
    exact ⟨f, hf, hsame, hraw ▸ hne, hpasses⟩
  · rintro ⟨f, hf, hsame, hne, hpasses⟩
    have hraw : es.valueOf f.1 = e.2 := Entries.valueOf_of_mem hes he hsame
    rw [← hraw] at hpasses hne
    have hresult : (checked es f).result = .undefined := Checked.result_of_passes hpasses
    refine ⟨checked es f, mem_changedFields.mpr ⟨f, hf, rfl, ?_⟩, ?_⟩
    · intro hkept
      exact hne ((Checked.result_of_isKept hkept).symm.trans hresult)
    · rw [Entries.drops, Bool.and_eq_true, Value.isAbsent_iff]
      exact ⟨hsame, hresult⟩

/-- A field that adds a key has looked at the absence of a value. -/
theorem fillsIn_eq (hpass : ∀ f ∈ fs, f.2.LetsPass (es.valueOf f.1)) :
    ((changedFields fs es).filter (Entries.adds es)).map Checked.key =
      (fs.filter (fillsIn es)).map Prod.fst := by
  have hfield : ∀ f ∈ fs,
      (Entries.adds es (checked es f) && !(checked es f).isKept) = fillsIn es f := by
    intro f hf
    rw [Bool.eq_iff_iff, fillsIn_iff, Bool.and_eq_true, Entries.adds, Bool.and_eq_true,
      Bool.not_eq_true', ← Bool.not_eq_true, Value.isAbsent_iff, Option.isNone_iff_eq_none,
      Bool.not_eq_true', ← Bool.not_eq_true]
    have hmissing : Entries.get? f.1 es = none → es.valueOf f.1 = .undefined := by
      intro hget
      rw [Entries.valueOf, hget]
      rfl
    constructor
    · rintro ⟨⟨hresult, hget⟩, _⟩
      have hpasses := passes_result (hpass f hf)
      rw [hmissing hget] at hpasses
      exact ⟨hget, _, hpasses, hresult⟩
    · rintro ⟨hget, w, hpasses, hw⟩
      rw [← hmissing hget] at hpasses
      have hresult : (checked es f).result = w := Checked.result_of_passes hpasses
      refine ⟨⟨hresult ▸ hw, hget⟩, ?_⟩
      intro hkept
      exact hw (hresult.symm.trans ((Checked.result_of_isKept hkept).trans (hmissing hget)))
  rw [changedFields, List.filter_filter, List.filter_map, List.map_map]
  exact congrArg (List.map Prod.fst) (List.filter_congr hfield)

/-- A mapping narrowed by fields. Under each listed key it holds what the field was validated to,
and otherwise it is as before. Of the keys some are taken out, and the others stay in their places
and spellings; those filled in come after them, as the fields spell and order them. -/
structure Narrowing (fs : List (Value × Schema)) (es rs : Entries Value) : Prop where
  listed : ∀ f ∈ fs, f.2.Passes (es.valueOf f.1) (rs.valueOf f.1)
  others : ∀ k, (∀ f ∈ fs, ¬ k.sameKey f.1) → Entries.get? k rs = Entries.get? k es
  distinct : Entries.Distinct rs
  keys : rs.map Prod.fst =
    (es.filter fun e => !takesOut fs e).map Prod.fst ++ (fs.filter (fillsIn es)).map Prod.fst

theorem narrowing_foldl_patch (hkeys : (Schema.object fs).KeysDistinct) (hes : Entries.Distinct es)
    (hpass : ∀ f ∈ fs, f.2.LetsPass (es.valueOf f.1)) :
    Narrowing fs es ((changedFields fs es).foldl Entries.patch es) where
  listed := by
    intro f hf
    have hvalue := valueOf_narrowed hkeys hes hf
    rw [changedFields, hvalue]
    exact passes_result (hpass f hf)
  others := by
    intro k hk
    apply Entries.get?_foldl_patch_other
    intro c hc
    obtain ⟨f, hf, rfl, _⟩ := mem_changedFields.mp hc
    exact hk f hf
  distinct := hes.foldl_patch _
  keys := by
    have hdistinct : (fs.map (checked es)).Pairwise fun a b => ¬ a.key.sameKey b.key :=
      List.pairwise_map.mpr hkeys.1
    have hchanged : (changedFields fs es).Pairwise fun a b => ¬ a.key.sameKey b.key :=
      hdistinct.filter _
    rw [Entries.keys_foldl_patch hes hchanged, fillsIn_eq hpass, List.filter_map]
    congr 2
    apply List.filter_congr
    intro e he
    exact congrArg (!·) (takesOut_eq hes hpass he)

/-- An object schema narrows what it accepts. The very mapping is handed back if all fields hand
back the very values that they are given, and a dictionary otherwise. -/
theorem validate_narrowing {form : MappingForm} {r : Value}
    (hkeys : (Schema.object fs).KeysDistinct) (hes : Entries.Distinct es)
    (h : (Schema.object fs).Accepts (.mapping form es) r) :
    ∃ form' rs, r = .mapping form' rs ∧ Narrowing fs es rs ∧
      ((∀ f ∈ fs, f.2.HandsBack (es.valueOf f.1)) ∧
          (Schema.object fs).validate (.mapping form es) = .kept ∧ form' = form ∧ rs = es ∨
        (∃ f ∈ fs, ¬ f.2.HandsBack (es.valueOf f.1)) ∧
          (Schema.object fs).validate (.mapping form es) = .changed r ∧ form' = .dict) := by
  obtain ⟨_, _, heq, hpass, hr⟩ := (accepts_object fs _ r).mp h
  cases heq
  have hnarrowing := narrowing_foldl_patch hkeys hes hpass
  have hkept := (handsBack_iff_kept (object_ne_astray fs _)).symm.trans
    (handsBack_object form hpass)
  have hall : (fs.map (checked es)).all Checked.isKept ↔
      ∀ f ∈ fs, f.2.HandsBack (es.valueOf f.1) := by
    rw [Checked.all_isKept_iff, List.forall_mem_map]
    exact Iff.rfl
  by_cases hback : ∀ f ∈ fs, f.2.HandsBack (es.valueOf f.1)
  · have hnone : changedFields fs es = [] := by
      rw [changedFields, List.filter_eq_nil_iff]
      intro c hc
      simpa using List.all_eq_true.mp (hall.mpr hback) c hc
    rw [hnone] at hnarrowing
    rw [narrowed, if_pos (hall.mpr hback)] at hr
    exact ⟨form, es, hr, hnarrowing, .inl ⟨hback, hkept.mpr hback, rfl, rfl⟩⟩
  · have hchanged : (Schema.object fs).validate (.mapping form es) = .changed r :=
      h.eq_changed fun hk => hback (hkept.mp hk)
    rw [narrowed, if_neg (fun hc => hback (hall.mp hc))] at hr
    have hfield : ∃ f ∈ fs, ¬ f.2.HandsBack (es.valueOf f.1) := by
      simpa using hback
    exact ⟨.dict, _, hr, hnarrowing, .inr ⟨hfield, hchanged, rfl⟩⟩

end

/-- Of a view one field is filled in, one is dropped, under a key that is written as a truth value
there, and one is read: what comes out is a dictionary. -/
theorem validate_narrowing_view :
    let point := Value.dict [(.text "x", .int 1), (.text "y", .int 2)]
    let fs := [(.text "a", .custom .fill), (.int 1, .custom .drop), (.text "p", .model .point)]
    let es := [(.bool true, .int 7), (.text "p", point), (.text "z", .null)]
    ∃ rs, (Schema.object fs).validate (.mapping .view es) = .changed (.dict rs) ∧
      Narrowing fs es rs ∧ rs.map Prod.fst = [.text "p", .text "z", .text "a"] := by
  intro point fs es
  have hkeys : (Schema.object fs).KeysDistinct := by
    simp only [fs, KeysDistinct, Entries.Distinct]
    decide
  have hes : Entries.Distinct es := by
    simp only [es, Entries.Distinct]
    decide
  have haccepts : (Schema.object fs).Accepts (.mapping .view es)
      (.dict [(.text "p", .record "Point" [("x", .int 1), ("y", .int 2)]), (.text "z", .null),
        (.text "a", .int 0)]) := by rfl
  obtain ⟨form, rs, hr, hnarrowing, ⟨hback, _⟩ | ⟨_, hchanged, hform⟩⟩ :=
    validate_narrowing hkeys hes haccepts
  · have hdropped : (Schema.custom .drop).HandsBack (.int 7) :=
      hback (.int 1, .custom .drop) (by simp [fs])
    simp [HandsBack, Custom.drop, Verdict.settled, Verdict.nested, Value.isSole] at hdropped
  · refine ⟨rs, ?_, hnarrowing, ?_⟩
    · rw [hchanged, hr, hform]
    · rw [hnarrowing.keys]
      rfl

end Schema

end ShapeMatch
