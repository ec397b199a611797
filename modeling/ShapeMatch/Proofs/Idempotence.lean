import Mathlib
import ShapeMatch.Proofs.Fallible
import ShapeMatch.Proofs.Scalars
import ShapeMatch.Regex.Engine

/-!
Idempotence. What validation hands back is accepted again and handed back as it is, provided
that this holds of the models and custom schemas inside the schema. These are asked by the
schemas around them, so it must hold of what they let pass, also where they answer with a value
instead of a verdict.
-/

namespace ShapeMatch

namespace Schema

/-- Putting into a mapping what it holds already changes nothing. -/
theorem narrowed_eq_self {es : Entries Value} {cs : List Checked}
    (h : ∀ c ∈ cs, c.stop? = none ∧ c.result = c.raw ∧ es.valueOf c.key = c.raw) :
    narrowed .dict es cs = .dict es := by
  have hpatch : ∀ c ∈ cs.filter (!·.isKept), Entries.patch es c = es := by
    intro c hc
    obtain ⟨hmem, hk⟩ := List.mem_filter.mp hc
    obtain ⟨hpass, hresult, hheld⟩ := h c hmem
    apply Entries.patch_eq_self (hheld.trans hresult.symm)
    intro hundef
    exact Checked.raw_ne_undefined hpass (by simpa using hk) hundef (hresult ▸ hundef)
  have hfold : ∀ ds : List Checked, (∀ c ∈ ds, Entries.patch es c = es) →
      ds.foldl Entries.patch es = es := by
    intro ds hds
    induction ds with
    | nil => rfl
    | cons c rest ih =>
      obtain ⟨hc, hrest⟩ := List.forall_mem_cons.mp hds
      rw [List.foldl_cons, hc, ih hrest]
  unfold narrowed
  split
  · rfl
  · rw [hfold _ hpatch]

variable [RegexEngine]

/-- The kinds of schemas that are checked by someone else. -/
def isLeaf : Schema → Bool
  | .model _ | .custom _ => true
  | _ => false

/-- What a schema lets pass it accepts as it is. -/
def Idempotent (s : Schema) : Prop := ∀ v w, v.Distinct → s.Passes v w → s.Accepts w w

theorem idempotent_of_isScalar {s : Schema} (hs : s.isScalar) : s.Idempotent := by
  intro v w _ h
  have hkept := kept_of_isScalar hs h
  unfold Passes at h
  rw [hkept] at h
  cases h
  unfold Accepts
  rw [hkept]
  rfl

/-! ## Sequences -/

theorem idempotent_array {s : Schema} (ih : s.Idempotent) : (Schema.array s).Idempotent := by
  intro v w hv h
  have hacc := (passes_iff_accepts (array_ne_astray s v) w).mp h
  obtain ⟨form, vs, ws, rfl, rfl, hmembers⟩ := (accepts_array s v w).mp hacc
  refine (accepts_array s _ _).mpr ⟨form, ws, ws, rfl, rfl, ?_⟩
  rw [Value.distinct_sequence] at hv
  clear h hacc
  induction hmembers with
  | nil => exact .nil
  | cons hm _ ihrest =>
    obtain ⟨hhead, htail⟩ := List.forall_mem_cons.mp hv
    exact .cons (ih _ _ hhead hm).passes (ihrest htail)

theorem idempotent_items {ss : List Schema} (ih : ∀ s ∈ ss, s.Idempotent) {vs ws : List Value}
    (hvs : ∀ v ∈ vs, v.Distinct) (hlen : vs.length = ss.length)
    (h : List.Forall₂ (fun m u => m.2.Passes m.1 u) (vs.zip ss) ws) :
    ws.length = ss.length ∧ List.Forall₂ (fun m u => m.2.Passes m.1 u) (ws.zip ss) ws := by
  induction ss generalizing vs ws with
  | nil =>
    rw [List.zip_nil_right] at h
    cases h
    exact ⟨rfl, .nil⟩
  | cons s ss ihss =>
    cases vs with
    | nil => simp at hlen
    | cons v vs =>
      obtain ⟨hs, hss⟩ := List.forall_mem_cons.mp ih
      obtain ⟨hhead, htail⟩ := List.forall_mem_cons.mp hvs
      rw [List.zip_cons_cons] at h
      cases h with
      | cons hm hrest =>
        obtain ⟨hlen', hrest'⟩ := ihss hss htail (by simpa using hlen) hrest
        exact ⟨by simp [hlen'], .cons (hs _ _ hhead hm).passes hrest'⟩

theorem idempotent_tuple {ss : List Schema} (ih : ∀ s ∈ ss, s.Idempotent) :
    (Schema.tuple ss).Idempotent := by
  intro v w hv h
  have hacc := (passes_iff_accepts (tuple_ne_astray ss v) w).mp h
  obtain ⟨form, vs, ws, rfl, rfl, hlen, hmembers⟩ := (accepts_tuple ss v w).mp hacc
  rw [Value.distinct_sequence] at hv
  obtain ⟨hlen', hagain⟩ := idempotent_items ih hv hlen hmembers
  exact (accepts_tuple ss _ _).mpr ⟨form, ws, ws, rfl, rfl, hlen', hagain⟩

/-! ## Mappings -/

/-- After the fields were put into a mapping, it holds under each key what the field became. -/
theorem valueOf_narrowed {fs : List (Value × Schema)} (hfs : KeysDistinct (.object fs))
    {es : Entries Value} (hes : Entries.Distinct es) {f : Value × Schema} (hf : f ∈ fs) :
    Entries.valueOf f.1 (((fs.map (checked es)).filter (!·.isKept)).foldl Entries.patch es) =
      (checked es f).result := by
  obtain ⟨hdistinct, hself⟩ := hfs
  by_cases hk : (checked es f).isKept
  · have hothers : ∀ c ∈ (fs.map (checked es)).filter (!·.isKept), ¬ f.1.sameKey c.key := by
      intro c hc hsame
      obtain ⟨hmem, hnot⟩ := List.mem_filter.mp hc
      obtain ⟨g, hg, rfl⟩ := List.mem_map.mp hmem
      obtain rfl := hdistinct.eq_of_sameKey hf hg hsame
      simp [hk] at hnot
    rw [Entries.valueOf_foldl_patch_other es hothers, Checked.result_of_isKept hk]
    rfl
  · have hkeys : (fs.map (checked es)).Pairwise fun a b => ¬ a.key.sameKey b.key :=
      List.pairwise_map.mpr hdistinct
    have hmem : checked es f ∈ (fs.map (checked es)).filter (!·.isKept) :=
      List.mem_filter.mpr ⟨List.mem_map_of_mem hf, by simpa using hk⟩
    exact Entries.valueOf_foldl_patch hes (hkeys.filter _) hmem (hself f hf)

theorem idempotent_object {fs : List (Value × Schema)} (hfs : KeysDistinct (.object fs))
    (ih : ∀ f ∈ fs, f.2.Idempotent) : (Schema.object fs).Idempotent := by
  intro v w hv h
  have hacc := (passes_iff_accepts (object_ne_astray fs v) w).mp h
  obtain ⟨form, es, rfl, hpass, hw⟩ := (accepts_object fs v w).mp hacc
  rw [Value.distinct_mapping] at hv
  unfold narrowed at hw
  split at hw
  · rw [hw] at hacc ⊢
    exact hacc
  · set es' := ((fs.map (checked es)).filter (!·.isKept)).foldl Entries.patch es with hes'
    -- what a field became is held now under its key, and passes as itself
    have hheld : ∀ f ∈ fs, es'.valueOf f.1 = (checked es f).result := by
      intro f hf
      exact valueOf_narrowed hfs hv.1 hf
    have hagain : ∀ f ∈ fs, f.2.Passes (es'.valueOf f.1) (es'.valueOf f.1) := by
      intro f hf
      obtain ⟨u, hu⟩ := hpass f hf
      have hresult : (checked es f).result = u := Checked.result_of_passes hu
      rw [hheld f hf, hresult]
      exact (ih f hf _ u (Value.distinct_valueOf hv.2 f.1) hu).passes
    refine (accepts_object fs w w).mpr ⟨.dict, es', hw, fun f hf => ⟨_, hagain f hf⟩, ?_⟩
    rw [hw, narrowed_eq_self]
    intro c hc
    obtain ⟨f, hf, rfl⟩ := List.mem_map.mp hc
    have hresult : (checked es' f).result = es'.valueOf f.1 :=
      Checked.result_of_passes (hagain f hf)
    refine ⟨?_, hresult, rfl⟩
    rw [checked_stop?_iff, hresult]
    exact hagain f hf

theorem idempotent_refined {s : Schema} (ih : s.Idempotent) (p : Function) :
    (s.refined p).Idempotent := by
  intro v w hv h
  obtain ⟨hbase, hp⟩ := (passes_refined s p v w).mp h
  exact (accepts_refined s p w w).mpr ⟨ih v w hv hbase, hp⟩

/-- A schema is idempotent if the models and custom schemas in it are. -/
theorem idempotent_of_leaves {s : Schema} (hleaf : s.Everywhere fun t => t.isLeaf → t.Idempotent)
    (hkeys : s.Everywhere KeysDistinct) : s.Idempotent := by
  induction s with
  | array s ih => exact idempotent_array (ih hleaf.2 hkeys.2)
  | tuple ss ih =>
    rw [everywhere_tuple] at hleaf hkeys
    exact idempotent_tuple fun s hs => ih s hs (hleaf.2 s hs) (hkeys.2 s hs)
  | object fs ih =>
    rw [everywhere_object] at hleaf hkeys
    exact idempotent_object hkeys.1 fun f hf => ih f hf (hleaf.2 f hf) (hkeys.2 f hf)
  | model m => exact hleaf rfl
  | refined s p ih => exact idempotent_refined (ih hleaf.2 hkeys.2) p
  | custom c => exact hleaf rfl
  | misplaced u =>
    intro v w _ h
    simp [Passes, Verdict.nested, Verdict.value?] at h
  | _ => exact idempotent_of_isScalar rfl

end Schema

/-! ## Reading data -/

namespace DataType

theorem readItems_readItems {read : Value → Except Failure Value}
    (hread : ∀ v w, read v = .ok w → read w = .ok w) {n : Nat} {vs ws : List Value}
    (h : readItems read n vs = .ok ws) : readItems read n ws = .ok ws := by
  induction vs generalizing n ws with
  | nil =>
    cases h
    rfl
  | cons v rest ih =>
    rw [readItems] at h
    cases hv : read v with
    | error f => simp [hv] at h
    | ok w =>
      simp only [hv] at h
      obtain ⟨us, hrest, rfl⟩ := map_eq_ok h
      simp only [readItems, hread v w hv, ih hrest, Except.map]

/-- What was read is read again as it is. -/
theorem read_read (t : DataType) {v w : Value} (h : t.read v = .ok w) : t.read w = .ok w := by
  match t with
  | .integer =>
    rw [read] at h
    split at h
    · cases h
      rfl
    · simp at h
  | .text =>
    rw [read] at h
    obtain ⟨s, _, rfl⟩ := map_eq_ok h
    rfl
  | .list items =>
    rw [read] at h
    split at h
    · obtain ⟨ws, hread, rfl⟩ := map_eq_ok h
      have hagain := readItems_readItems (fun _ _ => read_read items) hread
      simp only [read, members?, hagain, Except.map]
    · simp at h
  | .record model fields =>
    have hself : ∀ values, (DataType.record model fields).read (.record model values) =
        .ok (.record model values) := by
      intro values
      simp [read]
    cases v with
    | record name values =>
      rw [read] at h
      split at h
      · rename_i hname
        cases h
        exact hname ▸ hself values
      · simp [read.notRecord] at h
    | mapping form es =>
      rw [read] at h
      obtain ⟨values, _, rfl⟩ := map_eq_ok h
      exact hself values
    | _ => simp [read, read.notRecord] at h

theorem read_of_keeps {t : DataType} {v : Value} (h : t.keeps v) : t.read v = .ok v := by
  unfold keeps at h
  split at h
  · rfl
  · rfl
  · rename_i model fields name values
    simp only [decide_eq_true_eq] at h
    simp [read, h]
  · simp at h

end DataType

namespace Schema

variable [RegexEngine]

theorem model_ne_astray (m : Model) (v a : Value) : (Schema.model m).validate v ≠ .astray a := by
  rw [validate_model]
  unfold Model.verdict
  split
  · simp [Verdict.settled]
  · rw [Verdict.settled]
    split <;> simp
  · simp [Verdict.settled]
  · simp [Verdict.settled]

/-- The model of a data type accepts what can be read, and hands back what was read. -/
theorem accepts_model {m : Model} {t : DataType} (hm : m.check = Model.checkOf t) (v w : Value) :
    (Schema.model m).Accepts v w ↔ t.read v = .ok w := by
  unfold Accepts
  rw [validate_model, Verdict.value?_settled, Model.verdict, hm, Model.checkOf]
  cases hread : t.read v with
  | error f => simp [Except.map, Except.mapError, Verdict.value?]
  | ok u =>
    by_cases hk : t.keeps v
    · have hself := DataType.read_of_keeps hk
      rw [hread] at hself
      cases hself
      simp [Except.map, Except.mapError, hk, Verdict.value?]
    · simp [Except.map, Except.mapError, hk, Verdict.value?]

theorem idempotent_model {m : Model} {t : DataType} (hm : m.check = Model.checkOf t) :
    (Schema.model m).Idempotent := by
  intro v w _ h
  rw [passes_iff_accepts (model_ne_astray m v), accepts_model hm] at h
  rw [accepts_model hm]
  exact t.read_read h

end Schema

/-! ## Custom schemas -/

theorem map_toUpper_map (s : String) :
    (s.map Char.toUpper).map Char.toUpper = s.map Char.toUpper := by
  rw [String.map_map]
  congr 1
  funext c
  exact Char.toUpper_toUpper_eq_toUpper c

namespace Schema

section

variable [RegexEngine]

theorem passes_custom (c : Custom) (v w : Value) :
    (Schema.custom c).Passes v w ↔ (c.check v).nested.value? v = some w := by
  unfold Passes
  rw [validate_custom, Verdict.value?_nested_settled]

theorem accepts_custom (c : Custom) (v w : Value) :
    (Schema.custom c).Accepts v w ↔ (c.check v).value? v = some w := by
  unfold Accepts
  rw [validate_custom, Verdict.value?_settled]

theorem idempotent_even : (Schema.custom .even).Idempotent := by
  intro v w _ h
  rw [passes_custom] at h
  have hkept : Custom.even.check v = .kept := Verdict.keepIf_eq_kept h
  rw [hkept] at h
  cases h
  rw [accepts_custom, hkept]
  rfl

theorem accepts_upper {s : String} (h : s.map Char.toUpper = s) :
    (Schema.custom .upper).Accepts (.text s) (.text s) := by
  rw [accepts_custom]
  simp [Custom.upper, h, Verdict.value?]

theorem idempotent_upper : (Schema.custom .upper).Idempotent := by
  intro v w _ h
  rw [passes_custom] at h
  cases v with
  | text s =>
    by_cases hs : s.map Char.toUpper = s
    · simp only [Custom.upper, hs, if_true] at h
      cases h
      exact accepts_upper hs
    · simp only [Custom.upper, hs, if_false] at h
      cases h
      exact accepts_upper (map_toUpper_map s)
  | _ => simp [Custom.upper, Verdict.nested, Verdict.value?] at h

theorem idempotent_drop : (Schema.custom .drop).Idempotent := by
  intro v w _ h
  cases v <;> cases h <;> rfl

theorem idempotent_fill : (Schema.custom .fill).Idempotent := by
  intro v w _ h
  cases v <;> cases h <;> rfl

/-- The models and custom schemas at hand that accept anything. -/
def stockLeaves : List Schema :=
  [.model .point, .model .email, .model .sms, .model .line, .model .listOfInt,
    .model .listOfIntAdapter, .model .pointAdapter, .custom .even, .custom .upper, .custom .drop,
    .custom .fill]

theorem idempotent_of_stock {s : Schema} (h : s ∈ stockLeaves) : s.Idempotent := by
  simp only [stockLeaves, List.mem_cons, List.not_mem_nil, or_false] at h
  rcases h with rfl | rfl | rfl | rfl | rfl | rfl | rfl | rfl | rfl | rfl | rfl
  · exact idempotent_model (t := .point) rfl
  · exact idempotent_model (t := .email) rfl
  · exact idempotent_model (t := .sms) rfl
  · exact idempotent_model (t := .line) rfl
  · exact idempotent_model (t := .integers) rfl
  · exact idempotent_model (t := .integers) rfl
  · exact idempotent_model (t := .point) rfl
  · exact idempotent_even
  · exact idempotent_upper
  · exact idempotent_drop
  · exact idempotent_fill

/-- What a schema accepts it accepts again as it is, if the models and custom schemas in it are
idempotent, as those at hand are. -/
theorem validate_idempotent {s : Schema} {v w : Value}
    (hleaf : s.Everywhere fun t => t.isLeaf → t ∈ stockLeaves ∨ t.Idempotent)
    (hkeys : s.Everywhere KeysDistinct) (hv : v.Distinct) (h : s.Accepts v w) :
    s.Accepts w w := by
  have hleaf' : s.Everywhere fun t => t.isLeaf → t.Idempotent := by
    apply hleaf.imp
    intro t ht hl
    rcases ht hl with hstock | hidem
    · exact idempotent_of_stock hstock
    · exact hidem
  exact idempotent_of_leaves hleaf' hkeys v w hv h.passes

end

/-- One field is filled, one is dropped and one is read; a second pass changes nothing more. -/
theorem validate_idempotent_fields :
    (Schema.object [(.text "a", .custom .fill), (.text "b", .custom .drop),
      (.text "p", .model .point)]).Accepts
      (.dict [(.text "p", .record "Point" [("x", .int 1), ("y", .int 2)]), (.text "a", .int 0)])
      (.dict [(.text "p", .record "Point" [("x", .int 1), ("y", .int 2)]),
        (.text "a", .int 0)]) := by
  have hfirst : (Schema.object [(.text "a", .custom .fill), (.text "b", .custom .drop),
      (.text "p", .model .point)]).Accepts
      (.dict [(.text "b", .int 7), (.text "p", .dict [(.text "x", .int 1), (.text "y", .int 2)])])
      (.dict [(.text "p", .record "Point" [("x", .int 1), ("y", .int 2)]),
        (.text "a", .int 0)]) := by
    rfl
  refine validate_idempotent ?_ ?_ ?_ hfirst
  · simp [Everywhere, EverywhereFields, isLeaf, stockLeaves]
  · simp [Everywhere, EverywhereFields, KeysDistinct, Entries.Distinct, Value.sameKey, Value.key?]
  · simp [Value.Distinct, Value.EntriesDistinct, Entries.Distinct, Value.sameKey, Value.key?]

/-- A custom schema that gives no verdicts accepts nothing, and yet an array of it can accept a
value once and not again: it hands back the content of a literal. -/
theorem validate_not_idempotent :
    (∀ v w, (Schema.custom .broken).Accepts v w → (Schema.custom .broken).Accepts w w) ∧
      (Schema.array (.custom .broken)).Accepts (.list [(Schema.literal (.int 5)).asValue])
        (.list [.int 5]) ∧
      (Schema.array (.custom .broken)).validate (.list [.int 5]) =
        .raised (.lacks (.int 5) "value") := by
  refine ⟨?_, rfl, rfl⟩
  intro v w h
  rw [accepts_custom] at h
  simp [Custom.broken, Verdict.value?] at h

end Schema

end ShapeMatch
