import ShapeMatch.Proofs.Culprits
import ShapeMatch.Regex.Engine

/-!
The order of fields. Schemas that list the same fields in different orders, at any depth, accept the
same values and make the same of them, up to the order of the entries (`validate_rearranged`). Their
failures may differ: the first field that does not pass decides, and which one that is depends on
the order.
-/

namespace ShapeMatch

/-- Two values are the same up to the order of the entries of the mappings in them. -/
inductive Value.Rearranged : Value → Value → Prop where
  | same (v : Value) : Rearranged v v
  | sequence (form : SequenceForm) (vs ws : List Value) (hlength : vs.length = ws.length)
      (h : ∀ m ∈ vs.zip ws, Rearranged m.1 m.2) : Rearranged (.sequence form vs) (.sequence form ws)
  | mapping (form : MappingForm) (es es' fs : Entries Value) (horder : es.Perm es')
      (hlength : es'.length = fs.length) (hkeys : ∀ m ∈ es'.zip fs, m.1.1 = m.2.1)
      (h : ∀ m ∈ es'.zip fs, Rearranged m.1.2 m.2.2) :
      Rearranged (.mapping form es) (.mapping form fs)

/-- Two schemas are the same up to the order of the fields of the objects in them. What a predicate
is about stays as it is, since the predicate can see the order. -/
inductive Schema.Rearranged [RegexEngine] : Schema → Schema → Prop where
  | same (s : Schema) : Rearranged s s
  | array (s t : Schema) (h : Rearranged s t) : Rearranged (.array s) (.array t)
  | tuple (ss ts : List Schema) (hlength : ss.length = ts.length)
      (h : ∀ m ∈ ss.zip ts, Rearranged m.1 m.2) : Rearranged (.tuple ss) (.tuple ts)
  | object (fs fs' gs : List (Value × Schema)) (horder : fs.Perm fs')
      (hlength : fs'.length = gs.length) (hkeys : ∀ m ∈ fs'.zip gs, m.1.1 = m.2.1)
      (h : ∀ m ∈ fs'.zip gs, Rearranged m.1.2 m.2.2) : Rearranged (.object fs) (.object gs)

/-! ## Putting fields into a mapping in another order -/

theorem Value.not_sameKey_symm {a b : Value} (h : ¬ a.sameKey b) : ¬ b.sameKey a := by
  rw [Value.sameKey_comm]
  exact h

/-- Of two different keys at most one is the same as a third one. -/
theorem Value.not_sameKey_of {a b c : Value} (hne : ¬ a.sameKey b) (h : a.sameKey c) :
    ¬ b.sameKey c := by
  intro hb
  exact hne (Value.sameKey_trans h (Value.sameKey_comm b c ▸ hb))

namespace Entries

/-- The entry of a key that holds this, or none if it holds no value. -/
def held (k : Value) : Value → Entries Value
  | .undefined => []
  | w => [(k, w)]

theorem patch_nil (c : Checked) : patch [] c = held c.key c.result := by
  unfold patch
  cases c.result <;> rfl

theorem patch_cons (k v : Value) (es : Entries Value) (c : Checked) :
    patch ((k, v) :: es) c =
      if c.key.sameKey k then held k c.result ++ es else (k, v) :: patch es c := by
  unfold patch
  cases c.result <;> simp only [erase, put] <;> split <;> rfl

/-- A field under another key leaves an entry as it is. -/
theorem patch_held_append {k : Value} {d : Checked} (h : ¬ d.key.sameKey k) (w : Value)
    (es : Entries Value) : patch (held k w ++ es) d = held k w ++ patch es d := by
  unfold held
  split
  · rfl
  · rw [List.cons_append, List.nil_append, patch_cons, if_neg h]
    rfl

theorem patch_comm {c d : Checked} (h : ¬ c.key.sameKey d.key) (es : Entries Value) :
    (patch (patch es c) d).Perm (patch (patch es d) c) := by
  induction es with
  | nil =>
    -- both are missing, so they are appended in the order in which they come
    have hc := patch_held_append (Value.not_sameKey_symm h) c.result []
    have hd := patch_held_append h d.result []
    rw [List.append_nil] at hc hd
    rw [patch_nil, patch_nil, hc, hd, patch_nil, patch_nil]
    exact List.perm_append_comm
  | cons e rest ih =>
    obtain ⟨k, v⟩ := e
    by_cases hc : c.key.sameKey k
    · have hd : ¬ d.key.sameKey k := Value.not_sameKey_of h hc
      rw [patch_cons, if_pos hc, patch_held_append hd, patch_cons, if_neg hd, patch_cons, if_pos hc]
    · by_cases hd : d.key.sameKey k
      · rw [patch_cons, if_neg hc, patch_cons, if_pos hd, patch_cons, if_pos hd,
          patch_held_append hc]
      · rw [patch_cons, if_neg hc, patch_cons, if_neg hd, patch_cons, if_neg hd, patch_cons,
          if_neg hc]
        exact ih.cons (k, v)

theorem Distinct.perm {es fs : Entries Value} (h : Distinct es) (hperm : es.Perm fs) :
    Distinct fs :=
  (hperm.pairwise_iff Value.not_sameKey_symm).mp h

theorem patch_perm {es fs : Entries Value} (h : es.Perm fs) (hd : Distinct es) (c : Checked) :
    (patch es c).Perm (patch fs c) := by
  induction h with
  | nil => exact .refl _
  | cons e h ih =>
    obtain ⟨k, v⟩ := e
    rw [patch_cons, patch_cons]
    split
    · exact h.append_left _
    · exact (ih (List.pairwise_cons.mp hd).2).cons (k, v)
  | swap e e' rest =>
    obtain ⟨k, v⟩ := e
    obtain ⟨k', v'⟩ := e'
    -- at most one of the two entries is under the key of the field
    have hne : ¬ k'.sameKey k := (List.pairwise_cons.mp hd).1 (k, v) (by simp)
    rw [patch_cons, patch_cons, patch_cons, patch_cons]
    by_cases hk' : c.key.sameKey k'
    · have hk : ¬ c.key.sameKey k := by
        rw [Value.sameKey_congr hk']
        exact hne
      rw [if_pos hk', if_neg hk, if_pos hk']
      exact List.perm_middle
    · rw [if_neg hk', if_neg hk']
      split
      · exact List.perm_middle.symm
      · exact .swap _ _ _
  | trans h _ ih ih' => exact (ih hd).trans (ih' (hd.perm h))

theorem foldl_patch_perm_left {es fs : Entries Value} (h : es.Perm fs) (hd : Distinct es)
    (cs : List Checked) : (cs.foldl patch es).Perm (cs.foldl patch fs) := by
  induction cs generalizing es fs with
  | nil => exact h
  | cons c rest ih => exact ih (patch_perm h hd c) (hd.patch c)

/-- Fields under different keys may be put into a mapping in any order. -/
theorem foldl_patch_perm {cs ds : List Checked} (h : cs.Perm ds)
    (hkeys : cs.Pairwise fun a b => ¬ a.key.sameKey b.key) {es : Entries Value} (hd : Distinct es) :
    (cs.foldl patch es).Perm (ds.foldl patch es) := by
  induction h generalizing es with
  | nil => exact .refl _
  | cons c _ ih => exact ih (List.pairwise_cons.mp hkeys).2 (hd.patch c)
  | swap c d rest =>
    have hne : ¬ d.key.sameKey c.key := (List.pairwise_cons.mp hkeys).1 c (by simp)
    exact foldl_patch_perm_left (patch_comm hne es) ((hd.patch d).patch c) rest
  | trans h _ ih ih' =>
    have hkeys' := (h.pairwise_iff Value.not_sameKey_symm).mp hkeys
    exact (ih hkeys hd).trans (ih' hkeys' hd)

/-! What is put in may itself be rearranged. -/

/-- Two mappings hold the same up to order under the same keys, entry by entry. -/
abbrev Aligned (es fs : Entries Value) : Prop :=
  List.Forall₂ (fun e f => e.1 = f.1 ∧ e.2.Rearranged f.2) es fs

theorem held_aligned (k : Value) {w u : Value} (h : w.Rearranged u) :
    Aligned (held k w) (held k u) := by
  cases h with
  | same v => exact List.forall₂_same.mpr fun e _ => ⟨rfl, .same _⟩
  | sequence form vs ws hlength h => exact .cons ⟨rfl, .sequence form vs ws hlength h⟩ .nil
  | mapping form es es' fs horder hlength hkeys h =>
    exact .cons ⟨rfl, .mapping form es es' fs horder hlength hkeys h⟩ .nil

theorem patch_aligned {es fs : Entries Value} (h : Aligned es fs) {c d : Checked}
    (hkey : c.key = d.key) (hresult : c.result.Rearranged d.result) :
    Aligned (patch es c) (patch fs d) := by
  induction h with
  | nil =>
    rw [patch_nil, patch_nil, hkey]
    exact held_aligned d.key hresult
  | @cons e f es fs hef hrest ih =>
    obtain ⟨k, v⟩ := e
    obtain ⟨k', v'⟩ := f
    obtain ⟨rfl, hv⟩ := hef
    rw [patch_cons, patch_cons, hkey]
    split
    · exact List.rel_append (held_aligned k hresult) hrest
    · exact .cons ⟨rfl, hv⟩ ih

theorem foldl_patch_aligned {es fs : Entries Value} (h : Aligned es fs) {cs ds : List Checked}
    (hcs : List.Forall₂ (fun c d => c.key = d.key ∧ c.result.Rearranged d.result) cs ds) :
    Aligned (cs.foldl patch es) (ds.foldl patch fs) := by
  induction hcs generalizing es fs with
  | nil => exact h
  | cons hcd _ ih => exact ih (patch_aligned h hcd.1 hcd.2)

end Entries

/-! ## Verdicts -/

theorem Value.Rearranged.isSole_eq {w u : Value} (h : w.Rearranged u) (v : Value) :
    v.isSole w = v.isSole u := by
  cases h with
  | same w => rfl
  | _ => cases v <;> rfl

namespace Verdict

/-- A verdict that ends the validation of a container. -/
inductive Fails : Verdict → Prop where
  | rejected (f : Failure) : Fails (.rejected f)
  | raised (fault : Fault) : Fails (.raised fault)

/-- Two verdicts hand over the same up to order, or both fail. -/
inductive Rearranged : Verdict → Verdict → Prop where
  | same (d : Verdict) : Rearranged d d
  | changed (w u : Value) (h : w.Rearranged u) : Rearranged (.changed w) (.changed u)
  | failed (d e : Verdict) (hd : d.Fails) (he : e.Fails) : Rearranged d e

namespace Fails

variable {d : Verdict} (h : d.Fails)

include h

theorem value?_eq_none (v : Value) : d.value? v = none := by
  cases h <;> rfl

theorem nested_eq : d.nested = d := by
  cases h <;> rfl

theorem settled_eq (v : Value) : d.settled v = d := by
  cases h <;> rfl

end Fails

namespace Rearranged

variable {d e : Verdict}

theorem nested (h : d.Rearranged e) : d.nested.Rearranged e.nested := by
  cases h with
  | same d => exact .same _
  | changed w u h => exact .changed w u h
  | failed d e hd he =>
    rw [hd.nested_eq, he.nested_eq]
    exact .failed d e hd he

theorem settled (h : d.Rearranged e) (v : Value) : (d.settled v).Rearranged (e.settled v) := by
  cases h with
  | same d => exact .same _
  | changed w u h =>
    rw [Verdict.settled, Verdict.settled, h.isSole_eq]
    split
    · exact .same _
    · exact .changed w u h
  | failed d e hd he =>
    rw [hd.settled_eq, he.settled_eq]
    exact .failed d e hd he

/-- Either both hand something over or neither does. -/
theorem value?_rel (h : d.Rearranged e) (v : Value) :
    Option.Rel Value.Rearranged (d.value? v) (e.value? v) := by
  cases h with
  | same d =>
    cases d.value? v with
    | none => exact .none
    | some w => exact .some (.same w)
  | changed w u h => exact .some h
  | failed d e hd he =>
    rw [hd.value?_eq_none, he.value?_eq_none]
    exact .none

end Rearranged

end Verdict

/-! ## Containers -/

namespace Checked

/-- The same member under two schemas that fare alike. -/
structure Rearranged (c d : Checked) : Prop where
  key : c.key = d.key
  raw : c.raw = d.raw
  verdict : c.verdict.Rearranged d.verdict

namespace Rearranged

variable {c d : Checked}

theorem counted (h : c.Rearranged d) : c.counted.Rearranged d.counted := by
  unfold Checked.counted
  rw [h.raw]
  exact h.verdict.nested.settled d.raw

theorem stop?_iff (h : c.Rearranged d) : c.stop? = none ↔ d.stop? = none := by
  have hcounted := h.counted
  unfold stop?
  generalize c.counted = a, d.counted = b at hcounted
  cases hcounted with
  | same a => cases a <;> simp
  | changed w u _ => simp
  | failed a b ha hb => cases ha <;> cases hb <;> simp

theorem isKept_eq (h : c.Rearranged d) : c.isKept = d.isKept := by
  have hcounted := h.counted
  unfold isKept
  generalize c.counted = a, d.counted = b at hcounted
  cases hcounted with
  | same a => rfl
  | changed w u _ => rfl
  | failed a b ha hb => cases ha <;> cases hb <;> rfl

theorem result (h : c.Rearranged d) : c.result.Rearranged d.result := by
  have hvalue := h.counted.value?_rel d.raw
  unfold Checked.result
  rw [h.raw]
  generalize c.counted.value? d.raw = a, d.counted.value? d.raw = b at hvalue
  cases hvalue with
  | none => exact .same d.raw
  | some h => exact h

end Rearranged

/-- Two containers fare alike if the same holds of all their members, and are put together alike. -/
theorem container_rearranged {cs ds : List Checked}
    (hstop : (∀ c ∈ cs, c.stop? = none) ↔ ∀ d ∈ ds, d.stop? = none)
    (hkept : cs.all isKept = ds.all isKept) {w u : Value} (h : w.Rearranged u) :
    (container cs w).Rearranged (container ds u) := by
  have hfails : ∀ {cs d}, firstStop? cs = some d → d.Fails := by
    intro cs d hd
    rcases firstStop?_eq_some hd with ⟨f, rfl⟩ | ⟨fault, rfl⟩
    · exact .rejected f
    · exact .raised fault
  rw [← firstStop?_eq_none_iff, ← firstStop?_eq_none_iff] at hstop
  unfold container
  rw [hkept]
  cases hcs : firstStop? cs with
  | none =>
    rw [hstop.mp hcs, Option.getD_none, Option.getD_none]
    split
    · exact .same _
    · exact .changed w u h
  | some d =>
    cases hds : firstStop? ds with
    | none => simp [hcs, hds] at hstop
    | some e => exact .failed d e (hfails hcs) (hfails hds)

theorem forall_stop?_iff {cs ds : List Checked} (h : List.Forall₂ Rearranged cs ds) :
    (∀ c ∈ cs, c.stop? = none) ↔ ∀ d ∈ ds, d.stop? = none := by
  induction h with
  | nil => simp
  | cons hcd _ ih => rw [List.forall_mem_cons, List.forall_mem_cons, hcd.stop?_iff, ih]

theorem all_isKept_eq {cs ds : List Checked} (h : List.Forall₂ Rearranged cs ds) :
    cs.all isKept = ds.all isKept := by
  induction h with
  | nil => rfl
  | cons hcd _ ih => rw [List.all_cons, List.all_cons, hcd.isKept_eq, ih]

end Checked

open Checked

theorem indexed_rearranged {ms ns : List (Value × Verdict)}
    (h : List.Forall₂ (fun m n => m.1 = n.1 ∧ m.2.Rearranged n.2) ms ns) (n : Nat) :
    List.Forall₂ Checked.Rearranged (indexed n ms) (indexed n ns) := by
  induction h generalizing n with
  | nil => exact .nil
  | cons hm _ ih => exact .cons ⟨rfl, hm.1, hm.2⟩ (ih (n + 1))

theorem sequenceVerdict_rearranged (form : SequenceForm) {ms ns : List (Value × Verdict)}
    (h : List.Forall₂ (fun m n => m.1 = n.1 ∧ m.2.Rearranged n.2) ms ns) :
    (sequenceVerdict form (indexed 0 ms)).Rearranged (sequenceVerdict form (indexed 0 ns)) := by
  have hmembers := indexed_rearranged h 0
  have hresults : List.Forall₂ Value.Rearranged ((indexed 0 ms).map Checked.result)
      ((indexed 0 ns).map Checked.result) := by
    rw [List.forall₂_map_left_iff, List.forall₂_map_right_iff]
    exact hmembers.imp fun c d hcd => hcd.result
  obtain ⟨hlength, hzip⟩ := List.forall₂_iff_zip.mp hresults
  rw [sequenceVerdict_eq, sequenceVerdict_eq]
  exact container_rearranged (forall_stop?_iff hmembers) (all_isKept_eq hmembers)
    (.sequence form _ _ hlength fun m hm => hzip hm)

/-- The fields of a mapping in another order, each of which fares alike. -/
theorem mappingVerdict_rearranged {es : Entries Value} (hes : Entries.Distinct es)
    {cs cs' ds : List Checked} (horder : cs.Perm cs')
    (hkeys : cs.Pairwise fun a b => ¬ a.key.sameKey b.key)
    (h : List.Forall₂ Checked.Rearranged cs' ds) :
    (mappingVerdict es cs).Rearranged (mappingVerdict es ds) := by
  have hstop : (∀ c ∈ cs, c.stop? = none) ↔ ∀ d ∈ ds, d.stop? = none := by
    rw [← forall_stop?_iff h]
    exact forall_congr' fun c => by rw [horder.mem_iff]
  have hchanged : List.Forall₂ Checked.Rearranged (cs'.filter (!·.isKept))
      (ds.filter (!·.isKept)) := by
    refine List.rel_filter ?_ h
    intro c d hcd
    simp only [hcd.isKept_eq]
  have haligned : Entries.Aligned ((cs'.filter (!·.isKept)).foldl Entries.patch es)
      ((ds.filter (!·.isKept)).foldl Entries.patch es) := by
    refine Entries.foldl_patch_aligned (List.forall₂_same.mpr fun e _ => ⟨rfl, .same _⟩) ?_
    exact hchanged.imp fun c d hcd => ⟨hcd.key, hcd.result⟩
  -- the changed fields are put in in the other order first, and then replaced one by one
  have hperm := Entries.foldl_patch_perm (horder.filter (!·.isKept)) (hkeys.filter _) hes
  obtain ⟨hlength, hzip⟩ := List.forall₂_iff_zip.mp haligned
  rw [mappingVerdict_eq, mappingVerdict_eq]
  refine container_rearranged hstop (horder.all_eq.trans (all_isKept_eq h)) ?_
  exact .mapping .dict _ _ _ hperm hlength (fun m hm => (hzip hm).1) fun m hm => (hzip hm).2

/-! ## Schemas -/

namespace Schema

section

variable [RegexEngine]

theorem validateItems_rearranged {ss ts : List Schema}
    (h : List.Forall₂ (fun s t => ∀ v, v.Distinct → (s.validate v).Rearranged (t.validate v)) ss ts)
    {vs : List Value} (hvs : ∀ v ∈ vs, v.Distinct) :
    List.Forall₂ (fun m n => m.1 = n.1 ∧ m.2.Rearranged n.2) (validateItems ss vs)
      (validateItems ts vs) := by
  induction h generalizing vs with
  | nil => exact .nil
  | cons hst _ ih =>
    cases vs with
    | nil => exact .nil
    | cons v vs =>
      obtain ⟨hv, hrest⟩ := List.forall_mem_cons.mp hvs
      exact .cons ⟨rfl, hst v hv⟩ (ih hrest)

/-- By induction on how the schemas are rearranged. -/
theorem Rearranged.verdict {s t : Schema} (h : s.Rearranged t) (hkeys : s.Everywhere KeysDistinct)
    {v : Value} (hv : v.Distinct) : (s.validate v).Rearranged (t.validate v) := by
  induction h generalizing v with
  | same s => exact .same _
  | array s t _ ih =>
    cases v with
    | sequence form vs =>
      rw [Value.distinct_sequence] at hv
      rw [validate_array, validate_array]
      apply sequenceVerdict_rearranged
      rw [List.forall₂_map_left_iff, List.forall₂_map_right_iff, List.forall₂_same]
      exact fun u hu => ⟨rfl, ih hkeys.2 (hv u hu)⟩
    | _ => exact .same _
  | tuple ss ts hlength _ ih =>
    cases v with
    | sequence form vs =>
      rw [Value.distinct_sequence] at hv
      rw [everywhere_tuple] at hkeys
      simp only [validate_tuple, ← hlength]
      split
      · refine sequenceVerdict_rearranged form (validateItems_rearranged ?_ hv)
        refine List.forall₂_iff_zip.mpr ⟨hlength, ?_⟩
        intro s t hst u hu
        exact ih _ hst (hkeys.2 s (List.of_mem_zip hst).1) hu
      · exact .same _
    | _ => exact .same _
  | object fs fs' gs horder hlength hnames _ ih =>
    cases v with
    | mapping form es =>
      rw [Value.distinct_mapping] at hv
      rw [everywhere_object] at hkeys
      simp only [validate_object, validateFields_eq_map]
      refine mappingVerdict_rearranged hv.1 (horder.map _) (List.pairwise_map.mpr hkeys.1.1) ?_
      rw [List.forall₂_map_left_iff, List.forall₂_map_right_iff, List.forall₂_iff_zip]
      refine ⟨hlength, ?_⟩
      intro f g hfg
      have hname : f.1 = g.1 := hnames _ hfg
      have hf : f ∈ fs := horder.mem_iff.mpr (List.of_mem_zip hfg).1
      have hverdict := ih _ hfg (hkeys.2 f hf) (Value.distinct_valueOf hv.2 f.1)
      refine ⟨hname, congrArg (Entries.valueOf · es) hname, ?_⟩
      simp only [checked, ← hname]
      exact hverdict
    | _ => exact .same _

/-- Schemas with the same fields in different orders accept the same values, and hand back the same
up to the order of entries. -/
theorem validate_rearranged {s t : Schema} {v : Value} (h : s.Rearranged t)
    (hkeys : s.Everywhere KeysDistinct) (hv : v.Distinct) :
    (s.Admits v ↔ t.Admits v) ∧ ∀ w u, s.Accepts v w → t.Accepts v u → w.Rearranged u := by
  have hvalue := (h.verdict hkeys hv).value?_rel v
  unfold Admits Accepts
  generalize (s.validate v).value? v = a, (t.validate v).value? v = b at hvalue
  cases hvalue with
  | none => simp
  | @some w u h =>
    refine ⟨iff_of_true ⟨w, rfl⟩ ⟨u, rfl⟩, ?_⟩
    rintro _ _ ⟨⟩ ⟨⟩
    exact h

end

/-- Of a member of an array one field is dropped, one is read, and inside a third one two are filled
in, which then stand there in the order of the fields. -/
theorem validate_rearranged_fields :
    let zeros (k k' : String) := Value.dict [(.text k, .int 0), (.text k', .int 0)]
    let filled (k k' : String) := object [(.text k, .custom .fill), (.text k', .custom .fill)]
    let s := array (object
      [(.text "a", .custom .drop), (.text "p", .model .listOfInt), (.text "o", filled "x" "y")])
    let t := array (object
      [(.text "o", filled "y" "x"), (.text "p", .model .listOfInt), (.text "a", .custom .drop)])
    let v := Value.list [.dict [(.text "o", .dict []), (.text "a", .int 1),
      (.text "p", .tuple [.bool true])]]
    let w := Value.list [.dict [(.text "o", zeros "x" "y"), (.text "p", .list [.int 1])]]
    let u := Value.list [.dict [(.text "o", zeros "y" "x"), (.text "p", .list [.int 1])]]
    s.Accepts v w ∧ t.Accepts v u ∧ w.Rearranged u := by
  intro zeros filled s t v w u
  have hfilled : (filled "x" "y").Rearranged (filled "y" "x") := by
    refine .object _ _ _ (.swap _ _ _) rfl ?_ ?_
    · simp
    · simpa using .same _
  have hst : s.Rearranged t := by
    refine .array _ _ (.object _ _ _ (List.reverse_perm _).symm rfl ?_ ?_)
    · simp
    · simpa using ⟨hfilled, .same _, .same _⟩
  have hkeys : s.Everywhere KeysDistinct := by
    simp only [s, filled, Everywhere, EverywhereFields, KeysDistinct, Entries.Distinct]
    decide
  have hv : v.Distinct := by
    simp [v, Value.dict, Value.Distinct, Value.AllDistinct, Value.EntriesDistinct,
      Entries.Distinct, Value.sameKey, Value.key?]
  have hw : s.Accepts v w := by rfl
  have hu : t.Accepts v u := by rfl
  exact ⟨hw, hu, (validate_rearranged hst hkeys hv).2 w u hw hu⟩

end Schema

end ShapeMatch
