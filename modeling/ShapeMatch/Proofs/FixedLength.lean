import ShapeMatch.Proofs.HandedBack
import ShapeMatch.Regex.Engine

/-!
Fixed length. A tuple of copies of one schema and the array of it come to the very same verdict on a
sequence of that length, and on a sequence of another length the tuple asks none of them. A tuple of
any schemas accepts a sequence exactly if at each position the array of the schema there accepts the
list of that one member, and makes the same of it (`validate_tuple_array`).
-/

namespace ShapeMatch

namespace Schema

section

variable [RegexEngine]

theorem validateItems_replicate (s : Schema) (vs : List Value) :
    validateItems (List.replicate vs.length s) vs = vs.map fun v => (v, s.validate v) := by
  induction vs with
  | nil => rfl
  | cons v rest ih =>
    rw [List.length_cons, List.replicate_succ, validateItems_cons_cons, ih, List.map_cons]

/-- Both run the same loop, whatever the schema does. -/
theorem validate_tuple_replicate (s : Schema) (form : SequenceForm) (vs : List Value) :
    (tuple (List.replicate vs.length s)).validate (.sequence form vs) =
      (array s).validate (.sequence form vs) := by
  simp only [validate_tuple, validate_array]
  rw [if_pos (by rw [List.length_replicate]), validateItems_replicate]

theorem validate_tuple_of_length_ne {ss : List Schema} {vs : List Value}
    (h : vs.length ≠ ss.length) (form : SequenceForm) :
    (tuple ss).validate (.sequence form vs) = .rejected ⟨.wrongLength ss.length vs.length, []⟩ := by
  simp only [validate_tuple]
  rw [if_neg h, Verdict.reject_wrongLength]

theorem checks_tuple_of_length_ne {ss : List Schema} {vs : List Value}
    (h : vs.length ≠ ss.length) (form : SequenceForm) :
    (tuple ss).checks (.sequence form vs) =
      [⟨[], .sequence "tuple" (.sequence form vs)⟩, ⟨[], .length ss.length vs⟩] := by
  rw [checks, if_neg h]

theorem HandsBack.letsPass {s : Schema} {v : Value} (h : s.HandsBack v) : s.LetsPass v := by
  refine ⟨v, ?_⟩
  rw [Passes, ← Verdict.value?_settled, h]
  rfl

/-! ## Position by position -/

section

variable {ss : List Schema} {vs : List Value} (hlength : vs.length = ss.length)
  (form : SequenceForm)

include hlength

theorem forall_mem_zip_iff (P : Schema → Value → Prop) :
    (∀ m ∈ ss.zip vs, P m.1 m.2) ↔ ∀ i (_ : i < vs.length), P ss[i] vs[i] := by
  rw [List.forall_mem_iff_getElem]
  simp only [List.getElem_zip, List.length_zip, ← hlength, Nat.min_self]

theorem admits_tuple_get :
    (tuple ss).Admits (.sequence form vs) ↔ ∀ i (_ : i < vs.length), ss[i].LetsPass vs[i] := by
  have hpairs := admits_tuple_pairs form (ss.zip vs)
  rw [List.map_fst_zip hlength.ge, List.map_snd_zip hlength.le] at hpairs
  rw [hpairs, forall_mem_zip_iff hlength LetsPass]

theorem accepts_tuple_get (w : Value) :
    (tuple ss).Accepts (.sequence form vs) w ↔ ∃ ws, w = .sequence form ws ∧
      ∃ _ : ws.length = vs.length, ∀ i (_ : i < vs.length), ss[i].Passes vs[i] ws[i] := by
  constructor
  · intro h
    obtain ⟨form', vs', ws, hv, hw, _, hws, hmembers⟩ := tuple_members h
    cases hv
    exact ⟨ws, hw, hws, hmembers⟩
  · rintro ⟨ws, rfl, hws, hmembers⟩
    refine (accepts_tuple ss _ _).mpr ⟨form, vs, ws, rfl, rfl, hlength, ?_⟩
    refine List.forall₂_iff_get.mpr ⟨by simp [hws, hlength], ?_⟩
    intro i hi _
    simp only [List.length_zip] at hi
    simpa using hmembers i (by omega)

theorem validate_tuple_eq_kept_iff :
    (tuple ss).validate (.sequence form vs) = .kept ↔
      ∀ i (_ : i < vs.length), ss[i].HandsBack vs[i] := by
  rw [← handsBack_iff_kept (tuple_ne_astray ss _)]
  by_cases hpass : ∀ i (_ : i < vs.length), ss[i].LetsPass vs[i]
  · have hpairs := handsBack_tuple form ((forall_mem_zip_iff hlength LetsPass).mpr hpass)
    rw [List.map_fst_zip hlength.ge, List.map_snd_zip hlength.le] at hpairs
    rw [hpairs, forall_mem_zip_iff hlength HandsBack]
  · -- some member does not pass, so neither that member nor the sequence is handed back
    refine iff_of_false (fun hback => hpass ?_) fun hback => hpass fun i hi => (hback i hi).letsPass
    exact (admits_tuple_get hlength form).mp (hback.letsPass.admits (tuple_ne_astray ss _))

end

/-! ## Arrays of one member -/

section

variable (s : Schema) (v : Value)

theorem admits_array_singleton : (array s).Admits (.list [v]) ↔ s.LetsPass v := by
  rw [admits_array]
  constructor
  · rintro ⟨form, vs, hv, h⟩
    cases hv
    exact h v (by simp)
  · intro h
    exact ⟨.list, [v], rfl, by simpa using h⟩

theorem accepts_array_singleton (w : Value) :
    (array s).Accepts (.list [v]) (.list [w]) ↔ s.Passes v w := by
  rw [accepts_array]
  constructor
  · rintro ⟨form, vs, ws, hv, hw, h⟩
    cases hv
    cases hw
    exact (List.forall₂_cons.mp h).1
  · intro h
    exact ⟨.list, [v], [w], rfl, rfl, .cons h .nil⟩

theorem validate_array_singleton_eq_kept_iff :
    (array s).validate (.list [v]) = .kept ↔ s.HandsBack v := by
  have hone : (tuple [s]).validate (.list [v]) = (array s).validate (.list [v]) :=
    validate_tuple_replicate s .list [v]
  have hlength : [v].length = [s].length := rfl
  rw [← hone, validate_tuple_eq_kept_iff hlength .list]
  simp

end

/-- On a sequence of the right length the tuple of copies of a schema does what the array of it
does. On a sequence of another length a tuple checks the length and nothing after it. Position by
position, a tuple accepts and makes what the arrays of its schemas accept and make of lists of one
member, and it hands the sequence back if they do. -/
theorem validate_tuple_array (form : SequenceForm) (vs : List Value) :
    (∀ s, (tuple (List.replicate vs.length s)).validate (.sequence form vs) =
        (array s).validate (.sequence form vs)) ∧
      (∀ ss, vs.length ≠ ss.length →
        (tuple ss).validate (.sequence form vs) =
            .rejected ⟨.wrongLength ss.length vs.length, []⟩ ∧
          (tuple ss).checks (.sequence form vs) =
            [⟨[], .sequence "tuple" (.sequence form vs)⟩, ⟨[], .length ss.length vs⟩]) ∧
      ∀ (ss : List Schema) (_ : vs.length = ss.length),
        ((tuple ss).Admits (.sequence form vs) ↔
            ∀ i (_ : i < vs.length), (array ss[i]).Admits (.list [vs[i]])) ∧
          (∀ w, (tuple ss).Accepts (.sequence form vs) w ↔
            ∃ ws, w = .sequence form ws ∧ ∃ _ : ws.length = vs.length,
              ∀ i (_ : i < vs.length), (array ss[i]).Accepts (.list [vs[i]]) (.list [ws[i]])) ∧
          ((tuple ss).validate (.sequence form vs) = .kept ↔
            ∀ i (_ : i < vs.length), (array ss[i]).validate (.list [vs[i]]) = .kept) := by
  refine ⟨fun s => validate_tuple_replicate s form vs, ?_, ?_⟩
  · intro ss h
    exact ⟨validate_tuple_of_length_ne h form, checks_tuple_of_length_ne h form⟩
  · intro ss hlength
    simp only [admits_array_singleton, accepts_array_singleton,
      validate_array_singleton_eq_kept_iff]
    exact ⟨admits_tuple_get hlength form, accepts_tuple_get hlength form,
      validate_tuple_eq_kept_iff hlength form⟩

end

/-- A pair of which the first member is filled in. The tuple of two copies does so as the array
does, the tuple of one copy does not look at it, and a tuple of two schemas accepts it as its arrays
do. -/
theorem validate_tuple_array_pair :
    let s := custom .fill
    let v := Value.tuple [.undefined, .int 2]
    (tuple [s, s]).validate v = (array s).validate v ∧
      (tuple [s]).validate v = .rejected ⟨.wrongLength 1 2, []⟩ ∧
      (tuple [s, .integer]).Accepts v (.tuple [.int 0, .int 2]) ∧
      (tuple [s, .integer]).validate v ≠ .kept := by
  intro s v
  obtain ⟨hcopies, hother, hget⟩ := validate_tuple_array .tuple [.undefined, .int 2]
  obtain ⟨_, haccepts, hkept⟩ := hget [s, .integer] rfl
  refine ⟨hcopies s, (hother [s] (by simp)).1, (haccepts _).mpr ⟨_, rfl, rfl, ?_⟩, ?_⟩
  · intro i hi
    match i, hi with
    | 0, _ => rfl
    | 1, _ => rfl
  · intro hall
    exact absurd (hkept.mp hall 0 (by simp)) nofun

end Schema

end ShapeMatch
