import ShapeMatch.Proofs.Paths
import ShapeMatch.Proofs.Plain
import ShapeMatch.Regex.Engine

/-!
Values of the same shape. Lists and tuples, dictionaries and views, the order of entries, and a
missing key and one that holds no value are not told apart by plain schemas: their verdicts on two
values of the same shape are alike (`validate_sameShape`), and so is where they reject them. Only
the words for a mismatch can tell such values apart, where one of them cannot be written.
-/

namespace ShapeMatch

/-- Two values have the same shape at every depth. -/
inductive Value.SameShape : Value → Value → Prop where
  | refl (v : Value) : SameShape v v
  | sequence (form form' : SequenceForm) (vs ws : List Value) (hlength : vs.length = ws.length)
      (h : ∀ m ∈ vs.zip ws, SameShape m.1 m.2) :
      SameShape (.sequence form vs) (.sequence form' ws)
  /-- under every key they hold values of the same shape, or none -/
  | mapping (form form' : MappingForm) (es fs : Entries Value)
      (h : ∀ k, SameShape (es.valueOf k) (fs.valueOf k)) :
      SameShape (.mapping form es) (.mapping form' fs)

/-- Whether a reason shows the value found. -/
def Reason.isLiteral : Reason → Bool
  | .otherLiteral .. => true
  | _ => false

/-- Two verdicts, on two values, are the same: both keep, both reject at the same place, or both
have no words. One of them may reject where the other has no words, as what is found there in its
value cannot be written. -/
inductive Alike (v w : Value) : Verdict → Verdict → Prop where
  | kept : Alike v w .kept .kept
  | rejected (f g : Failure) (hpath : f.path = g.path) : Alike v w (.rejected f) (.rejected g)
  | mute : Alike v w (.raised .unwritable) (.raised .unwritable)
  | muteLeft (g : Failure) (hliteral : g.reason.isLiteral)
      (hlong : ¬ (v.follow g.path).isWritable) : Alike v w (.raised .unwritable) (.rejected g)
  | muteRight (f : Failure) (hliteral : f.reason.isLiteral)
      (hlong : ¬ (w.follow f.path).isWritable) : Alike v w (.rejected f) (.raised .unwritable)

theorem Verdict.Decides.alike {M U : Prop} {d : Verdict} (h : d.Decides M U) (v : Value) :
    Alike v v d d := by
  cases h with
  | kept => exact .kept
  | rejected f => exact .rejected f f rfl
  | wordless => exact .mute

/-! ## Members of containers -/

namespace Checked

/-- Members of two containers, one by one: at the same place, and alike. -/
structure Corresponds (v w : Value) (c d : Checked) : Prop where
  key : c.key = d.key
  left : v.step c.key = c.raw
  right : w.step d.key = d.raw
  alike : Alike c.raw d.raw c.verdict d.verdict

/-- All members are kept in both containers, or the first stops are alike. -/
inductive AlikeMembers (v w : Value) (cs ds : List Checked) : Prop where
  | kept (hleft : ∀ c ∈ cs, c.counted = .kept) (hright : ∀ d ∈ ds, d.counted = .kept)
  | stopped (a b : Verdict) (hleft : firstStop? cs = some a) (hright : firstStop? ds = some b)
      (h : Alike v w a b)

variable {v w : Value}

theorem AlikeMembers.cons {c d : Checked} {cs ds : List Checked} (h : Corresponds v w c d)
    (hrest : AlikeMembers v w cs ds) : AlikeMembers v w (c :: cs) (d :: ds) := by
  obtain ⟨key, raw, verdict⟩ := c
  obtain ⟨key', raw', verdict'⟩ := d
  obtain ⟨hkey, hleft, hright, halike⟩ := h
  simp only at hkey hleft hright halike
  subst hkey
  cases halike with
  | kept =>
    cases hrest with
    | kept hcs hds =>
      exact .kept (List.forall_mem_cons.mpr ⟨rfl, hcs⟩) (List.forall_mem_cons.mpr ⟨rfl, hds⟩)
    | stopped a b hcs hds h => exact .stopped a b hcs hds h
  | rejected f g hpath =>
    refine .stopped _ _ rfl rfl (.rejected (f.under key) (g.under key) ?_)
    rw [Failure.under, Failure.under, hpath]
  | mute => exact .stopped _ _ rfl rfl .mute
  | muteLeft g hliteral hlong =>
    refine .stopped _ _ rfl rfl (.muteLeft (g.under key) hliteral ?_)
    rw [← hleft] at hlong
    exact hlong
  | muteRight f hliteral hlong =>
    refine .stopped _ _ rfl rfl (.muteRight (f.under key) hliteral ?_)
    rw [← hright] at hlong
    exact hlong

theorem AlikeMembers.of_forall₂ {cs ds : List Checked}
    (h : List.Forall₂ (Corresponds v w) cs ds) : AlikeMembers v w cs ds := by
  induction h with
  | nil => exact .kept (by simp) (by simp)
  | cons hc _ ih => exact ih.cons hc

theorem AlikeMembers.container {cs ds : List Checked} (h : AlikeMembers v w cs ds) {a b : Verdict}
    (ha : Settles cs a) (hb : Settles ds b) : Alike v w a b := by
  cases h with
  | kept hleft hright =>
    rw [ha.kept hleft, hb.kept hright]
    exact .kept
  | stopped c d hleft hright h =>
    rw [ha.stopped _ hleft, hb.stopped _ hright]
    exact h

end Checked

theorem length_indexed (n : Nat) (ms : List (Value × Verdict)) :
    (indexed n ms).length = ms.length := by
  induction ms generalizing n with
  | nil => rfl
  | cons m rest ih =>
    rw [indexed, List.length_cons, ih, List.length_cons]

theorem getElem_indexed (n : Nat) (ms : List (Value × Verdict)) (i : Nat) (hi : i < ms.length)
    (hi' : i < (indexed n ms).length) :
    (indexed n ms)[i] = ⟨.int ((n + i : Nat) : Int), ms[i].1, ms[i].2⟩ := by
  induction ms generalizing n i with
  | nil => simp at hi
  | cons m rest ih =>
    cases i with
    | zero => rfl
    | succ i =>
      simp only [indexed, List.getElem_cons_succ]
      rw [ih (n + 1) i (by simpa using hi) (by simpa [indexed] using hi')]
      simp [Nat.add_assoc, Nat.add_comm 1 i]

namespace Checked

/-- Members of sequences correspond if they are alike one by one. -/
theorem indexed_corresponds {ms ns : List (Value × Verdict)} {vs ws : List Value}
    (form form' : SequenceForm) (hvs : ms.map Prod.fst = vs) (hws : ns.map Prod.fst = ws)
    (h : List.Forall₂ (fun m n => Alike m.1 n.1 m.2 n.2) ms ns) :
    List.Forall₂ (Corresponds (.sequence form vs) (.sequence form' ws)) (indexed 0 ms)
      (indexed 0 ns) := by
  subst hvs hws
  rw [List.forall₂_iff_get]
  refine ⟨by rw [length_indexed, length_indexed, h.length_eq], ?_⟩
  intro i hi hi'
  rw [length_indexed] at hi hi'
  have halike := h.get hi hi'
  simp only [List.get_eq_getElem] at halike ⊢
  rw [getElem_indexed 0 ms i hi, getElem_indexed 0 ns i hi']
  refine ⟨rfl, ?_, ?_, halike⟩
  · simp [Value.step, hi]
  · simp [Value.step, hi']

end Checked

/-! ## Scalars -/

namespace Schema

open Checked Value

variable {v w : Value}

theorem is_congr (c : Scalar) (h : v.SameShape w) : c.Is v ↔ c.Is w := by
  cases h with
  | refl v => exact Iff.rfl
  | sequence form form' vs ws hlength h => cases c <;> simp [Scalar.Is, real?]
  | mapping form form' es fs h => cases c <;> simp [Scalar.Is, real?]

/-- Two rejections by one literal are alike: only whether the values can be written matters. -/
theorem reject_otherLiteral_alike (u v w : Value) :
    Alike v w (.reject (.otherLiteral u v)) (.reject (.otherLiteral u w)) := by
  have hwords : ∀ x : Value,
      (Reason.otherLiteral u x).isWritable = true ↔ u.isWritable ∧ x.isWritable := by
    simp [Reason.isWritable]
  unfold Verdict.reject
  by_cases hu : u.isWritable
  · by_cases hv : v.isWritable
    · rw [if_pos ((hwords v).mpr ⟨hu, hv⟩)]
      by_cases hw : w.isWritable
      · rw [if_pos ((hwords w).mpr ⟨hu, hw⟩)]
        exact .rejected _ _ rfl
      · rw [if_neg fun h => hw ((hwords w).mp h).2]
        exact .muteRight _ rfl hw
    · rw [if_neg fun h => hv ((hwords v).mp h).2]
      by_cases hw : w.isWritable
      · rw [if_pos ((hwords w).mpr ⟨hu, hw⟩)]
        exact .muteLeft _ rfl hv
      · rw [if_neg fun h => hw ((hwords w).mp h).2]
        exact .mute
  · rw [if_neg fun h => hu ((hwords v).mp h).1, if_neg fun h => hu ((hwords w).mp h).1]
    exact .mute

section

variable [RegexEngine]

theorem worded_alike {s : Schema} (hs : s.isWorded) (h : v.SameShape w) :
    Alike v w (s.validate v) (s.validate w) := by
  cases s with
  | unknown => exact .kept
  | undefined | null | string | number | integer | boolean | regex p =>
    cases h with
    | refl v => exact (worded_decides hs v).alike v
    | sequence form form' vs ws hlength h => exact .rejected _ _ rfl
    | mapping form form' es fs h => exact .rejected _ _ rfl
  | _ => simp [isWorded] at hs

theorem literal_alike (c : Scalar) (h : v.SameShape w) :
    Alike v w ((Schema.literal c.value).validate v) ((Schema.literal c.value).validate w) := by
  rw [validate_literal, validate_literal]
  rcases c.compareLiteral_value v with ⟨hv, heqv⟩ | ⟨hv, hnev⟩
  · rcases c.compareLiteral_value w with ⟨_, heqw⟩ | ⟨hw, _⟩
    · rw [heqv, heqw]
      exact .kept
    · exact absurd ((is_congr c h).mp hv) hw
  · rcases c.compareLiteral_value w with ⟨hw, _⟩ | ⟨_, hnew⟩
    · exact absurd ((is_congr c h).mpr hw) hv
    · rw [hnev, hnew]
      exact reject_otherLiteral_alike c.value v w

/-! ## Containers -/

theorem array_alike {s : Schema} (hs : s.Everywhere Plain)
    (ih : ∀ {v w}, SameShape v w → Alike v w (s.validate v) (s.validate w)) (h : v.SameShape w) :
    Alike v w ((Schema.array s).validate v) ((Schema.array s).validate w) := by
  cases h with
  | refl v => exact (decides_of_plain (s := .array s) ⟨trivial, hs⟩ v).alike v
  | sequence form form' vs ws hlength h =>
    have hmembers : List.Forall₂ (fun m n => Alike m.1 n.1 m.2 n.2)
        (vs.map fun u => (u, s.validate u)) (ws.map fun u => (u, s.validate u)) := by
      rw [List.forall₂_map_left_iff, List.forall₂_map_right_iff]
      exact List.forall₂_iff_zip.mpr ⟨hlength, fun hm => ih (h _ hm)⟩
    have hraw : ∀ us : List Value, (us.map fun u => (u, s.validate u)).map Prod.fst = us := by
      simp [Function.comp_def]
    have hall := indexed_corresponds form form' (hraw vs) (hraw ws) hmembers
    exact (AlikeMembers.of_forall₂ hall).container (settles_sequenceVerdict form _)
      (settles_sequenceVerdict form' _)
  | mapping form form' es fs h => exact .rejected _ _ rfl

theorem validateItems_alike {ss : List Schema}
    (ih : ∀ s ∈ ss, ∀ {v w}, SameShape v w → Alike v w (s.validate v) (s.validate w))
    {vs ws : List Value} (h : List.Forall₂ SameShape vs ws) :
    List.Forall₂ (fun m n => Alike m.1 n.1 m.2 n.2) (validateItems ss vs)
      (validateItems ss ws) := by
  induction ss generalizing vs ws with
  | nil => exact .nil
  | cons s rest ihrest =>
    obtain ⟨hs, hrest⟩ := List.forall_mem_cons.mp ih
    cases h with
    | nil => exact .nil
    | cons hvw h => exact .cons (hs hvw) (ihrest hrest h)

theorem tuple_alike {ss : List Schema} (hss : (Schema.tuple ss).Everywhere Plain)
    (ih : ∀ s ∈ ss, ∀ {v w}, SameShape v w → Alike v w (s.validate v) (s.validate w))
    (h : v.SameShape w) :
    Alike v w ((Schema.tuple ss).validate v) ((Schema.tuple ss).validate w) := by
  cases h with
  | refl v => exact (decides_of_plain hss v).alike v
  | sequence form form' vs ws hlength h =>
    simp only [validate_tuple, ← hlength]
    by_cases hlen : vs.length = ss.length
    · have hmembers := validateItems_alike ih (List.forall₂_iff_zip.mpr ⟨hlength, fun hm => h _ hm⟩)
      have hall := indexed_corresponds form form' (map_fst_validateItems hlen)
        (map_fst_validateItems (hlength ▸ hlen)) hmembers
      rw [if_pos hlen, if_pos hlen]
      exact (AlikeMembers.of_forall₂ hall).container (settles_sequenceVerdict form _)
        (settles_sequenceVerdict form' _)
    · rw [if_neg hlen, if_neg hlen]
      exact .rejected _ _ rfl
  | mapping form form' es fs h => exact .rejected _ _ rfl

theorem object_alike {fs : List (Value × Schema)} (hfs : (Schema.object fs).Everywhere Plain)
    (ih : ∀ f ∈ fs, ∀ {v w}, SameShape v w → Alike v w (f.2.validate v) (f.2.validate w))
    (h : v.SameShape w) :
    Alike v w ((Schema.object fs).validate v) ((Schema.object fs).validate w) := by
  cases h with
  | refl v => exact (decides_of_plain hfs v).alike v
  | sequence form form' vs ws hlength h => exact .rejected _ _ rfl
  | mapping form form' es es' h =>
    have hall : List.Forall₂ (Corresponds (.mapping form es) (.mapping form' es'))
        (fs.map (checked es)) (fs.map (checked es')) := by
      rw [List.forall₂_map_left_iff, List.forall₂_map_right_iff, List.forall₂_same]
      exact fun f hf => ⟨rfl, rfl, rfl, ih f hf (h f.1)⟩
    rw [validate_object, validate_object]
    simp only [validateFields_eq_map]
    exact (AlikeMembers.of_forall₂ hall).container (settles_mappingVerdict es _)
      (settles_mappingVerdict es' _)

/-- By induction on the schema: whatever a plain schema asks of a value it asks of its shape. -/
theorem alike_of_sameShape {s : Schema} (hs : s.Everywhere Plain) (h : v.SameShape w) :
    Alike v w (s.validate v) (s.validate w) := by
  induction s generalizing v w with
  | literal u =>
    obtain ⟨c, rfl⟩ := hs
    exact literal_alike c h
  | array s ih => exact array_alike hs.2 (ih hs.2) h
  | tuple ss ih =>
    obtain ⟨_, hparts⟩ := (everywhere_tuple _ ss).mp hs
    exact tuple_alike hs (fun s hmem => ih s hmem (hparts s hmem)) h
  | object fs ih =>
    obtain ⟨_, hparts⟩ := (everywhere_object _ fs).mp hs
    exact object_alike hs (fun f hmem => ih f hmem (hparts f hmem)) h
  | model m => exact hs.elim
  | refined s p ih => exact hs.1.elim
  | custom c => exact hs.elim
  | misplaced u => exact hs.elim
  | _ => exact worded_alike rfl h

/-- Matching depends on the shape of a value alone. The verdicts on two values of the same shape
are alike, and if everything can be written then both are kept or both are rejected at one path. -/
theorem validate_sameShape {s : Schema} (hs : s.Everywhere Plain) {v w : Value}
    (h : v.SameShape w) :
    Alike v w (s.validate v) (s.validate w) ∧
      (s.isWritable → v.isWritable → w.isWritable →
        (s.validate v = .kept ∧ s.validate w = .kept) ∨
          ∃ f g : Failure, s.validate v = .rejected f ∧ s.validate w = .rejected g ∧
            f.path = g.path) := by
  have halike := alike_of_sameShape hs h
  refine ⟨halike, ?_⟩
  intro hlabel hv hw
  have hwords : s.validate v ≠ .raised .unwritable := not_mute_of_writable hs hlabel hv
  generalize s.validate v = a at halike hwords
  generalize s.validate w = b at halike
  cases halike with
  | kept => exact .inl ⟨rfl, rfl⟩
  | rejected f g hpath => exact .inr ⟨f, g, rfl, rfl, hpath⟩
  | mute => exact absurd rfl hwords
  | muteLeft g hliteral hlong => exact absurd (isWritable_follow hv g.path) hlong
  | muteRight f hliteral hlong => exact absurd (isWritable_follow hw f.path) hlong

end

/-- A dictionary with a tuple and an entry that holds no value is like a view with a list. -/
theorem validate_sameShape_view :
    let s := object [(.text "x", .array .string)]
    let v := dict [(.text "x", .tuple [.text "a", .null]), (.text "y", .undefined)]
    let w := Value.mapping .view [(.text "x", .list [.text "a", .null])]
    Alike v w (s.validate v) (s.validate w) ∧
      ((s.validate v = .kept ∧ s.validate w = .kept) ∨
        ∃ f g : Failure, s.validate v = .rejected f ∧ s.validate w = .rejected g ∧
          f.path = g.path) := by
  intro s v w
  have hs : s.Everywhere Plain := by simp [s, Everywhere, EverywhereFields, Plain]
  have hx : (Value.tuple [.text "a", .null]).SameShape (.list [.text "a", .null]) := by
    refine .sequence _ _ _ _ rfl fun m hm => ?_
    obtain rfl | rfl : m = (.text "a", .text "a") ∨ m = (.null, .null) := by simpa using hm
    · exact .refl _
    · exact .refl _
  have hvw : v.SameShape w := by
    refine .mapping _ _ _ _ fun k => ?_
    unfold Entries.valueOf
    by_cases hk : k.sameKey (.text "x")
    · simpa only [Entries.get?, hk, if_true, Option.getD_some] using hx
    · by_cases hk' : k.sameKey (.text "y")
      · simpa only [Entries.get?, hk, hk'] using .refl _
      · simpa only [Entries.get?, hk, hk'] using .refl _
  have h := validate_sameShape hs hvw
  exact ⟨h.1, h.2 rfl rfl rfl⟩

/-- A list and a tuple of a point that cannot be written are not rejected as a text. Neither is a
dictionary with a key that cannot be written, although it is like an empty one, which is. -/
theorem validate_sameShape_unwritable :
    (list [farPoint]).SameShape (Value.tuple [farPoint]) ∧
      (literal (.text "x")).validate (list [farPoint]) = .raised .unwritable ∧
      (literal (.text "x")).validate (Value.tuple [farPoint]) = .raised .unwritable ∧
      (dict [(.int writtenBound, .undefined)]).SameShape (dict []) ∧
      (literal (.text "x")).validate (dict [(.int writtenBound, .undefined)]) =
        .raised .unwritable ∧
      (literal (.text "x")).validate (dict []) =
        .rejected ⟨.otherLiteral (.text "x") (dict []), []⟩ := by
  have hlist : (list [farPoint]).SameShape (Value.tuple [farPoint]) := by
    refine .sequence _ _ _ _ rfl fun m hm => ?_
    obtain rfl : m = (farPoint, farPoint) := by simpa using hm
    exact .refl _
  have hdict : (dict [(.int writtenBound, .undefined)]).SameShape (dict []) := by
    refine .mapping _ _ _ _ fun k => ?_
    unfold Entries.valueOf
    by_cases hk : k.sameKey (.int writtenBound)
    · simpa only [Entries.get?, hk] using .refl _
    · simpa only [Entries.get?, hk] using .refl _
  have hmembers : ∀ form, ¬ (Value.sequence form [farPoint]).isWritable := by
    simp [Value.isWritable, Value.allWritable, farPoint_isWritable]
  have hkey : ¬ (dict [(.int writtenBound, .undefined)]).isWritable := by
    simp only [farKey_isWritable, Bool.false_eq_true, not_false_eq_true]
  have hother : ∀ v, v ≠ .text "x" → ¬ v.isWritable →
      (literal (.text "x")).validate v = .raised .unwritable :=
    fun v => Shorthand.validate_text_of_unwritable
  refine ⟨hlist, hother _ ?_ (hmembers .list), hother _ ?_ (hmembers .tuple), hdict,
    hother _ ?_ hkey, rfl⟩
  all_goals simp only [ne_eq, reduceCtorEq, not_false_eq_true]

end Schema

end ShapeMatch
