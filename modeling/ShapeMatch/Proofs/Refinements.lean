import ShapeMatch.Proofs.FixedLength
import ShapeMatch.Proofs.Narrowing
import ShapeMatch.Regex.Engine

/-!
Refinements. A schema narrowed by predicates one after the other accepts what the schema accepts and
all of them hold of, and makes the same of it; otherwise the schema itself or the first predicate
that does not hold decides. To narrow the schemas inside a container is to narrow the container by
what it hands back: all members of an array, the member at one position of a tuple, what is held
under one key of an object (`validate_refinements`).
-/

namespace ShapeMatch

/-- The predicate always says yes or no. -/
def Function.Answers (p : Function) : Prop := ∀ v, ∃ b, p.holds v = .ok b

/-- The members of a sequence. -/
def Value.elements : Value → List Value
  | .sequence _ vs => vs
  | _ => []

/-- Predicates that answer all hold, or there is a first one that does not. -/
theorem all_or_first_refused {ps : List Function} (hps : ∀ p ∈ ps, p.Answers) (w : Value) :
    (∀ p ∈ ps, p.holds w = .ok true) ∨ ∃ before p after, ps = before ++ p :: after ∧
      (∀ q ∈ before, q.holds w = .ok true) ∧ p.holds w = .ok false := by
  rcases all_or_first (fun p => p.holds w = .ok true) ps with
    hall | ⟨before, p, after, rfl, hbefore, hp⟩
  · exact .inl hall
  · obtain ⟨b, hb⟩ := hps p (by simp) w
    cases b with
    | true => exact absurd hb hp
    | false => exact .inr ⟨before, p, after, rfl, hbefore, hb⟩

theorem Value.step_sequence {form : SequenceForm} {vs : List Value} {i : Nat}
    (hi : i < vs.length) :
    (Value.sequence form vs).step (.int i) = vs[i] := by
  simp [Value.step, hi]

namespace Schema

section

variable [RegexEngine]

/-- A schema narrowed by predicates, one after the other. -/
def refineAll (s : Schema) (ps : List Function) : Schema := ps.foldl refine s

/-- The schema accepts or rejects the value. -/
def Conclusive (s : Schema) (v : Value) : Prop := s.Admits v ∨ ∃ f, s.validate v = .rejected f

/-- Of what `s` accepts, `t` accepts what meets a condition on the value and on what `s` makes of
it, and then it comes to the verdict of `s`. -/
structure Narrows (t s : Schema) (P : Value → Value → Prop) : Prop where
  accepts_iff : ∀ v w, t.Accepts v w ↔ s.Accepts v w ∧ P v w
  same : ∀ v, t.Admits v → t.validate v = s.validate v

variable {s t r : Schema} {p : Function} {v w u : Value} {P Q : Value → Value → Prop}

theorem Narrows.trans (h : t.Narrows s P) (h' : s.Narrows r Q) :
    t.Narrows r fun v w => Q v w ∧ P v w where
  accepts_iff := by
    intro v w
    rw [h.accepts_iff, h'.accepts_iff, and_assoc]
  same := by
    rintro v ⟨w, hw⟩
    have hs : s.Admits v := ⟨w, ((h.accepts_iff v w).mp hw).1⟩
    exact (h.same v ⟨w, hw⟩).trans (h'.same v hs)

/-- Only of what `s` accepts does the condition matter. -/
theorem Narrows.congr (h : t.Narrows s P) (hiff : ∀ v w, s.Accepts v w → (P v w ↔ Q v w)) :
    t.Narrows s Q where
  accepts_iff := by
    intro v w
    rw [h.accepts_iff]
    exact and_congr_right (hiff v w)
  same := h.same

/-! ## Chains of predicates -/

theorem validate_refined_of_letsPass (h : (s.refined p).LetsPass v) :
    (s.refined p).validate v = s.validate v := by
  obtain ⟨w, hw⟩ := h
  exact (Verdict.refine_eq_self hw).1

theorem narrows_refined (s : Schema) (p : Function) :
    (s.refined p).Narrows s fun _ w => p.holds w = .ok true where
  accepts_iff := accepts_refined s p
  same := fun _ h => validate_refined_of_letsPass h.letsPass

theorem narrows_refineAll (s : Schema) (ps : List Function) :
    (s.refineAll ps).Narrows s fun _ w => ∀ p ∈ ps, p.holds w = .ok true := by
  induction ps generalizing s with
  | nil => exact ⟨fun v w => by simp [refineAll], fun _ _ => rfl⟩
  | cons p rest ih =>
    simp only [List.forall_mem_cons]
    exact (ih (s.refined p)).trans (narrows_refined s p)

/-- A verdict that hands nothing over stays what it is. -/
theorem validate_refineAll_of_stopped (hnone : (s.validate v).nested.value? v = none)
    (hastray : ∀ a, s.validate v ≠ .astray a) (ps : List Function) :
    (s.refineAll ps).validate v = s.validate v := by
  induction ps generalizing s with
  | nil => rfl
  | cons p rest ih =>
    have hfirst : (s.refined p).validate v = s.validate v := by
      rw [validate_refined, Verdict.refine_of_none hnone, Verdict.nested_eq_self hastray]
    have hrest : ((s.refined p).refineAll rest).validate v = (s.refined p).validate v := by
      apply ih
      · rw [hfirst, hnone]
      · rw [hfirst]
        exact hastray
    exact hrest.trans hfirst

theorem validate_refineAll_of_rejected {f : Failure} (h : s.validate v = .rejected f)
    (ps : List Function) : (s.refineAll ps).validate v = .rejected f := by
  rw [validate_refineAll_of_stopped (by rw [h]; rfl) (by simp [h]), h]

/-- The first predicate that does not hold decides, whatever comes after it. -/
theorem validate_refineAll_of_refused (h : s.Accepts v w) {before : List Function}
    (hbefore : ∀ q ∈ before, q.holds w = .ok true) (hp : p.holds w = .ok false)
    (after : List Function) :
    (s.refineAll (before ++ p :: after)).validate v = .reject (.refused p.name v) := by
  have hsplit : s.refineAll (before ++ p :: after) =
      ((s.refineAll before).refined p).refineAll after := by
    rw [refineAll, List.foldl_append]
    rfl
  have haccepts : (s.refineAll before).Accepts v w :=
    ((narrows_refineAll s before).accepts_iff v w).mpr ⟨h, hbefore⟩
  have hrefused : ((s.refineAll before).refined p).validate v = .reject (.refused p.name v) :=
    Verdict.refine_of_refused haccepts.passes hp
  rw [hsplit, validate_refineAll_of_stopped, hrefused]
  · rw [hrefused, Verdict.value?_nested_reject]
  · rw [hrefused]
    exact Verdict.reject_ne_astray _

/-! ## Arrays -/

theorem forall₂_passes_refined (vs ws : List Value) :
    List.Forall₂ (s.refined p).Passes vs ws ↔
      List.Forall₂ s.Passes vs ws ∧ ∀ u ∈ ws, p.holds u = .ok true := by
  induction vs generalizing ws with
  | nil => cases ws <;> simp
  | cons v rest ih =>
    cases ws with
    | nil => simp
    | cons w ws =>
      rw [List.forall₂_cons, List.forall₂_cons, List.forall_mem_cons, passes_refined, ih]
      exact and_and_and_comm

theorem narrows_array (s : Schema) (p : Function) :
    (array (s.refined p)).Narrows (array s) fun _ w =>
      ∀ u ∈ w.elements, p.holds u = .ok true where
  accepts_iff := by
    intro v w
    simp only [accepts_array, forall₂_passes_refined]
    constructor
    · rintro ⟨form, vs, ws, rfl, rfl, hmembers, hall⟩
      exact ⟨⟨form, vs, ws, rfl, rfl, hmembers⟩, hall⟩
    · rintro ⟨⟨form, vs, ws, rfl, rfl, hmembers⟩, hall⟩
      exact ⟨form, vs, ws, rfl, rfl, hmembers, hall⟩
  same := by
    intro v h
    obtain ⟨form, vs, rfl, hmembers⟩ := (admits_array _ v).mp h
    have hsame : (vs.map fun u => (u, (s.refined p).validate u)) =
        vs.map fun u => (u, s.validate u) := by
      apply List.map_congr_left
      intro u hu
      rw [validate_refined_of_letsPass (hmembers u hu)]
    simp only [validate_array, hsame]

/-! ## One part of a container -/

/-- A container asks the schema of one part about that part. Where it accepts, the schema lets the
part pass, and otherwise only the verdict on the part matters to it. -/
structure PartOf (c : Schema → Schema) (part : Value → Value) : Prop where
  passes : ∀ s v, (c s).Admits v → s.LetsPass (part v)
  same : ∀ s t v, s.validate (part v) = t.validate (part v) → (c s).validate v = (c t).validate v

/-- To narrow the schema of a part is to narrow the container by what the part passes as. -/
theorem PartOf.narrows {c : Schema → Schema} {part : Value → Value} (hc : PartOf c part)
    (s : Schema) (p : Function) :
    (c (s.refined p)).Narrows (c s) fun v _ =>
      ∃ u, s.Passes (part v) u ∧ p.holds u = .ok true := by
  have hsame : ∀ v, (s.refined p).LetsPass (part v) →
      (c (s.refined p)).validate v = (c s).validate v :=
    fun v h => hc.same _ _ v (validate_refined_of_letsPass h)
  have hpart : ∀ v, (s.refined p).LetsPass (part v) ↔
      ∃ u, s.Passes (part v) u ∧ p.holds u = .ok true :=
    fun v => exists_congr fun u => passes_refined s p (part v) u
  constructor
  · intro v w
    simp only [← hpart]
    constructor
    · intro h
      have hpass := hc.passes _ v ⟨w, h⟩
      exact ⟨by rw [Accepts, ← hsame v hpass]; exact h, hpass⟩
    · rintro ⟨h, hpass⟩
      rw [Accepts, hsame v hpass]
      exact h
  · intro v h
    exact hsame v (hc.passes _ v h)

/-- The same by what the container hands back, if that holds there what the part passes as. -/
theorem narrows_part_iff (h : s.Passes v u) :
    (∃ u, s.Passes v u ∧ p.holds u = .ok true) ↔ p.holds u = .ok true := by
  constructor
  · rintro ⟨u', hu', hp⟩
    obtain rfl : u' = u := Option.some.inj (hu'.symm.trans h)
    exact hp
  · exact fun hp => ⟨u, h, hp⟩

/-! ## Tuples and objects -/

/-- What a tuple makes of the member at one position is there in what it hands back. -/
theorem passes_of_accepts_tuple {before after : List Schema}
    (h : (tuple (before ++ s :: after)).Accepts v w) :
    s.Passes (v.step (.int before.length)) (w.step (.int before.length)) := by
  obtain ⟨form, vs, ws, rfl, rfl, hvs, hws, hmembers⟩ := tuple_members h
  rw [List.length_append, List.length_cons] at hvs
  have hi : before.length < vs.length := by omega
  rw [Value.step_sequence hi, Value.step_sequence (by omega)]
  simpa using hmembers before.length hi

theorem validateItems_congr (before after : List Schema) {vs : List Value}
    (h : ∀ v, vs[before.length]? = some v → s.validate v = t.validate v) :
    validateItems (before ++ s :: after) vs = validateItems (before ++ t :: after) vs := by
  induction before generalizing vs with
  | nil =>
    cases vs with
    | nil => rfl
    | cons v rest => simp [h v rfl]
  | cons b before ih =>
    cases vs with
    | nil => rfl
    | cons v rest =>
      have hrest := @ih rest h
      simp [hrest]

theorem partOf_tuple (before after : List Schema) :
    PartOf (fun s => tuple (before ++ s :: after)) (·.step (.int before.length)) where
  passes := by
    rintro s v ⟨w, h⟩
    exact ⟨_, passes_of_accepts_tuple h⟩
  same := by
    intro s t v h
    cases v with
    | sequence form vs =>
      have hitems : validateItems (before ++ s :: after) vs =
          validateItems (before ++ t :: after) vs := by
        apply validateItems_congr
        intro u hu
        obtain ⟨hi, rfl⟩ := List.getElem?_eq_some_iff.mp hu
        have hmember : (Value.sequence form vs).step (.int before.length) = vs[before.length] :=
          Value.step_sequence hi
        rw [← hmember]
        exact h
      simp only [validate_tuple, hitems, List.length_append, List.length_cons]
    | _ => rfl

theorem narrows_tuple (before after : List Schema) (s : Schema) (p : Function) :
    (tuple (before ++ s.refined p :: after)).Narrows (tuple (before ++ s :: after)) fun _ w =>
      p.holds (w.step (.int before.length)) = .ok true :=
  ((partOf_tuple before after).narrows s p).congr fun _ _ h =>
    narrows_part_iff (passes_of_accepts_tuple h)

theorem partOf_object (before after : List (Value × Schema)) (key : Value) :
    PartOf (fun s => object (before ++ (key, s) :: after)) (·.step key) where
  passes := by
    intro s v h
    obtain ⟨form, es, rfl, hfields⟩ := (admits_object _ v).mp h
    exact hfields (key, s) (by simp)
  same := by
    intro s t v h
    cases v with
    | mapping form es =>
      have hfield : checked es (key, s) = checked es (key, t) := congrArg (Checked.mk key _) h
      simp only [validate_object, validateFields_eq_map, List.map_append, List.map_cons, hfield]
    | _ => rfl

/-- What an object makes of a field is held under its key in what it hands back, if keys can be told
apart and found again. -/
theorem passes_of_accepts_object {before after : List (Value × Schema)} {key : Value}
    (hkeys : (object (before ++ (key, s) :: after)).KeysDistinct) (hv : v.Distinct)
    (h : (object (before ++ (key, s) :: after)).Accepts v w) :
    s.Passes (v.step key) (w.step key) := by
  obtain ⟨form, es, rfl, _⟩ := (admits_object _ v).mp ⟨w, h⟩
  obtain ⟨form', rs, rfl, hnarrowing, _⟩ :=
    validate_narrowing hkeys ((Value.distinct_mapping form es).mp hv).1 h
  exact hnarrowing.listed (key, s) (by simp)

/-! ## Refinements -/

/-- A chain of predicates that answer accepts what the schema accepts and all of them hold of, and
comes to the verdict of the schema; otherwise, where the schema accepts or rejects, its failure
stands, or the first predicate that does not hold refuses the value, whatever comes after it, in
words if the value can be written. A predicate on the members of an array, at one position of a
tuple or on one field of an object narrows what the container accepts to that of which the
predicate holds, at this place of what is handed back; it changes nothing else. -/
theorem validate_refinements (s : Schema) {ps : List Function} (hps : ∀ p ∈ ps, p.Answers) :
    ((s.refineAll ps).Narrows s fun _ w => ∀ p ∈ ps, p.holds w = .ok true) ∧
      (∀ v, s.Conclusive v → ¬ (s.refineAll ps).Admits v →
        (∃ f, s.validate v = .rejected f ∧ (s.refineAll ps).validate v = .rejected f) ∨
          ∃ w before p after, s.Accepts v w ∧ ps = before ++ p :: after ∧
            (∀ q ∈ before, q.holds w = .ok true) ∧ p.holds w = .ok false ∧
            ∀ others, (s.refineAll (before ++ p :: others)).validate v =
              if v.isWritable then .rejected ⟨.refused p.name v, []⟩ else .raised .unwritable) ∧
      ∀ p, ((array (s.refined p)).Narrows (array s) fun _ w =>
          ∀ u ∈ w.elements, p.holds u = .ok true) ∧
        (∀ before after,
          (tuple (before ++ s.refined p :: after)).Narrows (tuple (before ++ s :: after)) fun _ w =>
            p.holds (w.step (.int before.length)) = .ok true) ∧
        ∀ before key after,
          ((object (before ++ (key, s.refined p) :: after)).Narrows
            (object (before ++ (key, s) :: after)) fun v _ =>
              ∃ u, s.Passes (v.step key) u ∧ p.holds u = .ok true) ∧
          ((object (before ++ (key, s) :: after)).KeysDistinct → ∀ v w, v.Distinct →
            ((object (before ++ (key, s.refined p) :: after)).Accepts v w ↔
              (object (before ++ (key, s) :: after)).Accepts v w ∧
                p.holds (w.step key) = .ok true)) := by
  have hchain := narrows_refineAll s ps
  refine ⟨hchain, ?_, fun p => ⟨narrows_array s p, ?_, ?_⟩⟩
  · intro v hs hnot
    rcases hs with ⟨w, hw⟩ | ⟨f, hf⟩
    · rcases all_or_first_refused hps w with hall | ⟨before, p, after, rfl, hbefore, hp⟩
      · exact absurd ⟨w, (hchain.accepts_iff v w).mpr ⟨hw, hall⟩⟩ hnot
      · exact .inr ⟨w, before, p, after, hw, rfl, hbefore, hp,
          validate_refineAll_of_refused hw hbefore hp⟩
    · exact .inl ⟨f, hf, validate_refineAll_of_rejected hf ps⟩
  · exact fun before after => narrows_tuple before after s p
  · intro before key after
    have hfield := (partOf_object before after key).narrows s p
    refine ⟨hfield, ?_⟩
    intro hkeys v w hv
    rw [hfield.accepts_iff v w]
    exact and_congr_right fun h => narrows_part_iff (passes_of_accepts_object hkeys hv h)

end

/-- A missing value is filled with zero, which is even but not positive, so that the second
predicate refuses it. The first one alone narrows a field, which it sees filled. -/
theorem validate_refinements_fill :
    let s := custom .fill
    let ps := [Function.isEven, .positive, .always]
    ¬ (s.refineAll ps).Admits .undefined ∧
      (∃ p ∈ ps, (s.refineAll ps).validate .undefined =
        .rejected ⟨.refused p.name .undefined, []⟩) ∧
      (object [(.text "n", s.refined .isEven)]).Accepts (.dict [])
        (.dict [(.text "n", .int 0)]) := by
  intro s ps
  have hs : s.Conclusive .undefined := .inl ⟨_, rfl⟩
  have hps : ∀ p ∈ ps, p.Answers := by
    simp only [ps, List.forall_mem_cons]
    exact ⟨fun _ => ⟨_, rfl⟩, fun _ => ⟨_, rfl⟩, fun _ => ⟨_, rfl⟩, by simp⟩
  obtain ⟨hchain, hrefused, hparts⟩ := validate_refinements s hps
  have hnot : ¬ (s.refineAll ps).Admits .undefined := by
    rintro ⟨w, hw⟩
    obtain ⟨hfill, hall⟩ := (hchain.accepts_iff _ w).mp hw
    cases hfill
    have hpositive := hall .positive (by simp [ps])
    have hzero : Function.positive.holds (.int 0) = .ok false := rfl
    rw [hzero] at hpositive
    cases hpositive
  refine ⟨hnot, ?_, ?_⟩
  · rcases hrefused .undefined hs hnot with
      ⟨f, hf, _⟩ | ⟨_, before, p, after, _, hsplit, _, _, hothers⟩
    · exact absurd hf nofun
    · refine ⟨p, by simp [hsplit], ?_⟩
      rw [hsplit]
      exact hothers after
  · obtain ⟨_, hfield⟩ := (hparts .isEven).2.2 [] (.text "n") []
    have hkeys : (object [(.text "n", s)]).KeysDistinct := by
      simp only [KeysDistinct, Entries.Distinct]
      decide
    have hempty : (Value.dict []).Distinct :=
      (Value.distinct_mapping .dict []).mpr (by simp [Entries.Distinct])
    exact (hfield hkeys _ _ hempty).mpr ⟨rfl, rfl⟩

/-- A point that cannot be written is not rejected by a predicate that never holds: there are no
words for it. -/
theorem validate_refinements_farPoint :
    let v := Value.farPoint
    let s := unknown.refineAll [.never]
    (∀ u, unknown.Conclusive u) ∧ Function.never.Answers ∧ unknown.Accepts v v ∧
      Function.never.holds v = .ok false ∧ s.validate v = .raised .unwritable ∧
      ¬ ∃ f, s.validate v = .rejected f := by
  intro v s
  have haccepts : ∀ u, unknown.Accepts u u := fun _ => rfl
  have hwordless : ∀ u : Value, u.isWritable = false → s.validate u = .raised .unwritable := by
    intro u hu
    have hbefore : ∀ q ∈ ([] : List Function), q.holds u = .ok true := by simp
    have hrefused : s.validate u = .reject (.refused Function.never.name u) :=
      validate_refineAll_of_refused (haccepts u) hbefore rfl []
    rw [hrefused, Verdict.reject, Reason.isWritable, hu]
    rfl
  have hraised := hwordless v Value.farPoint_isWritable
  refine ⟨fun u => .inl ⟨u, haccepts u⟩, fun _ => ⟨_, rfl⟩, haccepts v, rfl, hraised, ?_⟩
  rintro ⟨f, hf⟩
  rw [hraised] at hf
  cases hf

end Schema

end ShapeMatch
