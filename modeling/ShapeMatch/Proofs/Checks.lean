import ShapeMatch.Proofs.Culprits
import ShapeMatch.Proofs.Plain
import ShapeMatch.Regex.Engine

/-!
Checks. Validation is a sequence of single checks, in the order of a walk through the schema and the
value (`Schema.checks`). If all of them pass then the value is accepted, and otherwise the first one
that does not pass decides alone (`validate_firstFailing`): a rejection becomes the failure, with
the path to the check, and what a predicate raises is raised. What comes after it in the containers
around it does not matter (`SameUpTo.validate_eq`). A rejection has to be put into words, and
nothing is said here of those that cannot be.
-/

namespace ShapeMatch

/-- What a check comes to, before a rejection is put into words. -/
inductive Outcome where
  | passes
  | rejects (f : Failure)
  | raises (fault : Fault)

/-- What a verdict comes to inside another schema. -/
def Verdict.outcome (d : Verdict) : Outcome :=
  match d.nested with
  | .rejected f => .rejects f
  | .raised fault => .raises fault
  | _ => .passes

/-! ## What stops a validation -/

/-- How a verdict ends the validation that asked for it, unless it passes. -/
def Verdict.stop? (d : Verdict) : Option Verdict :=
  match d.nested with
  | .rejected f => some (.rejected f)
  | .raised fault => some (.raised fault)
  | _ => none

namespace Verdict

@[simp] theorem stop?_rejected (f : Failure) : stop? (.rejected f) = some (.rejected f) := rfl

@[simp] theorem stop?_raised (fault : Fault) : stop? (.raised fault) = some (.raised fault) := rfl

theorem nested_nested (d : Verdict) : d.nested.nested = d.nested :=
  nested_eq_self (nested_ne_astray d)

theorem stop?_nested (d : Verdict) : d.nested.stop? = d.stop? := by
  rw [stop?, nested_nested, stop?]

theorem stop?_eq_none_iff {d : Verdict} {v : Value} :
    d.stop? = none ↔ ∃ w, d.nested.value? v = some w := by
  unfold stop?
  cases hd : d.nested with
  | astray a => exact absurd hd (nested_ne_astray d a)
  | _ => simp [value?]

theorem stop?_eq_of_fails {d : Verdict} {v : Value} (h : d.nested.value? v = none) :
    d.stop? = some d.nested := by
  unfold stop?
  cases hd : d.nested with
  | astray a => exact absurd hd (nested_ne_astray d a)
  | kept => simp [hd, value?] at h
  | changed w => simp [hd, value?] at h
  | _ => rfl

theorem nested_eq_of_stop? {d e : Verdict} (h : d.stop? = some e) : d.nested = e := by
  unfold stop? at h
  split at h
  · rename_i f hd
    cases h
    exact hd
  · rename_i fault hd
    cases h
    exact hd
  · simp at h

theorem stop?_under (key : Value) (d : Verdict) :
    (d.under key).stop? = d.stop?.map (.under key) := by
  cases d with
  | astray a =>
    simp only [under, stop?, nested]
    cases a.held? <;> rfl
  | _ => rfl

theorem outcome_eq_passes_iff {d : Verdict} : d.outcome = .passes ↔ d.stop? = none := by
  unfold outcome stop?
  cases d.nested <;> simp

theorem outcome_eq_rejects_iff {d : Verdict} {f : Failure} :
    d.outcome = .rejects f ↔ d.stop? = some (.rejected f) := by
  unfold outcome stop?
  cases d.nested <;> simp

theorem outcome_eq_raises_iff {d : Verdict} {fault : Fault} :
    d.outcome = .raises fault ↔ d.stop? = some (.raised fault) := by
  unfold outcome stop?
  cases d.nested <;> simp

theorem stop?_reject (r : Reason) : (reject r).stop? = some (reject r) := by
  unfold reject
  split <;> rfl

theorem foldr_under_rejected (path : List Value) (f : Failure) :
    path.foldr under (.rejected f) = .rejected ⟨f.reason, path ++ f.path⟩ := by
  induction path with
  | nil => rfl
  | cons key path ih =>
    rw [List.foldr_cons, ih]
    rfl

theorem foldr_under_raised_iff {path : List Value} {d : Verdict} {fault : Fault} :
    path.foldr under d = .raised fault ↔ d = .raised fault := by
  induction path with
  | nil => exact Iff.rfl
  | cons key path ih =>
    rw [List.foldr_cons, ← ih]
    cases path.foldr under d <;> simp [under]

end Verdict

namespace Checked

theorem stop?_eq_map (c : Checked) : c.stop? = c.verdict.stop?.map (.under c.key) := by
  by_cases h : ∃ w, c.verdict.nested.value? c.raw = some w
  · rw [stop?_eq_none h, Verdict.stop?_eq_none_iff.mpr h, Option.map_none]
  · have hnone : c.verdict.nested.value? c.raw = none := by
      rw [Option.eq_none_iff_forall_ne_some]
      exact not_exists.mp h
    rw [stop?_eq_under hnone, Verdict.stop?_eq_of_fails hnone, Option.map_some]

theorem stop?_container (cs : List Checked) (w : Value) :
    (container cs w).stop? = firstStop? cs := by
  unfold container
  cases h : firstStop? cs with
  | none =>
    rw [Option.getD_none]
    split <;> rfl
  | some d =>
    rcases firstStop?_eq_some h with ⟨f, rfl⟩ | ⟨fault, rfl⟩
    · rfl
    · rfl

end Checked

namespace Model

/-- A model that hands nothing back rejects, and raises nothing else. -/
def OnlyRejects (m : Model) : Prop := ∀ v fault, m.check v ≠ .error (.raises fault)

/-- The models of data types only reject. -/
theorem onlyRejects_of_checkOf {m : Model} {t : DataType} (hm : m.check = checkOf t) :
    m.OnlyRejects := by
  intro v fault
  rw [hm, checkOf]
  cases t.read v <;> simp [Except.map, Except.mapError]

end Model

section

variable [RegexEngine]

/-! ## The checks of a value -/

/-- A single check that validation makes. -/
inductive Check where
  /-- whether a value is a sequence; the schema has its own name for these -/
  | sequence (expected : String) (v : Value)
  | mapping (v : Value)
  | length (wanted : Nat) (vs : List Value)
  /-- what a schema without schemas inside makes of a value -/
  | leaf (s : Schema) (v : Value)
  /-- a predicate, asked about what the base handed over for a value -/
  | predicate (p : Function) (v validated : Value)

namespace Check

/-- The verdict of a check, which needs the words for a rejection. -/
def verdict : Check → Verdict
  | .sequence expected v =>
    match v with
    | .sequence .. => .kept
    | _ => .reject (.mismatch expected v)
  | .mapping v =>
    match v with
    | .mapping .. => .kept
    | _ => .reject (.mismatch "mapping" v)
  | .length wanted vs =>
    if vs.length = wanted then .kept else .reject (.wrongLength wanted vs.length)
  | .leaf s v => (s.validate v).nested
  | .predicate p v validated =>
    match p.holds validated with
    | .ok true => .kept
    | .ok false => .reject (.refused p.name v)
    | .error fault => .raised fault

/-- The outcome of a check. Only the reasons of literals and predicates show values, and so may be
hard to put into words. -/
def outcome : Check → Outcome
  | .leaf (.literal wanted) v =>
    match wanted.compareLiteral v with
    | .equal => .passes
    | .different => .rejects ⟨.otherLiteral wanted v, []⟩
    | .invalid => .raises .invalidComparison
  | .predicate p v validated =>
    match p.holds validated with
    | .ok true => .passes
    | .ok false => .rejects ⟨.refused p.name v, []⟩
    | .error fault => .raises fault
  | c => c.verdict.outcome

end Check

/-- A check, with the keys and indexes that lead to where it is made. -/
structure Located where
  path : List Value
  check : Check

/-- The same check, seen from one level further up. -/
def Located.under (key : Value) (l : Located) : Located := { l with path := key :: l.path }

/-- The checks of the members of a sequence, from index `n` on. -/
def numbered (n : Nat) : List (List Located) → List Located
  | [] => []
  | ls :: rest => ls.map (.under (.int n)) ++ numbered (n + 1) rest

namespace Schema

mutual

/-- The checks of a value in order: its kind, its length, its members if there are as many as
wanted, or the fields listed, and a predicate after the base, if that hands something over. -/
def checks : Schema → Value → List Located
  | .array items, v =>
    ⟨[], .sequence "array" v⟩ ::
      match v with
      | .sequence _ vs => numbered 0 (vs.map fun member => items.checks member)
      | _ => []
  | .tuple items, v =>
    ⟨[], .sequence "tuple" v⟩ ::
      match v with
      | .sequence _ vs =>
        ⟨[], .length items.length vs⟩ ::
          if vs.length = items.length then numbered 0 (itemChecks items vs) else []
      | _ => []
  | .object fields, v =>
    ⟨[], .mapping v⟩ ::
      match v with
      | .mapping _ entries => fieldChecks fields entries
      | _ => []
  | .refined base p, v =>
    base.checks v ++
      match (base.validate v).nested.value? v with
      | some w => [⟨[], .predicate p v w⟩]
      | none => []
  | s, v => [⟨[], .leaf s v⟩]

def itemChecks : List Schema → List Value → List (List Located)
  | s :: ss, v :: vs => s.checks v :: itemChecks ss vs
  | _, _ => []

def fieldChecks : List (Value × Schema) → Entries Value → List Located
  | [], _ => []
  | (k, s) :: rest, entries =>
    (s.checks ((Entries.get? k entries).getD .undefined)).map (.under k) ++ fieldChecks rest entries

end

/-- The first of the checks that does not pass. -/
def FirstFailing (s : Schema) (v : Value) (l : Located) : Prop :=
  ∃ before after, s.checks v = before ++ l :: after ∧
    (∀ b ∈ before, b.check.outcome = .passes) ∧ l.check.outcome ≠ .passes

end Schema

namespace Located

/-- How a check ends the whole validation, unless it passes. -/
def stop? (l : Located) : Option Verdict :=
  l.check.verdict.stop?.map fun d => l.path.foldr Verdict.under d

theorem findSome?_map_under (key : Value) (ls : List Located) :
    (ls.map (.under key)).findSome? stop? = (ls.findSome? stop?).map (.under key) := by
  induction ls with
  | nil => rfl
  | cons l rest ih =>
    have hunder : (l.under key).stop? = l.stop?.map (.under key) := by
      simp only [stop?, under, List.foldr_cons, Option.map_map]
      rfl
    rw [List.map_cons, List.findSome?_cons, List.findSome?_cons, hunder, ih]
    cases l.stop? <;> rfl

theorem findSome?_numbered {ms : List (Value × Verdict)} {lss : List (List Located)}
    (h : List.Forall₂ (fun m ls => m.2.stop? = ls.findSome? stop?) ms lss) (n : Nat) :
    (numbered n lss).findSome? stop? = Checked.firstStop? (indexed n ms) := by
  induction h generalizing n with
  | nil => rfl
  | cons hm _ ih =>
    rw [numbered, List.findSome?_append, findSome?_map_under, ← hm, ih, indexed,
      Checked.firstStop?, Checked.stop?_eq_map]

end Located

namespace Schema

open Located

theorem findSome?_leaf (s : Schema) (v : Value) :
    [(⟨[], .leaf s v⟩ : Located)].findSome? stop? = (s.validate v).stop? := by
  have hstop : stop? ⟨[], .leaf s v⟩ = (s.validate v).stop? := by
    simp only [stop?, Check.verdict, Verdict.stop?_nested, List.foldr_nil, Option.map_id_fun', id]
  rw [List.findSome?_cons, hstop]
  cases (s.validate v).stop? <;> rfl

theorem findSome?_of_reject {r : Reason} {c : Check} (h : c.verdict = .reject r) :
    [(⟨[], c⟩ : Located)].findSome? stop? = (Verdict.reject r).stop? := by
  have hstop : stop? ⟨[], c⟩ = some (Verdict.reject r) := by
    rw [stop?, h, Verdict.stop?_reject]
    rfl
  rw [List.findSome?_cons, hstop, Verdict.stop?_reject]

theorem findSome?_of_kept {c : Check} (h : c.verdict = .kept) (rest : List Located) :
    (⟨[], c⟩ :: rest).findSome? stop? = rest.findSome? stop? := by
  have hstop : stop? ⟨[], c⟩ = none := by
    rw [stop?, h]
    rfl
  rw [List.findSome?_cons, hstop]

theorem stop?_array {s : Schema} (ih : ∀ v, (s.validate v).stop? = (s.checks v).findSome? stop?)
    (v : Value) :
    ((Schema.array s).validate v).stop? = ((Schema.array s).checks v).findSome? stop? := by
  cases v with
  | sequence form vs =>
    have hmembers : List.Forall₂ (fun (m : Value × Verdict) ls => m.2.stop? = ls.findSome? stop?)
        (vs.map fun u => (u, s.validate u)) (vs.map fun u => s.checks u) := by
      rw [List.forall₂_map_left_iff, List.forall₂_map_right_iff, List.forall₂_same]
      exact fun u _ => ih u
    rw [checks, findSome?_of_kept rfl, findSome?_numbered hmembers, validate_array]
    simp only [sequenceVerdict_eq, Checked.stop?_container]
  | _ => exact (findSome?_of_reject rfl).symm

theorem itemChecks_stop {ss : List Schema}
    (ih : ∀ s ∈ ss, ∀ v, (s.validate v).stop? = (s.checks v).findSome? stop?) (vs : List Value) :
    List.Forall₂ (fun m ls => m.2.stop? = ls.findSome? stop?) (validateItems ss vs)
      (itemChecks ss vs) := by
  induction ss generalizing vs with
  | nil => exact .nil
  | cons s rest ihrest =>
    obtain ⟨hs, hrest⟩ := List.forall_mem_cons.mp ih
    cases vs with
    | nil => exact .nil
    | cons v vs => exact .cons (hs v) (ihrest hrest vs)

theorem stop?_tuple {ss : List Schema}
    (ih : ∀ s ∈ ss, ∀ v, (s.validate v).stop? = (s.checks v).findSome? stop?) (v : Value) :
    ((Schema.tuple ss).validate v).stop? = ((Schema.tuple ss).checks v).findSome? stop? := by
  cases v with
  | sequence form vs =>
    rw [checks, findSome?_of_kept rfl]
    simp only [validate_tuple]
    by_cases hlen : vs.length = ss.length
    · have hlength : (Check.length ss.length vs).verdict = .kept := if_pos hlen
      rw [if_pos hlen, if_pos hlen, findSome?_of_kept hlength,
        findSome?_numbered (itemChecks_stop ih vs), sequenceVerdict_eq, Checked.stop?_container]
    · have hlength : (Check.length ss.length vs).verdict =
          .reject (.wrongLength ss.length vs.length) := if_neg hlen
      rw [if_neg hlen, if_neg hlen]
      exact (findSome?_of_reject hlength).symm
  | _ => exact (findSome?_of_reject rfl).symm

theorem fieldChecks_stop {fs : List (Value × Schema)}
    (ih : ∀ f ∈ fs, ∀ v, (f.2.validate v).stop? = (f.2.checks v).findSome? stop?)
    (es : Entries Value) :
    (fieldChecks fs es).findSome? stop? = Checked.firstStop? (validateFields fs es) := by
  induction fs with
  | nil => rfl
  | cons f rest ihrest =>
    obtain ⟨k, s⟩ := f
    obtain ⟨hs, hrest⟩ := List.forall_mem_cons.mp ih
    rw [fieldChecks, List.findSome?_append, findSome?_map_under, ← hs, ihrest hrest,
      validateFields_cons, Checked.firstStop?, Checked.stop?_eq_map]

theorem stop?_object {fs : List (Value × Schema)}
    (ih : ∀ f ∈ fs, ∀ v, (f.2.validate v).stop? = (f.2.checks v).findSome? stop?) (v : Value) :
    ((Schema.object fs).validate v).stop? = ((Schema.object fs).checks v).findSome? stop? := by
  cases v with
  | mapping form es =>
    rw [checks, findSome?_of_kept rfl, fieldChecks_stop ih, validate_object]
    simp only [mappingVerdict_eq, Checked.stop?_container]
  | _ => exact (findSome?_of_reject rfl).symm

theorem stop?_refined {s : Schema} {p : Function}
    (ih : ∀ v, (s.validate v).stop? = (s.checks v).findSome? stop?) (v : Value) :
    ((s.refined p).validate v).stop? = ((s.refined p).checks v).findSome? stop? := by
  rw [checks, List.findSome?_append, ← ih, validate_refined]
  cases hbase : (s.validate v).nested.value? v with
  | none =>
    rw [Verdict.refine_of_none hbase, Verdict.stop?_nested, Verdict.stop?_eq_of_fails hbase,
      Option.some_or]
  | some w =>
    rw [Verdict.stop?_eq_none_iff.mpr ⟨w, hbase⟩, Option.none_or]
    cases hp : p.holds w with
    | error fault =>
      rw [Verdict.refine_of_raised hbase hp]
      simp [stop?, Check.verdict, hp]
    | ok b =>
      cases b with
      | false =>
        have hverdict : (Check.predicate p v w).verdict = .reject (.refused p.name v) := by
          simp only [Check.verdict, hp]
        rw [Verdict.refine_of_refused hbase hp]
        exact (findSome?_of_reject hverdict).symm
      | true =>
        have hverdict : (Check.predicate p v w).verdict = .kept := by
          simp only [Check.verdict, hp]
        rw [Verdict.refine_of_holds hbase hp, Verdict.stop?_eq_none_iff.mpr ⟨w, hbase⟩]
        exact (findSome?_of_kept hverdict []).symm

/-- Validation stops at the first check that stops it. -/
theorem stop?_validate (s : Schema) (v : Value) :
    (s.validate v).stop? = (s.checks v).findSome? stop? := by
  induction s generalizing v with
  | array s ih => exact stop?_array ih v
  | tuple ss ih => exact stop?_tuple ih v
  | object fs ih => exact stop?_object ih v
  | refined s p ih => exact stop?_refined ih v
  | _ => exact (findSome?_leaf _ v).symm

end Schema

/-! ## Outcomes and verdicts -/

namespace Check

/-- The outcome is that of the verdict, or the words for a rejection are still to be found. -/
theorem outcome_cases (c : Check) :
    c.outcome = c.verdict.outcome ∨ ∃ r, c.outcome = .rejects ⟨r, []⟩ ∧ c.verdict = .reject r := by
  cases c with
  | leaf s v =>
    cases s with
    | literal wanted =>
      simp only [outcome, verdict, Schema.validate_literal]
      cases wanted.compareLiteral v with
      | equal => exact .inl rfl
      | different =>
        refine .inr ⟨_, rfl, Verdict.nested_eq_self (Verdict.reject_ne_astray _)⟩
      | invalid => exact .inl rfl
    | _ => exact .inl rfl
  | predicate p v w =>
    simp only [outcome, verdict]
    cases p.holds w with
    | error fault => exact .inl rfl
    | ok b =>
      cases b with
      | true => exact .inl rfl
      | false => exact .inr ⟨_, rfl, rfl⟩
  | _ => exact .inl rfl

theorem passes_iff (c : Check) : c.outcome = .passes ↔ c.verdict.stop? = none := by
  rcases c.outcome_cases with h | ⟨r, houtcome, hverdict⟩
  · rw [h, Verdict.outcome_eq_passes_iff]
  · simp [houtcome, hverdict, Verdict.stop?_reject]

theorem stop?_of_raises {c : Check} {fault : Fault} (h : c.outcome = .raises fault) :
    c.verdict.stop? = some (.raised fault) := by
  rcases c.outcome_cases with heq | ⟨r, houtcome, _⟩
  · rw [heq, Verdict.outcome_eq_raises_iff] at h
    exact h
  · simp [houtcome] at h

theorem stop?_of_rejects {c : Check} {f : Failure} (h : c.outcome = .rejects f)
    (hwords : f.reason.isWritable) : c.verdict.stop? = some (.rejected f) := by
  rcases c.outcome_cases with heq | ⟨r, houtcome, hverdict⟩
  · rw [heq, Verdict.outcome_eq_rejects_iff] at h
    exact h
  · obtain rfl : ⟨r, []⟩ = f := by simpa [houtcome] using h
    rw [hverdict, Verdict.stop?_reject, Verdict.reject, if_pos hwords]

/-- A check ends validation with a fault if it raises it, or rejects for a reason that cannot be
written. -/
theorem outcome_of_raised {c : Check} {fault : Fault} (h : c.verdict.stop? = some (.raised fault)) :
    c.outcome = .raises fault ∨
      fault = .unwritable ∧ ∃ f, c.outcome = .rejects f ∧ ¬ f.reason.isWritable := by
  rcases c.outcome_cases with heq | ⟨r, houtcome, hverdict⟩
  · left
    rw [heq, Verdict.outcome_eq_raises_iff]
    exact h
  · right
    rw [hverdict, Verdict.stop?_reject, Verdict.reject] at h
    by_cases hwords : r.isWritable
    · simp [hwords] at h
    · rw [if_neg hwords] at h
      cases h
      exact ⟨rfl, _, houtcome, hwords⟩

/-! Looking at the kind of a value or at a length does not raise. -/

theorem sequence_ne_raises (expected : String) (v : Value) (fault : Fault) :
    (sequence expected v).outcome ≠ .raises fault := by
  cases v <;> simp [outcome, verdict, Verdict.outcome, Verdict.nested]

theorem mapping_ne_raises (v : Value) (fault : Fault) : (mapping v).outcome ≠ .raises fault := by
  cases v <;> simp [outcome, verdict, Verdict.outcome, Verdict.nested]

theorem length_ne_raises (wanted : Nat) (vs : List Value) (fault : Fault) :
    (length wanted vs).outcome ≠ .raises fault := by
  by_cases hlen : vs.length = wanted <;>
    simp [outcome, verdict, Verdict.outcome, Verdict.nested, hlen]

theorem error_of_predicate {p : Function} {v w : Value} {fault : Fault}
    (h : (predicate p v w).outcome = .raises fault) : p.holds w = .error fault := by
  cases hp : p.holds w with
  | error e => simpa [outcome, hp] using h
  | ok b => cases b <;> simp [outcome, hp] at h

theorem invalid_of_literal {u v : Value} {fault : Fault}
    (h : (leaf (.literal u) v).outcome = .raises fault) :
    u.compareLiteral v = .invalid ∧ fault = .invalidComparison := by
  cases hcompare : u.compareLiteral v with
  | invalid => simpa [outcome, hcompare, eq_comm] using h
  | _ => simp [outcome, hcompare] at h

end Check

namespace Schema

variable {s : Schema} {v : Value} {l : Located}

theorem FirstFailing.stop? (h : s.FirstFailing v l) {d : Verdict}
    (hd : l.check.verdict.stop? = some d) :
    (s.validate v).stop? = some (l.path.foldr Verdict.under d) := by
  obtain ⟨before, after, hchecks, hbefore, _⟩ := h
  have hnone : before.findSome? Located.stop? = none := by
    rw [List.findSome?_eq_none_iff]
    intro b hb
    rw [Located.stop?, (Check.passes_iff _).mp (hbefore b hb), Option.map_none]
  rw [stop?_validate, hchecks, List.findSome?_append, hnone, Option.none_or, List.findSome?_cons,
    Located.stop?, hd, Option.map_some]

theorem exists_firstFailing {d : Verdict} (h : (s.validate v).stop? = some d) :
    ∃ l e, s.FirstFailing v l ∧ l.check.verdict.stop? = some e ∧
      d = l.path.foldr Verdict.under e := by
  rw [stop?_validate, List.findSome?_eq_some_iff] at h
  obtain ⟨before, l, after, hchecks, hl, hbefore⟩ := h
  obtain ⟨e, he, rfl⟩ := Option.map_eq_some_iff.mp hl
  refine ⟨l, e, ⟨before, after, hchecks, ?_, ?_⟩, he, rfl⟩
  · intro b hb
    rw [Check.passes_iff]
    exact Option.map_eq_none_iff.mp (hbefore b hb)
  · rw [Ne, Check.passes_iff, he]
    simp

theorem letsPass_iff : s.LetsPass v ↔ (s.validate v).stop? = none :=
  Verdict.stop?_eq_none_iff.symm

/-! ## Where a check is made -/

/-- Two schemas and values are the same, along a path, up to where `t` is asked about `u`. What
comes after that in the containers on the path, and what the refinements on it ask afterwards, may
differ. -/
inductive SameUpTo (t : Schema) (u : Value) :
    List Value → Schema → Value → Schema → Value → Prop where
  | here : SameUpTo t u [] t u t u
  /-- the one schema for all members may differ if it finds the same of those before -/
  | element (form form' : SequenceForm) (s s' : Schema) (before : List Value) (v v' : Value)
      (after after' : List Value) (path : List Value)
      (hbefore : ∀ b ∈ before, s'.validate b = s.validate b) (h : SameUpTo t u path s v s' v') :
      SameUpTo t u (.int before.length :: path)
        (.array s) (.sequence form (before ++ v :: after))
        (.array s') (.sequence form' (before ++ v' :: after'))
  /-- the schemas and the members of a tuple, pair by pair -/
  | position (form form' : SequenceForm) (before : List (Schema × Value)) (s s' : Schema)
      (v v' : Value) (after after' : List (Schema × Value)) (path : List Value)
      (h : SameUpTo t u path s v s' v') :
      SameUpTo t u (.int before.length :: path)
        (.tuple ((before ++ (s, v) :: after).map Prod.fst))
        (.sequence form ((before ++ (s, v) :: after).map Prod.snd))
        (.tuple ((before ++ (s', v') :: after').map Prod.fst))
        (.sequence form' ((before ++ (s', v') :: after').map Prod.snd))
  | field (form form' : MappingForm) (es es' : Entries Value) (before : List (Value × Schema))
      (key : Value) (s s' : Schema) (after after' : List (Value × Schema)) (path : List Value)
      (hbefore : ∀ f ∈ before, es'.valueOf f.1 = es.valueOf f.1)
      (h : SameUpTo t u path s (es.valueOf key) s' (es'.valueOf key)) :
      SameUpTo t u (key :: path) (.object (before ++ (key, s) :: after)) (.mapping form es)
        (.object (before ++ (key, s') :: after')) (.mapping form' es')
  | base (s s' : Schema) (p p' : Function) (v v' : Value) (path : List Value)
      (h : SameUpTo t u path s v s' v') :
      SameUpTo t u path (.refined s p) v (.refined s' p') v'

/-- The checks that a schema makes itself. -/
def MakesItself : Schema → Value → Check → Prop
  | .array _, v, c => c = .sequence "array" v
  | .tuple ss, v, c =>
    c = .sequence "tuple" v ∨ ∃ form vs, v = .sequence form vs ∧ c = .length ss.length vs
  | .object _, v, c => c = .mapping v
  | .refined s p, v, c => ∃ w, s.Passes v w ∧ c = .predicate p v w
  | s, v, c => c = .leaf s v

theorem mem_numbered {n : Nat} {lss : List (List Located)} (h : l ∈ numbered n lss) :
    ∃ before ls after m, lss = before ++ ls :: after ∧ m ∈ ls ∧
      l = m.under (.int ((n + before.length : Nat) : Int)) := by
  induction lss generalizing n with
  | nil => simp [numbered] at h
  | cons ls rest ih =>
    rw [numbered] at h
    rcases List.mem_append.mp h with hhead | hrest
    · obtain ⟨m, hm, rfl⟩ := List.mem_map.mp hhead
      exact ⟨[], ls, rest, m, rfl, hm, rfl⟩
    · obtain ⟨before, ks, after, m, rfl, hm, rfl⟩ := ih hrest
      have hnext : n + 1 + before.length = n + (ls :: before).length := by
        rw [List.length_cons]
        omega
      exact ⟨ls :: before, ks, after, m, rfl, hm, by rw [hnext]⟩

theorem mem_checks_array (h : l ∈ (Schema.array s).checks v) :
    l = ⟨[], .sequence "array" v⟩ ∨ ∃ form before w after m,
      v = .sequence form (before ++ w :: after) ∧ m ∈ s.checks w ∧
        l = m.under (.int before.length) := by
  cases v with
  | sequence form vs =>
    rcases List.mem_cons.mp h with hkind | hmember
    · exact .inl hkind
    · obtain ⟨bs, ls, as, m, hsplit, hm, rfl⟩ := mem_numbered hmember
      obtain ⟨before, rest, rfl, rfl, hrest⟩ := List.map_eq_append_iff.mp hsplit
      obtain ⟨w, after, rfl, rfl, rfl⟩ := List.map_eq_cons_iff.mp hrest
      rw [List.length_map, Nat.zero_add]
      exact .inr ⟨form, before, w, after, m, rfl, hm, rfl⟩
  | _ => exact .inl (List.mem_singleton.mp h)

theorem itemChecks_pairs (ms : List (Schema × Value)) :
    itemChecks (ms.map Prod.fst) (ms.map Prod.snd) = ms.map fun m => m.1.checks m.2 := by
  induction ms with
  | nil => rfl
  | cons m rest ih => rw [List.map_cons, List.map_cons, itemChecks, ih, List.map_cons]

theorem mem_checks_tuple {ss : List Schema} (h : l ∈ (Schema.tuple ss).checks v) :
    (Schema.tuple ss).MakesItself v l.check ∧ l.path = [] ∨ ∃ form before s w after m,
      ss = (before ++ (s, w) :: after).map Prod.fst ∧
        v = .sequence form ((before ++ (s, w) :: after).map Prod.snd) ∧ m ∈ s.checks w ∧
          l = m.under (.int before.length) := by
  cases v with
  | sequence form vs =>
    rcases List.mem_cons.mp h with rfl | htail
    · exact .inl ⟨.inl rfl, rfl⟩
    · rcases List.mem_cons.mp htail with rfl | hmember
      · exact .inl ⟨.inr ⟨form, vs, rfl, rfl⟩, rfl⟩
      · split at hmember
        · rename_i hlen
          obtain ⟨ms, rfl, rfl⟩ := exists_pairs hlen
          rw [itemChecks_pairs] at hmember
          obtain ⟨bs, ls, as, m, hsplit, hm, rfl⟩ := mem_numbered hmember
          obtain ⟨before, rest, rfl, rfl, hrest⟩ := List.map_eq_append_iff.mp hsplit
          obtain ⟨⟨s, w⟩, after, rfl, rfl, rfl⟩ := List.map_eq_cons_iff.mp hrest
          rw [List.length_map, Nat.zero_add]
          exact .inr ⟨form, before, s, w, after, m, rfl, rfl, hm, rfl⟩
        · simp at hmember
  | _ =>
    obtain rfl := List.mem_singleton.mp h
    exact .inl ⟨.inl rfl, rfl⟩

theorem mem_fieldChecks {fs : List (Value × Schema)} {es : Entries Value}
    (h : l ∈ fieldChecks fs es) :
    ∃ before key s after m, fs = before ++ (key, s) :: after ∧ m ∈ s.checks (es.valueOf key) ∧
      l = m.under key := by
  induction fs with
  | nil => simp [fieldChecks] at h
  | cons f rest ih =>
    obtain ⟨k, s⟩ := f
    rw [fieldChecks] at h
    rcases List.mem_append.mp h with hhead | hrest
    · obtain ⟨m, hm, rfl⟩ := List.mem_map.mp hhead
      exact ⟨[], k, s, rest, m, rfl, hm, rfl⟩
    · obtain ⟨before, key, t, after, m, rfl, hm, rfl⟩ := ih hrest
      exact ⟨(k, s) :: before, key, t, after, m, rfl, hm, rfl⟩

theorem mem_checks_object {fs : List (Value × Schema)} (h : l ∈ (Schema.object fs).checks v) :
    l = ⟨[], .mapping v⟩ ∨ ∃ form, ∃ es : Entries Value, ∃ before key s after m,
      v = .mapping form es ∧ fs = before ++ (key, s) :: after ∧ m ∈ s.checks (es.valueOf key) ∧
        l = m.under key := by
  cases v with
  | mapping form es =>
    rcases List.mem_cons.mp h with hkind | hmember
    · exact .inl hkind
    · obtain ⟨before, key, s, after, m, hfs, hm, hl⟩ := mem_fieldChecks hmember
      exact .inr ⟨form, es, before, key, s, after, m, rfl, hfs, hm, hl⟩
  | _ => exact .inl (List.mem_singleton.mp h)

theorem mem_checks_refined {p : Function} (h : l ∈ (s.refined p).checks v) :
    l ∈ s.checks v ∨ ∃ w, s.Passes v w ∧ l = ⟨[], .predicate p v w⟩ := by
  rw [checks] at h
  rcases List.mem_append.mp h with hbase | hpredicate
  · exact .inl hbase
  · split at hpredicate
    · rename_i w hw
      exact .inr ⟨w, hw, List.mem_singleton.mp hpredicate⟩
    · simp at hpredicate

/-- Every check is made by a schema that the path of the check leads to. -/
theorem exists_maker (h : l ∈ s.checks v) :
    ∃ t u, SameUpTo t u l.path s v s v ∧ t.MakesItself u l.check := by
  induction s generalizing v l with
  | array s ih =>
    rcases mem_checks_array h with rfl | ⟨form, before, w, after, m, rfl, hm, rfl⟩
    · exact ⟨_, v, .here, rfl⟩
    · obtain ⟨t, u, hsame, hmakes⟩ := ih hm
      refine ⟨t, u, .element form form s s before w w after after m.path ?_ hsame, hmakes⟩
      exact fun _ _ => rfl
  | tuple ss ih =>
    rcases mem_checks_tuple h with
      ⟨hmakes, hpath⟩ | ⟨form, before, s, w, after, m, rfl, rfl, hm, rfl⟩
    · rw [hpath]
      exact ⟨_, v, .here, hmakes⟩
    · obtain ⟨t, u, hsame, hmakes⟩ := ih s (by simp) hm
      exact ⟨t, u, .position form form before s s w w after after m.path hsame, hmakes⟩
  | object fs ih =>
    rcases mem_checks_object h with rfl | ⟨form, es, before, key, s, after, m, rfl, rfl, hm, rfl⟩
    · exact ⟨_, v, .here, rfl⟩
    · obtain ⟨t, u, hsame, hmakes⟩ := ih (key, s) (by simp) hm
      refine ⟨t, u, .field form form es es before key s s after after m.path ?_ hsame, hmakes⟩
      exact fun _ _ => rfl
  | refined s p ih =>
    rcases mem_checks_refined h with hbase | ⟨w, hw, rfl⟩
    · obtain ⟨t, u, hsame, hmakes⟩ := ih hbase
      exact ⟨t, u, .base s s p p v v l.path hsame, hmakes⟩
    · exact ⟨_, v, .here, w, hw, rfl⟩
  | _ =>
    obtain rfl := List.mem_singleton.mp h
    exact ⟨_, v, .here, rfl⟩

theorem not_letsPass_of_getD {cs : List Checked} {d : Verdict} {key w : Value}
    (h : s.validate v = (Checked.firstStop? cs).getD (d.nested.under key))
    (hd : d.nested.value? w = none) : ¬ s.LetsPass v := by
  rw [letsPass_iff, h]
  cases hcs : Checked.firstStop? cs with
  | none =>
    rw [Option.getD_none, Verdict.stop?_under, Verdict.stop?_nested, Verdict.stop?_eq_of_fails hd]
    simp
  | some e =>
    rcases Checked.firstStop?_eq_some hcs with ⟨f, rfl⟩ | ⟨fault, rfl⟩
    · simp
    · simp

/-- Nothing that comes after a part that does not pass changes what validation comes to. By
induction on the way there: a container decides at the member on the way or before it, and members
before it are the same on both sides. -/
theorem SameUpTo.validate_eq {t s' : Schema} {u v' : Value} {path : List Value}
    (h : SameUpTo t u path s v s' v') (hu : ¬ t.LetsPass u) :
    ¬ s.LetsPass v ∧ s'.validate v' = s.validate v := by
  -- equal verdicts that do not pass one value do not pass another one either
  have hright : ∀ {s s' : Schema} {v v' : Value}, ¬ s.LetsPass v ∧ s'.validate v' = s.validate v →
      ¬ s'.LetsPass v' := by
    rintro s s' v v' ⟨hv, heq⟩
    rw [letsPass_iff, heq, ← letsPass_iff]
    exact hv
  induction h with
  | here => exact ⟨hu, rfl⟩
  | element form form' s s' before v v' after after' path hbefore _ ih =>
    have hleft := validate_array_of_fails form before after ih.1
    have hsame : (before.map fun b => (b, s'.validate b)) =
        before.map fun b => (b, s.validate b) := by
      apply List.map_congr_left
      intro b hb
      rw [hbefore b hb]
    refine ⟨not_letsPass_of_getD hleft (not_letsPass_iff.mp ih.1), ?_⟩
    rw [hleft, validate_array_of_fails form' before after' (hright ih), ih.2, hsame]
  | position form form' before s s' v v' after after' path _ ih =>
    have hleft := validate_tuple_of_fails form before after ih.1
    refine ⟨not_letsPass_of_getD hleft (not_letsPass_iff.mp ih.1), ?_⟩
    rw [hleft, validate_tuple_of_fails form' before after' (hright ih), ih.2]
  | field form form' es es' before key s s' after after' path hbefore _ ih =>
    have hleft := validate_object_of_fails form before after ih.1
    have hsame : before.map (checked es') = before.map (checked es) := by
      apply List.map_congr_left
      intro f hf
      rw [checked, checked, hbefore f hf]
    refine ⟨not_letsPass_of_getD hleft (not_letsPass_iff.mp ih.1), ?_⟩
    rw [hleft, validate_object_of_fails form' before after' (hright ih), ih.2, hsame]
  | base s s' p p' v v' path _ ih =>
    have hfails := not_letsPass_iff.mp ih.1
    have hfails' := not_letsPass_iff.mp (hright ih)
    refine ⟨?_, ?_⟩
    · rintro ⟨w, hw⟩
      exact ih.1 ⟨w, ((passes_refined s p v w).mp hw).1⟩
    · rw [validate_refined, validate_refined, Verdict.refine_of_none hfails,
        Verdict.refine_of_none hfails', ih.2]

/-- A schema that is asked on the way has what all parts of the outer schema have. -/
theorem SameUpTo.everywhere {P : Schema → Prop} {t s' : Schema} {u v' : Value} {path : List Value}
    (h : SameUpTo t u path s v s' v') (hs : s.Everywhere P) : t.Everywhere P := by
  induction h with
  | here => exact hs
  | element form form' s s' before v v' after after' path _ _ ih => exact ih hs.2
  | position form form' before s s' v v' after after' path _ ih =>
    exact ih (((everywhere_tuple P _).mp hs).2 s (by simp))
  | field form form' es es' before key s s' after after' path _ _ ih =>
    exact ih (((everywhere_object P _).mp hs).2 (key, s) (by simp))
  | base s s' p p' v v' path _ ih => exact ih hs.2

/-! ## The first check that does not pass -/

theorem mem_checks_of_makesItself {c : Check} (h : s.MakesItself v c) : ⟨[], c⟩ ∈ s.checks v := by
  cases s with
  | array s =>
    obtain rfl := h
    exact List.mem_cons_self
  | tuple ss =>
    rcases h with rfl | ⟨form, vs, rfl, rfl⟩
    · exact List.mem_cons_self
    · exact List.mem_cons_of_mem _ List.mem_cons_self
  | object fs =>
    obtain rfl := h
    exact List.mem_cons_self
  | refined s p =>
    obtain ⟨w, hw, rfl⟩ := h
    rw [checks]
    refine List.mem_append_right _ ?_
    unfold Passes at hw
    rw [hw]
    exact List.mem_singleton.mpr rfl
  | _ =>
    obtain rfl := h
    exact List.mem_singleton.mpr rfl

/-- The first check that does not pass, which the schema `t` makes of the value `u`. -/
structure Decisive (s : Schema) (v : Value) (l : Located) (t : Schema) (u : Value) : Prop where
  first : s.FirstFailing v l
  leads : SameUpTo t u l.path s v s v
  makes : t.MakesItself u l.check

theorem FirstFailing.exists_decisive (h : s.FirstFailing v l) : ∃ t u, Decisive s v l t u := by
  have hmem : l ∈ s.checks v := by
    obtain ⟨before, after, hchecks, _⟩ := h
    simp [hchecks]
  obtain ⟨t, u, hleads, hmakes⟩ := exists_maker hmem
  exact ⟨t, u, h, hleads, hmakes⟩

theorem Decisive.not_letsPass {t : Schema} {u : Value} (h : Decisive s v l t u) :
    ¬ t.LetsPass u := by
  obtain ⟨_, _, _, _, hfails⟩ := h.first
  rw [Ne, Check.passes_iff] at hfails
  rw [letsPass_iff, stop?_validate, List.findSome?_eq_none_iff]
  intro hnone
  have hstop := hnone _ (mem_checks_of_makesItself h.makes)
  exact hfails (Option.map_eq_none_iff.mp hstop)

/-- Only a bare custom schema answers with a value that does not pass. -/
theorem letsPass_of_astray {a : Value} (h : s.validate v = .astray a) :
    s.LetsPass v ∨ ∃ c, s = .custom c ∧ c.check v = .astray a := by
  obtain ⟨c, hcore, hc⟩ := custom_of_validate_eq_astray h
  cases s with
  | custom d =>
    obtain rfl : d = c := by simpa [core] using hcore
    exact .inr ⟨d, rfl, hc⟩
  | refined s p =>
    left
    rw [validate_refined] at h
    cases hbase : (s.validate v).nested.value? v with
    | none =>
      rw [Verdict.refine_of_none hbase] at h
      exact absurd h (Verdict.nested_ne_astray _ a)
    | some w =>
      refine ⟨w, ?_⟩
      rw [Passes, validate_refined, h, ← Verdict.eq_of_refine_eq_astray h, hbase]
  | _ => simp [core] at hcore

/-- Why a schema raises when it makes a check itself. -/
inductive RaisesItself : Schema → Value → Fault → Prop where
  | predicate (s : Schema) (p : Function) (v w : Value) (fault : Fault) (hbase : s.Passes v w)
      (h : p.holds w = .error fault) : RaisesItself (.refined s p) v fault
  /-- an answer that is no verdict and holds no value -/
  | nonResult (c : Custom) (v a : Value) (h : c.check v = .astray a) (hheld : a.held? = none) :
      RaisesItself (.custom c) v (.lacks a "value")
  | custom (c : Custom) (v : Value) (fault : Fault) (h : c.check v = .raised fault) :
      RaisesItself (.custom c) v fault
  | model (m : Model) (v : Value) (fault : Fault) (h : m.check v = .error (.raises fault)) :
      RaisesItself (.model m) v fault
  | literal (wanted v : Value) (h : wanted.compareLiteral v = .invalid) :
      RaisesItself (.literal wanted) v .invalidComparison
  | misplaced (w v : Value) : RaisesItself (.misplaced w) v (.lacks w "validate")

theorem raised_of_outcome {fault : Fault} (h : (Check.leaf s v).outcome = .raises fault) :
    (s.validate v).nested = .raised fault := by
  have hstop := Check.stop?_of_raises h
  rw [Check.verdict, Verdict.stop?_nested] at hstop
  exact Verdict.nested_eq_of_stop? hstop

theorem worded_ne_raised (hs : s.isWorded) (fault : Fault) :
    (s.validate v).nested ≠ .raised fault := by
  have hdecides := worded_decides hs v
  generalize s.validate v = d at hdecides
  cases hdecides with
  | kept _ _ => simp [Verdict.nested]
  | rejected f _ _ => simp [Verdict.nested]
  | wordless _ hu => exact hu.elim

theorem model_raisesItself {m : Model} {fault : Fault}
    (h : ((Schema.model m).validate v).nested = .raised fault) :
    (Schema.model m).RaisesItself v fault := by
  rw [validate_model, Model.verdict] at h
  split at h
  · simp [Verdict.settled, Verdict.nested] at h
  · rw [Verdict.settled] at h
    split at h <;> simp [Verdict.nested] at h
  · simp [Verdict.settled, Verdict.nested] at h
  · rename_i e hcheck
    obtain rfl : e = fault := by simpa [Verdict.settled, Verdict.nested] using h
    exact .model m v e hcheck

theorem custom_raisesItself {c : Custom} {fault : Fault}
    (h : ((Schema.custom c).validate v).nested = .raised fault) :
    (Schema.custom c).RaisesItself v fault := by
  rw [validate_custom] at h
  cases hc : c.check v with
  | astray a =>
    rw [hc] at h
    simp only [Verdict.settled, Verdict.nested] at h
    split at h
    · simp at h
    · rename_i hheld
      cases h
      exact .nonResult c v a hc hheld
  | raised e =>
    obtain rfl : e = fault := by simpa [hc, Verdict.settled, Verdict.nested] using h
    exact .custom c v e hc
  | changed w =>
    rw [hc, Verdict.settled] at h
    split at h <;> simp [Verdict.nested] at h
  | _ => simp [hc, Verdict.settled, Verdict.nested] at h

theorem raisesItself_of_outcome {c : Check} {fault : Fault} (hmakes : s.MakesItself v c)
    (h : c.outcome = .raises fault) : s.RaisesItself v fault := by
  cases s with
  | array s =>
    obtain rfl := hmakes
    exact absurd h (Check.sequence_ne_raises "array" v fault)
  | tuple ss =>
    rcases hmakes with rfl | ⟨form, vs, rfl, rfl⟩
    · exact absurd h (Check.sequence_ne_raises "tuple" v fault)
    · exact absurd h (Check.length_ne_raises ss.length vs fault)
  | object fs =>
    obtain rfl := hmakes
    exact absurd h (Check.mapping_ne_raises v fault)
  | refined s p =>
    obtain ⟨w, hw, rfl⟩ := hmakes
    exact .predicate s p v w fault hw (Check.error_of_predicate h)
  | literal wanted =>
    obtain rfl := hmakes
    obtain ⟨hcompare, rfl⟩ := Check.invalid_of_literal h
    exact .literal wanted v hcompare
  | custom c =>
    obtain rfl := hmakes
    exact custom_raisesItself (raised_of_outcome h)
  | model m =>
    obtain rfl := hmakes
    exact model_raisesItself (raised_of_outcome h)
  | misplaced w =>
    obtain rfl := hmakes
    obtain rfl : Fault.lacks w "validate" = fault := by
      simpa [Verdict.nested] using raised_of_outcome h
    exact .misplaced w v
  | _ =>
    obtain rfl := hmakes
    exact absurd (raised_of_outcome h) (worded_ne_raised rfl fault)

/-- What is asked of the parts of a schema that calls nobody else's code, models apart, of which it
is assumed that they only reject. -/
def BuiltIn : Schema → Prop
  | .literal v => ∃ c : Scalar, v = c.value
  | .model m => m.OnlyRejects
  | .refined .. | .custom _ | .misplaced _ => False
  | _ => True

theorem BuiltIn.not_raisesItself (h : s.BuiltIn) (fault : Fault) : ¬ s.RaisesItself v fault := by
  intro hraises
  cases hraises with
  | literal wanted v hinvalid =>
    obtain ⟨c, rfl⟩ := h
    rcases c.compareLiteral_value v with ⟨_, heq⟩ | ⟨_, hne⟩
    · simp [heq] at hinvalid
    · simp [hne] at hinvalid
  | predicate => exact h
  | nonResult => exact h
  | custom => exact h
  | model m v fault hcheck => exact h v fault hcheck
  | misplaced => exact h

theorem letsPass_of_checks (h : ∀ l ∈ s.checks v, l.check.outcome = .passes) : s.LetsPass v := by
  rw [letsPass_iff, stop?_validate, List.findSome?_eq_none_iff]
  intro l hl
  rw [Located.stop?, (Check.passes_iff _).mp (h l hl), Option.map_none]

theorem admits_or_astray (h : s.LetsPass v) :
    s.Admits v ∨ ∃ c a w, s.core = .custom c ∧ c.check v = .astray a ∧ a.held? = some w ∧
      s.validate v = .astray a := by
  by_cases hastray : ∃ a, s.validate v = .astray a
  · obtain ⟨w, hw⟩ := h
    obtain ⟨a, ha⟩ := hastray
    obtain ⟨c, hcore, hc⟩ := custom_of_validate_eq_astray ha
    rw [Passes, ha, Verdict.nested] at hw
    cases hheld : a.held? with
    | none => simp [hheld, Verdict.value?] at hw
    | some x => exact .inr ⟨c, a, x, hcore, hc, hheld, ha⟩
  · exact .inl (h.admits (not_exists.mp hastray))

theorem eq_of_stop? (hbare : ∀ c a, s = .custom c → c.check v ≠ .astray a) {d : Verdict}
    (h : (s.validate v).stop? = some d) : s.validate v = d := by
  have hfails : ¬ s.LetsPass v := by simp [letsPass_iff, h]
  have hverdict : ∀ a, s.validate v ≠ .astray a := by
    intro a ha
    rcases letsPass_of_astray ha with hpass | ⟨c, hs, hc⟩
    · exact hfails hpass
    · exact hbare c a hs hc
  rw [← Verdict.nested_eq_of_stop? h, Verdict.nested_eq_self hverdict]

/-- Only the first check that does not pass can raise, itself or for want of words. -/
theorem decisive_of_raised {fault : Fault} (h : s.validate v = .raised fault) :
    ∃ l t u, Decisive s v l t u ∧ (t.RaisesItself u fault ∨
      fault = .unwritable ∧ ∃ f, l.check.outcome = .rejects f ∧ ¬ f.reason.isWritable) := by
  have hstop : (s.validate v).stop? = some (.raised fault) := by rw [h, Verdict.stop?_raised]
  obtain ⟨l, e, hfirst, hl, he⟩ := exists_firstFailing hstop
  rw [Verdict.foldr_under_raised_iff.mp he.symm] at hl
  obtain ⟨t, u, hdecisive⟩ := hfirst.exists_decisive
  refine ⟨l, t, u, hdecisive, ?_⟩
  rcases Check.outcome_of_raised hl with houtcome | hwords
  · exact .inl (raisesItself_of_outcome hdecisive.makes houtcome)
  · exact .inr hwords

/-- Validation goes check by check. If all pass then the value is accepted, unless a refined custom
schema hands on an answer that is no verdict. Otherwise the first check that does not pass decides
alone, and whatever comes after it around it may be replaced. Only this check can raise: it is a
predicate, a custom schema, a model, a literal that cannot be compared or no schema at all, if it
does not reject in words that cannot be written. -/
theorem validate_firstFailing (hbare : ∀ c a, s = .custom c → c.check v ≠ .astray a) :
    ((∀ l ∈ s.checks v, l.check.outcome = .passes) →
        s.Admits v ∨ ∃ c a w, s.core = .custom c ∧ c.check v = .astray a ∧ a.held? = some w ∧
          s.validate v = .astray a) ∧
      (∀ l, s.FirstFailing v l →
        (∀ f, l.check.outcome = .rejects f → f.reason.isWritable →
          s.validate v = .rejected ⟨f.reason, l.path ++ f.path⟩) ∧
        (∀ fault, l.check.outcome = .raises fault → s.validate v = .raised fault) ∧
        (∃ t u, Decisive s v l t u) ∧
        ∀ t u s' v', Decisive s v l t u → SameUpTo t u l.path s v s' v' →
          s'.validate v' = s.validate v) ∧
      (∀ fault, s.validate v = .raised fault → ∃ l t u, Decisive s v l t u ∧
        (t.RaisesItself u fault ∨
          fault = .unwritable ∧ ∃ f, l.check.outcome = .rejects f ∧ ¬ f.reason.isWritable)) ∧
      (s.Everywhere BuiltIn → ∀ fault, s.validate v = .raised fault → fault = .unwritable) := by
  refine ⟨fun hall => admits_or_astray (letsPass_of_checks hall), ?_,
    fun _ => decisive_of_raised, ?_⟩
  · intro l hfirst
    refine ⟨?_, ?_, hfirst.exists_decisive, ?_⟩
    · intro f houtcome hwords
      have hstop := hfirst.stop? (Check.stop?_of_rejects houtcome hwords)
      rw [eq_of_stop? hbare hstop, Verdict.foldr_under_rejected]
    · intro fault houtcome
      have hstop := hfirst.stop? (Check.stop?_of_raises houtcome)
      rw [eq_of_stop? hbare hstop, Verdict.foldr_under_raised_iff]
    · intro t u s' v' hdecisive hsame
      exact (hsame.validate_eq hdecisive.not_letsPass).2
  · intro hbuiltIn fault hfault
    obtain ⟨l, t, u, hdecisive, hself | ⟨hfault, _⟩⟩ := decisive_of_raised hfault
    · exact absurd hself ((hdecisive.leads.everywhere hbuiltIn).self.not_raisesItself fault)
    · exact hfault

end Schema

end

namespace Schema

/-- In a triple the length of the second member is asked for, which has none. What stands in the
third place does not matter. -/
theorem validate_firstFailing_triple :
    let sized := Schema.refined .unknown .len
    let s := Schema.tuple [.string, sized, .integer]
    let v := Value.tuple [.text "a", .null, .int 3]
    s.validate v = .raised (.unsized .null) ∧
      (Schema.tuple [.string, sized, .boolean]).validate (.list [.text "a", .null, .text "c"]) =
        s.validate v := by
  intro sized s v
  let l : Located := ⟨[.int 1], .predicate .len .null .null⟩
  have hbare : ∀ c a, s = .custom c → c.check v ≠ .astray a := by simp [s]
  have hfirst : s.FirstFailing v l := by
    refine ⟨[⟨[], .sequence "tuple" v⟩, ⟨[], .length 3 [.text "a", .null, .int 3]⟩,
      ⟨[.int 0], .leaf .string (.text "a")⟩, ⟨[.int 1], .leaf .unknown .null⟩],
      [⟨[.int 2], .leaf .integer (.int 3)⟩], rfl, ?_, ?_⟩
    · simp only [List.forall_mem_cons]
      exact ⟨rfl, rfl, rfl, rfl, by simp⟩
    · exact nofun
  have hleads : ∀ (form : SequenceForm) (last : Schema × Value),
      SameUpTo sized .null l.path s v
        (.tuple [.string, sized, last.1]) (.sequence form [.text "a", .null, last.2]) := by
    intro form last
    exact .position .tuple form [(.string, .text "a")] sized sized .null .null
      [(.integer, .int 3)] [last] [] .here
  have hdecisive : Decisive s v l sized .null :=
    ⟨hfirst, hleads .tuple (.integer, .int 3), .null, rfl, rfl⟩
  obtain ⟨_, hraises, _, hafter⟩ := (validate_firstFailing hbare).2.1 l hfirst
  exact ⟨hraises _ rfl, hafter sized .null _ _ hdecisive (hleads .list (.boolean, .text "c"))⟩

/-- A predicate may let an answer pass that is no verdict but holds a value, and hands it on as it
is: all checks pass, and yet the value is not accepted. A custom schema may also raise by itself,
and so may a model. -/
theorem validate_refined_broken :
    let s := Schema.refined (.custom .broken) .always
    let v := (Schema.literal (.int 5)).asValue
    let objector := Schema.custom ⟨"Objector", fun v => .raised (.objection v)⟩
    let strict := Schema.model ⟨"Strict", "Strict", false, fun v => .error (.raises (.objection v))⟩
    (∀ c, s ≠ .custom c) ∧ (∀ l ∈ s.checks v, l.check.outcome = .passes) ∧ ¬ s.Admits v ∧
      s.validate v = .astray v ∧
      (Schema.array objector).validate (.list [.null]) = .raised (.objection .null) ∧
      (Schema.array strict).validate (.list [.null]) = .raised (.objection .null) := by
  intro s v objector strict
  refine ⟨by simp [s], ?_, ?_, rfl, rfl, rfl⟩
  · have hchecks : s.checks v =
        [⟨[], .leaf (.custom .broken) v⟩, ⟨[], .predicate .always v (.int 5)⟩] := rfl
    simp only [hchecks, List.forall_mem_cons]
    exact ⟨rfl, rfl, by simp⟩
  · rintro ⟨w, hw⟩
    have hastray : s.validate v = .astray v := rfl
    rw [Accepts, hastray] at hw
    simp [Verdict.value?] at hw

end Schema

end ShapeMatch
