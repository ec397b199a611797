import ShapeMatch.Proofs.Building
import ShapeMatch.Proofs.ConfigEncoding
import ShapeMatch.Proofs.ConfigMeaning
import ShapeMatch.Proofs.FirstMatch
import ShapeMatch.Proofs.Plain
import ShapeMatch.Regex.Engine

/-!
Loaded configurations. The matcher of a configuration answers as the configuration says
(`load_correct`): with the action of the first case whose condition the value meets, else with
the default, else with an error that shows all schemas. A note in the log, a warning and an error
are texts, which is why numbers of very many digits stand in the way of this.
-/

namespace ShapeMatch

namespace Config

/-- The cases of a configuration, as they stand in it. -/
def casesOf : Value → List Value
  | .mapping .dict es =>
    match field? "cases" es with
    | some (.sequence .list vs) => vs
    | _ => []
  | _ => []

/-- The default of a configuration, if it has one. -/
def defaultOf : Value → Value
  | .mapping .dict es => (field? "default" es).getD .undefined
  | _ => .undefined

/-- A case of a configuration has this condition and this action. -/
def IsCase (d condition action : Value) : Prop :=
  ∃ es, d = .dict es ∧ field? "when" es = some condition ∧ field? "action" es = some action

theorem IsCase.unique {d condition condition' action action' : Value}
    (h : IsCase d condition action) (h' : IsCase d condition' action') :
    condition = condition' := by
  obtain ⟨es, rfl, hwhen, _⟩ := h
  obtain ⟨es', heq, hwhen', _⟩ := h'
  cases heq
  exact Option.some.inj (hwhen.symm.trans hwhen')

theorem casesOf_isWritable {data : Value} (h : data.isWritable) :
    ∀ d ∈ casesOf data, d.isWritable := by
  intro d hd
  unfold casesOf at hd
  split at hd
  · split at hd
    · rename_i hcases
      exact isWritable_of_mem_field? hcases hd h
    · simp at hd
  · simp at hd

end Config

section

variable [RegexEngine]

/-! ## Building the cases -/

theorem Matcher.case_schema_ok {m : Matcher} {s : Schema} (handler : Function)
    (h : ∀ b ∈ m.cases, b.schema = .unknown → s.isWritable) :
    ∃ more, m.case (.schema s) [handler] = .ok (⟨m.cases ++ [⟨s, handler⟩]⟩, more) := by
  rw [Matcher.case, Cases.appendCase_schema, if_pos ((Cases.append_writable_iff _ _).mpr h)]
  exact ⟨_, rfl⟩

theorem Matcher.case_schema_error {m : Matcher} {s : Schema} (handler : Function)
    (h : ¬ ∀ b ∈ m.cases, b.schema = .unknown → s.isWritable) :
    m.case (.schema s) [handler] = .error .unwritable := by
  rw [Matcher.case, Cases.appendCase_schema, if_neg (mt (Cases.append_writable_iff _ _).mp h)]
  rfl

/-- Wherever a schema comes after one that accepts everything, its label can be written. -/
def Warnable (ss : List Schema) : Prop := ss.Pairwise fun s t => s = .unknown → t.isWritable

theorem warnable_concat_iff (ss : List Schema) (t : Schema) :
    Warnable (ss ++ [t]) ↔ Warnable ss ∧ ∀ s ∈ ss, s = .unknown → t.isWritable := by
  simp [Warnable, List.pairwise_append]

theorem Warnable.of_append {ss ts : List Schema} (h : Warnable (ss ++ ts)) : Warnable ss :=
  (List.pairwise_append.mp h).1

/-- The case of a matcher that a case of a configuration becomes. -/
def CaseConfig.toCase (c : CaseConfig) : Case := ⟨c.schema, actionHandler c.action⟩

namespace MatcherConfig

theorem addCases_cons {c : CaseConfig} {m m' : Matcher} {more : List Unreachable}
    (h : m.case (.schema c.schema) [actionHandler c.action] = .ok (m', more))
    (warnings : List Unreachable) (rest : List CaseConfig) :
    addCases m warnings (c :: rest) = addCases m' (warnings ++ more) rest := by
  rw [addCases, h]
  rfl

theorem addCases_ok {cs : List CaseConfig} {m : Matcher} (warnings : List Unreachable)
    (h : Warnable (m.cases.map Case.schema ++ cs.map CaseConfig.schema)) :
    ∃ more, addCases m warnings cs = .ok (⟨m.cases ++ cs.map CaseConfig.toCase⟩, more) := by
  induction cs generalizing m warnings with
  | nil => exact ⟨warnings, by simp [addCases]⟩
  | cons c rest ih =>
    rw [List.map_cons, List.append_cons] at h
    have hlabel := ((warnable_concat_iff _ _).mp h.of_append).2
    obtain ⟨more, hcase⟩ :=
      Matcher.case_schema_ok (m := m) (actionHandler c.action) (by simpa using hlabel)
    have hrest := ih (m := ⟨m.cases ++ [c.toCase]⟩) (warnings ++ more)
      (by simpa [CaseConfig.toCase] using h)
    rw [addCases_cons hcase]
    simpa [CaseConfig.toCase] using hrest

theorem addCases_error {cs : List CaseConfig} {m : Matcher} (warnings : List Unreachable)
    (hm : Warnable (m.cases.map Case.schema))
    (h : ¬ Warnable (m.cases.map Case.schema ++ cs.map CaseConfig.schema)) :
    addCases m warnings cs = .error .unwritable := by
  induction cs generalizing m warnings with
  | nil => exact absurd (by simpa using hm) h
  | cons c rest ih =>
    rw [List.map_cons, List.append_cons] at h
    by_cases hlabel : ∀ b ∈ m.cases, b.schema = .unknown → c.schema.isWritable
    · obtain ⟨more, hcase⟩ := Matcher.case_schema_ok (actionHandler c.action) hlabel
      rw [addCases_cons hcase]
      apply ih
      · simpa [warnable_concat_iff] using ⟨hm, hlabel⟩
      · simpa using h
    · rw [addCases, Matcher.case_schema_error _ hlabel]
      rfl

/-- The cases of the matcher of a configuration. -/
def matcherCases (c : MatcherConfig) : List Case :=
  c.cases.map CaseConfig.toCase ++
    if c.hasDefault then [⟨.unknown, actionHandler c.default⟩] else []

theorem load_ok {c : MatcherConfig} (h : Warnable (c.cases.map CaseConfig.schema)) :
    ∃ l, c.load = .ok l ∧ l.matcher.cases = c.matcherCases := by
  obtain ⟨more, hadd⟩ := addCases_ok (m := .start) [] (by simpa [Matcher.start] using h)
  cases hdefault : c.hasDefault with
  | false =>
    rw [load, hadd, hdefault]
    exact ⟨_, rfl, by simp [matcherCases, hdefault, Matcher.start]⟩
  | true =>
    rw [load, hadd, hdefault]
    exact ⟨_, rfl, by simp [matcherCases, hdefault, Matcher.start]⟩

theorem load_error {c : MatcherConfig} (h : ¬ Warnable (c.cases.map CaseConfig.schema)) :
    c.load = .error .unwritable := by
  have hadd := addCases_error (m := .start) [] (by simp [Matcher.start, Warnable])
    (by simpa [Matcher.start] using h)
  rw [load, hadd]
  rfl

theorem exists_load_iff (c : MatcherConfig) :
    (∃ l, c.load = .ok l) ↔ Warnable (c.cases.map CaseConfig.schema) := by
  constructor
  · rintro ⟨l, hl⟩
    by_contra hlabels
    rw [load_error hlabels] at hl
    cases hl
  · intro hlabels
    obtain ⟨l, hl, _⟩ := load_ok hlabels
    exact ⟨l, hl⟩

theorem load_eq_error {c : MatcherConfig} {e : BuildError} (h : c.load = .error e) :
    e = .unwritable := by
  by_cases hlabels : Warnable (c.cases.map CaseConfig.schema)
  · obtain ⟨l, hl, _⟩ := load_ok hlabels
    rw [hl] at h
    cases h
  · rw [load_error hlabels] at h
    cases h
    rfl

/-- What was loaded matches its values against the cases of the configuration. -/
theorem call_of_load [Logging] {c : MatcherConfig} {l : Loaded} (h : c.load = .ok l) (v : Value) :
    l.matcher.get.call v = dispatch v c.matcherCases := by
  obtain ⟨l', hl', hcases⟩ := load_ok (c.exists_load_iff.mp ⟨l, h⟩)
  obtain rfl : l' = l := Except.ok.inj (hl'.symm.trans h)
  rw [Matcher.get, Dispatcher.call, hcases]

theorem hasDefault_iff (c : MatcherConfig) : c.hasDefault = true ↔ c.default ≠ .undefined := by
  unfold hasDefault
  cases c.default <;> simp

end MatcherConfig

/-! ## What a configuration answers -/

namespace Config

/-- The value does not meet the condition of a case, and that can be put into words. -/
def TurnsAway (d v : Value) : Prop :=
  ∃ condition action, IsCase d condition action ∧ ¬ Matches condition v ∧ ¬ Unexplained condition v

/-- The case at an index has this condition and this action, and all cases before it turn the
value away. -/
structure Reached (ds : List Value) (v : Value) (i : Nat) (condition action : Value) : Prop where
  here : ∃ d, ds[i]? = some d ∧ IsCase d condition action
  before : ∀ j < i, ∀ d, ds[j]? = some d → TurnsAway d v

/-- The value does not meet the condition of a case. -/
def Misses (d v : Value) : Prop :=
  ∃ condition action, IsCase d condition action ∧ ¬ Matches condition v

theorem TurnsAway.misses {d v : Value} (h : TurnsAway d v) : Misses d v := by
  obtain ⟨condition, action, hcase, hnot, _⟩ := h
  exact ⟨condition, action, hcase, hnot⟩

/-- What a configuration returns for a value: the action of the first case whose condition the
value meets, else the default, else an error that shows one schema for each case. -/
inductive Returns (data : Value) (schemas : List Schema) (v : Value) :
    Except DispatchError Value → Prop where
  | action (i : Nat) (d condition action : Value) (hhere : (casesOf data)[i]? = some d)
      (hcase : IsCase d condition action) (hmatches : Matches condition v)
      (hbefore : ∀ j < i, ∀ b, (casesOf data)[j]? = some b → Misses b v) :
      Returns data schemas v (.ok action)
  | default (hnone : ∀ d ∈ casesOf data, Misses d v) (hdefault : defaultOf data ≠ .undefined) :
      Returns data schemas v (.ok (defaultOf data))
  | noMatch (hnone : ∀ d ∈ casesOf data, Misses d v) (hdefault : defaultOf data = .undefined) :
      Returns data schemas v (.error (.noMatch v schemas))

theorem casesOf_of_describes {data : Value} {c : MatcherConfig} (h : DescribesMatcher data c) :
    List.Forall₂ DescribesCase (casesOf data) c.cases ∧ defaultOf data = c.default := by
  obtain ⟨es, vs, rfl, hcases, _, hdescribes, hdefault⟩ := h
  refine ⟨?_, hdefault⟩
  simpa only [casesOf, hcases] using hdescribes

theorem DescribesCase.isCase {d : Value} {r : CaseConfig} (h : DescribesCase d r) :
    ∃ condition, IsCase d condition r.action ∧ Describes condition r.schema := by
  obtain ⟨es, condition, rfl, hwhen, haction, hdescribes⟩ := h
  exact ⟨condition, ⟨es, rfl, hwhen, haction⟩, hdescribes⟩

/-- The case of the matcher rejects a value exactly if the case of the configuration turns it
away. -/
theorem DescribesCase.rejects_iff {d : Value} {r : CaseConfig} (h : DescribesCase d r) (v : Value) :
    r.toCase.Rejects v ↔ TurnsAway d v := by
  obtain ⟨condition, hcase, hdescribes⟩ := h.isCase
  have hdecides := hdescribes.decidedBy v
  have hrejects : r.toCase.Rejects v ↔ ¬ Matches condition v ∧ ¬ Unexplained condition v :=
    hdecides.rejected_iff
  rw [hrejects]
  constructor
  · exact fun hnot => ⟨condition, r.action, hcase, hnot⟩
  · rintro ⟨condition', action', hcase', hnot⟩
    rw [hcase.unique hcase']
    exact hnot

section

variable {ds : List Value} {rs : List CaseConfig} {v : Value}

theorem turnsAway_of_all_reject (h : List.Forall₂ DescribesCase ds rs)
    (hall : ∀ k ∈ rs.map CaseConfig.toCase, k.Rejects v) : ∀ d ∈ ds, TurnsAway d v := by
  intro d hd
  obtain ⟨r, hr, hdr⟩ := exists_mem_of_forall₂ h hd
  exact (hdr.rejects_iff v).mp (hall _ (List.mem_map_of_mem hr))

/-- The first case of the matcher not to reject a value is the case that is reached. -/
theorem reached_of_firstAt (h : List.Forall₂ DescribesCase ds rs) {i : Nat} {k : Case}
    (hfirst : FirstAt v (rs.map CaseConfig.toCase) i k) :
    ∃ r condition, rs[i]? = some r ∧ k = r.toCase ∧ Describes condition r.schema ∧
      Reached ds v i condition r.action := by
  have hhere := hfirst.here
  rw [List.getElem?_map, Option.map_eq_some_iff] at hhere
  obtain ⟨r, hr, rfl⟩ := hhere
  obtain ⟨d, hd, hdr⟩ : ∃ d, ds[i]? = some d ∧ DescribesCase d r :=
    exists_getElem?_of_forall₂ h.flip hr
  obtain ⟨condition, hcase, hdescribes⟩ := hdr.isCase
  refine ⟨r, condition, hr, rfl, hdescribes, ⟨d, hd, hcase⟩, ?_⟩
  intro j hj b hb
  obtain ⟨q, hq, hbq⟩ := exists_getElem?_of_forall₂ h hb
  refine (hbq.rejects_iff v).mp (hfirst.before j hj _ ?_)
  rw [List.getElem?_map, hq]
  rfl

end

theorem schema_toCase (rs : List CaseConfig) :
    (rs.map CaseConfig.toCase).map Case.schema = rs.map CaseConfig.schema := by
  rw [List.map_map]
  rfl

/-! ## Where everything can be written -/

theorem Describes.plain {d : Value} {s : Schema} (h : Describes d s) : s.Everywhere Schema.Plain :=
  h.configurable.imp fun _ => Schema.Configurable.plain

theorem scalarSchema_isWritable {v : Value} (h : v.isScalar) (hv : v.isWritable) :
    (scalarSchema v).isWritable := by
  rcases eq_null_or_value h with rfl | ⟨c, rfl⟩
  · rfl
  · rw [scalarSchema_value]
    exact hv

theorem Describes.isWritable {d : Value} {s : Schema} (h : Describes d s) (hd : d.isWritable) :
    s.isWritable := by
  induction h with
  | scalar v h => exact scalarSchema_isWritable h hd
  | simple es name s htype h =>
    rcases mem_simpleTypes_iff.mp h with ⟨_, rfl⟩ | ⟨_, rfl⟩ | ⟨_, rfl⟩ | ⟨_, rfl⟩ | ⟨_, rfl⟩ |
      ⟨_, rfl⟩ | ⟨_, rfl⟩ <;> rfl
  | literal es v htype hvalue h =>
    exact scalarSchema_isWritable h (isWritable_of_field? hvalue hd)
  | regex es p htype hpattern hlength => rfl
  | anyArray es htype hitems => rfl
  | array es v s htype hitems _ ih => exact ih (isWritable_of_field? hitems hd)
  | tuple es vs ss htype hitems hne hlength _ ih =>
    refine (Schema.allWritable_iff ss).mpr ?_
    intro s hs
    obtain ⟨v, hm⟩ := exists_mem_zip hlength hs
    exact ih _ hm (isWritable_of_mem_field? hitems (List.of_mem_zip hm).1 hd)
  | anyObject es htype hfields => rfl
  | object es fs gs htype hfields hlength hkeys _ ih =>
    refine (Schema.fieldsWritable_iff gs).mpr ?_
    intro g hg
    obtain ⟨f, hm⟩ := exists_mem_zip hlength hg
    obtain ⟨hkey, hvalue⟩ := Value.isWritable_of_mem_mapping (isWritable_of_field? hfields hd)
      (List.of_mem_zip hm).1
    have hsame : f.1 = g.1 := hkeys _ hm
    exact ⟨hsame ▸ hkey, ih _ hm hvalue⟩

/-- Where everything can be written, there are words for every mismatch. -/
theorem Describes.explained {d : Value} {s : Schema} (h : Describes d s) (hd : d.isWritable)
    {v : Value} (hv : v.isWritable) : ¬ Unexplained d v := by
  rw [← (h.decidedBy v).wordless_iff]
  exact Schema.not_mute_of_writable h.plain (h.isWritable hd) hv

/-- Every case of a configuration that can be written has a label that can be written. -/
theorem labels_of_isWritable {data : Value} {c : MatcherConfig} (h : DescribesMatcher data c)
    (hdata : data.isWritable) : ∀ s ∈ c.cases.map CaseConfig.schema, s.isWritable := by
  intro s hs
  obtain ⟨r, hr, rfl⟩ := List.mem_map.mp hs
  obtain ⟨d, hd, es, condition, rfl, hwhen, _, hdescribes⟩ :
      ∃ d ∈ casesOf data, DescribesCase d r :=
    exists_mem_of_forall₂ (casesOf_of_describes h).1.flip hr
  exact hdescribes.isWritable (isWritable_of_field? hwhen (casesOf_isWritable hdata _ hd))

theorem warnable_of_isWritable {ss : List Schema} (h : ∀ s ∈ ss, s.isWritable) : Warnable ss :=
  List.pairwise_of_forall_mem_list fun _ _ t ht _ => h t ht

theorem explained_of_isWritable {data : Value} {c : MatcherConfig} (h : DescribesMatcher data c)
    (hdata : data.isWritable) {v : Value} (hv : v.isWritable) {d condition action : Value}
    (hd : d ∈ casesOf data) (hcase : IsCase d condition action) : ¬ Unexplained condition v := by
  obtain ⟨r, _, hdr⟩ := exists_mem_of_forall₂ (casesOf_of_describes h).1 hd
  obtain ⟨condition', hcase', hdescribes⟩ := hdr.isCase
  obtain rfl := hcase.unique hcase'
  obtain ⟨es, rfl, hwhen, _⟩ := hcase
  have hwritable := isWritable_of_field? hwhen (casesOf_isWritable hdata _ hd)
  exact hdescribes.explained hwritable hv

/-! ## Answers -/

variable [Logging]

/-- How a configuration answers a value, with one schema for each of its cases, whether or not
what there is to be said can be written. -/
inductive Answers (data : Value) (schemas : List Schema) (v : Value) : Run → Prop where
  /-- the first case not to turn the value away matches it -/
  | action (i : Nat) (condition action : Value) (s : Schema)
      (hreached : Reached (casesOf data) v i condition action) (hmatches : Matches condition v)
      (hschema : schemas[i]? = some s) :
      Answers data schemas v
        (.noting (.matched i s v) (.ok action))
  /-- the first case not to turn the value away has no words for what is wrong with it -/
  | mute (i : Nat) (condition action : Value)
      (hreached : Reached (casesOf data) v i condition action)
      (hmute : Unexplained condition v) : Answers data schemas v ⟨.error (.fault .unwritable), []⟩
  | default (hnone : ∀ d ∈ casesOf data, TurnsAway d v) (hdefault : defaultOf data ≠ .undefined) :
      Answers data schemas v
        (.noting (.matched schemas.length .unknown v) (.ok (defaultOf data)))
  | noMatch (hnone : ∀ d ∈ casesOf data, TurnsAway d v) (hdefault : defaultOf data = .undefined) :
      Answers data schemas v
        (.noting (.unmatched schemas.length v)
          (.error (if v.isWritable ∧ ∀ s ∈ schemas, s.isWritable then .noMatch v schemas
            else .fault .unwritable)))

/-- Where everything can be written, the answer is what the configuration returns. -/
theorem Answers.returns {data v : Value} {schemas : List Schema} {run : Run}
    (h : Answers data schemas v run) (hschemas : ∀ s ∈ schemas, s.isWritable)
    (hv : v.isWritable)
    (hexplained : ∀ d ∈ casesOf data, ∀ condition action, IsCase d condition action →
      ¬ Unexplained condition v) : Returns data schemas v run.outcome := by
  cases h with
  | action i condition action s hreached hmatches hschema =>
    obtain ⟨d, hd, hcase⟩ := hreached.here
    have hwords : (LogEntry.matched i s v).isWritable := by
      simp [LogEntry.isWritable, hschemas s (List.mem_of_getElem? hschema), hv]
    rw [Run.noting_of_isWritable hwords]
    exact .action i d condition action hd hcase hmatches fun j hj b hb =>
      (hreached.before j hj b hb).misses
  | mute i condition action hreached hmute =>
    obtain ⟨d, hd, hcase⟩ := hreached.here
    exact absurd hmute (hexplained d (List.mem_of_getElem? hd) condition action hcase)
  | default hnone hdefault =>
    have hwords : (LogEntry.matched schemas.length .unknown v).isWritable := by
      simp [LogEntry.isWritable, Schema.isWritable, hv]
    rw [Run.noting_of_isWritable hwords]
    exact .default (fun d hd => (hnone d hd).misses) hdefault
  | noMatch hnone hdefault =>
    have hwords : (LogEntry.unmatched schemas.length v).isWritable := hv
    rw [Run.noting_of_isWritable hwords, if_pos ⟨hv, hschemas⟩]
    exact .noMatch (fun d hd => (hnone d hd).misses) hdefault

theorem run_toCase (r : CaseConfig) (i : Nat) (v w : Value) :
    r.toCase.run i v w = .noting (.matched i r.schema v) (.ok r.action) := rfl

/-- If every case turns the value away, the default answers, or nothing does. -/
theorem answers_of_all_reject {data : Value} {c : MatcherConfig} (h : DescribesMatcher data c)
    {v : Value} (hall : ∀ k ∈ c.cases.map CaseConfig.toCase, k.Rejects v) :
    Answers data (c.cases.map CaseConfig.schema) v (dispatch v c.matcherCases) := by
  obtain ⟨hcases, hdefault⟩ := casesOf_of_describes h
  have hnone := turnsAway_of_all_reject hcases hall
  cases hhas : c.hasDefault with
  | false =>
    have hundefined : defaultOf data = .undefined := by
      rw [hdefault]
      by_contra hne
      simp [c.hasDefault_iff.mpr hne] at hhas
    have hanswer : Answers data (c.cases.map CaseConfig.schema) v _ := .noMatch hnone hundefined
    rw [MatcherConfig.matcherCases, hhas, if_neg (by simp), List.append_nil,
      dispatch_of_all_reject hall, schema_toCase]
    simpa [unmatched] using hanswer
  | true =>
    have hdefined : defaultOf data ≠ .undefined := hdefault ▸ c.hasDefault_iff.mp hhas
    have hanswer : Answers data (c.cases.map CaseConfig.schema) v _ := .default hnone hdefined
    have hlast : (⟨.unknown, actionHandler c.default⟩ : Case) =
        CaseConfig.toCase ⟨.unknown, c.default⟩ := rfl
    rw [MatcherConfig.matcherCases, hhas, if_pos rfl, dispatch, dispatchFrom_append hall,
      dispatchFrom_of_accepts (w := v) rfl, hlast, run_toCase, ← hdefault]
    simpa using hanswer

/-- The case that is reached answers with its action, or has no words for what is wrong. -/
theorem answers_of_firstAt {data : Value} {c : MatcherConfig} (h : DescribesMatcher data c)
    {v : Value} {i : Nat} {k : Case} (hfirst : FirstAt v (c.cases.map CaseConfig.toCase) i k) :
    Answers data (c.cases.map CaseConfig.schema) v (dispatch v c.matcherCases) := by
  obtain ⟨hcases, _⟩ := casesOf_of_describes h
  obtain ⟨r, condition, hr, rfl, hdescribes, hreached⟩ := reached_of_firstAt hcases hfirst
  have hdecides := hdescribes.decidedBy v
  rw [MatcherConfig.matcherCases, (hfirst.append _).dispatch_eq]
  generalize hverdict : r.schema.validate v = verdict at hdecides
  cases hdecides with
  | kept hmatches _ =>
    have haccepts : (r.toCase.schema.validate v).value? v = some v := by
      rw [CaseConfig.toCase, hverdict]
      rfl
    have hschema : (c.cases.map CaseConfig.schema)[i]? = some r.schema := by
      rw [List.getElem?_map, hr]
      rfl
    rw [dispatchFrom_of_accepts haccepts, run_toCase]
    exact .action i condition r.action r.schema hreached hmatches hschema
  | rejected f _ _ => exact absurd ⟨f, hverdict⟩ hfirst.decides
  | wordless _ hmute =>
    rw [dispatchFrom_of_raised hverdict]
    exact .mute i condition r.action hreached hmute

theorem DescribesMatcher.answers {data : Value} {c : MatcherConfig} (h : DescribesMatcher data c)
    (v : Value) :
    Answers data (c.cases.map CaseConfig.schema) v (dispatch v c.matcherCases) := by
  rcases exists_firstAt v (c.cases.map CaseConfig.toCase) with hall | ⟨i, k, hfirst⟩
  · exact answers_of_all_reject h hall
  · exact answers_of_firstAt h hfirst

/-- A configuration that was read is loaded unless a warning cannot be written, and its matcher
answers every value as the configuration says, each case having a schema of its own. If all numbers
in the configuration and in the value can be written, it returns what the configuration does. -/
theorem load_correct {data : Value} {c : MatcherConfig} (h : Config.read data = .ok c) :
    List.Forall₂ DescribesCase (casesOf data) c.cases ∧
      ((∃ l, c.load = .ok l) ↔ Warnable (c.cases.map CaseConfig.schema)) ∧
      (∀ e, c.load = .error e → e = .unwritable) ∧
      (∀ l, c.load = .ok l → ∀ v,
        Answers data (c.cases.map CaseConfig.schema) v (l.matcher.get.call v)) ∧
      (data.isWritable → ∃ l, c.load = .ok l ∧ ∀ v, v.isWritable →
        Returns data (c.cases.map CaseConfig.schema) v (l.matcher.get.call v).outcome) := by
  rw [read_eq_ok_iff] at h
  have hanswers : ∀ l, c.load = .ok l → ∀ v,
      Answers data (c.cases.map CaseConfig.schema) v (l.matcher.get.call v) := by
    intro l hl v
    rw [MatcherConfig.call_of_load hl]
    exact h.answers v
  refine ⟨(casesOf_of_describes h).1, c.exists_load_iff, fun e => MatcherConfig.load_eq_error,
    hanswers, ?_⟩
  intro hdata
  have hlabels := labels_of_isWritable h hdata
  obtain ⟨l, hl⟩ := c.exists_load_iff.mpr (warnable_of_isWritable hlabels)
  refine ⟨l, hl, fun v hv => ?_⟩
  exact (hanswers l hl v).returns hlabels hv fun d hd condition action hcase =>
    explained_of_isWritable h hdata hv hd hcase

end Config

end

namespace Config

attribute [local instance] Logging.ordinary

/-- A configuration for pairs of a number and a text, with null as its default. -/
def pairs : Value :=
  .dict [(.text "cases", .list [.dict [(.text "when", .dict [(.text "type", .text "tuple"),
    (.text "items", .list [.dict [(.text "type", .text "integer")], .text "x"])]),
    (.text "action", .int 0)]]), (.text "default", .null)]

theorem load_correct_pairs :
    ∃ l, (⟨[⟨.tuple [.integer, .literal (.text "x")], .int 0⟩], .null⟩ : MatcherConfig).load =
        .ok l ∧
      Answers pairs [.tuple [.integer, .literal (.text "x")]] (.list [.int 3, .text "x"])
        (l.matcher.get.call (.list [.int 3, .text "x"])) := by
  have hread : Config.read pairs =
      .ok ⟨[⟨.tuple [.integer, .literal (.text "x")], .int 0⟩], .null⟩ := rfl
  obtain ⟨_, hload, _, hanswers, _⟩ := load_correct hread
  obtain ⟨l, hl⟩ := hload.mpr (by simp [Warnable])
  exact ⟨l, hl, hanswers l hl _⟩

/-- A configuration for one text, with a default for all other values. -/
def textOrElse : Value :=
  .dict [(.text "cases", .list [.dict [(.text "when", .text "x"), (.text "action", .int 1)]]),
    (.text "default", .int 2)]

/-- A point that cannot be written meets no condition, but it does not get the default. -/
theorem load_farPoint :
    (∀ d ∈ casesOf textOrElse, ∀ condition action, IsCase d condition action →
        ¬ Matches condition .farPoint) ∧
      defaultOf textOrElse = .int 2 ∧
      ∃ c l, Config.read textOrElse = .ok c ∧ c.load = .ok l ∧
        l.matcher.get.call .farPoint = ⟨.error (.fault .unwritable), []⟩ := by
  refine ⟨?_, rfl, ⟨[⟨.literal (.text "x"), .int 1⟩], .int 2⟩, ?_⟩
  · rintro d hd condition action ⟨es, rfl, hwhen, _⟩
    have hcases : casesOf textOrElse =
        [.dict [(.text "when", .text "x"), (.text "action", .int 1)]] := rfl
    rw [hcases, List.mem_singleton] at hd
    cases hd
    obtain rfl : Value.text "x" = condition := Option.some.inj hwhen
    rw [Matches]
    · exact Value.farPoint_ne_text "x"
    · simp
  · obtain ⟨l, hl, hcases⟩ := MatcherConfig.load_ok
      (c := ⟨[⟨.literal (.text "x"), .int 1⟩], .int 2⟩) (by simp [Warnable])
    refine ⟨l, rfl, hl, ?_⟩
    rw [Matcher.get, Dispatcher.call, hcases]
    exact dispatchFrom_of_raised (Shorthand.validate_text_farPoint "x")

end Config

end ShapeMatch
