import ShapeMatch.Config.Basic
import ShapeMatch.Proofs.Building
import ShapeMatch.Proofs.FirstMatch

/-!
Unreachable cases. Whoever declares a case after one that accepts everything gets a warning, and
nobody else does (`warnings_exact`). What was warned about can be left out: no value ever gets
there.
-/

namespace ShapeMatch

variable [RegexEngine]

/-- The request at an index appended this case. -/
def Adds (rs : List Request) (answers : List Reply) (i : Nat) (c : Case) : Prop :=
  ∃ r warnings, rs[i]? = some r ∧ r.case? = .ok c ∧ answers[i]? = some (.ok warnings)

/-- The cases that were appended, each with the warnings it gave rise to. -/
def added : List Request → List Reply → List (Case × List Unreachable)
  | r :: rs, answer :: answers =>
    match r.case?, answer with
    | .ok c, .ok warnings => (c, warnings) :: added rs answers
    | _, _ => added rs answers
  | _, _ => []

/-- All warnings that were given. -/
def warningsOf : List Reply → List Unreachable
  | [] => []
  | .ok warnings :: rest => warnings ++ warningsOf rest
  | .error _ :: rest => warningsOf rest

/-- The cases that were appended without a warning. -/
def reachable (rs : List Request) (answers : List Reply) : Cases :=
  ((added rs answers).filter (·.2.isEmpty)).map Prod.fst

/-- A schema that accepts everything, and that no predicate refines, was declared earlier. -/
def CatchAllBefore (rs : List Request) (answers : List Reply) (i : Nat) : Prop :=
  ∃ j < i, ∃ b, Adds rs answers j b ∧ b.schema = .unknown

/-- The answers to requests, made to a builder without cases, warn of the unreachable cases among
those that it has in the end. -/
structure WarnsExactly [Logging] (rs : List Request) (answers : List Reply) (cases : Cases) :
    Prop where
  answered : answers.length = rs.length
  warned : ∀ i warnings, answers[i]? = some (.ok warnings) → ∃ c, Adds rs answers i c ∧
    (CatchAllBefore rs answers i → warnings = [⟨c.schema⟩]) ∧
    (¬ CatchAllBefore rs answers i → warnings = [])
  appended : cases = (added rs answers).map Prod.fst
  count : (warningsOf answers).length = (cases.dropWhile (!·.schema.isUnknown)).tail.length
  dispatch_reachable : ∀ v, dispatch v (reachable rs answers) = dispatch v cases
  matched : (∃ c ∈ cases, c.schema = .unknown) →
    ∀ v u tried, (dispatch v cases).outcome ≠ .error (.noMatch u tried)

/-! ## What each request is answered -/

@[simp]
theorem adds_succ_iff (r : Request) (rs : List Request) (answer : Reply) (answers : List Reply)
    (i : Nat) (c : Case) : Adds (r :: rs) (answer :: answers) (i + 1) c ↔ Adds rs answers i c := by
  simp [Adds]

section

variable (cases : Cases) (r : Request) (rest : List Request) (answers : List Reply)

theorem adds_zero_iff (c : Case) :
    Adds (r :: rest) ((cases.grow r).map (·.2) :: answers) 0 c ↔
      ∃ warnings, cases.grow r = .ok (cases ++ [c], warnings) := by
  constructor
  · rintro ⟨_, warnings, hr, hc, hanswer⟩
    cases hr
    obtain ⟨⟨cases', warnings'⟩, hgrow, rfl⟩ := map_eq_ok (Option.some.inj hanswer)
    obtain ⟨d, hd, rfl, _⟩ := Cases.grow_ok hgrow
    obtain rfl : d = c := Except.ok.inj (hd.symm.trans hc)
    exact ⟨warnings', hgrow⟩
  · rintro ⟨warnings, hgrow⟩
    obtain ⟨d, hd, happended, _⟩ := Cases.grow_ok hgrow
    obtain rfl : c = d := by simpa using happended
    exact ⟨r, warnings, rfl, hd, by rw [hgrow]; rfl⟩

/-- What a builder holds after a request is what it held, and the case added. -/
theorem mem_afterRequest_iff (b : Case) :
    b ∈ afterRequest Cases.grow cases r ↔
      b ∈ cases ∨ Adds (r :: rest) ((cases.grow r).map (·.2) :: answers) 0 b := by
  rw [adds_zero_iff]
  cases hgrow : cases.grow r with
  | error e =>
    rw [afterRequest_of_error hgrow]
    simp
  | ok p =>
    obtain ⟨cases', warnings⟩ := p
    obtain ⟨c, _, rfl, _⟩ := Cases.grow_ok hgrow
    rw [afterRequest_of_ok hgrow]
    simp [eq_comm]

/-- After a request, the case added counts among those that the builder holds. -/
theorem catchAllBefore_succ_iff (i : Nat) :
    (∃ b ∈ afterRequest Cases.grow cases r, b.schema = .unknown) ∨ CatchAllBefore rest answers i ↔
      (∃ b ∈ cases, b.schema = .unknown) ∨
        CatchAllBefore (r :: rest) ((cases.grow r).map (·.2) :: answers) (i + 1) := by
  simp only [mem_afterRequest_iff cases r rest answers, CatchAllBefore, Nat.exists_lt_succ_left,
    adds_succ_iff]
  grind

end

/-- An answer without an error tells of the case added, and warns if one before it, or one that was
there from the start, accepts everything. -/
theorem replies_warn {cases : Cases} {rs : List Request} {i : Nat} {warnings : List Unreachable}
    (h : (replies Cases.grow cases rs)[i]? = some (.ok warnings)) :
    ∃ c, Adds rs (replies Cases.grow cases rs) i c ∧
      ((∃ b ∈ cases, b.schema = .unknown) ∨ CatchAllBefore rs (replies Cases.grow cases rs) i →
        warnings = [⟨c.schema⟩]) ∧
      (¬ ((∃ b ∈ cases, b.schema = .unknown) ∨
        CatchAllBefore rs (replies Cases.grow cases rs) i) → warnings = []) := by
  induction rs generalizing cases i with
  | nil => simp [replies] at h
  | cons r rest ih =>
    rw [replies] at h ⊢
    cases i with
    | zero =>
      obtain ⟨⟨cases', _⟩, hgrow, rfl⟩ := map_eq_ok (Option.some.inj h)
      obtain ⟨c, hc, _, rfl⟩ := Cases.grow_ok hgrow
      refine ⟨c, ⟨r, _, rfl, hc, h⟩, ?_, ?_⟩
      · rintro (hunknown | ⟨j, hj, _⟩)
        · exact Cases.append_of_unknown hunknown c
        · omega
      · intro hnone
        exact Cases.append_of_not_unknown (fun hunknown => hnone (.inl hunknown)) c
    | succ i =>
      obtain ⟨c, hadds, hwarned, hsilent⟩ := ih (List.getElem?_cons_succ ▸ h)
      have hbefore := catchAllBefore_succ_iff cases r rest
        (replies Cases.grow (afterRequest Cases.grow cases r) rest) i
      exact ⟨c, (adds_succ_iff ..).mpr hadds, fun h => hwarned (hbefore.mpr h),
        fun h => hsilent (mt hbefore.mp h)⟩

/-! ## The warnings of a case list -/

/-- Behind the cases given, each case comes with the warnings that appending it gives. -/
def Marked (cases : Cases) : List (Case × List Unreachable) → Prop
  | [] => True
  | (c, warnings) :: rest => warnings = (cases.append c).2 ∧ Marked (cases ++ [c]) rest

theorem added_of_error (r : Request) (rs : List Request) (e : BuildError) (answers : List Reply) :
    added (r :: rs) (.error e :: answers) = added rs answers := by
  rw [added]
  intro c warnings _ hanswer
  cases hanswer

theorem added_of_ok {r : Request} {c : Case} (h : r.case? = .ok c) (rs : List Request)
    (warnings : List Unreachable) (answers : List Reply) :
    added (r :: rs) (.ok warnings :: answers) = (c, warnings) :: added rs answers := by
  simp only [added, h]

theorem warningsOf_replies (cases : Cases) (rs : List Request) :
    warningsOf (replies Cases.grow cases rs) =
      (added rs (replies Cases.grow cases rs)).flatMap Prod.snd := by
  induction rs generalizing cases with
  | nil => rfl
  | cons r rest ih =>
    rw [replies]
    cases hgrow : cases.grow r with
    | error e => rw [Except.map, added_of_error, warningsOf, ih]
    | ok p =>
      obtain ⟨c, hc, _⟩ := Cases.grow_ok hgrow
      rw [Except.map, added_of_ok hc, warningsOf, ih, List.flatMap_cons]

theorem built_eq_append_added (cases : Cases) (rs : List Request) :
    built Cases.grow cases rs =
        cases ++ (added rs (replies Cases.grow cases rs)).map Prod.fst ∧
      Marked cases (added rs (replies Cases.grow cases rs)) := by
  induction rs generalizing cases with
  | nil => exact ⟨(List.append_nil _).symm, trivial⟩
  | cons r rest ih =>
    have hbuilt : built Cases.grow cases (r :: rest) =
        built Cases.grow (afterRequest Cases.grow cases r) rest := rfl
    rw [hbuilt, replies]
    cases hgrow : cases.grow r with
    | error e =>
      rw [afterRequest_of_error hgrow, Except.map, added_of_error]
      exact ih cases
    | ok p =>
      obtain ⟨cases', warnings⟩ := p
      obtain ⟨c, hc, rfl, hwarnings⟩ := Cases.grow_ok hgrow
      obtain ⟨hrest, hmarked⟩ := ih (cases ++ [c])
      rw [afterRequest_of_ok hgrow, Except.map, added_of_ok hc]
      refine ⟨?_, hwarnings, hmarked⟩
      rw [hrest, List.map_cons, List.append_assoc]
      rfl

theorem Marked.of_unknown {cases : Cases} {ps : List (Case × List Unreachable)}
    (h : Marked cases ps) (hunknown : ∃ b ∈ cases, b.schema = .unknown) :
    ∀ p ∈ ps, p.2 = [⟨p.1.schema⟩] := by
  induction ps generalizing cases with
  | nil => simp
  | cons p rest ih =>
    obtain ⟨c, warnings⟩ := p
    obtain ⟨hwarnings, hrest⟩ := h
    rw [Cases.append_of_unknown hunknown] at hwarnings
    obtain ⟨b, hb, hschema⟩ := hunknown
    refine List.forall_mem_cons.mpr ⟨hwarnings, ?_⟩
    exact ih hrest ⟨b, List.mem_append_left _ hb, hschema⟩

/-- The case accepts some values only, and there is no warning about it. -/
def Unmarked (p : Case × List Unreachable) : Prop := p.1.schema ≠ .unknown ∧ p.2 = []

/-- Either no case accepts everything, and there is no warning, or there is a first one that does,
and there is a warning for each case after it. -/
theorem Marked.split {cases : Cases} {ps : List (Case × List Unreachable)} (h : Marked cases ps)
    (hnone : ¬ ∃ b ∈ cases, b.schema = .unknown) :
    (∀ p ∈ ps, Unmarked p) ∨
      ∃ before c after, ps = before ++ (c, []) :: after ∧ (∀ p ∈ before, Unmarked p) ∧
        c.schema = .unknown ∧ ∀ p ∈ after, p.2 = [⟨p.1.schema⟩] := by
  induction ps generalizing cases with
  | nil => exact .inl (by simp)
  | cons p rest ih =>
    obtain ⟨c, warnings⟩ := p
    obtain ⟨hwarnings, hrest⟩ := h
    rw [Cases.append_of_not_unknown hnone] at hwarnings
    subst hwarnings
    by_cases hc : c.schema = .unknown
    · exact .inr ⟨[], c, rest, rfl, by simp, hc, hrest.of_unknown ⟨c, by simp, hc⟩⟩
    · have hnone' : ¬ ∃ b ∈ cases ++ [c], b.schema = .unknown := by
        rintro ⟨b, hb, hschema⟩
        rcases List.mem_append.mp hb with hb | hb
        · exact hnone ⟨b, hb, hschema⟩
        · exact hc (List.mem_singleton.mp hb ▸ hschema)
      rcases ih hrest hnone' with hall | ⟨before, d, after, rfl, hbefore, hd, hafter⟩
      · exact .inl (List.forall_mem_cons.mpr ⟨⟨hc, rfl⟩, hall⟩)
      · exact .inr ⟨(c, []) :: before, d, after, rfl,
          List.forall_mem_cons.mpr ⟨⟨hc, rfl⟩, hbefore⟩, hd, hafter⟩

/-! ## Values never get past a case that accepts everything -/

theorem Case.not_rejects_of_unknown {c : Case} (h : c.schema = .unknown) (v : Value) :
    ¬ c.Rejects v := by
  rintro ⟨f, hf⟩
  rw [h] at hf
  cases hf

theorem exists_firstAt_of_unknown {cases : Cases} (h : ∃ c ∈ cases, c.schema = .unknown)
    (v : Value) : ∃ i c, FirstAt v cases i c := by
  obtain ⟨c, hc, hschema⟩ := h
  rcases exists_firstAt v cases with hall | hfirst
  · exact absurd (hall c hc) (Case.not_rejects_of_unknown hschema v)
  · exact hfirst

section

variable [Logging]

theorem dispatch_append_of_unknown {cases : Cases} (h : ∃ c ∈ cases, c.schema = .unknown)
    (v : Value) (others : Cases) : dispatch v (cases ++ others) = dispatch v cases := by
  obtain ⟨i, c, hfirst⟩ := exists_firstAt_of_unknown h v
  rw [hfirst.dispatch_eq, (hfirst.append others).dispatch_eq]
  exact dispatchFrom_cons_congr hfirst.decides _ _

theorem Case.run_ne_noMatch (c : Case) (i : Nat) (v w u : Value) (tried : List Schema) :
    (c.run i v w).outcome ≠ .error (.noMatch u tried) := by
  rw [Case.run, Run.noting]
  split
  · simp
  · cases c.handler.apply w <;> simp [Except.mapError]

theorem FirstAt.ne_noMatch {v : Value} {cases : List Case} {i : Nat} {c : Case}
    (h : FirstAt v cases i c) (u : Value) (tried : List Schema) :
    (dispatch v cases).outcome ≠ .error (.noMatch u tried) := by
  rw [h.dispatch_eq, dispatchFrom]
  cases hv : c.schema.validate v with
  | kept => exact c.run_ne_noMatch i v v u tried
  | changed w => exact c.run_ne_noMatch i v w u tried
  | rejected f => exact absurd ⟨f, hv⟩ h.decides
  | raised fault => simp
  | astray answer => simp

end

/-! ## Leaving out what was warned of -/

section

variable {ps : List (Case × List Unreachable)}

theorem filter_of_unmarked (h : ∀ p ∈ ps, Unmarked p) : ps.filter (·.2.isEmpty) = ps :=
  List.filter_eq_self.mpr fun p hp => by simp [(h p hp).2]

theorem filter_of_marked (h : ∀ p ∈ ps, p.2 = [⟨p.1.schema⟩]) : ps.filter (·.2.isEmpty) = [] :=
  List.filter_eq_nil_iff.mpr fun p hp => by simp [h p hp]

theorem flatMap_of_unmarked (h : ∀ p ∈ ps, Unmarked p) : ps.flatMap Prod.snd = [] :=
  List.flatMap_eq_nil_iff.mpr fun p hp => (h p hp).2

theorem length_flatMap_of_marked (h : ∀ p ∈ ps, p.2 = [⟨p.1.schema⟩]) :
    (ps.flatMap Prod.snd).length = ps.length := by
  induction ps with
  | nil => rfl
  | cons p rest ih =>
    obtain ⟨hp, hrest⟩ := List.forall_mem_cons.mp h
    rw [List.flatMap_cons, List.length_append, ih hrest, hp, List.length_singleton,
      List.length_cons, Nat.add_comm]

theorem dropWhile_of_unmarked (h : ∀ p ∈ ps, Unmarked p) (others : Cases) :
    (ps.map Prod.fst ++ others).dropWhile (!·.schema.isUnknown) =
      others.dropWhile (!·.schema.isUnknown) := by
  apply List.dropWhile_append_of_pos
  intro c hc
  obtain ⟨p, hp, rfl⟩ := List.mem_map.mp hc
  have hknown : p.1.schema.isUnknown = false :=
    Bool.eq_false_iff.mpr (mt (Schema.isUnknown_iff _).mp (h p hp).1)
  rw [hknown]
  rfl

/-- There are as many warnings as there are cases after the first that accepts everything. -/
theorem Marked.count (h : Marked [] ps) :
    (ps.flatMap Prod.snd).length =
      ((ps.map Prod.fst).dropWhile (!·.schema.isUnknown)).tail.length := by
  rcases h.split (by simp) with hall | ⟨before, c, after, rfl, hbefore, hc, hafter⟩
  · have hdrop := dropWhile_of_unmarked hall []
    rw [List.append_nil] at hdrop
    rw [flatMap_of_unmarked hall, hdrop]
    rfl
  · have hunknown : c.schema.isUnknown = true := (Schema.isUnknown_iff _).mpr hc
    rw [List.flatMap_append, flatMap_of_unmarked hbefore, List.map_append,
      dropWhile_of_unmarked hbefore, List.flatMap_cons, List.map_cons,
      List.dropWhile_cons_of_neg (by simp [hunknown])]
    simpa using length_flatMap_of_marked hafter

theorem Marked.dispatch_filter [Logging] (h : Marked [] ps) (v : Value) :
    dispatch v ((ps.filter (·.2.isEmpty)).map Prod.fst) = dispatch v (ps.map Prod.fst) := by
  rcases h.split (by simp) with hall | ⟨before, c, after, rfl, hbefore, hc, hafter⟩
  · rw [filter_of_unmarked hall]
  · have hcases : (before ++ (c, []) :: after).map Prod.fst =
        (before ++ [(c, [])]).map Prod.fst ++ after.map Prod.fst := by simp
    rw [List.filter_append, filter_of_unmarked hbefore, List.filter_cons_of_pos rfl,
      filter_of_marked hafter, hcases]
    exact (dispatch_append_of_unknown ⟨c, by simp, hc⟩ v _).symm

end

theorem warnsExactly [Logging] (rs : List Request) :
    WarnsExactly rs (replies Cases.grow [] rs) (built Cases.grow [] rs) := by
  obtain ⟨happended, hmarked⟩ := built_eq_append_added [] rs
  rw [List.nil_append] at happended
  refine ⟨replies_length _ _ _, ?_, happended, ?_, ?_, ?_⟩
  · intro i warnings h
    simpa using replies_warn h
  · rw [happended, warningsOf_replies]
    exact hmarked.count
  · rw [happended]
    exact hmarked.dispatch_filter
  · intro hunknown v u tried
    obtain ⟨i, c, hfirst⟩ := exists_firstAt_of_unknown hunknown v
    exact hfirst.ne_noMatch u tried

/-! ## Loading -/

/-- All warnings, unless a request fails: loading ends there. -/
def collect : List Reply → Reply
  | [] => .ok []
  | .ok warnings :: rest => (collect rest).map (warnings ++ ·)
  | .error e :: _ => .error e

def CaseConfig.request (c : CaseConfig) : Request :=
  .case (.schema c.schema) [actionHandler c.action]

/-- What a configuration asks for. -/
def MatcherConfig.requests (c : MatcherConfig) : List Request :=
  c.cases.map CaseConfig.request ++
    if c.hasDefault then [.default (actionHandler c.default)] else []

theorem collect_append (answers others : List Reply) :
    collect (answers ++ others) =
      (do return (← collect answers) ++ (← collect others)) := by
  induction answers with
  | nil => cases h : collect others <;> simp [collect, h, bind, Except.bind, pure, Except.pure]
  | cons answer rest ih =>
    cases answer with
    | error e => rfl
    | ok warnings =>
      rw [List.cons_append, collect, collect, ih]
      cases collect rest <;> cases collect others <;>
        simp [bind, Except.bind, pure, Except.pure, Except.map]

theorem MatcherConfig.addCases_eq (m : Matcher) (warnings : List Unreachable)
    (cs : List CaseConfig) :
    addCases m warnings cs = (collect (replies Matcher.grow m (cs.map CaseConfig.request))).map
      fun more => (built Matcher.grow m (cs.map CaseConfig.request), warnings ++ more) := by
  induction cs generalizing m warnings with
  | nil => simp [addCases, collect, replies, built, Except.map]
  | cons c rest ih =>
    have hgrow : m.case (.schema c.schema) [actionHandler c.action] = m.grow c.request := rfl
    have hbuilt : built Matcher.grow m ((c :: rest).map CaseConfig.request) =
      built Matcher.grow (afterRequest Matcher.grow m c.request)
        (rest.map CaseConfig.request) := rfl
    rw [addCases, hgrow, hbuilt, List.map_cons, replies, afterRequest]
    cases m.grow c.request with
    | error e => rfl
    | ok p =>
      obtain ⟨m', more⟩ := p
      show addCases m' (warnings ++ more) rest = _
      rw [ih, Except.map, collect]
      cases collect (replies Matcher.grow m' (rest.map CaseConfig.request)) <;>
        simp [Except.map]

/-- Loading makes all requests of a configuration, until one fails. -/
theorem MatcherConfig.load_eq (c : MatcherConfig) :
    c.load = (collect (replies Matcher.grow .start c.requests)).map fun warnings =>
      ⟨built Matcher.grow .start c.requests, warnings,
        [.loaded c.cases.length c.hasDefault]⟩ := by
  rw [load, addCases_eq, requests, replies_append, collect_append, built_append]
  cases collect (replies Matcher.grow .start (c.cases.map CaseConfig.request)) with
  | error e => rfl
  | ok warnings =>
    cases c.hasDefault with
    | false => simp [replies, collect, built, bind, Except.bind, pure, Except.pure, Except.map]
    | true =>
      simp [replies, collect, built, bind, Except.bind, pure, Except.pure, Except.map,
        Matcher.grow, afterRequest]

/-- However a builder got its cases, request by request or from a configuration, there is one
warning for each case after the first that accepts everything, and there are no others. Without
the cases warned of, every value gets the same answer, and leaves the same note. -/
theorem warnings_exact [Logging] :
    (∀ v rs, WarnsExactly rs (replies Match.grow (.start v) rs)
      (built Match.grow (.start v) rs).cases) ∧
    (∀ rs, WarnsExactly rs (replies Matcher.grow .start rs)
      (built Matcher.grow .start rs).cases) ∧
    ∀ c : MatcherConfig, c.load =
      (collect (replies Matcher.grow .start c.requests)).map fun warnings =>
        ⟨built Matcher.grow .start c.requests, warnings,
          [.loaded c.cases.length c.hasDefault]⟩ := by
  refine ⟨fun v rs => ?_, fun rs => ?_, MatcherConfig.load_eq⟩
  · obtain ⟨hbuilt, hreplies⟩ := Match.built_eq v rs
    rw [hbuilt, hreplies]
    exact warnsExactly rs
  · obtain ⟨hbuilt, hreplies⟩ := Matcher.built_eq rs
    rw [hbuilt, hreplies]
    exact warnsExactly rs

/-- A predicate makes a schema accept some values only. -/
example : replies Matcher.grow .start [.case (.schema .unknown) [Function.itself, Function.itself],
    .default Function.itself, .default Function.itself] = [.ok [], .ok [], .ok [⟨.unknown⟩]] := rfl

end ShapeMatch
