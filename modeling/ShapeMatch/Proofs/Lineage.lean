import ShapeMatch.Matcher.Session
import ShapeMatch.Proofs.Building

/-!
Descent. Builders are extended in several directions, and steps that fail come in between. The
cases of a builder are those of its ancestors and its own, whatever else happened (`lineage_iff`),
and whoever reads from it gets an answer for these cases.
-/

namespace ShapeMatch

variable [RegexEngine]

/-- The name under which a step keeps its result. -/
def Step.as? : Step → Option String
  | .startMatch _ as | .startMatcher as | .case _ _ _ as | .default _ _ as | .get _ as => some as
  | .call _ _ | .show _ => none

/-- Whom a step asks, and for what. -/
def Step.request? : Step → Option (String × Request)
  | .case on s fns _ => some (on, .case s fns)
  | .default on handler _ => some (on, .default handler)
  | _ => none

/-- The value that something is bound to. -/
def Made.origin : Made → Option Value
  | .bound m => some m.value
  | .deferred _ | .dispatcher _ => none

/-- What a request makes of something. A dispatcher takes none. -/
def Made.grow? : Made → Request → Option (Except BuildError (Made × List Unreachable))
  | .bound m, r => some ((m.grow r).map fun p => (.bound p.1, p.2))
  | .deferred m, r => some ((m.grow r).map fun p => (.deferred p.1, p.2))
  | .dispatcher _, _ => none

theorem Made.grow?_ok {m m' : Made} {r : Request} {warnings : List Unreachable}
    (h : m.grow? r = some (.ok (m', warnings))) :
    m'.origin = m.origin ∧ ∃ c, r.case? = .ok c ∧ m'.cases = m.cases ++ [c] := by
  cases m with
  | bound m =>
    obtain ⟨⟨n, _⟩, hgrow, heq⟩ := map_eq_ok (Option.some.inj h)
    cases heq
    obtain ⟨c, hc, rfl⟩ := Match.grow_ok hgrow
    exact ⟨rfl, c, hc, rfl⟩
  | deferred m =>
    obtain ⟨⟨n, _⟩, hgrow, heq⟩ := map_eq_ok (Option.some.inj h)
    cases heq
    obtain ⟨c, hc, rfl⟩ := Matcher.grow_ok hgrow
    exact ⟨rfl, c, hc, rfl⟩
  | dispatcher d => cases h

namespace Session

/-! ## Requests -/

/-- Answers a request. If it fails, nothing is kept. -/
def request (session : Session) (subject : Option Made) (member : String) (r : Request)
    (as : String) : Session × Answer :=
  match subject.bind (·.grow? r) with
  | some (.ok (m, warnings)) => session.keep as m warnings
  | some (.error e) => (session, .failed e)
  | none => (session, .misused (.lacks subject member))

/-- What a step leaves when it makes nothing: all that was there. -/
def MakesNothing (session : Session) (p : Session × Answer) : Prop :=
  p.1 = session ∧ ∀ m warnings, p.2 ≠ .made m warnings

theorem request_cases (session : Session) (subject : Option Made) (member : String) (r : Request)
    (as : String) :
    (∃ parent m warnings, subject = some parent ∧ parent.grow? r = some (.ok (m, warnings)) ∧
        session.request subject member r as = ((as, m) :: session, .made m warnings)) ∨
      session.MakesNothing (session.request subject member r as) := by
  rw [request]
  cases hgrow : subject.bind (·.grow? r) with
  | none => exact .inr ⟨rfl, by simp⟩
  | some result =>
    cases result with
    | error e => exact .inr ⟨rfl, by simp⟩
    | ok p =>
      obtain ⟨parent, hsubject, hparent⟩ := Option.bind_eq_some_iff.mp hgrow
      exact .inl ⟨parent, p.1, p.2, hsubject, hparent, rfl⟩

/-- How a step makes something out of the results so far. -/
inductive Makes (session : Session) : Step → Made → Prop where
  | startMatch (v : Value) (as : String) : Makes session (.startMatch v as) (.bound (.start v))
  | startMatcher (as : String) : Makes session (.startMatcher as) (.deferred .start)
  | request {st : Step} {on : String} {r : Request} {m parent : Made} {warnings : List Unreachable}
      (hrequest : st.request? = some (on, r)) (hlookup : session.lookup on = some parent)
      (hgrow : parent.grow? r = some (.ok (m, warnings))) : Makes session st m
  | get {on as : String} {m : Matcher} (hlookup : session.lookup on = some (.deferred m)) :
      Makes session (.get on as) (.dispatcher m.get)

/-! ## Descent -/

variable [Logging]

/-- The results after some more steps. -/
def after (session : Session) (steps : List Step) : Session :=
  steps.foldl (fun session st => (session.step st).1) session

/-- The step at an index made this and kept it under this name. -/
def Keeps (steps : List Step) (i : Nat) (as : String) (m : Made) : Prop :=
  ∃ st warnings, steps[i]? = some st ∧ st.as? = some as ∧
    (run [] steps)[i]? = some (.made m warnings)

/-- Before the step at index `i`, this name is that of what the step at index `j` made. -/
structure Names (steps : List Step) (i : Nat) (on : String) (j : Nat) (m : Made) : Prop where
  before : j < i
  keeps : Keeps steps j on m
  latest : ∀ k, j < k → k < i → ∀ m', ¬ Keeps steps k on m'

/-- What the step at an index made is bound to this value, or to none, and has these cases: one for
each request among its ancestors. -/
inductive Lineage (steps : List Step) : Nat → Option Value → Cases → Prop where
  | startMatch {i : Nat} {v : Value} {as : String} (hstep : steps[i]? = some (.startMatch v as)) :
      Lineage steps i (some v) []
  | startMatcher {i : Nat} {as : String} (hstep : steps[i]? = some (.startMatcher as)) :
      Lineage steps i none []
  | request {i j : Nat} {st : Step} {on : String} {r : Request} {c : Case} {parent : Made}
      {origin : Option Value} {cases : Cases} (hstep : steps[i]? = some st)
      (hrequest : st.request? = some (on, r)) (hmade : ∃ as m, Keeps steps i as m)
      (hnames : Names steps i on j parent) (hparent : Lineage steps j origin cases)
      (hcase : r.case? = .ok c) : Lineage steps i origin (cases ++ [c])
  | get {i j : Nat} {on as : String} {parent : Made} {origin : Option Value} {cases : Cases}
      (hstep : steps[i]? = some (.get on as)) (hmade : ∃ as m, Keeps steps i as m)
      (hnames : Names steps i on j parent) (hparent : Lineage steps j origin cases) :
      Lineage steps i origin cases

/-! ## One step -/

theorem step_case (session : Session) (on : String) (s : Shorthand) (fns : List Function)
    (as : String) : session.step (.case on s fns as) =
      session.request (session.lookup on) "case" (.case s fns) as := by
  rw [step]
  cases session.lookup on with
  | none => rfl
  | some subject =>
    cases subject with
    | bound m =>
      have hgrow : m.grow (.case s fns) = m.case s fns := rfl
      simp only [request, Option.bind_some, Made.grow?, hgrow]
      cases m.case s fns <;> rfl
    | deferred m =>
      have hgrow : m.grow (.case s fns) = m.case s fns := rfl
      simp only [request, Option.bind_some, Made.grow?, hgrow]
      cases m.case s fns <;> rfl
    | dispatcher d => rfl

theorem step_default (session : Session) (on : String) (handler : Function) (as : String) :
    session.step (.default on handler as) =
      session.request (session.lookup on) "default" (.default handler) as := by
  rw [step]
  cases session.lookup on with
  | none => rfl
  | some subject => cases subject <;> rfl

/-- A step that makes something keeps it beside all that was there. -/
theorem step_cases (session : Session) (st : Step) :
    (∃ as m warnings, st.as? = some as ∧ Makes session st m ∧
        session.step st = ((as, m) :: session, .made m warnings)) ∨
      session.MakesNothing (session.step st) := by
  cases st with
  | startMatch v as => exact .inl ⟨as, _, _, rfl, .startMatch v as, rfl⟩
  | startMatcher as => exact .inl ⟨as, _, _, rfl, .startMatcher as, rfl⟩
  | case on s fns as =>
    rw [step_case]
    rcases session.request_cases (session.lookup on) "case" (.case s fns) as with
      ⟨parent, m, warnings, hlookup, hgrow, hmade⟩ | hnothing
    · exact .inl ⟨as, m, warnings, rfl, .request rfl hlookup hgrow, hmade⟩
    · exact .inr hnothing
  | default on handler as =>
    rw [step_default]
    rcases session.request_cases (session.lookup on) "default" (.default handler) as with
      ⟨parent, m, warnings, hlookup, hgrow, hmade⟩ | hnothing
    · exact .inl ⟨as, m, warnings, rfl, .request rfl hlookup hgrow, hmade⟩
    · exact .inr hnothing
  | get on as =>
    rw [step]
    cases hlookup : session.lookup on with
    | none => exact .inr ⟨rfl, by simp⟩
    | some subject =>
      cases subject with
      | bound m => exact .inr ⟨rfl, by simp⟩
      | deferred m => exact .inl ⟨as, _, _, rfl, .get hlookup, rfl⟩
      | dispatcher d => exact .inr ⟨rfl, by simp⟩
  | call on v =>
    rw [step]
    split
    · exact .inr ⟨rfl, by simp⟩
    · exact .inr ⟨rfl, by simp⟩
  | «show» on =>
    rw [step]
    split
    · exact .inr ⟨rfl, by simp⟩
    · exact .inr ⟨rfl, by simp⟩

/-! ## Names -/

theorem run_getElem? (session : Session) (steps : List Step) (i : Nat) :
    (session.run steps)[i]? =
      steps[i]?.map fun st => ((session.after (steps.take i)).step st).2 := by
  induction steps generalizing session i with
  | nil => rfl
  | cons st rest ih =>
    cases i with
    | zero => rfl
    | succ i => exact ih (session.step st).1 i

theorem after_take_succ (session : Session) {steps : List Step} {i : Nat} {st : Step}
    (h : steps[i]? = some st) :
    session.after (steps.take (i + 1)) = ((session.after (steps.take i)).step st).1 := by
  rw [List.take_add_one, h, after, List.foldl_append]
  rfl

section

variable {steps : List Step} {i j : Nat} {on as : String} {m : Made} {st : Step}

theorem Keeps.unique {as' : String} {m' : Made} (h : Keeps steps i as m)
    (h' : Keeps steps i as' m') : as = as' ∧ m = m' := by
  obtain ⟨st, warnings, hst, has, hanswer⟩ := h
  obtain ⟨st', warnings', hst', has', hanswer'⟩ := h'
  obtain rfl : st = st' := Option.some.inj (hst.symm.trans hst')
  rw [hanswer] at hanswer'
  cases hanswer'
  exact ⟨Option.some.inj (has.symm.trans has'), rfl⟩

/-- What is kept was made from the results so far, which are left as they are. -/
theorem Keeps.makes (h : Keeps steps i as m) :
    ∃ st, steps[i]? = some st ∧ Makes (after [] (steps.take i)) st m ∧
      after [] (steps.take (i + 1)) = (as, m) :: after [] (steps.take i) := by
  obtain ⟨st, warnings, hst, has, hanswer⟩ := h
  rw [run_getElem?, hst, Option.map_some] at hanswer
  refine ⟨st, hst, ?_⟩
  rw [after_take_succ [] hst]
  rcases (after [] (steps.take i)).step_cases st with
    ⟨as', m', warnings', has', hmakes, hstep⟩ | ⟨_, hnothing⟩
  · rw [hstep] at hanswer ⊢
    cases hanswer
    obtain rfl : as = as' := Option.some.inj (has.symm.trans has')
    exact ⟨hmakes, rfl⟩
  · exact absurd (Option.some.inj hanswer) (hnothing m warnings)

theorem Keeps.makes_of_step (h : Keeps steps i as m) (hst : steps[i]? = some st) :
    Makes (after [] (steps.take i)) st m := by
  obtain ⟨st', hst', hmakes, _⟩ := h.makes
  obtain rfl : st = st' := Option.some.inj (hst.symm.trans hst')
  exact hmakes

/-- A step that keeps nothing leaves all as it was. -/
theorem after_of_not_keeps (h : ∀ as m, ¬ Keeps steps i as m) :
    after [] (steps.take (i + 1)) = after [] (steps.take i) := by
  cases hst : steps[i]? with
  | none =>
    have hlength : steps.length ≤ i := List.getElem?_eq_none_iff.mp hst
    rw [List.take_of_length_le hlength, List.take_of_length_le (by omega)]
  | some st =>
    rw [after_take_succ [] hst]
    rcases (after [] (steps.take i)).step_cases st with
      ⟨as, m, warnings, has, _, hstep⟩ | ⟨hsame, _⟩
    · have hanswer : (run [] steps)[i]? = some (.made m warnings) := by
        rw [run_getElem?, hst, Option.map_some, hstep]
      exact absurd ⟨st, warnings, hst, has, hanswer⟩ (h as m)
    · exact hsame

theorem keeps_of_made {warnings : List Unreachable}
    (h : (run [] steps)[i]? = some (.made m warnings)) : ∃ as, Keeps steps i as m := by
  have hanswer := h
  rw [run_getElem?] at hanswer
  obtain ⟨st, hst, hstep⟩ := Option.map_eq_some_iff.mp hanswer
  rcases (after [] (steps.take i)).step_cases st with
    ⟨as, _, _, has, _, _⟩ | ⟨_, hnothing⟩
  · exact ⟨as, st, warnings, hst, has, h⟩
  · exact absurd hstep (hnothing m warnings)

theorem names_succ_of_keeps (h : Keeps steps i on m) : Names steps (i + 1) on i m :=
  ⟨by omega, h, fun k hk hk' => by omega⟩

theorem names_succ_iff (h : ∀ m', ¬ Keeps steps i on m') :
    Names steps (i + 1) on j m ↔ Names steps i on j m := by
  constructor
  · rintro ⟨hbefore, hkeeps, hlatest⟩
    have hne : j ≠ i := by
      rintro rfl
      exact h m hkeeps
    exact ⟨by omega, hkeeps, fun k hk hk' => hlatest k hk (by omega)⟩
  · rintro ⟨hbefore, hkeeps, hlatest⟩
    refine ⟨by omega, hkeeps, fun k hk hk' => ?_⟩
    by_cases hki : k = i
    · exact hki ▸ h
    · exact hlatest k hk (by omega)

theorem Names.unique {j' : Nat} {m' : Made} (h : Names steps i on j m)
    (h' : Names steps i on j' m') : j = j' ∧ m = m' := by
  have hj : j = j' := by
    by_contra hne
    rcases Nat.lt_or_gt_of_ne hne with hlt | hlt
    · exact h.latest j' hlt h'.before m' h'.keeps
    · exact h'.latest j hlt h.before m h.keeps
  subst hj
  exact ⟨rfl, (h.keeps.unique h'.keeps).2⟩

/-- Names are looked up among the results so far. -/
theorem lookup_after_iff (steps : List Step) (i : Nat) (on : String) (m : Made) :
    (after [] (steps.take i)).lookup on = some m ↔ ∃ j, Names steps i on j m := by
  induction i generalizing m with
  | zero =>
    constructor
    · intro h
      cases h
    · rintro ⟨j, hnames⟩
      exact absurd hnames.before (Nat.not_lt_zero j)
  | succ i ih =>
    -- a step can only change what its own name stands for
    by_cases hkept : ∃ m', Keeps steps i on m'
    · obtain ⟨m', hkeeps⟩ := hkept
      have hnames := names_succ_of_keeps hkeeps
      obtain ⟨_, _, _, hafter⟩ := hkeeps.makes
      rw [hafter, List.lookup_cons_self, Option.some_inj]
      constructor
      · rintro rfl
        exact ⟨i, hnames⟩
      · rintro ⟨j, hj⟩
        exact (hnames.unique hj).2
    · have hsame : (after [] (steps.take (i + 1))).lookup on =
          (after [] (steps.take i)).lookup on := by
        by_cases hother : ∃ as m', Keeps steps i as m'
        · obtain ⟨as, m', hkeeps⟩ := hother
          obtain ⟨_, _, _, hafter⟩ := hkeeps.makes
          have hne : on ≠ as := by
            rintro rfl
            exact hkept ⟨m', hkeeps⟩
          rw [hafter, List.lookup_cons, beq_false_of_ne hne]
        · rw [after_of_not_keeps fun as m' h => hother ⟨as, m', h⟩]
      rw [hsame, ih]
      exact exists_congr fun j => (names_succ_iff fun m' h => hkept ⟨m', h⟩).symm

theorem Names.lookup (h : Names steps i on j m) :
    (after [] (steps.take i)).lookup on = some m :=
  (lookup_after_iff steps i on m).mpr ⟨j, h⟩

end

/-! ## Descent -/

section

variable {steps : List Step} {i : Nat} {as : String} {m : Made}

/-- By induction on the index: a step names what steps before it made. -/
theorem Keeps.lineage (h : Keeps steps i as m) : Lineage steps i m.origin m.cases := by
  induction i using Nat.strongRecOn generalizing as m with
  | ind i ih =>
    obtain ⟨st, hst, hmakes, _⟩ := h.makes
    cases hmakes with
    | startMatch v as => exact .startMatch hst
    | startMatcher as => exact .startMatcher hst
    | request hrequest hlookup hgrow =>
      obtain ⟨j, hnames⟩ := (lookup_after_iff steps i _ _).mp hlookup
      obtain ⟨horigin, c, hc, hcases⟩ := Made.grow?_ok hgrow
      rw [horigin, hcases]
      exact .request hst hrequest ⟨as, m, h⟩ hnames (ih j hnames.before hnames.keeps) hc
    | get hlookup =>
      obtain ⟨j, hnames⟩ := (lookup_after_iff steps i _ _).mp hlookup
      have hparent := ih j hnames.before hnames.keeps
      exact .get hst ⟨as, _, h⟩ hnames hparent

theorem Lineage.made {origin : Option Value} {cases : Cases} (h : Lineage steps i origin cases)
    (hkeeps : Keeps steps i as m) : origin = m.origin ∧ cases = m.cases := by
  induction h generalizing as m with
  | startMatch hstep =>
    cases hkeeps.makes_of_step hstep with
    | startMatch v as => exact ⟨rfl, rfl⟩
    | request hrequest _ _ => cases hrequest
  | startMatcher hstep =>
    cases hkeeps.makes_of_step hstep with
    | startMatcher as => exact ⟨rfl, rfl⟩
    | request hrequest _ _ => cases hrequest
  | @request i j st on r c parent origin cases hstep hrequest _ hnames _ hcase ih =>
    obtain ⟨horigin, hcases⟩ := ih hnames.keeps
    cases hkeeps.makes_of_step hstep with
    | request hrequest' hlookup hgrow =>
      rw [hrequest] at hrequest'
      cases hrequest'
      obtain rfl := Option.some.inj (hnames.lookup.symm.trans hlookup)
      obtain ⟨horigin', c', hc', hcases'⟩ := Made.grow?_ok hgrow
      obtain rfl : c = c' := Except.ok.inj (hcase.symm.trans hc')
      exact ⟨horigin.trans horigin'.symm, by rw [hcases', hcases]⟩
    | startMatch v as => cases hrequest
    | startMatcher as => cases hrequest
    | get hlookup => cases hrequest
  | get hstep _ hnames _ ih =>
    cases hkeeps.makes_of_step hstep with
    | request hrequest _ _ => cases hrequest
    | get hlookup =>
      obtain rfl := Option.some.inj (hnames.lookup.symm.trans hlookup)
      have hcases := ih hnames.keeps
      exact hcases

/-- What a step made has its own cases and its own origin by descent, and no others. -/
theorem lineage_iff {warnings : List Unreachable}
    (h : (run [] steps)[i]? = some (.made m warnings)) (origin : Option Value) (cases : Cases) :
    Lineage steps i origin cases ↔ origin = m.origin ∧ cases = m.cases := by
  obtain ⟨as, hkeeps⟩ := keeps_of_made h
  constructor
  · exact fun hlineage => hlineage.made hkeeps
  · rintro ⟨rfl, rfl⟩
    exact hkeeps.lineage

end

/-! ## Reading results -/

section

variable {steps : List Step} {i j : Nat} {on : String}

theorem answer_eq {st : Step} (h : steps[i]? = some st) :
    (run [] steps)[i]? = some ((after [] (steps.take i)).step st).2 := by
  rw [run_getElem?, h, Option.map_some]

/-- A dispatcher answers for the cases it had when it was read. -/
theorem answer_call {v : Value} {d : Dispatcher} {origin : Option Value} {cases : Cases}
    (hstep : steps[i]? = some (.call on v)) (hnames : Names steps i on j (.dispatcher d))
    (hlineage : Lineage steps j origin cases) :
    (run [] steps)[i]? = some (.ran (dispatch v cases)) := by
  obtain ⟨_, rfl⟩ := hlineage.made hnames.keeps
  rw [answer_eq hstep, step, hnames.lookup]
  rfl

theorem answer_get {as : String} {m : Match} {origin : Option Value} {cases : Cases}
    (hstep : steps[i]? = some (.get on as)) (hnames : Names steps i on j (.bound m))
    (hlineage : Lineage steps j origin cases) :
    (run [] steps)[i]? = some (.ran (dispatch m.value cases)) := by
  obtain ⟨_, rfl⟩ := hlineage.made hnames.keeps
  rw [answer_eq hstep, step, hnames.lookup]
  rfl

end

end Session

end ShapeMatch
