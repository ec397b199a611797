import ShapeMatch.Proofs.Lineage
import ShapeMatch.Regex.Engine

/-!
Interchangeable histories. Builders that are bound to a value and builders that are not do the
same with the same steps, and a default does the same as a case for everything. With the descent
of builders this is what holds of whole histories: `history_correct`.
-/

namespace ShapeMatch

section

variable [RegexEngine]

/-- The same builder, if it were not bound to a value. -/
def Made.defer : Made → Made
  | .bound m => .deferred ⟨m.cases⟩
  | m => m

/-- The same step, if it were not for a value. -/
def Step.defer : Step → Step
  | .startMatch _ as => .startMatcher as
  | st => st

def Misuse.defer : Misuse → Misuse
  | .lacks subject member => .lacks (subject.map Made.defer) member
  | .notCallable subject => .notCallable (subject.map Made.defer)

def Answer.defer : Answer → Answer
  | .made m warnings => .made m.defer warnings
  | .misused e => .misused e.defer
  | answer => answer

def Step.isGet : Step → Bool
  | .get _ _ => true
  | _ => false

/-- The member that is asked for, if there were none for defaults. -/
def explicitMember (member : String) : String := if member = "default" then "case" else member

/-- The same step with a case for a default. -/
def Step.explicit : Step → Step
  | .default on handler as => .case on (.schema .unknown) [handler] as
  | st => st

def Answer.explicit : Answer → Answer
  | .misused (.lacks subject member) => .misused (.lacks subject (explicitMember member))
  | answer => answer

theorem Made.grow?_defer (m : Made) (r : Request) :
    m.defer.grow? r = (m.grow? r).map fun result => result.map fun p => (p.1.defer, p.2) := by
  cases m with
  | bound m =>
    simp only [defer, grow?, Matcher.grow_eq, Match.grow_eq, Option.map_some]
    cases m.cases.grow r <;> rfl
  | deferred m =>
    simp only [defer, grow?, Option.map_some]
    cases m.grow r <;> rfl
  | dispatcher d => rfl

theorem Made.grow?_default (m : Made) (handler : Function) :
    m.grow? (.case (.schema .unknown) [handler]) = m.grow? (.default handler) := by
  cases m with
  | bound m => rw [grow?, grow?, Match.grow_eq, Match.grow_eq, Cases.grow_default]
  | deferred m => rw [grow?, grow?, Matcher.grow_eq, Matcher.grow_eq, Cases.grow_default]
  | dispatcher d => rfl

namespace Session

/-! ## Requests -/

def defer (session : Session) : Session := session.map fun p => (p.1, p.2.defer)

theorem lookup_defer (session : Session) (on : String) :
    session.defer.lookup on = (session.lookup on).map Made.defer := by
  induction session with
  | nil => rfl
  | cons p rest ih =>
    obtain ⟨as, m⟩ := p
    rw [defer, List.map_cons, List.lookup_cons, List.lookup_cons]
    cases on == as with
    | true => rfl
    | false => exact ih

theorem request_defer (session : Session) (subject : Option Made) (member : String) (r : Request)
    (as : String) :
    session.defer.request (subject.map Made.defer) member r as =
      ((session.request subject member r as).1.defer,
        (session.request subject member r as).2.defer) := by
  cases subject with
  | none => rfl
  | some m =>
    simp only [request, Option.map_some, Option.bind_some, Made.grow?_defer]
    cases m.grow? r with
    | none => rfl
    | some result => cases result <;> rfl

theorem request_explicit (session : Session) (subject : Option Made) (member : String)
    (r : Request) (as : String) :
    session.request subject (explicitMember member) r as =
      ((session.request subject member r as).1,
        (session.request subject member r as).2.explicit) := by
  rw [request, request]
  cases subject.bind (·.grow? r) with
  | none => rfl
  | some result => cases result <;> rfl

theorem request_default (session : Session) (subject : Option Made) (member : String)
    (handler : Function) (as : String) :
    session.request subject member (.case (.schema .unknown) [handler]) as =
      session.request subject member (.default handler) as := by
  cases subject with
  | none => rfl
  | some m => simp only [request, Option.bind_some, Made.grow?_default]

/-! ## Bound and deferred -/

variable [Logging]

theorem step_defer (session : Session) {st : Step} (h : st.isGet = false) :
    session.defer.step st.defer = ((session.step st).1.defer, (session.step st).2.defer) := by
  cases st with
  | startMatch v as => rfl
  | startMatcher as => rfl
  | case on s fns as =>
    show session.defer.step (.case on s fns as) = _
    rw [step_case, step_case, lookup_defer, request_defer]
  | default on handler as =>
    show session.defer.step (.default on handler as) = _
    rw [step_default, step_default, lookup_defer, request_defer]
  | get on as => cases h
  | call on v =>
    simp only [Step.defer, step, lookup_defer]
    cases session.lookup on with
    | none => rfl
    | some m => cases m <;> rfl
  | «show» on =>
    simp only [Step.defer, step, lookup_defer]
    cases session.lookup on with
    | none => rfl
    | some m => cases m <;> rfl

/-- Without a value to be bound to, everything goes the same way. -/
theorem run_defer (session : Session) {steps : List Step} (h : ∀ st ∈ steps, st.isGet = false) :
    session.defer.run (steps.map Step.defer) = (session.run steps).map Answer.defer ∧
      session.defer.after (steps.map Step.defer) = (session.after steps).defer := by
  induction steps generalizing session with
  | nil => exact ⟨rfl, rfl⟩
  | cons st rest ih =>
    obtain ⟨hst, hrest⟩ := List.forall_mem_cons.mp h
    obtain ⟨hrun, hafter⟩ := ih (session.step st).1 hrest
    constructor
    · rw [List.map_cons, run, step_defer session hst, hrun]
      rfl
    · rw [List.map_cons, after, List.foldl_cons, step_defer session hst]
      exact hafter

theorem get_defer {session : Session} {on : String} {m : Match}
    (h : session.lookup on = some (.bound m)) (as : String) :
    session.run [.get on as] = [.ran m.get] ∧
      session.defer.run [.get on as, .call as m.value] =
        [.made (.dispatcher ⟨m.cases⟩) [], .ran m.get] := by
  have hdefer : session.defer.lookup on = some (.deferred ⟨m.cases⟩) := by
    rw [lookup_defer, h]
    rfl
  constructor
  · simp only [run, step, h]
  · simp only [run, step, hdefer, keep, List.lookup_cons_self]
    rfl

/-! ## Explicit defaults -/

theorem step_explicit (session : Session) (st : Step) :
    session.step st.explicit = ((session.step st).1, (session.step st).2.explicit) := by
  cases st with
  | startMatch v as => rfl
  | startMatcher as => rfl
  | case on s fns as =>
    show session.step (.case on s fns as) = _
    rw [step_case]
    exact request_explicit session _ "case" _ as
  | default on handler as =>
    rw [Step.explicit, step_case, step_default, request_default]
    exact request_explicit session _ "default" _ as
  | get on as =>
    show session.step (.get on as) = _
    rw [step]
    cases session.lookup on with
    | none => rfl
    | some m => cases m <;> rfl
  | call on v =>
    show session.step (.call on v) = _
    rw [step]
    cases session.lookup on with
    | none => rfl
    | some m => cases m <;> rfl
  | «show» on =>
    show session.step (.show on) = _
    rw [step]
    cases session.lookup on <;> rfl

/-- A default can be declared as a case throughout. -/
theorem run_explicit (session : Session) (steps : List Step) :
    session.run (steps.map Step.explicit) = (session.run steps).map Answer.explicit ∧
      session.after (steps.map Step.explicit) = session.after steps := by
  induction steps generalizing session with
  | nil => exact ⟨rfl, rfl⟩
  | cons st rest ih =>
    obtain ⟨hrun, hafter⟩ := ih (session.step st).1
    constructor
    · rw [List.map_cons, run, step_explicit, hrun]
      rfl
    · rw [List.map_cons, after, List.foldl_cons, step_explicit]
      exact hafter

/-! ## Whole histories -/

/-- What holds of a history of steps, from an empty session on. -/
structure HistoryLaws (steps : List Step) : Prop where
  /-- a result has the cases of its own ancestors -/
  lineage : ∀ i m warnings, (run [] steps)[i]? = some (.made m warnings) →
    ∀ origin cases, Lineage steps i origin cases ↔ origin = m.origin ∧ cases = m.cases
  /-- a step adds what it makes -/
  kept : ∀ i as m, Keeps steps i as m →
    after [] (steps.take (i + 1)) = (as, m) :: after [] (steps.take i)
  /-- a step that makes nothing changes nothing -/
  unchanged : ∀ i, (∀ m warnings, (run [] steps)[i]? ≠ some (.made m warnings)) →
    after [] (steps.take (i + 1)) = after [] (steps.take i)
  /-- a dispatcher answers for the cases of the moment at which it was read -/
  called : ∀ i j on v d origin cases, steps[i]? = some (.call on v) →
    Names steps i on j (.dispatcher d) → Lineage steps j origin cases →
      (run [] steps)[i]? = some (.ran (dispatch v cases))
  /-- a builder that is bound to a value answers for its own cases -/
  got : ∀ i j on as m origin cases, steps[i]? = some (.get on as) →
    Names steps i on j (.bound m) → Lineage steps j origin cases →
      (run [] steps)[i]? = some (.ran (dispatch m.value cases))
  /-- builders without values do the same -/
  deferred : (∀ st ∈ steps, st.isGet = false) →
    run [] (steps.map Step.defer) = (run [] steps).map Answer.defer ∧
      ∀ on m, (after [] steps).lookup on = some (.bound m) → ∀ as,
        run (after [] steps) [.get on as] = [.ran m.get] ∧
          run (after [] (steps.map Step.defer)) [.get on as, .call as m.value] =
            [.made (.dispatcher ⟨m.cases⟩) [], .ran m.get]
  /-- cases for defaults do the same -/
  explicit : run [] (steps.map Step.explicit) = (run [] steps).map Answer.explicit ∧
    after [] (steps.map Step.explicit) = after [] steps

/-- Every history obeys these laws, and the same requests get the same answers from a builder that
is bound to a value and from one that is given the value in the end. -/
theorem history_correct (steps : List Step) :
    HistoryLaws steps ∧
      ∀ v rs, replies Match.grow (.start v) rs = replies Matcher.grow .start rs ∧
        (built Match.grow (.start v) rs).get = (built Matcher.grow .start rs).get.call v := by
  refine ⟨⟨?_, ?_, ?_, ?_, ?_, ?_, run_explicit [] steps⟩, ?_⟩
  · intro i m warnings h origin cases
    exact lineage_iff h origin cases
  · intro i as m h
    obtain ⟨_, _, _, hafter⟩ := h.makes
    exact hafter
  · intro i h
    apply after_of_not_keeps
    rintro as m ⟨_, warnings, _, _, hanswer⟩
    exact h m warnings hanswer
  · intro i j on v d origin cases
    exact answer_call
  · intro i j on as m origin cases
    exact answer_get
  · intro hsteps
    obtain ⟨hrun, hafter⟩ := run_defer [] hsteps
    refine ⟨hrun, fun on m hlookup as => ?_⟩
    have hempty : Session.defer [] = [] := rfl
    rw [hempty] at hafter
    rw [hafter]
    exact get_defer hlookup as
  · intro v rs
    obtain ⟨hbound, hreplies⟩ := Match.built_eq v rs
    obtain ⟨hdeferred, hreplies'⟩ := Matcher.built_eq rs
    rw [hreplies, hreplies', hbound, hdeferred]
    exact ⟨rfl, rfl⟩

end Session

end

namespace Session

attribute [local instance] Logging.ordinary

/-- Texts get a case, then a dispatcher is read. The builder is asked for a case without a handler,
and extended with a default, before the dispatcher is called. -/
def forked : List Step :=
  [.startMatcher "base", .case "base" (.marker .string) [Function.itself] "texts",
    .get "texts" "read", .case "texts" (.marker .number) [] "numbers",
    .default "texts" Function.itself "all", .call "read" (.int 1)]

theorem history_correct_forked :
    Lineage forked 4 none [⟨.string, Function.itself⟩, ⟨.unknown, Function.itself⟩] ∧
      (run [] forked)[5]? = some (.ran (dispatch (.int 1) [⟨.string, Function.itself⟩])) := by
  obtain ⟨laws, _⟩ := history_correct forked
  have hread : Names forked 5 "read" 2 (.dispatcher ⟨[⟨.string, Function.itself⟩]⟩) := by
    refine ⟨by decide, ⟨_, _, rfl, rfl, rfl⟩, ?_⟩
    rintro k hk hk' m ⟨st, warnings, hst, has, _⟩
    obtain rfl | rfl : k = 3 ∨ k = 4 := by omega
    · cases hst
      simp [Step.as?] at has
    · cases hst
      simp [Step.as?] at has
  have hlineage := (laws.lineage 2 (.dispatcher ⟨[⟨.string, Function.itself⟩]⟩) [] rfl _ _).mpr
    ⟨rfl, rfl⟩
  exact ⟨(laws.lineage 4 (.deferred ⟨[_, _]⟩) [] rfl _ _).mpr ⟨rfl, rfl⟩,
    laws.called 5 2 "read" (.int 1) _ _ _ rfl hread hlineage⟩

end Session

end ShapeMatch
