import ShapeMatch.Matcher.Builder
import ShapeMatch.Proofs.Fallible

/-!
Builders, request by request. What a request does depends on the cases so far only, so that both
kinds of builder do the same with the same requests: `built_of_cases`.
-/

namespace ShapeMatch

variable [RegexEngine]

/-- What a builder is asked to append. -/
inductive Request where
  | case (s : Shorthand) (fns : List Function)
  | default (handler : Function)

/-- The case that is asked for. -/
def Request.case? : Request → Except BuildError Case
  | .case s fns => Cases.caseOf s fns
  | .default handler => .ok ⟨.unknown, handler⟩

/-- How a request is answered: with warnings, or with an error. -/
abbrev Reply := Except BuildError (List Unreachable)

def Cases.grow (cases : Cases) : Request → Except BuildError (Cases × List Unreachable)
  | .case s fns => cases.appendCase s fns
  | .default handler => .ok (cases.appendDefault handler)

def Match.grow (m : Match) : Request → Except BuildError (Match × List Unreachable)
  | .case s fns => m.case s fns
  | .default handler => .ok (m.default handler)

def Matcher.grow (m : Matcher) : Request → Except BuildError (Matcher × List Unreachable)
  | .case s fns => m.case s fns
  | .default handler => .ok (m.default handler)

/-! ## One request -/

theorem Schema.isUnknown_iff (s : Schema) : s.isUnknown = true ↔ s = .unknown := by
  cases s <;> simp [isUnknown]

namespace Cases

theorem append_of_unknown {cases : Cases} (h : ∃ b ∈ cases, b.schema = .unknown) (c : Case) :
    (cases.append c).2 = [⟨c.schema⟩] := by
  have hany : cases.any (·.schema.isUnknown) = true := by simpa [Schema.isUnknown_iff] using h
  rw [append, hany, if_pos rfl]

theorem append_of_not_unknown {cases : Cases} (h : ¬ ∃ b ∈ cases, b.schema = .unknown) (c : Case) :
    (cases.append c).2 = [] := by
  have hany : cases.any (·.schema.isUnknown) = false := by simpa [Schema.isUnknown_iff] using h
  rw [append, hany]
  rfl

/-- A request that succeeds appends the case asked for. -/
theorem grow_ok {cases cases' : Cases} {r : Request} {warnings : List Unreachable}
    (h : cases.grow r = .ok (cases', warnings)) :
    ∃ c, r.case? = .ok c ∧ cases' = cases ++ [c] ∧ warnings = (cases.append c).2 := by
  cases r with
  | case s fns =>
    obtain ⟨c, hc, happend⟩ := bind_ok (show cases.appendCase s fns = _ from h)
    simp only at happend
    split at happend
    · cases happend
      exact ⟨c, hc, rfl, rfl⟩
    · cases happend
  | default handler =>
    cases h
    exact ⟨_, rfl, rfl, rfl⟩

theorem appendCase_schema (cases : Cases) (s : Schema) (handler : Function) :
    cases.appendCase (.schema s) [handler] =
      if (cases.append ⟨s, handler⟩).2.all (·.schema.isWritable) then
        .ok (cases.append ⟨s, handler⟩)
      else .error .unwritable := rfl

theorem append_writable_iff (cases : Cases) (c : Case) :
    (cases.append c).2.all (·.schema.isWritable) = true ↔
      ∀ b ∈ cases, b.schema = .unknown → c.schema.isWritable := by
  by_cases hseen : ∃ b ∈ cases, b.schema = .unknown
  · rw [append_of_unknown hseen, List.all_cons, List.all_nil, Bool.and_true]
    obtain ⟨b, hb, hunknown⟩ := hseen
    exact ⟨fun h _ _ _ => h, fun h => h b hb hunknown⟩
  · rw [append_of_not_unknown hseen]
    exact ⟨fun _ b hb hunknown => absurd ⟨b, hb, hunknown⟩ hseen, fun _ => rfl⟩

/-- A case for all other values is the case of a shorthand too. -/
theorem grow_default (cases : Cases) (handler : Function) :
    cases.grow (.case (.schema .unknown) [handler]) = cases.grow (.default handler) := by
  have hwritable := (cases.append_writable_iff ⟨.unknown, handler⟩).mpr fun _ _ _ => rfl
  rw [grow, appendCase_schema, if_pos hwritable]
  rfl

end Cases

theorem Match.grow_eq (m : Match) (r : Request) :
    m.grow r = (m.cases.grow r).map fun p => (⟨m.value, p.1⟩, p.2) := by
  cases r <;> rfl

theorem Matcher.grow_eq (m : Matcher) (r : Request) :
    m.grow r = (m.cases.grow r).map fun p => (⟨p.1⟩, p.2) := by
  cases r <;> rfl

theorem Cases.map_grow_ok {β : Type} (mk : Cases → β) {cases : Cases} {r : Request} {b : β}
    {warnings : List Unreachable}
    (h : ((cases.grow r).map fun p => (mk p.1, p.2)) = .ok (b, warnings)) :
    ∃ c, r.case? = .ok c ∧ b = mk (cases ++ [c]) := by
  obtain ⟨⟨cases', _⟩, hgrow, heq⟩ := map_eq_ok h
  obtain ⟨c, hc, rfl, _⟩ := Cases.grow_ok hgrow
  exact ⟨c, hc, (congrArg Prod.fst heq).symm⟩

theorem Match.grow_ok {m m' : Match} {r : Request} {warnings : List Unreachable}
    (h : m.grow r = .ok (m', warnings)) :
    ∃ c, r.case? = .ok c ∧ m' = ⟨m.value, m.cases ++ [c]⟩ :=
  Cases.map_grow_ok (Match.mk m.value) (m.grow_eq r ▸ h)

theorem Matcher.grow_ok {m m' : Matcher} {r : Request} {warnings : List Unreachable}
    (h : m.grow r = .ok (m', warnings)) : ∃ c, r.case? = .ok c ∧ m' = ⟨m.cases ++ [c]⟩ :=
  Cases.map_grow_ok Matcher.mk (m.grow_eq r ▸ h)

/-! ## Many requests -/

section

variable {β : Type} (grow : β → Request → Except BuildError (β × List Unreachable))

/-- The builder after a request. One that fails leaves it as it was. -/
def afterRequest (b : β) (r : Request) : β :=
  match grow b r with
  | .ok (b', _) => b'
  | .error _ => b

/-- The builder after some requests, each made to what the one before it left. -/
def built (b : β) (rs : List Request) : β := rs.foldl (afterRequest grow) b

/-- The answers to these requests. -/
def replies (b : β) : List Request → List Reply
  | [] => []
  | r :: rest => (grow b r).map (·.2) :: replies (afterRequest grow b r) rest

theorem afterRequest_of_ok {grow : β → Request → Except BuildError (β × List Unreachable)}
    {b b' : β} {r : Request} {warnings : List Unreachable} (h : grow b r = .ok (b', warnings)) :
    afterRequest grow b r = b' := by
  rw [afterRequest, h]

theorem afterRequest_of_error {grow : β → Request → Except BuildError (β × List Unreachable)}
    {b : β} {r : Request} {e : BuildError} (h : grow b r = .error e) :
    afterRequest grow b r = b := by
  rw [afterRequest, h]

theorem built_append (b : β) (rs others : List Request) :
    built grow b (rs ++ others) = built grow (built grow b rs) others :=
  List.foldl_append

theorem replies_append (b : β) (rs others : List Request) :
    replies grow b (rs ++ others) = replies grow b rs ++ replies grow (built grow b rs) others := by
  induction rs generalizing b with
  | nil => rfl
  | cons r rest ih =>
    rw [List.cons_append, replies, ih, replies]
    rfl

theorem replies_length (b : β) (rs : List Request) : (replies grow b rs).length = rs.length := by
  induction rs generalizing b with
  | nil => rfl
  | cons r rest ih => rw [replies, List.length_cons, ih, List.length_cons]

end

/-- A builder that consists of its cases and of something that no request changes does what its
cases do. -/
theorem built_of_cases {β : Type} {grow : β → Request → Except BuildError (β × List Unreachable)}
    (mk : Cases → β)
    (h : ∀ cases r, grow (mk cases) r = (cases.grow r).map fun p => (mk p.1, p.2))
    (cases : Cases) (rs : List Request) :
    built grow (mk cases) rs = mk (built Cases.grow cases rs) ∧
      replies grow (mk cases) rs = replies Cases.grow cases rs := by
  induction rs generalizing cases with
  | nil => exact ⟨rfl, rfl⟩
  | cons r rest ih =>
    have hafter : afterRequest grow (mk cases) r = mk (afterRequest Cases.grow cases r) := by
      rw [afterRequest, afterRequest, h]
      cases cases.grow r <;> rfl
    have hreply : (grow (mk cases) r).map (·.2) = (cases.grow r).map (·.2) := by
      rw [h]
      cases cases.grow r <;> rfl
    obtain ⟨hbuilt, hreplies⟩ := ih (afterRequest Cases.grow cases r)
    refine ⟨?_, ?_⟩
    · show built grow (afterRequest grow (mk cases) r) rest = _
      rw [hafter, hbuilt]
      rfl
    · rw [replies, replies, hafter, hreply, hreplies]

theorem Match.built_eq (v : Value) (rs : List Request) :
    built Match.grow (.start v) rs = ⟨v, built Cases.grow [] rs⟩ ∧
      replies Match.grow (.start v) rs = replies Cases.grow [] rs :=
  built_of_cases (Match.mk v) (fun cases => Match.grow_eq ⟨v, cases⟩) [] rs

theorem Matcher.built_eq (rs : List Request) :
    built Matcher.grow .start rs = ⟨built Cases.grow [] rs⟩ ∧
      replies Matcher.grow .start rs = replies Cases.grow [] rs :=
  built_of_cases Matcher.mk (fun cases => Matcher.grow_eq ⟨cases⟩) [] rs

end ShapeMatch
