import ShapeMatch.Proofs.Spellings
import ShapeMatch.Regex.Engine

/-!
Flaws. Compiling goes through a shorthand in preorder (`Shorthand.walk`) and fails exactly if it
meets a part with a flaw of its own, with the first flaw that there is (`compile_firstFlaw`). Inside
a list that is malformed, and inside whatever has no shorthands as parts, nothing is looked at.
-/

namespace ShapeMatch

/-- There is a flag that is not for case, lines, line ends or Unicode. -/
def Flags.Foreign (f : Flags) : Prop := f.ascii ∨ f.locale ∨ f.verbose ∨ f.template ∨ f.debug

theorem Flags.unsupported_eq_nil_iff (f : Flags) : f.unsupported = [] ↔ ¬ f.Foreign := by
  simp [unsupported, Foreign]

namespace Shorthand

section

variable [RegexEngine]

/-- A list that counts out its members: how many there are, and the list of them. -/
def CountsOut (items : List Shorthand) : Prop :=
  ∃ members : List Shorthand, members ≠ [] ∧
    items = [.scalar (.int members.length), .list members]

/-- A list of several things stands for nothing unless it counts out its members. -/
def Malformed (items : List Shorthand) : Prop := 2 ≤ items.length ∧ ¬ CountsOut items

mutual

/-- The parts of a shorthand that are looked at, each one before the parts inside it, from left to
right. -/
def walk : Shorthand → List Shorthand
  | .list [item] => .list [item] :: item.walk
  | .list [.scalar (.int n), .list items] =>
    .list [.scalar (.int n), .list items] ::
      if 1 ≤ n && n = items.length then walkAll items else []
  | .tuple items => .tuple items :: walkAll items
  | .mapping entries => .mapping entries :: walkEntries entries
  | s => [s]

def walkAll : List Shorthand → List Shorthand
  | [] => []
  | s :: rest => s.walk ++ walkAll rest

def walkEntries : List (Value × Shorthand) → List Shorthand
  | [] => []
  | (_, s) :: rest => s.walk ++ walkEntries rest

end

/-- What is wrong with a shorthand itself, and not with a part of it. Of several flaws of one
expression the first of these counts. -/
inductive Flawed : Shorthand → ShorthandError → Prop where
  | list (items : List Shorthand) (h : Malformed items) : Flawed (.list items) .malformedList
  | bytes (e : Expression) (b : List UInt8) (htext : e.text = .bytes b) :
      Flawed (.expression e) .bytesExpression
  | flags (e : Expression) (s : String) (htext : e.text = .characters s)
      (hflags : e.flags.Foreign) :
      Flawed (.expression e) (.unsupportedFlags e.flags.unsupported)
  | pattern (e : Expression) (s : String) (fault : List UInt8) (htext : e.text = .characters s)
      (hflags : ¬ e.flags.Foreign)
      (h : Pattern.ofSource (Expression.sourceOf e.flags s) = .error fault) :
      Flawed (.expression e) (.badPattern (Expression.sourceOf e.flags s) fault)

/-- Nothing is wrong with a shorthand itself. -/
def Sound (s : Shorthand) : Prop := ∀ e, ¬ s.Flawed e

theorem Flawed.unique {s : Shorthand} {e e' : ShorthandError} (h : s.Flawed e)
    (h' : s.Flawed e') : e = e' := by
  cases h <;> cases h' <;> simp_all

/-! ## Parts that are met -/

/-- A computation meets these parts in order: it gives a result if all of them are sound, and fails
with the first flaw otherwise. -/
inductive Meets {α : Type} (parts : List Shorthand) : Except ShorthandError α → Prop where
  | ok (a : α) (h : ∀ t ∈ parts, t.Sound) : Meets parts (.ok a)
  | error (e : ShorthandError) (h : FirstFails Sound (fun t => t.Flawed e) parts) :
      Meets parts (.error e)

namespace Meets

variable {α β : Type} {parts : List Shorthand} {x : Except ShorthandError α}

theorem of_sound {s : Shorthand} (h : s.Sound) (a : α) : Meets [s] (.ok a) :=
  .ok a (by simpa using h)

theorem of_flawed {s : Shorthand} {e : ShorthandError} (h : s.Flawed e) :
    Meets [s] (.error e : Except ShorthandError α) :=
  .error e (.inl h)

theorem cons {s : Shorthand} (hs : s.Sound) (h : Meets parts x) : Meets (s :: parts) x := by
  cases h with
  | ok a h => exact .ok a (List.forall_mem_cons.mpr ⟨hs, h⟩)
  | error e h => exact .error e (.inr ⟨hs, h⟩)

theorem bind {others : List Shorthand} {f : α → Except ShorthandError β} (h : Meets parts x)
    (hf : ∀ a, Meets others (f a)) : Meets (parts ++ others) (x >>= f) := by
  cases h with
  | ok a hsound =>
    show Meets (parts ++ others) (f a)
    have hfa := hf a
    generalize f a = y at hfa
    cases hfa with
    | ok b h => exact .ok b (List.forall_mem_append.mpr ⟨hsound, h⟩)
    | error e h => exact .error e ((firstFails_append _ _).mpr (.inr ⟨hsound, h⟩))
  | error e h => exact .error e ((firstFails_append _ _).mpr (.inl h))

theorem map (h : Meets parts x) (f : α → β) : Meets parts (do return f (← x)) := by
  cases h with
  | ok a h => exact .ok _ h
  | error e h => exact .error e h

/-- It fails with the first flaw that there is. -/
theorem eq_error_iff (h : Meets parts x) (e : ShorthandError) :
    x = .error e ↔ FirstFails Sound (fun t => t.Flawed e) parts := by
  cases h with
  | ok a hsound =>
    refine iff_of_false nofun fun hfails => ?_
    obtain ⟨t, ht, hbad⟩ := exists_bad_of_firstFails hfails
    exact hsound t ht e hbad
  | error e' hfails =>
    constructor
    · intro heq
      rw [← Except.error.inj heq]
      exact hfails
    · intro hfails'
      obtain ⟨t, _, hbad, hbad'⟩ := hfails.both (fun t ht => ⟨ht e', ht e⟩) hfails'
      rw [hbad.unique hbad']

theorem exists_ok_iff (h : Meets parts x) : (∃ a, x = .ok a) ↔ ∀ t ∈ parts, t.Sound := by
  cases h with
  | ok a hsound => exact iff_of_true ⟨a, rfl⟩ hsound
  | error e hfails =>
    refine iff_of_false nofun fun hsound => ?_
    obtain ⟨t, ht, hbad⟩ := exists_bad_of_firstFails hfails
    exact hsound t ht e hbad

end Meets

/-! ## Compiling -/

theorem sound_of_ne {s : Shorthand} (hlist : ∀ items, s ≠ .list items)
    (hexpression : ∀ e, s ≠ .expression e) : s.Sound := by
  intro e h
  cases h with
  | list items _ => exact hlist items rfl
  | _ => exact hexpression _ rfl

theorem sound_list {items : List Shorthand} (h : ¬ Malformed items) : (list items).Sound := by
  intro e hflawed
  cases hflawed with
  | list _ hbad => exact h hbad

theorem compileExpression_meets (e : Expression) :
    Meets [expression e] (compileExpression e) := by
  have hflags := e.flags.unsupported_eq_nil_iff
  unfold compileExpression
  split
  · rename_i b htext
    exact .of_flawed (.bytes e b htext)
  · rename_i s htext
    split
    · rename_i hnone
      unfold regexSchema
      split
      · rename_i p hp
        refine .of_sound ?_ _
        intro error hflawed
        cases hflawed <;> simp_all
      · rename_i fault hfault
        exact .of_flawed (.pattern e s fault htext (hflags.mp hnone) hfault)
    · rename_i hsome
      refine .of_flawed (.flags e s htext ?_)
      by_contra hnot
      exact hsome (hflags.mpr hnot)

theorem compileAll_meets {ss : List Shorthand} (h : ∀ s ∈ ss, Meets s.walk s.compile) :
    Meets (walkAll ss) (compileAll ss) := by
  induction ss with
  | nil => exact .ok [] (by simp [walkAll])
  | cons s rest ih =>
    obtain ⟨hs, hrest⟩ := List.forall_mem_cons.mp h
    rw [walkAll, compileAll]
    exact hs.bind fun σ => (ih hrest).map _

theorem compileEntries_meets {es : List (Value × Shorthand)}
    (h : ∀ e ∈ es, Meets e.2.walk e.2.compile) : Meets (walkEntries es) (compileEntries es) := by
  induction es with
  | nil => exact .ok [] (by simp [walkEntries])
  | cons e rest ih =>
    obtain ⟨k, s⟩ := e
    obtain ⟨hs, hrest⟩ := List.forall_mem_cons.mp h
    rw [walkEntries, compileEntries]
    exact hs.bind fun σ => (ih hrest).map _

/-- By induction along the rules: compiling meets the parts of a shorthand in the order of the
walk. -/
theorem compile_meets (s : Shorthand) : Meets s.walk s.compile := by
  induction s using ind with
  | expression e => exact compileExpression_meets e
  | anyList => exact .of_sound (sound_list (by simp [Malformed])) _
  | array item ih =>
    rw [walk, compile]
    exact .cons (sound_list (by simp [Malformed])) (ih.map _)
  | counted n items hn ih =>
    have hsound : (list [.scalar (.int n), .list items]).Sound := by
      refine sound_list fun hbad => hbad.2 ⟨items, ?_, by rw [hn.2]⟩
      rintro rfl
      have hzero : n = 0 := by simpa using hn.2
      omega
    rw [walk, compile, if_pos (by simpa using hn), if_pos (by simpa using hn)]
    exact .cons hsound ((compileAll_meets ih).map _)
  | miscounted n items hn =>
    rw [walk, compile, if_neg (by simpa using hn), if_neg (by simpa using hn)]
    refine .of_flawed (.list _ ⟨by simp, ?_⟩)
    rintro ⟨members, hmembers, heq⟩
    obtain ⟨rfl, rfl⟩ : n = members.length ∧ items = members := by simpa using heq
    have hpos := List.length_pos_of_ne_nil hmembers
    omega
  | malformed items hnil hone htwo =>
    have hlength : 2 ≤ items.length := by
      rcases items with _ | ⟨item, _ | ⟨item', rest⟩⟩
      · exact absurd rfl hnil
      · exact absurd rfl (hone item)
      · simp
    have hcount : ¬ CountsOut items := by
      rintro ⟨members, _, rfl⟩
      exact htwo _ _ rfl
    rw [walk, compile]
    · exact .of_flawed (.list _ ⟨hlength, hcount⟩)
    all_goals simp_all
  | anyTuple => exact .of_sound (sound_of_ne (by simp) (by simp)) _
  | tuple item items ih =>
    rw [walk, compile]
    exact .cons (sound_of_ne (by simp) (by simp)) ((compileAll_meets ih).map _)
  | mapping es ih =>
    rw [walk, compile]
    exact .cons (sound_of_ne (by simp) (by simp)) ((compileEntries_meets ih).map _)
  | _ => exact .of_sound (sound_of_ne (by simp) (by simp)) _

theorem walk_eq_cons (s : Shorthand) : ∃ rest, s.walk = s :: rest := by
  unfold walk
  split <;> simp

theorem Flawed.compile_eq {s : Shorthand} {e : ShorthandError} (h : s.Flawed e) :
    s.compile = .error e := by
  obtain ⟨rest, hwalk⟩ := walk_eq_cons s
  apply ((compile_meets s).eq_error_iff e).mpr
  rw [hwalk]
  exact .inl h

/-! ## What is not looked at -/

/-- Two shorthands that differ only in what is not looked at: the members of a malformed list, and
what is inside a model, a schema or anything else that is not a shape. -/
inductive SameOutside : Shorthand → Shorthand → Prop where
  | malformed (items items' : List Shorthand) (h : Malformed items) (h' : Malformed items') :
      SameOutside (.list items) (.list items')
  | model (m m' : Model) : SameOutside (.model m) (.model m')
  | schema (σ σ' : Schema) : SameOutside (.schema σ) (.schema σ')
  | other (v v' : Value) : SameOutside (.other v) (.other v')

theorem SameOutside.agree {s t : Shorthand} (h : SameOutside s t) :
    Agree (fun _ _ => True) s.compile t.compile := by
  cases h with
  | malformed items items' h h' =>
    rw [(Flawed.list items h).compile_eq, (Flawed.list items' h').compile_eq]
    exact .error _
  | model m m' => exact .ok _ _ trivial
  | schema σ σ' => exact .ok _ _ trivial
  | other v v' => exact .ok _ _ trivial

/-- A shorthand has a schema if and only if no part that is looked at has a flaw, and the error is
the flaw of the first part that has one. What is not looked at makes no difference. -/
theorem compile_firstFlaw (s : Shorthand) :
    ((∃ σ, s.compile = .ok σ) ↔ ∀ t ∈ s.walk, t.Sound) ∧
      (∀ e, s.compile = .error e ↔ ∃ before t after, s.walk = before ++ t :: after ∧
        (∀ u ∈ before, u.Sound) ∧ t.Flawed e) ∧
      ∀ t, AtPlaces SameOutside s t → ∀ e, s.compile = .error e ↔ t.compile = .error e := by
  have hmeets := compile_meets s
  refine ⟨hmeets.exists_ok_iff, ?_, ?_⟩
  · intro e
    rw [hmeets.eq_error_iff, firstFails_iff]
  · intro t hst e
    have hcongruence : Schema.Congruence fun _ _ => True :=
      ⟨fun _ => trivial, fun _ _ _ => trivial, fun _ _ _ => trivial, fun _ _ _ => trivial⟩
    exact (hst.agree hcongruence fun _ _ h => h.agree).error_iff e

end

/-- The malformed list in the mapping is met before the expression after it, and the expression in
that list is not looked at. -/
theorem compile_firstFlaw_tuple :
    let bytes : Shorthand := .expression ⟨.bytes [97], {}⟩
    let inside (items : List Shorthand) : Shorthand :=
      .tuple [.null, .mapping [(.text "k", .list items)], bytes]
    (inside [bytes, bytes]).compile = .error .malformedList ∧
      (inside [.null, .null, .null]).compile = .error .malformedList := by
  intro bytes inside
  have hbad : Malformed [bytes, bytes] := by simp [Malformed, CountsOut, bytes]
  have hbad' : Malformed [.null, .null, .null] := by simp [Malformed, CountsOut]
  have hfirst : (inside [bytes, bytes]).compile = .error .malformedList := by
    refine ((compile_firstFlaw _).2.1 _).mpr
      ⟨[inside [bytes, bytes], .null, .mapping [(.text "k", .list [bytes, bytes])]], _, [bytes],
        ?_, ?_, .list _ hbad⟩
    · simp [inside, bytes, walk, walkAll, walkEntries]
    · simp [inside, sound_of_ne]
  refine ⟨hfirst, ((compile_firstFlaw _).2.2 _ ?_ _).mp hfirst⟩
  refine .tuple _ _ rfl ?_
  have hlist : AtPlaces SameOutside (.list [bytes, bytes]) (.list [.null, .null, .null]) :=
    .here _ _ (.malformed _ _ hbad hbad')
  have hmapping : AtPlaces SameOutside (.mapping [(.text "k", .list [bytes, bytes])])
      (.mapping [(.text "k", .list [.null, .null, .null])]) := by
    refine .mapping _ _ rfl ?_ ?_
    · simp
    · simpa using hlist
  simpa using ⟨.same _, hmapping, .same _⟩

end Shorthand

end ShapeMatch
