import Mathlib.Logic.Relation
import ShapeMatch.Proofs.ShorthandMeaning
import ShapeMatch.Regex.Engine

/-!
Spellings. Some shapes can be written down in more than one way, and a part of a shorthand may be
given as the schema that it stands for. Compiling respects the places of a shorthand where other
shorthands stand (`AtPlaces.agree`): what is written there matters only as what it compiles to. So
the schema, or the error, stays the same however the parts are spelled (`compile_respelled`).
-/

namespace ShapeMatch

/-- A relation of schemas that goes over from the schemas inside a container to the container. -/
structure Schema.Congruence [RegexEngine] (Q : Schema → Schema → Prop) : Prop where
  refl : ∀ s, Q s s
  array : ∀ s t, Q s t → Q (.array s) (.array t)
  tuple : ∀ ss ts, List.Forall₂ Q ss ts → Q (.tuple ss) (.tuple ts)
  object : ∀ fs gs, List.Forall₂ (fun f g => f.1 = g.1 ∧ Q f.2 g.2) fs gs →
    Q (.object fs) (.object gs)

theorem Schema.congruence_eq [RegexEngine] : Schema.Congruence Eq where
  refl := fun _ => rfl
  array := by
    rintro s _ rfl
    rfl
  tuple := by
    intro ss ts h
    rw [List.forall₂_eq_eq_eq] at h
    rw [h]
  object := by
    intro fs gs h
    have hsame : List.Forall₂ Eq fs gs := h.imp fun f g hfg => Prod.ext hfg.1 hfg.2
    rw [List.forall₂_eq_eq_eq] at hsame
    rw [hsame]

namespace Shorthand

section

variable [RegexEngine]

/-- At some places of a shorthand, at any depth, something else is written that is related to what
was there. Places are the member of a list of one, the members of a counted list and of a tuple, and
the values of a mapping. -/
inductive AtPlaces (R : Shorthand → Shorthand → Prop) : Shorthand → Shorthand → Prop where
  | same (s : Shorthand) : AtPlaces R s s
  | here (s t : Shorthand) (h : R s t) : AtPlaces R s t
  | element (s t : Shorthand) (h : AtPlaces R s t) : AtPlaces R (.list [s]) (.list [t])
  | counted (ss ts : List Shorthand) (hlength : ss.length = ts.length)
      (h : ∀ m ∈ ss.zip ts, AtPlaces R m.1 m.2) :
      AtPlaces R (.list [.scalar (.int ss.length), .list ss])
        (.list [.scalar (.int ts.length), .list ts])
  | tuple (ss ts : List Shorthand) (hlength : ss.length = ts.length)
      (h : ∀ m ∈ ss.zip ts, AtPlaces R m.1 m.2) : AtPlaces R (.tuple ss) (.tuple ts)
  | mapping (es fs : List (Value × Shorthand)) (hlength : es.length = fs.length)
      (hkeys : ∀ m ∈ es.zip fs, m.1.1 = m.2.1) (h : ∀ m ∈ es.zip fs, AtPlaces R m.1.2 m.2.2) :
      AtPlaces R (.mapping es) (.mapping fs)

/-- Two ways to write the same at one place. -/
inductive Spelling : Shorthand → Shorthand → Prop where
  /-- a tuple, and its length with the list of its members -/
  | counted (items : List Shorthand) (hitems : items ≠ []) :
      Spelling (.tuple items) (.list [.scalar (.int items.length), .list items])
  | emptyTuple : Spelling (.tuple []) (.list [])
  | listMarker : Spelling (.list []) (.marker .list)
  | dictMarker : Spelling (.marker .dict) (.mapping [])
  /-- a shorthand, and the schema that it compiles to -/
  | ready (s : Shorthand) (σ : Schema) (h : s.compile = .ok σ) : Spelling s (.schema σ)

/-- One shorthand becomes another by spelling parts of it in other ways, forwards or backwards, at
any places and any number of times. -/
def Respelled : Shorthand → Shorthand → Prop := Relation.EqvGen (AtPlaces Spelling)

/-! ## Places -/

theorem compile_tuple {items : List Shorthand} (h : items ≠ []) :
    (tuple items).compile = do return .tuple (← compileAll items) := by
  cases items with
  | nil => exact absurd rfl h
  | cons item items => rw [compile]

theorem compile_counted {items : List Shorthand} (h : items ≠ []) :
    (list [.scalar (.int items.length), .list items]).compile = (tuple items).compile := by
  have hcount : 1 ≤ (items.length : Int) ∧ (items.length : Int) = items.length := by
    have hpos := List.length_pos_of_ne_nil h
    omega
  rw [compile, if_pos (by simpa using hcount), compile_tuple h]

variable {Q : Schema → Schema → Prop}

theorem compileAll_agree {ss ts : List Shorthand}
    (h : List.Forall₂ (fun s t => Agree Q s.compile t.compile) ss ts) :
    Agree (List.Forall₂ Q) (compileAll ss) (compileAll ts) := by
  rw [compileAll_eq_mapM, compileAll_eq_mapM]
  exact Agree.mapM h

theorem compileEntries_agree {es fs : List (Value × Shorthand)}
    (h : List.Forall₂ (fun e f => e.1 = f.1 ∧ Agree Q e.2.compile f.2.compile) es fs) :
    Agree (List.Forall₂ fun f g => f.1 = g.1 ∧ Q f.2 g.2) (compileEntries es)
      (compileEntries fs) := by
  rw [compileEntries_eq_mapM, compileEntries_eq_mapM]
  refine Agree.mapM (h.imp ?_)
  rintro e f ⟨hkey, hcompile⟩
  exact hcompile.bind fun σ τ hστ => .ok _ _ ⟨hkey, hστ⟩

theorem tuple_agree (hQ : Schema.Congruence Q) {ss ts : List Shorthand}
    (h : List.Forall₂ (fun s t => Agree Q s.compile t.compile) ss ts) :
    Agree Q (tuple ss).compile (tuple ts).compile := by
  cases h with
  | nil => exact .ok _ _ (hQ.refl _)
  | cons hhead htail =>
    rw [compile_tuple (by simp), compile_tuple (by simp)]
    exact (compileAll_agree (.cons hhead htail)).bind fun σs τs hστ => .ok _ _ (hQ.tuple σs τs hστ)

/-- By induction on the places: a shorthand with related parts at some places compiles to a related
schema, or fails as before. -/
theorem AtPlaces.agree {R : Shorthand → Shorthand → Prop} (hQ : Schema.Congruence Q)
    (hR : ∀ s t, R s t → Agree Q s.compile t.compile) {s t : Shorthand} (h : AtPlaces R s t) :
    Agree Q s.compile t.compile := by
  induction h with
  | same s => exact Agree.refl hQ.refl _
  | here s t h => exact hR s t h
  | element s t _ ih =>
    rw [compile, compile]
    exact ih.bind fun σ τ hστ => .ok _ _ (hQ.array σ τ hστ)
  | counted ss ts hlength _ ih =>
    cases ss with
    | nil =>
      obtain rfl : ts = [] := List.length_eq_zero_iff.mp hlength.symm
      exact .error _
    | cons s ss =>
      have hts : ts ≠ [] := List.ne_nil_of_length_pos (by simp [← hlength])
      rw [compile_counted (by simp), compile_counted hts]
      exact tuple_agree hQ (List.forall₂_iff_zip.mpr ⟨hlength, fun hm => ih _ hm⟩)
  | tuple ss ts hlength _ ih =>
    exact tuple_agree hQ (List.forall₂_iff_zip.mpr ⟨hlength, fun hm => ih _ hm⟩)
  | mapping es fs hlength hkeys _ ih =>
    have hentries : List.Forall₂ (fun e f => e.1 = f.1 ∧ Agree Q e.2.compile f.2.compile) es fs :=
      List.forall₂_iff_zip.mpr ⟨hlength, fun hm => ⟨hkeys _ hm, ih _ hm⟩⟩
    rw [compile, compile]
    exact (compileEntries_agree hentries).bind fun σs τs hστ => .ok _ _ (hQ.object σs τs hστ)

/-! ## Spellings -/

theorem Spelling.compile_eq {s t : Shorthand} (h : Spelling s t) : s.compile = t.compile := by
  cases h with
  | counted items hitems => exact (compile_counted hitems).symm
  | emptyTuple => rfl
  | listMarker => rfl
  | dictMarker => rfl
  | ready s σ h => exact h

theorem AtPlaces.compile_eq {s t : Shorthand} (h : AtPlaces Spelling s t) :
    s.compile = t.compile := by
  have hspelling : ∀ s t, Spelling s t → Agree Eq s.compile t.compile := by
    intro s t hst
    rw [hst.compile_eq]
    exact Agree.refl (fun _ => rfl) _
  exact (h.agree Schema.congruence_eq hspelling).eq

/-- However the parts of a shorthand are spelled, the schema is the same, or the error is. A schema
stands for itself, so that compiling once more changes nothing. -/
theorem compile_respelled {s t : Shorthand} (h : s.Respelled t) :
    s.compile = t.compile ∧ ∀ σ, s.compile = .ok σ → (schema σ).compile = .ok σ := by
  refine ⟨?_, fun σ _ => rfl⟩
  induction h with
  | rel s t h => exact h.compile_eq
  | refl s => rfl
  | symm s t _ ih => exact ih.symm
  | trans s t u _ _ ih ih' => exact ih.trans ih'

end

/-- Inside a mapping and a list of one, a pair is counted out, its first member is given as a schema
and its second one, the marker of lists, as the empty tuple. -/
theorem compile_respelled_pair :
    let s := mapping [(.text "ps", .list [.tuple [.marker .string, .marker .list]])]
    let t := mapping
      [(.text "ps", .list [.list [.scalar (.int 2), .list [.schema .string, .tuple []]]])]
    s.Respelled t ∧ s.compile = t.compile ∧
      t.compile = .ok (.object [(.text "ps", .array (.tuple [.string, .array .unknown]))]) := by
  intro s t
  let inside (a : Shorthand) : Shorthand := mapping [(.text "ps", .list [a])]
  have hinside : ∀ {a b}, AtPlaces Spelling a b → (inside a).Respelled (inside b) := by
    intro a b h
    refine .rel _ _ (.mapping _ _ rfl ?_ ?_)
    · simp
    · simpa using .element a b h
  have hpair : ∀ {a b c d}, AtPlaces Spelling a c → AtPlaces Spelling b d →
      AtPlaces Spelling (.tuple [a, b]) (.tuple [c, d]) := by
    intro a b c d hac hbd
    refine .tuple _ _ rfl ?_
    simpa using ⟨hac, hbd⟩
  have hready : (inside (.tuple [.marker .string, .list []])).Respelled
      (inside (.tuple [.schema .string, .list []])) :=
    hinside (hpair (.here _ _ (.ready _ _ rfl)) (.same _))
  have hmarker : (inside (.tuple [.marker .string, .list []])).Respelled s :=
    hinside (hpair (.same _) (.here _ _ .listMarker))
  have hempty : (inside (.tuple [.schema .string, .tuple []])).Respelled
      (inside (.tuple [.schema .string, .list []])) :=
    hinside (hpair (.same _) (.here _ _ .emptyTuple))
  have hcounted : (inside (.tuple [.schema .string, .tuple []])).Respelled t :=
    hinside (.here _ _ (.counted _ (by simp)))
  have hst : s.Respelled t :=
    ((hmarker.symm.trans _ _ _ hready).trans _ _ _ hempty.symm).trans _ _ _ hcounted
  exact ⟨hst, (compile_respelled hst).1, rfl⟩

end Shorthand

end ShapeMatch
