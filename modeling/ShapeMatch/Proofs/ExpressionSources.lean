import ShapeMatch.Proofs.ShorthandMeaning
import ShapeMatch.Regex.Engine

/-!
Sources of expressions. The pattern text of an expression has its flags in a group before its own
text. A text may begin with such a group itself, but then it switches these flags on, so that they
come before it once more. So the source tells the text and the flags (`source_tells_expression`).
-/

namespace ShapeMatch

namespace Flags

variable {f g h : Flags}

/-- The flags that the search engine knows. -/
def inline (f : Flags) : Flags where
  ignoreCase := f.ignoreCase
  multiline := f.multiline
  dotAll := f.dotAll

theorem inlineLetters_inline (f : Flags) : f.inline.inlineLetters = f.inlineLetters := rfl

theorem ofLetters_inlineLetters (f : Flags) : ofLetters f.inlineLetters = f.inline := by
  obtain ⟨ignoreCase, multiline, dotAll, _, _, _, _, _⟩ := f
  cases ignoreCase <;> cases multiline <;> cases dotAll <;> rfl

theorem inlineLetters_eq_iff : f.inlineLetters = g.inlineLetters ↔ f.inline = g.inline := by
  constructor
  · intro h
    rw [← ofLetters_inlineLetters, h, ofLetters_inlineLetters]
  · intro h
    rw [← inlineLetters_inline, h, inlineLetters_inline]

theorem ofLetter?_of_mem_inlineLetters {c : Char} (hc : c ∈ f.inlineLetters) :
    (ofLetter? c).isSome := by
  have hletters : c = 'i' ∨ c = 'm' ∨ c = 's' := by
    simp only [inlineLetters, List.mem_append] at hc
    grind
  rcases hletters with rfl | rfl | rfl <;> rfl

/-! ## Flags that a text sets -/

/-- All flags of the first are flags of the second. -/
def Within (f g : Flags) : Prop := f.union g = g

theorem within_union_left (f g : Flags) : f.Within (f.union g) := by
  simp [Within, union]

theorem within_union_right (f g : Flags) : g.Within (f.union g) := by
  simp [Within, union, Bool.or_left_comm]

theorem Within.trans (hfg : f.Within g) (hgh : g.Within h) : f.Within h := by
  have hassoc : (f.union g).union h = f.union (g.union h) := by simp [union, Bool.or_assoc]
  rw [Within] at *
  rw [hfg, hgh] at hassoc
  exact hassoc.symm

theorem Within.inlineLetters_ne_nil (h : f.inline.Within g) (hf : f.inlineLetters ≠ []) :
    g.inlineLetters ≠ [] := by
  intro hg
  apply hf
  rw [← h] at hg
  simp only [inlineLetters, union, inline, List.append_eq_nil_iff] at hg ⊢
  grind

/-- A text sets flags and takes none away. -/
theorem within_leading (known : Flags) (cs : List Char) : known.Within (known.leading cs) := by
  have hself : ∀ f : Flags, f.Within f := fun f => by simp [Within, union]
  fun_induction leading known cs with
  | case1 known rest ih => exact ih
  | case3 known rest letters _ _ _ _ ih => exact (within_union_left known _).trans ih
  | case5 known _ _ _ _ _ ih => exact ih
  | case6 known _ _ _ _ _ _ ih => exact ih
  | _ known => exact hself known

theorem takeWhile_letters (f : Flags) (rest : List Char) :
    (f.inlineLetters ++ ')' :: rest).takeWhile (fun c => (ofLetter? c).isSome) =
      f.inlineLetters := by
  rw [List.takeWhile_append_of_pos fun c hc => ofLetter?_of_mem_inlineLetters hc]
  simp [ofLetter?]

/-- A group of flags sets them for the rest of the text. -/
theorem leading_group (hf : f.inlineLetters ≠ []) (known : Flags) (rest : List Char) :
    known.leading ('(' :: '?' :: (f.inlineLetters ++ ')' :: rest)) =
      (known.union f.inline).leading rest := by
  rw [leading]
  · simp [takeWhile_letters, hf, ofLetters_inlineLetters]
  · -- a comment starts like a group, but its sign is no letter of a flag
    intro rest' hcomment
    have htake := takeWhile_letters f rest
    rw [hcomment] at htake
    exact hf htake.symm

/-- What begins with a group of flags has flags. -/
theorem inlineLetters_leading_group (hf : f.inlineLetters ≠ []) (known : Flags)
    (rest : List Char) :
    (known.leading ('(' :: '?' :: (f.inlineLetters ++ ')' :: rest))).inlineLetters ≠ [] := by
  rw [leading_group hf]
  have hwithin : f.inline.Within ((known.union f.inline).leading rest) :=
    (within_union_right known f.inline).trans (within_leading _ rest)
  exact hwithin.inlineLetters_ne_nil hf

/-- A group of flags tells them and what comes after it. -/
theorem group_inj {rest rest' : List Char}
    (h : f.inlineLetters ++ ')' :: rest = g.inlineLetters ++ ')' :: rest') :
    f.inline = g.inline ∧ rest = rest' := by
  have hletters : f.inlineLetters = g.inlineLetters := by
    rw [← takeWhile_letters f rest, h, takeWhile_letters]
  rw [hletters] at h
  exact ⟨inlineLetters_eq_iff.mp hletters, (List.cons.inj (List.append_cancel_left h)).2⟩

end Flags

namespace Expression

variable {e e₁ e₂ : Expression} {f : Flags} {s s₁ s₂ : String}

theorem sourceOf_of_flagless (hf : f.inlineLetters = []) (s : String) : sourceOf f s = s := by
  rw [sourceOf, hf]

theorem toList_sourceOf (hf : f.inlineLetters ≠ []) (s : String) :
    (sourceOf f s).toList = '(' :: '?' :: (f.inlineLetters ++ ')' :: s.toList) := by
  unfold sourceOf
  split
  · contradiction
  · simp

/-- A text that begins with the flags of another expression has flags itself. -/
theorem flags_of_text_eq_source (htext : e.text = .characters (sourceOf f s))
    (hf : f.inlineLetters ≠ []) : e.flags.inlineLetters ≠ [] := by
  rw [flags, htext, ExpressionText.toList, toList_sourceOf hf]
  exact Flags.inlineLetters_leading_group hf e.given s.toList

theorem inj_of_sourceOf_eq (h₁ : e₁.text = .characters s₁) (h₂ : e₂.text = .characters s₂)
    (h : sourceOf e₁.flags s₁ = sourceOf e₂.flags s₂) :
    s₁ = s₂ ∧ e₁.flags.inline = e₂.flags.inline := by
  by_cases hf₁ : e₁.flags.inlineLetters = []
  · by_cases hf₂ : e₂.flags.inlineLetters = []
    · rw [sourceOf_of_flagless hf₁, sourceOf_of_flagless hf₂] at h
      exact ⟨h, Flags.inlineLetters_eq_iff.mp (hf₁.trans hf₂.symm)⟩
    · -- the first text begins with the flags of the second, so that it sets them itself
      rw [sourceOf_of_flagless hf₁] at h
      exact absurd hf₁ (flags_of_text_eq_source (h ▸ h₁) hf₂)
  · by_cases hf₂ : e₂.flags.inlineLetters = []
    · rw [sourceOf_of_flagless hf₂] at h
      exact absurd hf₂ (flags_of_text_eq_source (h ▸ h₂) hf₁)
    · have hlists := congrArg String.toList h
      rw [toList_sourceOf hf₁, toList_sourceOf hf₂] at hlists
      obtain ⟨hflags, htexts⟩ := Flags.group_inj (List.cons.inj (List.cons.inj hlists).2).2
      exact ⟨String.toList_inj.mp htexts, hflags⟩

theorem sourceOf_eq_iff (h₁ : e₁.text = .characters s₁) (h₂ : e₂.text = .characters s₂) :
    sourceOf e₁.flags s₁ = sourceOf e₂.flags s₂ ↔
      s₁ = s₂ ∧ e₁.flags.inline = e₂.flags.inline := by
  constructor
  · exact inj_of_sourceOf_eq h₁ h₂
  · rintro ⟨rfl, hflags⟩
    rw [sourceOf, sourceOf, Flags.inlineLetters_eq_iff.mpr hflags]

section

variable [RegexEngine]

theorem regex_of_compile {σ : Schema} (htext : e.text = .characters s)
    (h : (Shorthand.expression e).compile = .ok σ) :
    ∃ p : Pattern, σ = .regex p ∧ p.source = sourceOf e.flags s := by
  rw [Shorthand.compile] at h
  obtain ⟨t, p, ht, rfl, hp⟩ := Shorthand.exists_of_compileExpression h
  obtain rfl : s = t := ExpressionText.characters.inj (htext.symm.trans ht)
  exact ⟨p, rfl, Pattern.source_of_ofSource hp⟩

/-- The source of an expression over characters tells its text and those of its flags that the
search engine knows, whether they were given or the text sets them. So the schemas of two
expressions are equal only if these are the same. -/
theorem source_tells_expression (h₁ : e₁.text = .characters s₁) (h₂ : e₂.text = .characters s₂) :
    (sourceOf e₁.flags s₁ = sourceOf e₂.flags s₂ ↔
        s₁ = s₂ ∧ e₁.flags.inline = e₂.flags.inline) ∧
      ∀ σ₁ σ₂, (Shorthand.expression e₁).compile = .ok σ₁ →
        (Shorthand.expression e₂).compile = .ok σ₂ →
        (σ₁.equal σ₂ = true ↔ s₁ = s₂ ∧ e₁.flags.inline = e₂.flags.inline) := by
  refine ⟨sourceOf_eq_iff h₁ h₂, ?_⟩
  intro σ₁ σ₂ hσ₁ hσ₂
  obtain ⟨p, rfl, hp⟩ := regex_of_compile h₁ hσ₁
  obtain ⟨q, rfl, hq⟩ := regex_of_compile h₂ hσ₂
  rw [← sourceOf_eq_iff h₁ h₂, ← hp, ← hq]
  simp [Schema.equal, Schema.compare]

end

/-- The same flag, set by the text of one expression and given to the other: the source of the
second is the text of the first, whose own source has the flag twice. -/
theorem source_tells_expression_group :
    let e₁ : Expression := ⟨.characters "(?i)b", {}⟩
    let e₂ : Expression := ⟨.characters "b", { ignoreCase := true }⟩
    sourceOf e₁.flags "(?i)b" = "(?i)(?i)b" ∧ sourceOf e₂.flags "b" = "(?i)b" ∧
      sourceOf e₁.flags "(?i)b" ≠ sourceOf e₂.flags "b" ∧
      ∃ σ₁ σ₂, (Shorthand.expression e₁).compile = .ok σ₁ ∧
        (Shorthand.expression e₂).compile = .ok σ₂ ∧ σ₁.equal σ₂ = false := by
  intro e₁ e₂
  have hsources : sourceOf e₁.flags "(?i)b" = "(?i)(?i)b" ∧ sourceOf e₂.flags "b" = "(?i)b" := by
    decide +kernel
  have hcompile : ∀ e ∈ [e₁, e₂], ∃ σ, (Shorthand.expression e).compile = .ok σ := by
    intro e he
    have hok : ((Shorthand.expression e).compile.toOption).isSome := by
      revert e
      decide +kernel
    cases hc : (Shorthand.expression e).compile with
    | ok σ => exact ⟨σ, rfl⟩
    | error _ => simp [hc, Except.toOption] at hok
  obtain ⟨σ₁, hσ₁⟩ := hcompile e₁ (by simp)
  obtain ⟨σ₂, hσ₂⟩ := hcompile e₂ (by simp)
  obtain ⟨hsource, hschema⟩ := @source_tells_expression e₁ e₂ _ _ _ rfl rfl
  have hne : ¬ ("(?i)b" = "b" ∧ e₁.flags.inline = e₂.flags.inline) := by simp
  refine ⟨hsources.1, hsources.2, fun h => hne (hsource.mp h), σ₁, σ₂, hσ₁, hσ₂, ?_⟩
  exact Bool.eq_false_iff.mpr fun h => hne ((hschema σ₁ σ₂ hσ₁ hσ₂).mp h)

end Expression

end ShapeMatch
