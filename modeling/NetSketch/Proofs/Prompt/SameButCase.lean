import NetSketch.Proofs.Change.Answer
import NetSketch.Proofs.Text.SameButCase

/-!
# Prompts that differ in the case of ASCII letters

Case is removed in two ways: templates, fallbacks and commands are looked for in the small letters
of a prompt, and component types by patterns that ignore case. Neither tells such prompts apart.

* `allNamed_eq_of_sameButCase`: the same component types are named;
* **`create_eq_of_sameButCase`**: the same diagram, fallback and command.
-/

namespace NetSketch

open Prompt Text

variable {s t : String}

theorem allNamed_eq_of_sameButCase (h : SameButCase s t) : allNamed s = allNamed t :=
  congrArg (List.map NameRule.type)
    (List.filter_congr fun r _ => r.pattern.occurs_eq_of_sameButCase h)

theorem ofPrompt_eq_of_sameButCase (h : SameButCase s t) : Spec.ofPrompt s = Spec.ofPrompt t := by
  rw [Spec.ofPrompt, Spec.ofPrompt, allNamed_eq_of_sameButCase h]

theorem template?_eq_of_sameButCase (h : SameButCase s t) (options : Options) :
    options.template? s = options.template? t := by
  rw [Options.template?, Options.template?, Template.forPrompt?, Template.forPrompt?,
    Template.byIdIn?, Template.byIdIn?, lower_eq_of_sameButCase h]

theorem forPrompt_eq_of_sameButCase (h : SameButCase s t) :
    Fallback.forPrompt s = Fallback.forPrompt t := by
  rw [Fallback.forPrompt, Fallback.forPrompt, lower_eq_of_sameButCase h]

theorem command_eq_of_sameButCase (h : SameButCase s t) : command s = command t := by
  rw [command, command, lower_eq_of_sameButCase h.trim]

/-- **Prompts that differ in the case of ASCII letters only** create the same diagram, with the same
advice, steps and explanation, or fail with the same proposal; they have the same fallback and are
the same command. With a store of typed signatures there always is an outcome. -/
theorem create_eq_of_sameButCase (h : SameButCase s t) (store : Store) (options : Options) :
    create store options s = create store options t ∧
      (store.Typed → ∃ o, create store options s = .ok o) ∧
        Fallback.forPrompt s = Fallback.forPrompt t ∧ command s = command t := by
  refine ⟨?_, fun hstore => ?_, forPrompt_eq_of_sameButCase h, command_eq_of_sameButCase h⟩
  · rw [create, create, Options.sketch, Options.sketch, template?_eq_of_sameButCase h,
      ofPrompt_eq_of_sameButCase h, forPrompt_eq_of_sameButCase h]
  · obtain ⟨o, ho, -⟩ : Answered none s (create store options s) :=
      create_answered hstore options
    exact ⟨o, ho⟩

/-- A switch of the third layer, not one of the second, and a server behind a Korean word. -/
theorem create_eq_of_sameButCase_switch :
    let s := "ADD an L3 Switch, 웹 서버 뒤에 WAS 가 있는 DB?"
    let t := "add AN l3 switch, 웹 서버 뒤에 was 가 있는 dB?"
    SameButCase s t ∧ (∃ o, create .bundled { templates := false } s = .ok o ∧
      create .bundled { templates := false } t = .ok o) ∧
        Fallback.forPrompt s = Fallback.forPrompt t ∧ command s = command t := by
  intro s t
  have h : SameButCase s t := by decide
  obtain ⟨hcreate, hthere, hrest⟩ :=
    create_eq_of_sameButCase h .bundled { templates := false }
  obtain ⟨o, ho⟩ := hthere Store.bundled_typed
  exact ⟨h, ⟨o, ho, hcreate ▸ ho⟩, hrest⟩

end NetSketch
