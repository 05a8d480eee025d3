import LSystemExplorer.Proofs.Grammar.Nesting

/-!
# The symbols a grammar writes

Rewriting puts together what is written in the rules, and leaves a symbol without a rule as it is.
So if the seed of a model and the words of its rules are made of some symbols only, all words that
come about are, after any number of passes and the final one (`Model.Writes.generate`).  Which
symbols have rules does not matter for this.
-/

set_option autoImplicit false

namespace LSystemExplorer

variable {allowed : Symbol → Prop}

namespace Rules

/-- The words of the rules are made of allowed symbols. -/
def Write (rules : Rules) (allowed : Symbol → Prop) : Prop :=
  ∀ rule ∈ rules.entries, ∀ symbol ∈ rule.2, allowed symbol

-- The search for an instance may go through all symbols instead.
instance (rules : Rules) [DecidablePred allowed] : Decidable (rules.Write allowed) :=
  let _ : DecidablePred fun rule : Symbol × Word => ∀ symbol ∈ rule.2, allowed symbol :=
    fun rule => List.decidableBAll _ rule.2
  List.decidableBAll _ rules.entries

variable {rules : Rules} {word : Word}

/-- One pass leads to no symbols but those of the word and those of the rules. -/
theorem Write.rewrite (writes : rules.Write allowed) (old : ∀ symbol ∈ word, allowed symbol) :
    ∀ symbol ∈ rules.rewrite word, allowed symbol := by
  intro symbol member
  obtain ⟨replaced, before, after⟩ := List.mem_flatMap.mp member
  rcases rules.replacement_cases replaced with rule | same
  · exact writes _ rule symbol after
  · rw [same, List.mem_singleton] at after
    rw [after]
    exact old replaced before

/-- Several passes lead to no others. -/
theorem Write.rewriteTimes (writes : rules.Write allowed) (passes : Nat)
    (old : ∀ symbol ∈ word, allowed symbol) :
    ∀ symbol ∈ rules.rewriteTimes passes word, allowed symbol := by
  induction passes generalizing word with
  | zero => exact old
  | succ passes ih => exact ih (writes.rewrite old)

end Rules

namespace Model

variable {α : Type} {model : Model α}

/-- The seed of the model and all words of its rules are made of allowed symbols. -/
structure Writes (model : Model α) (allowed : Symbol → Prop) : Prop where
  seed : ∀ symbol ∈ model.seed, allowed symbol
  rules : model.rules.Write allowed
  finalRules : model.finalRules.Write allowed

instance (model : Model α) [DecidablePred allowed] : Decidable (model.Writes allowed) :=
  let _ : Decidable (∀ symbol ∈ model.seed, allowed symbol) :=
    List.decidableBAll _ model.seed
  decidable_of_iff
    ((∀ symbol ∈ model.seed, allowed symbol) ∧ model.rules.Write allowed ∧
      model.finalRules.Write allowed)
    ⟨fun ⟨seed, rules, finalRules⟩ => ⟨seed, rules, finalRules⟩,
      fun writes => ⟨writes.seed, writes.rules, writes.finalRules⟩⟩

/-- **The word of a model is made of the symbols that are written in it.** -/
theorem Writes.generate (writes : model.Writes allowed) :
    ∀ symbol ∈ model.generate, allowed symbol := by
  rw [generate_eq_rewrite]
  exact writes.finalRules.rewrite (writes.rules.rewriteTimes model.iterations writes.seed)

end Model

end LSystemExplorer
