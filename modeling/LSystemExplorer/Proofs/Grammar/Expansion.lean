import LSystemExplorer.Grammar.Model

/-!
# Words symbol by symbol

The word of a model is written down pass by pass: each pass reads the whole word that the
one before it has left.  The same word comes about depth first, when every symbol of the
seed is followed through all passes before the next one is looked at.

A pass puts in the place of a symbol what does not depend on its neighbours, and this is
all that is needed: `Model.expansion` of one more pass is `Model.expansion` of what stands
in the place of the symbol (`expansion_succ`), so that the passes over a word can be taken
apart from the front (`rewrite_rewriteTimes`).  A symbol without a rule waits for a later
pass, and at the latest for the final one, and a symbol with an empty word vanishes.

Hence a word is made of the words of the symbols of its seed (`generate_eq_flatMap`), and a
seed in two parts leads to a word in two parts (`generate_append`).
-/

set_option autoImplicit false

namespace LSystemExplorer.Model

variable {α : Type}

/-- The final pass of rules without entries changes nothing. -/
theorem generate_eq_rewrite (model : Model α) :
    model.generate =
      model.finalRules.rewrite (model.rules.rewriteTimes model.iterations model.seed) := by
  unfold generate
  split
  · next isEmpty =>
      have entries : model.finalRules.entries = [] := List.isEmpty_iff.mp isEmpty
      have same : model.finalRules.replacement = fun symbol => [symbol] := by
        funext symbol
        simp [Rules.replacement, Rules.find?, entries]
      simp [Rules.rewrite, same]
  · rfl

/-! ## Following one symbol -/

/-- One pass more is followed through what stands in the place of the symbol, also when
this is the symbol itself. -/
theorem expansion_succ (model : Model α) (passes : Nat) (symbol : Symbol) :
    model.expansion (passes + 1) symbol =
      (model.rules.replacement symbol).flatMap (model.expansion passes) := by
  unfold Rules.replacement
  cases found : model.rules.find? symbol with
  | none => simp [expansion, found]
  | some word => simp [expansion, found]

/-- The seed plays no part in what becomes of a symbol. -/
theorem expansion_with_seed (model : Model α) (seed : Word) (passes : Nat) :
    ({ model with seed } : Model α).expansion passes = model.expansion passes := by
  induction passes with
  | zero => rfl
  | succ passes ih =>
      funext symbol
      rw [expansion_succ, expansion_succ, ih]

/-! ## Following a word -/

/-- **The passes over a word come down to the expansion of its symbols.** -/
theorem rewrite_rewriteTimes (model : Model α) (passes : Nat) (word : Word) :
    model.finalRules.rewrite (model.rules.rewriteTimes passes word) =
      word.flatMap (model.expansion passes) := by
  -- The first pass is split off, so the word changes from one step to the next.
  induction passes generalizing word with
  | zero => rfl
  | succ passes ih =>
      calc model.finalRules.rewrite (model.rules.rewriteTimes (passes + 1) word)
          = (model.rules.rewrite word).flatMap (model.expansion passes) := ih _
        _ = word.flatMap fun symbol =>
              (model.rules.replacement symbol).flatMap (model.expansion passes) :=
            List.flatMap_assoc
        _ = word.flatMap (model.expansion (passes + 1)) := by
            congr 1
            funext symbol
            exact (model.expansion_succ passes symbol).symm

theorem generate_eq_flatMap (model : Model α) :
    model.generate = model.seed.flatMap (model.expansion model.iterations) := by
  rw [generate_eq_rewrite, rewrite_rewriteTimes]

/-- A seed in two parts leads to a word in two parts. -/
theorem generate_append (model : Model α) (front back : Word) :
    ({ model with seed := front ++ back } : Model α).generate =
      ({ model with seed := front } : Model α).generate ++
        ({ model with seed := back } : Model α).generate := by
  have expanded : ∀ seed : Word, ({ model with seed } : Model α).generate =
      seed.flatMap (model.expansion model.iterations) := by
    intro seed
    rw [generate_eq_flatMap, expansion_with_seed]
  rw [expanded, expanded, expanded, List.flatMap_append]

/-- **Generating pass by pass and following each symbol to its end lead to the same word.**
So the word of a seed in two parts is the word of the one followed by the word of the
other, and it makes no difference that a final pass without rules is left out. -/
theorem generate_depth_first (model : Model α) :
    model.generate = model.seed.flatMap (model.expansion model.iterations) ∧
      (∀ front back : Word,
        ({ model with seed := front ++ back } : Model α).generate =
          ({ model with seed := front } : Model α).generate ++
            ({ model with seed := back } : Model α).generate) ∧
      model.generate =
        model.finalRules.rewrite (model.rules.rewriteTimes model.iterations model.seed) :=
  ⟨model.generate_eq_flatMap, model.generate_append, model.generate_eq_rewrite⟩

/-- Each pass erases the ones that are there and leaves a new one behind; the `B` waits
through all passes for its final rule. -/
example :
    let model : Model Int :=
      { name := "Trail", seed := "AB".toList, iterations := 3
        rules := .ofList [('A', "A1".toList), ('1', [])]
        finalRules := .ofList [('1', "F".toList), ('B', "-F".toList)]
        heading := 0, position := ⟨0, 0⟩, angleStep := 0, segments := 1 }
    model.generate = "AF-F".toList := by
  decide

end LSystemExplorer.Model
