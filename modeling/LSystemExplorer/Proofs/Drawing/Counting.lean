import Mathlib.Algebra.BigOperators.Finprod
import LSystemExplorer.Proofs.Drawing.Success

/-!
# How many symbols a model leads to

A word grows with every pass, and soon it is too long to be looked at.  The numbers in which
the symbols occur can be told without it.  A rule says how often each symbol stands in the
word that replaces another one (`Rules.yield`), so the number of a symbol after a pass is a
sum over all symbols of the number of the one before the pass times its yield of the other
(`Rules.countAfterPass`).  No pass looks at the order of the symbols, and therefore the sum
is right whatever the word is (`Rules.count_rewrite`).

The sum runs over all symbols there are, but only those of the word contribute to it.

A drawing has as many lines as the word has `F`, and so the size of every drawing of a model
is known beforehand (`Model.count_generate`).
-/

set_option autoImplicit false

namespace LSystemExplorer

namespace Rules

/-- How often a symbol stands in what replaces another one.  A symbol without a rule stays
what it is. -/
def yield (rules : Rules) (symbol produced : Symbol) : Nat :=
  match rules.find? symbol with
  | some word => word.count produced
  | none => if symbol = produced then 1 else 0

/-- How often a symbol occurs after a pass, given how often each one occurs before it. -/
noncomputable def countAfterPass (rules : Rules) (counts : Symbol → Nat) (produced : Symbol) :
    Nat :=
  ∑ᶠ symbol, counts symbol * rules.yield symbol produced

theorem count_replacement (rules : Rules) (symbol produced : Symbol) :
    (rules.replacement symbol).count produced = rules.yield symbol produced := by
  unfold replacement yield
  cases rules.find? symbol with
  | none =>
      rw [Option.getD_none, List.count_singleton, beq_eq_decide]
      simp only [decide_eq_true_eq]
  | some word => rfl

/-- **A pass turns the numbers of the symbols as the yields say.** -/
theorem count_rewrite (rules : Rules) (word : Word) (produced : Symbol) :
    (rules.rewrite word).count produced =
      rules.countAfterPass (fun symbol => word.count symbol) produced := by
  have counted : ∀ symbol, ((List.count produced) ∘ rules.replacement) symbol =
      rules.yield symbol produced := fun symbol => rules.count_replacement symbol produced
  have absent : (Function.support fun symbol => word.count symbol * rules.yield symbol produced) ⊆
      word.toFinset := by
    intro symbol contributes
    rw [Function.mem_support] at contributes
    rw [List.coe_toFinset]
    exact List.count_pos_iff.mp (Nat.pos_of_ne_zero (left_ne_zero_of_mul contributes))
  calc (rules.rewrite word).count produced
      = (word.map ((List.count produced) ∘ rules.replacement)).sum := List.count_flatMap
    _ = ∑ symbol ∈ word.toFinset,
          word.count symbol • ((List.count produced) ∘ rules.replacement) symbol :=
        Finset.sum_list_map_count word _
    _ = ∑ symbol ∈ word.toFinset, word.count symbol * rules.yield symbol produced := by
        refine Finset.sum_congr rfl fun symbol _ => ?_
        rw [counted, smul_eq_mul]
    _ = rules.countAfterPass (fun symbol => word.count symbol) produced :=
        (finsum_eq_sum_of_support_subset _ absent).symm

/-- Of several passes the last one can be split off as well as the first. -/
theorem rewriteTimes_succ (rules : Rules) (passes : Nat) (word : Word) :
    rules.rewriteTimes (passes + 1) word = rules.rewrite (rules.rewriteTimes passes word) := by
  induction passes generalizing word with
  | zero => rfl
  | succ passes ih => exact ih (rules.rewrite word)

end Rules

namespace Model

variable {α : Type}

/-- How often each symbol occurs after some passes over the seed. -/
noncomputable def countsAfter (model : Model α) : Nat → Symbol → Nat
  | 0 => fun symbol => model.seed.count symbol
  | passes + 1 => model.rules.countAfterPass (model.countsAfter passes)

/-- How often each symbol occurs after all passes and the final one. -/
noncomputable def finalCounts (model : Model α) : Symbol → Nat :=
  model.finalRules.countAfterPass (model.countsAfter model.iterations)

/-- The numbers are right after every pass. -/
theorem count_passes (model : Model α) (passes : Nat) (symbol : Symbol) :
    (model.rules.rewriteTimes passes model.seed).count symbol =
      model.countsAfter passes symbol := by
  induction passes generalizing symbol with
  | zero => rfl
  | succ passes ih =>
      rw [Rules.rewriteTimes_succ, Rules.count_rewrite, countsAfter]
      congr 1
      funext before
      exact ih before

/-- **The numbers of the symbols of a word can be told without the word.**  They come from
those of the seed by one sum of yields for each pass and one for the final pass.  Every
drawing of the model has as many lines as there are `F`. -/
theorem count_generate [Scalar α] [Compass α] (model : Model α) :
    (∀ symbol, model.generate.count symbol = model.finalCounts symbol) ∧
      ∀ (angle : α) (viewport : Viewport α) (scene : Scene α),
        Scene.render model angle viewport = .ok scene →
          scene.segments.length = model.finalCounts 'F' := by
  have counts : ∀ symbol, model.generate.count symbol = model.finalCounts symbol := by
    intro symbol
    rw [generate_eq_rewrite, Rules.count_rewrite, finalCounts]
    congr 1
    funext before
    exact model.count_passes model.iterations before
  refine ⟨counts, fun angle viewport scene rendered => ?_⟩
  rw [Scene.render_eq] at rendered
  split at rendered
  · cases rendered
  · cases rendered
    rw [Turtle.length_lines, counts]

/-- A twig branches three times at each bud, its stems double, and the buds fall off in the
end.  After four passes it has 130 lines, wherever and however it is drawn. -/
theorem count_generate_twig :
    let twig : Model Float :=
      { Model.blank "Twig" with
        seed := "X".toList
        rules := Rules.ofList [('X', "F[+X]F[-X]+X".toList), ('F', "FF".toList)]
        finalRules := Rules.ofList [('X', [])] }
    ∃ scene, Scene.render twig 22.5 ⟨160.0, 96.0, 2.0⟩ = .ok scene ∧
      scene.segments.length = twig.finalCounts 'F' ∧ twig.finalCounts 'F' = 130 ∧
      twig.finalCounts 'X' = 0 := by
  intro twig
  have keeps : twig.KeepsNesting := by decide
  have rendered := Scene.render_nested keeps.generate 22.5 ⟨160.0, 96.0, 2.0⟩
  obtain ⟨counts, lines⟩ := count_generate twig
  refine ⟨_, rendered, lines _ _ _ rendered, ?_, ?_⟩
  · rw [← counts]
    decide +kernel
  · rw [← counts]
    decide +kernel

end Model

end LSystemExplorer
