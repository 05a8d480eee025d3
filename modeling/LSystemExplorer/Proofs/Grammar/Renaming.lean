import LSystemExplorer.Proofs.Grammar.Entries
import LSystemExplorer.Proofs.Grammar.Expansion
import Mathlib.Logic.Equiv.Defs

/-!
# Grammars with other symbols

A renaming puts another symbol in the place of each symbol, and no symbol in the place of two.
It is carried through a grammar: into the seed, the symbols that have rules and the words of
these rules.

The look-up of a rule asks only whether two symbols are the same, and so it finds the renamed
word for a renamed symbol (`Rules.find?_renamed`).  Hence one pass, all passes and the final one
make the renamed word of a renamed word (`Rules.rewrite_renamed`, `Rules.rewriteTimes_renamed`),
and the word of a renamed model is the renamed word of the model (`Model.generate_renamed`).

A renamed model can be built as well: renaming the settings of a description leads to the
renamed model, as long as the seed that is taken by default keeps its name
(`Model.build_renamed`).
-/

set_option autoImplicit false

namespace LSystemExplorer

variable {α : Type} (rename : Symbol ≃ Symbol)

theorem lookup_map_rename (entries : List (Symbol × Word)) (symbol : Symbol) :
    (entries.map fun entry => (rename entry.1, entry.2.map rename)).lookup (rename symbol) =
      (entries.lookup symbol).map (List.map rename) := by
  induction entries with
  | nil => rfl
  | cons first later ih =>
      obtain ⟨key, word⟩ := first
      rw [List.map_cons, List.lookup_cons, List.lookup_cons, ih]
      by_cases same : symbol = key
      · simp [same]
      · have different : rename symbol ≠ rename key := rename.injective.ne same
        rw [beq_eq_false_iff_ne.mpr same, beq_eq_false_iff_ne.mpr different]

namespace Rules

/-! ## Rules -/

/-- The rules for the renamed symbols, with renamed words. -/
def renamed (rules : Rules) : Rules :=
  .ofList (rules.entries.map fun entry => (rename entry.1, entry.2.map rename))

variable (rules : Rules)

/-- **The word of a renamed symbol is the renamed word.** -/
theorem find?_renamed (symbol : Symbol) :
    (rules.renamed rename).find? (rename symbol) =
      (rules.find? symbol).map (List.map rename) := by
  have keys : (rules.entries.map fun entry => (rename entry.1, entry.2.map rename)).map Prod.fst =
      (rules.entries.map Prod.fst).map rename := by
    rw [List.map_map, List.map_map]
    rfl
  rw [renamed, find?_ofList_of_distinct, lookup_map_rename, find?]
  rw [keys]
  exact rules.distinct.map rename.injective

/-- Renamed rule sets are the same if renamed symbols have the same words. -/
theorem eq_of_find?_rename {left right : Rules}
    (same : ∀ symbol, left.find? (rename symbol) = right.find? (rename symbol)) :
    left = right := by
  refine eq_of_find? fun symbol => ?_
  rw [← rename.apply_symm_apply symbol, same]

theorem renamed_empty : (∅ : Rules).renamed rename = ∅ := rfl

theorem insert_renamed (symbol : Symbol) (word : Word) :
    (rules.insert symbol word).renamed rename =
      (rules.renamed rename).insert (rename symbol) (word.map rename) := by
  refine eq_of_find?_rename rename fun other => ?_
  rw [find?_renamed, find?_insert, find?_insert, find?_renamed]
  by_cases same : other = symbol
  · rw [if_pos same, if_pos (congrArg rename same), Option.map_some]
  · rw [if_neg same, if_neg (rename.injective.ne same)]

/-! ## Passes -/

/-- A symbol without a rule stays as it is, before and after renaming. -/
theorem replacement_renamed (symbol : Symbol) :
    (rules.renamed rename).replacement (rename symbol) = (rules.replacement symbol).map rename := by
  rw [replacement, replacement, find?_renamed]
  cases rules.find? symbol <;> rfl

theorem rewrite_renamed (word : Word) :
    (rules.renamed rename).rewrite (word.map rename) = (rules.rewrite word).map rename := by
  rw [rewrite, rewrite, List.flatMap_map, List.map_flatMap]
  congr 1
  funext symbol
  exact rules.replacement_renamed rename symbol

theorem rewriteTimes_renamed (passes : Nat) (word : Word) :
    (rules.renamed rename).rewriteTimes passes (word.map rename) =
      (rules.rewriteTimes passes word).map rename := by
  induction passes generalizing word with
  | zero => rfl
  | succ passes ih => rw [rewriteTimes, rewriteTimes, rewrite_renamed, ih]

end Rules

namespace Model

/-! ## Models -/

/-- The model with another symbol in the place of each symbol of its grammar. -/
def renamed (model : Model α) : Model α :=
  { model with
    rules := model.rules.renamed rename
    finalRules := model.finalRules.renamed rename
    seed := model.seed.map rename }

/-- **The word of a renamed model is the renamed word of the model.** -/
theorem generate_renamed (model : Model α) :
    (model.renamed rename).generate = model.generate.map rename := by
  rw [generate_eq_rewrite, generate_eq_rewrite]
  simp only [renamed]
  rw [Rules.rewriteTimes_renamed, Rules.rewrite_renamed]

end Model

/-! ## Descriptions -/

/-- The setting with other symbols; one that is not about the grammar is kept. -/
def Setting.renamed : Setting α → Setting α
  | .rule symbol word => .rule (rename symbol) (word.map rename)
  | .finalRule symbol word => .finalRule (rename symbol) (word.map rename)
  | .seed word => .seed (word.map rename)
  | setting => setting

namespace Model

theorem apply_renamed (model : Model α) (setting : Setting α) :
    (model.apply setting).renamed rename =
      (model.renamed rename).apply (setting.renamed rename) := by
  cases setting with
  | rule symbol word | finalRule symbol word =>
      simp only [apply, renamed, Setting.renamed, Rules.insert_renamed]
  | _ => rfl

theorem foldl_apply_renamed (settings : List (Setting α)) (model : Model α) :
    (settings.foldl Model.apply model).renamed rename =
      (settings.map (Setting.renamed rename)).foldl Model.apply (model.renamed rename) := by
  induction settings generalizing model with
  | nil => rfl
  | cons setting later ih => rw [List.foldl_cons, ih, apply_renamed, List.map_cons, List.foldl_cons]

variable [Scalar α] {rename}

theorem blank_renamed (drawn : rename 'F' = 'F') (name : String) :
    (blank name : Model α).renamed rename = blank name := by
  rw [renamed, blank]
  simp only [Rules.renamed_empty, List.map_cons, List.map_nil, drawn]

/-- **Renaming a description renames its model**, and changes nothing if there is none. -/
theorem build_renamed (drawn : rename 'F' = 'F') (name : String) (settings : List (Setting α)) :
    build name (settings.map (Setting.renamed rename)) =
      (build name settings).map (Model.renamed rename) := by
  have drafts : (settings.map (Setting.renamed rename)).foldl Model.apply (blank name) =
      (settings.foldl Model.apply (blank name)).renamed rename := by
    rw [foldl_apply_renamed, blank_renamed drawn]
  -- Only the numbers are examined, and renaming does not touch them.
  have examined : ((settings.foldl Model.apply (blank name)).renamed rename).defect? =
      (settings.foldl Model.apply (blank name)).defect? := rfl
  rw [build, build, drafts, examined]
  cases (settings.foldl Model.apply (blank name)).defect? <;> rfl

end Model

end LSystemExplorer
