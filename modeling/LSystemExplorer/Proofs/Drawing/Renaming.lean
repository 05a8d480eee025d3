import LSystemExplorer.Proofs.Drawing.Success
import LSystemExplorer.Proofs.Grammar.Renaming
import Mathlib.Logic.Equiv.Basic

/-!
# Drawings of renamed grammars

The turtle reads of a symbol only which command it stands for.  So words with the same commands
at the same places are interpreted in the same way, whatever the other symbols are
(`interpret_congr`).

A renaming that keeps the symbols of the commands keeps all other symbols apart from them, for
it gives no name to two symbols (`Command.ofSymbol?_rename`).  The word of a renamed model is the
renamed word, so the drawing is the same, or fails at the same place (`Scene.render_renamed`).
Only the length of the word in eight-bit units may become another.
-/

set_option autoImplicit false

namespace LSystemExplorer

section Walk

variable {α : Type} [Scalar α] [Compass α]

/-! ## Words with the same commands -/

namespace Turtle

theorem step_congr {symbol other : Symbol}
    (told : Command.ofSymbol? symbol = Command.ofSymbol? other) (pace : Pace α)
    (turtle : Turtle α) (index : Nat) :
    turtle.step pace index symbol = turtle.step pace index other := by
  rw [step, step, told]

theorem walkFrom_congr (pace : Pace α) {word other : Word}
    (told : word.map Command.ofSymbol? = other.map Command.ofSymbol?) (index : Nat)
    (turtle : Turtle α) (drawn : List (Segment α)) :
    walkFrom pace word index turtle drawn = walkFrom pace other index turtle drawn := by
  induction word generalizing other index turtle drawn with
  | nil =>
      obtain rfl : other = [] := List.map_eq_nil_iff.mp told.symm
      rfl
  | cons symbol later ih =>
      obtain ⟨first, rest, rfl, here, behind⟩ := List.map_eq_cons_iff.mp told.symm
      rw [walkFrom, walkFrom, step_congr here.symm]
      simp only [ih behind.symm]

end Turtle

/-- **Words with the same commands at the same places are interpreted in the same way.** -/
theorem interpret_congr {word other : Word}
    (told : word.map Command.ofSymbol? = other.map Command.ofSymbol?) (pace : Pace α)
    (cursor : Cursor α) : interpret pace cursor word = interpret pace cursor other := by
  rw [interpret, interpret, Turtle.walk, Turtle.walk, Turtle.walkFrom_congr pace told]

end Walk

/-! ## Renamed words and models -/

section Renaming

variable {rename : Symbol ≃ Symbol}

/-- Commands keep their symbols, and no other symbol becomes a command. -/
theorem Command.ofSymbol?_rename
    (fixes : ∀ command : Command, rename command.symbol = command.symbol) (symbol : Symbol) :
    ofSymbol? (rename symbol) = ofSymbol? symbol := by
  refine Option.ext fun command => ?_
  rw [ofSymbol?_eq_some_iff, ofSymbol?_eq_some_iff]
  conv_lhs => rw [← fixes command]
  exact rename.apply_eq_iff_eq

variable {α : Type} [Scalar α] [Compass α]

theorem interpret_map_rename
    (fixes : ∀ command : Command, rename command.symbol = command.symbol) (pace : Pace α)
    (cursor : Cursor α) (word : Word) :
    interpret pace cursor (word.map rename) = interpret pace cursor word := by
  refine interpret_congr ?_ pace cursor
  rw [List.map_map]
  exact List.map_congr_left fun symbol _ => Command.ofSymbol?_rename fixes symbol

theorem Scene.segments_render (model : Model α) (angle : α) (viewport : Viewport α) :
    (render model angle viewport).map segments =
      interpret (viewport.pace model angle) (viewport.startingCursor model) model.generate := by
  rw [render]
  cases interpret (viewport.pace model angle) (viewport.startingCursor model) model.generate <;> rfl

/-- **The names of symbols do not matter.**  A renaming that keeps the symbols of the commands
renames the word of a model symbol by symbol, and the renamed model is drawn with the same lines
at every angle and in every viewport, or fails at the same place.  It is the model that the
renamed description leads to. -/
theorem Scene.render_renamed
    (fixes : ∀ command : Command, rename command.symbol = command.symbol) (model : Model α) :
    (model.renamed rename).generate = model.generate.map rename ∧
      (∀ angle viewport, (render (model.renamed rename) angle viewport).map segments =
        (render model angle viewport).map segments) ∧
      ∀ name settings, Model.build name settings = .ok model →
        Model.build name (settings.map (Setting.renamed rename)) =
          .ok (model.renamed rename) := by
  have generated := model.generate_renamed rename
  refine ⟨generated, fun angle viewport => ?_, fun name settings built => ?_⟩
  · rw [segments_render, segments_render, generated]
    -- The starting point and the pace depend on the numbers of the model alone.
    exact interpret_map_rename fixes (viewport.pace model angle) (viewport.startingCursor model)
      model.generate
  · rw [Model.build_renamed (fixes .draw), built]
    rfl

/-- `X` is called `木` instead, which is two units longer, and `木` is called `X`.  A word that
closes one branch too many fails at the same place. -/
theorem Scene.render_renamed_bush :
    let rename : Symbol ≃ Symbol := Equiv.swap 'X' '木'
    let settings : List (Setting Float) :=
      [.rule 'X' "F[+X]Y".toList, .rule 'F' "FF".toList, .finalRule 'Y' "Xf".toList,
        .iterations 2, .seed "X".toList, .segments 3.0]
    let bush : Model Float :=
      { Model.blank "Bush" with
        rules := .ofList [('X', "F[+X]Y".toList), ('F', "FF".toList)]
        finalRules := .ofList [('Y', "Xf".toList)]
        iterations := 2
        seed := "X".toList
        segments := 3.0 }
    let broken : Model Float := { bush with seed := "X]".toList }
    let viewport : Viewport Float := ⟨160.0, 96.0, 2.0⟩
    (∀ command : Command, rename command.symbol = command.symbol) ∧
      bush.generate = "FF[+F[+X]Xf]Xf".toList ∧
      (bush.renamed rename).generate = "FF[+F[+木]木f]木f".toList ∧
      (render (bush.renamed rename) 25.0 viewport).map segments =
        (render bush 25.0 viewport).map segments ∧
      (render (broken.renamed rename) 25.0 viewport).map segments = .error ⟨14⟩ ∧
      Model.build "Bush" (settings.map (Setting.renamed rename)) = .ok (bush.renamed rename) := by
  intro rename settings bush broken viewport
  have fixes : ∀ command : Command, rename command.symbol = command.symbol := by
    intro command
    cases command <;> decide
  have word : bush.generate = "FF[+F[+X]Xf]Xf".toList := by decide
  have built : Model.build "Bush" settings = .ok bush := by decide +kernel
  have failed : render broken 25.0 viewport = .error ⟨14⟩ :=
    render_eq_error_iff.mpr (by decide)
  obtain ⟨generated, drawn, builds⟩ := render_renamed fixes bush
  obtain ⟨-, alsoFailed, -⟩ := render_renamed fixes broken
  rw [word] at generated
  refine ⟨fixes, word, generated.trans (by decide), drawn 25.0 viewport, ?_,
    builds "Bush" settings built⟩
  rw [alsoFailed, failed]
  rfl

end Renaming

end LSystemExplorer
