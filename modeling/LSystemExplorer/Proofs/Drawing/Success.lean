import LSystemExplorer.Catalog.Load
import LSystemExplorer.Drawing.Scene
import LSystemExplorer.Number.Binary64
import LSystemExplorer.Proofs.Turtle.Outcome

/-!
# Models that can always be drawn

Drawing a model fails only at an unmatched `]` of its word, and no number has a say in
it.  A model whose seed and rules keep to nested words has a nested word, however many
passes are made, and so it can be drawn at every angle and in every viewport.  If its
branches also balance, the turtle has closed all of them in the end.

The fractals that are always there are such models.
-/

set_option autoImplicit false

namespace LSystemExplorer

section Words

variable {α : Type} [Scalar α] [Compass α]

/-- A nested word is walked to its end. -/
theorem Turtle.walk_nested (pace : Pace α) (cursor : Cursor α) {word : Word}
    (nested : Nested word) :
    walk pace (start cursor) word =
      .ok ((start cursor).after pace word, (start cursor).lines pace word) :=
  (walk_eq_ok_iff pace).mpr ⟨nested.unmatched?_eq_none _, rfl, rfl⟩

/-- The brackets of the word decide whether a model can be drawn, and its lines are those
of the word. -/
theorem Scene.render_eq (model : Model α) (angle : α) (viewport : Viewport α) :
    Scene.render model angle viewport =
      match unmatched? 0 model.generate with
      | some place => .error ⟨place⟩
      | none => .ok ⟨model.generate.encodedLength,
          (Turtle.start (viewport.startingCursor model)).lines (viewport.pace model angle)
            model.generate⟩ := by
  rw [Scene.render, interpret_eq]
  cases unmatched? 0 model.generate <;> rfl

/-- A model can be drawn if its word nests. -/
theorem Scene.render_nested {model : Model α} (nested : Nested model.generate) (angle : α)
    (viewport : Viewport α) :
    Scene.render model angle viewport =
      .ok ⟨model.generate.encodedLength,
        (Turtle.start (viewport.startingCursor model)).lines (viewport.pace model angle)
          model.generate⟩ := by
  rw [Scene.render_eq, nested_iff.mp nested]

/-- A model cannot be drawn if its word has an unmatched `]`, and the first one is blamed. -/
theorem Scene.render_unmatched {model : Model α} {place : Nat}
    (first : IsLeast {i | Unmatched 0 model.generate i} place) (angle : α)
    (viewport : Viewport α) : Scene.render model angle viewport = .error ⟨place⟩ := by
  rw [Scene.render_eq, unmatched?_eq_some_iff.mpr first]

theorem Scene.render_eq_error_iff {model : Model α} {angle : α} {viewport : Viewport α}
    {underflow : Underflow} :
    Scene.render model angle viewport = .error underflow ↔
      unmatched? 0 model.generate = some underflow.index := by
  obtain ⟨index⟩ := underflow
  rw [Scene.render_eq]
  cases unmatched? 0 model.generate <;> simp

/-- **Neither the angle nor the viewport has a say in whether a model can be drawn.** -/
theorem Scene.render_error_anywhere {model : Model α} {angle : α} {viewport : Viewport α}
    {underflow : Underflow} (failed : Scene.render model angle viewport = .error underflow)
    (angle' : α) (viewport' : Viewport α) :
    Scene.render model angle' viewport' = .error underflow :=
  Scene.render_eq_error_iff.mpr (Scene.render_eq_error_iff.mp failed)

end Words

/-- The models that are always there keep words nested and balanced. -/
theorem builtin_keepsNesting :
    ∃ catalog : Catalog Float, Catalog.builtin = .ok catalog ∧
      ∀ model ∈ catalog.models, model.KeepsNesting ∧ model.KeepsBalance := by
  have checked : (match (Catalog.builtin : Except (CatalogError Float) (Catalog Float)) with
      | .ok catalog => catalog.models.all fun model => model.KeepsNesting ∧ model.KeepsBalance
      | .error _ => false) = true := by
    decide +kernel
  cases loaded : (Catalog.builtin : Except (CatalogError Float) (Catalog Float)) with
  | error error =>
      rw [loaded] at checked
      cases checked
  | ok catalog =>
      rw [loaded] at checked
      exact ⟨catalog, rfl, by simpa using checked⟩

/-- **A model whose rules keep words nested can always be drawn**, with any number of
passes, at any angle and in any viewport.  If the rules also keep words balanced, the
turtle ends with no branch open.  The models that are always there do both. -/
theorem render_of_keepsNesting {α : Type} [Scalar α] [Compass α] (model : Model α)
    (keeps : model.KeepsNesting) :
    (∀ (iterations : Nat) (angle : α) (viewport : Viewport α),
        ∃ scene, Scene.render { model with iterations } angle viewport = .ok scene) ∧
      (model.KeepsBalance → ∀ (iterations : Nat) (pace : Pace α) (cursor : Cursor α),
        ∃ turtle drawn,
          Turtle.walk pace (Turtle.start cursor) { model with iterations }.generate =
            .ok (turtle, drawn) ∧ turtle.depth = 0) ∧
      ∃ catalog : Catalog Float, Catalog.builtin = .ok catalog ∧
        ∀ builtin ∈ catalog.models, builtin.KeepsNesting ∧ builtin.KeepsBalance := by
  have keepsAll : ∀ iterations : Nat, { model with iterations }.KeepsNesting := fun _ =>
    ⟨keeps.seed, keeps.rules, keeps.finalRules⟩
  refine ⟨fun iterations angle viewport => ?_, fun balance iterations pace cursor => ?_,
    builtin_keepsNesting⟩
  · exact ⟨_, Scene.render_nested (keepsAll iterations).generate angle viewport⟩
  · have balanceAll : { model with iterations }.KeepsBalance :=
      ⟨balance.seed, balance.rules, balance.finalRules⟩
    have balanced := (keepsAll iterations).balanced balanceAll
    refine ⟨_, _, Turtle.walk_nested pace cursor balanced.1, ?_⟩
    rw [Turtle.depth_after]
    exact balanced.openAt_eq 0

/-- A weed with three branches at each stem can be drawn after any number of passes, and
all its branches are closed in the end. -/
theorem render_weed :
    let weed : Model Float :=
      { Model.blank "Weed" with rules := Rules.ofList [('F', "F[-F[+F]]F[|F]F".toList)] }
    weed.KeepsNesting ∧ weed.KeepsBalance ∧
      ∀ iterations : Nat,
        (∃ scene, Scene.render { weed with iterations } 25.0 ⟨160.0, 96.0, 2.0⟩ = .ok scene) ∧
          ∃ turtle drawn, Turtle.walk ⟨1.5, 25.0⟩ (Turtle.start (Cursor.facing ⟨0.5, 1.0⟩ 90.0))
              { weed with iterations }.generate = .ok (turtle, drawn) ∧ turtle.depth = 0 := by
  intro weed
  have keeps : weed.KeepsNesting := by decide
  have balance : weed.KeepsBalance := by decide
  obtain ⟨renders, closes, -⟩ := render_of_keepsNesting weed keeps
  exact ⟨keeps, balance, fun iterations =>
    ⟨renders iterations 25.0 ⟨160.0, 96.0, 2.0⟩, closes balance iterations _ _⟩⟩

end LSystemExplorer
