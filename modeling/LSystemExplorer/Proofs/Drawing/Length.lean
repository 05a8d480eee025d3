import LSystemExplorer.Proofs.Drawing.Success
import LSystemExplorer.Proofs.Grammar.Alphabet
import LSystemExplorer.Viewer.Display
import Mathlib.Data.String.Basic

/-!
# How long a word is said to be

A scene keeps the length of the word that was walked, and the pane with the model shows it as
the number of symbols.  But it is the size of the word as a text (`Word.encodedLength_eq`), and
a symbol may take several units of it.  So it is at least the number of symbols, and it is this
number exactly for words of basic letters (`Word.encodedLength_eq_length_iff`).  The place of an
underflow, on the other hand, is counted in symbols.

Rewriting puts together what is written in the rules.  A model whose seed and replacements are
of basic letters has a word of basic letters after any number of passes
(`Model.WritesAscii.generate`), and for such models the pane is right
(`Scene.patternLength_in_symbols`).  For a model with an accent in its seed it is not
(`Scene.accent_counted_twice`).
-/

set_option autoImplicit false

namespace LSystemExplorer

/-! ## Sizes of words -/

namespace Word

@[simp] theorem encodedLength_nil : encodedLength [] = 0 := rfl

@[simp] theorem encodedLength_cons (symbol : Symbol) (later : Word) :
    encodedLength (symbol :: later) = symbol.utf8Size + encodedLength later := by
  rw [encodedLength, List.foldl_cons, Nat.add_comm]
  exact List.foldl_hom (symbol.utf8Size + ·) fun _ _ => Nat.add_assoc ..

/-- The length of a word is the size of the word as a text. -/
theorem encodedLength_eq (word : Word) :
    word.encodedLength = (String.ofList word).utf8ByteSize := by
  induction word with
  | nil => rfl
  | cons symbol later ih =>
      rw [encodedLength_cons, ih, String.utf8ByteSize_ofList, String.utf8ByteSize_ofList,
        String.utf8Len_cons, Nat.add_comm]

/-- No symbol goes uncounted. -/
theorem length_le_encodedLength (word : Word) : word.length ≤ word.encodedLength := by
  induction word with
  | nil => exact Nat.le_refl 0
  | cons symbol later ih =>
      have positive := symbol.utf8Size_pos
      rw [List.length_cons, encodedLength_cons]
      omega

/-- A symbol takes one unit if it is a basic letter. -/
theorem utf8Size_eq_one_iff_isAscii {symbol : Symbol} :
    symbol.utf8Size = 1 ↔ symbol.isAscii := by
  rw [Char.utf8Size_eq_one_iff, Char.isAscii, decide_eq_true_eq, UInt32.le_iff_toNat_le]
  exact Nat.lt_succ_iff.symm

/-- All symbols of the word are basic letters. -/
def IsAscii (word : Word) : Prop :=
  ∀ symbol ∈ word, symbol.isAscii

-- The search for an instance may go through all characters instead.
instance (word : Word) : Decidable word.IsAscii :=
  List.decidableBAll _ word

@[simp] theorem isAscii_nil : IsAscii [] := nofun

@[simp] theorem isAscii_cons {symbol : Symbol} {later : Word} :
    IsAscii (symbol :: later) ↔ symbol.isAscii ∧ IsAscii later :=
  List.forall_mem_cons

/-- **Symbols and units agree for words of basic letters only.** -/
theorem encodedLength_eq_length_iff {word : Word} :
    word.encodedLength = word.length ↔ word.IsAscii := by
  induction word with
  | nil => simp
  | cons symbol later ih =>
      have positive := symbol.utf8Size_pos
      have least := length_le_encodedLength later
      rw [isAscii_cons, ← ih, ← utf8Size_eq_one_iff_isAscii, encodedLength_cons, List.length_cons]
      omega

end Word

/-! ## Words of basic letters -/

/-- All words of the rules are of basic letters. -/
def Rules.WriteAscii (rules : Rules) : Prop :=
  ∀ rule ∈ rules.entries, Word.IsAscii rule.2

instance (rules : Rules) : Decidable rules.WriteAscii :=
  inferInstanceAs (Decidable (∀ rule ∈ rules.entries, _))

namespace Model

variable {α : Type}

/-- The seed of the model and all words of its rules are of basic letters. -/
structure WritesAscii (model : Model α) : Prop where
  seed : model.seed.IsAscii
  rules : model.rules.WriteAscii
  finalRules : model.finalRules.WriteAscii

instance (model : Model α) : Decidable model.WritesAscii :=
  decidable_of_iff
    (model.seed.IsAscii ∧ model.rules.WriteAscii ∧ model.finalRules.WriteAscii)
    ⟨fun ⟨seed, rules, finalRules⟩ => ⟨seed, rules, finalRules⟩,
      fun writes => ⟨writes.seed, writes.rules, writes.finalRules⟩⟩

/-- **The word of a model that is written in basic letters is of basic letters.** -/
theorem WritesAscii.generate {model : Model α} (writes : model.WritesAscii) :
    model.generate.IsAscii :=
  Writes.generate ⟨writes.seed, writes.rules, writes.finalRules⟩

end Model

/-! ## What is shown -/

namespace Scene

open ModelPane (field sceneLines)

variable {α : Type} [Scalar α] [Compass α]

/-- A scene has the size of the word, and a line for each `F`. -/
theorem sizes_of_render {model : Model α} {angle : α} {viewport : Viewport α} {scene : Scene α}
    (rendered : render model angle viewport = .ok scene) :
    scene.patternLength = model.generate.encodedLength ∧
      scene.segments.length = model.generate.count 'F' := by
  rw [render_eq] at rendered
  split at rendered
  · cases rendered
  · cases rendered
    exact ⟨rfl, Turtle.length_lines _ _ _⟩

/-- **The length of a drawing is its number of symbols for words of basic letters, and for no
others.**  It is the size of the word as a text, which is never less than the number of symbols.
So the pane shows how many symbols there are if the model is written in basic letters.  The place
of an underflow is always counted in symbols. -/
theorem patternLength_in_symbols (model : Model α) (angle : α) (viewport : Viewport α) :
    (∀ scene, render model angle viewport = .ok scene →
        scene.patternLength = (String.ofList model.generate).utf8ByteSize ∧
          model.generate.length ≤ scene.patternLength ∧
          (scene.patternLength = model.generate.length ↔ model.generate.IsAscii) ∧
          (model.WritesAscii → scene.patternLength = model.generate.length ∧
            sceneLines (.ok scene) =
              [field "Symbols" (toString model.generate.length),
                field "Segments" (toString (model.generate.count 'F'))])) ∧
      ∀ underflow, render model angle viewport = .error underflow →
        model.generate[underflow.index]? = some ']' := by
  refine ⟨fun scene rendered => ?_, fun underflow failed => ?_⟩
  · obtain ⟨size, lines⟩ := sizes_of_render rendered
    have counted : scene.patternLength = model.generate.length ↔ model.generate.IsAscii := by
      rw [size]
      exact Word.encodedLength_eq_length_iff
    refine ⟨size.trans (Word.encodedLength_eq _), ?_, counted, fun writes => ?_⟩
    · rw [size]
      exact Word.length_le_encodedLength _
    · have symbols := counted.mpr writes.generate
      refine ⟨symbols, ?_⟩
      rw [sceneLines, symbols, lines]
  · exact (unmatched?_eq_some_iff.mp (render_eq_error_iff.mp failed)).1.1

/-- After two passes the word of a twig has 47 symbols, and the pane says so.  Behind an accent
the place of an underflow is one more than that, as the accent is one symbol. -/
theorem patternLength_in_symbols_of_twig :
    let twig : Model Float :=
      { Model.blank "Twig" with
        iterations := 2
        seed := "X".toList
        rules := Rules.ofList [('X', "F[+X]F[-X]+X".toList), ('F', "FF".toList)] }
    let broken : Model Float := { twig with seed := "éX]".toList }
    twig.WritesAscii ∧
      (∃ scene, render twig 22.5 ⟨160.0, 96.0, 2.0⟩ = .ok scene ∧
        sceneLines (.ok scene) = [field "Symbols" "47", field "Segments" "10"]) ∧
      render broken 22.5 ⟨160.0, 96.0, 2.0⟩ = .error ⟨48⟩ ∧
      broken.generate[48]? = some ']' := by
  intro twig broken
  have writes : twig.WritesAscii := by decide
  have keeps : twig.KeepsNesting := by decide
  have rendered := render_nested keeps.generate 22.5 ⟨160.0, 96.0, 2.0⟩
  have failed : render broken 22.5 ⟨160.0, 96.0, 2.0⟩ = .error ⟨48⟩ :=
    render_eq_error_iff.mpr (by decide +kernel)
  obtain ⟨shown, -⟩ := patternLength_in_symbols twig 22.5 ⟨160.0, 96.0, 2.0⟩
  obtain ⟨-, -, -, symbols⟩ := shown _ rendered
  refine ⟨writes, ⟨_, rendered, (symbols writes).2.trans (by decide +kernel)⟩, failed, ?_⟩
  exact (patternLength_in_symbols broken 22.5 ⟨160.0, 96.0, 2.0⟩).2 ⟨48⟩ failed

/-- **An accent is counted twice.**  The word has two symbols, and the pane shows three. -/
theorem accent_counted_twice :
    let accent : Model Float :=
      { Model.blank "Accent" with iterations := 0, seed := "éF".toList, segments := 2.0 }
    accent.generate.length = 2 ∧
      ∃ scene, render accent 45.0 ⟨160.0, 96.0, 2.0⟩ = .ok scene ∧ scene.patternLength = 3 ∧
        sceneLines (.ok scene) = [field "Symbols" "3", field "Segments" "1"] := by
  intro accent
  have keeps : accent.KeepsNesting := by decide
  have rendered := render_nested keeps.generate 45.0 ⟨160.0, 96.0, 2.0⟩
  obtain ⟨size, lines⟩ := sizes_of_render rendered
  have three : accent.generate.encodedLength = 3 := by decide
  have one : accent.generate.count 'F' = 1 := by decide
  refine ⟨by decide, _, rendered, size.trans three, ?_⟩
  rw [sceneLines, size, lines, three, one]
  rfl

end Scene

end LSystemExplorer
