import LSystemExplorer.Proofs.Number.Exact
import LSystemExplorer.Proofs.Number.Writes
import LSystemExplorer.Proofs.Turtle.Enclosure

/-!
# Which way the turtle looks

The heading is brought back into its range after every turn.  In fractions nothing is lost by
that: to turn from the heading is to turn from any number of degrees that leads to it
(`Bounded.IsOnCircle.add`).  So the heading after a word can be told from the degrees it starts
with and the turns that still count, without following the walk.  A turn counts unless it was
taken in a branch that is closed again, since a branch leaves the turtle as it was
(`heading_after`).  This goes through all words that nest, which are put together symbol by
symbol and branch by branch.

Two turns that make up whole turns are therefore as good as none, wherever they are taken
(`after_undone`), and what is drawn does not change when they are put into a word
(`heading_law`).
-/

set_option autoImplicit false

namespace LSystemExplorer

open scoped Fraction

/-! ## Turning -/

/-- **A turn from the place of a number leads to the place of the number further on.** -/
theorem Bounded.IsOnCircle.add {α : Type} [ExactNumber α] {lower upper number value : α}
    (settled : IsOnCircle lower upper number value) (delta : α) :
    IsOnCircle lower upper (number + delta) (wrapInto lower upper (value + delta)) := by
  have nonempty : lower < upper := settled.mem.1.trans_lt settled.mem.2
  have same : wrapInto lower upper (value + delta) = wrapInto lower upper (number + delta) :=
    wrapInto_congr (settled.congruent.add_right delta)
  rw [same]
  exact isOnCircle_wrapInto nonempty _

namespace Cursor

/-- The heading is kept on a circle of degrees. -/
theorem wrapHeading_eq (degrees : ℚ) :
    wrapHeading degrees = Bounded.wrapInto (-180) 180 degrees :=
  Fraction.wrapInto_degrees degrees

/-- Two turns that make up whole turns undo each other. -/
theorem rotate_rotate {cursor : Cursor ℚ} (inRange : cursor.heading ∈ Set.Ico (-180) 180)
    {first second : ℚ} (whole : first + second ≡ 0 [PMOD 180 - -180]) :
    (cursor.rotate first).rotate second = cursor := by
  obtain ⟨position, heading⟩ := cursor
  refine congrArg (Cursor.mk position) ?_
  have back : Bounded.wrapInto (-180) 180 (heading + first) + second ≡ heading
      [PMOD 180 - -180] := by
    have turned : Bounded.wrapInto (-180) 180 (heading + first) ≡ heading + first
        [PMOD 180 - -180] := Bounded.wrapInto_modEq (by norm_num) _
    calc Bounded.wrapInto (-180) 180 (heading + first) + second
        ≡ heading + first + second [PMOD 180 - -180] := turned.add_right second
      _ = heading + (first + second) := add_assoc ..
      _ ≡ heading + 0 [PMOD 180 - -180] := whole.add_left heading
      _ = heading := add_zero heading
  rw [rotate, wrapHeading_eq, wrapHeading_eq, Bounded.wrapInto_congr back,
    Bounded.wrapInto_of_mem inRange]

end Cursor

/-! ## The turns of a word -/

/-- How far a symbol turns the turtle, in degrees. -/
def bend (angle : ℚ) (symbol : Symbol) : ℚ :=
  angle * ((if symbol = '-' then 1 else 0) - (if symbol = '+' then 1 else 0)) +
    180 * (if symbol = '|' then 1 else 0)

/-- How far the symbols of a word turn the turtle that are not in a closed branch. -/
def turned (angle : ℚ) (word : Word) : ℚ :=
  angle * (unenclosed word '-' - unenclosed word '+') + 180 * unenclosed word '|'

theorem turned_concat (angle : ℚ) (front : Word) {added : Symbol} (closes : added ≠ ']') :
    turned angle (front ++ [added]) = turned angle front + bend angle added := by
  simp only [turned, bend, unenclosed_concat front closes, Nat.cast_add, Nat.cast_ite,
    Nat.cast_one, Nat.cast_zero]
  ring

theorem turned_branch (angle : ℚ) (front : Word) {inside : Word} (balanced : Balanced inside) :
    turned angle (front ++ branch inside) = turned angle front := by
  have same : ∀ symbol, symbol ≠ '[' → symbol ≠ ']' →
      unenclosed (front ++ branch inside) symbol = unenclosed front symbol :=
    fun _ => unenclosed_branch front balanced
  rw [turned, same '-' (by decide) (by decide), same '+' (by decide) (by decide),
    same '|' (by decide) (by decide), turned]

namespace Turtle

variable [Compass ℚ]

/-! ## The heading -/

/-- Every symbol but `]` turns the turtle by its own degrees, if it turns it at all. -/
theorem heading_heed (pace : Pace ℚ) (turtle : Turtle ℚ) {symbol : Symbol}
    (closes : symbol ≠ ']') :
    (bend pace.angle symbol = 0 ∧
        (turtle.heed pace symbol).1.cursor.heading = turtle.cursor.heading) ∨
      (turtle.heed pace symbol).1.cursor.heading =
        Cursor.wrapHeading (turtle.cursor.heading + bend pace.angle symbol) := by
  cases told : Command.ofSymbol? symbol with
  | none =>
      have other : symbol ≠ '-' ∧ symbol ≠ '+' ∧ symbol ≠ '|' := by
        refine ⟨?_, ?_, ?_⟩ <;>
          · rintro rfl
            cases told
      exact Or.inl ⟨by simp [bend, other], by rw [heed, told]; rfl⟩
  | some command =>
      obtain rfl := Command.ofSymbol?_eq_some_iff.mp told
      have turns {delta : ℚ} (same : bend pace.angle command.symbol = delta) :
          (turtle.cursor.rotate delta).heading =
            Cursor.wrapHeading (turtle.cursor.heading + bend pace.angle command.symbol) := by
        rw [same, Cursor.rotate]
      cases command with
      | draw => exact Or.inl ⟨by simp [bend, Command.symbol], rfl⟩
      | move => exact Or.inl ⟨by simp [bend, Command.symbol], rfl⟩
      | turnLeft => exact Or.inr (turns (by simp [bend, Command.symbol]))
      | turnRight => exact Or.inr (turns (by simp [bend, Command.symbol]))
      | turnAround => exact Or.inr (turns (by simp [bend, Command.symbol, Fraction.halfTurn]))
      | push => exact Or.inl ⟨by simp [bend, Command.symbol], rfl⟩
      | pop => exact absurd rfl closes

/-- **One symbol turns the heading on, whatever degrees led to it.** -/
theorem isOnCircle_heed (pace : Pace ℚ) {turtle : Turtle ℚ} {symbol : Symbol}
    (closes : symbol ≠ ']') {degrees : ℚ}
    (facing : Bounded.IsOnCircle (-180) 180 degrees turtle.cursor.heading) :
    Bounded.IsOnCircle (-180) 180 (degrees + bend pace.angle symbol)
      (turtle.heed pace symbol).1.cursor.heading := by
  rcases turtle.heading_heed pace closes with ⟨none, same⟩ | rotated
  · rw [none, same, add_zero]
    exact facing
  · rw [rotated, Cursor.wrapHeading_eq]
    exact facing.add _

/-- **The heading after a word that nests is told by the turns outside of its closed
branches.** -/
theorem heading_after (pace : Pace ℚ) (position : Point ℚ) (degrees : ℚ) {word : Word}
    (nested : Nested word) :
    Bounded.IsOnCircle (-180) 180 (degrees + turned pace.angle word)
      ((start (.facing position degrees)).after pace word).cursor.heading := by
  refine Nested.induction ?_ (fun front symbol _ closes ih => ?_)
    (fun front inside _ balanced ih => ?_) nested
  · have none : turned pace.angle [] = 0 := by simp [turned]
    rw [none, add_zero, after_nil, start, Cursor.facing, Cursor.wrapHeading_eq]
    exact Bounded.isOnCircle_wrapInto (by norm_num) degrees
  · rw [turned_concat _ _ closes, ← add_assoc, after_append]
    exact isOnCircle_heed pace closes ih
  · rw [turned_branch _ _ balanced, after_append, after_branch pace _ balanced]
    exact ih

/-! ## Turns that undo each other -/

/-- **A turn and the turn back leave the turtle as it was, and so do two half turns.**  Nothing
is drawn meanwhile. -/
theorem after_undone (pace : Pace ℚ) {turtle : Turtle ℚ}
    (inRange : turtle.cursor.heading ∈ Set.Ico (-180) 180) {pair : Word}
    (member : pair ∈ ["+-".toList, "-+".toList, "||".toList]) :
    turtle.after pace pair = turtle ∧ turtle.lines pace pair = [] := by
  have undone {first second : ℚ} (whole : first + second ≡ 0 [PMOD 180 - -180]) :
      { turtle with cursor := (turtle.cursor.rotate first).rotate second } = turtle := by
    rw [Cursor.rotate_rotate inRange whole]
  have around : (180.0 : ℚ) + 180.0 ≡ 0 [PMOD 180 - -180] := by
    rw [Fraction.halfTurn, ← sub_neg_eq_add]
    exact AddCommGroup.self_modEq_zero
  simp only [List.mem_cons, List.not_mem_nil, or_false] at member
  rcases member with rfl | rfl | rfl
  · exact ⟨undone (by rw [neg_add_cancel]), rfl⟩
  · exact ⟨undone (by rw [add_neg_cancel]), rfl⟩
  · exact ⟨undone around, rfl⟩

end Turtle

section Interpretation

variable [Compass ℚ]

/-- Such turns can be put into a word, wherever it is cut: it then fails when it failed before,
and otherwise draws the same lines. -/
theorem interpret_undone (pace : Pace ℚ) (position : Point ℚ) (degrees : ℚ) (front back : Word)
    {pair : Word} (member : pair ∈ ["+-".toList, "-+".toList, "||".toList])
    (segments : List (Segment ℚ)) :
    interpret pace (.facing position degrees) (front ++ pair ++ back) = .ok segments ↔
      interpret pace (.facing position degrees) (front ++ back) = .ok segments := by
  have passes : ∀ depth, unmatched? depth pair = none ∧ openAt depth pair = depth := by
    simp only [List.mem_cons, List.not_mem_nil, or_false] at member
    rcases member with rfl | rfl | rfl <;> exact fun _ => ⟨rfl, rfl⟩
  rw [interpret_eq_ok_iff, interpret_eq_ok_iff, unmatched?_append_eq_none,
    unmatched?_append_eq_none, unmatched?_append_eq_none, openAt_append,
    (passes (openAt 0 front)).2, and_iff_left (passes (openAt 0 front)).1]
  refine and_congr_right fun ⟨matched, _⟩ => ?_
  have inRange := (Turtle.heading_after pace position degrees (nested_iff.mpr matched)).mem
  obtain ⟨same, silent⟩ := Turtle.after_undone pace inRange member
  rw [Turtle.lines_append, Turtle.lines_append, Turtle.lines_append, Turtle.after_append, same,
    silent, List.append_nil]

/-- **The law of the heading.**  The turtle gets through the words that nest, and through no
others.  After such a word it looks in the one direction from `-180` up to, but not including,
`180` degrees that is congruent, modulo whole turns, to what it started with and the turns outside
of the closed branches: the angle step for each `-`, its opposite for each `+`, and half a turn for
each `|`.  So `+-`, `-+` and `||` can be put anywhere into a word, and the lines remain the
same. -/
theorem heading_law (pace : Pace ℚ) (position : Point ℚ) (degrees : ℚ) :
    (∀ word, Nested word ↔ ∃ turtle drawn,
        Turtle.walk pace (.start (.facing position degrees)) word = .ok (turtle, drawn)) ∧
      (∀ word turtle drawn,
        Turtle.walk pace (.start (.facing position degrees)) word = .ok (turtle, drawn) →
          Bounded.IsOnCircle (-180) 180
            (degrees + pace.angle * (unenclosed word '-' - unenclosed word '+') +
              180 * unenclosed word '|')
            turtle.cursor.heading) ∧
      ∀ front back : Word, ∀ pair ∈ ["+-".toList, "-+".toList, "||".toList], ∀ segments,
        interpret pace (.facing position degrees) (front ++ pair ++ back) = .ok segments ↔
          interpret pace (.facing position degrees) (front ++ back) = .ok segments := by
  refine ⟨fun word => ?_, fun word turtle drawn walked => ?_, fun front back pair member segments =>
    interpret_undone pace position degrees front back member segments⟩
  · rw [nested_iff]
    constructor
    · intro matched
      exact ⟨_, _, (Turtle.walk_eq_ok_iff pace).mpr ⟨matched, rfl, rfl⟩⟩
    · rintro ⟨turtle, drawn, walked⟩
      exact ((Turtle.walk_eq_ok_iff pace).mp walked).1
  · obtain ⟨matched, rfl, -⟩ := (Turtle.walk_eq_ok_iff pace).mp walked
    have facing := Turtle.heading_after pace position degrees (nested_iff.mpr matched)
    rw [turned, ← add_assoc] at facing
    exact facing

end Interpretation

/-- A compass that knows the four directions along the axes. -/
@[reducible] def Compass.alongAxes : Compass ℚ where
  cosine degrees := if degrees = 0 then 1 else if degrees = -180 then -1 else 0
  sine degrees := if degrees = 90 then 1 else if degrees = -90 then -1 else 0

/-- The step turns backward and more than once round.  One branch is closed, so that its turns
do not count, and one is left open. -/
theorem heading_law_along_axes :
    letI := Compass.alongAxes
    let pace : Pace ℚ := ⟨1, -450⟩
    let cursor : Cursor ℚ := .facing ⟨0, 0⟩ 810
    let word := "F-[+|F]|F[+F".toList
    (unenclosed word '-', unenclosed word '+', unenclosed word '|') = (1, 1, 1) ∧
      ∃ turtle drawn, Turtle.walk pace (.start cursor) word = .ok (turtle, drawn) ∧
        turtle.cursor.heading = -90 ∧ drawn.length = 4 ∧
        interpret pace cursor ("F-[".toList ++ "+-".toList ++ "+|F]|F[+F".toList) = .ok drawn := by
  let _ : Compass ℚ := Compass.alongAxes
  intro pace cursor word
  have counted : (unenclosed word '-', unenclosed word '+', unenclosed word '|') = (1, 1, 1) := by
    decide
  obtain ⟨arrives, law, undone⟩ := heading_law pace ⟨0, 0⟩ 810
  have nested : Nested word := by decide
  obtain ⟨turtle, drawn, walked⟩ := (arrives word).mp nested
  have interpreted : interpret pace cursor word = .ok drawn := by
    rw [interpret, walked]
    rfl
  refine ⟨counted, turtle, drawn, walked, ?_, ?_, ?_⟩
  · have facing := law word turtle drawn walked
    simp only [Prod.mk.injEq] at counted
    rw [counted.1, counted.2.1, counted.2.2] at facing
    refine (facing.unique (-90) (by norm_num) ?_).symm
    refine AddCommGroup.modEq_iff_zsmul.mpr ⟨3, ?_⟩
    norm_num [pace]
  · rw [← ((interpret_eq_ok_iff pace cursor).mp interpreted).2]
    exact Turtle.length_lines pace _ word
  · exact (undone "F-[".toList "+|F]|F[+F".toList "+-".toList (by decide) drawn).mpr interpreted

end LSystemExplorer
