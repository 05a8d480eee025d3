import LSystemExplorer.Proofs.Turtle.Enclosure

/-!
# Where strokes begin

A stroke begins where the turtle is when it comes to an `F`.  Only three symbols take the turtle
to another point: `F` and `f` walk there, and `]` goes back there.  All others turn it, open a
branch or mean nothing, so along a word without these three it stays at its point
(`Turtle.position_after`).

Hence a stroke begins where the one before it ended, unless the turtle has walked without drawing
or has come back from a branch in the meantime.  If it came back and has not walked since, the
stroke begins where the branch did that was closed last.  Which branch this is can be told from
the word: in a word that nests, a `]` closes the branch of one `[` and of no other
(`Nested.existsUnique_openedAfter`).  All this is about the very same points, however the numbers
are rounded, as no point is computed twice (`interpret_connected`).
-/

set_option autoImplicit false

namespace LSystemExplorer

/-! ## The branch that a `]` closes -/

/-- A `[` right behind `outside` opened the branch that a `]` right behind `word` closes: what is
between the two is balanced. -/
def OpenedAfter (outside word : Word) : Prop :=
  ∃ inside, word = outside ++ '[' :: inside ∧ Balanced inside

/-- A balanced word does not end with a branch that is still open. -/
theorem Balanced.not_balanced_behind {front inside : Word}
    (balanced : Balanced (front ++ '[' :: inside)) : ¬ Balanced inside := by
  intro inner
  have nested := balanced.1 front (List.prefix_append ..)
  have equal := balanced.2
  have innerEqual := inner.2
  rw [List.count_append, List.count_append, List.count_cons_self,
    List.count_cons_of_ne (by decide)] at equal
  omega

theorem OpenedAfter.unique {outside other word : Word} (opened : OpenedAfter outside word)
    (also : OpenedAfter other word) : outside = other := by
  obtain ⟨inside, rfl, balanced⟩ := opened
  obtain ⟨inside', same, balanced'⟩ := also
  -- of two such `[` the earlier one would have the later one open behind it
  rcases List.append_eq_append_iff.mp same with ⟨between, rfl, rest⟩ | ⟨between, rfl, rest⟩
  · cases between with
    | nil => exact (List.append_nil outside).symm
    | cons symbol between =>
        obtain ⟨-, rfl⟩ := List.cons.inj rest
        exact absurd balanced' balanced.not_balanced_behind
  · cases between with
    | nil => exact List.append_nil other
    | cons symbol between =>
        obtain ⟨-, rfl⟩ := List.cons.inj rest
        exact absurd balanced balanced'.not_balanced_behind

/-- **In a word that nests a `]` closes the branch of exactly one `[`.** -/
theorem Nested.existsUnique_openedAfter {word : Word} (nested : Nested (word ++ [']'])) :
    ∃! outside, OpenedAfter outside word := by
  obtain ⟨outside, inside, together, balanced⟩ := nested.exists_branch
  rw [append_branch] at together
  have opened : OpenedAfter outside word := ⟨inside, List.append_cancel_right together, balanced⟩
  exact ⟨outside, opened, fun _ also => also.unique opened⟩

/-! ## The point of the turtle -/

section Points

variable {α : Type} [Scalar α] [Compass α]

namespace Turtle

/-- Three symbols take the turtle to another point, and no others. -/
theorem position_heed (pace : Pace α) (turtle : Turtle α) {symbol : Symbol}
    (draws : symbol ≠ 'F') (moves : symbol ≠ 'f') (closes : symbol ≠ ']') :
    (turtle.heed pace symbol).1.cursor.position = turtle.cursor.position := by
  cases told : Command.ofSymbol? symbol with
  | none => simp [heed, told]
  | some command =>
      obtain rfl := Command.ofSymbol?_eq_some_iff.mp told
      cases command with
      | draw => exact absurd rfl draws
      | move => exact absurd rfl moves
      | pop => exact absurd rfl closes
      | _ => rfl

/-- **Along a word without them the turtle stays at its point.** -/
theorem position_after (pace : Pace α) (turtle : Turtle α) {word : Word}
    (draws : 'F' ∉ word) (moves : 'f' ∉ word) (closes : ']' ∉ word) :
    (turtle.after pace word).cursor.position = turtle.cursor.position := by
  induction word generalizing turtle with
  | nil => rfl
  | cons symbol later ih =>
      obtain ⟨draws, drawsLater⟩ := List.ne_and_not_mem_of_not_mem_cons draws
      obtain ⟨moves, movesLater⟩ := List.ne_and_not_mem_of_not_mem_cons moves
      obtain ⟨closes, closesLater⟩ := List.ne_and_not_mem_of_not_mem_cons closes
      rw [after_cons, ih _ drawsLater movesLater closesLater,
        position_heed pace turtle draws.symm moves.symm closes.symm]

/-- A `]` leads back to the turtle before the branch that it closes. -/
theorem after_close (pace : Pace α) (turtle : Turtle α) {outside word : Word}
    (opened : OpenedAfter outside word) :
    turtle.after pace (word ++ [']']) = turtle.after pace outside := by
  obtain ⟨inside, rfl, balanced⟩ := opened
  rw [← append_branch, after_append, after_branch _ _ balanced]

/-- An `F` draws the stroke from where the turtle is after the word before it. -/
theorem lines_getElem?_of_append (pace : Pace α) (turtle : Turtle α) (before later : Word) :
    (turtle.lines pace (before ++ 'F' :: later))[before.count 'F']? =
      some ((turtle.after pace before).stroke pace) := by
  have draws : (before ++ 'F' :: later)[before.length]? = some 'F' := by simp
  have line := turtle.lines_getElem? pace draws
  rwa [List.take_left] at line

end Turtle

/-! ## Strokes -/

/-- **How strokes are joined.**  Suppose that a word can be interpreted.  Its first stroke begins
at the cursor, if the turtle neither walks nor comes back from a branch before it.  Now take two
strokes in a row.  If the turtle neither walks nor comes back between them, the second begins at
the very point where the first ends.  If it comes back, and does not walk after it did so the last
time, then the last `]` closes the branch of exactly one `[`, and the second stroke begins at the
very point where the turtle was at this `[`. -/
theorem interpret_connected (pace : Pace α) (cursor : Cursor α) {word : Word}
    {segments : List (Segment α)} (succeeds : interpret pace cursor word = .ok segments) :
    (∀ before later, word = before ++ 'F' :: later →
      'F' ∉ before → 'f' ∉ before → ']' ∉ before →
        ∃ first, segments[0]? = some first ∧ first.start = cursor.position) ∧
      ∀ before between later, word = before ++ 'F' :: between ++ 'F' :: later →
        'F' ∉ between →
          ∃ first second, segments[before.count 'F']? = some first ∧
            segments[before.count 'F' + 1]? = some second ∧
            ('f' ∉ between → ']' ∉ between → second.start = first.finish) ∧
            ∀ upTo since, between = upTo ++ ']' :: since → 'f' ∉ since → ']' ∉ since →
              (∃! outside, OpenedAfter outside (before ++ 'F' :: upTo)) ∧
                ∀ outside, OpenedAfter outside (before ++ 'F' :: upTo) →
                  ∃ turtle drawn,
                    Turtle.walk pace (Turtle.start cursor) outside = .ok (turtle, drawn) ∧
                      second.start = turtle.cursor.position := by
  obtain ⟨matched, rfl⟩ := (interpret_eq_ok_iff pace cursor).mp succeeds
  refine ⟨?_, ?_⟩
  · rintro before later rfl draws moves closes
    have line := (Turtle.start cursor).lines_getElem?_of_append pace before later
    rw [List.count_eq_zero_of_not_mem draws] at line
    exact ⟨_, line, Turtle.position_after pace _ draws moves closes⟩
  · rintro before between later rfl single
    have first := (Turtle.start cursor).lines_getElem?_of_append pace before
      (between ++ 'F' :: later)
    have second := (Turtle.start cursor).lines_getElem?_of_append pace (before ++ 'F' :: between)
      later
    have rank : (before ++ 'F' :: between).count 'F' = before.count 'F' + 1 := by
      rw [List.count_append, List.count_cons_self, List.count_eq_zero_of_not_mem single]
    rw [rank] at second
    rw [← List.cons_append, ← List.append_assoc] at first
    refine ⟨_, _, first, second, fun moves closes => ?_, ?_⟩
    · rw [Turtle.stroke, Turtle.after_append]
      exact Turtle.position_after pace _ single moves closes
    · rintro upTo since rfl moves closes
      have draws : 'F' ∉ since := fun member => single (by simp [member])
      have split : before ++ 'F' :: (upTo ++ ']' :: since) =
          before ++ 'F' :: upTo ++ [']'] ++ since := by simp
      rw [split, unmatched?_append_eq_none, unmatched?_append_eq_none] at matched
      have nested : Nested (before ++ 'F' :: upTo ++ [']']) := nested_iff.mpr matched.1.1
      refine ⟨nested.existsUnique_openedAfter, fun outside opened => ?_⟩
      have begins : unmatched? 0 outside = none := by
        obtain ⟨inside, together, -⟩ := opened
        rw [together] at nested
        exact nested_iff.mp nested.of_append.of_append
      refine ⟨_, _, (Turtle.walk_eq_ok_iff pace).mpr ⟨begins, rfl, rfl⟩, ?_⟩
      rw [split, Turtle.stroke, Turtle.after_append, Turtle.after_close pace _ opened]
      exact Turtle.position_after pace _ draws moves closes

/-- The last stroke begins where the outer of two branches did: both were closed before it, the
inner one after a walk. -/
theorem interpret_connected_of_twig :
    let pace : Pace Float := ⟨1.5, 25.0⟩
    let cursor : Cursor Float := .facing ⟨0.5, 1.0⟩ 90.0
    ∃ segments, interpret pace cursor "-F+F[F[Ff]f]|[F".toList = .ok segments ∧
      (∃ first, segments[0]? = some first ∧ first.start = cursor.position) ∧
      (∃ first second, segments[0]? = some first ∧ segments[1]? = some second ∧
        second.start = first.finish) ∧
      ∃ last turtle drawn, segments[4]? = some last ∧
        Turtle.walk pace (Turtle.start cursor) "-F+F".toList = .ok (turtle, drawn) ∧
        last.start = turtle.cursor.position := by
  intro pace cursor
  have succeeds : interpret pace cursor "-F+F[F[Ff]f]|[F".toList =
      .ok ((Turtle.start cursor).lines pace "-F+F[F[Ff]f]|[F".toList) :=
    (interpret_eq_ok_iff pace cursor).mpr ⟨by decide, rfl⟩
  obtain ⟨initial, joined⟩ := interpret_connected pace cursor succeeds
  have first := initial "-".toList "+F[F[Ff]f]|[F".toList (by decide) (by decide) (by decide)
    (by decide)
  obtain ⟨_, _, drawn, drawnNext, onward, -⟩ :=
    joined "-".toList "+".toList "[F[Ff]f]|[F".toList (by decide) (by decide)
  obtain ⟨_, _, -, drawnLast, -, back⟩ :=
    joined "-F+F[F[".toList "f]f]|[".toList [] (by decide) (by decide)
  obtain ⟨-, returns⟩ := back "f]f".toList "|[".toList (by decide) (by decide) (by decide)
  obtain ⟨turtle, lines, reached, begins⟩ :=
    returns "-F+F".toList ⟨"F[Ff]f".toList, by decide, by decide⟩
  exact ⟨_, succeeds, first, ⟨_, _, drawn, drawnNext, onward (by decide) (by decide)⟩,
    _, turtle, lines, drawnLast, reached, begins⟩

end Points

end LSystemExplorer
