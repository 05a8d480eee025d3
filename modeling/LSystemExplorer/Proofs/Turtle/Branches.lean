import LSystemExplorer.Proofs.Turtle.Outcome

/-!
# A branch leaves the turtle as it was

What the turtle remembered before a word lies below all that the word pushes.  As long
as every `]` of the word is matched within it, the word neither sees nor changes what
lies below: walking with something below and walking without it differ by just that
(`after_onto`, `lines_onto`).

A balanced word pops all it pushes, and the brackets around it bring back the cursor.
So after a branch the turtle is the one before it (`after_branch`), and the branch
can be taken out of any word: what comes before and after it is drawn or fails as if it
were not there (`interpret_branch`).
-/

set_option autoImplicit false

namespace LSystemExplorer

/-- The word as a branch. -/
def branch (word : Word) : Word :=
  '[' :: (word ++ [']'])

/-- Its brackets stand by themselves behind a word. -/
theorem append_branch (front word : Word) :
    front ++ branch word = front ++ '[' :: word ++ [']'] := by
  rw [branch, List.append_assoc, List.cons_append]

/-- A branch leaves as many branches open as there were before it. -/
theorem Balanced.openAt_branch {word : Word} (balanced : Balanced word) (depth : Nat) :
    openAt depth (branch word) = depth := by
  have opened : openAfter depth '[' = depth + 1 := rfl
  rw [branch, openAt_cons, opened, openAt_append, balanced.openAt_eq]
  rfl

/-- The `]` at the end of a branch closes it. -/
theorem Balanced.unmatched?_branch {word : Word} (balanced : Balanced word) (depth : Nat) :
    unmatched? depth (branch word) = none := by
  have opened : openAfter depth '[' = depth + 1 := rfl
  have closed : unmatched? (depth + 1) (word ++ [']']) = none := by
    refine unmatched?_append_eq_none.mpr ⟨balanced.1.unmatched?_eq_none _, ?_⟩
    rw [balanced.openAt_eq]
    simp [unmatched?]
  simp [branch, unmatched?, opened, closed]

namespace Turtle

variable {α : Type} [Scalar α] [Compass α]

/-! ## What lies below -/

/-- The turtle with further cursors below those it remembers. -/
def onto (turtle : Turtle α) (below : List (Cursor α)) : Turtle α :=
  { turtle with branches := turtle.branches ++ below }

omit [Scalar α] [Compass α] in
/-- Every turtle is a fresh one with all it remembers below. -/
theorem start_onto (turtle : Turtle α) :
    (start turtle.cursor).onto turtle.branches = turtle :=
  rfl

/-- Unless the symbol comes back to what lies below, it leaves that alone. -/
theorem heed_onto (pace : Pace α) {turtle : Turtle α} {symbol : Symbol}
    (matched : ¬ (symbol = ']' ∧ turtle.depth = 0)) (below : List (Cursor α)) :
    (turtle.onto below).heed pace symbol =
      ((turtle.heed pace symbol).1.onto below, (turtle.heed pace symbol).2) := by
  cases told : Command.ofSymbol? symbol with
  | none => simp [heed, told]
  | some command =>
      obtain rfl := Command.ofSymbol?_eq_some_iff.mp told
      cases command with
      | pop =>
          obtain ⟨cursor, branches⟩ := turtle
          cases branches with
          | nil => exact absurd ⟨rfl, rfl⟩ matched
          | cons latest older => rfl
      | _ => rfl

/-- **A word whose `]` are matched within it does not touch what lies below.** -/
theorem after_onto (pace : Pace α) {turtle : Turtle α} {word : Word}
    (matched : unmatched? turtle.depth word = none) (below : List (Cursor α)) :
    (turtle.onto below).after pace word = (turtle.after pace word).onto below := by
  induction word generalizing turtle with
  | nil => rfl
  | cons symbol later ih =>
      obtain ⟨first, matched⟩ := unmatched?_cons_eq_none.mp matched
      rw [← depth_heed pace] at matched
      rw [after_cons, after_cons, heed_onto pace first]
      exact ih matched

/-- Nor do its lines depend on it. -/
theorem lines_onto (pace : Pace α) {turtle : Turtle α} {word : Word}
    (matched : unmatched? turtle.depth word = none) (below : List (Cursor α)) :
    (turtle.onto below).lines pace word = turtle.lines pace word := by
  induction word generalizing turtle with
  | nil => rfl
  | cons symbol later ih =>
      obtain ⟨first, matched⟩ := unmatched?_cons_eq_none.mp matched
      rw [← depth_heed pace] at matched
      rw [lines_cons, lines_cons, heed_onto pace first]
      dsimp only
      rw [ih matched]

/-! ## Branches -/

/-- A balanced word leaves what the turtle remembers as it was. -/
theorem branches_after (pace : Pace α) (turtle : Turtle α) {word : Word}
    (balanced : Balanced word) : (turtle.after pace word).branches = turtle.branches := by
  have matched : unmatched? (start turtle.cursor).depth word = none := nested_iff.mp balanced.1
  have depth : ((start turtle.cursor).after pace word).depth = 0 := by
    rw [depth_after]
    exact balanced.openAt_eq 0
  have empty : ((start turtle.cursor).after pace word).branches = [] :=
    List.length_eq_zero_iff.mp depth
  have below : ((start turtle.cursor).onto turtle.branches).after pace word =
      ((start turtle.cursor).after pace word).onto turtle.branches :=
    after_onto pace matched turtle.branches
  rw [start_onto] at below
  rw [below, onto, empty, List.nil_append]

/-- **After a branch the turtle is the one before it.** -/
theorem after_branch (pace : Pace α) (turtle : Turtle α) {word : Word}
    (balanced : Balanced word) : turtle.after pace (branch word) = turtle := by
  have remembered := branches_after pace ⟨turtle.cursor, turtle.cursor :: turtle.branches⟩ balanced
  have opened : (turtle.heed pace '[').1 = ⟨turtle.cursor, turtle.cursor :: turtle.branches⟩ := rfl
  rw [branch, after_cons, opened, after_append]
  generalize after pace ⟨turtle.cursor, turtle.cursor :: turtle.branches⟩ word = inside
    at remembered
  obtain ⟨cursor, branches⟩ := inside
  simp only at remembered
  subst remembered
  rfl

/-- A branch draws what its word draws from where the branch begins. -/
theorem lines_branch (pace : Pace α) (turtle : Turtle α) {word : Word}
    (balanced : Balanced word) :
    turtle.lines pace (branch word) = (start turtle.cursor).lines pace word := by
  have opened : turtle.heed pace '[' =
      ((start turtle.cursor).onto (turtle.cursor :: turtle.branches), none) := rfl
  have matched : unmatched? (start turtle.cursor).depth word = none := nested_iff.mp balanced.1
  rw [branch, lines_cons, opened, lines_append, lines_onto pace matched, lines_cons, line_heed]
  simp

end Turtle

/-! ## Taking a branch out of a word -/

section Interpretation

variable {α : Type} [Scalar α] [Compass α]

/-- **A branch can be taken out.**  When the turtle gets through `before`, a branch after
it brings the turtle back to where it was, with all it remembers, and draws what its word
draws from there.  What comes after the branch fails at the same symbol, or draws the same
lines, as without the branch. -/
theorem interpret_branch (pace : Pace α) (cursor : Cursor α) {before inside : Word}
    (balanced : Balanced inside) {turtle : Turtle α} {drawn : List (Segment α)}
    (reached : Turtle.walk pace (Turtle.start cursor) before = .ok (turtle, drawn)) :
    ∃ inner, interpret pace turtle.cursor inside = .ok inner ∧
      Turtle.walk pace (Turtle.start cursor) (before ++ branch inside) =
        .ok (turtle, drawn ++ inner) ∧
      ∀ behind : Word,
        (∀ place, interpret pace cursor (before ++ behind) = .error ⟨place⟩ →
          before.length ≤ place) ∧
        (∀ place, interpret pace cursor (before ++ branch inside ++ behind) = .error ⟨place⟩ →
          (before ++ branch inside).length ≤ place) ∧
        (∀ place,
          interpret pace cursor (before ++ branch inside ++ behind) =
              .error ⟨(before ++ branch inside).length + place⟩ ↔
            interpret pace cursor (before ++ behind) = .error ⟨before.length + place⟩) ∧
        ∀ segments, interpret pace cursor (before ++ branch inside ++ behind) = .ok segments ↔
          ∃ rest, segments = drawn ++ inner ++ rest ∧
            interpret pace cursor (before ++ behind) = .ok (drawn ++ rest) := by
  obtain ⟨through, arrived, linesBefore⟩ := (Turtle.walk_eq_ok_iff pace).mp reached
  have fresh : (Turtle.start cursor).depth = 0 := rfl
  have opened : openAt 0 before = turtle.depth := by
    rw [← arrived, Turtle.depth_after, fresh]
  rw [fresh] at through
  have throughBoth : unmatched? 0 (before ++ branch inside) = none :=
    unmatched?_append_eq_none.mpr ⟨through, balanced.unmatched?_branch _⟩
  have openedBoth : openAt 0 (before ++ branch inside) = turtle.depth := by
    rw [openAt_append, opened, balanced.openAt_branch]
  have arrivedBoth : (Turtle.start cursor).after pace (before ++ branch inside) = turtle := by
    rw [Turtle.after_append, arrived, Turtle.after_branch pace turtle balanced]
  have linesBoth : (Turtle.start cursor).lines pace (before ++ branch inside) =
      drawn ++ (Turtle.start turtle.cursor).lines pace inside := by
    rw [Turtle.lines_append, linesBefore, arrived, Turtle.lines_branch pace turtle balanced]
  refine ⟨_, (interpret_eq_ok_iff pace _).mpr ⟨nested_iff.mp balanced.1, rfl⟩,
    (Turtle.walk_eq_ok_iff pace).mpr ⟨throughBoth, arrivedBoth, linesBoth⟩, fun behind => ?_⟩
  -- what is behind meets the same turtle either way, so it fails and draws alike
  have fails : unmatched? 0 (before ++ behind) =
      (unmatched? turtle.depth behind).map (before.length + ·) := by
    rw [unmatched?_append, through, opened, Option.none_or]
  have failsBoth : unmatched? 0 (before ++ branch inside ++ behind) =
      (unmatched? turtle.depth behind).map ((before ++ branch inside).length + ·) := by
    rw [unmatched?_append, throughBoth, openedBoth, Option.none_or]
  have draws : (Turtle.start cursor).lines pace (before ++ behind) =
      drawn ++ turtle.lines pace behind := by
    rw [Turtle.lines_append, linesBefore, arrived]
  have drawsBoth : (Turtle.start cursor).lines pace (before ++ branch inside ++ behind) =
      drawn ++ (Turtle.start turtle.cursor).lines pace inside ++ turtle.lines pace behind := by
    rw [Turtle.lines_append, linesBoth, arrivedBoth]
  refine ⟨fun place failed => ?_, fun place failed => ?_, fun place => ?_, fun segments => ?_⟩
  · rw [interpret_eq_error_iff, fails, Option.map_eq_some_iff] at failed
    obtain ⟨later, -, rfl⟩ := failed
    exact Nat.le_add_right _ _
  · rw [interpret_eq_error_iff, failsBoth, Option.map_eq_some_iff] at failed
    obtain ⟨later, -, rfl⟩ := failed
    exact Nat.le_add_right _ _
  · rw [interpret_eq_error_iff, interpret_eq_error_iff, fails, failsBoth]
    simp
  · simp only [interpret_eq_ok_iff, fails, failsBoth, Option.map_eq_none_iff, draws, drawsBoth]
    constructor
    · rintro ⟨matched, rfl⟩
      exact ⟨_, rfl, matched, rfl⟩
    · rintro ⟨rest, rfl, matched, same⟩
      exact ⟨matched, by rw [List.append_cancel_left same]⟩

/-- The second `]` behind an open branch and a closed one is unmatched, with the closed
branch and without it. -/
theorem interpret_branch_twig :
    Balanced "F[-F]|".toList ∧
      interpret (⟨1.5, 25.0⟩ : Pace Float) (Cursor.facing ⟨0.5, 1.0⟩ 90.0)
          ("F[+f".toList ++ branch "F[-F]|".toList ++ "F]]F".toList) = .error ⟨14⟩ := by
  have balanced : Balanced "F[-F]|".toList := by decide
  have reached : Turtle.walk (⟨1.5, 25.0⟩ : Pace Float)
        (Turtle.start (Cursor.facing ⟨0.5, 1.0⟩ 90.0)) "F[+f".toList =
      .ok ((Turtle.start (Cursor.facing ⟨0.5, 1.0⟩ 90.0)).after ⟨1.5, 25.0⟩ "F[+f".toList,
        (Turtle.start (Cursor.facing ⟨0.5, 1.0⟩ 90.0)).lines ⟨1.5, 25.0⟩ "F[+f".toList) :=
    (Turtle.walk_eq_ok_iff _).mpr ⟨by decide, rfl, rfl⟩
  obtain ⟨_, _, _, behind⟩ := interpret_branch _ _ balanced reached
  refine ⟨balanced, ((behind "F]]F".toList).2.2.1 2).mpr ?_⟩
  exact (interpret_eq_error_iff _ _).mpr (by decide)

end Interpretation

end LSystemExplorer
