import LSystemExplorer.Proofs.Grammar.Nesting
import LSystemExplorer.Turtle.Walk

/-!
# How a walk ends

A walk fails only at a `]` when no branch is open.  So the turtle that stays as it
is at such a symbol, and obeys all others, can be followed to the end of any word:
`heed` is one symbol of it, `after` the turtle at the end of a word, and `lines`
what it draws on the way.  Each is a total function, and a word put together of two
is followed one part after the other.

How many branches are open depends on the word alone (`depth_after`), and so the
walk itself is settled by the pass over the brackets of the word: it fails at the
first unmatched `]`, and otherwise it is the total walk (`walkFrom_eq`).  What this
says about the lines of a word is collected in `interpret_outcome`.
-/

set_option autoImplicit false

namespace LSystemExplorer

namespace Command

/-- The symbol that stands for a command. -/
def symbol : Command → Symbol
  | .draw => 'F'
  | .move => 'f'
  | .turnLeft => '-'
  | .turnRight => '+'
  | .turnAround => '|'
  | .push => '['
  | .pop => ']'

/-- Each command has one symbol. -/
theorem ofSymbol?_eq_some_iff {symbol : Symbol} {command : Command} :
    ofSymbol? symbol = some command ↔ symbol = command.symbol := by
  constructor
  · intro told
    unfold ofSymbol? at told
    split at told
    all_goals cases told
    all_goals rfl
  · rintro rfl
    cases command <;> rfl

end Command

namespace Turtle

variable {α : Type} [Scalar α] [Compass α]

/-! ## One symbol -/

/-- The turtle after a symbol, and the line it drew.  A symbol that is no command, or
cannot be obeyed, leaves the turtle as it is. -/
def heed (pace : Pace α) (turtle : Turtle α) (symbol : Symbol) :
    Turtle α × Option (Segment α) :=
  ((Command.ofSymbol? symbol).bind (turtle.obey pace)).getD (turtle, none)

/-- The line from where the turtle is to where its next step leads. -/
def stroke (pace : Pace α) (turtle : Turtle α) : Segment α :=
  ⟨turtle.cursor.position, (turtle.cursor.advance pace.length).position⟩

/-- **A symbol fails exactly when it is a `]` and no branch is open**, and is heeded
otherwise. -/
theorem step_eq (pace : Pace α) (turtle : Turtle α) (index : Nat) (symbol : Symbol) :
    turtle.step pace index symbol =
      if symbol = ']' ∧ turtle.depth = 0 then .error ⟨index⟩
      else .ok (turtle.heed pace symbol) := by
  cases told : Command.ofSymbol? symbol with
  | none =>
      have other : symbol ≠ ']' := by
        rintro rfl
        cases told
      simp [step, heed, told, other]
  | some command =>
      obtain rfl := Command.ofSymbol?_eq_some_iff.mp told
      cases command with
      | pop =>
          obtain ⟨cursor, branches⟩ := turtle
          cases branches <;> rfl
      | _ => rfl

/-- A symbol opens or closes a branch as its bracket says. -/
theorem depth_heed (pace : Pace α) (turtle : Turtle α) (symbol : Symbol) :
    (turtle.heed pace symbol).1.depth = openAfter turtle.depth symbol := by
  cases told : Command.ofSymbol? symbol with
  | none =>
      have notOpening : symbol ≠ '[' := by
        rintro rfl
        cases told
      have notClosing : symbol ≠ ']' := by
        rintro rfl
        cases told
      simp [heed, told, openAfter, notOpening, notClosing]
  | some command =>
      obtain rfl := Command.ofSymbol?_eq_some_iff.mp told
      cases command with
      | pop =>
          obtain ⟨cursor, branches⟩ := turtle
          cases branches <;> rfl
      | _ => rfl

/-- A line is drawn at each `F`, and at no other symbol. -/
theorem line_heed (pace : Pace α) (turtle : Turtle α) (symbol : Symbol) :
    (turtle.heed pace symbol).2 = if symbol = 'F' then some (turtle.stroke pace) else none := by
  cases told : Command.ofSymbol? symbol with
  | none =>
      have other : symbol ≠ 'F' := by
        rintro rfl
        cases told
      simp [heed, told, other]
  | some command =>
      obtain rfl := Command.ofSymbol?_eq_some_iff.mp told
      cases command with
      | pop =>
          obtain ⟨cursor, branches⟩ := turtle
          cases branches <;> rfl
      | _ => rfl

/-! ## Whole words -/

/-- The turtle after the symbols of a word. -/
def after (pace : Pace α) (turtle : Turtle α) (word : Word) : Turtle α :=
  word.foldl (fun turtle symbol => (turtle.heed pace symbol).1) turtle

/-- The lines that the turtle draws along a word. -/
def lines (pace : Pace α) : Turtle α → Word → List (Segment α)
  | _, [] => []
  | turtle, symbol :: later =>
    (turtle.heed pace symbol).2.toList ++ lines pace (turtle.heed pace symbol).1 later

@[simp] theorem after_nil (pace : Pace α) (turtle : Turtle α) : turtle.after pace [] = turtle :=
  rfl

@[simp] theorem after_cons (pace : Pace α) (turtle : Turtle α) (symbol : Symbol) (later : Word) :
    turtle.after pace (symbol :: later) = (turtle.heed pace symbol).1.after pace later :=
  rfl

@[simp] theorem after_append (pace : Pace α) (turtle : Turtle α) (front back : Word) :
    turtle.after pace (front ++ back) = (turtle.after pace front).after pace back :=
  List.foldl_append

@[simp] theorem lines_nil (pace : Pace α) (turtle : Turtle α) : turtle.lines pace [] = [] :=
  rfl

theorem lines_cons (pace : Pace α) (turtle : Turtle α) (symbol : Symbol) (later : Word) :
    turtle.lines pace (symbol :: later) =
      (turtle.heed pace symbol).2.toList ++ (turtle.heed pace symbol).1.lines pace later :=
  rfl

@[simp] theorem lines_append (pace : Pace α) (turtle : Turtle α) (front back : Word) :
    turtle.lines pace (front ++ back) =
      turtle.lines pace front ++ (turtle.after pace front).lines pace back := by
  induction front generalizing turtle with
  | nil => rfl
  | cons symbol later ih =>
      rw [List.cons_append, lines_cons, lines_cons, ih, after_cons, List.append_assoc]

/-- The number of open branches after a word can be told from its brackets. -/
theorem depth_after (pace : Pace α) (turtle : Turtle α) (word : Word) :
    (turtle.after pace word).depth = openAt turtle.depth word := by
  induction word generalizing turtle with
  | nil => rfl
  | cons symbol later ih => rw [after_cons, ih, depth_heed, openAt_cons]

/-- As many lines are drawn as the word has `F`. -/
theorem length_lines (pace : Pace α) (turtle : Turtle α) (word : Word) :
    (turtle.lines pace word).length = word.count 'F' := by
  induction word generalizing turtle with
  | nil => rfl
  | cons symbol later ih =>
      rw [lines_cons, List.length_append, ih, line_heed, List.count_cons]
      by_cases draws : symbol = 'F'
      · simp [draws, Nat.add_comm]
      · simp [draws]

/-- Each `F` draws the line that comes after those of the symbols before it. -/
theorem lines_getElem? (pace : Pace α) (turtle : Turtle α) {word : Word} {place : Nat}
    (draws : word[place]? = some 'F') :
    (turtle.lines pace word)[(word.take place).count 'F']? =
      some ((turtle.after pace (word.take place)).stroke pace) := by
  obtain ⟨within, symbol⟩ := List.getElem?_eq_some_iff.mp draws
  have split : word = word.take place ++ 'F' :: word.drop (place + 1) := by
    rw [← symbol, List.getElem_cons_drop, List.take_append_drop]
  have drawn : turtle.lines pace word =
      turtle.lines pace (word.take place) ++
        (turtle.after pace (word.take place)).lines pace ('F' :: word.drop (place + 1)) := by
    rw [← lines_append, ← split]
  rw [drawn, ← length_lines pace turtle, List.getElem?_append_right (Nat.le_refl _),
    Nat.sub_self, lines_cons, line_heed]
  rfl

/-! ## The walk -/

/-- The first symbol of a walk. -/
theorem walkFrom_cons (pace : Pace α) (symbol : Symbol) (later : Word) (index : Nat)
    (turtle : Turtle α) (drawn : List (Segment α)) :
    walkFrom pace (symbol :: later) index turtle drawn =
      if symbol = ']' ∧ turtle.depth = 0 then .error ⟨index⟩
      else walkFrom pace later (index + 1) (turtle.heed pace symbol).1
        ((turtle.heed pace symbol).2.toList ++ drawn) := by
  rw [walkFrom, step_eq]
  by_cases first : symbol = ']' ∧ turtle.depth = 0
  · rw [if_pos first, if_pos first]
  · rw [if_neg first, if_neg first]
    obtain ⟨moved, line?⟩ := turtle.heed pace symbol
    cases line? <;> rfl

/-- **A walk fails at the first unmatched `]` of its word, and otherwise follows the word
to its end.** -/
theorem walkFrom_eq (pace : Pace α) (word : Word) (index : Nat) (turtle : Turtle α)
    (drawn : List (Segment α)) :
    walkFrom pace word index turtle drawn =
      match unmatched? turtle.depth word with
      | some place => .error ⟨index + place⟩
      | none => .ok (turtle.after pace word, drawn.reverse ++ turtle.lines pace word) := by
  induction word generalizing index turtle drawn with
  | nil => simp [walkFrom, unmatched?]
  | cons symbol later ih =>
      rw [walkFrom_cons, unmatched?]
      by_cases first : symbol = ']' ∧ turtle.depth = 0
      · rw [if_pos first, if_pos first]
        rfl
      · rw [if_neg first, if_neg first, ih, depth_heed, after_cons, lines_cons]
        cases unmatched? (openAfter turtle.depth symbol) later with
        | none =>
            -- at most one line is drawn at a symbol, so its list has no order
            cases (turtle.heed pace symbol).2 <;> simp
        | some place =>
            simp only [Option.map_some]
            rw [Nat.add_assoc, Nat.add_comm 1 place]

theorem walk_eq (pace : Pace α) (turtle : Turtle α) (word : Word) :
    walk pace turtle word =
      match unmatched? turtle.depth word with
      | some place => .error ⟨place⟩
      | none => .ok (turtle.after pace word, turtle.lines pace word) := by
  rw [walk, walkFrom_eq]
  simp

/-- A walk that succeeds is the total walk. -/
theorem walk_eq_ok_iff (pace : Pace α) {turtle last : Turtle α} {word : Word}
    {drawn : List (Segment α)} :
    walk pace turtle word = .ok (last, drawn) ↔
      unmatched? turtle.depth word = none ∧ turtle.after pace word = last ∧
        turtle.lines pace word = drawn := by
  rw [walk_eq]
  cases unmatched? turtle.depth word with
  | none => simp
  | some place => simp

end Turtle

/-! ## The lines of a word -/

section Interpretation

variable {α : Type} [Scalar α] [Compass α]

theorem interpret_eq (pace : Pace α) (cursor : Cursor α) (word : Word) :
    interpret pace cursor word =
      match unmatched? 0 word with
      | some place => .error ⟨place⟩
      | none => .ok ((Turtle.start cursor).lines pace word) := by
  have started : (Turtle.start cursor).depth = 0 := rfl
  rw [interpret, Turtle.walk_eq, started]
  cases unmatched? 0 word <;> rfl

theorem interpret_eq_error_iff (pace : Pace α) (cursor : Cursor α) {word : Word} {place : Nat} :
    interpret pace cursor word = .error ⟨place⟩ ↔ unmatched? 0 word = some place := by
  rw [interpret_eq]
  cases unmatched? 0 word <;> simp

theorem interpret_eq_ok_iff (pace : Pace α) (cursor : Cursor α) {word : Word}
    {segments : List (Segment α)} :
    interpret pace cursor word = .ok segments ↔
      unmatched? 0 word = none ∧ (Turtle.start cursor).lines pace word = segments := by
  rw [interpret_eq]
  cases unmatched? 0 word <;> simp

/-- **How a word is interpreted.**  Interpreting fails at the first `]` before which no
more branches were opened than closed.  If there is none, each `F` has its line: it
starts where the turtle is after the symbols before, and the lines of those symbols come
before it.  Whether and where interpreting fails, and how many lines there are, is the
same for all cursors and paces. -/
theorem interpret_outcome (pace : Pace α) (cursor : Cursor α) (word : Word) :
    (∀ place, interpret pace cursor word = .error ⟨place⟩ ↔
        IsLeast {i | word[i]? = some ']' ∧ (word.take i).count '[' ≤ (word.take i).count ']'}
          place) ∧
      ((∀ i, word[i]? = some ']' → (word.take i).count ']' < (word.take i).count '[') →
        ∃ segments, interpret pace cursor word = .ok segments ∧
          segments.length = word.count 'F' ∧
          ∀ place, word[place]? = some 'F' → ∃ turtle,
            Turtle.walk pace (Turtle.start cursor) (word.take place) =
                .ok (turtle, segments.take ((word.take place).count 'F')) ∧
              segments[(word.take place).count 'F']? =
                some ⟨turtle.cursor.position, (turtle.cursor.advance pace.length).position⟩) ∧
      ∀ (otherPace : Pace α) (otherCursor : Cursor α),
        (interpret otherPace otherCursor word).map List.length =
          (interpret pace cursor word).map List.length := by
  have unmatched : ∀ i, (word[i]? = some ']' ∧
      (word.take i).count '[' ≤ (word.take i).count ']') ↔ Unmatched 0 word i := by
    intro i
    rw [Unmatched, Nat.zero_add]
  refine ⟨fun place => ?_, fun matched => ?_, fun otherPace otherCursor => ?_⟩
  · simp only [unmatched]
    rw [interpret_eq_error_iff, unmatched?_eq_some_iff]
  · have noneUnmatched : unmatched? 0 word = none := by
      refine unmatched?_eq_none_iff.mpr fun i here => ?_
      obtain ⟨closes, outnumbered⟩ := (unmatched i).mpr here
      exact absurd (matched i closes) (Nat.not_lt.mpr outnumbered)
    refine ⟨(Turtle.start cursor).lines pace word,
      (interpret_eq_ok_iff pace cursor).mpr ⟨noneUnmatched, rfl⟩,
      Turtle.length_lines pace _ word, fun place draws => ?_⟩
    refine ⟨(Turtle.start cursor).after pace (word.take place), ?_,
      Turtle.lines_getElem? pace _ draws⟩
    rw [← List.take_append_drop place word] at noneUnmatched
    refine (Turtle.walk_eq_ok_iff pace).mpr
      ⟨(unmatched?_append_eq_none.mp noneUnmatched).1, rfl, ?_⟩
    conv_rhs => rw [← List.take_append_drop place word, Turtle.lines_append]
    rw [List.take_append_drop, ← Turtle.length_lines pace (Turtle.start cursor),
      List.take_left']
    rfl
  · rw [interpret_eq, interpret_eq]
    cases unmatched? 0 word with
    | none => simp [Except.map, Turtle.length_lines]
    | some place => rfl

/-- A branch that is still open at the end is no fault, and its lines are drawn. -/
theorem interpret_open_branch :
    ∃ segments, interpret (⟨1.0, 90.0⟩ : Pace Float) (Cursor.facing ⟨0.0, 0.0⟩ 0.0)
        ['F', '[', 'é', 'F'] = .ok segments ∧ segments.length = 2 := by
  obtain ⟨segments, drawn, count, -⟩ :=
    (interpret_outcome (⟨1.0, 90.0⟩ : Pace Float) (Cursor.facing ⟨0.0, 0.0⟩ 0.0)
      ['F', '[', 'é', 'F']).2.1 fun i closes => by
        have member := List.mem_of_getElem? closes
        simp at member
  exact ⟨segments, drawn, count⟩

end Interpretation

end LSystemExplorer
