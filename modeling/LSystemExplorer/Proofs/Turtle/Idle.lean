import LSystemExplorer.Proofs.Turtle.Outcome
import Mathlib.Data.List.Basic

/-!
# Symbols the turtle passes over

A grammar may leave symbols in its word that are no commands.  The turtle passes over them:
none of them moves it or draws anything (`Turtle.heed_of_idle`), and none opens or closes a
branch (`openAfter_of_idle`).  So a word leads the turtle along the same lines as its commands
alone (`Turtle.lines_commands`).

Places, however, are counted with all symbols.  A command has a place in the word and a rank
among the commands, and the two determine each other: the place of a rank is found by
`List.findIdxNth`, and the rank of a place is the number of commands before it.  The first
unmatched `]` of the word is the first one of its commands, at the place of its rank
(`unmatched?_commands`).  So whatever is interpreted can be told from the commands, and a
failure is only renamed (`interpret_commands`).
-/

set_option autoImplicit false

namespace LSystemExplorer

/-! ## Commands among symbols -/

/-- The symbol stands for a command. -/
def isCommand (symbol : Symbol) : Bool :=
  symbol ∈ ['F', 'f', '-', '+', '|', '[', ']']

/-- The commands of a word, without the symbols between them. -/
def commands (word : Word) : Word :=
  word.filter isCommand

variable {symbol : Symbol}

/-- Whatever is no command means nothing to the turtle. -/
theorem ofSymbol?_eq_none_iff : Command.ofSymbol? symbol = none ↔ isCommand symbol = false := by
  cases told : Command.ofSymbol? symbol with
  | none =>
      refine iff_of_true rfl (Bool.eq_false_iff.mpr fun command => ?_)
      simp only [isCommand, List.mem_cons, List.not_mem_nil, or_false, decide_eq_true_eq] at command
      rcases command with rfl | rfl | rfl | rfl | rfl | rfl | rfl <;> cases told
  | some command =>
      obtain rfl := Command.ofSymbol?_eq_some_iff.mp told
      refine iff_of_false nofun ?_
      cases command <;> decide

theorem ne_of_idle (idle : isCommand symbol = false) {command : Symbol}
    (tells : isCommand command) : symbol ≠ command := by
  rintro rfl
  rw [idle] at tells
  cases tells

theorem openAfter_of_idle (idle : isCommand symbol = false) (depth : Nat) :
    openAfter depth symbol = depth := by
  rw [openAfter, if_neg (ne_of_idle idle rfl), if_neg (ne_of_idle idle rfl)]

theorem commands_cons_of_command (command : isCommand symbol) (later : Word) :
    commands (symbol :: later) = symbol :: commands later :=
  List.filter_cons_of_pos command

theorem commands_cons_of_idle (idle : isCommand symbol = false) (later : Word) :
    commands (symbol :: later) = commands later :=
  List.filter_cons_of_neg (Bool.eq_false_iff.mp idle)

/-! ## Places and ranks -/

/-- The commands before the place of a rank are those of lower rank, and the command at the
place is the one of that rank. -/
theorem commands_at_rank {word : Word} {rank : Nat} (within : rank < (commands word).length) :
    word[word.findIdxNth isCommand rank]? = (commands word)[rank]? ∧
      commands (word.take (word.findIdxNth isCommand rank)) = (commands word).take rank := by
  induction word generalizing rank with
  | nil => cases within
  | cons symbol later ih =>
      cases command : isCommand symbol with
      | false =>
          rw [commands_cons_of_idle command] at within ⊢
          rw [List.findIdxNth_cons_of_neg command, List.getElem?_cons_succ, List.take_succ_cons,
            commands_cons_of_idle command]
          exact ih within
      | true =>
          rw [commands_cons_of_command command] at within ⊢
          cases rank with
          | zero =>
              rw [List.findIdxNth_cons_zero_of_pos command]
              exact ⟨rfl, rfl⟩
          | succ rank =>
              obtain ⟨here, before⟩ := ih (Nat.lt_of_succ_lt_succ within)
              rw [List.findIdxNth_cons_succ_of_pos command, List.getElem?_cons_succ,
                List.getElem?_cons_succ, List.take_succ_cons, List.take_succ_cons,
                commands_cons_of_command command, before]
              exact ⟨here, rfl⟩

/-- **The first unmatched `]` of a word is the first one of its commands.** -/
theorem unmatched?_commands (depth : Nat) (word : Word) :
    unmatched? depth word =
      (unmatched? depth (commands word)).map (word.findIdxNth isCommand) := by
  induction word generalizing depth with
  | nil => rfl
  | cons symbol later ih =>
      cases command : isCommand symbol with
      | false =>
          have matched : ¬ (symbol = ']' ∧ depth = 0) := fun closes =>
            ne_of_idle command rfl closes.1
          rw [commands_cons_of_idle command, unmatched?, if_neg matched,
            openAfter_of_idle command, ih, Option.map_map]
          congr 1
          funext rank
          exact (List.findIdxNth_cons_of_neg command).symm
      | true =>
          rw [commands_cons_of_command command, unmatched?, unmatched?]
          split
          · rw [Option.map_some, List.findIdxNth_cons_zero_of_pos command]
          · rw [ih, Option.map_map, Option.map_map]
            congr 1
            funext rank
            exact (List.findIdxNth_cons_succ_of_pos command).symm

/-! ## The turtle -/

section Walk

variable {α : Type} [Scalar α] [Compass α]

namespace Turtle

theorem heed_of_idle (pace : Pace α) (turtle : Turtle α) (idle : isCommand symbol = false) :
    turtle.heed pace symbol = (turtle, none) := by
  rw [heed, ofSymbol?_eq_none_iff.mpr idle]
  rfl

/-- **Along a word the turtle draws the lines of its commands.** -/
theorem lines_commands (pace : Pace α) (turtle : Turtle α) (word : Word) :
    turtle.lines pace (commands word) = turtle.lines pace word := by
  induction word generalizing turtle with
  | nil => rfl
  | cons symbol later ih =>
      cases command : isCommand symbol with
      | false =>
          rw [commands_cons_of_idle command, lines_cons, heed_of_idle pace turtle command, ih]
          rfl
      | true => rw [commands_cons_of_command command, lines_cons, lines_cons, ih]

end Turtle

/-- **Symbols that are no commands cannot be told from the lines.**  Without them a word is
interpreted in the same way: it succeeds with the same lines, or fails at the same `]`, whose
place in the word is that of its rank among the commands.  At this place the word has the
very `]`, and the commands before it are those before the `]` among the commands. -/
theorem interpret_commands (pace : Pace α) (cursor : Cursor α) (word : Word) :
    interpret pace cursor word =
        (interpret pace cursor (commands word)).mapError
          (fun underflow => ⟨word.findIdxNth isCommand underflow.index⟩) ∧
      ∀ rank, interpret pace cursor (commands word) = .error ⟨rank⟩ →
        let place := word.findIdxNth isCommand rank
        (commands word)[rank]? = some ']' ∧ word[place]? = some ']' ∧
          commands (word.take place) = (commands word).take rank := by
  constructor
  · rw [interpret_eq, interpret_eq, unmatched?_commands, Turtle.lines_commands]
    cases unmatched? 0 (commands word) <;> rfl
  · intro rank failed place
    obtain ⟨⟨closes, -⟩, -⟩ :=
      unmatched?_eq_some_iff.mp ((interpret_eq_error_iff pace cursor).mp failed)
    obtain ⟨within, -⟩ := List.getElem?_eq_some_iff.mp closes
    obtain ⟨here, before⟩ := commands_at_rank within
    exact ⟨closes, here.trans closes, before⟩

/-- The commands fail at their third `]`.  In the word it comes later, because of the symbols of
the grammar before it. -/
theorem interpret_commands_of_bud :
    let pace : Pace Float := ⟨1.5, 25.0⟩
    let cursor : Cursor Float := .facing ⟨0.5, 1.0⟩ 90.0
    let word := "XéF[F7[é]]X]F]".toList
    interpret pace cursor (commands word) = .error ⟨6⟩ ∧
      interpret pace cursor word = .error ⟨11⟩ ∧ word[11]? = some ']' ∧
      commands (word.take 11) = "F[F[]]".toList := by
  intro pace cursor word
  have failed : interpret pace cursor (commands word) = .error ⟨6⟩ :=
    (interpret_eq_error_iff pace cursor).mpr (by decide)
  obtain ⟨renamed, places⟩ := interpret_commands pace cursor word
  obtain ⟨-, closes, before⟩ := places 6 failed
  rw [failed] at renamed
  exact ⟨failed, renamed, closes, before⟩

end Walk

end LSystemExplorer
