import LSystemExplorer.Proofs.Number.Writes
import LSystemExplorer.Proofs.Viewer.Operations
import LSystemExplorer.Proofs.Viewer.Reach

/-!
# Going round the catalog

When the selection goes round in a circle, every move is brought back into the range of places
at once.  All the same the place after a run can be told as if it were brought back only once,
at the end.  A selection forgets what was before it, moves add up, and no other operation counts
(`Operation.destination`), since a move from the place of a number leads to the place of the
number further on (`Operation.reselect_circle`).

So the place is the rest of that sum modulo the number of models (`place_circle`).
Sums do not depend on the order of the moves, and steps to the right are undone by as many to
the left, however often they go round (`place_in_circle`).
-/

set_option autoImplicit false

namespace LSystemExplorer

variable {α : Type}

/-! ## Where operations lead -/

namespace Operation

/-- The place that the operation selects, if that is what it does. -/
def selected? : Operation α → Option Nat
  | .select place => some place
  | _ => none

/-- How far the operation moves the selection, if that is what it does. -/
def moved? : Operation α → Option Int
  | .move delta => some delta
  | _ => none

/-- The place that was selected last, or `first` if none was. -/
def lastSelected (first : Nat) (operations : List (Operation α)) : Nat :=
  (operations.filterMap selected?).getLastD first

/-- The moves since a place was selected last. -/
def movesSince (operations : List (Operation α)) : List Int :=
  (operations.rtakeWhile fun operation => operation.selected?.isNone).filterMap moved?

/-- Where the operations lead if the places go on for ever. -/
def destination (first : Nat) (operations : List (Operation α)) : Int :=
  signedPlace (lastSelected first operations) + (movesSince operations).sum

/-- Where the operation leads from a number. -/
def redirect (number : Int) : Operation α → Int
  | .move delta => number + delta
  | .select place => signedPlace place
  | _ => number

theorem lastSelected_concat (first : Nat) (operations : List (Operation α))
    (operation : Operation α) :
    lastSelected first (operations ++ [operation]) =
      operation.selected?.getD (lastSelected first operations) := by
  unfold lastSelected
  rw [List.filterMap_append]
  cases operation <;> simp [selected?]

theorem movesSince_concat (operations : List (Operation α)) (operation : Operation α) :
    movesSince (operations ++ [operation]) =
      if operation.selected?.isNone then movesSince operations ++ operation.moved?.toList
      else [] := by
  unfold movesSince
  rw [List.rtakeWhile_concat]
  split
  · rw [List.filterMap_append]
    cases operation <;> rfl
  · rfl

/-- **One more operation leads on from where those before it lead.** -/
theorem destination_concat (first : Nat) (operations : List (Operation α))
    (operation : Operation α) :
    destination first (operations ++ [operation]) =
      operation.redirect (destination first operations) := by
  rw [destination, lastSelected_concat, movesSince_concat]
  cases operation with
  | move delta => simp [selected?, moved?, redirect, destination, add_assoc]
  | select place => simp [selected?, redirect]
  | _ => simp [selected?, moved?, redirect, destination]

theorem destination_append_moves (first : Nat) (operations : List (Operation α))
    (deltas : List Int) :
    destination first (operations ++ deltas.map .move) =
      destination first operations + deltas.sum := by
  induction deltas generalizing operations with
  | nil => simp
  | cons delta later ih =>
      rw [List.map_cons, List.append_cons, ih, destination_concat, List.sum_cons, redirect,
        add_assoc]

/-- **On a circle only the number that is written matters**, whether it was brought into the
range before or not. -/
theorem reselect_circle (size : Nat) (number : Int) (operation : Operation α) :
    operation.reselect (Bounded.make .wrap (0 : Int) size number) =
      Bounded.make .wrap (0 : Int) size (operation.redirect number) := by
  cases operation with
  | move delta =>
      have circle : (⟨0, size, .wrap, 0⟩ : Bounded Int).mode = .wrap := rfl
      exact Bounded.shift_set circle number delta
  | _ => rfl

end Operation

namespace Viewer

open Operation (lastSelected movesSince destination)

/-! ## The place after a run -/

variable [Scalar α] [Compass α]

/-- The selection after a run is as if it were written once, with the number that the
operations lead to. -/
theorem selection_circle (catalog : Catalog α) (first : Nat) (operations : List (Operation α)) :
    ((Viewer.start catalog .wrap first).operateAll operations).selection =
      Bounded.make .wrap (0 : Int) catalog.size (destination first operations) := by
  induction operations using List.reverseRecOn with
  | nil =>
      have unmoved : destination first ([] : List (Operation α)) = signedPlace first :=
        add_zero _
      rw [unmoved]
      rfl
  | append_singleton earlier operation ih =>
      have last : (Viewer.start catalog .wrap first).operateAll (earlier ++ [operation]) =
          ((Viewer.start catalog .wrap first).operateAll earlier).operate operation :=
        List.foldl_concat ..
      rw [last, selection_operate, ih, Operation.reselect_circle, Operation.destination_concat]

/-- **The place after a run is the rest, modulo the number of models, of the number that the
operations lead to.** -/
theorem place_circle (catalog : Catalog α) (first : Nat) (operations : List (Operation α)) :
    (((Viewer.start catalog .wrap first).operateAll operations).place : Int) =
      destination first operations % catalog.size := by
  have nonnegative := (Bounded.place_mem .wrap catalog.size_pos (destination first operations)).1
  rw [place, selection_circle, ← Bounded.fit_selection_wrap catalog.size_pos]
  exact Int.toNat_of_nonneg nonnegative

/-- Histories that lead to the same number end at the same model. -/
theorem same_of_destination (catalog : Catalog α) (first : Nat) {history history' : List (Action α)}
    (same : destination first (history'.map Action.operation) =
      destination first (history.map Action.operation)) :
    ((Viewer.start catalog .wrap first).performAll history').place =
        ((Viewer.start catalog .wrap first).performAll history).place ∧
      ((Viewer.start catalog .wrap first).performAll history').model =
        ((Viewer.start catalog .wrap first).performAll history).model := by
  have selecting := (selecting_start catalog .wrap first).performAll history
  have selecting' := (selecting_start catalog .wrap first).performAll history'
  have places : ((Viewer.start catalog .wrap first).performAll history').place =
      ((Viewer.start catalog .wrap first).performAll history).place := by
    rw [place, place, performAll_eq_operateAll, performAll_eq_operateAll, selection_circle,
      selection_circle, same]
  refine ⟨places, ?_⟩
  rw [model, model, selecting'.unchanged, selecting.unchanged, places]

/-! ## Every history -/

/-- **Round a circle places are counted modulo the number of models.**  A history ends at the
place that was selected last, or else at the one it started with, read as a signed number of
sixty-four bits, with the moves since then added to it, modulo the number of models; this is a
place of the catalog.  So it does not matter in which order these moves are made or what else
is done between them, and steps to the right are undone by as many to the left. -/
theorem place_in_circle (catalog : Catalog α) (first : Nat) (history : List (Action α)) :
    let start := Viewer.start catalog .wrap first
    let viewer := start.performAll history
    let operations := history.map Action.operation
    (viewer.place : Int) =
        (signedPlace (lastSelected first operations) + (movesSince operations).sum) %
          catalog.size ∧
      viewer.place < catalog.size ∧
      (∀ history' : List (Action α),
        let operations' := history'.map Action.operation
        lastSelected first operations' = lastSelected first operations →
        (movesSince operations').Perm (movesSince operations) →
        (start.performAll history').place = viewer.place ∧
          (start.performAll history').model = viewer.model) ∧
      ∀ (steps : Nat) (right left : Action α),
        right.operation = .move 1 → left.operation = .move (-1) →
        let back := viewer.performAll (List.replicate steps right ++ List.replicate steps left)
        back.place = viewer.place ∧ back.model = viewer.model := by
  intro start viewer operations
  refine ⟨?_, ((selecting_start catalog .wrap first).performAll history).place_lt, ?_, ?_⟩
  · have ends : viewer = start.operateAll operations := performAll_eq_operateAll start history
    rw [ends]
    exact place_circle catalog first operations
  · intro history' operations' selected moved
    have same : destination first operations' = destination first operations := by
      rw [destination, destination, selected, moved.sum_eq]
    exact same_of_destination catalog first same
  · intro steps right left stepsRight stepsLeft back
    have both : (history ++ (List.replicate steps right ++ List.replicate steps left)).map
        Action.operation =
        operations ++ (List.replicate steps 1 ++ List.replicate steps (-1)).map .move := by
      simp only [List.map_append, List.map_replicate, stepsRight, stepsLeft, operations]
    have same : destination first
        ((history ++ (List.replicate steps right ++ List.replicate steps left)).map
          Action.operation) = destination first operations := by
      rw [both, Operation.destination_append_moves]
      simp
    have onward : back = start.performAll
        (history ++ (List.replicate steps right ++ List.replicate steps left)) :=
      List.foldl_append.symm
    rw [onward]
    exact same_of_destination catalog first same

/-- Three models are seen from beyond both ends of the signed numbers.  The second history
makes the same moves in the other order, with keys and direct calls and other turns, and five
steps go round more than once. -/
theorem place_in_circle_of_three :
    let catalog : Catalog Float :=
      ⟨[{ Model.blank "Flat" with segments := 2.0 },
        { Model.blank "Steep" with segments := 3.0, angleStep := 80.0 },
        { Model.blank "Flat again" with segments := 2.0 }], List.cons_ne_nil _ _⟩
    let history : List (Action Float) :=
      [.press ⟨.up, true⟩, .shift 7, .select 0xFFFFFFFFFFFFFFFF, .shift (-5),
        .present ⟨0, 0, 80, 24⟩, .press ⟨.left, false⟩, .shift 9]
    let history' : List (Action Float) :=
      [.select 0xFFFFFFFFFFFFFFFF, .shift 9, .adjust 1.5, .shift (-5), .press ⟨.left, true⟩]
    let start := Viewer.start catalog .wrap 0x8000000000000000
    let viewer := start.performAll history
    let back := viewer.performAll
      (List.replicate 5 (.press ⟨.right, false⟩) ++ List.replicate 5 (.shift (-1)))
    viewer.place = 2 ∧
      (start.performAll history').place = 2 ∧
      (start.performAll history').model = viewer.model ∧
      back.place = 2 ∧ back.model = viewer.model := by
  intro catalog history history' start viewer back
  obtain ⟨counted, -, permuted, returned⟩ :=
    place_in_circle catalog 0x8000000000000000 history
  have two : viewer.place = 2 := Int.ofNat_inj.mp (counted.trans (by decide +kernel))
  obtain ⟨place', model'⟩ := permuted history' rfl (by decide +kernel)
  obtain ⟨place'', model''⟩ := returned 5 (.press ⟨.right, false⟩) (.shift (-1)) rfl rfl
  exact ⟨two, place'.trans two, model', place''.trans two, model''⟩

end Viewer

end LSystemExplorer
