import LSystemExplorer.Proofs.Viewer.Activation
import LSystemExplorer.Proofs.Viewer.Failure

/-!
# Between the first model and the last

When the selection stops at the ends, every number that is written becomes the nearest place
(`Viewer.place_between_walls`).  Two things follow that a user sees.

A place past the end leads to the last model, as it does in the catalog itself.  But a place is
written as the signed number with the same sixty-four bits, and in the upper half of the words this
is below all places.  There the first model is shown instead (`Viewer.select_between_walls`,
`Viewer.select_beyond_signed_places`).

A move is reported as stopped when the place is the same after it.  To the left it is stopped only
at the first model, and to the right only at the last one, so the end that is reported is the one
where the viewer stands.  A move by nothing, however, stays wherever it is made, and is reported as
stopped at the last model all the same (`Viewer.stays_iff`, `Viewer.shift_between_walls`,
`Viewer.shift_by_nothing`).
-/

set_option autoImplicit false

namespace LSystemExplorer

/-- Places in the upper half of the words are read as numbers below all places. -/
theorem signedPlace_neg {place : Nat} (word : place < wordCount)
    (upper : wordCount ≤ 2 * place) : signedPlace place < 0 := by
  have inWord : (place : Int) % wordCount = place :=
    Int.emod_eq_of_lt (Int.natCast_nonneg place) (Int.ofNat_lt.mpr word)
  rw [signedPlace, Int.bmod_def, inWord]
  split <;> omega

/-- The text for a model is not taken for one of the ends. -/
theorem Status.showing_message_ne_end (name : String) :
    (Status.showing (α := Float) name).message ≠ Status.atFirst.message ∧
      (Status.showing (α := Float) name).message ≠ Status.atLast.message := by
  have initial : (Status.showing (α := Float) name).message.toList.head? = some 'M' := by
    have text : (Status.showing (α := Float) name).message = "Model: " ++ name := rfl
    rw [text, String.toList_append]
    rfl
  refine ⟨fun same => ?_, fun same => ?_⟩
  · rw [same] at initial
    cases initial
  · rw [same] at initial
    cases initial

namespace Viewer

/-! ## Places that are asked for -/

section Selection

variable {α : Type} {catalog : Catalog α} {viewer : Viewer α}

/-- Between walls the place is the one nearest to the number that was written. -/
theorem place_between_walls {number : Int}
    (written : viewer.selection =
      Bounded.make .clamp 0 (Bounded.selectionEnd .clamp catalog.size) number) :
    (viewer.place : Int) = max 0 (min ((catalog.size : Int) - 1) number) := by
  rw [Viewer.place, written, ← Bounded.fit_selection_clamp catalog.size_pos]
  exact Int.toNat_of_nonneg (Bounded.place_mem .clamp catalog.size_pos number).1

variable [Scalar α] [Compass α]

/-- **Which model is shown when a place is asked for between walls.**  It may be asked for at the
start or after any history.  A place in the lower half of the words leads to the model that the
catalog has for it: the one at the place, or the last one if the place is past the end.  A place in
the upper half leads to the first model. -/
theorem select_between_walls (catalog : Catalog α) (first : Nat) (history : List (Action α))
    {place : Nat} (word : place < wordCount) :
    let viewer := (Viewer.start catalog .clamp first).performAll history
    ∀ chosen ∈ [Viewer.start catalog .clamp place, viewer.select place],
      (2 * place < wordCount →
        chosen.place = min place (catalog.size - 1) ∧ chosen.model = catalog.model place ∧
          (place < catalog.size → catalog.get? place = some chosen.model) ∧
          (catalog.size ≤ place →
            chosen.model = catalog.models.getLast catalog.models_ne_nil)) ∧
        (wordCount ≤ 2 * place →
          chosen.place = 0 ∧ chosen.model = catalog.models.head catalog.models_ne_nil) := by
  intro viewer chosen member
  have selecting : Selecting catalog .clamp viewer :=
    (selecting_start catalog .clamp first).performAll history
  obtain ⟨unchanged, written⟩ : chosen.catalog = catalog ∧ chosen.selection =
      Bounded.make .clamp 0 (Bounded.selectionEnd .clamp catalog.size) (signedPlace place) := by
    rcases List.mem_pair.mp member with rfl | rfl
    · exact ⟨rfl, Bounded.selection_eq .clamp catalog.size place⟩
    · obtain ⟨number, selected⟩ := selecting.selection
      refine ⟨selecting.unchanged, ?_⟩
      show viewer.selection.set (signedPlace place) = _
      rw [selected]
      rfl
  have nearest := place_between_walls written
  have positive := catalog.size_pos
  refine ⟨fun lower => ?_, fun upper => ?_⟩
  · have here : chosen.place = min place (catalog.size - 1) := by
      rw [signedPlace_eq lower] at nearest
      omega
    have shown : chosen.model = catalog.model place := by
      rw [Viewer.model, unchanged, here, Catalog.model_min]
    refine ⟨here, shown, fun within => ?_, fun past => ?_⟩
    · rw [shown, Catalog.get?_eq_some_model within]
    · rw [shown, Catalog.model_of_size_le past]
  · have below := signedPlace_neg word upper
    have here : chosen.place = 0 := by omega
    exact ⟨here, by rw [Viewer.model, unchanged, here, Catalog.model_zero]⟩

end Selection

/-- Of two models the second is the last, and it is shown for a place far beyond it as long as
this is in the lower half of the words. -/
theorem select_between_walls_of_two :
    let catalog : Catalog Float :=
      ⟨[{ Model.blank "First" with segments := 2.0 },
        { Model.blank "Last" with segments := 2.0 }], List.cons_ne_nil _ _⟩
    let viewer := (Viewer.start catalog .clamp 0).performAll
      [.press ⟨.right, false⟩, .present ⟨0, 0, 80, 24⟩, .shift (-4)]
    let place := 0x7FFFFFFFFFFFFFFF
    place < wordCount ∧ 2 * place < wordCount ∧ catalog.size ≤ place ∧
      (viewer.select place).model = catalog.model place ∧
      (viewer.select place).model = catalog.models.getLast catalog.models_ne_nil ∧
      (viewer.select (place + 1)).place = 0 := by
  intro catalog viewer place
  have lower : 2 * place < wordCount := by decide
  have past : catalog.size ≤ place := by decide
  obtain ⟨found, -⟩ := select_between_walls catalog 0
    [.press ⟨.right, false⟩, .present ⟨0, 0, 80, 24⟩, .shift (-4)]
    (by decide : place < wordCount) (viewer.select place) (List.mem_pair.mpr (Or.inr rfl))
  obtain ⟨-, reversed⟩ := select_between_walls catalog 0
    [.press ⟨.right, false⟩, .present ⟨0, 0, 80, 24⟩, .shift (-4)]
    (by decide : place + 1 < wordCount) (viewer.select (place + 1))
    (List.mem_pair.mpr (Or.inr rfl))
  obtain ⟨-, same, -, last⟩ := found lower
  exact ⟨by decide, lower, past, same, last past, (reversed (by decide)).1⟩

/-- Past the end, but in the upper half of the words, the first model is shown and not the last,
which the catalog has for this place. -/
theorem select_beyond_signed_places :
    let catalog : Catalog Float :=
      ⟨[{ Model.blank "First" with segments := 2.0 },
        { Model.blank "Last" with segments := 2.0 }], List.cons_ne_nil _ _⟩
    let place := 0x8000000000000000
    catalog.Sound ∧ place < wordCount ∧ (catalog.model place).name = "Last" ∧
      (Viewer.start catalog .clamp place).model.name = "First" ∧
      ((Viewer.start catalog .clamp 0).select place).model.name = "First" := by
  decide +kernel

/-! ## Moves -/

section Moves

variable {catalog : Catalog Float} {viewer : Viewer Float}

namespace Selecting

variable (selecting : Selecting catalog .clamp viewer)

include selecting

/-- **A move is stopped at the end that it makes for, or it is none.** -/
theorem stays_iff (delta : Int) :
    (viewer.shift delta).place = viewer.place ↔
      delta = 0 ∨ delta < 0 ∧ viewer.place = 0 ∨
        0 < delta ∧ viewer.place + 1 = catalog.size := by
  have within := selecting.place_lt
  have landed := selecting.place_shift delta
  rw [Bounded.fit_selection_clamp catalog.size_pos] at landed
  omega

/-- Between walls only a move that leads somewhere activates a model. -/
theorem activates_move (delta : Int) :
    viewer.activates (.move delta) = ((viewer.shift delta).place != viewer.place) := by
  rw [activates, selecting.wraps_eq]
  exact Bool.false_or _

/-- What is reported about a move between walls. -/
theorem status_shift_between (delta : Int) :
    (viewer.shift delta).status =
      if (viewer.shift delta).place = viewer.place then
        if delta < 0 then .atFirst else .atLast
      else .showing (viewer.shift delta).model.name := by
  split
  · rename_i stays
    rw [Viewer.status_shift viewer stays, selecting.wraps_eq]
    rfl
  · rename_i leaves
    rcases viewer.shift_cases delta with ⟨-, moved⟩ | ⟨-, stays, -⟩
    · rw [moved]
      rfl
    · exact absurd stays leaves

/-- Which moves are reported with the text of an end. -/
theorem message_shift_iff (delta : Int) :
    ((viewer.shift delta).status.message = Status.atFirst.message ↔
        (viewer.shift delta).place = viewer.place ∧ delta < 0) ∧
      ((viewer.shift delta).status.message = Status.atLast.message ↔
        (viewer.shift delta).place = viewer.place ∧ 0 ≤ delta) := by
  rw [selecting.status_shift_between]
  split
  · rename_i stays
    split
    · rename_i left
      exact ⟨iff_of_true rfl ⟨stays, left⟩,
        iff_of_false (by decide) fun both => both.2.not_gt left⟩
    · rename_i right
      exact ⟨iff_of_false (by decide) fun both => right both.2,
        iff_of_true rfl ⟨stays, Int.not_lt.mp right⟩⟩
  · rename_i leaves
    obtain ⟨notFirst, notLast⟩ := Status.showing_message_ne_end (viewer.shift delta).model.name
    exact ⟨iff_of_false notFirst fun both => leaves both.1,
      iff_of_false notLast fun both => leaves both.1⟩

/-- The first model is reported for the moves that are stopped there. -/
theorem reports_first_iff (delta : Int) :
    (viewer.shift delta).status.message = Status.atFirst.message ↔
      delta < 0 ∧ viewer.place = 0 := by
  rw [(selecting.message_shift_iff delta).1, selecting.stays_iff]
  omega

/-- The last model is reported for the moves that are stopped there, and for those by nothing. -/
theorem reports_last_iff (delta : Int) :
    (viewer.shift delta).status.message = Status.atLast.message ↔
      delta = 0 ∨ 0 < delta ∧ viewer.place + 1 = catalog.size := by
  rw [(selecting.message_shift_iff delta).2, selecting.stays_iff]
  omega

end Selecting

/-- **How a move between walls is reported.**  After any history, let the selection be moved.  If
this is a move to the left or to the right, the report of an end is true: the viewer stands at this
end.  The first model is reported exactly for moves to the left that are made there, and the last
one exactly for moves to the right that are made there and for moves by nothing, wherever they are
made; either way all but the report stays as it was.  Every other move is reported with the name of
the model that is shown then, and the angle is the one that this model comes with, cut off at five
and at a hundred and twenty degrees. -/
theorem shift_between_walls (catalog : Catalog Float) (first : Nat)
    (history : List (Action Float)) (delta : Int) :
    let viewer := (Viewer.start catalog .clamp first).performAll history
    let moved := viewer.shift delta
    let reportsFirst := moved.status.message = "Already at the first model"
    let reportsLast := moved.status.message = "Already at the last model"
    catalog.get? moved.place = some moved.model ∧
      (delta ≠ 0 →
        (reportsFirst → moved.place = 0) ∧ (reportsLast → moved.place + 1 = catalog.size)) ∧
      (reportsFirst ↔ delta < 0 ∧ viewer.place = 0) ∧
      (reportsLast ↔ delta = 0 ∨ 0 < delta ∧ viewer.place + 1 = catalog.size) ∧
      (reportsFirst ∨ reportsLast → moved = { viewer with status := moved.status }) ∧
      (¬ reportsFirst → ¬ reportsLast →
        moved.status.message = "Model: " ++ moved.model.name ∧
          moved.angle = Bounded.clampInto 5.0 120.0 moved.model.angleStep) := by
  intro viewer moved reportsFirst reportsLast
  have selecting : Selecting catalog .clamp viewer :=
    (selecting_start catalog .clamp first).performAll history
  have fresh : Fresh catalog viewer := (fresh_start catalog .clamp first).performAll history
  have firstIff : reportsFirst ↔ delta < 0 ∧ viewer.place = 0 := selecting.reports_first_iff delta
  have lastIff : reportsLast ↔ delta = 0 ∨ 0 < delta ∧ viewer.place + 1 = catalog.size :=
    selecting.reports_last_iff delta
  have stays : moved.place = viewer.place ↔ reportsFirst ∨ reportsLast := by
    rw [firstIff, lastIff, selecting.stays_iff]
    omega
  have active : viewer.activates (.move delta) = (moved.place != viewer.place) :=
    selecting.activates_move delta
  refine ⟨(selecting.of_step (.shift delta)).get?_place,
    fun moves => ⟨fun told => ?_, fun told => ?_⟩, firstIff, lastIff, fun told => ?_,
    fun notFirst notLast => ?_⟩
  · rw [stays.mpr (Or.inl told)]
    exact (firstIff.mp told).2
  · rw [stays.mpr (Or.inr told)]
    exact ((lastIff.mp told).resolve_left moves).2
  · refine shift_eq_of_quiet selecting ?_
    rw [active, stays.mpr told, bne_self_eq_false]
  · have leaves : moved.place ≠ viewer.place := fun stay => (stays.mp stay).elim notFirst notLast
    have report : moved.status = .showing moved.model.name :=
      (selecting.status_shift_between delta).trans (if_neg leaves)
    refine ⟨by rw [report]; rfl, ?_⟩
    exact fresh.angle_operate_of_activates (active.trans (bne_iff_ne.mpr leaves))

/-- Of two models the second comes with an angle beyond the range.  A long way to the right leads
there from the first, and a short one no further. -/
theorem shift_between_walls_of_two :
    let catalog : Catalog Float :=
      ⟨[{ Model.blank "Flat" with segments := 2.0 },
        { Model.blank "Steep" with segments := 3.0, angleStep := 200.0 }], List.cons_ne_nil _ _⟩
    let viewer := (Viewer.start catalog .clamp 7).performAll
      [.press ⟨.left, false⟩, .present ⟨0, 0, 80, 24⟩, .adjust 1.5]
    let last := (Viewer.start catalog .clamp 7).performAll
      [.press ⟨.left, false⟩, .present ⟨0, 0, 80, 24⟩, .adjust 1.5, .shift 7]
    (viewer.shift (-3)).status.message = "Already at the first model" ∧
      (viewer.shift (-3)).place = 0 ∧
      (viewer.shift 7).status.message = "Model: Steep" ∧ (viewer.shift 7).angle = 120.0 ∧
      (last.shift 1).status.message = "Already at the last model" ∧
      (last.shift 1).place + 1 = 2 := by
  intro catalog viewer last
  obtain ⟨-, leftTrue, leftIff, -, -, -⟩ := shift_between_walls catalog 7
    [.press ⟨.left, false⟩, .present ⟨0, 0, 80, 24⟩, .adjust 1.5] (-3)
  obtain ⟨-, -, -, -, -, onward⟩ := shift_between_walls catalog 7
    [.press ⟨.left, false⟩, .present ⟨0, 0, 80, 24⟩, .adjust 1.5] 7
  obtain ⟨-, rightTrue, -, rightIff, -, -⟩ := shift_between_walls catalog 7
    [.press ⟨.left, false⟩, .present ⟨0, 0, 80, 24⟩, .adjust 1.5, .shift 7] 1
  have atFirst := leftIff.mpr ⟨by decide, by decide +kernel⟩
  have atLast := rightIff.mpr (Or.inr ⟨by decide, by decide +kernel⟩)
  obtain ⟨shown, angle⟩ := onward (by decide +kernel) (by decide +kernel)
  exact ⟨atFirst, (leftTrue (by decide)).1 atFirst, shown.trans (by decide +kernel),
    angle.trans (by decide +kernel), atLast, (rightTrue (by decide)).2 atLast⟩

/-- At the second of three models a move by nothing is reported as stopped at the last. -/
theorem shift_by_nothing :
    let catalog : Catalog Float :=
      ⟨[{ Model.blank "Left" with segments := 2.0 }, { Model.blank "Middle" with segments := 2.0 },
        { Model.blank "Right" with segments := 2.0 }], List.cons_ne_nil _ _⟩
    let moved := (Viewer.start catalog .clamp 1).shift 0
    catalog.Sound ∧ moved.status.message = "Already at the last model" ∧
      moved.place = 1 ∧ catalog.size = 3 := by
  decide +kernel

end Moves

end Viewer

end LSystemExplorer
