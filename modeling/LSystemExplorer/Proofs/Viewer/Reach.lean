import LSystemExplorer.Proofs.Catalog.Lookup
import LSystemExplorer.Proofs.Catalog.Soundness
import LSystemExplorer.Proofs.Number.Order
import LSystemExplorer.Proofs.Viewer.History

/-!
# What a viewer can come to

The selection and the angle are never changed but by writing a number into their range.
For the selection any number will do: the range holds the places of the catalog and
nothing else, on a circle as well as between walls (`Bounded.place_mem`).  So the viewer
always stands at a place of its catalog, and shows the very model at that place
(`Selecting`).

For the angle the number must not be undefined, as the range lets an undefined number
pass.  The angles that models come with are finite, the keys turn by finite angles, and a
finite angle changed by a defined one is defined.  So unless a history itself turns by an
undefined angle, the angle keeps to its range (`Turning`).
-/

set_option autoImplicit false

namespace LSystemExplorer

/-! ## Places -/

/-- Places in the lower half of the words are not changed by reading them as signed numbers. -/
theorem signedPlace_eq {place : Nat} (lower : 2 * place < wordCount) :
    signedPlace place = place := by
  have halves : wordCount = 2 * 0x8000000000000000 := rfl
  refine Int.bmod_eq_of_le ?_ ?_
  · omega
  · omega

namespace Bounded

/-- The upper end of the range that holds a selection of one of `size` models. -/
def selectionEnd (mode : BoundMode) (size : Nat) : Int :=
  match mode with
  | .wrap => size
  | .clamp => size - 1

theorem selection_eq (mode : BoundMode) (size place : Nat) :
    Bounded.selection mode size place =
      Bounded.make mode 0 (selectionEnd mode size) (signedPlace place) := by
  cases mode <;> rfl

variable {size : Nat}

/-- On a circle only the rest modulo the number of models counts. -/
theorem fit_selection_wrap (positive : 0 < size) (number : Int) :
    fit .wrap 0 (selectionEnd .wrap size) number = number % size := by
  have reduced : fit .wrap 0 (selectionEnd .wrap size) number =
      0 + (number - 0) % ((size : Int) - 0) := wrapInto_eq (Int.ofNat_lt.mpr positive) number
  rw [reduced, Int.zero_add, Int.sub_zero, Int.sub_zero]

/-- Between walls the nearest place counts. -/
theorem fit_selection_clamp (positive : 0 < size) (number : Int) :
    fit .clamp 0 (selectionEnd .clamp size) number = max 0 (min ((size : Int) - 1) number) := by
  have ordered : (0 : Int) ≤ (size : Int) - 1 := by omega
  exact clampInto_eq_max ordered number

/-- **Whatever is written into a selection becomes a place.** -/
theorem place_mem (mode : BoundMode) (positive : 0 < size) (number : Int) :
    0 ≤ fit mode 0 (selectionEnd mode size) number ∧
      fit mode 0 (selectionEnd mode size) number < size := by
  cases mode with
  | wrap => exact wrapInto_mem (Int.ofNat_lt.mpr positive) number
  | clamp =>
      rw [fit_selection_clamp positive]
      omega

/-- A place is written as it is. -/
theorem fit_place (mode : BoundMode) {place : Nat} (within : place < size) :
    fit mode 0 (selectionEnd mode size) (place : Int) = place := by
  cases mode with
  | wrap => exact wrapInto_of_mem ⟨Int.natCast_nonneg place, Int.ofNat_lt.mpr within⟩
  | clamp =>
      rw [fit_selection_clamp (Nat.zero_lt_of_lt within)]
      omega

end Bounded

namespace Viewer

/-! ## The selection -/

section Selection

variable {α : Type}

/-- The catalog is as it was, and the selection was written into the range of its places. -/
structure Selecting (catalog : Catalog α) (mode : BoundMode) (viewer : Viewer α) : Prop where
  unchanged : viewer.catalog = catalog
  selection : ∃ number, viewer.selection =
    Bounded.make mode 0 (Bounded.selectionEnd mode catalog.size) number

namespace Selecting

variable {catalog : Catalog α} {mode : BoundMode} {viewer : Viewer α}
  (selecting : Selecting catalog mode viewer)

include selecting

theorem range :
    viewer.selection.mode = mode ∧ viewer.selection.lower = 0 ∧
      viewer.selection.upper = Bounded.selectionEnd mode catalog.size := by
  obtain ⟨number, selected⟩ := selecting.selection
  rw [selected]
  exact ⟨rfl, rfl, rfl⟩

/-- The selected number is the place, and not below all places. -/
theorem value_eq : viewer.selection.value = viewer.place := by
  obtain ⟨number, selected⟩ := selecting.selection
  have nonnegative : 0 ≤ viewer.selection.value := by
    rw [selected]
    exact (Bounded.place_mem mode catalog.size_pos number).1
  exact (Int.toNat_of_nonneg nonnegative).symm

theorem place_lt : viewer.place < catalog.size := by
  obtain ⟨number, selected⟩ := selecting.selection
  have below : viewer.selection.value < catalog.size := by
    rw [selected]
    exact (Bounded.place_mem mode catalog.size_pos number).2
  rw [selecting.value_eq] at below
  exact Int.ofNat_lt.mp below

/-- The model that is shown is the one at the place. -/
theorem get?_place : catalog.get? viewer.place = some viewer.model := by
  rw [Catalog.get?_eq_some_model selecting.place_lt, Viewer.model, selecting.unchanged]

end Selecting

theorem selecting_start [Scalar α] (catalog : Catalog α) (mode : BoundMode) (place : Nat) :
    Selecting catalog mode (Viewer.start catalog mode place) :=
  ⟨rfl, signedPlace place, Bounded.selection_eq mode catalog.size place⟩

/-- A viewer that starts at a place of its catalog is there. -/
theorem place_start [Scalar α] {catalog : Catalog α} {place : Nat} (mode : BoundMode)
    (within : place < catalog.size) (lower : 2 * place < wordCount) :
    (Viewer.start catalog mode place).place = place := by
  have selected : (Viewer.start catalog mode place).selection.value =
      Bounded.fit mode 0 (Bounded.selectionEnd mode catalog.size) (signedPlace place) :=
    congrArg Bounded.value (Bounded.selection_eq mode catalog.size place)
  rw [Viewer.place, selected, signedPlace_eq lower, Bounded.fit_place mode within,
    Int.toNat_natCast]

variable [Scalar α] [Compass α] {catalog : Catalog α} {mode : BoundMode}
  {before after : Viewer α}

theorem Selecting.of_step (step : Step before after) (selecting : Selecting catalog mode before) :
    Selecting catalog mode after := by
  refine ⟨step.catalog.trans selecting.unchanged, ?_⟩
  obtain ⟨number, selected⟩ := selecting.selection
  rcases step.selection with same | ⟨number', written⟩
  · exact ⟨number, same.trans selected⟩
  · rw [selected] at written
    exact ⟨number', written⟩

/-- **The viewer always selects one of the places of its catalog.** -/
theorem Selecting.performAll (selecting : Selecting catalog mode before)
    (history : List (Action α)) : Selecting catalog mode (before.performAll history) :=
  performAll_induction of_step selecting history

end Selection

end Viewer

/-! ## Angles in their range -/

namespace AngleRange

theorem least_le_greatest : (least : Float) ≤ greatest := by decide

/-- A defined angle ends up in the range. -/
theorem fit_between {angle : Float} (defined : ¬ angle.isNaN) :
    least ≤ fit angle ∧ fit angle ≤ greatest :=
  Bounded.clampInto_between least_le_greatest defined

theorem fit_fit (angle : Float) : fit (fit angle) = fit angle :=
  Bounded.clampInto_clampInto least_le_greatest angle

/-- A defined angle is finite after it was brought into the range. -/
theorem isFinite_fit {angle : Float} (defined : ¬ angle.isNaN) : (fit angle).isFinite := by
  obtain ⟨above, below⟩ := fit_between defined
  exact isFinite_of_between (by decide) (by decide) above below

end AngleRange

namespace Viewer

/-! ## The angle -/

section Setting

variable {α : Type} [Scalar α] {before after later : Viewer α}

/-- The catalog is as before, and the angle is as before or was set back to the one that
some model comes with. -/
structure SetsBack (before after : Viewer α) : Prop where
  catalog : after.catalog = before.catalog
  turning : after.turning = before.turning ∨
    ∃ place, after.turning = before.turning.set (before.catalog.model place).angleStep

namespace SetsBack

theorem of_resetAngle (viewer : Viewer α) : SetsBack viewer viewer.resetAngle :=
  ⟨rfl, Or.inr ⟨_, rfl⟩⟩

theorem of_select (viewer : Viewer α) (place : Nat) : SetsBack viewer (viewer.select place) :=
  ⟨rfl, Or.inr ⟨_, rfl⟩⟩

theorem of_shift (viewer : Viewer α) (delta : Int) : SetsBack viewer (viewer.shift delta) := by
  unfold shift
  dsimp only
  split
  · exact ⟨rfl, Or.inl rfl⟩
  · exact ⟨rfl, Or.inr ⟨_, rfl⟩⟩

theorem of_resetAndReport (viewer : Viewer α) : SetsBack viewer viewer.resetAndReport := by
  unfold resetAndReport report
  dsimp only
  split
  · exact ⟨rfl, Or.inr ⟨_, rfl⟩⟩
  · exact ⟨rfl, Or.inr ⟨_, rfl⟩⟩

end SetsBack

theorem turning_adjust (viewer : Viewer α) (delta : α) :
    (viewer.adjust delta).turning = viewer.turning.shift delta := by
  unfold adjust report
  dsimp only
  split <;> rfl

end Setting

/-- The catalog is as it was, and a defined angle was written into the range of angles. -/
structure Turning (catalog : Catalog Float) (viewer : Viewer Float) : Prop where
  unchanged : viewer.catalog = catalog
  turning : ∃ angle, ¬ angle.isNaN ∧ viewer.turning = AngleRange.bounded angle

namespace Turning

variable {catalog : Catalog Float} {viewer before after : Viewer Float}

/-- The angle is in its range. -/
theorem between (turning : Turning catalog viewer) :
    AngleRange.least ≤ viewer.angle ∧ viewer.angle ≤ AngleRange.greatest := by
  obtain ⟨angle, defined, written⟩ := turning.turning
  rw [Viewer.angle, written]
  exact AngleRange.fit_between defined

theorem isFinite_angle (turning : Turning catalog viewer) : viewer.angle.isFinite := by
  obtain ⟨angle, defined, written⟩ := turning.turning
  rw [Viewer.angle, written]
  exact AngleRange.isFinite_fit defined

/-- Bringing the angle into its range once more changes nothing. -/
theorem fit_angle (turning : Turning catalog viewer) :
    AngleRange.fit viewer.angle = viewer.angle := by
  obtain ⟨angle, -, written⟩ := turning.turning
  rw [Viewer.angle, written]
  exact AngleRange.fit_fit angle

/-- The angle that a model of a sound catalog comes with is defined. -/
theorem not_isNaN_angleStep (sound : catalog.Sound) (place : Nat) :
    ¬ (catalog.model place).angleStep.isNaN :=
  not_isNaN_of_isFinite (sound _ (List.getElem_mem _)).isFinite_angleStep

theorem of_setsBack (sound : catalog.Sound) (setsBack : SetsBack before after)
    (turning : Turning catalog before) : Turning catalog after := by
  refine ⟨setsBack.catalog.trans turning.unchanged, ?_⟩
  obtain ⟨angle, defined, written⟩ := turning.turning
  rcases setsBack.turning with same | ⟨place, setBack⟩
  · exact ⟨angle, defined, same.trans written⟩
  · rw [turning.unchanged, written] at setBack
    exact ⟨_, not_isNaN_angleStep sound place, setBack⟩

theorem adjust (turning : Turning catalog viewer) {delta : Float} (defined : ¬ delta.isNaN) :
    Turning catalog (viewer.adjust delta) := by
  refine ⟨(keepsScene_adjust viewer delta).catalog.trans turning.unchanged, ?_⟩
  refine ⟨viewer.angle + delta, not_isNaN_add turning.isFinite_angle defined, ?_⟩
  obtain ⟨angle, -, written⟩ := turning.turning
  rw [turning_adjust, Viewer.angle, written]
  rfl

end Turning

end Viewer

/-- The keys turn by defined angles. -/
theorem Keystroke.not_isNaN_angleChange (keystroke : Keystroke) :
    ¬ (keystroke.angleChange : Float).isNaN ∧ ¬ (-(keystroke.angleChange : Float)).isNaN := by
  unfold Keystroke.angleChange
  split
  · exact ⟨by decide, by decide⟩
  · exact ⟨by decide, by decide⟩

namespace Viewer

/-- The history itself never turns by an undefined angle. -/
def TurnsDefined (history : List (Action Float)) : Prop :=
  ∀ delta, Action.adjust delta ∈ history → ¬ delta.isNaN

namespace Turning

variable {catalog : Catalog Float} {viewer : Viewer Float}

theorem start (sound : catalog.Sound) (mode : BoundMode) (place : Nat) :
    Turning catalog (Viewer.start catalog mode place) :=
  ⟨rfl, _, not_isNaN_angleStep sound _, rfl⟩

/-- A key keeps the angle in its range. -/
theorem press (sound : catalog.Sound) (turning : Turning catalog viewer)
    (keystroke : Keystroke) : Turning catalog (viewer.press keystroke) := by
  obtain ⟨up, down⟩ := keystroke.not_isNaN_angleChange
  unfold Viewer.press
  split
  · exact ⟨turning.unchanged, turning.turning⟩
  · exact ⟨turning.unchanged, turning.turning⟩
  · exact ⟨turning.unchanged, turning.turning⟩
  · exact turning.of_setsBack sound (.of_shift viewer (-1))
  · exact turning.of_setsBack sound (.of_shift viewer 1)
  · exact turning.adjust up
  · exact turning.adjust down
  · exact turning.of_setsBack sound (.of_resetAndReport viewer)
  · exact turning.of_setsBack sound (.of_resetAndReport viewer)
  · exact turning
  · exact turning

/-- So does every action that does not turn by an undefined angle itself. -/
theorem perform (sound : catalog.Sound) (turning : Turning catalog viewer)
    {action : Action Float} (defined : ∀ delta, action = .adjust delta → ¬ delta.isNaN) :
    Turning catalog (viewer.perform action) := by
  cases action with
  | press keystroke => exact turning.press sound keystroke
  | shift delta => exact turning.of_setsBack sound (.of_shift viewer delta)
  | select place => exact turning.of_setsBack sound (.of_select viewer place)
  | adjust delta => exact turning.adjust (defined delta rfl)
  | resetAngle => exact turning.of_setsBack sound (.of_resetAngle viewer)
  | refresh viewport =>
      exact turning.of_setsBack sound
        ⟨catalog_refresh viewer viewport, Or.inl (turning_refresh viewer viewport)⟩
  | present area =>
      exact turning.of_setsBack sound
        ⟨catalog_refresh viewer _, Or.inl (turning_refresh viewer _)⟩

/-- **The angle keeps to its range throughout a history.** -/
theorem performAll (sound : catalog.Sound) {history : List (Action Float)}
    (defined : TurnsDefined history) (turning : Turning catalog viewer) :
    Turning catalog (viewer.performAll history) := by
  induction history generalizing viewer with
  | nil => exact turning
  | cons action later ih =>
      refine ih (fun delta member => defined delta (List.mem_cons_of_mem _ member)) ?_
      refine turning.perform sound fun delta turned => ?_
      exact defined delta (turned ▸ List.mem_cons_self ..)

end Turning

/-! ## Every history -/

/-- **Where a viewer can be after a history.**  It stands at a place of its catalog and
shows the model at that place: the selected number is neither below all places nor beyond
them.  The range of the selection is the one it started with.  The angle lies between five
and a hundred and twenty degrees, if the history does not turn by an undefined angle. -/
theorem performAll_in_range (catalog : Catalog Float) (sound : catalog.Sound)
    (mode : BoundMode) (place : Nat) (history : List (Action Float))
    (defined : TurnsDefined history) :
    let viewer := (Viewer.start catalog mode place).performAll history
    viewer.place < catalog.size ∧ catalog.get? viewer.place = some viewer.model ∧
      viewer.selection.value = viewer.place ∧
      viewer.selection.mode = mode ∧ viewer.selection.lower = 0 ∧
      viewer.selection.upper = Bounded.selectionEnd mode catalog.size ∧
      5.0 ≤ viewer.angle ∧ viewer.angle ≤ 120.0 := by
  intro viewer
  have selecting : Selecting catalog mode viewer :=
    (selecting_start catalog mode place).performAll history
  have turning : Turning catalog viewer :=
    (Turning.start sound mode place).performAll sound defined
  obtain ⟨sameMode, lower, upper⟩ := selecting.range
  exact ⟨selecting.place_lt, selecting.get?_place, selecting.value_eq, sameMode, lower, upper,
    turning.between⟩

/-- Two models come with angles beyond the range, and the history asks for places and angles
far beyond theirs. -/
theorem performAll_in_range_of_two :
    let catalog : Catalog Float :=
      ⟨[{ Model.blank "Flat" with segments := 2.0 },
        { Model.blank "Steep" with segments := 3.0, angleStep := 200.0 }], List.cons_ne_nil _ _⟩
    let history : List (Action Float) :=
      [.press ⟨.up, true⟩, .shift (-3), .adjust (1.0 / 0.0), .present ⟨0, 0, 80, 24⟩,
        .select 0x8000000000000000, .press ⟨.character 'r', false⟩]
    let viewer := (Viewer.start catalog .wrap 0xFFFFFFFFFFFFFFFF).performAll history
    catalog.Sound ∧ TurnsDefined history ∧
      viewer.place < 2 ∧ catalog.get? viewer.place = some viewer.model ∧
      viewer.selection.value = viewer.place ∧
      viewer.selection.mode = .wrap ∧ viewer.selection.lower = 0 ∧
      viewer.selection.upper = 2 ∧ 5.0 ≤ viewer.angle ∧ viewer.angle ≤ 120.0 := by
  intro catalog history viewer
  have sound : catalog.Sound := by decide +kernel
  have defined : TurnsDefined history := by
    intro delta member
    simp [history] at member
    rw [member]
    decide
  exact ⟨sound, defined, performAll_in_range catalog sound .wrap 0xFFFFFFFFFFFFFFFF history defined⟩

end Viewer

end LSystemExplorer
