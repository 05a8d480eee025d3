import LSystemExplorer.Proofs.Viewer.Freshness
import LSystemExplorer.Proofs.Viewer.Reach

/-!
# What is reported about a failure

A model that cannot be drawn is reported when it is drawn, and not again while its scene
stays on hand.  A key in between may write another report.  If it changes the model or the
angle, the next frame draws again and so reports the failure again.  If it leaves both as
they are, a key for the angle leaves the report alone as well, but an arrow to the left or
to the right reports its move although it led nowhere (`Frame.ReportsNoMove`).

So in a session every frame that has failed reports its failure, unless it reports a move
that led nowhere (`session_reports_failure`).  Such a frame exists: at the first model an
arrow to the left hides the failure (`session_hides_failure`).
-/

set_option autoImplicit false

namespace LSystemExplorer

/-! ## Moves that lead nowhere -/

/-- The report is about a move that led nowhere: against a wall, or round a circle of one. -/
inductive Frame.ReportsNoMove {α : Type} (frame : Frame α) : Prop
  | first (walls : frame.wraps = false) (place : frame.place = 0)
      (report : frame.status = .atFirst)
  | last (walls : frame.wraps = false) (place : frame.place + 1 = frame.total)
      (report : frame.status = .atLast)
  | only (circle : frame.wraps = true) (alone : frame.total = 1)
      (report : frame.status = .showing frame.model.name)

/-- If the scene could not be drawn, this is what is reported, unless a move led nowhere. -/
def Frame.TellsFailure {α : Type} (frame : Frame α) : Prop :=
  ∀ underflow, frame.scene = .error underflow →
    frame.status = .failed underflow ∨ frame.ReportsNoMove

/-- The angle plays no part in it. -/
theorem Frame.TellsFailure.of_turned {α : Type} {frame : Frame α} (tells : frame.TellsFailure)
    (angle : α) : Frame.TellsFailure { frame with angle } := by
  intro underflow failed
  rcases tells underflow failed with told | moved
  · exact Or.inl told
  · refine Or.inr ?_
    cases moved with
    | first walls place report => exact .first walls place report
    | last walls place report => exact .last walls place report
    | only circle alone report => exact .only circle alone report

namespace Viewer

variable {catalog : Catalog Float} {mode : BoundMode} {viewer : Viewer Float}

section Moves

variable (selecting : Selecting catalog mode viewer)

include selecting

theorem Selecting.wraps_eq : viewer.wraps = decide (mode = .wrap) := by
  rw [Viewer.wraps, selecting.range.1]

/-- Where a move leads to. -/
theorem Selecting.place_shift (delta : Int) :
    ((viewer.shift delta).place : Int) =
      Bounded.fit mode 0 (Bounded.selectionEnd mode catalog.size) (viewer.place + delta) := by
  obtain ⟨sameMode, lower, upper⟩ := selecting.range
  rw [← (selecting.of_step (.shift delta)).value_eq, selection_shift, ← selecting.value_eq, ← upper,
    ← lower, ← sameMode]
  rfl

/-- Between walls a step that leads nowhere was taken at one of them. -/
theorem Selecting.at_wall (walls : mode = .clamp) {delta : Int}
    (back : (viewer.shift delta).place = viewer.place) :
    (delta < 0 → viewer.place = 0) ∧ (0 < delta → viewer.place + 1 = catalog.size) := by
  have within := selecting.place_lt
  have landed := selecting.place_shift delta
  rw [walls, Bounded.fit_selection_clamp catalog.size_pos, back] at landed
  omega

/-- On a circle a single step leads somewhere else unless there is only one model. -/
theorem Selecting.alone (circle : mode = .wrap) {delta : Int} (single : delta.natAbs = 1)
    (back : (viewer.shift delta).place = viewer.place) : catalog.size = 1 := by
  have landed := selecting.place_shift delta
  rw [circle, Bounded.fit_selection_wrap catalog.size_pos, back] at landed
  have divides : (catalog.size : Int) ∣ viewer.place + delta - viewer.place :=
    Int.dvd_self_sub_of_emod_eq landed.symm
  rw [add_sub_cancel_left] at divides
  have divides : catalog.size ∣ delta.natAbs := Int.natCast_dvd.mp divides
  rw [single] at divides
  exact Nat.dvd_one.mp divides

end Moves

/-- What is reported about a move that leads nowhere. -/
theorem status_shift (viewer : Viewer Float) {delta : Int}
    (back : (viewer.shift delta).place = viewer.place) :
    (viewer.shift delta).status =
      if viewer.wraps then .showing (viewer.shift delta).model.name
      else if delta < 0 then .atFirst else .atLast := by
  have stays : (viewer.selection.shift delta).value.toNat = viewer.place := by
    rw [← selection_shift]
    exact back
  unfold Viewer.shift
  dsimp only
  cases viewer.wraps with
  | true =>
      rw [if_neg (by rw [Bool.not_true, Bool.and_false]; exact Bool.false_ne_true), if_pos rfl]
      rfl
  | false =>
      rw [if_pos (by rw [Bool.not_false, Bool.and_true]; exact decide_eq_true stays),
        if_neg Bool.false_ne_true]

/-- A single step that leads nowhere is reported as such. -/
theorem Selecting.reportsNoMove_shift (selecting : Selecting catalog mode viewer) {delta : Int}
    (single : delta.natAbs = 1) (back : (viewer.shift delta).place = viewer.place)
    (viewport : Viewport Float) : ((viewer.shift delta).frame viewport).ReportsNoMove := by
  have moved : Selecting catalog mode (viewer.shift delta) := selecting.of_step (.shift delta)
  have total : (viewer.shift delta).catalog.size = catalog.size := by rw [moved.unchanged]
  have report := status_shift viewer back
  rw [selecting.wraps_eq] at report
  cases mode with
  | clamp =>
      obtain ⟨first, last⟩ := selecting.at_wall rfl back
      change _ = if delta < 0 then Status.atFirst else Status.atLast at report
      split at report
      · rename_i backward
        exact .first moved.wraps_eq (back.trans (first backward)) report
      · refine .last moved.wraps_eq ?_ report
        show (viewer.shift delta).place + 1 = (viewer.shift delta).catalog.size
        rw [back, total]
        exact last (by omega)
  | wrap => exact .only moved.wraps_eq (total.trans (selecting.alone rfl single back)) report

/-- A report of the angle is left out if the angle compares equal and the scene failed. -/
theorem report_eq_of_failed {before : Float} {status : Status Float} {underflow : Underflow}
    (failed : viewer.scene = .error underflow) (same : viewer.angle == before) :
    viewer.report before status = viewer := by
  have hasFailed : viewer.hasFailed = true := by rw [Viewer.hasFailed, failed]
  rw [Viewer.report, hasFailed, same]
  rfl

/-- Whatever is reported about the angle, a failure is told if the angle compares equal. -/
theorem tellsFailure_report {viewport : Viewport Float}
    (tells : (viewer.frame viewport).TellsFailure) (turning : Bounded Float)
    (status : Status Float)
    (same : (report { viewer with turning } viewer.angle status).angle == viewer.angle) :
    ((report { viewer with turning } viewer.angle status).frame viewport).TellsFailure := by
  intro underflow failed
  have failed : viewer.scene = .error underflow :=
    (keepsScene_report { viewer with turning } viewer.angle status).scene.symm.trans failed
  rw [angle_report] at same
  have kept : report { viewer with turning } viewer.angle status = { viewer with turning } :=
    report_eq_of_failed failed same
  rw [kept]
  exact tells.of_turned turning.value underflow failed

/-- **A key that keeps the model and the angle does not hide a failure, unless it reports a
move that led nowhere.** -/
theorem tellsFailure_press (selecting : Selecting catalog mode viewer) (keystroke : Keystroke)
    {viewport : Viewport Float} (tells : (viewer.frame viewport).TellsFailure) :
    (viewer.press keystroke).place = viewer.place →
      (viewer.press keystroke).angle == viewer.angle →
        ((viewer.press keystroke).frame viewport).TellsFailure := by
  -- Only the arrows and the keys for the angle report anything at all.
  unfold Viewer.press
  split
  · exact fun _ _ => tells
  · exact fun _ _ => tells
  · exact fun _ _ => tells
  · exact fun back _ _ _ => Or.inr (selecting.reportsNoMove_shift rfl back viewport)
  · exact fun back _ _ _ => Or.inr (selecting.reportsNoMove_shift rfl back viewport)
  · exact fun _ same => tellsFailure_report tells _ _ same
  · exact fun _ same => tellsFailure_report tells _ _ same
  · exact fun _ same => tellsFailure_report tells _ _ same
  · exact fun _ same => tellsFailure_report tells _ _ same
  · exact fun _ _ => tells
  · exact fun _ _ => tells

/-! ## Frames and keys in turn -/

/-- Bringing the scene up to date does nothing, or draws and reports a failure. -/
theorem refresh_cases (viewer : Viewer Float) (viewport : Viewport Float) :
    (viewer.refresh viewport = viewer ∧
        ∃ key, viewer.drawnFor = some key ∧ (viewer.sceneKey viewport).agrees key) ∨
      (viewer.refresh viewport).drawnFor = some (viewer.sceneKey viewport) ∧
        ∀ underflow, (viewer.refresh viewport).scene = .error underflow →
          (viewer.refresh viewport).status = .failed underflow := by
  unfold Viewer.refresh
  dsimp only
  split
  · rename_i agrees
    exact Or.inl ⟨rfl, (Option.any_eq_true _ _).mp agrees⟩
  · refine Or.inr ⟨rfl, fun underflow failed => ?_⟩
    dsimp only at failed ⊢
    rw [failed]

/-- The viewer after a frame was shown: its scene is the one for the present place and angle,
and a failure is told. -/
structure Shown (catalog : Catalog Float) (mode : BoundMode) (viewer : Viewer Float) : Prop where
  fresh : Fresh catalog viewer
  selecting : Selecting catalog mode viewer
  drawn : ∃ key, viewer.drawnFor = some key ∧ viewer.place = key.place ∧ viewer.angle = key.angle
  tells : ∀ viewport, (viewer.frame viewport).TellsFailure

namespace Shown

/-- Drawing leads to such a viewer. -/
theorem of_drawn (fresh : Fresh catalog viewer) (selecting : Selecting catalog mode viewer)
    {viewport : Viewport Float}
    (drawnFor : (viewer.refresh viewport).drawnFor = some (viewer.sceneKey viewport))
    (told : ∀ underflow, (viewer.refresh viewport).scene = .error underflow →
      (viewer.refresh viewport).status = .failed underflow) :
    Shown catalog mode (viewer.refresh viewport) := by
  refine ⟨fresh.refresh viewport, selecting.of_step (.refresh viewport),
    ⟨_, drawnFor, place_refresh viewer viewport, angle_refresh viewer viewport⟩, ?_⟩
  exact fun _ underflow failed => Or.inl (told underflow failed)

/-- The first frame draws. -/
theorem start (catalog : Catalog Float) (mode : BoundMode) (place : Nat)
    (viewport : Viewport Float) :
    Shown catalog mode ((Viewer.start catalog mode place).refresh viewport) := by
  rcases refresh_cases (Viewer.start catalog mode place) viewport with
    ⟨-, key, never, -⟩ | ⟨drawnFor, told⟩
  · exact absurd never nofun
  · exact .of_drawn (fresh_start catalog mode place) (selecting_start catalog mode place)
      drawnFor told

/-- **A key and the frame after it lead from one such viewer to the next.** -/
theorem press (shown : Shown catalog mode viewer) (keystroke : Keystroke)
    (viewport : Viewport Float) :
    Shown catalog mode ((viewer.press keystroke).refresh viewport) := by
  have pressed := keepsScene_press viewer keystroke
  have fresh := shown.fresh.of_keepsScene pressed
  have selecting := shown.selecting.of_step (press_step viewer keystroke)
  rcases refresh_cases (viewer.press keystroke) viewport with
    ⟨same, key, drawnFor, agrees⟩ | ⟨drawnFor, told⟩
  · -- Nothing is drawn, so the key left the place and the angle that were drawn before it.
    obtain ⟨samePlace, sameAngle, -⟩ := fresh.of_agrees agrees
    have equal : (viewer.press keystroke).angle == key.angle := by
      simp only [SceneKey.agrees, Bool.and_eq_true] at agrees
      exact agrees.1.1.1.2
    obtain ⟨key', drawnFor', place, angle⟩ := shown.drawn
    obtain rfl : key' = key := by
      rw [← pressed.drawnFor, drawnFor] at drawnFor'
      exact (Option.some.inj drawnFor').symm
    rw [same]
    refine ⟨fresh, selecting, ⟨key', drawnFor, samePlace, sameAngle⟩, fun other => ?_⟩
    refine tellsFailure_press shown.selecting keystroke (shown.tells other) ?_ ?_
    · rw [samePlace, place]
    · rw [angle]
      exact equal
  · exact .of_drawn fresh selecting drawnFor told

end Shown

/-- Every frame of a session shows such a viewer. -/
theorem exists_shown_of_mem_session {keystrokes : List (Keystroke × Area)}
    (shown : ∀ viewport, Shown catalog mode (viewer.refresh viewport)) {area : Area}
    {frame : Frame Float} (member : frame ∈ viewer.session area keystrokes) :
    ∃ viewer viewport, Shown catalog mode viewer ∧ frame = viewer.frame viewport := by
  -- Each key is pressed on the viewer that the frame before it left behind.
  induction keystrokes generalizing viewer area with
  | nil => exact ⟨_, _, shown _, List.mem_singleton.mp member⟩
  | cons keystroke later ih =>
      unfold Viewer.session at member
      dsimp only at member
      split at member
      · exact ⟨_, _, shown _, List.mem_singleton.mp member⟩
      · rcases List.mem_cons.mp member with first | member
        · exact ⟨_, _, shown _, first⟩
        · exact ih (fun viewport => (shown _).press keystroke.1 viewport) member

/-- A circle of several models has no moves that lead nowhere. -/
theorem Shown.not_reportsNoMove (shown : Shown catalog .wrap viewer) (several : catalog.size ≠ 1)
    (viewport : Viewport Float) : ¬ (viewer.frame viewport).ReportsNoMove := by
  have circle : viewer.wraps = true := shown.selecting.wraps_eq
  intro moved
  cases moved with
  | first walls => exact absurd (circle.symm.trans walls) nofun
  | last walls => exact absurd (circle.symm.trans walls) nofun
  | only _ alone =>
      have total : viewer.catalog.size = 1 := alone
      rw [shown.selecting.unchanged] at total
      exact several total

/-- **Every frame that has failed reports its failure, unless it reports a move that led
nowhere.**  This holds in every session, whatever keys are pressed and however the screen
changes its size.  On a circle of several models every failure is reported. -/
theorem session_reports_failure (catalog : Catalog Float) (mode : BoundMode) (place : Nat)
    (area : Area) (keystrokes : List (Keystroke × Area)) :
    ∀ frame ∈ (Viewer.start catalog mode place).session area keystrokes,
      ∀ underflow, frame.scene = .error underflow →
        (frame.status = .failed underflow ∨ frame.ReportsNoMove) ∧
          (mode = .wrap → catalog.size ≠ 1 → frame.status = .failed underflow) := by
  intro frame member underflow failed
  obtain ⟨viewer, viewport, shown, rfl⟩ :=
    exists_shown_of_mem_session (fun viewport => Shown.start catalog mode place viewport) member
  have told := shown.tells viewport underflow failed
  refine ⟨told, ?_⟩
  rintro rfl several
  exact told.resolve_right (shown.not_reportsNoMove several viewport)

/-- Of two models on a circle the first cannot be drawn.  The arrows lead away from it and
back, and the third frame reports the failure again. -/
theorem session_reports_failure_again :
    let unbalanced : Model Float :=
      { Model.blank "Unbalanced" with seed := "F]F".toList, angleStep := 45.0, segments := 2.0 }
    let line : Model Float := { Model.blank "Line" with segments := 2.0 }
    let catalog : Catalog Float := ⟨[unbalanced, line], List.cons_ne_nil _ _⟩
    let area : Area := ⟨0, 0, 80, 24⟩
    let session := (Viewer.start catalog .wrap 0).session area
      [(⟨.right, false⟩, area), (⟨.right, false⟩, area)]
    ∃ frame ∈ session, frame.scene = .error ⟨1⟩ ∧ catalog.size ≠ 1 ∧
      frame.status = .failed ⟨1⟩ := by
  intro unbalanced line catalog area session
  have third : ∃ frame ∈ session, frame.scene = .error ⟨1⟩ :=
    ⟨_, List.mem_cons_of_mem _ (List.mem_cons_of_mem _ (List.mem_cons_self ..)), by decide +kernel⟩
  obtain ⟨frame, member, failed⟩ := third
  have several : catalog.size ≠ 1 := by decide
  exact ⟨frame, member, failed, several,
    (session_reports_failure catalog .wrap 0 area _ frame member ⟨1⟩ failed).2 rfl several⟩

/-- The only model cannot be drawn, and an arrow to the left hides it: the second frame points
out the failure, but reports the move. -/
theorem session_hides_failure :
    let unbalanced : Model Float :=
      { Model.blank "Unbalanced" with seed := "F]F".toList, angleStep := 45.0, segments := 2.0 }
    let catalog : Catalog Float := ⟨[unbalanced], List.cons_ne_nil _ _⟩
    let area : Area := ⟨0, 0, 80, 24⟩
    catalog.Sound ∧
      ∃ first second, (Viewer.start catalog .clamp 0).session area [(⟨.left, false⟩, area)] =
          [first, second] ∧
        first.scene = .error ⟨1⟩ ∧ first.status = .failed ⟨1⟩ ∧
        second.scene = .error ⟨1⟩ ∧ second.badge? = some .failure ∧ second.status = .atFirst := by
  refine ⟨by decide +kernel, _, _, rfl, ?_⟩
  decide +kernel

end Viewer

end LSystemExplorer
