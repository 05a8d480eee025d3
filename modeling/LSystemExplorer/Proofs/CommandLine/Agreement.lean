import LSystemExplorer.Proofs.CommandLine.Outcome
import LSystemExplorer.Proofs.CommandLine.Rows
import LSystemExplorer.Proofs.Viewer.Freshness
import LSystemExplorer.Proofs.Viewer.Reach

/-!
# The viewer and the trace

The viewer and the subcommand that traces a model come to a model, an angle and a scene in
different ways.  The one goes by places, and keeps its angle and its last scene through a
history; the other looks up a name, brings an angle into the range once, and draws once.

Where both have the same model they draw the same (`Viewer.scene_agrees_trace`).  The scene of
the viewer is the one drawn from scratch, and its angle is finite and in the range already, so
the trace accepts the angle and leaves it as it is (`Report.run_trace`).  At the place that a
name leads to, the viewer starts with the model of that name, and with the angle that the trace
takes when none is asked for (`Viewer.start_at`).  A place is read as a signed number there, and
the places of a list in memory lie in the half of the words that this does not change.
-/

set_option autoImplicit false

namespace LSystemExplorer

namespace Report

variable {catalog : Catalog Float} {name : String} {place : Nat} {model : Model Float}
  {extent : Float}

/-- The name leads to the model, and a finite angle of the range is drawn as it is. -/
theorem run_trace (sound : catalog.Sound) (isFirst : catalog.IsFirst name place model)
    (valid : IsExtent extent) {angle : Float} (finite : angle.isFinite)
    (inRange : AngleRange.fit angle = angle) :
    run catalog (.trace name (some angle) extent) =
      ofScene model angle (Scene.render model angle (square extent)) := by
  have traced : run catalog (.trace name (some angle) extent) =
      trace model (some angle) extent := about_of_isFirst isFirst _
  have request : IsRequest (some angle) := by
    rintro _ ⟨⟩
    exact finite
  rw [traced, trace_of_isRequest (sound model (List.mem_of_getElem? isFirst.here)) valid request,
    Option.getD_some, inRange]

/-- What is written shows the segments: a line for each, in their order, and on the line its four
numbers. -/
def Shows (report : Report) (segments : List (Segment Float)) : Prop :=
  ∃ written, List.Forall₂ (Segment.Related Alike) segments written ∧
    report.written = String.join (written.map segmentLine) ∧
    rows report.written = written.map fields

/-- A scene that counts as the same is reported in the same way. -/
theorem ofScene_same {scene other : Except Underflow (Scene Float)} (same : SameScene scene other)
    (angle : Float) :
    ((∃ drawn, scene = .ok drawn) ↔ (ofScene model angle other).failure = none) ∧
      (∀ underflow, scene = .error underflow ↔
        (ofScene model angle other).failure = some (.underflow underflow)) ∧
      ∀ drawn, scene = .ok drawn → (ofScene model angle other).Shows drawn.segments := by
  cases same with
  | ok scenes =>
      refine ⟨⟨fun _ => rfl, fun _ => ⟨_, rfl⟩⟩, fun _ => ⟨nofun, nofun⟩, ?_⟩
      rintro _ ⟨⟩
      exact ⟨_, scenes.segments, rfl, rows_join_segmentLine _⟩
  | error underflow =>
      refine ⟨⟨nofun, nofun⟩, fun other => ⟨?_, ?_⟩, nofun⟩
      · rintro ⟨⟩
        rfl
      · rintro ⟨⟩
        rfl

end Report

namespace Viewer

open Report

variable {catalog : Catalog Float} {name : String} {place : Nat} {model : Model Float}

/-! ## A fresh viewer -/

/-- A viewer that starts at a model shows it, at the angle at which it is traced when none is
asked for. -/
theorem start_at (sound : catalog.Sound) (isFirst : catalog.IsFirst name place model)
    (lower : 2 * place < wordCount) (mode : BoundMode) :
    (Viewer.start catalog mode place).place = place ∧
      (Viewer.start catalog mode place).model = model ∧
      traceAngle model none = .ok (Viewer.start catalog mode place).angle := by
  have there : (Viewer.start catalog mode place).place = place :=
    place_start mode isFirst.lt_size lower
  have shown : (Viewer.start catalog mode place).model = model := by
    have found := (selecting_start catalog mode place).get?_place
    rw [there, isFirst.here] at found
    exact (Option.some.inj found).symm
  have finite : model.angleStep.isFinite :=
    (sound model (List.mem_of_getElem? isFirst.here)).isFinite_angleStep
  have own : (Viewer.start catalog mode place).angle = AngleRange.fit model.angleStep := by
    rw [← shown]
    rfl
  rw [own]
  exact ⟨there, shown, if_pos finite⟩

/-! ## Every history -/

/-- **The viewer draws what the trace writes.**  After every history, if the viewer shows the
first model that goes by a name, then in the square of every finite extent above zero its scene
can be drawn exactly if the trace of the name at the angle of the viewer succeeds, it fails for
the same reason, and it has the segments that the trace writes.  A viewer that has just started
at the model that a name leads to shows this model, at the angle that the trace takes when none
is asked for; its place is one that a list in memory can have. -/
theorem scene_agrees_trace (catalog : Catalog Float) (sound : catalog.Sound) (name : String) :
    (∀ mode place history, TurnsDefined history →
      let viewer := (Viewer.start catalog mode place).performAll history
      catalog.IsFirst name viewer.place viewer.model → ∀ extent, IsExtent extent →
        let scene := (viewer.refresh (square extent)).scene
        let report := run catalog (.trace name (some viewer.angle) extent)
        ((∃ drawn, scene = .ok drawn) ↔ report.failure = none) ∧
          (∀ underflow, scene = .error underflow ↔
            report.failure = some (.underflow underflow)) ∧
          ∀ drawn, scene = .ok drawn → report.Shows drawn.segments) ∧
      ∀ place model, catalog.find? name = some (place, model) → 2 * place < wordCount →
        ∀ mode, let viewer := Viewer.start catalog mode place
          viewer.place = place ∧ viewer.model = model ∧
            traceAngle model none = .ok viewer.angle := by
  refine ⟨fun mode place history defined => ?_, fun place model found lower mode => ?_⟩
  · intro viewer isFirst extent valid
    have fresh : Fresh catalog viewer := (fresh_start catalog mode place).performAll history
    have turning : Turning catalog viewer :=
      (Turning.start sound mode place).performAll sound defined
    dsimp only
    rw [run_trace sound isFirst valid turning.isFinite_angle turning.fit_angle]
    exact ofScene_same (fresh.refresh_scene (square extent)) viewer.angle
  · exact start_at sound (Catalog.find?_eq_some_iff.mp found) lower mode

/-- The viewer comes round to the first of two models that go by the same name, and is turned
beyond the range.  Its scene is drawn, and the trace writes it. -/
theorem scene_agrees_trace_of_twins :
    let first : Model Float := { Model.blank "Twin" with iterations := 1, segments := 2.0 }
    let second : Model Float := { Model.blank "TWIN" with segments := 3.0, angleStep := 200.0 }
    let catalog : Catalog Float := ⟨[first, second], List.cons_ne_nil _ _⟩
    let history : List (Action Float) :=
      [.press ⟨.right, false⟩, .present ⟨0, 0, 80, 24⟩, .adjust 500.0, .refresh (square 8.0)]
    let viewer := (Viewer.start catalog .wrap 3).performAll history
    catalog.Sound ∧ TurnsDefined history ∧ catalog.IsFirst "twin" viewer.place viewer.model ∧
      (∃ drawn, (viewer.refresh (square 8.0)).scene = .ok drawn ∧
        (run catalog (.trace "twin" (some viewer.angle) 8.0)).Shows drawn.segments) ∧
      (Viewer.start catalog .clamp 0).model = first := by
  intro first second catalog history viewer
  have sound : catalog.Sound := by decide +kernel
  have defined : TurnsDefined history := by
    intro delta member
    simp [history] at member
    rw [member]
    decide
  have there : viewer.place = 0 := by decide +kernel
  have named : sameName first.name "twin" := by decide
  have isFirst : catalog.IsFirst "twin" 0 first :=
    ⟨rfl, named, fun earlier below => absurd below (Nat.not_lt_zero earlier)⟩
  have unchanged : viewer.catalog = catalog :=
    ((selecting_start catalog .wrap 3).performAll history).unchanged
  have shown : viewer.model = first := by
    rw [Viewer.model, there, unchanged]
    rfl
  have isFirst' : catalog.IsFirst "twin" viewer.place viewer.model := by
    rw [there, shown]
    exact isFirst
  obtain ⟨agrees, started⟩ := scene_agrees_trace catalog sound "twin"
  have valid : IsExtent 8.0 := ⟨by decide, by decide⟩
  obtain ⟨succeeds, -, shows⟩ := agrees .wrap 3 history defined isFirst' 8.0 valid
  have succeeded : (run catalog (.trace "twin" (some viewer.angle) 8.0)).failure = none := by
    decide +kernel
  obtain ⟨drawn, ok⟩ := succeeds.mpr succeeded
  obtain ⟨-, startsThere, -⟩ :=
    started 0 first (Catalog.find?_eq_some_iff.mpr isFirst) (by decide) .clamp
  exact ⟨sound, defined, isFirst', ⟨drawn, ok, shows drawn ok⟩, startsThere⟩

end Viewer

end LSystemExplorer
