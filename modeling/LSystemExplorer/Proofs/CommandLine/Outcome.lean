import LSystemExplorer.Proofs.Catalog.Lookup
import LSystemExplorer.Proofs.Catalog.Soundness
import LSystemExplorer.Proofs.CommandLine.Rows
import LSystemExplorer.Proofs.Drawing.Success

/-!
# What comes of a subcommand

A subcommand that fails has written nothing.  To trace a model four things are looked at,
one after the other: the name, the extent, the angle if one is asked for, and the word of
the model.  The first that is wrong is the failure, and if none is wrong the segments are
written (`Report.trace_outcome`, `Report.run_outcome`).  An angle that was not asked for is
never wrong, as the angle of a sound model is finite.
-/

set_option autoImplicit false

namespace LSystemExplorer.Report

/-! ## The failures of a trace -/

/-- A square of this extent can be drawn in. -/
def IsExtent (extent : Float) : Prop :=
  extent.isFinite ∧ 0 < extent

/-- If an angle is asked for, it is finite. -/
def IsRequest (requested : Option Float) : Prop :=
  ∀ angle, requested = some angle → angle.isFinite

/-- What comes of tracing a model.  Once all that is looked at before is right, each thing is the
failure exactly if it is wrong itself. -/
structure TraceOutcome (model : Model Float) (requested : Option Float) (extent : Float)
    (report : Report) : Prop where
  invalidExtent : report.failure = some (.invalidExtent extent) ↔ ¬ IsExtent extent
  invalidAngle : IsExtent extent → ∀ angle,
    (report.failure = some (.invalidAngle angle) ↔ requested = some angle ∧ ¬ angle.isFinite)
  underflow : IsExtent extent → IsRequest requested → ∀ place,
    (report.failure = some (.underflow ⟨place⟩) ↔
      IsLeast {i | Unmatched 0 model.generate i} place)
  success : IsExtent extent → IsRequest requested →
    (report.failure = none ↔ Nested model.generate)
  written : report.failure = none → ∃ scene,
    Scene.render model (AngleRange.fit (requested.getD model.angleStep)) (square extent) =
        .ok scene ∧
      report.written = String.join (scene.segments.map segmentLine) ∧
      rows report.written = scene.segments.map fields

/-- The report about a scene: its segments, or why there is none. -/
def ofScene (model : Model Float) (angle : Float) : Except Underflow (Scene Float) → Report
  | .error fault => failing (.underflow fault)
  | .ok scene =>
    { written := String.join (scene.segments.map segmentLine)
      events :=
        [LogEvent.renderedScene model.name angle scene.patternLength scene.segments.length]
      failure := none }

section Trace

variable {model : Model Float} {requested : Option Float} {extent : Float}

/-- An extent that is no extent is the failure, whatever else is wrong. -/
theorem outcome_of_not_isExtent (invalid : ¬ IsExtent extent) :
    TraceOutcome model requested extent (trace model requested extent) := by
  have failed : trace model requested extent = failing (.invalidExtent extent) := by
    refine if_neg fun valid => invalid ?_
    rw [Bool.and_eq_true] at valid
    exact ⟨valid.1, of_decide_eq_true valid.2⟩
  rw [failed]
  exact ⟨⟨fun _ => invalid, fun _ => rfl⟩, fun valid => absurd valid invalid,
    fun valid => absurd valid invalid, fun valid => absurd valid invalid, nofun⟩

theorem trace_of_isExtent (valid : IsExtent extent) :
    trace model requested extent =
      match traceAngle model requested with
      | .error error => failing error
      | .ok angle => ofScene model angle (Scene.render model angle (square extent)) := by
  have checked : (extent.isFinite && 0 < extent) = true := by
    rw [Bool.and_eq_true]
    exact ⟨valid.1, decide_eq_true valid.2⟩
  unfold trace
  rw [if_pos checked]
  cases traceAngle model requested with
  | error error => rfl
  | ok angle => cases Scene.render model angle (square extent) <;> rfl

/-- Behind an extent, an angle that is asked for and not finite is the failure. -/
theorem outcome_of_not_isFinite (valid : IsExtent extent) {angle : Float}
    (infinite : ¬ angle.isFinite) :
    TraceOutcome model (some angle) extent (trace model (some angle) extent) := by
  have refused : traceAngle model (some angle) = .error (.invalidAngle angle) := if_neg infinite
  have noRequest : ¬ IsRequest (some angle) := fun request => infinite (request angle rfl)
  rw [trace_of_isExtent valid, refused]
  refine ⟨⟨nofun, absurd valid⟩, fun _ other => ⟨?_, ?_⟩,
    fun _ request => absurd request noRequest, fun _ request => absurd request noRequest, nofun⟩
  · rintro ⟨⟩
    exact ⟨rfl, infinite⟩
  · rintro ⟨⟨⟩, -⟩
    rfl

theorem IsRequest.not_infinite (request : IsRequest requested) (angle : Float) :
    ¬ (requested = some angle ∧ ¬ angle.isFinite) :=
  fun asked => asked.2 (request angle asked.1)

variable (sound : model.Sound) (valid : IsExtent extent) (request : IsRequest requested)

include sound valid request

/-- A sound model can be drawn at its own angle, and at each that is finite. -/
theorem trace_of_isRequest :
    trace model requested extent =
      ofScene model (AngleRange.fit (requested.getD model.angleStep))
        (Scene.render model (AngleRange.fit (requested.getD model.angleStep))
          (square extent)) := by
  have finite : (requested.getD model.angleStep).isFinite := by
    cases requested with
    | none => exact sound.isFinite_angleStep
    | some angle => exact request angle rfl
  have granted : traceAngle model requested =
      .ok (AngleRange.fit (requested.getD model.angleStep)) := if_pos finite
  rw [trace_of_isExtent valid, granted]

/-- Then the first unmatched `]` is the failure. -/
theorem outcome_of_unmatched {place : Nat}
    (first : IsLeast {i | Unmatched 0 model.generate i} place) :
    TraceOutcome model requested extent (trace model requested extent) := by
  have nesting : ¬ Nested model.generate := by
    rw [nested_iff, unmatched?_eq_some_iff.mpr first]
    exact nofun
  rw [trace_of_isRequest sound valid request, Scene.render_unmatched first]
  refine ⟨⟨nofun, absurd valid⟩, fun _ angle => ⟨nofun, fun asked => ?_⟩,
    fun _ _ other => ⟨?_, fun other => ?_⟩, fun _ _ => ⟨nofun, fun nested => ?_⟩, nofun⟩
  · exact absurd asked (request.not_infinite angle)
  · rintro ⟨⟩
    exact first
  · rw [other.unique first]
    rfl
  · exact absurd nested nesting

/-- If nothing is wrong, the segments are written. -/
theorem outcome_of_nested (nested : Nested model.generate) :
    TraceOutcome model requested extent (trace model requested extent) := by
  rw [trace_of_isRequest sound valid request, Scene.render_nested nested]
  refine ⟨⟨nofun, absurd valid⟩, fun _ angle => ⟨nofun, fun asked => ?_⟩,
    fun _ _ place => ⟨nofun, fun first => ?_⟩, fun _ _ => ⟨fun _ => nested, fun _ => rfl⟩,
    fun _ => ⟨_, Scene.render_nested nested _ _, rfl, rows_join_segmentLine _⟩⟩
  · exact absurd asked (request.not_infinite angle)
  · have unmatched := unmatched?_eq_some_iff.mpr first
    rw [nested_iff.mp nested] at unmatched
    cases unmatched

omit valid request

/-- **What comes of tracing a sound model.** -/
theorem trace_outcome (requested : Option Float) (extent : Float) :
    TraceOutcome model requested extent (trace model requested extent) := by
  by_cases valid : IsExtent extent
  · by_cases request : IsRequest requested
    · cases found : unmatched? 0 model.generate with
      | some place =>
          exact outcome_of_unmatched sound valid request (unmatched?_eq_some_iff.mp found)
      | none => exact outcome_of_nested sound valid request (nested_iff.mpr found)
    · obtain ⟨angle, rfl, infinite⟩ : ∃ angle, requested = some angle ∧ ¬ angle.isFinite := by
        simpa [IsRequest] using request
      exact outcome_of_not_isFinite valid infinite
  · exact outcome_of_not_isExtent valid

end Trace

/-- A trace that fails comes to nothing else, and the name is not to blame. -/
theorem trace_eq_failing (model : Model Float) (requested : Option Float) (extent : Float) :
    (trace model requested extent).failure = none ∨ ∃ error,
      trace model requested extent = failing error ∧ ∀ name, error ≠ .unknownModel name := by
  unfold trace
  split
  · split
    · rename_i error refused
      refine Or.inr ⟨error, rfl, fun name same => ?_⟩
      unfold traceAngle at refused
      dsimp only at refused
      split at refused
      · cases refused
      · rw [same] at refused
        cases refused
    · split
      · exact Or.inr ⟨_, rfl, fun _ => nofun⟩
      · exact Or.inl rfl
  · exact Or.inr ⟨_, rfl, fun _ => nofun⟩

/-! ## Subcommands -/

section Run

variable {catalog : Catalog Float} {name : String}

theorem about_of_isFirst {place : Nat} {model : Model Float}
    (isFirst : catalog.IsFirst name place model) (report : Model Float → Report) :
    about catalog name report = report model := by
  rw [about, Catalog.find?_eq_some_iff.mpr isFirst]

/-- The name is the failure exactly if no model goes by it. -/
theorem failure_about_iff {report : Model Float → Report}
    (blameless : ∀ model, (report model).failure ≠ some (.unknownModel name)) :
    (about catalog name report).failure = some (.unknownModel name) ↔
      ∀ model ∈ catalog.models, ¬ sameName model.name name := by
  rw [← Catalog.find?_eq_none_iff, about]
  cases catalog.find? name with
  | none => exact ⟨fun _ => rfl, fun _ => rfl⟩
  | some entry => exact ⟨fun failed => absurd failed (blameless entry.2), nofun⟩

theorem silent_about {report : Model Float → Report}
    (silent : ∀ model, (report model).failure = none ∨ (report model).written = "") :
    (about catalog name report).failure = none ∨ (about catalog name report).written = "" := by
  unfold about
  split
  · exact silent _
  · exact Or.inr rfl

/-- **A subcommand that fails has written nothing.** -/
theorem written_of_failure (command : Subcommand)
    (failed : (run catalog command).failure ≠ none) : (run catalog command).written = "" := by
  have silent : (run catalog command).failure = none ∨ (run catalog command).written = "" := by
    cases command with
    | view name => exact Or.inl rfl
    | list => exact Or.inl rfl
    | generate name => exact silent_about fun _ => Or.inl rfl
    | trace name requested extent =>
        refine silent_about fun model => ?_
        rcases trace_eq_failing model requested extent with succeeded | ⟨error, failure, -⟩
        · exact Or.inl succeeded
        · rw [failure]
          exact Or.inr rfl
  exact silent.resolve_left failed

/-- **What comes of a subcommand.**  One that fails has written nothing.  A trace fails because
of the name exactly if no model goes by it; otherwise the first model that does is traced, and
the first thing that is wrong with the extent, the angle and the word is the failure.  If
nothing is wrong, there is a line for each segment, with its four numbers.  In the same way the
word of a model is written, on one line. -/
theorem run_outcome (catalog : Catalog Float) (sound : catalog.Sound) :
    (∀ command, (run catalog command).failure ≠ none → (run catalog command).written = "") ∧
      (∀ name requested extent,
        let report := run catalog (.trace name requested extent)
        (report.failure = some (.unknownModel name) ↔
            ∀ model ∈ catalog.models, ¬ sameName model.name name) ∧
          ((∃ model ∈ catalog.models, sameName model.name name) →
            ∃ place model, catalog.IsFirst name place model ∧
              TraceOutcome model requested extent report)) ∧
      ∀ name,
        let report := run catalog (.generate name)
        (report.failure = some (.unknownModel name) ↔
            ∀ model ∈ catalog.models, ¬ sameName model.name name) ∧
          ((∃ model ∈ catalog.models, sameName model.name name) →
            ∃ place model, catalog.IsFirst name place model ∧ report.failure = none ∧
              report.written = String.ofList model.generate ++ "\n") := by
  refine ⟨written_of_failure, fun name requested extent => ⟨?_, fun named => ?_⟩,
    fun name => ⟨?_, fun named => ?_⟩⟩
  · refine failure_about_iff fun model failed => ?_
    rcases trace_eq_failing model requested extent with succeeded | ⟨error, failure, blameless⟩
    · rw [succeeded] at failed
      cases failed
    · rw [failure] at failed
      exact blameless name (Option.some.inj failed)
  · obtain ⟨place, model, isFirst⟩ := Catalog.exists_isFirst named
    refine ⟨place, model, isFirst, ?_⟩
    have member : model ∈ catalog.models := List.mem_of_getElem? isFirst.here
    show TraceOutcome model requested extent (about catalog name _)
    rw [about_of_isFirst isFirst]
    exact trace_outcome (sound model member) requested extent
  · exact failure_about_iff fun _ => nofun
  · obtain ⟨place, model, isFirst⟩ := Catalog.exists_isFirst named
    refine ⟨place, model, isFirst, ?_⟩
    have generated : run catalog (.generate name) = generate model := about_of_isFirst isFirst _
    rw [generated]
    exact ⟨rfl, String.ofList_append⟩

/-- Of two models one has an unmatched `]`.  Tracing it fails there, unless the angle or the
extent is wrong as well, and a name that no model goes by fails before all of these. -/
theorem run_outcome_of_two :
    let unbalanced : Model Float :=
      { Model.blank "Unbalanced" with iterations := 0, seed := "F]F".toList, segments := 2.0 }
    let steep : Model Float := { Model.blank "Steep" with segments := 3.0, angleStep := 200.0 }
    let catalog : Catalog Float := ⟨[unbalanced, steep], List.cons_ne_nil _ _⟩
    let undefined : Float := 0.0 / 0.0
    catalog.Sound ∧
      (run catalog (.trace "UNBALANCED" none 8.0)).failure = some (.underflow ⟨1⟩) ∧
      (run catalog (.trace "UNBALANCED" (some undefined) 8.0)).failure =
        some (.invalidAngle undefined) ∧
      (run catalog (.trace "UNBALANCED" (some undefined) 0.0)).failure =
        some (.invalidExtent 0.0) ∧
      (run catalog (.trace "Shrub" (some undefined) 0.0)).failure =
        some (.unknownModel "Shrub") := by
  intro unbalanced steep catalog undefined
  have sound : catalog.Sound := by decide +kernel
  have named : sameName unbalanced.name "UNBALANCED" := by decide
  have first : catalog.find? "UNBALANCED" = some (0, unbalanced) :=
    Catalog.find?_eq_some_iff.mpr
      ⟨rfl, named, fun earlier below => absurd below (Nat.not_lt_zero earlier)⟩
  obtain ⟨-, traced, -⟩ := run_outcome catalog sound
  have outcome (requested : Option Float) (extent : Float) :
      TraceOutcome unbalanced requested extent
        (run catalog (.trace "UNBALANCED" requested extent)) := by
    obtain ⟨place, model, isFirst, outcome⟩ :=
      (traced "UNBALANCED" requested extent).2 ⟨unbalanced, List.mem_cons_self .., named⟩
    have found := Catalog.find?_eq_some_iff.mpr isFirst
    rw [first] at found
    cases found
    exact outcome
  have valid : IsExtent 8.0 := ⟨by decide, by decide⟩
  refine ⟨sound, ?_, ?_, ?_, ?_⟩
  · refine ((outcome none 8.0).underflow valid nofun 1).mpr ?_
    exact unmatched?_eq_some_iff.mp (by decide)
  · exact ((outcome (some undefined) 8.0).invalidAngle valid undefined).mpr ⟨rfl, by decide⟩
  · refine (outcome (some undefined) 0.0).invalidExtent.mpr fun valid => ?_
    exact absurd valid.2 (by decide)
  · exact (traced "Shrub" (some undefined) 0.0).1.mpr (by decide)

end Run

end LSystemExplorer.Report
