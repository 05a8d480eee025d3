import LSystemExplorer.Proofs.Catalog.Description

/-!
# Records that leave something out

What a record leaves out gets a default when the record is completed, and all fields of the
completed record are then written over the defaults of a description.  So the defaults of a
description never show in a catalog, and the two sets of defaults could differ without notice.
They do not: a description with settings for what the record gives, and for nothing else,
leads to the same model (`PartialRecord.foldl_settings`).

Hence a record can be read as such a description (`PartialRecord.toModel_eq_build`).  The only
difference is that a record may give a number of passes that is out of range, which a setting
cannot.
-/

set_option autoImplicit false

namespace LSystemExplorer

open Setting (SameBySlot)

variable {α β : Type}

/-- A part that is written only if it is given has the value that is given, or the one that it
had before. -/
theorem Model.foldl_optional (setting : β → Setting α) (part : Model α → β)
    (write : Model α → β → Model α)
    (writes : ∀ model value, model.apply (setting value) = write model value)
    (keeps : ∀ model, write model (part model) = model) (value? : Option β) (model : Model α) :
    (value?.toList.map setting).foldl Model.apply model =
      write model (value?.getD (part model)) := by
  cases value? with
  | none => exact (keeps model).symm
  | some value => exact writes model value

namespace PartialRecord

/-- The settings for what a record gives. -/
def settings (given : PartialRecord α) : List (Setting α) :=
  given.iterations.toList.map (fun count => .iterations count.toNat) ++
    given.initialValue.toList.map .seed ++
    given.initialAngle.toList.map .heading ++
    given.initialPosition.toList.map (fun position => .position position.1 position.2) ++
    given.angleStep.toList.map .angleStep ++
    given.segments.toList.map .segments ++
    Record.ruleSettings (given.mapping.getD []) .rule ++
    Record.ruleSettings (given.finalMapping.getD []) .finalRule

variable [Scalar α]

/-- The record with the defaults for what it leaves out. -/
def filled (given : PartialRecord α) (name : String) (segments : α) : Record α where
  name := name
  mapping := given.mapping.getD []
  finalMapping := given.finalMapping.getD []
  iterations := given.iterations.getD 4
  initialValue := given.initialValue.getD ['F']
  initialAngle := given.initialAngle.getD 90.0
  initialPosition := given.initialPosition.getD (0.5, 1.0)
  angleStep := given.angleStep.getD 0
  segments := segments

variable {given : PartialRecord α} {name : String} {segments : α}

/-- A record with a name and a shrinking factor is completed, whatever else it leaves out. -/
theorem complete_eq_filled (named : given.name = some name)
    (scaled : given.segments = some segments) :
    given.complete = .ok (given.filled name segments) := by
  unfold complete
  rw [named, scaled]
  rfl

/-- **What is left out has the same default in a record and in a description.** -/
theorem foldl_settings (scaled : given.segments = some segments) (name : String) :
    given.settings.foldl Model.apply (Model.blank name) = (given.filled name segments).draft := by
  have iterations := Model.foldl_optional (fun count : Int => Setting.iterations count.toNat)
    (fun model : Model α => (model.iterations : Int))
    (fun model count => { model with iterations := count.toNat })
    (fun _ _ => rfl) (fun _ => rfl)
  have seed := Model.foldl_optional Setting.seed (fun model : Model α => model.seed)
    (fun model seed => { model with seed }) (fun _ _ => rfl) (fun _ => rfl)
  have heading := Model.foldl_optional Setting.heading (fun model : Model α => model.heading)
    (fun model heading => { model with heading }) (fun _ _ => rfl) (fun _ => rfl)
  have position := Model.foldl_optional
    (fun position : α × α => Setting.position position.1 position.2)
    (fun model => (model.position.x, model.position.y))
    (fun model position => { model with position := ⟨position.1, position.2⟩ })
    (fun _ _ => rfl) (fun _ => rfl)
  have angleStep := Model.foldl_optional Setting.angleStep
    (fun model : Model α => model.angleStep) (fun model angleStep => { model with angleStep })
    (fun _ _ => rfl) (fun _ => rfl)
  have segments := Model.foldl_optional Setting.segments (fun model : Model α => model.segments)
    (fun model segments => { model with segments }) (fun _ _ => rfl) (fun _ => rfl)
  simp only [settings, List.foldl_append, iterations, seed, heading, position, angleStep,
    segments, scaled, Model.foldl_rules, Model.foldl_finalRules]
  rfl

/-- The settings for what a record gives lead to the same as those of the completed record,
also when settings for different slots change places. -/
theorem build_filled (scaled : given.segments = some segments) (name : String)
    {calls : List (Setting α)} (same : SameBySlot given.settings calls) :
    Model.build name calls = Model.build name (given.filled name segments).settings := by
  have drafts : (given.filled name segments).settings.foldl Model.apply (Model.blank name) =
      (given.filled name segments).draft := (given.filled name segments).foldl_settings
  rw [← Model.build_congr same, Model.build, Model.build, foldl_settings scaled, drafts]

end PartialRecord

/-! ## Models of such records -/

namespace Record

variable [Scalar α] (record : Record α)

theorem toModel_of_inRange (inRange : 0 ≤ record.iterations ∧ record.iterations < 2 ^ 32) :
    record.toModel = Model.build record.name record.settings :=
  if_pos inRange

theorem build_of_toModel {model : Model α} (converted : record.toModel = .ok model) :
    Model.build record.name record.settings = .ok model := by
  unfold toModel at converted
  split at converted
  · exact converted
  · cases converted

end Record

/-- **A record leads to the model of what it gives.**  A record with a name and a shrinking
factor is completed, whatever else it leaves out.  If it makes a model, the settings for what it
gives describe the same model, and unless it gives a number of passes that is out of range, it is
refused exactly when they are, for the same reason. -/
theorem PartialRecord.toModel_eq_build [Scalar α] {given : PartialRecord α} {name : String}
    {segments : α} (named : given.name = some name) (scaled : given.segments = some segments) :
    ∃ record, given.complete = .ok record ∧
      ∀ calls, SameBySlot given.settings calls →
        (∀ model, record.toModel = .ok model → Model.build name calls = .ok model) ∧
        ((∀ count, given.iterations = some count → 0 ≤ count ∧ count < 2 ^ 32) →
          ∀ refusal, record.toModel = .error refusal ↔
            Model.build name calls = .error refusal) := by
  refine ⟨given.filled name segments, complete_eq_filled named scaled, fun calls same => ?_⟩
  have built := build_filled scaled name same
  constructor
  · intro model converted
    rw [built]
    exact (given.filled name segments).build_of_toModel converted
  · intro fits refusal
    have inRange : 0 ≤ given.iterations.getD 4 ∧ given.iterations.getD 4 < 2 ^ 32 := by
      cases counted : given.iterations with
      | none => decide
      | some count => exact fits count counted
    have converted := (given.filled name segments).toModel_of_inRange inRange
    rw [built, converted]
    rfl

/-- A record with a rule and an angle leaves the rest out, and leads to the model of three
settings, in another order.  With two passes and a shrinking factor below zero it is refused, as
its settings are. -/
theorem PartialRecord.toModel_eq_build_of_weed :
    let text := "- name: Weed\n  angle_step: 25\n  segments: 3\n  mapping:\n    F: \"F[-F]F\"\n"
    let given : PartialRecord Float :=
      { PartialRecord.empty with
        name := some "Weed", mapping := some [('F', "F[-F]F".toList)], angleStep := some 25.0,
        segments := some 3.0 }
    let record : Record Float :=
      ⟨"Weed", [('F', "F[-F]F".toList)], [], 4, ['F'], 90.0, (0.5, 1.0), 25.0, 3.0⟩
    let calls : List (Setting Float) :=
      [.segments 3.0, .angleStep 25.0, .rule 'F' "F[-F]F".toList]
    let bad : PartialRecord Float :=
      { given with iterations := some 2, segments := some (-3.0) }
    let refusal : InvalidModel Float := ⟨"Weed", .segmentsNotPositive (-3.0)⟩
    Record.listOfText text.toList = .ok [record] ∧ given.complete = .ok record ∧
      record.toModel = .ok record.draft ∧ Model.build "Weed" calls = .ok record.draft ∧
      ∃ worse, bad.complete = .ok worse ∧ worse.toModel = .error refusal ∧
        Model.build "Weed" bad.settings = .error refusal := by
  intro text given record calls bad refusal
  have swapped : SameBySlot given.settings calls :=
    Setting.sameBySlot_swap (by decide) [] [.rule 'F' "F[-F]F".toList]
  have converted : record.toModel = .ok record.draft :=
    Record.toModel_eq_ok_iff.mpr
      ⟨⟨by decide, fun number => by cases number <;> decide, by decide⟩, rfl⟩
  have named : given.name = some "Weed" := rfl
  have scaled : given.segments = some 3.0 := rfl
  obtain ⟨completed, filled, agree⟩ := PartialRecord.toModel_eq_build named scaled
  have badNamed : bad.name = some "Weed" := rfl
  have badScaled : bad.segments = some (-3.0) := rfl
  obtain ⟨worse, worseFilled, worseAgree⟩ := PartialRecord.toModel_eq_build badNamed badScaled
  have refused : Model.build "Weed" bad.settings = .error refusal := by decide +kernel
  have counted : ∀ count, bad.iterations = some count → 0 ≤ count ∧ count < 2 ^ 32 := by
    rintro count ⟨⟩
    decide
  cases filled
  refine ⟨by decide +kernel, rfl, converted, (agree calls swapped).1 _ converted, worse,
    worseFilled, ?_, refused⟩
  exact ((worseAgree bad.settings fun _ => rfl).2 counted refusal).mpr refused

end LSystemExplorer
