import LSystemExplorer.Proofs.Catalog.Faults
import LSystemExplorer.Proofs.Grammar.Entries

/-!
# What a description says

A model is described by a name and settings, one after the other.  A setting writes to one
slot: a field of the model, or the rule for one symbol.  What is written to a slot last stays
(`Model.foldl_apply_last`), and a slot that nothing is written to keeps its default.  So a
description says of each slot what its last setting for this slot says
(`Model.DescribedBy`), and there is one model of which this is true
(`Model.DescribedBy.unique`).

Two things follow.  Settings for different slots can change places, for only the order of the
settings for one slot counts (`Model.build_congr`).  And whether a model is built, and what is
reported when it is not, depends on the values that were written last; a bad value that was
overwritten is forgotten (`Model.build_outcome`).
-/

set_option autoImplicit false

namespace LSystemExplorer

/-- What a setting writes: a field of a model, or the rule for a symbol. -/
inductive Slot
  | rule (symbol : Symbol)
  | finalRule (symbol : Symbol)
  | iterations
  | seed
  | heading
  | position
  | angleStep
  | segments
  deriving DecidableEq

namespace ModelNumber

/-- Both coordinates of the position are written at once. -/
def slot : ModelNumber → Slot
  | .segments => .segments
  | .heading => .heading
  | .positionX => .position
  | .positionY => .position
  | .angleStep => .angleStep

/-- The value of a number that no setting writes. -/
def default {α : Type} [Scalar α] : ModelNumber → α
  | .segments => 0
  | .heading => 90.0
  | .positionX => 0.5
  | .positionY => 1.0
  | .angleStep => 0

end ModelNumber

namespace Setting

variable {α β : Type}

/-! ## What settings write -/

/-- The slot that a setting writes to. -/
def slot : Setting α → Slot
  | .rule symbol _ => .rule symbol
  | .finalRule symbol _ => .finalRule symbol
  | .iterations _ => .iterations
  | .seed _ => .seed
  | .heading _ => .heading
  | .position _ _ => .position
  | .angleStep _ => .angleStep
  | .segments _ => .segments

/-- The replacement that a setting gives to a symbol, if it gives one. -/
def word? (symbol : Symbol) : Setting α → Option Word
  | .rule key word => if symbol = key then some word else none
  | _ => none

/-- The replacement in the last pass that a setting gives to a symbol, if it gives one. -/
def finalWord? (symbol : Symbol) : Setting α → Option Word
  | .finalRule key word => if symbol = key then some word else none
  | _ => none

/-- The number of passes that a setting gives, if it gives one. -/
def iterations? : Setting α → Option Nat
  | .iterations count => some count
  | _ => none

/-- The word to start from that a setting gives, if it gives one. -/
def seed? : Setting α → Option Word
  | .seed word => some word
  | _ => none

/-- The number that a setting gives, if it gives this one. -/
def number? : ModelNumber → Setting α → Option α
  | .segments, .segments factor => some factor
  | .heading, .heading degrees => some degrees
  | .positionX, .position x _ => some x
  | .positionY, .position _ y => some y
  | .angleStep, .angleStep degrees => some degrees
  | _, _ => none

/-- The value that is written last, if one is written. -/
def last? (value? : Setting α → Option β) (settings : List (Setting α)) : Option β :=
  (settings.filterMap value?).getLast?

/-- The value that a number has in the end. -/
def finalNumber [Scalar α] (settings : List (Setting α)) (number : ModelNumber) : α :=
  (last? (number? number) settings).getD number.default

theorem last?_cons (value? : Setting α → Option β) (setting : Setting α)
    (later : List (Setting α)) :
    last? value? (setting :: later) = (last? value? later).or (value? setting) := by
  cases written : value? setting with
  | none => simp [last?, written]
  | some value => simp [last?, written, List.getLast?_cons]

/-! ## Slots -/

/-- For each slot there are the same settings in the same order. -/
def SameBySlot (settings others : List (Setting α)) : Prop :=
  ∀ slot, (settings.filter fun setting => setting.slot = slot) =
    others.filter fun setting => setting.slot = slot

/-- Neighbours that write to different slots can change places. -/
theorem sameBySlot_swap {first second : Setting α} (different : first.slot ≠ second.slot)
    (front back : List (Setting α)) :
    SameBySlot (front ++ first :: second :: back) (front ++ second :: first :: back) := by
  intro slot
  rw [List.filter_append, List.filter_append]
  congr 1
  by_cases firstHere : first.slot = slot
  · have secondElsewhere : second.slot ≠ slot := fun here => different (firstHere.trans here.symm)
    simp [firstHere, secondElsewhere]
  · simp [List.filter_cons, firstHere]

/-- A value that is written to one slot does not depend on the settings for others. -/
theorem last?_congr {value? : Setting α → Option β} {slot : Slot}
    (only : ∀ setting, setting.slot ≠ slot → value? setting = none)
    {settings others : List (Setting α)} (same : SameBySlot settings others) :
    last? value? settings = last? value? others := by
  have filtered : ∀ list : List (Setting α), list.filterMap value? =
      (list.filter fun setting => setting.slot = slot).filterMap value? := by
    intro list
    rw [List.filterMap_filter]
    refine List.filterMap_congr fun setting _ => ?_
    by_cases here : setting.slot = slot
    · simp [here]
    · simp [here, only setting here]
  rw [last?, last?, filtered settings, filtered others, same slot]

theorem word?_elsewhere {symbol : Symbol} (setting : Setting α)
    (elsewhere : setting.slot ≠ .rule symbol) : setting.word? symbol = none := by
  cases setting with
  | rule key word => exact if_neg fun same => elsewhere (congrArg Slot.rule same.symm)
  | _ => rfl

theorem finalWord?_elsewhere {symbol : Symbol} (setting : Setting α)
    (elsewhere : setting.slot ≠ .finalRule symbol) : setting.finalWord? symbol = none := by
  cases setting with
  | finalRule key word => exact if_neg fun same => elsewhere (congrArg Slot.finalRule same.symm)
  | _ => rfl

theorem iterations?_elsewhere (setting : Setting α) (elsewhere : setting.slot ≠ .iterations) :
    setting.iterations? = none := by
  cases setting with
  | iterations count => exact absurd rfl elsewhere
  | _ => rfl

theorem seed?_elsewhere (setting : Setting α) (elsewhere : setting.slot ≠ .seed) :
    setting.seed? = none := by
  cases setting with
  | seed word => exact absurd rfl elsewhere
  | _ => rfl

theorem number?_elsewhere {number : ModelNumber} (setting : Setting α)
    (elsewhere : setting.slot ≠ number.slot) : setting.number? number = none := by
  cases number <;> cases setting <;> first | rfl | exact absurd rfl elsewhere

end Setting

namespace Model

open Setting

variable {α β : Type}

/-! ## The model of a description -/

/-- **What is written last stays.**  A part of a model that each setting writes or leaves as
it is has the value that is written last, or the one that it had before. -/
theorem foldl_apply_last (part : Model α → Option β) (value? : Setting α → Option β)
    (written : ∀ model setting, part (model.apply setting) = (value? setting).or (part model))
    (settings : List (Setting α)) (model : Model α) :
    part (settings.foldl Model.apply model) = (last? value? settings).or (part model) := by
  induction settings generalizing model with
  | nil => rfl
  | cons setting later ih => rw [List.foldl_cons, ih, written, last?_cons, Option.or_assoc]

/-- A part that always has a value has the one that is written last, or the one that it had
before. -/
theorem foldl_apply_last_getD (part : Model α → β) (value? : Setting α → Option β)
    (written : ∀ model setting, part (model.apply setting) = (value? setting).getD (part model))
    (settings : List (Setting α)) (model : Model α) :
    part (settings.foldl Model.apply model) = (last? value? settings).getD (part model) := by
  refine Option.some.inj ?_
  rw [← Option.or_some]
  refine foldl_apply_last (fun model => some (part model)) value? (fun model setting => ?_)
    settings model
  rw [written, Option.or_some]

variable [Scalar α]

/-- The model has the values that the settings write last, and the defaults for what they do
not write.  It has rules for the symbols that they give rules for. -/
structure DescribedBy (model : Model α) (name : String) (settings : List (Setting α)) : Prop where
  name : model.name = name
  rules : ∀ symbol, model.rules.find? symbol = last? (word? symbol) settings
  finalRules : ∀ symbol, model.finalRules.find? symbol = last? (finalWord? symbol) settings
  iterations : model.iterations = (last? iterations? settings).getD 4
  seed : model.seed = (last? seed? settings).getD ['F']
  number : ∀ number, model.number number = finalNumber settings number

theorem describedBy_foldl (name : String) (settings : List (Setting α)) :
    (settings.foldl Model.apply (blank name)).DescribedBy name settings where
  name := by
    rw [foldl_apply_last_getD Model.name (fun _ => none)
      (fun _ setting => by cases setting <;> rfl)]
    simp [last?, blank]
  rules symbol := by
    rw [foldl_apply_last (fun model => model.rules.find? symbol) (word? symbol)]
    · exact Option.or_none
    · intro model setting
      cases setting with
      | rule key word =>
          rw [Model.apply, Rules.find?_insert, word?]
          split <;> rfl
      | _ => rfl
  finalRules symbol := by
    rw [foldl_apply_last (fun model => model.finalRules.find? symbol) (finalWord? symbol)]
    · exact Option.or_none
    · intro model setting
      cases setting with
      | finalRule key word =>
          rw [Model.apply, Rules.find?_insert, finalWord?]
          split <;> rfl
      | _ => rfl
  iterations := foldl_apply_last_getD Model.iterations iterations?
    (fun _ setting => by cases setting <;> rfl) settings _
  seed := foldl_apply_last_getD Model.seed seed?
    (fun _ setting => by cases setting <;> rfl) settings _
  number number := by
    rw [foldl_apply_last_getD (fun model => model.number number) (number? number)
      (fun _ setting => by cases number <;> cases setting <;> rfl)]
    cases number <;> rfl

namespace DescribedBy

variable {model other : Model α} {name : String} {settings others : List (Setting α)}

/-- **A description says everything about its model.** -/
theorem unique (described : model.DescribedBy name settings)
    (also : other.DescribedBy name settings) : model = other := by
  have number : ∀ number, model.number number = other.number number :=
    fun number => (described.number number).trans (also.number number).symm
  have rules : model.rules = other.rules :=
    Rules.eq_of_find? fun symbol => (described.rules symbol).trans (also.rules symbol).symm
  have finalRules : model.finalRules = other.finalRules :=
    Rules.eq_of_find? fun symbol =>
      (described.finalRules symbol).trans (also.finalRules symbol).symm
  have position : model.position = other.position :=
    congrArg₂ Point.mk (number .positionX) (number .positionY)
  have sameName := described.name.trans also.name.symm
  have iterations := described.iterations.trans also.iterations.symm
  have seed := described.seed.trans also.seed.symm
  have heading := number .heading
  have angleStep := number .angleStep
  have segments := number .segments
  cases model
  cases other
  simp only [Model.number] at heading angleStep segments
  simp only at rules finalRules position sameName iterations seed
  subst rules finalRules position sameName iterations seed heading angleStep segments
  rfl

theorem congr (described : model.DescribedBy name settings)
    (same : SameBySlot settings others) : model.DescribedBy name others where
  name := described.name
  rules symbol := (described.rules symbol).trans (last?_congr word?_elsewhere same)
  finalRules symbol := (described.finalRules symbol).trans (last?_congr finalWord?_elsewhere same)
  iterations := by rw [← last?_congr iterations?_elsewhere same, described.iterations]
  seed := by rw [← last?_congr seed?_elsewhere same, described.seed]
  number number := by
    rw [finalNumber, ← last?_congr number?_elsewhere same]
    exact described.number number

end DescribedBy

/-- **Settings for different slots can change places.** -/
theorem build_congr {settings others : List (Setting α)} (same : SameBySlot settings others)
    (name : String) : (build name settings : Except (InvalidModel α) (Model α)) =
      build name others := by
  have drafts : settings.foldl Model.apply (blank name) = others.foldl Model.apply (blank name) :=
    ((describedBy_foldl name settings).congr same).unique (describedBy_foldl name others)
  rw [build, build, drafts]

end Model

/-! ## What is wrong with a description -/

/-- What is reported about some numbers: the first of them that is infinite or undefined, or,
when none is, a shrinking factor that is not positive. -/
inductive FirstDefect (number : ModelNumber → Float) : Defect Float → Prop
  | notFinite (which : ModelNumber) (infinite : ¬ (number which).isFinite)
      (first : ∀ other, other.rank < which.rank → (number other).isFinite) :
      FirstDefect number (.notFinite which)
  | segmentsNotPositive (finite : ∀ which, (number which).isFinite)
      (notPositive : ¬ 0 < number .segments) :
      FirstDefect number (.segmentsNotPositive (number .segments))

namespace Model

open Setting

/-- The first defect of a model is the one that is found. -/
theorem defect?_eq_some_iff {model : Model Float} {defect : Defect Float} :
    model.defect? = some defect ↔ FirstDefect model.number defect := by
  rcases model.defect?_cases with
    ⟨valid, found⟩ | ⟨which, infinite, least, found⟩ | ⟨finite, notPositive, found⟩
  · rw [found]
    refine ⟨nofun, fun first => ?_⟩
    cases first with
    | notFinite other infinite => exact absurd (valid.finite other) infinite
    | segmentsNotPositive _ notPositive => exact absurd valid.positive notPositive
  · rw [found, Option.some.injEq]
    constructor
    · rintro rfl
      refine .notFinite which infinite fun other before => ?_
      by_contra otherInfinite
      exact absurd before (Nat.not_lt.mpr (least other otherInfinite))
    · intro first
      cases first with
      | notFinite other otherInfinite first =>
          have notBefore : ¬ which.rank < other.rank := fun before => infinite (first which before)
          have same : which = other :=
            ModelNumber.eq_of_rank_eq
              (Nat.le_antisymm (least other otherInfinite) (Nat.not_lt.mp notBefore))
          rw [same]
      | segmentsNotPositive finite => exact absurd (finite which) infinite
  · rw [found, Option.some.injEq]
    constructor
    · rintro rfl
      exact .segmentsNotPositive finite notPositive
    · intro first
      cases first with
      | notFinite other infinite => exact absurd (finite other) infinite
      | segmentsNotPositive => rfl

/-! ## The outcome -/

/-- What comes of building a model: it succeeds just if the numbers that are written last are
finite and the last shrinking factor is positive, and otherwise it fails with just one
reason. -/
structure BuildOutcome (name : String) (settings : List (Setting Float))
    (built : Except (InvalidModel Float) (Model Float)) : Prop where
  success : (∃ model, built = .ok model) ↔
    (∀ number, (finalNumber settings number).isFinite) ∧ 0 < finalNumber settings .segments
  described : ∀ model, built = .ok model → model.DescribedBy name settings
  failure : ∀ refusal, built = .error refusal ↔
    ∃ defect, FirstDefect (finalNumber settings) defect ∧ refusal = ⟨name, defect⟩

theorem outcome_of_build (name : String) (settings : List (Setting Float)) :
    BuildOutcome name settings (build name settings) := by
  have described := describedBy_foldl name settings
  have numbers : (settings.foldl Model.apply (blank name)).number = finalNumber settings :=
    funext described.number
  have searched : ∀ defect, (settings.foldl Model.apply (blank name)).defect? = some defect ↔
      FirstDefect (finalNumber settings) defect := by
    intro defect
    rw [defect?_eq_some_iff, numbers]
  unfold build
  dsimp only
  cases found : (settings.foldl Model.apply (blank name)).defect? with
  | none =>
      have valid : (settings.foldl Model.apply (blank name)).Valid := valid_iff.mpr found
      refine ⟨⟨fun _ => ?_, fun _ => ⟨_, rfl⟩⟩, ?_, fun refusal => ⟨nofun, ?_⟩⟩
      · rw [← numbers]
        exact ⟨valid.finite, valid.positive⟩
      · rintro model ⟨⟩
        exact described
      · rintro ⟨defect, first, -⟩
        rw [← searched, found] at first
        cases first
  | some defect =>
      have first := (searched defect).mp found
      refine ⟨⟨nofun, fun ⟨finite, positive⟩ => ?_⟩, nofun, fun refusal => ⟨?_, ?_⟩⟩
      · cases first with
        | notFinite which infinite => exact absurd (finite which) infinite
        | segmentsNotPositive _ notPositive => exact absurd positive notPositive
      · rintro ⟨⟩
        exact ⟨defect, first, rfl⟩
      · rintro ⟨other, alsoFirst, rfl⟩
        rw [← searched, found] at alsoFirst
        cases alsoFirst
        rfl

/-- **Only the values that were written last count.**  A model is built from them, or the first
thing that is wrong with them is reported, whatever was written before, and settings that write
to different slots can change places. -/
theorem build_outcome (name : String) (settings : List (Setting Float)) :
    BuildOutcome name settings (build name settings) ∧
      ∀ others, SameBySlot settings others → build name others = build name settings :=
  ⟨outcome_of_build name settings, fun _ same => (build_congr same name).symm⟩

/-- A shrinking factor below zero and an undefined heading are overwritten, and the rule for `F`
is replaced.  When a factor of zero is written last, it is not reported, for a coordinate is
infinite, and an undefined angle comes behind this coordinate. -/
theorem build_outcome_of_koch :
    let settings : List (Setting Float) :=
      [.segments (-3.0), .rule 'F' "FF".toList, .heading (0.0 / 0.0), .segments 3.0,
        .rule 'X' [], .rule 'F' "F-F++F-F".toList, .heading 60.0]
    let others : List (Setting Float) :=
      [.segments (-3.0), .rule 'F' "FF".toList, .heading (0.0 / 0.0), .segments 3.0,
        .rule 'F' "F-F++F-F".toList, .rule 'X' [], .heading 60.0]
    let spoilt : List (Setting Float) :=
      settings ++ [.angleStep (0.0 / 0.0), .segments 0.0, .position (1.0 / 0.0) 0.5]
    SameBySlot settings others ∧
      (∃ model, build "Koch" settings = .ok model ∧ build "Koch" others = .ok model ∧
        model.rules.find? 'F' = some "F-F++F-F".toList ∧ model.rules.find? 'G' = none ∧
        model.heading = 60.0 ∧ model.segments = 3.0 ∧ model.iterations = 4) ∧
      build "Koch" spoilt = .error ⟨"Koch", .notFinite .positionX⟩ := by
  intro settings others spoilt
  have same : SameBySlot settings others := sameBySlot_swap (by decide) (settings.take 4) _
  obtain ⟨outcome, reordered⟩ := build_outcome "Koch" settings
  obtain ⟨model, built⟩ :=
    outcome.success.mpr ⟨fun number => by cases number <;> decide, by decide⟩
  have described := outcome.described model built
  have first : FirstDefect (finalNumber spoilt) (.notFinite .positionX) :=
    .notFinite .positionX (by decide) fun other before => by
      cases other <;> first | decide | exact absurd before (by decide)
  refine ⟨same, ⟨model, built, (reordered others same).trans built, described.rules 'F',
    described.rules 'G', described.number .heading, described.number .segments,
    described.iterations⟩, ?_⟩
  exact ((build_outcome "Koch" spoilt).1.failure _).mpr ⟨_, first, rfl⟩

end Model

end LSystemExplorer
