import LSystemExplorer.Proofs.Catalog.Soundness
import LSystemExplorer.Proofs.Grammar.Entries
import LSystemExplorer.Proofs.Number.Order

/-!
# What is wrong with a record

A record may have several faults at once: the number of passes is out of range, some of its
numbers are infinite or undefined, its shrinking factor is not positive.  `Record.Fault`
lists them without an order, and `Defect.rank` puts them in order.

The conversion of a record looks for faults in two places and stops at the first it finds.
What it reports is the fault of the lowest rank (`Record.FirstFault`), and it succeeds only
if there is none (`Record.Acceptable`); nothing else can happen (`Record.toModel_cases`).
On success the model carries the values of the record (`Record.Carried`): it is the one that
the settings of the record lead to, of which those for rules are added one after the other,
so that the last rule for a symbol counts.
-/

set_option autoImplicit false

namespace LSystemExplorer

/-! ## Numbers and their order -/

namespace ModelNumber

/-- The place of a number among those that are examined. -/
def rank : ModelNumber → Nat
  | .segments => 1
  | .heading => 2
  | .positionX => 3
  | .positionY => 4
  | .angleStep => 5

/-- All numbers, in the order of their ranks. -/
def all : List ModelNumber :=
  [.segments, .heading, .positionX, .positionY, .angleStep]

theorem mem_all (number : ModelNumber) : number ∈ all := by
  cases number <;> decide

theorem rank_pos (number : ModelNumber) : 0 < number.rank := by
  cases number <;> decide

theorem rank_lt_six (number : ModelNumber) : number.rank < 6 := by
  cases number <;> decide

theorem eq_of_rank_eq {number other : ModelNumber} (same : number.rank = other.rank) :
    number = other := by
  cases number <;> cases other <;> revert same <;> decide

/-- A search finds the number of the lowest rank. -/
theorem rank_le_of_find? {property : ModelNumber → Bool} {number other : ModelNumber}
    (found : all.find? property = some number) (holds : property other) :
    number.rank ≤ other.rank := by
  have ordered : all.Pairwise fun earlier later => earlier.rank ≤ later.rank := by decide
  obtain ⟨-, earlier, later, split, passed⟩ := List.find?_eq_some_iff_append.mp found
  have listed := mem_all other
  rw [split] at listed ordered
  rcases List.mem_append.mp listed with before | after
  · have skipped := passed other before
    rw [holds] at skipped
    cases skipped
  · rcases List.mem_cons.mp after with rfl | behind
    · exact Nat.le_refl _
    · have above := (List.pairwise_cons.mp (List.pairwise_append.mp ordered).2.1).1
      exact above other behind

end ModelNumber

section Values

variable {α : Type}

/-- A number of the model, by its kind. -/
def Model.number (model : Model α) : ModelNumber → α
  | .segments => model.segments
  | .heading => model.heading
  | .positionX => model.position.x
  | .positionY => model.position.y
  | .angleStep => model.angleStep

/-- The number of the record that this number of the model is taken from. -/
def Record.number (record : Record α) : ModelNumber → α
  | .segments => record.segments
  | .heading => record.initialAngle
  | .positionX => record.initialPosition.1
  | .positionY => record.initialPosition.2
  | .angleStep => record.angleStep

/-- The model has the values of the record.  Of several rules for a symbol the last counts. -/
structure Record.Carried (record : Record α) (model : Model α) : Prop where
  name : model.name = record.name
  rules : ∀ symbol, model.rules.find? symbol = record.mapping.reverse.lookup symbol
  finalRules : ∀ symbol, model.finalRules.find? symbol = record.finalMapping.reverse.lookup symbol
  passes : (model.iterations : Int) = record.iterations
  seed : model.seed = record.initialValue
  number : ∀ number, model.number number = record.number number

/-- The model that a record describes, whatever is wrong with it. -/
def Record.draft (record : Record α) : Model α where
  name := record.name
  rules := .ofList record.mapping
  finalRules := .ofList record.finalMapping
  iterations := record.iterations.toNat
  seed := record.initialValue
  heading := record.initialAngle
  position := ⟨record.initialPosition.1, record.initialPosition.2⟩
  angleStep := record.angleStep
  segments := record.segments

theorem Record.number_draft (record : Record α) (number : ModelNumber) :
    record.draft.number number = record.number number := by
  cases number <;> rfl

theorem Record.carried_draft {record : Record α} (nonnegative : 0 ≤ record.iterations) :
    record.Carried record.draft where
  name := rfl
  rules := Rules.find?_ofList record.mapping
  finalRules := Rules.find?_ofList record.finalMapping
  passes := Int.toNat_of_nonneg nonnegative
  seed := rfl
  number := record.number_draft

/-- The settings for rules add the rules one after the other. -/
theorem Model.foldl_rules (model : Model α) (rules : List (Symbol × Word)) :
    (Record.ruleSettings rules .rule).foldl Model.apply model =
      { model with
        rules := rules.foldl (fun earlier rule => earlier.insert rule.1 rule.2) model.rules } := by
  induction rules generalizing model with
  | nil => rfl
  | cons rule later ih => exact ih (model.apply (.rule rule.1 rule.2))

theorem Model.foldl_finalRules (model : Model α) (rules : List (Symbol × Word)) :
    (Record.ruleSettings rules .finalRule).foldl Model.apply model =
      { model with
        finalRules :=
          rules.foldl (fun earlier rule => earlier.insert rule.1 rule.2) model.finalRules } := by
  induction rules generalizing model with
  | nil => rfl
  | cons rule later ih => exact ih (model.apply (.finalRule rule.1 rule.2))

/-- The settings of a record lead to the model that it describes: they leave nothing of the
defaults. -/
theorem Record.foldl_settings [Scalar α] (record : Record α) :
    record.settings.foldl Model.apply (Model.blank record.name) = record.draft := by
  rw [Record.settings, List.foldl_append, List.foldl_append, Model.foldl_rules,
    Model.foldl_finalRules]
  rfl

end Values

/-! ## Faults of a model -/

/-- All numbers of the model are finite, and its shrinking factor is positive. -/
structure Model.Valid (model : Model Float) : Prop where
  finite : ∀ number, (model.number number).isFinite
  positive : 0 < model.segments

/-- A defined double is positive unless it is at most zero. -/
theorem pos_iff_not_le {number : Float} (defined : ¬ number.isNaN) :
    0 < number ↔ ¬ number ≤ 0 :=
  ⟨fun above below => not_lt_of_le below above,
    fun notBelow => Classical.byContradiction fun notAbove =>
      notBelow (le_of_not_lt (by decide) defined notAbove)⟩

/-- The numbers are searched by rank. -/
theorem Model.defect?_eq (model : Model Float) :
    model.defect? =
      match ModelNumber.all.find? fun number => !(model.number number).isFinite with
      | some number => some (.notFinite number)
      | none =>
        if model.segments ≤ 0 then some (.segmentsNotPositive model.segments) else none := by
  have numbers : model.numbers =
      ModelNumber.all.map fun number => (number, model.number number) := rfl
  have searched : (model.numbers.find? fun entry => !Scalar.isFinite entry.2) =
      (ModelNumber.all.find? fun number => !(model.number number).isFinite).map
        fun number => (number, model.number number) := by
    rw [numbers, List.find?_map]
    rfl
  unfold Model.defect?
  rw [searched]
  cases ModelNumber.all.find? fun number => !(model.number number).isFinite with
  | some number => rfl
  | none => rfl

/-- **What a model is examined for, and what is found.** -/
theorem Model.defect?_cases (model : Model Float) :
    (model.Valid ∧ model.defect? = none) ∨
      (∃ number, ¬ (model.number number).isFinite ∧
        (∀ other, ¬ (model.number other).isFinite → number.rank ≤ other.rank) ∧
        model.defect? = some (.notFinite number)) ∨
      ((∀ number, (model.number number).isFinite) ∧ ¬ 0 < model.segments ∧
        model.defect? = some (.segmentsNotPositive model.segments)) := by
  rw [Model.defect?_eq]
  cases found : ModelNumber.all.find? fun number => !(model.number number).isFinite with
  | some number =>
      refine Or.inr (Or.inl ⟨number, ?_, ?_, rfl⟩)
      · have infinite := List.find?_some found
        simpa using infinite
      · intro other infinite
        refine ModelNumber.rank_le_of_find? found ?_
        simpa using infinite
  | none =>
      have finite : ∀ number, (model.number number).isFinite := by
        intro number
        have skipped := List.find?_eq_none.mp found number number.mem_all
        simpa using skipped
      have sign := pos_iff_not_le (not_isNaN_of_isFinite (finite .segments))
      dsimp only
      split
      · rename_i notPositive
        exact Or.inr (Or.inr ⟨finite, fun positive => sign.mp positive notPositive, rfl⟩)
      · rename_i positive
        exact Or.inl ⟨⟨finite, sign.mpr positive⟩, rfl⟩

/-- The sound models are the valid ones. -/
theorem Model.valid_iff {model : Model Float} : model.Valid ↔ model.Sound := by
  unfold Model.Sound
  constructor
  · intro valid
    rcases model.defect?_cases with ⟨-, nothing⟩ | ⟨number, infinite, -, -⟩ | ⟨-, notPositive, -⟩
    · exact nothing
    · exact absurd (valid.finite number) infinite
    · exact absurd valid.positive notPositive
  · intro nothing
    rcases model.defect?_cases with ⟨valid, -⟩ | ⟨number, -, -, defect⟩ | ⟨-, -, defect⟩
    · exact valid
    · rw [nothing] at defect
      cases defect
    · rw [nothing] at defect
      cases defect

/-! ## Faults of a record -/

/-- How soon a fault is reported. -/
def Defect.rank {α : Type} : Defect α → Nat
  | .iterationsOutOfRange _ => 0
  | .notFinite number => number.rank
  | .segmentsNotPositive _ => 6

namespace Record

/-- Something is wrong with the record; there may be other faults. -/
inductive Fault (record : Record Float) : Defect Float → Prop
  | passes (outside : ¬ (0 ≤ record.iterations ∧ record.iterations < 2 ^ 32)) :
      Fault record (.iterationsOutOfRange record.iterations)
  | number (number : ModelNumber) (infinite : ¬ (record.number number).isFinite) :
      Fault record (.notFinite number)
  | segments (notPositive : ¬ 0 < record.segments) :
      Fault record (.segmentsNotPositive record.segments)

/-- The fault of a record that is reported. -/
structure FirstFault (record : Record Float) (defect : Defect Float) : Prop where
  fault : record.Fault defect
  first : ∀ other, record.Fault other → defect.rank ≤ other.rank

/-- Nothing is wrong with the record. -/
structure Acceptable (record : Record Float) : Prop where
  passes : 0 ≤ record.iterations ∧ record.iterations < 2 ^ 32
  finite : ∀ number, (record.number number).isFinite
  positive : 0 < record.segments

variable {record : Record Float} {model : Model Float} {defect other : Defect Float}

theorem Acceptable.not_fault (acceptable : record.Acceptable) : ¬ record.Fault defect := by
  intro fault
  cases fault with
  | passes outside => exact outside acceptable.passes
  | number number infinite => exact infinite (acceptable.finite number)
  | segments notPositive => exact notPositive acceptable.positive

/-- Different faults have different ranks. -/
theorem Fault.eq_of_rank_eq (fault : record.Fault defect) (another : record.Fault other)
    (same : defect.rank = other.rank) : defect = other := by
  cases fault with
  | passes =>
      cases another with
      | passes => rfl
      | number number => exact absurd same number.rank_pos.ne
      | segments => cases same
  | number number =>
      cases another with
      | passes => exact absurd same number.rank_pos.ne'
      | number another => rw [ModelNumber.eq_of_rank_eq same]
      | segments => exact absurd same number.rank_lt_six.ne
  | segments =>
      cases another with
      | passes => cases same
      | number number => exact absurd same number.rank_lt_six.ne'
      | segments => rfl

/-- Only one fault is reported. -/
theorem FirstFault.unique (first : record.FirstFault defect) (second : record.FirstFault other) :
    defect = other :=
  first.fault.eq_of_rank_eq second.fault
    (Nat.le_antisymm (first.first other second.fault) (second.first defect first.fault))

/-- **A record is converted, or its first fault is reported.** -/
theorem toModel_cases (record : Record Float) :
    (record.Acceptable ∧ record.toModel = .ok record.draft) ∨
      ∃ defect, record.FirstFault defect ∧ record.toModel = .error ⟨record.name, defect⟩ := by
  have limit : passLimit = 2 ^ 32 := rfl
  by_cases inRange : 0 ≤ record.iterations ∧ record.iterations < 2 ^ 32
  · have built : record.toModel = Model.build record.name record.settings := by
      rw [toModel, limit, if_pos inRange]
    rw [built, Model.build, foldl_settings]
    rcases record.draft.defect?_cases with
      ⟨valid, nothing⟩ | ⟨number, infinite, least, defect⟩ | ⟨finite, notPositive, defect⟩
    · refine Or.inl ⟨⟨inRange, fun number => ?_, valid.positive⟩, ?_⟩
      · rw [← record.number_draft]
        exact valid.finite number
      · rw [nothing]
    · refine Or.inr ⟨.notFinite number, ⟨.number number ?_, fun other fault => ?_⟩, ?_⟩
      · rw [← record.number_draft]
        exact infinite
      · cases fault with
        | passes outside => exact absurd inRange outside
        | number other infinite' =>
            rw [← record.number_draft] at infinite'
            exact least other infinite'
        | segments => exact number.rank_lt_six.le
      · rw [defect]
    · refine Or.inr ⟨.segmentsNotPositive record.segments, ⟨.segments notPositive, ?_⟩, ?_⟩
      · intro other fault
        cases fault with
        | passes outside => exact absurd inRange outside
        | number number infinite =>
            rw [← record.number_draft] at infinite
            exact absurd (finite number) infinite
        | segments => exact Nat.le_refl _
      · rw [defect]
        rfl
  · refine Or.inr ⟨_, ⟨.passes inRange, fun _ _ => Nat.zero_le _⟩, ?_⟩
    rw [toModel, limit, if_neg inRange]

theorem toModel_eq_ok_iff :
    record.toModel = .ok model ↔ record.Acceptable ∧ model = record.draft := by
  rcases record.toModel_cases with ⟨acceptable, converted⟩ | ⟨defect, first, refused⟩
  · rw [converted]
    constructor
    · rintro ⟨⟩
      exact ⟨acceptable, rfl⟩
    · rintro ⟨-, rfl⟩
      rfl
  · rw [refused]
    constructor
    · rintro ⟨⟩
    · rintro ⟨acceptable, -⟩
      exact absurd first.fault acceptable.not_fault

theorem toModel_eq_error_iff {refusal : InvalidModel Float} :
    record.toModel = .error refusal ↔
      ∃ defect, record.FirstFault defect ∧ refusal = ⟨record.name, defect⟩ := by
  rcases record.toModel_cases with ⟨acceptable, converted⟩ | ⟨defect, first, refused⟩
  · rw [converted]
    constructor
    · rintro ⟨⟩
    · rintro ⟨defect, first, -⟩
      exact absurd first.fault acceptable.not_fault
  · rw [refused]
    constructor
    · rintro ⟨⟩
      exact ⟨defect, first, rfl⟩
    · rintro ⟨other, second, rfl⟩
      rw [first.unique second]

end Record

end LSystemExplorer
