import LSystemExplorer.Catalog.Load
import LSystemExplorer.Number.Binary64
import Mathlib.Data.List.Forall2

/-!
# Catalogs of sound models

A model is sound if nothing is wrong with it: its numbers are finite, and the factor by
which its segments shrink is positive.  Models come out of `Model.build`, which lets no
other model pass, and so every catalog that was loaded, from records, from a text or from
the program itself, holds sound models only (`Catalog.sound_of_ofRecords`,
`Catalog.sound_of_ofText`, `Catalog.sound_of_builtin`).
-/

set_option autoImplicit false

namespace LSystemExplorer

/-! ## Lists that are converted -/

section Conversion

variable {α β ε : Type} {convert : α → Except ε β}

/-- The first item is converted, and then the others are. -/
theorem mapM_cons_eq_ok_iff {item : α} {later : List α} {results : List β} :
    (item :: later).mapM convert = .ok results ↔
      ∃ result, convert item = .ok result ∧
        ∃ others, later.mapM convert = .ok others ∧ results = result :: others := by
  rw [List.mapM_cons]
  cases convert item with
  | error fault => exact ⟨nofun, nofun⟩
  | ok result =>
      cases later.mapM convert with
      | error fault => exact ⟨nofun, nofun⟩
      | ok others =>
          constructor
          · rintro ⟨⟩
            exact ⟨result, rfl, others, rfl, rfl⟩
          · rintro ⟨_, ⟨⟩, _, ⟨⟩, rfl⟩
            rfl

/-- A list is converted item by item. -/
theorem mapM_eq_ok_iff {items : List α} {results : List β} :
    items.mapM convert = .ok results ↔
      List.Forall₂ (fun item result => convert item = .ok result) items results := by
  induction items generalizing results with
  | nil =>
      constructor
      · rintro ⟨⟩
        exact .nil
      · rintro ⟨⟩
        rfl
  | cons item later ih =>
      simp only [mapM_cons_eq_ok_iff, List.forall₂_cons_left_iff, ih]
      constructor
      · rintro ⟨result, first, others, rest, rfl⟩
        exact ⟨result, others, first, rest, rfl⟩
      · rintro ⟨result, others, first, rest, rfl⟩
        exact ⟨result, first, others, rest, rfl⟩

/-- The first item is refused, or it is converted and the others are refused. -/
theorem mapM_cons_eq_error_iff {item : α} {later : List α} {fault : ε} :
    (item :: later).mapM convert = .error fault ↔
      convert item = .error fault ∨
        ∃ result, convert item = .ok result ∧ later.mapM convert = .error fault := by
  rw [List.mapM_cons]
  cases convert item with
  | error problem =>
      constructor
      · rintro ⟨⟩
        exact .inl rfl
      · rintro (⟨⟨⟩⟩ | ⟨_, ⟨⟩, _⟩)
        rfl
  | ok result =>
      cases later.mapM convert with
      | error problem =>
          constructor
          · rintro ⟨⟩
            exact .inr ⟨result, rfl, rfl⟩
          · rintro (⟨⟨⟩⟩ | ⟨_, _, ⟨⟩⟩)
            rfl
      | ok others => exact ⟨nofun, by rintro (⟨⟨⟩⟩ | ⟨_, _, ⟨⟩⟩)⟩

/-- A list is refused for the first item that is refused. -/
theorem mapM_eq_error_iff {items : List α} {fault : ε} :
    items.mapM convert = .error fault ↔
      ∃ earlier item later, items = earlier ++ item :: later ∧
        (∀ other ∈ earlier, ∃ result, convert other = .ok result) ∧
        convert item = .error fault := by
  induction items with
  | nil =>
      constructor
      · rintro ⟨⟩
      · rintro ⟨earlier, item, later, split, -, -⟩
        cases earlier <;> cases split
  | cons first rest ih =>
      rw [mapM_cons_eq_error_iff, ih]
      constructor
      · rintro (refused | ⟨result, ok, earlier, item, later, rfl, passed, refused⟩)
        · exact ⟨[], first, rest, rfl, nofun, refused⟩
        · exact ⟨first :: earlier, item, later, rfl,
            List.forall_mem_cons.mpr ⟨⟨result, ok⟩, passed⟩, refused⟩
      · rintro ⟨_ | ⟨other, others⟩, item, later, ⟨⟩, passed, refused⟩
        · exact .inl refused
        · obtain ⟨⟨result, ok⟩, passed⟩ := List.forall_mem_cons.mp passed
          exact .inr ⟨result, ok, others, item, later, rfl, passed, refused⟩

end Conversion

/-- A catalog holds the models it is made of. -/
theorem Catalog.models_of_ofModels {α : Type} {models : List (Model α)} {catalog : Catalog α}
    (made : Catalog.ofModels models = .ok catalog) : catalog.models = models := by
  unfold Catalog.ofModels Catalog.ofModels? at made
  split at made
  · rename_i found
    split at found
    · cases made
      cases found
      rfl
    · cases found
  · cases made

variable {α : Type} [Scalar α]

/-! ## Sound models -/

/-- Nothing is wrong with the model. -/
def Model.Sound (model : Model α) : Prop :=
  model.defect? = none

instance (model : Model α) : Decidable model.Sound :=
  decidable_of_iff (model.defect?.isNone = true) Option.isNone_iff_eq_none

/-- What is built is sound. -/
theorem Model.sound_of_build {name : String} {settings : List (Setting α)} {model : Model α}
    (built : Model.build name settings = .ok model) : model.Sound := by
  unfold Model.build at built
  dsimp only at built
  split at built
  · cases built
  · rename_i nothing
    cases built
    exact nothing

namespace Model.Sound

variable {model : Model α}

/-- The numbers of a sound model are finite. -/
theorem isFinite (sound : model.Sound) {entry : ModelNumber × α}
    (member : entry ∈ model.numbers) : Scalar.isFinite entry.2 := by
  have noneInfinite : (model.numbers.find? fun entry => !Scalar.isFinite entry.2) = none := by
    unfold Model.Sound defect? at sound
    split at sound
    · cases sound
    · assumption
  have finite := List.find?_eq_none.mp noneInfinite entry member
  simpa using finite

theorem isFinite_angleStep (sound : model.Sound) : Scalar.isFinite model.angleStep := by
  have member : (ModelNumber.angleStep, model.angleStep) ∈ model.numbers := by
    simp [numbers]
  exact sound.isFinite member

end Model.Sound

/-- What a record leads to is sound. -/
theorem Record.sound_of_toModel {record : Record α} {model : Model α}
    (converted : record.toModel = .ok model) : model.Sound := by
  unfold Record.toModel at converted
  split at converted
  · exact Model.sound_of_build converted
  · cases converted

/-! ## Sound catalogs -/

namespace Catalog

/-- All models of the catalog are sound. -/
def Sound (catalog : Catalog α) : Prop :=
  ∀ model ∈ catalog.models, model.Sound

instance (catalog : Catalog α) : Decidable catalog.Sound :=
  inferInstanceAs (Decidable (∀ model ∈ catalog.models, _))

/-- **A catalog that is made of records is sound.** -/
theorem sound_of_ofRecords {records : List (Record α)} {catalog : Catalog α}
    (loaded : ofRecords records = .ok catalog) : catalog.Sound := by
  unfold ofRecords at loaded
  split at loaded
  · cases loaded
  · rename_i models converted
    intro model member
    rw [models_of_ofModels loaded] at member
    obtain ⟨place, within, rfl⟩ := List.getElem_of_mem member
    have all := mapM_eq_ok_iff.mp converted
    exact Record.sound_of_toModel (all.get (all.length_eq ▸ within) within)

theorem sound_of_builtin {catalog : Catalog α} (loaded : builtin = .ok catalog) :
    catalog.Sound :=
  sound_of_ofRecords loaded

theorem sound_of_ofText {text : String} {catalog : Catalog Float}
    (loaded : ofText text = .ok catalog) : catalog.Sound := by
  unfold ofText at loaded
  split at loaded
  · cases loaded
  · exact sound_of_ofRecords loaded

end Catalog

end LSystemExplorer
