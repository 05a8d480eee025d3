import LSystemExplorer.Catalog.Basic
import Mathlib.Data.List.Basic

/-!
# Looking models up

A place in a catalog is sure to hold a model when it is below the number of models
(`Catalog.get?_eq_some_model`).  A name stands for the first model that goes by it, up to
the case of the basic letters, and the search finds this model, and none only if no model
goes by the name (`Catalog.find?_eq_some_iff`, `Catalog.find?_eq_none_iff`).
-/

set_option autoImplicit false

namespace LSystemExplorer

namespace Catalog

variable {α : Type} {catalog : Catalog α} {name : String} {place : Nat} {model : Model α}

/-- No model but the one at the place is taken for it. -/
theorem get?_eq_some_model (within : place < catalog.size) :
    catalog.get? place = some (catalog.model place) := by
  have same : min place (catalog.size - 1) = place := by omega
  simp only [get?, Catalog.model, same]
  exact List.getElem?_eq_getElem within

/-- Past the end the last model is taken, for this place as for any other. -/
theorem model_min (catalog : Catalog α) (place : Nat) :
    catalog.model (min place (catalog.size - 1)) = catalog.model place := by
  simp only [Catalog.model, Nat.min_assoc, Nat.min_self]

theorem model_of_size_le (past : catalog.size ≤ place) :
    catalog.model place = catalog.models.getLast catalog.models_ne_nil := by
  have last : min place (catalog.size - 1) = catalog.size - 1 := by omega
  simp only [Catalog.model, last]
  exact (List.getLast_eq_getElem catalog.models_ne_nil).symm

theorem model_zero (catalog : Catalog α) :
    catalog.model 0 = catalog.models.head catalog.models_ne_nil := by
  simp only [Catalog.model, Nat.zero_min]
  exact (List.head_eq_getElem catalog.models_ne_nil).symm

/-- The model is at the place, goes by the name, and no model before it does. -/
structure IsFirst (catalog : Catalog α) (name : String) (place : Nat) (model : Model α) :
    Prop where
  here : catalog.get? place = some model
  named : sameName model.name name
  first : ∀ earlier < place, ∀ other, catalog.get? earlier = some other →
    ¬ sameName other.name name

theorem IsFirst.lt_size (isFirst : catalog.IsFirst name place model) : place < catalog.size :=
  (List.getElem?_eq_some_iff.mp isFirst.here).1

/-- **The search finds the first model that goes by the name.** -/
theorem find?_eq_some_iff :
    catalog.find? name = some (place, model) ↔ catalog.IsFirst name place model := by
  simp only [find?, Option.map_eq_some_iff, Prod.mk.injEq]
  constructor
  · rintro ⟨entry, found, rfl, rfl⟩
    obtain ⟨named, index, within, rfl, before⟩ := List.find?_eq_some_iff_getElem.mp found
    simp only [List.getElem_zipIdx, Nat.zero_add] at named before ⊢
    refine ⟨List.getElem?_eq_getElem _, named, ?_⟩
    intro earlier below other there goesBy
    obtain ⟨_, rfl⟩ := List.getElem?_eq_some_iff.mp there
    have skipped := before earlier below
    rw [goesBy] at skipped
    cases skipped
  · rintro ⟨here, named, first⟩
    obtain ⟨within, rfl⟩ := List.getElem?_eq_some_iff.mp here
    have numbered : place < catalog.models.zipIdx.length := by simpa using within
    refine ⟨(catalog.models[place], place), ?_, rfl, rfl⟩
    refine List.find?_eq_some_iff_getElem.mpr ⟨named, place, numbered, by simp, ?_⟩
    intro earlier below
    have there : catalog.get? earlier = some catalog.models[earlier] :=
      List.getElem?_eq_getElem (Nat.lt_trans below within)
    simpa using first earlier below _ there

/-- The search finds nothing only if there is nothing to find. -/
theorem find?_eq_none_iff :
    catalog.find? name = none ↔ ∀ model ∈ catalog.models, ¬ sameName model.name name := by
  simp only [find?, Option.map_eq_none_iff, List.find?_eq_none]
  constructor
  · intro skipped model member
    obtain ⟨index, within, rfl⟩ := List.getElem_of_mem member
    exact skipped (catalog.models[index], index)
      (List.mk_mem_zipIdx_iff_getElem?.mpr (List.getElem?_eq_getElem within))
  · intro none entry member
    exact none entry.1 (List.fst_mem_of_mem_zipIdx member)

/-- If a model goes by the name, then one is the first to do so. -/
theorem exists_isFirst (named : ∃ model ∈ catalog.models, sameName model.name name) :
    ∃ place model, catalog.IsFirst name place model := by
  cases found : catalog.find? name with
  | none =>
      obtain ⟨model, member, goesBy⟩ := named
      exact absurd goesBy (find?_eq_none_iff.mp found model member)
  | some entry => exact ⟨entry.1, entry.2, find?_eq_some_iff.mp found⟩

end Catalog

end LSystemExplorer
