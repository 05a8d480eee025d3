import LSystemExplorer.Proofs.Catalog.Faults

/-!
# What comes of loading a catalog

Loading is all or nothing.  If every record is acceptable, and there is one at all, the
catalog has one model for each record, in the same order and with the values of the record.
Otherwise there is no catalog, and the error depends on the first bad record only: the
records behind it are not looked at, and of its own faults the first is reported
(`FirstRefusal`).  These are all the ways in which loading can end (`LoadOutcome`), so an
error says as much about the records as a success does.

A catalog can be made in no other ways than those of `Catalog.Constructed`.  All of them
build each model, so it is valid.
-/

set_option autoImplicit false

namespace LSystemExplorer

/-! ## The first refusal -/

/-- The refusal is about the first bad record, and tells its first fault. -/
def FirstRefusal (records : List (Record Float)) (refusal : InvalidModel Float) : Prop :=
  ∃ earlier record later, records = earlier ++ record :: later ∧
    (∀ other ∈ earlier, other.Acceptable) ∧
    ∃ defect, record.FirstFault defect ∧ refusal = ⟨record.name, defect⟩

section Conversion

variable {records : List (Record Float)} {refusal : InvalidModel Float}

theorem Record.exists_toModel_iff {record : Record Float} :
    (∃ model, record.toModel = .ok model) ↔ record.Acceptable := by
  constructor
  · rintro ⟨model, converted⟩
    exact (Record.toModel_eq_ok_iff.mp converted).1
  · intro acceptable
    exact ⟨record.draft, Record.toModel_eq_ok_iff.mpr ⟨acceptable, rfl⟩⟩

/-- The conversion of all records fails with the first refusal. -/
theorem mapM_toModel_eq_error_iff :
    records.mapM Record.toModel = .error refusal ↔ FirstRefusal records refusal := by
  simp only [mapM_eq_error_iff, Record.exists_toModel_iff, Record.toModel_eq_error_iff]
  rfl

/-- Not all records are acceptable if one is refused. -/
theorem FirstRefusal.not_acceptable (refused : FirstRefusal records refusal) :
    ¬ ∀ record ∈ records, record.Acceptable := by
  obtain ⟨earlier, record, later, rfl, -, defect, first, -⟩ := refused
  intro acceptable
  exact (acceptable record (by simp)).not_fault first.fault

/-- A model that is made of a record has its values. -/
theorem Record.carried_of_toModel {record : Record Float} {model : Model Float}
    (converted : record.toModel = .ok model) : record.Carried model := by
  obtain ⟨acceptable, rfl⟩ := Record.toModel_eq_ok_iff.mp converted
  exact Record.carried_draft acceptable.passes.1

/-- The conversion of all records succeeds if all are acceptable. -/
theorem acceptable_of_mapM_toModel {models : List (Model Float)}
    (converted : records.mapM Record.toModel = .ok models) :
    ∀ record ∈ records, record.Acceptable := by
  have each := mapM_eq_ok_iff.mp converted
  clear converted
  induction each with
  | nil => exact nofun
  | cons first _ ih =>
      exact List.forall_mem_cons.mpr ⟨(Record.toModel_eq_ok_iff.mp first).1, ih⟩

end Conversion

namespace Catalog

/-! ## The outcome -/

/-- What comes of loading the records: it succeeds just if all are acceptable and there is
one, and it fails with just one error, which is about the first bad record. -/
structure LoadOutcome (records : List (Record Float))
    (loaded : Except (CatalogError Float) (Catalog Float)) : Prop where
  success : (∃ catalog, loaded = .ok catalog) ↔
    records ≠ [] ∧ ∀ record ∈ records, record.Acceptable
  carried : ∀ catalog, loaded = .ok catalog →
    List.Forall₂ Record.Carried records catalog.models
  failure : ∀ error, loaded = .error error ↔
    error = .empty ∧ records = [] ∨
      ∃ refusal, error = .invalid refusal ∧ FirstRefusal records refusal

/-- The ways in which a catalog can be made.  Models that it is made of directly were built. -/
inductive Constructed (catalog : Catalog Float) : Prop
  | models (models : List (Model Float))
      (built : ∀ model ∈ models, ∃ name settings, Model.build name settings = .ok model)
      (made : ofModels models = .ok catalog)
  | records (records : List (Record Float)) (loaded : ofRecords records = .ok catalog)
  | text (text : String) (loaded : ofText text = .ok catalog)
  | file (path : String) (content : Except FileFault ByteArray)
      (loaded : ofFile path content = .ok catalog)
  | builtin (loaded : builtin = .ok catalog)

theorem ofModels_cons {α : Type} (model : Model α) (models : List (Model α)) :
    ofModels (model :: models) = .ok ⟨model :: models, List.cons_ne_nil _ _⟩ := rfl

/-- Records that are converted to models lead to the catalog of these. -/
theorem outcome_of_converted {records : List (Record Float)} {models : List (Model Float)}
    (converted : records.mapM Record.toModel = .ok models) :
    LoadOutcome records (Catalog.ofModels models) := by
  have acceptable := acceptable_of_mapM_toModel converted
  have notRefused : ∀ refusal, ¬ FirstRefusal records refusal :=
    fun refusal refused => refused.not_acceptable acceptable
  have each := mapM_eq_ok_iff.mp converted
  cases each with
  | nil =>
      refine ⟨⟨nofun, fun holds => absurd rfl holds.1⟩, nofun, fun error => ⟨?_, ?_⟩⟩
      · rintro ⟨⟩
        exact .inl ⟨rfl, rfl⟩
      · rintro (⟨rfl, -⟩ | ⟨refusal, -, refused⟩)
        · rfl
        · exact absurd refused (notRefused refusal)
  | cons first others =>
      rw [ofModels_cons]
      refine ⟨⟨fun _ => ⟨List.cons_ne_nil _ _, acceptable⟩, fun _ => ⟨_, rfl⟩⟩, ?_,
        fun error => ⟨nofun, ?_⟩⟩
      · rintro catalog ⟨⟩
        exact List.Forall₂.imp (fun _ _ => Record.carried_of_toModel) (.cons first others)
      · rintro (⟨-, none⟩ | ⟨refusal, -, refused⟩)
        · cases none
        · exact absurd refused (notRefused refusal)

theorem outcome_of_refused {records : List (Record Float)} {refusal : InvalidModel Float}
    (refused : records.mapM Record.toModel = .error refusal) :
    LoadOutcome records (.error (.invalid refusal)) := by
  have first := mapM_toModel_eq_error_iff.mp refused
  refine ⟨⟨nofun, fun holds => absurd holds.2 first.not_acceptable⟩, nofun,
    fun error => ⟨?_, ?_⟩⟩
  · rintro ⟨⟩
    exact .inr ⟨refusal, rfl, first⟩
  · rintro (⟨-, rfl⟩ | ⟨another, rfl, alsoFirst⟩)
    · cases refused
    · rw [mapM_toModel_eq_error_iff.mpr alsoFirst] at refused
      cases refused
      rfl

theorem outcome_of_records (records : List (Record Float)) :
    LoadOutcome records (Catalog.ofRecords records) := by
  unfold Catalog.ofRecords
  cases converted : records.mapM Record.toModel with
  | error refusal => exact outcome_of_refused converted
  | ok models => exact outcome_of_converted converted

theorem ofText_of_listOfText {text : String} {records : List (Record Float)}
    (decoded : Record.listOfText text.toList = .ok records) :
    Catalog.ofText text = Catalog.ofRecords records := by
  unfold Catalog.ofText
  rw [decoded]

/-! ## Valid catalogs -/

theorem sound_of_ofFile {path : String} {content : Except FileFault ByteArray}
    {catalog : Catalog Float} (loaded : Catalog.ofFile path content = .ok catalog) :
    catalog.Sound := by
  unfold Catalog.ofFile at loaded
  split at loaded
  · cases loaded
  · split at loaded
    · cases loaded
    · exact sound_of_ofText loaded

/-- However a catalog was made, it is sound. -/
theorem Constructed.sound {catalog : Catalog Float} (constructed : catalog.Constructed) :
    catalog.Sound := by
  cases constructed with
  | models models built made =>
      intro model member
      rw [models_of_ofModels made] at member
      obtain ⟨name, settings, built⟩ := built model member
      exact Model.sound_of_build built
  | records records loaded => exact sound_of_ofRecords loaded
  | text text loaded => exact sound_of_ofText loaded
  | file path content loaded => exact sound_of_ofFile loaded
  | builtin loaded => exact sound_of_builtin loaded

/-- **Loading is all or nothing.**  It keeps the order and the values of the records, or
reports the first fault of the first bad record.  No catalog can be made that is empty or has
an invalid model. -/
theorem ofRecords_outcome (records : List (Record Float)) :
    LoadOutcome records (Catalog.ofRecords records) ∧
    (∀ text : String, Record.listOfText text.toList = .ok records →
      LoadOutcome records (Catalog.ofText text)) ∧
    ∀ catalog : Catalog Float, catalog.Constructed →
      catalog.models ≠ [] ∧ ∀ model ∈ catalog.models, model.Valid := by
  refine ⟨outcome_of_records records, fun text decoded => ?_, fun catalog constructed => ?_⟩
  · rw [ofText_of_listOfText decoded]
    exact outcome_of_records records
  · refine ⟨catalog.models_ne_nil, fun model member => ?_⟩
    exact Model.valid_iff.mpr (constructed.sound model member)

/-- Of three records the first makes a catalog when it is alone.  With the others there is
none, and of the faults of the second record its number of passes is the one that is
reported. -/
theorem ofRecords_outcome_of_three :
    let good : Record Float := ⟨"A", [], [], 4, ['F'], 90.0, (0.5, 1.0), 0, 2.0⟩
    let bad : Record Float := { good with name := "B", iterations := -1, segments := -2.0 }
    let worse : Record Float := { good with name := "C", iterations := 2 ^ 32 }
    let text := "- name: A\n  segments: 2\n- name: B\n  iterations: -1\n  segments: -2\n" ++
      "- name: C\n  iterations: 4294967296\n  segments: 2.0\n"
    Record.listOfText text.toList = .ok [good, bad, worse] ∧
      Catalog.ofText text = .error (.invalid ⟨"B", .iterationsOutOfRange (-1)⟩) ∧
      ∃ catalog, Catalog.ofRecords [good] = .ok catalog ∧ catalog.Constructed ∧
        ∀ model ∈ catalog.models, model.Valid := by
  intro good bad worse text
  have decoded : Record.listOfText text.toList = .ok [good, bad, worse] := by decide +kernel
  have acceptable : good.Acceptable :=
    ⟨by decide, fun number => by cases number <;> decide, by decide⟩
  have first : bad.FirstFault (.iterationsOutOfRange (-1)) :=
    ⟨.passes (by decide), fun _ _ => Nat.zero_le _⟩
  have refused : FirstRefusal [good, bad, worse] ⟨"B", .iterationsOutOfRange (-1)⟩ :=
    ⟨[good], bad, [worse], rfl, by simpa using acceptable, _, first, rfl⟩
  obtain ⟨-, ofText, -⟩ := ofRecords_outcome [good, bad, worse]
  obtain ⟨alone, -, valid⟩ := ofRecords_outcome [good]
  obtain ⟨catalog, loaded⟩ :=
    alone.success.mpr ⟨List.cons_ne_nil _ _, by simpa using acceptable⟩
  have constructed : catalog.Constructed := .records [good] loaded
  exact ⟨decoded, ((ofText text decoded).failure _).mpr (.inr ⟨_, rfl, refused⟩), catalog,
    loaded, constructed, (valid catalog constructed).2⟩

end Catalog

end LSystemExplorer
