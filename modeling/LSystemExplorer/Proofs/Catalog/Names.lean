import LSystemExplorer.Proofs.Catalog.Lookup
import Mathlib.Data.List.Forall2
import Mathlib.Data.String.Basic
import Mathlib.Order.Bounds.Basic

/-!
# Names up to the case of basic letters

Names are compared letter by letter, with capitals made small.  Only the twenty-six basic letters
have another case here, and so the comparison can also be told from the octets of the two names: it
succeeds when these are the same, except that in some places the one name may have a basic letter
large and the other small (`sameName_iff_spelledAlike`).  The octets of all other letters lie beyond
those of the basic ones (`le_toNat_of_mem_utf8EncodeChar`), so they have to match exactly.

The search for a name finds the least place whose model is spelled alike.  It follows that it does
not matter how the letters of the name are cased, and that the name of a model leads back to the
model unless an earlier one is spelled alike (`Catalog.lookup_spelled_alike`).
-/

set_option autoImplicit false

namespace LSystemExplorer

/-! ## Octets -/

/-- The octet is a basic letter written large. -/
def IsCapital (octet : UInt8) : Prop :=
  65 ≤ octet ∧ octet ≤ 90

instance (octet : UInt8) : Decidable (IsCapital octet) :=
  inferInstanceAs (Decidable (_ ∧ _))

/-- The octets are the same, or they are one basic letter, once large and once small. -/
def SameLetter (left right : UInt8) : Prop :=
  left = right ∨ IsCapital left ∧ right = left + 32 ∨ IsCapital right ∧ left = right + 32

instance (left right : UInt8) : Decidable (SameLetter left right) :=
  inferInstanceAs (Decidable (_ ∨ _))

/-- The octets of a text. -/
def octets (text : String) : List UInt8 :=
  text.toUTF8.data.toList

/-- The octets of the texts are the same up to the case of basic letters. -/
def SpelledAlike (left right : String) : Prop :=
  List.Forall₂ SameLetter (octets left) (octets right)

instance (left right : String) : Decidable (SpelledAlike left right) :=
  inferInstanceAs (Decidable (List.Forall₂ _ _ _))

/-- The octet of the small letter. -/
def lowered (octet : UInt8) : UInt8 :=
  if IsCapital octet then octet + 32 else octet

theorem isCapital_iff {octet : UInt8} :
    IsCapital octet ↔ 65 ≤ octet.toNat ∧ octet.toNat ≤ 90 := by
  rw [IsCapital, UInt8.le_iff_toNat_le, UInt8.le_iff_toNat_le]
  rfl

theorem IsCapital.toNat_add {octet : UInt8} (capital : IsCapital octet) :
    (octet + 32).toNat = octet.toNat + 32 := by
  have bound := (isCapital_iff.mp capital).2
  have step : (32 : UInt8).toNat = 32 := rfl
  rw [UInt8.toNat_add, step]
  omega

/-- A small letter is no capital, so two octets that become the same differ in case at most. -/
theorem sameLetter_iff {left right : UInt8} :
    SameLetter left right ↔ lowered left = lowered right := by
  have largeLeft : IsCapital left → _ := IsCapital.toNat_add
  have largeRight : IsCapital right → _ := IsCapital.toNat_add
  unfold SameLetter lowered
  simp only [isCapital_iff] at *
  simp only [← UInt8.toNat_inj]
  split <;> split <;> omega

/-! ## Letters -/

/-- What holds of the first hundred and twenty-eight characters can be checked one by one. -/
theorem forall_letters (property : Char → Prop) (ascii : ∀ code < 128, property (Char.ofNat code))
    (further : ∀ letter : Char, 128 ≤ letter.toNat → property letter) (letter : Char) :
    property letter := by
  rcases Nat.lt_or_ge letter.toNat 128 with small | large
  · rw [← Char.ofNat_toNat letter]
    exact ascii letter.toNat small
  · exact further letter large

theorem toLower_of_le {letter : Char} (further : 128 ≤ letter.toNat) : letter.toLower = letter := by
  refine dif_neg ?_
  rintro ⟨-, small⟩
  have bound : letter.toNat ≤ 90 := small
  omega

theorem toUpper_of_le {letter : Char} (further : 128 ≤ letter.toNat) : letter.toUpper = letter := by
  refine dif_neg ?_
  rintro ⟨-, small⟩
  have bound : letter.toNat ≤ 122 := small
  omega

theorem toLower_toLower : ∀ letter : Char, letter.toLower.toLower = letter.toLower := by
  refine forall_letters _ (by decide +kernel) fun letter further => ?_
  rw [toLower_of_le further, toLower_of_le further]

theorem toLower_toUpper : ∀ letter : Char, letter.toUpper.toLower = letter.toLower := by
  refine forall_letters _ (by decide +kernel) fun letter further => ?_
  rw [toUpper_of_le further]

/-- A letter that is not basic is written without the octets of the basic ones. -/
theorem le_toNat_of_mem_utf8EncodeChar {letter : Char} (further : 128 ≤ letter.toNat)
    {octet : UInt8} (member : octet ∈ String.utf8EncodeChar letter) : 128 ≤ octet.toNat := by
  have beyond : 128 ≤ letter.val.toNat := further
  dsimp only [String.utf8EncodeChar] at member
  split_ifs at member with one two three
  · omega
  all_goals
    simp only [List.mem_cons, List.not_mem_nil, or_false] at member
    rcases member with rfl | rfl | rfl | rfl
    all_goals
      rw [UInt8.toNat_ofNat']
      omega

/-- **To make a letter small is to make its octets small.** -/
theorem map_lowered_utf8EncodeChar : ∀ letter : Char,
    (String.utf8EncodeChar letter).map lowered = String.utf8EncodeChar letter.toLower := by
  refine forall_letters _ (by decide +kernel) fun letter further => ?_
  have kept : ∀ octet ∈ String.utf8EncodeChar letter, lowered octet = octet := by
    intro octet member
    have large := le_toNat_of_mem_utf8EncodeChar further member
    have other : ¬ IsCapital octet := by
      rw [isCapital_iff]
      omega
    exact if_neg other
  rw [toLower_of_le further, List.map_congr_left kept, List.map_id']

/-! ## Texts -/

theorem octets_eq (text : String) : octets text = text.toList.flatMap String.utf8EncodeChar := by
  rw [octets, String.toUTF8_eq_toByteArray, ← String.utf8Encode_toList, List.utf8Encode,
    List.toList_data_toByteArray]

theorem flatMap_utf8EncodeChar_inj {left right : List Char} :
    left.flatMap String.utf8EncodeChar = right.flatMap String.utf8EncodeChar ↔ left = right := by
  constructor
  · intro same
    rw [← String.ofList_inj, ← String.toByteArray_inj, String.toByteArray_ofList,
      String.toByteArray_ofList, List.utf8Encode, List.utf8Encode, same]
  · rintro rfl
    rfl

theorem map_lowered_octets (text : String) :
    (octets text).map lowered =
      (text.toList.map Char.toLower).flatMap String.utf8EncodeChar := by
  rw [octets_eq, List.map_flatMap, List.flatMap_map]
  simp only [map_lowered_utf8EncodeChar]

/-- **The names are the same when their octets are, up to the case of basic letters.** -/
theorem sameName_iff_spelledAlike {left right : String} :
    sameName left right ↔ SpelledAlike left right := by
  have alike : SpelledAlike left right ↔
      (octets left).map lowered = (octets right).map lowered := by
    have letter : SameLetter = fun left right => lowered left = lowered right := by
      funext left right
      exact propext sameLetter_iff
    rw [SpelledAlike, letter, ← List.forall₂_eq_eq_eq, List.forall₂_map_left_iff,
      List.forall₂_map_right_iff]
  rw [alike, map_lowered_octets, map_lowered_octets, flatMap_utf8EncodeChar_inj, sameName,
    beq_iff_eq]

/-- Some letters of the name are made large or small. -/
def Recased (name other : String) : Prop :=
  List.Forall₂ (fun old new => new = old ∨ new = old.toUpper ∨ new = old.toLower)
    name.toList other.toList

instance (name other : String) : Decidable (Recased name other) :=
  inferInstanceAs (Decidable (List.Forall₂ _ _ _))

theorem Recased.map_toLower {name other : String} (recased : Recased name other) :
    other.toList.map Char.toLower = name.toList.map Char.toLower := by
  rw [← List.forall₂_eq_eq_eq, List.forall₂_map_left_iff, List.forall₂_map_right_iff]
  refine recased.flip.imp ?_
  rintro new old (rfl | rfl | rfl)
  · rfl
  · exact toLower_toUpper old
  · exact toLower_toLower old

/-- A name cannot be told from another with the letters cased in another way. -/
theorem Recased.sameName_eq {name other : String} (recased : Recased name other) (left : String) :
    sameName left other = sameName left name := by
  rw [sameName, sameName, recased.map_toLower]

/-! ## The search -/

namespace Catalog

variable {α : Type}

/-- The model at the place is spelled like the name. -/
def GoesBy (catalog : Catalog α) (name : String) (place : Nat) : Prop :=
  ∃ model, catalog.get? place = some model ∧ SpelledAlike model.name name

variable {catalog : Catalog α} {name : String} {place : Nat} {model : Model α}

theorem isFirst_iff_isLeast :
    catalog.IsFirst name place model ↔
      IsLeast { place | catalog.GoesBy name place } place ∧ catalog.get? place = some model := by
  constructor
  · rintro ⟨here, named, first⟩
    refine ⟨⟨⟨model, here, sameName_iff_spelledAlike.mp named⟩, ?_⟩, here⟩
    rintro other ⟨found, there, alike⟩
    by_contra earlier
    exact first other (Nat.lt_of_not_le earlier) found there (sameName_iff_spelledAlike.mpr alike)
  · rintro ⟨⟨⟨found, there, alike⟩, least⟩, here⟩
    obtain rfl : found = model := Option.some.inj (there.symm.trans here)
    refine ⟨here, sameName_iff_spelledAlike.mpr alike, ?_⟩
    intro earlier below other found goesBy
    have after := least ⟨other, found, sameName_iff_spelledAlike.mp goesBy⟩
    omega

theorem find?_eq_none_iff_goesBy :
    catalog.find? name = none ↔ ∀ place, ¬ catalog.GoesBy name place := by
  rw [find?_eq_none_iff]
  constructor
  · rintro none place ⟨model, here, alike⟩
    exact none model (List.mem_of_getElem? here) (sameName_iff_spelledAlike.mpr alike)
  · intro none model member named
    obtain ⟨place, here⟩ := List.getElem?_of_mem member
    exact none place ⟨model, here, sameName_iff_spelledAlike.mp named⟩

theorem find?_of_recased {other : String} (recased : Recased name other) :
    catalog.find? other = catalog.find? name := by
  simp only [find?, recased.sameName_eq]

/-- The name of a model leads back to the model, unless it leads to an earlier one. -/
theorem find?_name_iff (here : catalog.get? place = some model) :
    (catalog.find? model.name).map Prod.fst = some place ↔
      ∀ earlier < place, ¬ catalog.GoesBy model.name earlier := by
  constructor
  · intro found earlier below goesBy
    obtain ⟨⟨_, found⟩, leads, rfl⟩ := Option.map_eq_some_iff.mp found
    have least := (isFirst_iff_isLeast.mp (find?_eq_some_iff.mp leads)).1.2 goesBy
    omega
  · intro first
    have itself : catalog.GoesBy model.name place :=
      ⟨model, here, sameName_iff_spelledAlike.mp (beq_self_eq_true _)⟩
    have least : IsLeast { place | catalog.GoesBy model.name place } place := by
      refine ⟨itself, ?_⟩
      intro other goesBy
      by_contra earlier
      exact first other (Nat.lt_of_not_le earlier) goesBy
    rw [find?_eq_some_iff.mpr (isFirst_iff_isLeast.mpr ⟨least, here⟩)]
    rfl

/-- **A name leads to the least place whose model is spelled like it, and to none if there is no
such place.**  So it does not matter how the letters are cased, and the name of a model leads back
to the place of the model if and only if no earlier model is spelled alike. -/
theorem lookup_spelled_alike (catalog : Catalog α) (name : String) :
    (∀ place model, catalog.find? name = some (place, model) ↔
      IsLeast { place | catalog.GoesBy name place } place ∧ catalog.get? place = some model) ∧
    (catalog.find? name = none ↔ ∀ place, ¬ catalog.GoesBy name place) ∧
    (∀ other, Recased name other → catalog.find? other = catalog.find? name) ∧
    ∀ place model, catalog.get? place = some model →
      ((catalog.find? model.name).map Prod.fst = some place ↔
        ∀ earlier < place, ¬ catalog.GoesBy model.name earlier) :=
  ⟨fun _ _ => find?_eq_some_iff.trans isFirst_iff_isLeast, find?_eq_none_iff_goesBy,
    fun _ => find?_of_recased, fun _ _ => find?_name_iff⟩

/-- Three models differ in case alone, but the accented letter of the second is another letter.  So
the name of the third leads to the first, and that of the second to the second. -/
theorem lookup_spelled_alike_of_accented :
    let first : Model Float := Model.blank "Élan"
    let second : Model Float := Model.blank "élan"
    let third : Model Float := Model.blank "ÉLAN"
    let catalog : Catalog Float := ⟨[first, second, third], List.cons_ne_nil _ _⟩
    IsLeast { place | catalog.GoesBy "éLAN" place } 1 ∧
      (Recased "éLAN" "élAn" ∧ catalog.find? "élAn" = some (1, second)) ∧
      catalog.find? "elan" = none ∧ (∀ place, ¬ catalog.GoesBy "elan" place) ∧
      (catalog.find? second.name).map Prod.fst = some 1 ∧
      (∀ earlier < 1, ¬ catalog.GoesBy second.name earlier) ∧
      catalog.GoesBy third.name 0 ∧ (catalog.find? third.name).map Prod.fst ≠ some 2 := by
  intro first second third catalog
  have found : catalog.find? "éLAN" = some (1, second) := by decide +kernel
  have none : catalog.find? "elan" = none := by decide +kernel
  have back : (catalog.find? second.name).map Prod.fst = some 1 := by decide +kernel
  have alike : SpelledAlike first.name third.name := by decide +kernel
  have recased : Recased "éLAN" "élAn" := by decide +kernel
  obtain ⟨leads, leadsNowhere, cased, leadsBack⟩ := lookup_spelled_alike catalog "éLAN"
  have before : catalog.GoesBy third.name 0 := ⟨first, rfl, alike⟩
  refine ⟨((leads 1 second).mp found).1, ⟨recased, (cased _ recased).trans found⟩, none,
    (lookup_spelled_alike catalog "elan").2.1.mp none, back, (leadsBack 1 second rfl).mp back,
    before, ?_⟩
  intro itself
  exact (leadsBack 2 third rfl).mp itself 0 (by decide) before

end Catalog

end LSystemExplorer
